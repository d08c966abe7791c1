import Waker.SmolStack

namespace Waker

/-!
# The engine of the private network stack

The engine owns the interface and the socket set and executes one command at a
time.  Loops take fuel; a function returns `none` when the fuel runs out or the
source panics, and otherwise the result together with the state it leaves.
-/

/-- The size of a TCP receive buffer. -/
def TCP_RX_BUFFER : Nat :=
  32 * 1024

/-- The size of a TCP transmit buffer. -/
def TCP_TX_BUFFER : Nat :=
  16 * 1024

/-- The pause between two polls. -/
def pollPause : Duration :=
  Duration.fromMillis 5

variable [Smoltcp]

/-- The engine without its device, whose queues belong to the world. -/
structure SmolEngine (Tcp Icmp : Type) where
  iface : Interface
  sockets : SocketSet (Socket Tcp Icmp)
  nextPort : UInt16

/-- The engine in its world. -/
structure EngineState (World Tcp Icmp : Type) where
  engine : SmolEngine Tcp Icmp
  world : World

/-- A command sent to the engine. -/
inductive NetCommand where
  | http (target : SocketAddrV4) (request : List UInt8) (timeout : Duration)
  | probe (target : SocketAddrV4) (timeout : Duration)
  | ping (target : Ipv4Addr) (timeout : Duration)
  deriving Repr, DecidableEq

/-- The answer to a command. -/
inductive NetResponse where
  | http (result : Except NetError (List UInt8))
  | probe (result : Except NetError Bool)
  | ping (result : Except NetError Bool)

namespace SmolEngine

/-- The engine for an interface address. -/
def new
    {Tcp Icmp : Type}
    (address : Ipv4Network) : Except EnginePanic (SmolEngine Tcp Icmp) :=
  match Smoltcp.ipCidr address.ip address.netPrefix with
  | .error panic => .error panic
  | .ok cidr =>
      match Smoltcp.pushIpAddr Smoltcp.interface cidr with
      | .error panic => .error panic
      | .ok iface =>
          match Smoltcp.addDefaultIpv4Route iface ⟨0, 0, 0, 1⟩ with
          | .error panic => .error panic
          | .ok iface =>
              .ok {
                iface := iface
                sockets := SlotMaps.empty
                nextPort := 49152
              }

end SmolEngine

namespace EngineState

variable {World Tcp Icmp : Type}

/-- Poll the interface. -/
def poll
    (stack : SmolStack World Tcp Icmp)
    (state : EngineState World Tcp Icmp) : EngineState World Tcp Icmp :=
  let polled :=
    stack.poll state.engine.iface state.world state.engine.sockets
  { state with
    engine := { state.engine with sockets := polled.2 }
    world := polled.1 }

/-- Pause before the next poll. -/
def sleep
    (stack : SmolStack World Tcp Icmp)
    (state : EngineState World Tcp Icmp) : EngineState World Tcp Icmp :=
  { state with world := stack.sleep pollPause state.world }

/-- Write back a socket that was borrowed from the set. -/
def put
    (state : EngineState World Tcp Icmp)
    (handle : Nat)
    (socket : Socket Tcp Icmp) : EngineState World Tcp Icmp :=
  { state with
    engine := { state.engine with
      sockets := SlotMaps.put state.engine.sockets handle socket } }

/-- Remove a socket from the set. -/
def remove
    (state : EngineState World Tcp Icmp)
    (handle : Nat) : EngineState World Tcp Icmp :=
  { state with
    engine := { state.engine with
      sockets := SlotMaps.remove state.engine.sockets handle } }

end EngineState

section Commands

variable {World Tcp Icmp : Type}
variable (stack : SmolStack World Tcp Icmp)

/-- The port after the current one, wrapping to the first ephemeral port. -/
def advancePort (port : UInt16) : UInt16 :=
  if port = 65535 then 49152 else port + 1

/-- Open a TCP socket towards the target. -/
def openSocket
    (target : SocketAddrV4)
    (state : EngineState World Tcp Icmp) :
    Except NetError Nat × EngineState World Tcp Icmp :=
  let socket := stack.tcpNew TCP_RX_BUFFER TCP_TX_BUFFER
  let added := SlotMaps.add state.engine.sockets (.tcp socket)
  let localPort := state.engine.nextPort
  let opened : EngineState World Tcp Icmp :=
    { state with
      engine := { state.engine with
        sockets := added.2
        nextPort := advancePort localPort } }
  let connected :=
    stack.connect state.engine.iface state.world socket target localPort
  match connected.2 with
  | .error error =>
      (.error (.network ("TCP connect setup failed: " ++ error)),
        { opened with world := connected.1 }.remove added.1)
  | .ok socket =>
      (.ok added.1,
        { opened with world := connected.1 }.put added.1 (.tcp socket))

/-- Hand the request over once the connection can send. -/
def sendRequest
    (request : List UInt8)
    (sent : Bool)
    (socket : Tcp) : Except NetError Bool × Tcp :=
  if !sent && stack.maySend socket then
    match stack.sendSlice socket request with
    | .error error =>
        (.error (.network ("TCP send failed: " ++ error)), socket)
    | .ok (count, socket) =>
        if count ≠ request.length then
          (.error (.network
            "HTTP request did not fit in the smoltcp transmit buffer"),
            socket)
        else
          (.ok true, stack.close socket)
  else
    (.ok sent, socket)

/-- Append everything that can be received to the response. -/
def receiveAll :
    Nat → List UInt8 → Tcp → Option (Except NetError (List UInt8) × Tcp)
  | 0, _, _ => none
  | fuel + 1, response, socket =>
      if stack.canRecv socket then
        match stack.recv socket with
        | .error error =>
            some (.error (.network ("TCP receive failed: " ++ error)), socket)
        | .ok (bytes, socket) => receiveAll fuel (response ++ bytes) socket
      else
        some (.ok response, socket)

/-- The loop of an HTTP exchange. -/
def httpLoop
    (handle : Nat)
    (target : SocketAddrV4)
    (request : List UInt8)
    (deadline : Instant) :
    Nat → Bool → List UInt8 → EngineState World Tcp Icmp →
    Option (Except NetError (List UInt8) × EngineState World Tcp Icmp)
  | 0, _, _, _ => none
  | fuel + 1, sent, response, state =>
      let polled := state.poll stack
      match polled.engine.sockets.getTcp? handle with
      | none => none
      | some socket =>
          let failed := stack.state socket = .closed && !sent
          match sendRequest stack request sent socket with
          | (.error error, socket) =>
              some (.error error, polled.put handle (.tcp socket))
          | (.ok sent, socket) =>
              match receiveAll stack fuel response socket with
              | none => none
              | some (.error error, socket) =>
                  some (.error error, polled.put handle (.tcp socket))
              | some (.ok response, socket) =>
                  let complete := sent && !stack.mayRecv socket
                  let after := polled.put handle (.tcp socket)
                  if failed then
                    some (.error (.network
                      ("TCP connection to " ++ target.display ++
                        " failed")), after.remove handle)
                  else if complete then
                    some (.ok response, after.remove handle)
                  else if deadline ≤ stack.now after.world then
                    some (.error .timeout, after.remove handle)
                  else
                    httpLoop handle target request deadline fuel sent
                      response (after.sleep stack)

/-- One HTTP exchange over a new connection. -/
def http
    (fuel : Nat)
    (target : SocketAddrV4)
    (request : List UInt8)
    (timeout : Duration)
    (state : EngineState World Tcp Icmp) :
    Option (Except NetError (List UInt8) × EngineState World Tcp Icmp) :=
  match openSocket stack target state with
  | (.error error, state) => some (.error error, state)
  | (.ok handle, state) =>
      httpLoop stack handle target request
        (stack.now state.world + timeout) fuel false [] state

/-- The loop of a TCP probe. -/
def connectLoop
    (handle : Nat)
    (deadline : Instant) :
    Nat → EngineState World Tcp Icmp →
    Option (Except NetError Bool × EngineState World Tcp Icmp)
  | 0, _ => none
  | fuel + 1, state =>
      let polled := state.poll stack
      match polled.engine.sockets.getTcp? handle with
      | none => none
      | some socket =>
          if stack.state socket = .established then
            let aborted :=
              (polled.put handle (.tcp (stack.abort socket))).poll stack
            some (.ok true, aborted.remove handle)
          else if stack.state socket = .closed then
            some (.ok false, polled.remove handle)
          else if deadline ≤ stack.now polled.world then
            some (.ok false, polled.remove handle)
          else
            connectLoop handle deadline fuel (polled.sleep stack)

/-- Probe whether the target accepts a TCP connection. -/
def probe
    (fuel : Nat)
    (target : SocketAddrV4)
    (timeout : Duration)
    (state : EngineState World Tcp Icmp) :
    Option (Except NetError Bool × EngineState World Tcp Icmp) :=
  match openSocket stack target state with
  | (.error error, state) => some (.error error, state)
  | (.ok handle, state) =>
      connectLoop stack handle (stack.now state.world + timeout) fuel state

/-- The identifier of the engine's echo requests. -/
def ICMP_IDENT : UInt16 :=
  0x574b

/-- The sequence number of the engine's echo requests. -/
def ICMP_SEQUENCE : UInt16 :=
  1

/-- The payload of the engine's echo requests. -/
def ICMP_PAYLOAD : List UInt8 :=
  [119, 97, 107, 101, 114]

/-- Whether a received packet answers the echo request. -/
def isEchoReply
    (target : Ipv4Addr)
    (bytes : List UInt8)
    (source : IpAddress) : Bool :=
  if stack.icmpNewChecked bytes then
    match stack.icmpParse bytes with
    | some (.echoReply ident seqNo _) =>
        source = .ipv4 target && ident = ICMP_IDENT &&
          seqNo = ICMP_SEQUENCE
    | _ => false
  else
    false

/-- Take buffered packets until one answers the echo request. -/
def receiveReply
    (target : Ipv4Addr) :
    Nat → Icmp → Option (Except NetError Bool × Icmp)
  | 0, _ => none
  | fuel + 1, socket =>
      if stack.icmpCanRecv socket then
        match stack.icmpRecv socket with
        | .error error =>
            some (.error (.network ("ICMP receive failed: " ++ error)),
              socket)
        | .ok ((bytes, source), socket) =>
            if isEchoReply stack target bytes source then
              some (.ok true, socket)
            else
              receiveReply target fuel socket
      else
        some (.ok false, socket)

/-- The loop of an ICMP ping. -/
def pingLoop
    (handle : Nat)
    (target : Ipv4Addr)
    (deadline : Instant) :
    Nat → EngineState World Tcp Icmp →
    Option (Except NetError Bool × EngineState World Tcp Icmp)
  | 0, _ => none
  | fuel + 1, state =>
      let polled := state.poll stack
      match polled.engine.sockets.getIcmp? handle with
      | none => none
      | some socket =>
          match receiveReply stack target fuel socket with
          | none => none
          | some (.error error, socket) =>
              some (.error error, polled.put handle (.icmp socket))
          | some (.ok true, socket) =>
              some (.ok true,
                (polled.put handle (.icmp socket)).remove handle)
          | some (.ok false, socket) =>
              let after := polled.put handle (.icmp socket)
              if deadline ≤ stack.now after.world then
                some (.ok false, after.remove handle)
              else
                pingLoop handle target deadline fuel (after.sleep stack)

/-- Ping the target. -/
def ping
    (fuel : Nat)
    (target : Ipv4Addr)
    (timeout : Duration)
    (state : EngineState World Tcp Icmp) :
    Option (Except NetError Bool × EngineState World Tcp Icmp) :=
  match stack.icmpBind (stack.icmpNew 1 64 1 64) ICMP_IDENT with
  | .error error =>
      some (.error (.network ("ICMP bind failed: " ++ error)), state)
  | .ok socket =>
      let bytes :=
        stack.icmpEmit (.echoRequest ICMP_IDENT ICMP_SEQUENCE ICMP_PAYLOAD)
      match stack.icmpSend socket bytes (.ipv4 target) with
      | .error error =>
          some (.error (.network ("ICMP send failed: " ++ error)), state)
      | .ok socket =>
          let added := SlotMaps.add state.engine.sockets (.icmp socket)
          let opened : EngineState World Tcp Icmp :=
            { state with
              engine := { state.engine with sockets := added.2 } }
          pingLoop stack added.1 target
            (stack.now opened.world + timeout) fuel opened

/-- Execute one command. -/
def execute
    (fuel : Nat)
    (command : NetCommand)
    (state : EngineState World Tcp Icmp) :
    Option (NetResponse × EngineState World Tcp Icmp) :=
  match command with
  | .http target request timeout =>
      (http stack fuel target request timeout state).map
        fun (result, state) => (.http result, state)
  | .probe target timeout =>
      (probe stack fuel target timeout state).map
        fun (result, state) => (.probe result, state)
  | .ping target timeout =>
      (ping stack fuel target timeout state).map
        fun (result, state) => (.ping result, state)

/-- Execute commands in order, keeping each response and the state after it. -/
def run
    (fuel : Nat) :
    List NetCommand → EngineState World Tcp Icmp →
    Option (List (NetResponse × EngineState World Tcp Icmp))
  | [], _ => some []
  | command :: rest, state =>
      match execute stack fuel command state with
      | none => none
      | some (response, after) =>
          (run fuel rest after).map ((response, after) :: ·)

end Commands

end Waker
