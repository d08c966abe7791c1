import Waker.FritzHosts
import Waker.GuardedLog
import Waker.RunWake

namespace Waker

/-!
# The backend that owns a tunnel

`WakerWireGuardBackend` over an arbitrary network.  Every tunnel client has an
identity of its own, and the log records what is done with each of them:
`shutDown` when it is shut down, `dropped` when its owner lets it go.  A tunnel
whose start panics ends the attempt without a return.
-/

/-- A tunnel client by its identity. -/
structure TunnelClient where
  identity : Nat
  deriving Repr, DecidableEq

/-- A resolved endpoint. -/
structure SocketAddr where
  ip : IpAddress
  port : UInt16
  deriving Repr, DecidableEq

/-- What the network answers, and how its state changes. -/
structure Network (Env : Type) where
  resolveEndpoint :
    List Char → Env → Except NetError SocketAddr × Env
  buildDevice :
    WireGuardProfile → SocketAddr → Env → Except String Unit × Env
  probe :
    TunnelClient → SocketAddrV4 → Duration → Env →
      Except NetError Bool × Env
  http :
    TunnelClient → SocketAddrV4 → List UInt8 → Duration → Env →
      Except NetError (List UInt8) × Env
  ping :
    TunnelClient → Ipv4Addr → Duration → Env →
      Except NetError Bool × Env
  shutdown : TunnelClient → Env → Env

/-- What is done with a tunnel client, or attempted without one. -/
inductive TunnelEvent where
  | created (tunnel : TunnelClient)
  | probed
      (tunnel : TunnelClient)
      (target : SocketAddrV4)
      (reachable : Except NetError Bool)
  | hostsAction (tunnel : TunnelClient) (action : List Char)
  | pinged (tunnel : TunnelClient) (target : Ipv4Addr)
  | missing
  | shutDown (tunnel : TunnelClient)
  | dropped (tunnel : TunnelClient)

/-- The backend of a wake attempt. -/
structure WakerWireGuardBackend where
  profile : WireGuardProfile
  fritzAddress : SocketAddrV4
  tunnel : Option TunnelClient

/-- A backend without a tunnel. -/
def WakerWireGuardBackend.new
    (profile : WireGuardProfile)
    (fritzIp : Ipv4Addr) : WakerWireGuardBackend where
  profile := profile
  fritzAddress := ⟨fritzIp, 49000⟩
  tunnel := none

/-- A backend, the tunnels of its run, and the network around it. -/
structure TunnelWorld (Env : Type) where
  backend : WakerWireGuardBackend
  nextIdentity : Nat
  log : List TunnelEvent
  env : Env

/-- A network error as a backend error. -/
def toBackendError (error : NetError) : WakeBackendError :=
  ⟨error.display⟩

namespace TunnelWorld

variable {Env : Type}

/-- The world in which a run begins. -/
def initial
    (backend : WakerWireGuardBackend)
    (env : Env) : TunnelWorld Env where
  backend := backend
  nextIdentity :=
    match backend.tunnel with
    | none => 0
    | some tunnel => tunnel.identity + 1
  log := []
  env := env

/-- Log an event. -/
def record
    (event : TunnelEvent)
    (world : TunnelWorld Env) : TunnelWorld Env :=
  { world with log := world.log ++ [event] }

/-- Give the backend a tunnel, or take it. -/
def setTunnel
    (tunnel : Option TunnelClient)
    (world : TunnelWorld Env) : TunnelWorld Env :=
  { world with backend := { world.backend with tunnel := tunnel } }

/-- The state of the network after an answer. -/
def withEnv
    (env : Env)
    (world : TunnelWorld Env) : TunnelWorld Env :=
  { world with env := env }

end TunnelWorld

namespace TunnelClient

variable {Env : Type}

/-- Resolve the endpoint, build the device, and start a tunnel. -/
def connect
    (network : Network Env)
    (profile : WireGuardProfile)
    (world : TunnelWorld Env) :
    Except NetError TunnelClient × TunnelWorld Env :=
  let (resolved, env) := network.resolveEndpoint profile.endpoint world.env
  match resolved with
  | .error error => (.error error, world.withEnv env)
  | .ok endpoint =>
      let (built, env) := network.buildDevice profile endpoint env
      match built with
      | .error error => (.error (.wireGuard error), world.withEnv env)
      | .ok () =>
          let tunnel : TunnelClient := ⟨world.nextIdentity⟩
          let world :=
            { world.withEnv env with nextIdentity := world.nextIdentity + 1 }
          (.ok tunnel, world.record (.created tunnel))

/-- Attempt a TCP connection through the tunnel. -/
def probe
    (network : Network Env)
    (tunnel : TunnelClient)
    (target : SocketAddrV4)
    (timeout : Duration)
    (world : TunnelWorld Env) :
    Except NetError Bool × TunnelWorld Env :=
  let (reachable, env) := network.probe tunnel target timeout world.env
  (reachable, (world.withEnv env).record (.probed tunnel target reachable))

/-- Shut a tunnel down. -/
def shutdown
    (network : Network Env)
    (tunnel : TunnelClient)
    (world : TunnelWorld Env) : TunnelWorld Env :=
  (world.withEnv (network.shutdown tunnel world.env)).record
    (.shutDown tunnel)

end TunnelClient

namespace WakerWireGuardBackend

section

variable {Env : Type}
variable (network : Network Env)
variable (debug : List Char → String)

/-- The error of a backend without a tunnel. -/
def notConnected : WakeBackendError :=
  ⟨"WireGuard tunnel is not connected"⟩

/-- Connect a tunnel and keep it if the FRITZ!Box is reachable through it. -/
def connect
    (world : TunnelWorld Env) :
    Except WakeBackendError Unit × TunnelWorld Env :=
  let (connected, world) :=
    TunnelClient.connect network world.backend.profile world
  match connected with
  | .error error => (.error (toBackendError error), world)
  | .ok tunnel =>
      let fritzAddress := world.backend.fritzAddress
      let (reachable, world) :=
        tunnel.probe network fritzAddress (Duration.fromSecs 8) world
      match reachable with
      | .error error =>
          (.error (toBackendError error), world.record (.dropped tunnel))
      | .ok false =>
          (.error
            ⟨"FRITZ!Box " ++ fritzAddress.display ++
              " was not reachable through WireGuard"⟩,
            tunnel.shutdown network world)
      | .ok true =>
          let released :=
            match world.backend.tunnel with
            | none => world
            | some replaced => world.record (.dropped replaced)
          (.ok (), released.setTunnel (some tunnel))

/-- Ask the Hosts service for an action and check the status of its answer. -/
def hostsAction
    (action arguments : List Char)
    (world : TunnelWorld Env) :
    Except WakeBackendError (UInt16 × List UInt8) × TunnelWorld Env :=
  let fritzAddress := world.backend.fritzAddress
  let request := fritzHostsRequest fritzAddress.ip action arguments
  match world.backend.tunnel with
  | none => (.error notConnected, world.record .missing)
  | some tunnel =>
      let (answered, env) :=
        network.http tunnel fritzAddress request (Duration.fromSecs 8)
          world.env
      let world := (world.withEnv env).record (.hostsAction tunnel action)
      match answered with
      | .error error => (.error (toBackendError error), world)
      | .ok response =>
          match httpStatus response with
          | .error error => (.error (toBackendError error), world)
          | .ok status =>
              if 200 ≤ status ∧ status < 300 then
                (.ok (status, response), world)
              else
                (.error
                  ⟨"FRITZ!Box Hosts action " ++ String.ofList action ++
                    " returned HTTP " ++ toString status⟩, world)

/-- Look the target host up. -/
def hostEntry
    (mac : MacAddress)
    (world : TunnelWorld Env) :
    Except WakeBackendError (List UInt8) × TunnelWorld Env :=
  let (answered, world) :=
    hostsAction network HostsAction.getSpecificHostEntry.name
      (macArguments mac) world
  (answered.map Prod.snd, world)

/-- Resolve the target host through the Hosts service. -/
def hostIpv4
    (mac : MacAddress)
    (world : TunnelWorld Env) :
    Except WakeBackendError Ipv4Addr × TunnelWorld Env :=
  let (answered, world) := hostEntry network mac world
  (answered.bind fun response =>
    (fritzHostIp debug response).mapError toBackendError, world)

/-- Send one ICMP echo through the tunnel. -/
def pingIpv4
    (target : Ipv4Addr)
    (timeout : Duration)
    (world : TunnelWorld Env) :
    Except WakeBackendError Bool × TunnelWorld Env :=
  match world.backend.tunnel with
  | none => (.error notConnected, world.record .missing)
  | some tunnel =>
      let (reachable, env) := network.ping tunnel target timeout world.env
      (reachable.mapError toBackendError,
        (world.withEnv env).record (.pinged tunnel target))

/-- Ask the Hosts service to wake the target host. -/
def sendWake
    (mac : MacAddress)
    (world : TunnelWorld Env) :
    Except WakeBackendError Unit × TunnelWorld Env :=
  let (answered, world) :=
    hostsAction network HostsAction.wakeOnLan.name (macArguments mac) world
  (answered.map fun _ => (), world)

/-- Shut the tunnel down, if there is one. -/
def disconnect (world : TunnelWorld Env) : TunnelWorld Env :=
  match world.backend.tunnel with
  | none => world
  | some tunnel => tunnel.shutdown network (world.setTunnel none)

/-- The backend as a wake attempt uses it. -/
def wakeBackend : WakeBackend (TunnelWorld Env) where
  connect := connect network
  resolveTargetIpv4 := hostIpv4 network debug
  sendWake := sendWake network
  probe := fun address =>
    pingIpv4 network address (Duration.fromMillis 750)
  disconnect := disconnect network

end

end WakerWireGuardBackend

/-- A clock that is part of the network's environment. -/
def TunnelWorld.clock
    {Env : Type}
    (clock : Clock Env) : Clock (TunnelWorld Env) where
  now := fun world =>
    let (reading, env) := clock.now world.env
    (reading, world.withEnv env)
  sleep := fun duration world =>
    world.withEnv (clock.sleep duration world.env)

end Waker
