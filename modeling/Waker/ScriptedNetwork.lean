import Waker.EchoReplies
import Waker.HttpExchange

namespace Waker

/-!
# A network that follows a script

Each poll brings the next batch of a script and records it.  The connections
and the echo sockets of this network are the documented ones, so that its runs
show which answers the engine really gives.
-/

/-- What one poll brings. -/
structure NetworkBatch where
  segments : List TcpEvent
  packets : List IcmpPacket
  deriving Repr, DecidableEq

/-- The script of a network, its record and its clock. -/
structure ScriptedWorld where
  clock : Instant
  coming : List NetworkBatch
  past : List NetworkBatch
  deriving Repr, DecidableEq

namespace Scripted

/-- The sum of the 16-bit words of a message. -/
def wordSum : List UInt8 → Nat
  | high :: low :: rest => high.toNat * 256 + low.toNat + wordSum rest
  | [high] => high.toNat * 256
  | [] => 0

/-- The high and the low byte of a number of 16 bits. -/
def bigEndian (word : Nat) : List UInt8 :=
  [UInt8.ofNat (word / 256), UInt8.ofNat (word % 256)]

/-- The bytes of an echo message with its checksum. -/
def echoBytes
    (kind : UInt8)
    (ident seqNo : UInt16)
    (data : List UInt8) : List UInt8 :=
  let body := bigEndian ident.toNat ++ bigEndian seqNo.toNat ++ data
  let sum := wordSum (kind :: 0 :: body)
  kind :: 0 :: (bigEndian (65535 - sum % 65535) ++ body)

/-- The bytes of a message. -/
def emit : Icmpv4Repr → List UInt8
  | .echoRequest ident seqNo data => echoBytes 8 ident seqNo data
  | .echoReply ident seqNo data => echoBytes 0 ident seqNo data
  | .other => []

/-- A 16-bit number in network order. -/
def fromBigEndian (high low : UInt8) : UInt16 :=
  UInt16.ofNat (high.toNat * 256 + low.toNat)

/-- Read a message whose checksum is right. -/
def parse (bytes : List UInt8) : Option Icmpv4Repr :=
  match bytes with
  | kind :: code :: _ :: _ :: identHigh :: identLow :: seqHigh :: seqLow ::
      data =>
      let ident := fromBigEndian identHigh identLow
      let seqNo := fromBigEndian seqHigh seqLow
      if wordSum bytes % 65535 ≠ 0 then
        none
      else if kind = 0 && code = 0 then
        some (.echoReply ident seqNo data)
      else if kind = 8 && code = 0 then
        some (.echoRequest ident seqNo data)
      else
        some .other
  | _ => none

/-- A packet that has been accepted, with its message. -/
structure HeldPacket where
  source : IpAddress
  bytes : List UInt8
  message : Icmpv4Repr
  checked : 8 ≤ bytes.length
  parsed : parse bytes = some message

/-- An ICMP socket with one slot. -/
structure EchoSlot where
  ident : Option UInt16
  packet : Option HeldPacket

/-- The batch of the next poll. -/
def next (world : ScriptedWorld) : NetworkBatch :=
  world.coming.headD ⟨[], []⟩

/-- What a socket bound to an identifier takes from a packet. -/
def take? (ident : UInt16) (packet : IcmpPacket) : Option HeldPacket :=
  if checked : 8 ≤ packet.bytes.length then
    match parsed : parse packet.bytes with
    | some message =>
        if message.ident? = some ident &&
            message.bufferLen ≤ ICMP_RX_BUFFER then
          some ⟨packet.source, packet.bytes, message, checked, parsed⟩
        else
          none
    | none => none
  else
    none

/-- What a batch does to the slot of an ICMP socket. -/
def fill (batch : NetworkBatch) (slot : EchoSlot) : EchoSlot :=
  match slot.ident, slot.packet with
  | some ident, none =>
      { slot with packet := batch.packets.findSome? (take? ident) }
  | _, _ => slot

/-- What a batch does to a socket. -/
def deliver
    (batch : NetworkBatch) :
    Socket Connection EchoSlot → Socket Connection EchoSlot
  | .tcp connection => .tcp (connection.receiveAll batch.segments)
  | .icmp slot => .icmp (fill batch slot)

/-- The network. -/
def stack : SmolStack ScriptedWorld Connection EchoSlot where
  now world := world.clock
  sleep pause world := { world with clock := world.clock + pause }
  poll _ world sockets :=
    ({ world with
        coming := world.coming.tail
        past := world.past ++ [next world] },
      sockets.map (Option.map (deliver (next world))))
  tcpNew _ _ := .opening
  connect _ world connection _ _ := (world, .ok connection)
  state connection := connection.state
  maySend connection := connection.state.sends
  mayRecv connection :=
    connection.state.receives || !connection.buffered.isEmpty
  canRecv connection := !connection.buffered.isEmpty
  txFree connection := TCP_TX_BUFFER - connection.written.length
  sendSlice connection data :=
    let count := min data.length (TCP_TX_BUFFER - connection.written.length)
    .ok (count,
      { connection with written := connection.written ++ data.take count })
  recv connection := .ok (connection.buffered, connection.drain)
  close connection := { connection with state := connection.state.close }
  abort connection := { connection with state := .closed }
  icmpNew _ _ _ _ := ⟨none, none⟩
  icmpBind slot ident := .ok { slot with ident := some ident }
  icmpSend slot _ destination :=
    if destination = .ipv4 ⟨0, 0, 0, 0⟩ then
      .error "unaddressable destination"
    else
      .ok slot
  icmpCanRecv slot := slot.packet.isSome
  icmpRecv slot :=
    match slot.packet with
    | some packet =>
        .ok ((packet.bytes, packet.source), { slot with packet := none })
    | none => .error "exhausted"
  icmpEmit := emit
  icmpNewChecked bytes := 8 ≤ bytes.length
  icmpParse := parse

/-- A poll delivers the batch to the socket at every handle. -/
theorem get?_poll
    (iface : Interface)
    (world : ScriptedWorld)
    (sockets : SocketSet (Socket Connection EchoSlot))
    (handle : Nat) :
    SlotMaps.get? (stack.poll iface world sockets).2 handle =
      (SlotMaps.get? sockets handle).map (deliver (next world)) :=
  SlotTable.get?_map sockets (deliver (next world)) handle

/-- Time passes on this network. -/
theorem timePasses : stack.TimePasses where
  poll _ _ _ := Nat.le_refl _
  sleep _ _ := Nat.le_refl _

/-- The segments that the next poll brings. -/
def segments (world : ScriptedWorld) (_ : Nat) : List TcpEvent :=
  (next world).segments

/-- The segments that the polls have brought. -/
def segmentRecord (world : ScriptedWorld) (_ : Nat) : List (List TcpEvent) :=
  world.past.map NetworkBatch.segments

/-- The TCP sockets of this network are connections. -/
theorem followsTcp :
    stack.FollowsTcp Connection.buffered Connection.written segments
      segmentRecord where
  connect _ _ _ _ _ _ _ connected := by
    cases connected
    exact ⟨rfl, rfl, rfl⟩
  poll iface world sockets handle socket connection present sameState
      sameBuffer := by
    refine ⟨socket.receiveAll (segments world handle), ?_, ?_, ?_, ?_⟩
    · rw [SocketSet.getTcp?, get?_poll,
        EngineState.getTcp?_eq_some_iff.mp present]
      rfl
    · exact (Connection.receiveAll_congr sameState sameBuffer _).1
    · exact (Connection.receiveAll_congr sameState sameBuffer _).2
    · exact Connection.written_receiveAll _ _
  record_poll _ world _ _ := by
    simp [stack, segmentRecord, segments]
  record_sleep _ _ _ := rfl
  maySend _ := rfl
  mayRecv _ := rfl
  canRecv _ := rfl
  sendSlice _ _ _ _ sent := by
    cases sent
    exact ⟨rfl, rfl, rfl⟩
  recv connection held :=
    ⟨connection.buffered, connection.drain, rfl, held,
      (List.append_nil _).symm, rfl, rfl⟩
  close _ := ⟨rfl, rfl, rfl⟩

/-- The message and the source of the packet in a slot. -/
def held (slot : EchoSlot) : Option (Icmpv4Repr × IpAddress) :=
  slot.packet.map fun packet => (packet.message, packet.source)

/-- The packets that the polls have brought. -/
def packetRecord (world : ScriptedWorld) : List (List IcmpPacket) :=
  world.past.map NetworkBatch.packets

/-- A socket takes what it accepts. -/
theorem map_take? (ident : UInt16) (packet : IcmpPacket) :
    ((take? ident packet).map fun taken => (taken.message, taken.source)) =
      stack.accepts ident packet := by
  unfold take? SmolStack.accepts SmolStack.message
  by_cases checked : 8 ≤ packet.bytes.length
  · have isChecked : stack.icmpNewChecked packet.bytes = true :=
      decide_eq_true checked
    rw [dif_pos checked, if_pos isChecked]
    split
    · rename_i message parsed
      have sameMessage : stack.icmpParse packet.bytes = some message :=
        parsed
      rw [sameMessage, Option.bind_some]
      split <;> rfl
    · rename_i parsed
      have malformed : stack.icmpParse packet.bytes = none := parsed
      rw [malformed]
      rfl
  · have isShort : ¬ stack.icmpNewChecked packet.bytes = true := by
      simpa [stack] using checked
    rw [dif_neg checked, if_neg isShort]
    rfl

/-- The ICMP sockets of this network have one slot. -/
theorem followsIcmp :
    stack.FollowsIcmp EchoSlot.ident held (fun world => (next world).packets)
      packetRecord where
  bind ident := ⟨⟨some ident, none⟩, rfl, rfl, rfl⟩
  send socket _ destination sent succeeded := by
    simp only [stack] at succeeded
    split at succeeded
    · cases succeeded
    · cases succeeded
      exact ⟨rfl, rfl⟩
  send_ok socket ident seqNo data target _ _ := by
    by_cases unspecified : target = ⟨0, 0, 0, 0⟩ <;>
      simp [stack, Ipv4Addr.isUnspecified, unspecified]
  poll iface world sockets handle socket ident present isBound empty := by
    obtain ⟨socketIdent, packet⟩ := socket
    cases isBound
    cases Option.map_eq_none_iff.mp empty
    refine ⟨fill (next world) ⟨some ident, none⟩, ?_, rfl, ?_⟩
    · rw [SocketSet.getIcmp?, get?_poll, getIcmp?_eq_some present]
      rfl
    · rw [held, fill, List.map_findSome?]
      exact congrArg (fun accepts => (next world).packets.findSome? accepts)
        (funext (map_take? ident))
  record_poll _ world _ := by
    simp [stack, packetRecord]
  record_sleep _ _ := rfl
  canRecv slot := by
    simp [stack, held]
  recv slot message source isHeld := by
    obtain ⟨ident, packet⟩ := slot
    obtain ⟨packet, rfl, same⟩ := Option.map_eq_some_iff.mp isHeld
    cases same
    refine ⟨packet.bytes, ⟨ident, none⟩, rfl, ?_, rfl, rfl⟩
    have checked : stack.icmpNewChecked packet.bytes = true :=
      decide_eq_true packet.checked
    rw [SmolStack.message, if_pos checked]
    exact packet.parsed

/-- An engine without sockets in a world with a script. -/
def start
    (script : List NetworkBatch) :
    EngineState ScriptedWorld Connection EchoSlot where
  engine := {
    iface := Smoltcp.interface
    sockets := SlotMaps.empty
    nextPort := 49152
  }
  world := ⟨0, script, []⟩

/-- The server of an exchange. -/
def server : SocketAddrV4 :=
  ⟨⟨192, 168, 178, 1⟩, 49000⟩

/-- The first bytes of a response, after which the connection is reset. -/
def resetScript : List NetworkBatch :=
  [⟨[.synAck], []⟩, ⟨[.ack, .data [72, 84, 84, 80, 47], .rst], []⟩]

/-- The exchange takes both batches and returns what it has received. -/
theorem resetResponse_run :
    (http stack 4 server [71, 69, 84] (Duration.fromSecs 10)
        (start resetScript)).map
      (fun outcome => (outcome.1.toOption, outcome.2.world.past)) =
      some (some [72, 84, 84, 80, 47], resetScript) := by
  decide

/-- A response that is reset while it is received is taken for the whole. -/
theorem resetResponse_accepted :
    stack.FollowsTcp Connection.buffered Connection.written segments
        segmentRecord ∧
      stack.TimePasses ∧
      ∃ after,
        http stack 4 server [71, 69, 84] (Duration.fromSecs 10)
            (start resetScript) =
          some (.ok [72, 84, 84, 80, 47], after) ∧
        ¬ HttpProgress.Sound [71, 69, 84] .start
          (exchangeBatches stack segmentRecord server (start resetScript)
            after)
          (.ok [72, 84, 84, 80, 47]) := by
  obtain ⟨⟨result, after⟩, ran, same⟩ :=
    Option.map_eq_some_iff.mp resetResponse_run
  obtain ⟨accepted, polled⟩ := Prod.mk.inj same
  cases result with
  | error error =>
      cases accepted
  | ok bytes =>
      cases Option.some.inj accepted
      refine ⟨followsTcp, timePasses, after, ran, fun sound => ?_⟩
      have finished := (sound.whole _ rfl).finished
      have batches :
          exchangeBatches stack segmentRecord server (start resetScript)
              after =
            resetScript.map NetworkBatch.segments :=
        congrArg (List.map NetworkBatch.segments) polled
      rw [batches] at finished
      cases finished

/-- The host of a ping. -/
def pingedHost : Ipv4Addr :=
  ⟨192, 168, 178, 20⟩

/-- An echo request of another host that has the identifier of the ping. -/
def foreignRequest : IcmpPacket where
  source := .ipv4 ⟨192, 168, 178, 21⟩
  bytes := emit (.echoRequest ICMP_IDENT 7 [])

/-- The reply of the pinged host. -/
def pingReply : IcmpPacket where
  source := .ipv4 pingedHost
  bytes := emit (.echoReply ICMP_IDENT ICMP_SEQUENCE ICMP_PAYLOAD)

/-- The ping takes the batch and looks at the foreign request alone. -/
theorem maskedReply_run :
    (ping stack 8 pingedHost (Duration.fromMillis 8)
        (start [⟨[], [foreignRequest, pingReply]⟩])).map
      (fun outcome =>
        (outcome.1.toOption, outcome.2.world.past.headD ⟨[], []⟩)) =
      some (some false, ⟨[], [foreignRequest, pingReply]⟩) := by
  decide

/-- A packet that comes before the reply in its batch hides the reply. -/
theorem maskedReply_missed :
    stack.FollowsIcmp EchoSlot.ident held (fun world => (next world).packets)
        packetRecord ∧
      stack.TimePasses ∧
      ∃ after,
        ping stack 8 pingedHost (Duration.fromMillis 8)
            (start [⟨[], [foreignRequest, pingReply]⟩]) =
          some (.ok false, after) ∧
        ¬ PingSound stack pingedHost
          (pingBatches packetRecord
            (start [⟨[], [foreignRequest, pingReply]⟩]) after)
          (.ok false) := by
  obtain ⟨⟨result, after⟩, ran, same⟩ :=
    Option.map_eq_some_iff.mp maskedReply_run
  obtain ⟨answered, polled⟩ := Prod.mk.inj same
  cases result with
  | error error =>
      cases answered
  | ok reached =>
      cases Option.some.inj answered
      refine ⟨followsIcmp, timePasses, after, ran, fun sound => ?_⟩
      have inRecord :
          [foreignRequest, pingReply] ∈
            pingBatches packetRecord
              (start [⟨[], [foreignRequest, pingReply]⟩]) after := by
        cases past : after.world.past with
        | nil =>
            rw [past] at polled
            cases polled
        | cons batch rest =>
            rw [past, List.headD_cons] at polled
            subst polled
            simp [pingBatches, packetRecord, past, start]
      refine sound.silent.mp rfl
        ⟨_, inRecord, pingReply, ?_, ?_⟩
      · decide
      · decide

end Scripted

/-- A response that its peer has closed is received in full. -/
theorem http_sound_iff_notCutShort_closed :
    ∃ enough result after,
      (∀ fuel,
        enough ≤ fuel →
        http Scripted.stack fuel Scripted.server [71, 69, 84]
            (Duration.fromSecs 10)
            (Scripted.start
              [⟨[.synAck], []⟩, ⟨[.ack, .data [72, 84], .fin], []⟩]) =
          some (result, after)) ∧
      (HttpProgress.Sound [71, 69, 84] .start
          (exchangeBatches Scripted.stack Scripted.segmentRecord
            Scripted.server
            (Scripted.start
              [⟨[.synAck], []⟩, ⟨[.ack, .data [72, 84], .fin], []⟩]) after)
          result ↔
        ¬ HttpProgress.CutShort [71, 69, 84] .start
          (exchangeBatches Scripted.stack Scripted.segmentRecord
            Scripted.server
            (Scripted.start
              [⟨[.synAck], []⟩, ⟨[.ack, .data [72, 84], .fin], []⟩])
            after)) :=
  http_sound_iff_notCutShort Scripted.followsTcp Scripted.timePasses _ _ _ _

/-- A reply that comes first in its batch is seen. -/
theorem ping_sound_iff_noReplyMasked_leading :
    ∃ enough result after,
      (∀ fuel,
        enough ≤ fuel →
        ping Scripted.stack fuel Scripted.pingedHost (Duration.fromSecs 1)
            (Scripted.start
              [⟨[], [Scripted.pingReply, Scripted.foreignRequest]⟩]) =
          some (result, after)) ∧
      (result = .ok false →
        Scripted.stack.now after.world ≥
          Scripted.stack.now
              (Scripted.start
                [⟨[], [Scripted.pingReply,
                  Scripted.foreignRequest]⟩]).world +
            Duration.fromSecs 1) ∧
      (PingSound Scripted.stack Scripted.pingedHost
          (pingBatches Scripted.packetRecord
            (Scripted.start
              [⟨[], [Scripted.pingReply, Scripted.foreignRequest]⟩]) after)
          result ↔
        Scripted.pingedHost.isUnspecified = false ∧
          NoReplyMasked Scripted.stack Scripted.pingedHost
            (pingBatches Scripted.packetRecord
              (Scripted.start
                [⟨[], [Scripted.pingReply, Scripted.foreignRequest]⟩])
              after)) :=
  ping_sound_iff_noReplyMasked Scripted.followsIcmp Scripted.timePasses _ _ _

end Waker
