import Waker.FifoChannel
import Waker.StepSystem

namespace Waker

open FifoChannel

/-!
# The packets between GotaTun and smoltcp

Two unbounded channels join the WireGuard device to the private stack.  The
device sends decrypted packets into the one and fetches packets to encrypt from
the other; the engine receives and transmits while it polls.  Either end may be
dropped at any time.
-/

/-- The kind of an error that the device gets from a queue. -/
inductive IoErrorKind where
  | brokenPipe
  | unexpectedEof
  | invalidData
  deriving Repr, DecidableEq

/-- An error that the device gets from a queue. -/
structure IoError where
  kind : IoErrorKind
  message : String
  deriving Repr, DecidableEq

/--
The two channels of a runtime, and for the record what the device was told about
the packets that it sent, what it fetched, and what smoltcp emitted.
-/
structure PacketQueues (Channel : Type → Type) (Packet : Type) where
  incoming : Recorded Channel (List UInt8)
  outgoing : Recorded Channel (List UInt8)
  hasDevice : Bool
  hasEngine : Bool
  delivered : List (List UInt8 × Except IoError Unit)
  fetched : List (Except IoError Packet)
  emitted : List (List UInt8)

/-- What happens at one of the ends. -/
inductive QueueStep where
  | send (packet : List UInt8)
  | recv
  | receive
  | transmit
      (length : Nat)
      (fill : Vector UInt8 length → Vector UInt8 length)
  | dropEngine
  | dropDevice

namespace PacketQueues

variable {Channel : Type → Type}
variable {Packet : Type}

section Operations

variable [Mpsc Channel]

/-- The queues of a new tunnel. -/
def new : PacketQueues Channel Packet where
  incoming := .of Mpsc.unboundedChannel
  outgoing := .of Mpsc.unboundedChannel
  hasDevice := true
  hasEngine := true
  delivered := []
  fetched := []
  emitted := []

/-- `GotaIpSend::send`: hand a decrypted packet to smoltcp. -/
def gotaIpSend
    (packet : List UInt8)
    (queues : PacketQueues Channel Packet) : PacketQueues Channel Packet :=
  let (sent, incoming) := queues.incoming.send packet
  let result :=
    match sent with
    | .accepted => .ok ()
    | _ => .error ⟨.brokenPipe, "smoltcp channel closed"⟩
  { queues with
    incoming := incoming
    delivered := queues.delivered ++ [(packet, result)] }

/-- What the device makes of bytes that smoltcp emitted. -/
def parseFrame
    (tryIntoIpvx : List UInt8 → Except String Packet)
    (bytes : List UInt8) : Except IoError Packet :=
  match tryIntoIpvx bytes with
  | .error error => .error ⟨.invalidData, "invalid IP packet: " ++ error⟩
  | .ok packet => .ok packet

/-- The error of a device whose engine is gone. -/
def endOfFrames : IoError :=
  ⟨.unexpectedEof, "smoltcp channel closed"⟩

/-- The device was told that its engine is gone. -/
def isEnd : Except IoError Packet → Bool
  | .error error => error = endOfFrames
  | .ok _ => false

/-- `GotaIpRecv::recv`: fetch a packet to encrypt, if the wait is over. -/
def gotaIpRecv
    (tryIntoIpvx : List UInt8 → Except String Packet)
    (queues : PacketQueues Channel Packet) :
    Option (PacketQueues Channel Packet) :=
  match queues.outgoing.recv with
  | (.empty, _) => none
  | (.closed, outgoing) =>
      some { queues with
        outgoing := outgoing
        fetched := queues.fetched ++ [.error endOfFrames] }
  | (.value bytes, outgoing) =>
      some { queues with
        outgoing := outgoing
        fetched := queues.fetched ++ [parseFrame tryIntoIpvx bytes] }

/-- `PacketDevice::receive`: the bytes of the next packet, if there is one. -/
def receive
    (queues : PacketQueues Channel Packet) :
    Option (List UInt8 × PacketQueues Channel Packet) :=
  match queues.incoming.recv with
  | (.value buffer, incoming) =>
      some (buffer, { queues with incoming := incoming })
  | _ => none

/-- `SmolTxToken::consume`: emit what smoltcp fills the buffer with. -/
def consume
    (length : Nat)
    (fill : Vector UInt8 length → Vector UInt8 length)
    (queues : PacketQueues Channel Packet) : PacketQueues Channel Packet :=
  let buffer := (fill (.replicate length 0)).toList
  { queues with
    outgoing := (queues.outgoing.send buffer).2
    emitted := queues.emitted ++ [buffer] }

/-- The engine goes, and with it its end of the queues. -/
def withoutEngine
    (queues : PacketQueues Channel Packet) : PacketQueues Channel Packet :=
  { queues with
    incoming := queues.incoming.dropReceiver
    outgoing := queues.outgoing.dropSender
    hasEngine := false }

/-- The device goes, and with it its end of the queues. -/
def withoutDevice
    (queues : PacketQueues Channel Packet) : PacketQueues Channel Packet :=
  { queues with
    incoming := queues.incoming.dropSender
    outgoing := queues.outgoing.dropReceiver
    hasDevice := false }

/-- Take one step, unless it is not possible. -/
def step?
    (tryIntoIpvx : List UInt8 → Except String Packet)
    (queues : PacketQueues Channel Packet) :
    QueueStep → Option (PacketQueues Channel Packet)
  | .send packet =>
      if queues.hasDevice then some (queues.gotaIpSend packet) else none
  | .recv =>
      if queues.hasDevice then queues.gotaIpRecv tryIntoIpvx else none
  | .receive =>
      if queues.hasEngine then queues.receive.map Prod.snd else none
  | .transmit length fill =>
      if queues.hasEngine then some (queues.consume length fill) else none
  | .dropEngine =>
      if queues.hasEngine then some queues.withoutEngine else none
  | .dropDevice =>
      if queues.hasDevice then some queues.withoutDevice else none

/-- The queues with what there is to know about their channels. -/
def contents
    (queues : PacketQueues Channel Packet) : PacketQueues Contents Packet :=
  { queues with
    incoming := queues.incoming.contents
    outgoing := queues.outgoing.contents }

end Operations

/-- The packets that the device could hand over. -/
def handedOver
    (delivered : List (List UInt8 × Except IoError Unit)) :
    List (List UInt8) :=
  (delivered.filter fun entry => entry.2.toBool).map Prod.fst

/--
What both ends can rely on: every packet crosses its queue once, unchanged and
in order, an error names what went wrong, and nothing is lost while the other
end exists.
-/
structure Lossless
    [Mpsc Channel]
    (tryIntoIpvx : List UInt8 → Except String Packet)
    (queues : PacketQueues Channel Packet) : Prop where
  arrived : queues.incoming.taken <+: handedOver queues.delivered
  arriving :
    queues.hasEngine = true →
    queues.incoming.taken ++ queues.incoming.queue =
      queues.delivered.map Prod.fst
  broken :
    ∀ packet error,
      (packet, .error error) ∈ queues.delivered →
      error.kind = .brokenPipe ∧ queues.hasEngine = false
  fetched :
    queues.fetched.filter (fun result => !isEnd result) =
      queues.outgoing.taken.map (parseFrame tryIntoIpvx)
  left : queues.outgoing.taken <+: queues.emitted
  leaving :
    queues.hasDevice = true →
    queues.outgoing.taken ++ queues.outgoing.queue = queues.emitted
  ended :
    .error endOfFrames ∈ queues.fetched →
    queues.hasEngine = false ∧ queues.outgoing.taken = queues.emitted

/-- Each end of the queues is there as long as who holds it. -/
structure Held
    (incoming outgoing : Recorded Contents (List UInt8))
    (hasDevice hasEngine : Bool) : Prop where
  arrives : incoming.channel.capacity = none
  leaves : outgoing.channel.capacity = none
  receives : incoming.hasReceiver = hasEngine
  emits : outgoing.hasSender = hasEngine
  fetches : outgoing.hasReceiver = hasDevice

/-- The invariant of the queues, from which the rest follows. -/
structure Coherent
    (tryIntoIpvx : List UInt8 → Except String Packet)
    (queues : PacketQueues Contents Packet) : Prop where
  held :
    Held queues.incoming queues.outgoing queues.hasDevice queues.hasEngine
  incoming : queues.incoming.InOrder
  outgoing : queues.outgoing.InOrder
  handed : handedOver queues.delivered = queues.incoming.accepted
  errors :
    ∀ packet error,
      (packet, .error error) ∈ queues.delivered →
      error.kind = .brokenPipe ∧ queues.hasEngine = false
  fetched :
    queues.fetched.filter (fun result => !isEnd result) =
      queues.outgoing.taken.map (parseFrame tryIntoIpvx)
  emitted : queues.outgoing.accepted <+: queues.emitted
  allEmitted :
    queues.hasDevice = true →
    queues.outgoing.accepted = queues.emitted
  ended :
    .error endOfFrames ∈ queues.fetched →
    queues.hasEngine = false ∧ queues.outgoing.taken = queues.emitted

section Simulation

variable [Mpsc Channel] [LawfulMpsc Channel]
variable {tryIntoIpvx : List UInt8 → Except String Packet}
variable {queues : PacketQueues Channel Packet}

/-- New queues have nothing in them. -/
theorem contents_new :
    (new : PacketQueues Channel Packet).contents = new := by
  simp [new, contents, Recorded.of, Recorded.contents,
    LawfulMpsc.unboundedChannel, Mpsc.unboundedChannel]

/-- An engine that goes shows in the contents. -/
theorem contents_withoutEngine (queues : PacketQueues Channel Packet) :
    queues.contents.withoutEngine = queues.withoutEngine.contents := by
  simp [withoutEngine, contents, Recorded.contents_dropSender,
    Recorded.contents_dropReceiver]

/-- A device that goes shows in the contents. -/
theorem contents_withoutDevice (queues : PacketQueues Channel Packet) :
    queues.contents.withoutDevice = queues.withoutDevice.contents := by
  simp [withoutDevice, contents, Recorded.contents_dropSender,
    Recorded.contents_dropReceiver]

/-- Every step does to the contents what it does to the queues. -/
theorem contents_step (label : QueueStep) :
    queues.contents.step? tryIntoIpvx label =
      (queues.step? tryIntoIpvx label).map contents := by
  cases label with
  | send packet =>
      have sent := queues.incoming.contents_send packet
      cases present : queues.hasDevice <;>
        simp [step?, gotaIpSend, contents, present, sent]
  | recv =>
      have received := queues.outgoing.contents_recv
      rcases returned : queues.outgoing.recv with ⟨result, outgoing⟩
      rw [returned] at received
      cases queues.hasDevice <;> cases result <;>
        simp [step?, gotaIpRecv, contents, returned, received]
  | receive =>
      have received := queues.incoming.contents_recv
      rcases returned : queues.incoming.recv with ⟨result, incoming⟩
      rw [returned] at received
      cases queues.hasEngine <;> cases result <;>
        simp [step?, receive, contents, returned, received]
  | transmit length fill =>
      have sent :=
        queues.outgoing.contents_send (fill (.replicate length 0)).toList
      cases alive : queues.hasEngine <;>
        simp [step?, consume, contents, alive, sent]
  | dropEngine =>
      have held : queues.contents.hasEngine = queues.hasEngine := rfl
      cases alive : queues.hasEngine <;>
        simp [step?, held, alive, contents_withoutEngine]
  | dropDevice =>
      have held : queues.contents.hasDevice = queues.hasDevice := rfl
      cases present : queues.hasDevice <;>
        simp [step?, held, present, contents_withoutDevice]

end Simulation

variable {tryIntoIpvx : List UInt8 → Except String Packet}
variable {queues next : PacketQueues Contents Packet}

/-- Bytes that are not a packet are not the end. -/
theorem isEnd_parseFrame (bytes : List UInt8) :
    isEnd (parseFrame tryIntoIpvx bytes) = false := by
  unfold parseFrame
  split
  · simp [isEnd, endOfFrames]
  · rfl

/-- The queues of a new tunnel are empty. -/
theorem coherent_new :
    (new : PacketQueues Contents Packet).Coherent tryIntoIpvx where
  held := ⟨rfl, rfl, rfl, rfl, rfl⟩
  incoming := Recorded.inOrder_new none
  outgoing := Recorded.inOrder_new none
  handed := rfl
  errors := fun _ _ member => nomatch member
  fetched := rfl
  emitted := List.prefix_refl _
  allEmitted := fun _ => rfl
  ended := fun member => nomatch member

/-- One packet more that was handed over. -/
theorem handedOver_concat
    (delivered : List (List UInt8 × Except IoError Unit))
    (packet : List UInt8)
    (result : Except IoError Unit) :
    handedOver (delivered ++ [(packet, result)]) =
      handedOver delivered ++ if result.toBool then [packet] else [] := by
  cases succeeded : result.toBool with
  | true =>
      simp [handedOver, List.filter_append, succeeded]
  | false =>
      simp [handedOver, List.filter_append, succeeded]

/-- Handing a packet over keeps the queues. -/
theorem Coherent.gotaIpSend
    (coherent : queues.Coherent tryIntoIpvx)
    (packet : List UInt8) :
    (queues.gotaIpSend packet).Coherent tryIntoIpvx := by
  have sent := coherent.incoming.send packet
  have held := coherent.held
  unfold PacketQueues.gotaIpSend
  rw [Recorded.send_unbounded held.arrives, held.receives] at sent ⊢
  by_cases alive : queues.hasEngine = true
  · rw [if_pos alive] at sent ⊢
    exact {
      held := ⟨held.arrives, held.leaves, held.receives, held.emits,
        held.fetches⟩
      incoming := sent
      outgoing := coherent.outgoing
      handed := by
        rw [handedOver_concat, coherent.handed]
        rfl
      errors := by
        intro other error member
        rcases List.mem_append.mp member with before | isNew
        · exact coherent.errors other error before
        · cases List.mem_singleton.mp isNew
      fetched := coherent.fetched
      emitted := coherent.emitted
      allEmitted := coherent.allEmitted
      ended := coherent.ended
    }
  · rw [if_neg alive]
    exact {
      held := held
      incoming := coherent.incoming
      outgoing := coherent.outgoing
      handed := by
        rw [handedOver_concat, coherent.handed]
        exact List.append_nil _
      errors := by
        intro other error member
        rcases List.mem_append.mp member with before | isNew
        · exact coherent.errors other error before
        · cases List.mem_singleton.mp isNew
          exact ⟨rfl, Bool.eq_false_iff.mpr alive⟩
      fetched := coherent.fetched
      emitted := coherent.emitted
      allEmitted := coherent.allEmitted
      ended := coherent.ended
    }

/-- Fetching a packet keeps the queues. -/
theorem Coherent.gotaIpRecv
    (coherent : queues.Coherent tryIntoIpvx)
    (present : queues.hasDevice = true)
    (returned : queues.gotaIpRecv tryIntoIpvx = some next) :
    next.Coherent tryIntoIpvx := by
  have received := coherent.outgoing.recv
  have held := coherent.held
  have all :=
    (coherent.outgoing.waiting (held.fetches.trans present)).trans
      (coherent.allEmitted present)
  unfold PacketQueues.gotaIpRecv at returned
  rw [Recorded.recv_eq] at returned received
  cases queue : queues.outgoing.queue with
  | nil =>
      rw [queue, List.append_nil] at all
      by_cases alive : queues.hasEngine = true
      · simp [queue, held.emits, alive] at returned
      · simp only [queue, held.emits, if_neg alive] at returned
        cases returned
        exact {
          held := held
          incoming := coherent.incoming
          outgoing := coherent.outgoing
          handed := coherent.handed
          errors := coherent.errors
          fetched := by
            rw [List.filter_append, coherent.fetched]
            simp [isEnd]
          emitted := coherent.emitted
          allEmitted := coherent.allEmitted
          ended := fun _ => ⟨Bool.eq_false_iff.mpr alive, all⟩
        }
  | cons bytes rest =>
      simp only [queue] at returned received
      cases returned
      exact {
        held := ⟨held.arrives, held.leaves, held.receives, held.emits,
          held.fetches⟩
        incoming := coherent.incoming
        outgoing := received
        handed := coherent.handed
        errors := coherent.errors
        fetched := by
          rw [List.filter_append, coherent.fetched, List.map_append]
          simp [isEnd_parseFrame]
        emitted := coherent.emitted
        allEmitted := coherent.allEmitted
        ended := by
          intro member
          rcases List.mem_append.mp member with before | isNew
          · rw [(coherent.ended before).2, queue] at all
            cases List.append_right_eq_self.mp all
          · have notEnd := @isEnd_parseFrame _ tryIntoIpvx bytes
            rw [← List.mem_singleton.mp isNew] at notEnd
            simp [isEnd] at notEnd
      }

/-- Receiving a packet keeps the queues. -/
theorem Coherent.receive
    (coherent : queues.Coherent tryIntoIpvx)
    {buffer : List UInt8}
    (returned : queues.receive = some (buffer, next)) :
    next.Coherent tryIntoIpvx := by
  have received := coherent.incoming.recv
  have held := coherent.held
  unfold PacketQueues.receive at returned
  rw [Recorded.recv_eq] at returned received
  cases queue : queues.incoming.queue with
  | nil =>
      cases sender : queues.incoming.hasSender <;>
        simp [queue, sender] at returned
  | cons first rest =>
      simp only [queue] at returned received
      cases returned
      exact {
        held := ⟨held.arrives, held.leaves, held.receives, held.emits,
          held.fetches⟩
        incoming := received
        outgoing := coherent.outgoing
        handed := coherent.handed
        errors := coherent.errors
        fetched := coherent.fetched
        emitted := coherent.emitted
        allEmitted := coherent.allEmitted
        ended := coherent.ended
      }

/-- Emitting a frame keeps the queues. -/
theorem Coherent.consume
    (coherent : queues.Coherent tryIntoIpvx)
    (alive : queues.hasEngine = true)
    (length : Nat)
    (fill : Vector UInt8 length → Vector UInt8 length) :
    (queues.consume length fill).Coherent tryIntoIpvx := by
  let buffer := (fill (.replicate length 0)).toList
  have sent := coherent.outgoing.send buffer
  have held := coherent.held
  have notEnded
      (member : .error endOfFrames ∈ queues.fetched) : False := by
    cases alive.symm.trans (coherent.ended member).1
  unfold PacketQueues.consume
  change PacketQueues.Coherent _ { queues with
    outgoing := (queues.outgoing.send buffer).2
    emitted := queues.emitted ++ [buffer] }
  rw [Recorded.send_unbounded held.leaves, held.fetches] at sent ⊢
  by_cases present : queues.hasDevice = true
  · rw [if_pos present] at sent ⊢
    have all := coherent.allEmitted present
    exact {
      held := ⟨held.arrives, held.leaves, held.receives, held.emits,
        held.fetches⟩
      incoming := coherent.incoming
      outgoing := sent
      handed := coherent.handed
      errors := coherent.errors
      fetched := coherent.fetched
      emitted := by
        rw [← all]
      allEmitted := fun _ => by
        rw [← all]
      ended := fun member => (notEnded member).elim
    }
  · rw [if_neg present]
    exact {
      held := held
      incoming := coherent.incoming
      outgoing := coherent.outgoing
      handed := coherent.handed
      errors := coherent.errors
      fetched := coherent.fetched
      emitted := coherent.emitted.trans (List.prefix_append _ _)
      allEmitted := fun shown => absurd shown present
      ended := fun member => (notEnded member).elim
    }

/-- The queues of an engine that goes stay in order. -/
theorem Coherent.withoutEngine
    (coherent : queues.Coherent tryIntoIpvx) :
    queues.withoutEngine.Coherent tryIntoIpvx where
  held := ⟨coherent.held.arrives, coherent.held.leaves, rfl, rfl,
    coherent.held.fetches⟩
  incoming := coherent.incoming.dropReceiver
  outgoing := coherent.outgoing.dropSender
  handed := coherent.handed
  errors := fun packet error member =>
    ⟨(coherent.errors packet error member).1, rfl⟩
  fetched := coherent.fetched
  emitted := coherent.emitted
  allEmitted := coherent.allEmitted
  ended := fun member => ⟨rfl, (coherent.ended member).2⟩

/-- The queues of a device that goes stay in order. -/
theorem Coherent.withoutDevice
    (coherent : queues.Coherent tryIntoIpvx) :
    queues.withoutDevice.Coherent tryIntoIpvx where
  held := ⟨coherent.held.arrives, coherent.held.leaves,
    coherent.held.receives, coherent.held.emits, rfl⟩
  incoming := coherent.incoming.dropSender
  outgoing := coherent.outgoing.dropReceiver
  handed := coherent.handed
  errors := coherent.errors
  fetched := coherent.fetched
  emitted := coherent.emitted
  allEmitted := fun present => nomatch present
  ended := coherent.ended

/-- Every step keeps the queues. -/
theorem Coherent.step
    (coherent : queues.Coherent tryIntoIpvx)
    {label : QueueStep}
    (taken : queues.step? tryIntoIpvx label = some next) :
    next.Coherent tryIntoIpvx := by
  cases label with
  | send packet =>
      obtain ⟨-, returned⟩ := Option.ite_none_right_eq_some.mp taken
      cases returned
      exact coherent.gotaIpSend packet
  | recv =>
      obtain ⟨present, returned⟩ := Option.ite_none_right_eq_some.mp taken
      exact coherent.gotaIpRecv present returned
  | receive =>
      obtain ⟨-, returned⟩ := Option.ite_none_right_eq_some.mp taken
      obtain ⟨⟨buffer, after⟩, received, rfl⟩ :=
        Option.map_eq_some_iff.mp returned
      exact coherent.receive received
  | transmit length fill =>
      obtain ⟨alive, returned⟩ := Option.ite_none_right_eq_some.mp taken
      cases returned
      exact coherent.consume alive length fill
  | dropEngine =>
      obtain ⟨-, returned⟩ := Option.ite_none_right_eq_some.mp taken
      cases returned
      exact coherent.withoutEngine
  | dropDevice =>
      obtain ⟨-, returned⟩ := Option.ite_none_right_eq_some.mp taken
      cases returned
      exact coherent.withoutDevice

/-- While its engine exists the device hands over every packet. -/
theorem Coherent.handedOver_all
    (coherent : queues.Coherent tryIntoIpvx)
    (alive : queues.hasEngine = true) :
    handedOver queues.delivered = queues.delivered.map Prod.fst := by
  rw [handedOver, List.filter_eq_self.mpr]
  rintro ⟨packet, result⟩ member
  cases result with
  | ok done =>
      rfl
  | error error =>
      cases alive.symm.trans (coherent.errors packet error member).2

/-- Queues whose contents are coherent lose nothing. -/
theorem Coherent.lossless
    [Mpsc Channel]
    {queues : PacketQueues Channel Packet}
    (coherent : queues.contents.Coherent tryIntoIpvx) :
    queues.Lossless tryIntoIpvx where
  arrived :=
    coherent.incoming.ordered.trans (coherent.handed ▸ List.prefix_refl _)
  arriving := fun alive =>
    (coherent.incoming.waiting (coherent.held.receives.trans alive)).trans
      (coherent.handed.symm.trans (coherent.handedOver_all alive))
  broken := coherent.errors
  fetched := coherent.fetched
  left := coherent.outgoing.ordered.trans coherent.emitted
  leaving := fun present =>
    (coherent.outgoing.waiting (coherent.held.fetches.trans present)).trans
      (coherent.allEmitted present)
  ended := coherent.ended

variable [Mpsc Channel] [LawfulMpsc Channel]

end PacketQueues

end Waker
