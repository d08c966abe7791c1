import Mathlib.Data.List.Infix

namespace FifoChannel

/-!
# Channels between tasks

The operations that a runtime provides for channels with one receiver, and what
it promises about them.  Values wait in a queue until the receiver takes them; a
bounded channel accepts no more than fit.  Sending fails when the receiver is
gone, and the values that it had not taken go with it.  Receiving ends when all
senders are gone and the queue is empty.
-/

variable {Value : Type}

/-- What a sender is told. -/
inductive Sent where
  | accepted
  | full
  | closed
  deriving Repr, DecidableEq

/-- What a receiver gets. -/
inductive Received (Value : Type) where
  | value (value : Value)
  | empty
  | closed
  deriving Repr, DecidableEq

/-- The record of a value that is sent. -/
def Sent.noted (value : Value) : Sent → List Value
  | .accepted => [value]
  | _ => []

/-- The record of a value that is received. -/
def Received.noted : Received Value → List Value
  | .value first => [first]
  | _ => []

/-- What there is to know about a channel. -/
structure Contents (Value : Type) where
  queue : List Value
  capacity : Option Nat
  hasSender : Bool
  hasReceiver : Bool
  deriving Repr, DecidableEq

namespace Contents

/-- A new channel, bounded or not. -/
def new (capacity : Option Nat) : Contents Value where
  queue := []
  capacity := capacity
  hasSender := true
  hasReceiver := true

/-- One more value fits. -/
def hasRoom (contents : Contents Value) : Bool :=
  contents.capacity.all (contents.queue.length < ·)

/-- Send a value, which fails without room or receiver. -/
def send
    (value : Value)
    (contents : Contents Value) : Sent × Contents Value :=
  if contents.hasReceiver then
    if contents.hasRoom then
      (.accepted, { contents with queue := contents.queue ++ [value] })
    else
      (.full, contents)
  else
    (.closed, contents)

/-- Take the first value. -/
def recv (contents : Contents Value) : Received Value × Contents Value :=
  match contents.queue with
  | value :: rest => (.value value, { contents with queue := rest })
  | [] => (if contents.hasSender then .empty else .closed, contents)

end Contents

/-- The channels of a runtime. -/
class Mpsc (Channel : Type → Type) where
  channel {Value : Type} (capacity : Nat) : Channel Value
  unboundedChannel {Value : Type} : Channel Value
  send {Value : Type} : Value → Channel Value → Sent × Channel Value
  recv {Value : Type} : Channel Value → Received Value × Channel Value
  /-- The last sender is gone. -/
  dropSender {Value : Type} : Channel Value → Channel Value
  /-- The receiver is gone, and with it these values. -/
  dropReceiver {Value : Type} : Channel Value → List Value × Channel Value
  contents {Value : Type} : Channel Value → Contents Value

/-- What a runtime promises about its channels. -/
class LawfulMpsc (Channel : Type → Type) [Mpsc Channel] : Prop where
  channel {Value : Type} (capacity : Nat) :
    Mpsc.contents (Mpsc.channel capacity : Channel Value) =
      .new (some capacity)
  unboundedChannel {Value : Type} :
    Mpsc.contents (Mpsc.unboundedChannel : Channel Value) = .new none
  send_room
    {Value : Type}
    (value : Value)
    {channel : Channel Value}
    (alive : (Mpsc.contents channel).hasReceiver = true)
    (room : (Mpsc.contents channel).hasRoom = true) :
    (Mpsc.send value channel).1 = .accepted ∧
    Mpsc.contents (Mpsc.send value channel).2 =
      { Mpsc.contents channel with
        queue := (Mpsc.contents channel).queue ++ [value] }
  send_full
    {Value : Type}
    (value : Value)
    {channel : Channel Value}
    (alive : (Mpsc.contents channel).hasReceiver = true)
    (full : (Mpsc.contents channel).hasRoom = false) :
    (Mpsc.send value channel).1 = .full ∧
    Mpsc.contents (Mpsc.send value channel).2 = Mpsc.contents channel
  send_closed
    {Value : Type}
    (value : Value)
    {channel : Channel Value}
    (gone : (Mpsc.contents channel).hasReceiver = false) :
    (Mpsc.send value channel).1 = .closed ∧
    Mpsc.contents (Mpsc.send value channel).2 = Mpsc.contents channel
  recv_value
    {Value : Type}
    {channel : Channel Value}
    {value : Value}
    {rest : List Value}
    (first : (Mpsc.contents channel).queue = value :: rest) :
    (Mpsc.recv channel).1 = .value value ∧
    Mpsc.contents (Mpsc.recv channel).2 =
      { Mpsc.contents channel with queue := rest }
  recv_empty
    {Value : Type}
    {channel : Channel Value}
    (nothing : (Mpsc.contents channel).queue = [])
    (alive : (Mpsc.contents channel).hasSender = true) :
    (Mpsc.recv channel).1 = .empty ∧
    Mpsc.contents (Mpsc.recv channel).2 = Mpsc.contents channel
  recv_closed
    {Value : Type}
    {channel : Channel Value}
    (nothing : (Mpsc.contents channel).queue = [])
    (gone : (Mpsc.contents channel).hasSender = false) :
    (Mpsc.recv channel).1 = .closed ∧
    Mpsc.contents (Mpsc.recv channel).2 = Mpsc.contents channel
  dropSender {Value : Type} (channel : Channel Value) :
    Mpsc.contents (Mpsc.dropSender channel) =
      { Mpsc.contents channel with hasSender := false }
  dropReceiver {Value : Type} (channel : Channel Value) :
    (Mpsc.dropReceiver channel).1 = (Mpsc.contents channel).queue ∧
    Mpsc.contents (Mpsc.dropReceiver channel).2 =
      { Mpsc.contents channel with queue := [], hasReceiver := false }

/-- Contents that change as a runtime promises are themselves a channel. -/
instance : Mpsc Contents where
  channel capacity := .new (some capacity)
  unboundedChannel := .new none
  send := Contents.send
  recv := Contents.recv
  dropSender contents := { contents with hasSender := false }
  dropReceiver contents :=
    (contents.queue, { contents with queue := [], hasReceiver := false })
  contents := id

instance : LawfulMpsc Contents where
  channel _ := rfl
  unboundedChannel := rfl
  send_room value contents alive room := by
    simp_all [Mpsc.send, Mpsc.contents, Contents.send]
  send_full value contents alive full := by
    simp_all [Mpsc.send, Mpsc.contents, Contents.send]
  send_closed value contents gone := by
    simp_all [Mpsc.send, Mpsc.contents, Contents.send]
  recv_value first := by
    simp_all [Mpsc.recv, Mpsc.contents, Contents.recv]
  recv_empty nothing alive := by
    simp_all [Mpsc.recv, Mpsc.contents, Contents.recv]
  recv_closed nothing gone := by
    simp_all [Mpsc.recv, Mpsc.contents, Contents.recv]
  dropSender _ := rfl
  dropReceiver _ := ⟨rfl, rfl⟩

/-- A channel with the values that it accepted and those that were taken. -/
structure Recorded (Channel : Type → Type) (Value : Type) where
  channel : Channel Value
  accepted : List Value
  taken : List Value

namespace Recorded

variable {Channel : Type → Type}

/-- A new channel with an empty record. -/
def of (channel : Channel Value) : Recorded Channel Value where
  channel := channel
  accepted := []
  taken := []

section

variable [Mpsc Channel]

/-- The values that wait in the channel. -/
def queue (recorded : Recorded Channel Value) : List Value :=
  (Mpsc.contents recorded.channel).queue

/-- A sender is left. -/
def hasSender (recorded : Recorded Channel Value) : Bool :=
  (Mpsc.contents recorded.channel).hasSender

/-- The receiver is there. -/
def hasReceiver (recorded : Recorded Channel Value) : Bool :=
  (Mpsc.contents recorded.channel).hasReceiver

/-- Send a value, which is noted if it is accepted. -/
def send
    (value : Value)
    (recorded : Recorded Channel Value) : Sent × Recorded Channel Value :=
  let sent := Mpsc.send value recorded.channel
  (sent.1,
    { recorded with
      channel := sent.2
      accepted := recorded.accepted ++ sent.1.noted value })

/-- Take the first value, which is noted. -/
def recv
    (recorded : Recorded Channel Value) :
    Received Value × Recorded Channel Value :=
  let received := Mpsc.recv recorded.channel
  (received.1,
    { recorded with
      channel := received.2
      taken := recorded.taken ++ received.1.noted })

/-- The last sender is gone. -/
def dropSender (recorded : Recorded Channel Value) : Recorded Channel Value :=
  { recorded with channel := Mpsc.dropSender recorded.channel }

/-- The receiver is gone. -/
def dropReceiver
    (recorded : Recorded Channel Value) : Recorded Channel Value :=
  { recorded with channel := (Mpsc.dropReceiver recorded.channel).2 }

/-- What there is to know about the channel, with its record. -/
def contents (recorded : Recorded Channel Value) : Recorded Contents Value where
  channel := Mpsc.contents recorded.channel
  accepted := recorded.accepted
  taken := recorded.taken

variable [LawfulMpsc Channel]

/-- Sending does to the contents what it does to the channel. -/
theorem contents_send
    (value : Value)
    (recorded : Recorded Channel Value) :
    recorded.contents.send value =
      ((recorded.send value).1, (recorded.send value).2.contents) := by
  cases alive : (Mpsc.contents recorded.channel).hasReceiver with
  | false =>
      obtain ⟨sent, same⟩ := LawfulMpsc.send_closed value alive
      simp [send, contents, Mpsc.send, Contents.send, alive, sent, same]
  | true =>
      cases room : (Mpsc.contents recorded.channel).hasRoom with
      | false =>
          obtain ⟨sent, same⟩ := LawfulMpsc.send_full value alive room
          simp [send, contents, Mpsc.send, Contents.send, alive, room, sent,
            same]
      | true =>
          obtain ⟨sent, same⟩ := LawfulMpsc.send_room value alive room
          simp [send, contents, Mpsc.send, Contents.send, alive, room, sent,
            same]

/-- Receiving takes from the contents what it takes from the channel. -/
theorem contents_recv (recorded : Recorded Channel Value) :
    recorded.contents.recv =
      (recorded.recv.1, recorded.recv.2.contents) := by
  cases queue : (Mpsc.contents recorded.channel).queue with
  | cons value rest =>
      obtain ⟨received, same⟩ := LawfulMpsc.recv_value queue
      simp [recv, contents, Mpsc.recv, Contents.recv, queue, received, same]
  | nil =>
      cases alive : (Mpsc.contents recorded.channel).hasSender with
      | false =>
          obtain ⟨received, same⟩ := LawfulMpsc.recv_closed queue alive
          simp [recv, contents, Mpsc.recv, Contents.recv, queue, alive,
            received, same]
      | true =>
          obtain ⟨received, same⟩ := LawfulMpsc.recv_empty queue alive
          simp [recv, contents, Mpsc.recv, Contents.recv, queue, alive,
            received, same]

/-- Losing the last sender shows in the contents. -/
theorem contents_dropSender (recorded : Recorded Channel Value) :
    recorded.contents.dropSender = recorded.dropSender.contents := by
  simp [dropSender, contents, LawfulMpsc.dropSender, Mpsc.dropSender]

/-- Losing the receiver shows in the contents. -/
theorem contents_dropReceiver (recorded : Recorded Channel Value) :
    recorded.contents.dropReceiver = recorded.dropReceiver.contents := by
  simp [dropReceiver, contents, LawfulMpsc.dropReceiver, Mpsc.dropReceiver]

end

/-- Values are taken in the order in which they were accepted, each once. -/
structure InOrder (recorded : Recorded Contents Value) : Prop where
  waiting :
    recorded.hasReceiver = true →
    recorded.taken ++ recorded.queue = recorded.accepted
  dropped : recorded.hasReceiver = false → recorded.queue = []
  ordered : recorded.taken <+: recorded.accepted

variable {recorded : Recorded Contents Value}

/-- A value is noted where there is a receiver and room for it. -/
theorem send_eq
    (value : Value)
    (recorded : Recorded Contents Value) :
    recorded.send value =
      if recorded.hasReceiver then
        if recorded.channel.hasRoom then
          (.accepted,
            { recorded with
              channel := { recorded.channel with
                queue := recorded.queue ++ [value] }
              accepted := recorded.accepted ++ [value] })
        else
          (.full, recorded)
      else
        (.closed, recorded) := by
  cases alive : recorded.channel.hasReceiver with
  | false =>
      simp [send, hasReceiver, Mpsc.send, Mpsc.contents, Contents.send,
        alive, Sent.noted]
  | true =>
      cases room : recorded.channel.hasRoom <;>
        simp [send, queue, hasReceiver, Mpsc.send, Mpsc.contents,
          Contents.send, alive, room, Sent.noted]

/-- An unbounded channel accepts every value while there is a receiver. -/
theorem send_unbounded
    (unbounded : recorded.channel.capacity = none)
    (value : Value) :
    recorded.send value =
      if recorded.hasReceiver then
        (.accepted,
          { recorded with
            channel := { recorded.channel with
              queue := recorded.queue ++ [value] }
            accepted := recorded.accepted ++ [value] })
      else
        (.closed, recorded) := by
  simp [send_eq, Contents.hasRoom, unbounded]

/-- The first value is taken, if there is one. -/
theorem recv_eq (recorded : Recorded Contents Value) :
    recorded.recv =
      match recorded.queue with
      | value :: rest =>
          (.value value,
            { recorded with
              channel := { recorded.channel with queue := rest }
              taken := recorded.taken ++ [value] })
      | [] => (if recorded.hasSender then .empty else .closed, recorded) := by
  cases waiting : recorded.channel.queue with
  | cons value rest =>
      simp [recv, queue, Mpsc.recv, Mpsc.contents, Contents.recv, waiting,
        Received.noted]
  | nil =>
      cases alive : recorded.channel.hasSender <;>
        simp [recv, queue, hasSender, Mpsc.recv, Mpsc.contents,
          Contents.recv, waiting, alive, Received.noted]

/-- Only the queue and the record differ. -/
structure SameEnds
    {Channel : Type → Type}
    [Mpsc Channel]
    (before after : Recorded Channel Value) : Prop where
  capacity :
    (Mpsc.contents after.channel).capacity =
      (Mpsc.contents before.channel).capacity
  sender : after.hasSender = before.hasSender
  receiver : after.hasReceiver = before.hasReceiver

section

variable {Channel : Type → Type}
variable [Mpsc Channel]
variable {before after : Recorded Channel Value}
variable {value : Value}

/-- Contents that differ in the queue and the record have the same ends. -/
theorem sameEnds_of_contents
    {queue accepted taken : List Value}
    (same :
      { before.contents with
        channel := { Mpsc.contents before.channel with queue := queue }
        accepted := accepted
        taken := taken } = after.contents) :
    SameEnds before after :=
  ⟨congrArg (fun recorded => recorded.channel.capacity) same.symm,
    congrArg (fun recorded => recorded.channel.hasSender) same.symm,
    congrArg (fun recorded => recorded.channel.hasReceiver) same.symm⟩

variable [LawfulMpsc Channel]

/-- A value that is accepted is the last in the queue. -/
theorem sent_of_accepted
    (sent : before.send value = (.accepted, after)) :
    before.hasReceiver = true ∧
    (Mpsc.contents before.channel).hasRoom = true ∧
    after.queue = before.queue ++ [value] ∧
    after.accepted = before.accepted ++ [value] ∧
    SameEnds before after := by
  have same := before.contents_send value
  rw [sent, send_eq] at same
  split at same
  · rename_i alive
    split at same
    · rename_i room
      have contents := congrArg Prod.snd same
      exact ⟨alive, room,
        congrArg (fun recorded => recorded.channel.queue) contents.symm,
        congrArg Recorded.accepted contents.symm,
        sameEnds_of_contents contents⟩
    · cases congrArg Prod.fst same
  · cases congrArg Prod.fst same

/-- A value that finds no receiver changes nothing. -/
theorem sent_of_closed
    (sent : before.send value = (.closed, after)) :
    before.hasReceiver = false ∧
    after.queue = before.queue ∧
    after.accepted = before.accepted ∧
    SameEnds before after := by
  have same := before.contents_send value
  rw [sent, send_eq] at same
  split at same
  · split at same <;> cases congrArg Prod.fst same
  · rename_i gone
    have contents := congrArg Prod.snd same
    exact ⟨Bool.eq_false_iff.mpr gone,
      congrArg (fun recorded => recorded.channel.queue) contents.symm,
      (congrArg Recorded.accepted contents).symm,
      sameEnds_of_contents contents⟩

/-- A value that is received was the first in the queue. -/
theorem received_of_value
    (received : before.recv = (.value value, after)) :
    before.queue = value :: after.queue ∧
    after.accepted = before.accepted ∧
    SameEnds before after := by
  have same := before.contents_recv
  rw [received, recv_eq] at same
  split at same
  · rename_i first rest queue
    cases congrArg Prod.fst same
    have contents := congrArg Prod.snd same
    have left : rest = after.queue :=
      congrArg (fun recorded => recorded.channel.queue) contents
    exact ⟨left ▸ queue, (congrArg Recorded.accepted contents).symm,
      sameEnds_of_contents contents⟩
  · split at same <;> cases congrArg Prod.fst same

end

/-- A receiver that is gone is not there. -/
@[simp] theorem hasReceiver_dropReceiver (recorded : Recorded Contents Value) :
    recorded.dropReceiver.hasReceiver = false :=
  rfl

/-- Sending does not change who holds the ends. -/
theorem send_ends
    (recorded : Recorded Contents Value)
    (value : Value) :
    (recorded.send value).2.hasSender = recorded.hasSender ∧
    (recorded.send value).2.hasReceiver = recorded.hasReceiver := by
  rw [send_eq]
  split
  · split <;> exact ⟨rfl, rfl⟩
  · exact ⟨rfl, rfl⟩

/-- Receiving does not change who holds the ends. -/
theorem recv_ends (recorded : Recorded Contents Value) :
    recorded.recv.2.hasSender = recorded.hasSender ∧
    recorded.recv.2.hasReceiver = recorded.hasReceiver := by
  rw [recv_eq]
  split <;> exact ⟨rfl, rfl⟩

/-- Nothing has been sent through a new channel. -/
theorem inOrder_new (capacity : Option Nat) :
    (of (Contents.new capacity) : Recorded Contents Value).InOrder where
  waiting := fun _ => rfl
  dropped := fun gone => nomatch gone
  ordered := List.prefix_refl _

/-- Sending keeps the order. -/
theorem InOrder.send
    (inOrder : recorded.InOrder)
    (value : Value) :
    (recorded.send value).2.InOrder := by
  rw [send_eq]
  split
  · rename_i alive
    split
    · exact {
        waiting := fun _ => by
          have all := inOrder.waiting alive
          rw [← all, List.append_assoc]
          rfl
        dropped := fun gone => nomatch alive.symm.trans gone
        ordered := inOrder.ordered.trans (List.prefix_append _ _)
      }
    · exact inOrder
  · exact inOrder

/-- A channel whose first value is waiting has a receiver. -/
theorem InOrder.hasReceiver_of_queue
    (inOrder : recorded.InOrder)
    {value : Value}
    {rest : List Value}
    (first : recorded.queue = value :: rest) :
    recorded.hasReceiver = true := by
  by_contra gone
  have nothing := inOrder.dropped (Bool.eq_false_iff.mpr gone)
  cases first.symm.trans nothing

/-- Receiving keeps the order. -/
theorem InOrder.recv
    (inOrder : recorded.InOrder) :
    recorded.recv.2.InOrder := by
  rw [recv_eq]
  split
  · rename_i value rest first
    have alive := inOrder.hasReceiver_of_queue first
    have all := inOrder.waiting alive
    rw [first] at all
    exact {
      waiting := fun _ => by
        rw [← all, ← List.singleton_append, ← List.append_assoc]
        rfl
      dropped := fun gone => nomatch alive.symm.trans gone
      ordered := ⟨rest, by
        rw [← all, List.append_assoc, List.singleton_append]⟩
    }
  · exact inOrder

/-- Losing the last sender keeps the order. -/
theorem InOrder.dropSender
    (inOrder : recorded.InOrder) :
    recorded.dropSender.InOrder :=
  ⟨inOrder.waiting, inOrder.dropped, inOrder.ordered⟩

/-- Losing the receiver keeps the order. -/
theorem InOrder.dropReceiver
    (inOrder : recorded.InOrder) :
    recorded.dropReceiver.InOrder where
  waiting := fun alive => nomatch alive
  dropped := fun _ => rfl
  ordered := inOrder.ordered

/-- A receiver that is told the end has taken all that was accepted. -/
theorem InOrder.all_taken
    (inOrder : recorded.InOrder)
    (alive : recorded.hasReceiver = true)
    (ended : recorded.recv.1 = .closed) :
    recorded.taken = recorded.accepted := by
  rw [recv_eq] at ended
  split at ended
  · cases ended
  · rename_i nothing
    have all := inOrder.waiting alive
    rw [nothing, List.append_nil] at all
    exact all

end Recorded

end FifoChannel
