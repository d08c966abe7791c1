import Waker.FifoChannel

namespace OneshotChannel

open FifoChannel

/-!
# Channels for one value

The operations that a runtime provides for a channel that carries one value, and
what it promises about them.  The sender goes with the value; a receiver that
waits learns when the sender goes without sending.
-/

/-- What there is to know about a channel for one value. -/
structure Contents (Value : Type) where
  value : Option Value
  hasSender : Bool
  hasReceiver : Bool
  deriving Repr, DecidableEq

/-- The channels for one value of a runtime. -/
class Oneshot (Slot : Type → Type) where
  channel {Value : Type} : Slot Value
  send {Value : Type} : Value → Slot Value → Bool × Slot Value
  recv {Value : Type} : Slot Value → Received Value × Slot Value
  dropSender {Value : Type} : Slot Value → Slot Value
  dropReceiver {Value : Type} : Slot Value → Slot Value
  contents {Value : Type} : Slot Value → Contents Value

/-- What a runtime promises about its channels for one value. -/
class LawfulOneshot (Slot : Type → Type) [Oneshot Slot] : Prop where
  channel {Value : Type} :
    Oneshot.contents (Oneshot.channel : Slot Value) =
      { value := none, hasSender := true, hasReceiver := true }
  send_received
    {Value : Type}
    (value : Value)
    {slot : Slot Value}
    (alive : (Oneshot.contents slot).hasSender = true)
    (awaited : (Oneshot.contents slot).hasReceiver = true) :
    (Oneshot.send value slot).1 = true ∧
    Oneshot.contents (Oneshot.send value slot).2 =
      { value := some value, hasSender := false, hasReceiver := true }
  send_dropped
    {Value : Type}
    (value : Value)
    {slot : Slot Value}
    (alive : (Oneshot.contents slot).hasSender = true)
    (gone : (Oneshot.contents slot).hasReceiver = false) :
    (Oneshot.send value slot).1 = false ∧
    Oneshot.contents (Oneshot.send value slot).2 =
      { Oneshot.contents slot with hasSender := false }
  recv_value
    {Value : Type}
    {slot : Slot Value}
    {value : Value}
    (sent : (Oneshot.contents slot).value = some value) :
    (Oneshot.recv slot).1 = .value value ∧
    Oneshot.contents (Oneshot.recv slot).2 =
      { Oneshot.contents slot with value := none }
  recv_empty
    {Value : Type}
    {slot : Slot Value}
    (nothing : (Oneshot.contents slot).value = none)
    (alive : (Oneshot.contents slot).hasSender = true) :
    (Oneshot.recv slot).1 = .empty ∧
    Oneshot.contents (Oneshot.recv slot).2 = Oneshot.contents slot
  recv_closed
    {Value : Type}
    {slot : Slot Value}
    (nothing : (Oneshot.contents slot).value = none)
    (gone : (Oneshot.contents slot).hasSender = false) :
    (Oneshot.recv slot).1 = .closed ∧
    Oneshot.contents (Oneshot.recv slot).2 = Oneshot.contents slot
  dropSender {Value : Type} (slot : Slot Value) :
    Oneshot.contents (Oneshot.dropSender slot) =
      { Oneshot.contents slot with hasSender := false }
  dropReceiver {Value : Type} (slot : Slot Value) :
    Oneshot.contents (Oneshot.dropReceiver slot) =
      { Oneshot.contents slot with value := none, hasReceiver := false }

namespace Contents

variable {Value : Type}

/-- Send the value, which goes with the receiver if that is gone. -/
def send
    (value : Value)
    (contents : Contents Value) : Bool × Contents Value :=
  if contents.hasReceiver then
    (true, { contents with value := some value, hasSender := false })
  else
    (false, { contents with hasSender := false })

/-- Take the value. -/
def recv (contents : Contents Value) : Received Value × Contents Value :=
  match contents.value with
  | some value => (.value value, { contents with value := none })
  | none => (if contents.hasSender then .empty else .closed, contents)

end Contents

/-- Contents that change as a runtime promises are themselves a channel. -/
instance : Oneshot Contents where
  channel := { value := none, hasSender := true, hasReceiver := true }
  send := Contents.send
  recv := Contents.recv
  dropSender contents := { contents with hasSender := false }
  dropReceiver contents :=
    { contents with value := none, hasReceiver := false }
  contents := id

instance : LawfulOneshot Contents where
  channel := rfl
  send_received value contents alive awaited := by
    simp_all [Oneshot.send, Oneshot.contents, Contents.send]
  send_dropped value contents alive gone := by
    simp_all [Oneshot.send, Oneshot.contents, Contents.send]
  recv_value sent := by
    simp_all [Oneshot.recv, Oneshot.contents, Contents.recv]
  recv_empty nothing alive := by
    simp_all [Oneshot.recv, Oneshot.contents, Contents.recv]
  recv_closed nothing gone := by
    simp_all [Oneshot.recv, Oneshot.contents, Contents.recv]
  dropSender _ := rfl
  dropReceiver _ := rfl

end OneshotChannel
