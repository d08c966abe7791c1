import Mathlib.Logic.Basic

namespace WatchChannel

/-!
# Watched values

The operations that a runtime provides for a channel that keeps only the last
value, and what it promises about them.  The receiver reads the value at any
time, and waits for one that it has not seen.  The wait ends at once where the
value has changed since, and otherwise when it changes or the sender is gone.
-/

/-- What a receiver that waits for a change is told. -/
inductive Changed where
  | changed
  | closed
  | pending
  deriving Repr, DecidableEq

/-- What there is to know about a watched value. -/
structure Watch (Value : Type) where
  value : Value
  unseen : Bool
  hasSender : Bool
  hasReceiver : Bool
  deriving Repr, DecidableEq

namespace Watch

variable {Value : Type}

/-- A new value, which the receiver has seen. -/
def new (value : Value) : Watch Value where
  value := value
  unseen := false
  hasSender := true
  hasReceiver := true

/-- Replace the value, which fails without a receiver. -/
def send
    (value : Value)
    (watch : Watch Value) : Bool × Watch Value :=
  if watch.hasReceiver then
    (true, { watch with value := value, unseen := true })
  else
    (false, watch)

/-- Wait for a change, and see it. -/
def changed (watch : Watch Value) : Changed × Watch Value :=
  if watch.unseen then
    (.changed, { watch with unseen := false })
  else if watch.hasSender then
    (.pending, watch)
  else
    (.closed, watch)

/-- The last sender is gone. -/
def dropSender (watch : Watch Value) : Watch Value :=
  { watch with hasSender := false }

/-- The receiver is gone. -/
def dropReceiver (watch : Watch Value) : Watch Value :=
  { watch with hasReceiver := false }

variable {watch : Watch Value}

/-- A receiver waits on only if it has seen the value and more may follow. -/
theorem changed_eq_pending_iff :
    watch.changed.1 = .pending ↔
      watch.unseen = false ∧ watch.hasSender = true := by
  unfold changed
  cases watch.unseen <;> cases watch.hasSender <;> simp

/-- However the wait ends, the receiver has seen the value. -/
@[simp] theorem changed_snd :
    watch.changed.2 = { watch with unseen := false } := by
  obtain ⟨value, unseen, hasSender, hasReceiver⟩ := watch
  cases unseen <;> cases hasSender <;> rfl

end Watch

/-- The watched values of a runtime. -/
class Watches (Watched : Type → Type) where
  channel {Value : Type} : Value → Watched Value
  borrow {Value : Type} : Watched Value → Value
  send {Value : Type} : Value → Watched Value → Bool × Watched Value
  changed {Value : Type} : Watched Value → Changed × Watched Value
  dropSender {Value : Type} : Watched Value → Watched Value
  dropReceiver {Value : Type} : Watched Value → Watched Value
  contents {Value : Type} : Watched Value → Watch Value

/-- What a runtime promises about its watched values. -/
class LawfulWatches (Watched : Type → Type) [Watches Watched] : Prop where
  channel {Value : Type} (value : Value) :
    Watches.contents (Watches.channel value : Watched Value) = .new value
  borrow {Value : Type} (watched : Watched Value) :
    Watches.borrow watched = (Watches.contents watched).value
  send_received
    {Value : Type}
    (value : Value)
    {watched : Watched Value}
    (alive : (Watches.contents watched).hasReceiver = true) :
    (Watches.send value watched).1 = true ∧
    Watches.contents (Watches.send value watched).2 =
      { Watches.contents watched with value := value, unseen := true }
  send_dropped
    {Value : Type}
    (value : Value)
    {watched : Watched Value}
    (gone : (Watches.contents watched).hasReceiver = false) :
    (Watches.send value watched).1 = false ∧
    Watches.contents (Watches.send value watched).2 =
      Watches.contents watched
  changed_unseen
    {Value : Type}
    {watched : Watched Value}
    (unseen : (Watches.contents watched).unseen = true) :
    (Watches.changed watched).1 = .changed ∧
    Watches.contents (Watches.changed watched).2 =
      { Watches.contents watched with unseen := false }
  changed_pending
    {Value : Type}
    {watched : Watched Value}
    (seen : (Watches.contents watched).unseen = false)
    (alive : (Watches.contents watched).hasSender = true) :
    (Watches.changed watched).1 = .pending ∧
    Watches.contents (Watches.changed watched).2 = Watches.contents watched
  changed_closed
    {Value : Type}
    {watched : Watched Value}
    (seen : (Watches.contents watched).unseen = false)
    (gone : (Watches.contents watched).hasSender = false) :
    (Watches.changed watched).1 = .closed ∧
    Watches.contents (Watches.changed watched).2 = Watches.contents watched
  dropSender {Value : Type} (watched : Watched Value) :
    Watches.contents (Watches.dropSender watched) =
      (Watches.contents watched).dropSender
  dropReceiver {Value : Type} (watched : Watched Value) :
    Watches.contents (Watches.dropReceiver watched) =
      (Watches.contents watched).dropReceiver

/-- What changes as a runtime promises is itself a watched value. -/
instance : Watches Watch where
  channel := .new
  borrow := Watch.value
  send := Watch.send
  changed := Watch.changed
  dropSender := Watch.dropSender
  dropReceiver := Watch.dropReceiver
  contents := id

instance : LawfulWatches Watch where
  channel _ := rfl
  borrow _ := rfl
  send_received value watched alive := by
    simp_all [Watches.send, Watches.contents, Watch.send]
  send_dropped value watched gone := by
    simp_all [Watches.send, Watches.contents, Watch.send]
  changed_unseen unseen := by
    simp_all [Watches.changed, Watches.contents, Watch.changed]
  changed_pending seen alive := by
    simp_all [Watches.changed, Watches.contents, Watch.changed]
  changed_closed seen gone := by
    simp_all [Watches.changed, Watches.contents, Watch.changed]
  dropSender _ := rfl
  dropReceiver _ := rfl

section

variable {Watched : Type → Type}
variable {Value : Type}
variable [Watches Watched] [LawfulWatches Watched]

/-- Replacing the value does so in what there is to know about it. -/
theorem contents_send
    (value : Value)
    (watched : Watched Value) :
    Watches.send value (Watches.contents watched) =
      ((Watches.send value watched).1,
        Watches.contents (Watches.send value watched).2) := by
  cases alive : (Watches.contents watched).hasReceiver with
  | false =>
      obtain ⟨sent, same⟩ := LawfulWatches.send_dropped value alive
      simp [Watches.send, Watch.send, alive, sent, same]
  | true =>
      obtain ⟨sent, same⟩ := LawfulWatches.send_received value alive
      simp [Watches.send, Watch.send, alive, sent, same]

/-- A wait ends as what there is to know about the value says. -/
theorem contents_changed (watched : Watched Value) :
    Watches.changed (Watches.contents watched) =
      ((Watches.changed watched).1,
        Watches.contents (Watches.changed watched).2) := by
  cases unseen : (Watches.contents watched).unseen with
  | true =>
      obtain ⟨told, same⟩ := LawfulWatches.changed_unseen unseen
      simp [Watches.changed, Watch.changed, unseen, told, same]
  | false =>
      cases alive : (Watches.contents watched).hasSender with
      | false =>
          obtain ⟨told, same⟩ := LawfulWatches.changed_closed unseen alive
          simp [Watches.changed, Watch.changed, unseen, alive, told, same]
      | true =>
          obtain ⟨told, same⟩ := LawfulWatches.changed_pending unseen alive
          simp [Watches.changed, Watch.changed, unseen, alive, told, same]

/-- Losing the last sender shows in what there is to know. -/
theorem contents_dropSender (watched : Watched Value) :
    Watches.dropSender (Watches.contents watched) =
      Watches.contents (Watches.dropSender watched) :=
  (LawfulWatches.dropSender watched).symm

/-- Losing the receiver shows in what there is to know. -/
theorem contents_dropReceiver (watched : Watched Value) :
    Watches.dropReceiver (Watches.contents watched) =
      Watches.contents (Watches.dropReceiver watched) :=
  (LawfulWatches.dropReceiver watched).symm

end

end WatchChannel
