import Mathlib.Data.List.Basic

/-!
# Slot maps

A slot map gives each value that is added a handle, under which it is found
until it is removed.  The implementation belongs to someone else; what it
promises is that an operation on one handle leaves the others alone.
-/

/-- The operations of a slot map. -/
class SlotMaps (Slots : Type → Type) where
  empty {Value : Type} : Slots Value
  get? {Value : Type} : Slots Value → Nat → Option Value
  add {Value : Type} : Slots Value → Value → Nat × Slots Value
  put {Value : Type} : Slots Value → Nat → Value → Slots Value
  remove {Value : Type} : Slots Value → Nat → Slots Value

/-- What a slot map promises. -/
class LawfulSlotMaps (Slots : Type → Type) [SlotMaps Slots] : Prop where
  get?_empty {Value : Type} (handle : Nat) :
    SlotMaps.get? (SlotMaps.empty : Slots Value) handle = none
  get?_add {Value : Type} (slots : Slots Value) (value : Value) :
    SlotMaps.get? (SlotMaps.add slots value).2
      (SlotMaps.add slots value).1 = some value
  get?_add_of_ne
    {Value : Type}
    (slots : Slots Value)
    (value : Value)
    {other : Nat}
    (different : other ≠ (SlotMaps.add slots value).1) :
    SlotMaps.get? (SlotMaps.add slots value).2 other =
      SlotMaps.get? slots other
  get?_put
    {Value : Type}
    {slots : Slots Value}
    {handle : Nat}
    {held : Value}
    (present : SlotMaps.get? slots handle = some held)
    (value : Value) :
    SlotMaps.get? (SlotMaps.put slots handle value) handle = some value
  get?_put_of_ne
    {Value : Type}
    (slots : Slots Value)
    {handle other : Nat}
    (different : other ≠ handle)
    (value : Value) :
    SlotMaps.get? (SlotMaps.put slots handle value) other =
      SlotMaps.get? slots other
  get?_remove {Value : Type} (slots : Slots Value) (handle : Nat) :
    SlotMaps.get? (SlotMaps.remove slots handle) handle = none
  get?_remove_of_ne
    {Value : Type}
    (slots : Slots Value)
    {handle other : Nat}
    (different : other ≠ handle) :
    SlotMaps.get? (SlotMaps.remove slots handle) other =
      SlotMaps.get? slots other

namespace SlotMaps

variable {Slots : Type → Type}
variable [SlotMaps Slots]
variable {Value : Type}

/-- No handle holds a value. -/
def Free (slots : Slots Value) : Prop :=
  ∀ handle, get? slots handle = none

/-- Only one handle may hold a value. -/
def OnlyAt (handle : Nat) (slots : Slots Value) : Prop :=
  ∀ other, other ≠ handle → get? slots other = none

variable [LawfulSlotMaps Slots]

/-- The empty slot map is free. -/
theorem free_empty : Free (empty : Slots Value) :=
  LawfulSlotMaps.get?_empty

/-- A value added to a free slot map is alone. -/
theorem Free.onlyAt_add
    {slots : Slots Value}
    (free : Free slots)
    (value : Value) :
    OnlyAt (add slots value).1 (add slots value).2 :=
  fun other different =>
    (LawfulSlotMaps.get?_add_of_ne slots value different).trans (free other)

/-- A replaced value stays alone. -/
theorem OnlyAt.put
    {slots : Slots Value}
    {handle : Nat}
    (alone : OnlyAt handle slots)
    (value : Value) :
    OnlyAt handle (put slots handle value) :=
  fun other different =>
    (LawfulSlotMaps.get?_put_of_ne slots different value).trans
      (alone other different)

/-- Removing the only value frees the slot map. -/
theorem OnlyAt.free_remove
    {slots : Slots Value}
    {handle : Nat}
    (alone : OnlyAt handle slots) :
    Free (remove slots handle) := by
  intro other
  by_cases same : other = handle
  · subst same
    exact LawfulSlotMaps.get?_remove slots other
  · exact (LawfulSlotMaps.get?_remove_of_ne slots same).trans
      (alone other same)

end SlotMaps

/-- A growing table of slots, each free or holding a value. -/
abbrev SlotTable (Value : Type) :=
  List (Option Value)

namespace SlotTable

variable {Value : Type}

/-- The value at a handle. -/
def get? (slots : SlotTable Value) (handle : Nat) : Option Value :=
  slots[handle]?.join

/-- Put a value into the first free slot and return its handle. -/
def add : SlotTable Value → Value → Nat × SlotTable Value
  | [], value => (0, [some value])
  | none :: rest, value => (0, some value :: rest)
  | some held :: rest, value =>
      ((add rest value).1 + 1, some held :: (add rest value).2)

/-- Replace the value at a handle. -/
def put
    (slots : SlotTable Value)
    (handle : Nat)
    (value : Value) : SlotTable Value :=
  slots.set handle (some value)

/-- Free the slot at a handle. -/
def remove (slots : SlotTable Value) (handle : Nat) : SlotTable Value :=
  slots.set handle none

/-- An added value is found at its handle. -/
theorem get?_add (slots : SlotTable Value) (value : Value) :
    (add slots value).2.get? (add slots value).1 = some value := by
  induction slots with
  | nil =>
      rfl
  | cons slot rest inductionHypothesis =>
      cases slot with
      | none =>
          rfl
      | some held =>
          simpa [add, get?] using inductionHypothesis

/-- Adding a value leaves the other handles alone. -/
theorem get?_add_of_ne
    (slots : SlotTable Value)
    (value : Value)
    {other : Nat}
    (different : other ≠ (add slots value).1) :
    (add slots value).2.get? other = slots.get? other := by
  induction slots generalizing other with
  | nil =>
      cases other with
      | zero =>
          exact (different rfl).elim
      | succ other =>
          rfl
  | cons slot rest inductionHypothesis =>
      cases slot with
      | none =>
          cases other with
          | zero =>
              exact (different rfl).elim
          | succ other =>
              rfl
      | some held =>
          cases other with
          | zero =>
              rfl
          | succ other =>
              have later : other ≠ (add rest value).1 :=
                fun same => different (congrArg (· + 1) same)
              simpa [add, get?] using inductionHypothesis later

/-- A replaced value is found at its handle. -/
theorem get?_put
    {slots : SlotTable Value}
    {handle : Nat}
    {held : Value}
    (present : slots.get? handle = some held)
    (value : Value) :
    (slots.put handle value).get? handle = some value := by
  have inRange : handle < slots.length := by
    by_contra outside
    simp [get?, List.getElem?_eq_none (Nat.le_of_not_lt outside)] at present
  simp [get?, put, inRange]

/-- Replacing a value leaves the other handles alone. -/
theorem get?_put_of_ne
    (slots : SlotTable Value)
    {handle other : Nat}
    (different : other ≠ handle)
    (value : Value) :
    (slots.put handle value).get? other = slots.get? other := by
  simp [get?, put, List.getElem?_set_ne (Ne.symm different)]

/-- A freed handle holds nothing. -/
theorem get?_remove (slots : SlotTable Value) (handle : Nat) :
    (slots.remove handle).get? handle = none := by
  by_cases inRange : handle < slots.length <;>
    simp [get?, remove, inRange]

/-- Freeing a handle leaves the other handles alone. -/
theorem get?_remove_of_ne
    (slots : SlotTable Value)
    {handle other : Nat}
    (different : other ≠ handle) :
    (slots.remove handle).get? other = slots.get? other := by
  simp [get?, remove, List.getElem?_set_ne (Ne.symm different)]

/-- A change of all values is a change of each. -/
theorem get?_map
    (slots : SlotTable Value)
    (change : Value → Value)
    (handle : Nat) :
    get? (slots.map (Option.map change)) handle =
      (slots.get? handle).map change := by
  cases slot : slots[handle]? with
  | none =>
      simp [get?, slot]
  | some held =>
      cases held <;> simp [get?, slot]

/-- A table of slots is a slot map. -/
instance : SlotMaps SlotTable where
  empty := []
  get? := get?
  add := add
  put := put
  remove := remove

instance : LawfulSlotMaps SlotTable where
  get?_empty _ := rfl
  get?_add := get?_add
  get?_add_of_ne := get?_add_of_ne
  get?_put := get?_put
  get?_put_of_ne := get?_put_of_ne
  get?_remove := get?_remove
  get?_remove_of_ne := get?_remove_of_ne

end SlotTable
