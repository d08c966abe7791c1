import Mathlib.Data.List.Basic

/-!
# Guarded logs

A log is guarded when every event in it was allowed by the events before it.
-/

namespace GuardedLog

variable {Event : Type}

/-- Each event satisfies the guard on the events before it. -/
def Guarded
    (guard : List Event → Event → Prop)
    (log : List Event) : Prop :=
  ∀ earlier event later,
    log = earlier ++ event :: later →
    guard earlier event

variable {guard : List Event → Event → Prop}

theorem guarded_nil : Guarded guard [] := by
  intro earlier event later shape
  simp at shape

/-- A guarded log stays guarded when an allowed event is added. -/
theorem guarded_concat_iff
    {log : List Event}
    {event : Event} :
    Guarded guard (log ++ [event]) ↔ Guarded guard log ∧ guard log event := by
  constructor
  · intro guarded
    constructor
    · intro earlier other later shape
      apply guarded earlier other (later ++ [event])
      rw [shape, List.append_assoc, List.cons_append]
    · exact guarded log event [] rfl
  · rintro ⟨guarded, allowed⟩ earlier other later shape
    rcases List.eq_nil_or_concat later with rfl | ⟨front, last, rfl⟩
    · obtain ⟨rfl, same⟩ := List.append_inj' shape rfl
      cases same
      exact allowed
    · rw [List.concat_eq_append, ← List.cons_append,
        ← List.append_assoc] at shape
      obtain ⟨front, -⟩ := List.append_inj' shape rfl
      exact guarded earlier other _ front

end GuardedLog
