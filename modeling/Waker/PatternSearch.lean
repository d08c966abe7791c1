import Waker.Substring

namespace Text

/-!
# The first occurrence of a pattern

`str::find` and `str::split_once` with a pattern of several symbols.  Positions
count symbols, so the same search also serves the windows of a byte slice.
-/

section Search

variable {α : Type}
variable {pattern text left right : List α}

/-- No occurrence of the pattern begins in the text, whatever follows it. -/
def Clear (pattern : List α) : List α → Prop
  | [] => True
  | symbol :: rest =>
      (¬ pattern <+: symbol :: rest) ∧
        (¬ symbol :: rest <+: pattern) ∧
        Clear pattern rest

/-- A text is clear of a pattern whose first symbol it does not contain. -/
theorem clear_of_first_not_mem
    {first : α}
    (absent : first ∉ text) :
    Clear (first :: pattern) text := by
  induction text with
  | nil =>
      trivial
  | cons symbol rest inductionHypothesis =>
      rw [List.mem_cons, not_or] at absent
      refine ⟨?_, ?_, inductionHypothesis absent.2⟩
      · intro found
        exact absent.1 (List.cons_prefix_cons.mp found).1
      · intro found
        exact absent.1 (List.cons_prefix_cons.mp found).1.symm

/-- Clear texts can be joined. -/
theorem clear_append
    (clearLeft : Clear pattern left)
    (clearRight : Clear pattern right) :
    Clear pattern (left ++ right) := by
  induction left with
  | nil =>
      exact clearRight
  | cons symbol rest inductionHypothesis =>
      obtain ⟨notInside, notBeyond, later⟩ := clearLeft
      refine ⟨?_, ?_, inductionHypothesis later⟩
      · intro found
        exact (List.prefix_or_prefix_of_prefix found
          (List.prefix_append (symbol :: rest) right)).elim
            notInside notBeyond
      · intro found
        exact notBeyond
          ((List.prefix_append (symbol :: rest) right).trans found)

variable [DecidableEq α]

/-- The position of the first occurrence of a pattern. -/
def find? (pattern : List α) : List α → Option Nat
  | [] => if pattern = [] then some 0 else none
  | symbol :: rest =>
      if pattern.isPrefixOf (symbol :: rest) then
        some 0
      else
        (find? pattern rest).map (· + 1)

/-- `str::split_once` at a pattern. -/
def splitOnceAt
    (pattern text : List α) : Option (List α × List α) :=
  (find? pattern text).map fun position =>
    (text.take position, text.drop (position + pattern.length))

instance decidableClear (pattern : List α) :
    (text : List α) → Decidable (Clear pattern text)
  | [] => isTrue trivial
  | _ :: rest =>
      haveI := decidableClear pattern rest
      inferInstanceAs (Decidable (_ ∧ _ ∧ _))

/-- A pattern at the beginning is found there. -/
theorem find?_append_self
    (pattern right : List α) :
    find? pattern (pattern ++ right) = some 0 := by
  cases shape : pattern ++ right with
  | nil =>
      rw [List.append_eq_nil_iff] at shape
      simp [find?, shape.1]
  | cons symbol rest =>
      have found : pattern.isPrefixOf (symbol :: rest) = true := by
        rw [List.isPrefixOf_iff_prefix, ← shape]
        exact List.prefix_append pattern right
      rw [find?, if_pos found]

/-- A clear text is skipped. -/
theorem find?_append_of_clear
    (clear : Clear pattern left)
    (right : List α) :
    find? pattern (left ++ right) =
      (find? pattern right).map (· + left.length) := by
  induction left with
  | nil =>
      simp
  | cons symbol rest inductionHypothesis =>
      obtain ⟨notInside, notBeyond, later⟩ := clear
      have notHere : ¬ pattern.isPrefixOf (symbol :: (rest ++ right)) := by
        rw [List.isPrefixOf_iff_prefix]
        intro found
        have either :=
          List.prefix_or_prefix_of_prefix found
            (List.prefix_append (symbol :: rest) right)
        exact either.elim notInside notBeyond
      rw [List.cons_append, find?, if_neg notHere,
        inductionHypothesis later, Option.map_map]
      rfl

/-- An occurrence lies inside the text. -/
theorem find?_bound
    {position : Nat}
    (found : find? pattern text = some position) :
    position + pattern.length ≤ text.length := by
  induction text generalizing position with
  | nil =>
      rw [find?] at found
      split at found
      · rename_i empty
        cases found
        simp [empty]
      · cases found
  | cons symbol rest inductionHypothesis =>
      rw [find?] at found
      split at found
      · rename_i here
        cases found
        have length := (List.isPrefixOf_iff_prefix.mp here).length_le
        omega
      · obtain ⟨later, foundLater, rfl⟩ := Option.map_eq_some_iff.mp found
        have bound := inductionHypothesis foundLater
        rw [List.length_cons]
        omega

/-- The first occurrence stays the first when a text is continued. -/
theorem find?_append_right
    {position : Nat}
    (found : find? pattern left = some position)
    (right : List α) :
    find? pattern (left ++ right) = some position := by
  induction left generalizing position with
  | nil =>
      rw [find?] at found
      split at found
      · rename_i empty
        cases found
        rw [empty]
        exact find?_append_self [] right
      · cases found
  | cons symbol rest inductionHypothesis =>
      rw [find?] at found
      split at found
      · rename_i here
        obtain ⟨kept, shape⟩ := List.isPrefixOf_iff_prefix.mp here
        cases found
        rw [← shape, List.append_assoc]
        exact find?_append_self pattern _
      · rename_i notHere
        obtain ⟨later, foundLater, rfl⟩ := Option.map_eq_some_iff.mp found
        have still :
            ¬ pattern.isPrefixOf (symbol :: (rest ++ right)) := by
          rw [List.isPrefixOf_iff_prefix] at notHere ⊢
          intro crossing
          rcases List.prefix_or_prefix_of_prefix crossing
              (List.prefix_append (symbol :: rest) right) with
            inside | beyond
          · exact notHere inside
          · have bound := find?_bound foundLater
            have length := beyond.length_le
            rw [List.length_cons] at length
            omega
        rw [List.cons_append, find?, if_neg still,
          inductionHypothesis foundLater, Option.map_some]

/-- A text is split at a pattern behind a clear text. -/
theorem splitOnceAt_append
    (clear : Clear pattern left)
    (right : List α) :
    splitOnceAt pattern (left ++ (pattern ++ right)) =
      some (left, right) := by
  rw [splitOnceAt, find?_append_of_clear clear, find?_append_self]
  simp [← List.drop_drop]

end Search

end Text
