import Mathlib.Data.List.Basic
import Waker.Text

namespace Text

/-!
# Searching for fixed patterns

The tests `starts_with` and `contains` of a string slice, and what they say
about a concatenation.  A symbol that does not occur in a pattern separates:
an occurrence of the pattern lies on one side of it.
-/

/-- `str::starts_with`. -/
def startsWith (pattern text : List Char) : Bool :=
  pattern.isPrefixOf text

/-- `str::contains`. -/
def contains (pattern text : List Char) : Bool :=
  decide (pattern <:+: text)

/-- `str::to_ascii_lowercase`. -/
def toAsciiLowercase (text : List Char) : List Char :=
  text.map Char.toLower

@[simp] theorem startsWith_iff
    {pattern text : List Char} :
    startsWith pattern text = true ↔ pattern <+: text :=
  List.isPrefixOf_iff_prefix

@[simp] theorem contains_iff
    {pattern text : List Char} :
    contains pattern text = true ↔ pattern <:+: text :=
  decide_eq_true_iff

@[simp] theorem toAsciiLowercase_append
    (first second : List Char) :
    toAsciiLowercase (first ++ second) =
      toAsciiLowercase first ++ toAsciiLowercase second :=
  List.map_append

section Patterns

variable {α : Type}
variable {pattern left right : List α}

/-- A pattern without the separator cannot reach beyond it from the left. -/
theorem prefix_append_cons_iff
    {separator : α}
    (absent : separator ∉ pattern) :
    pattern <+: left ++ separator :: right ↔ pattern <+: left := by
  induction left generalizing pattern with
  | nil =>
      cases pattern with
      | nil =>
          simp
      | cons symbol rest =>
          have differs : symbol ≠ separator :=
            fun same => absent (by simp [same])
          simp [List.cons_prefix_cons, differs]
  | cons head left inductionHypothesis =>
      cases pattern with
      | nil =>
          simp
      | cons symbol rest =>
          rw [List.cons_append, List.cons_prefix_cons, List.cons_prefix_cons,
            inductionHypothesis (List.not_mem_of_not_mem_cons absent)]

/-- A text that no pattern continues decides whether the pattern matches. -/
theorem prefix_append_iff_of_stop
    (stop : left <+: pattern → left = pattern) :
    pattern <+: left ++ right ↔ pattern <+: left := by
  constructor
  · intro found
    rcases List.prefix_or_prefix_of_prefix found
        (List.prefix_append left right) with inside | longer
    · exact inside
    · exact (stop longer) ▸ List.prefix_refl left
  · intro found
    exact found.trans (List.prefix_append left right)

/--
A pattern whose separator can only be its first symbol occurs left of the
separator, right of it, or begins exactly there.
-/
theorem infix_append_cons_iff
    {first separator : α}
    (absent : separator ∉ pattern) :
    first :: pattern <:+: left ++ separator :: right ↔
      first :: pattern <:+: left ∨
        (first = separator ∧ pattern <+: right) ∨
        first :: pattern <:+: right := by
  induction left with
  | nil =>
      rw [List.nil_append, List.infix_cons_iff, List.cons_prefix_cons]
      simp
  | cons symbol left inductionHypothesis =>
      rw [List.cons_append, List.infix_cons_iff, inductionHypothesis,
        List.infix_cons_iff, List.cons_prefix_cons, List.cons_prefix_cons,
        prefix_append_cons_iff absent, or_assoc]

/-- Symbols other than the first of a pattern can be skipped. -/
theorem infix_append_iff_of_first_not_mem
    {first : α}
    (absent : first ∉ left) :
    first :: pattern <:+: left ++ right ↔ first :: pattern <:+: right := by
  induction left with
  | nil =>
      simp
  | cons symbol left inductionHypothesis =>
      have differs : first ≠ symbol :=
        fun same => absent (by simp [same])
      rw [List.cons_append, List.infix_cons_iff, List.cons_prefix_cons,
        inductionHypothesis (List.not_mem_of_not_mem_cons absent)]
      simp [differs]

/--
A run of the pattern's first symbol can be skipped when neither a further copy
of it nor the next symbol continues the pattern.
-/
theorem infix_replicate_append_cons_iff
    {first second next : α}
    {count : Nat}
    (repeated : second ≠ first)
    (continued : second ≠ next) :
    first :: second :: pattern <:+:
        List.replicate count first ++ next :: right ↔
      first :: second :: pattern <:+: next :: right := by
  induction count with
  | zero =>
      simp
  | succ count inductionHypothesis =>
      have blocked :
          ¬ second :: pattern <+:
            List.replicate count first ++ next :: right := by
        intro found
        cases count with
        | zero =>
            exact continued (List.cons_prefix_cons.mp found).1
        | succ count =>
            exact repeated (List.cons_prefix_cons.mp found).1
      rw [List.replicate_succ, List.cons_append, List.infix_cons_iff,
        List.cons_prefix_cons, inductionHypothesis]
      simp [blocked]

end Patterns

end Text
