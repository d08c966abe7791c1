import Waker.PatternSearch
import Waker.Lines

namespace Http

open Text

/-!
# The head of an HTTP message

A head is a list of lines, each with its line end, and an empty line.  Its end
is the first empty line of the message, and its lines are the first lines of
the message, whatever the body is.
-/

section Head

variable {α : Type}

/-- Lines with their ends, before an empty line. -/
def headOf (cr lf : α) (lines : List (List α)) : List α :=
  lines.flatMap (fun line => line ++ [cr, lf]) ++ [cr, lf]

@[simp] theorem headOf_nil
    (cr lf : α) :
    headOf cr lf [] = [cr, lf] :=
  rfl

@[simp] theorem headOf_cons
    (cr lf : α)
    (line : List α)
    (lines : List (List α)) :
    headOf cr lf (line :: lines) =
      line ++ cr :: lf :: headOf cr lf lines := by
  simp [headOf]

/-- A head whose symbols are replaced is the head of the replaced lines. -/
theorem map_headOf
    {β : Type}
    (symbol : α → β)
    (cr lf : α)
    (lines : List (List α)) :
    (headOf cr lf lines).map symbol =
      headOf (symbol cr) (symbol lf) (lines.map fun line =>
        line.map symbol) := by
  induction lines with
  | nil =>
      rfl
  | cons line rest inductionHypothesis =>
      simp [inductionHypothesis]

/-- The lines of a head are not empty and contain no carriage return. -/
def HeadLines (cr : α) (lines : List (List α)) : Prop :=
  ∀ line, line ∈ lines → line ≠ [] ∧ cr ∉ line

/-- A head that goes on begins with a symbol of its next line. -/
theorem not_prefix_headOf_cons
    {cr lf : α}
    {line : List α}
    (separate : line ≠ [] ∧ cr ∉ line)
    (lines : List (List α))
    (pattern rest : List α) :
    ¬ cr :: pattern <+: headOf cr lf (line :: lines) ++ rest := by
  obtain ⟨nonempty, noReturn⟩ := separate
  cases line with
  | nil =>
      exact (nonempty rfl).elim
  | cons symbol others =>
      intro found
      rw [headOf_cons, List.cons_append, List.cons_append,
        List.cons_prefix_cons] at found
      exact noReturn (by simp [found.1])

variable [DecidableEq α]

/-- The first empty line of a message ends its head. -/
theorem find?_headOf
    {cr lf : α}
    (different : cr ≠ lf)
    {first : List α}
    {lines : List (List α)}
    (separate : HeadLines cr (first :: lines))
    (rest : List α) :
    ∃ position,
      find? [cr, lf, cr, lf] (headOf cr lf (first :: lines) ++ rest) =
          some position ∧
        position + 4 = (headOf cr lf (first :: lines)).length := by
  induction lines generalizing first with
  | nil =>
      have clear : Clear [cr, lf, cr, lf] first :=
        clear_of_first_not_mem (separate first (by simp)).2
      refine ⟨first.length, ?_, by simp⟩
      rw [headOf_cons, headOf_nil, List.append_assoc,
        find?_append_of_clear clear]
      simp [find?]
  | cons next others inductionHypothesis =>
      have clear : Clear [cr, lf, cr, lf] first :=
        clear_of_first_not_mem (separate first (by simp)).2
      have later : HeadLines cr (next :: others) :=
        fun line member => separate line (List.mem_cons_of_mem first member)
      have notHere :
          ¬ [cr, lf] <+: headOf cr lf (next :: others) ++ rest :=
        not_prefix_headOf_cons (later next (by simp)) others [lf] rest
      obtain ⟨position, found, length⟩ := inductionHypothesis later
      refine ⟨first.length + 2 + position, ?_, ?_⟩
      · rw [headOf_cons, List.append_assoc, find?_append_of_clear clear,
          List.cons_append, List.cons_append, find?, if_neg, find?, if_neg,
          found]
        · simp
          omega
        · rw [List.isPrefixOf_iff_prefix, List.cons_prefix_cons]
          exact fun here => different here.1
        · rw [List.isPrefixOf_iff_prefix, List.cons_prefix_cons,
            List.cons_prefix_cons]
          exact fun here => notHere here.2.2
      · rw [headOf_cons, List.length_append, List.length_cons,
          List.length_cons, ← length]
        omega

end Head

/-- The head of a message. -/
def head (lines : List (List Char)) : List Char :=
  headOf '\r' '\n' lines

/-- A character of a head ends a line or stands in one. -/
theorem mem_head
    {lines : List (List Char)}
    {char : Char}
    (member : char ∈ head lines) :
    char = '\r' ∨ char = '\n' ∨ ∃ line, line ∈ lines ∧ char ∈ line := by
  simp only [head, headOf, List.mem_append, List.mem_flatMap,
    List.mem_cons, List.not_mem_nil, or_false] at member
  rcases member with ⟨line, inLines, inLine | ends⟩ | ends
  · exact .inr (.inr ⟨line, inLines, inLine⟩)
  · exact ends.elim .inl fun feed => .inr (.inl feed)
  · exact ends.elim .inl fun feed => .inr (.inl feed)

/-- The lines of a head are the first lines of the message. -/
theorem lines_head_append
    {lines : List (List Char)}
    (feedless : ∀ line, line ∈ lines → '\n' ∉ line)
    (body : List Char) :
    Text.lines (head lines ++ body) = lines ++ [] :: Text.lines body := by
  unfold head
  induction lines with
  | nil =>
      exact lines_line_feed (by decide : '\n' ∉ ['\r']) body
  | cons line rest inductionHypothesis =>
      rw [List.forall_mem_cons] at feedless
      have returned : '\n' ∉ line ++ ['\r'] := by
        simp [feedless.1]
      have stripped : stripCarriageReturn (line ++ ['\r']) = line := by
        simp [stripCarriageReturn]
      rw [headOf_cons, List.append_assoc, List.cons_append, List.cons_append,
        List.append_cons, lines_line_feed returned,
        inductionHypothesis feedless.2, stripped]
      rfl

end Http
