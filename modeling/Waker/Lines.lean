import Mathlib.Data.List.Basic
import Waker.Text

namespace Text

/-!
# Lines of a text

How `lines` and `split_inclusive` behave on a text that is put together from
lines.  Every text is either a single part without the separator or such a
part, the separator and a further text; `cutInduction` follows that shape.
-/

/-- `[_]::join` with a separator of one character. -/
def join (separator : Char) (pieces : List (List Char)) : List Char :=
  [separator].intercalate pieces

/-- `str::split_inclusive` at one character. -/
def splitInclusive (separator : Char) : List Char → List (List Char)
  | [] => []
  | char :: rest =>
      if char = separator then
        [char] :: splitInclusive separator rest
      else
        match splitInclusive separator rest with
        | [] => [[char]]
        | piece :: pieces => (char :: piece) :: pieces

/-- A piece of a text without the line end it may carry. -/
def withoutLineEnd (piece : List Char) : List Char :=
  if piece.getLast? = some '\n' then
    stripCarriageReturn piece.dropLast
  else
    piece

/-- A text has no separator, or continues after its first one. -/
@[elab_as_elim]
theorem cutInduction
    (separator : Char)
    {motive : List Char → Prop}
    (last : ∀ part, separator ∉ part → motive part)
    (more :
      ∀ part rest,
        separator ∉ part →
        motive rest →
        motive (part ++ separator :: rest))
    (text : List Char) :
    motive text := by
  induction size : text.length using Nat.strong_induction_on
    generalizing text with
  | _ size inductionHypothesis =>
      subst size
      by_cases member : separator ∈ text
      · obtain ⟨part, rest, shape, absent⟩ :=
          List.eq_append_cons_of_mem member
        subst shape
        apply more part rest absent
        apply inductionHypothesis rest.length _ rest rfl
        simp only [List.length_append, List.length_cons]
        omega
      · exact last text member

@[simp] theorem lines_nil : lines [] = [] :=
  rfl

/-- A non-empty text without a line feed is one line. -/
theorem lines_of_feedless
    {line : List Char}
    (nonempty : line ≠ [])
    (feedless : '\n' ∉ line) :
    lines line = [line] := by
  simp only [lines, List.splitOn_eq_singleton feedless]
  cases line with
  | nil =>
      exact (nonempty rfl).elim
  | cons char rest =>
      rfl

/-- The lines before a line feed do not depend on the text after it. -/
theorem lines_append_feed
    (ended rest : List Char) :
    lines (ended ++ '\n' :: rest) =
      (split '\n' ended).map stripCarriageReturn ++ lines rest := by
  have partsOfRest := split_ne_nil '\n' rest
  unfold split at partsOfRest
  simp only [lines, split, List.splitOn_append_cons_self,
    List.dropLast_append_of_ne_nil partsOfRest,
    List.getLast?_append_of_ne_nil _ partsOfRest, List.map_append]
  split <;> simp

/-- The first line of a text ends at its first line feed. -/
theorem lines_line_feed
    {line : List Char}
    (feedless : '\n' ∉ line)
    (rest : List Char) :
    lines (line ++ '\n' :: rest) =
      stripCarriageReturn line :: lines rest := by
  simp [lines_append_feed, split, List.splitOn_eq_singleton feedless]

/-- A text that is empty or ends with a line feed. -/
def Ended (text : List Char) : Prop :=
  text = [] ∨ ∃ front, text = front ++ ['\n']

/-- An ended text contributes its lines independently of what follows. -/
theorem lines_append
    {ended : List Char}
    (endedText : Ended ended)
    (rest : List Char) :
    lines (ended ++ rest) = lines ended ++ lines rest := by
  rcases endedText with rfl | ⟨front, rfl⟩
  · simp
  · rw [List.append_assoc, List.singleton_append, lines_append_feed,
      lines_append_feed]
    simp

/-- Removing a carriage return only removes characters. -/
theorem mem_of_mem_stripCarriageReturn
    {char : Char}
    {line : List Char}
    (member : char ∈ stripCarriageReturn line) :
    char ∈ line := by
  unfold stripCarriageReturn at member
  split at member
  · exact List.dropLast_subset line member
  · exact member

/-- No line contains a line feed. -/
theorem feedless_of_mem_lines
    {line text : List Char}
    (member : line ∈ lines text) :
    '\n' ∉ line := by
  induction text using cutInduction '\n' with
  | last whole feedless =>
      by_cases empty : whole = []
      · simp [empty] at member
      · rw [lines_of_feedless empty feedless, List.mem_singleton] at member
        exact member ▸ feedless
  | more first rest feedless inductionHypothesis =>
      rw [lines_line_feed feedless, List.mem_cons] at member
      rcases member with rfl | later
      · exact fun found => feedless (mem_of_mem_stripCarriageReturn found)
      · exact inductionHypothesis later

/-- A character of a joined list is a separator or stands in a piece. -/
theorem mem_join
    {separator char : Char}
    {pieces : List (List Char)}
    (member : char ∈ join separator pieces) :
    char = separator ∨ ∃ piece, piece ∈ pieces ∧ char ∈ piece := by
  unfold join at member
  induction pieces with
  | nil =>
      cases member
  | cons piece rest inductionHypothesis =>
      cases rest with
      | nil =>
          rw [List.intercalate_singleton] at member
          exact .inr ⟨piece, by simp, member⟩
      | cons next others =>
          rw [List.intercalate_cons_cons, List.mem_append, List.mem_append,
            List.mem_singleton] at member
          rcases member with (inPiece | isSeparator) | later
          · exact .inr ⟨piece, by simp, inPiece⟩
          · exact .inl isSeparator
          · rcases inductionHypothesis later with isSeparator | ⟨found, inRest, inFound⟩
            · exact .inl isSeparator
            · exact .inr ⟨found, List.mem_cons_of_mem piece inRest, inFound⟩

/-- Splitting a joined list at the separator gives the pieces back. -/
theorem split_join
    {separator : Char}
    {pieces : List (List Char)}
    (separatorless : ∀ piece, piece ∈ pieces → separator ∉ piece)
    (nonempty : pieces ≠ []) :
    split separator (join separator pieces) = pieces :=
  List.splitOn_intercalate separator separatorless nonempty

/-- The pieces of an inclusive split make up the text. -/
@[simp] theorem flatten_splitInclusive
    (separator : Char)
    (text : List Char) :
    (splitInclusive separator text).flatten = text := by
  induction text with
  | nil =>
      rfl
  | cons char rest inductionHypothesis =>
      simp only [splitInclusive]
      split
      · simp [inductionHypothesis]
      · split <;> rename_i shape <;> rw [shape] at inductionHypothesis <;>
          simp [← inductionHypothesis]

/-- The first piece ends at the first separator. -/
theorem splitInclusive_append_cons
    {separator : Char}
    {front : List Char}
    (separatorless : separator ∉ front)
    (rest : List Char) :
    splitInclusive separator (front ++ separator :: rest) =
      (front ++ [separator]) :: splitInclusive separator rest := by
  induction front with
  | nil =>
      simp [splitInclusive]
  | cons char front inductionHypothesis =>
      have differs : char ≠ separator :=
        fun same => separatorless (by simp [same])
      simp [splitInclusive, differs,
        inductionHypothesis (List.not_mem_of_not_mem_cons separatorless)]

/-- A non-empty text without the separator is one piece. -/
theorem splitInclusive_of_not_mem
    {separator : Char}
    {text : List Char}
    (nonempty : text ≠ [])
    (separatorless : separator ∉ text) :
    splitInclusive separator text = [text] := by
  induction text with
  | nil =>
      exact (nonempty rfl).elim
  | cons char rest inductionHypothesis =>
      have differs : char ≠ separator :=
        fun same => separatorless (by simp [same])
      by_cases empty : rest = []
      · simp [empty, splitInclusive, differs]
      · simp [splitInclusive, differs,
          inductionHypothesis empty
            (List.not_mem_of_not_mem_cons separatorless)]

/-- The lines are the pieces of the inclusive split without their ends. -/
theorem lines_eq_map_splitInclusive
    (text : List Char) :
    lines text = (splitInclusive '\n' text).map withoutLineEnd := by
  induction text using cutInduction '\n' with
  | last line feedless =>
      by_cases empty : line = []
      · simp [empty, splitInclusive]
      · have noEnd : line.getLast? ≠ some '\n' :=
          fun found => feedless (List.mem_of_getLast? found)
        simp [lines_of_feedless empty feedless,
          splitInclusive_of_not_mem empty feedless, withoutLineEnd, noEnd]
  | more line rest feedless inductionHypothesis =>
      simp [lines_line_feed feedless, splitInclusive_append_cons feedless,
        inductionHypothesis, withoutLineEnd]

/-- A piece of an inclusive split: a text with the separator at its end only. -/
def IsPiece (separator : Char) (piece : List Char) : Prop :=
  ∃ front,
    separator ∉ front ∧
      (piece = front ++ [separator] ∨ piece = front ∧ front ≠ [])

/-- Pieces of which only the last may lack the separator. -/
structure Pieces (separator : Char) (pieces : List (List Char)) : Prop where
  single : ∀ piece, piece ∈ pieces → IsPiece separator piece
  ended : pieces.Pairwise fun earlier _ => separator ∈ earlier

/-- Leaving pieces out leaves pieces. -/
theorem Pieces.sublist
    {separator : Char}
    {pieces kept : List (List Char)}
    (whole : Pieces separator pieces)
    (sublist : kept.Sublist pieces) :
    Pieces separator kept where
  single := fun piece member => whole.single piece (sublist.subset member)
  ended := whole.ended.sublist sublist

/-- Pieces are split off their text again. -/
theorem splitInclusive_flatten
    {separator : Char}
    {pieces : List (List Char)}
    (whole : Pieces separator pieces) :
    splitInclusive separator pieces.flatten = pieces := by
  induction pieces with
  | nil =>
      rfl
  | cons piece rest inductionHypothesis =>
      have later := inductionHypothesis
        (whole.sublist (List.sublist_cons_self piece rest))
      obtain ⟨front, absent, rfl | ⟨rfl, nonempty⟩⟩ :=
        whole.single piece List.mem_cons_self
      · rw [List.flatten_cons, List.append_assoc, List.singleton_append,
          splitInclusive_append_cons absent, later]
      · cases rest with
        | nil =>
            simp [splitInclusive_of_not_mem nonempty absent]
        | cons next rest =>
            have ended := (List.pairwise_cons.mp whole.ended).1
            exact (absent (ended next List.mem_cons_self)).elim

/-- A text is split into pieces. -/
theorem pieces_splitInclusive
    (text : List Char) :
    Pieces '\n' (splitInclusive '\n' text) := by
  induction text using cutInduction '\n' with
  | last line feedless =>
      by_cases empty : line = []
      · rw [empty]
        exact ⟨by simp [splitInclusive], .nil⟩
      · rw [splitInclusive_of_not_mem empty feedless]
        constructor
        · intro piece member
          rw [List.mem_singleton] at member
          exact ⟨line, feedless, .inr ⟨member, empty⟩⟩
        · simp
  | more line rest feedless inductionHypothesis =>
      rw [splitInclusive_append_cons feedless]
      constructor
      · intro piece member
        rcases List.mem_cons.mp member with rfl | later
        · exact ⟨line, feedless, .inl rfl⟩
        · exact inductionHypothesis.single piece later
      · rw [List.pairwise_cons]
        exact ⟨by simp, inductionHypothesis.ended⟩

/-- The lines of a text made of pieces. -/
theorem lines_flatten
    {pieces : List (List Char)}
    (whole : Pieces '\n' pieces) :
    lines pieces.flatten = pieces.map withoutLineEnd := by
  rw [lines_eq_map_splitInclusive, splitInclusive_flatten whole]

end Text
