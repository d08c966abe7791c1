import Waker.Text

namespace Text

/-!
# Splitting at whitespace

What a split yields for a text that is continued: all parts but the last stay,
and the last one is continued by the first part of the continuation.
-/

section Parts

variable {α : Type*}
variable (separates : α → Bool)

/-- The last part of a text is joined to the first part of what follows. -/
theorem splitOnP_append
    (left right : List α) :
    ∃ init last first tail,
      left.splitOnP separates = init ++ [last] ∧
        right.splitOnP separates = first :: tail ∧
        (left ++ right).splitOnP separates =
          init ++ (last ++ first) :: tail := by
  induction left with
  | nil =>
      cases parts : right.splitOnP separates with
      | nil =>
          exact (List.splitOnP_ne_nil separates right parts).elim
      | cons first tail =>
          exact ⟨[], [], first, tail, rfl, rfl, parts⟩
  | cons symbol left inductionHypothesis =>
      obtain ⟨init, last, first, tail, parts, partsRight, joined⟩ :=
        inductionHypothesis
      by_cases isSeparator : separates symbol = true
      · refine ⟨[] :: init, last, first, tail, ?_, partsRight, ?_⟩
        · rw [List.splitOnP_cons_eq_if_modifyHead, if_pos isSeparator, parts]
          rfl
        · rw [List.cons_append, List.splitOnP_cons_eq_if_modifyHead,
            if_pos isSeparator, joined]
          rfl
      · cases init with
        | nil =>
            refine ⟨[], symbol :: last, first, tail, ?_, partsRight, ?_⟩
            · rw [List.splitOnP_cons_eq_if_modifyHead,
                if_neg isSeparator, parts]
              rfl
            · rw [List.cons_append, List.splitOnP_cons_eq_if_modifyHead,
                if_neg isSeparator, joined]
              rfl
        | cons head init =>
            refine ⟨(symbol :: head) :: init, last, first, tail, ?_,
              partsRight, ?_⟩
            · rw [List.splitOnP_cons_eq_if_modifyHead,
                if_neg isSeparator, parts]
              rfl
            · rw [List.cons_append, List.splitOnP_cons_eq_if_modifyHead,
                if_neg isSeparator, joined]
              rfl

/-- The first part of a text is what stands before its first separator. -/
theorem head?_splitOnP
    (text : List α) :
    (text.splitOnP separates).head? =
      some (text.takeWhile fun symbol => !separates symbol) := by
  induction text with
  | nil =>
      rfl
  | cons symbol text inductionHypothesis =>
      rw [List.splitOnP_cons_eq_if_modifyHead]
      by_cases isSeparator : separates symbol = true
      · rw [if_pos isSeparator, List.head?_cons,
          List.takeWhile_cons_of_neg (by simp [isSeparator])]
      · rw [if_neg isSeparator, List.head?_modifyHead, inductionHypothesis,
          List.takeWhile_cons_of_pos (by simp [isSeparator])]
        rfl

/-- The first part of a continued text continues the first part. -/
theorem head?_splitOnP_append
    (left right : List α) :
    ∃ first continued,
      (left.splitOnP separates).head? = some first ∧
        ((left ++ right).splitOnP separates).head? = some continued ∧
        first <+: continued := by
  obtain ⟨init, last, first, tail, parts, -, joined⟩ :=
    splitOnP_append separates left right
  rw [parts, joined]
  cases init with
  | nil =>
      exact ⟨last, last ++ first, rfl, rfl, List.prefix_append last first⟩
  | cons head init =>
      exact ⟨head, head, rfl, rfl, List.prefix_refl head⟩

end Parts

/-- A word of a text is the beginning of the same word of its continuation. -/
theorem getElem?_splitWhitespace_append
    {left : List Char}
    {index : Nat}
    {word : List Char}
    (found : (splitWhitespace left)[index]? = some word)
    (right : List Char) :
    ∃ continued,
      (splitWhitespace (left ++ right))[index]? = some continued ∧
        word <+: continued := by
  obtain ⟨init, last, first, tail, parts, -, joined⟩ :=
    splitOnP_append isWhitespace left right
  unfold splitWhitespace at found ⊢
  rw [parts, List.filter_append] at found
  rw [joined, List.filter_append]
  by_cases inside : index < (init.filter (· ≠ [])).length
  · rw [List.getElem?_append_left inside] at found ⊢
    exact ⟨word, found, List.prefix_refl word⟩
  · have beyond := Nat.le_of_not_lt inside
    rw [List.getElem?_append_right beyond] at found ⊢
    cases last with
    | nil =>
        simp at found
    | cons char last =>
        rw [List.filter_cons_of_pos (by simp), List.filter_nil] at found
        rw [List.filter_cons_of_pos (by simp)]
        cases position : index - (init.filter (· ≠ [])).length with
        | zero =>
            rw [position] at found
            cases found
            exact ⟨_, rfl, List.prefix_append _ first⟩
        | succ position =>
            rw [position] at found
            simp at found

/-- Whitespace behind a text adds no word. -/
theorem splitWhitespace_append_whitespace
    (text : List Char)
    {char : Char}
    (white : isWhitespace char = true) :
    splitWhitespace (text ++ [char]) = splitWhitespace text := by
  unfold splitWhitespace
  rw [List.splitOnP_append_cons text [] white, List.filter_append]
  simp

/-- Trimming whitespace at the end keeps the words. -/
theorem splitWhitespace_rdropWhile
    {trims : Char → Bool}
    (white : ∀ char, trims char = true → isWhitespace char = true)
    (text : List Char) :
    splitWhitespace (text.rdropWhile trims) = splitWhitespace text := by
  induction text using List.reverseRecOn with
  | nil =>
      rfl
  | append_singleton text char inductionHypothesis =>
      by_cases trimmed : trims char = true
      · rw [List.rdropWhile_concat_pos _ _ _ trimmed, inductionHypothesis,
          splitWhitespace_append_whitespace text (white char trimmed)]
      · rw [List.rdropWhile_concat_neg _ _ _ trimmed]

/-- Carriage returns at the end of a line are in none of its words. -/
theorem splitWhitespace_rdropWhile_return
    (line : List Char) :
    splitWhitespace (line.rdropWhile (· = '\r')) = splitWhitespace line := by
  refine splitWhitespace_rdropWhile (fun char isReturn => ?_) line
  rw [of_decide_eq_true isReturn]
  rfl

end Text
