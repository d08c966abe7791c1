import Mathlib.Algebra.GroupWithZero.Nat
import Mathlib.Data.List.Basic
import Mathlib.Order.Bounds.Basic
import Mathlib.Order.Nat

namespace Waker

/-!
# Offsets in UTF-16 units

Android counts UTF-16 units where egui counts characters.  Going from a
character to its offset and back leads to the same character, and an offset
leads to the first character that does not begin before it: the two conversions
are adjoint.
-/

/-- `char::len_utf16`. -/
def lenUtf16 (char : Char) : Nat :=
  if char.toNat < 0x10000 then 1 else 2

/-- The offset of a character. -/
def charIndexToUtf16 (text : List Char) (charIndex : Nat) : Nat :=
  ((text.take charIndex).map lenUtf16).sum

/-- The search for a character, after some units and characters. -/
def utf16IndexToCharFrom (utf16Index : Nat) :
    Nat → Nat → List Char → Nat
  | _, index, [] => index
  | units, index, char :: rest =>
      if utf16Index ≤ units then
        index
      else if utf16Index ≤ units + lenUtf16 char then
        index + 1
      else
        utf16IndexToCharFrom utf16Index (units + lenUtf16 char) (index + 1)
          rest

/-- The character at an offset. -/
def utf16IndexToChar (text : List Char) (utf16Index : Nat) : Nat :=
  utf16IndexToCharFrom utf16Index 0 0 text

/-- A character takes at least one unit. -/
theorem lenUtf16_pos
    (char : Char) :
    0 < lenUtf16 char := by
  unfold lenUtf16
  split
  · exact Nat.one_pos
  · exact Nat.two_pos

@[simp] theorem charIndexToUtf16_zero
    (text : List Char) :
    charIndexToUtf16 text 0 = 0 :=
  rfl

@[simp] theorem charIndexToUtf16_cons_succ
    (char : Char)
    (text : List Char)
    (charIndex : Nat) :
    charIndexToUtf16 (char :: text) (charIndex + 1) =
      lenUtf16 char + charIndexToUtf16 text charIndex := by
  simp [charIndexToUtf16]

/-- Offsets are not smaller than character indices. -/
theorem le_charIndexToUtf16
    {text : List Char}
    {charIndex : Nat}
    (inside : charIndex ≤ text.length) :
    charIndex ≤ charIndexToUtf16 text charIndex := by
  induction text generalizing charIndex with
  | nil =>
      rw [List.length_nil, Nat.le_zero] at inside
      rw [inside]
      exact Nat.zero_le _
  | cons char rest inductionHypothesis =>
      cases charIndex with
      | zero =>
          exact Nat.zero_le _
      | succ charIndex =>
          have later := inductionHypothesis (Nat.le_of_succ_le_succ inside)
          have positive := lenUtf16_pos char
          rw [charIndexToUtf16_cons_succ]
          omega

/-- The search finds the character whose offset it is given. -/
theorem utf16IndexToCharFrom_charIndexToUtf16
    {text : List Char}
    {charIndex : Nat}
    (inside : charIndex ≤ text.length)
    (units index : Nat) :
    utf16IndexToCharFrom (units + charIndexToUtf16 text charIndex) units
        index text =
      index + charIndex := by
  induction text generalizing charIndex units index with
  | nil =>
      rw [List.length_nil, Nat.le_zero] at inside
      rw [inside]
      rfl
  | cons char rest inductionHypothesis =>
      cases charIndex with
      | zero =>
          simp [utf16IndexToCharFrom]
      | succ charIndex =>
          have insideRest := Nat.le_of_succ_le_succ inside
          have positive := lenUtf16_pos char
          rw [charIndexToUtf16_cons_succ, utf16IndexToCharFrom,
            if_neg (by omega), ← Nat.add_assoc]
          split
          · rename_i ends
            have bound := le_charIndexToUtf16 insideRest
            omega
          · rw [inductionHypothesis insideRest]
            omega

/-- A character is found at its offset. -/
theorem utf16IndexToChar_charIndexToUtf16
    {text : List Char}
    {charIndex : Nat}
    (inside : charIndex ≤ text.length) :
    utf16IndexToChar text (charIndexToUtf16 text charIndex) = charIndex := by
  have found := utf16IndexToCharFrom_charIndexToUtf16 inside 0 0
  rwa [Nat.zero_add, Nat.zero_add] at found

/-- The offset begins a character or ends the text. -/
def OnBoundary (text : List Char) (utf16Index : Nat) : Prop :=
  ∃ charIndex,
    charIndex ≤ text.length ∧ utf16Index = charIndexToUtf16 text charIndex

/-- The boundaries of a text are tried one by one. -/
instance (text : List Char) (utf16Index : Nat) :
    Decidable (OnBoundary text utf16Index) :=
  decidable_of_iff
    ((List.range (text.length + 1)).any fun charIndex =>
      utf16Index = charIndexToUtf16 text charIndex) <| by
    simp only [OnBoundary, List.any_eq_true, List.mem_range, Nat.lt_succ_iff,
      decide_eq_true_iff]

/-- An offset on a boundary is reached again from its character. -/
theorem charIndexToUtf16_utf16IndexToChar
    {text : List Char}
    {utf16Index : Nat}
    (onBoundary : OnBoundary text utf16Index) :
    charIndexToUtf16 text (utf16IndexToChar text utf16Index) =
      utf16Index := by
  obtain ⟨charIndex, inside, rfl⟩ := onBoundary
  rw [utf16IndexToChar_charIndexToUtf16 inside]

/-- The number of UTF-16 units of a text. -/
def utf16Length (text : List Char) : Nat :=
  (text.map lenUtf16).sum

@[simp] theorem utf16Length_cons
    (char : Char)
    (text : List Char) :
    utf16Length (char :: text) = lenUtf16 char + utf16Length text :=
  rfl

/-- An index behind the last character stands for the end of the text. -/
theorem charIndexToUtf16_of_length_le
    {text : List Char}
    {charIndex : Nat}
    (outside : text.length ≤ charIndex) :
    charIndexToUtf16 text charIndex = utf16Length text := by
  rw [charIndexToUtf16, List.take_of_length_le outside, utf16Length]

/-- Later characters do not begin before earlier ones. -/
theorem charIndexToUtf16_mono
    (text : List Char) :
    Monotone (charIndexToUtf16 text) := by
  induction text with
  | nil =>
      intro earlier later _
      simp [charIndexToUtf16]
  | cons char rest inductionHypothesis =>
      intro earlier later ordered
      cases earlier with
      | zero =>
          exact Nat.zero_le _
      | succ earlier =>
          cases later with
          | zero =>
              exact (Nat.not_succ_le_zero _ ordered).elim
          | succ later =>
              rw [charIndexToUtf16_cons_succ, charIndexToUtf16_cons_succ]
              exact Nat.add_le_add_left
                (inductionHypothesis (Nat.le_of_succ_le_succ ordered)) _

/-- The search does not go back. -/
theorem le_utf16IndexToCharFrom
    (utf16Index units index : Nat)
    (text : List Char) :
    index ≤ utf16IndexToCharFrom utf16Index units index text := by
  induction text generalizing units index with
  | nil =>
      exact Nat.le_refl index
  | cons char rest inductionHypothesis =>
      rw [utf16IndexToCharFrom]
      split
      · exact Nat.le_refl index
      · split
        · exact Nat.le_succ index
        · exact Nat.le_trans (Nat.le_succ index)
            (inductionHypothesis (units + lenUtf16 char) (index + 1))

/-- The search stops before a character exactly when the offset lies before it. -/
theorem utf16IndexToCharFrom_le_iff
    (utf16Index units index : Nat)
    (text : List Char)
    (charIndex : Nat) :
    utf16IndexToCharFrom utf16Index units index text ≤ index + charIndex ↔
      min utf16Index (units + utf16Length text) ≤
        units + charIndexToUtf16 text charIndex := by
  induction text generalizing units index charIndex with
  | nil =>
      refine iff_of_true (Nat.le_add_right _ _) ?_
      exact Nat.le_trans (Nat.min_le_right _ _)
        (Nat.add_le_add_left (Nat.zero_le _) units)
  | cons char rest inductionHypothesis =>
      have positive := lenUtf16_pos char
      rw [utf16IndexToCharFrom, utf16Length_cons]
      split
      · -- The units before the character already reach the offset.
        exact iff_of_true (Nat.le_add_right _ _) (by omega)
      · split
        · -- The character reaches the offset.
          cases charIndex with
          | zero =>
              rw [charIndexToUtf16_zero]
              exact iff_of_false (by omega) (by omega)
          | succ charIndex =>
              rw [charIndexToUtf16_cons_succ]
              exact iff_of_true (by omega) (by omega)
        · cases charIndex with
          | zero =>
              have onward :=
                le_utf16IndexToCharFrom utf16Index (units + lenUtf16 char)
                  (index + 1) rest
              rw [charIndexToUtf16_zero]
              exact iff_of_false (by omega) (by omega)
          | succ charIndex =>
              have later :=
                inductionHypothesis (units + lenUtf16 char) (index + 1)
                  charIndex
              have shifted : index + (charIndex + 1) = index + 1 + charIndex := by
                omega
              rw [charIndexToUtf16_cons_succ, shifted, ← Nat.add_assoc units,
                ← Nat.add_assoc units]
              exact later

/-- The two conversions are adjoint up to the end of the text. -/
theorem utf16IndexToChar_le_iff
    {text : List Char}
    {utf16Index charIndex : Nat} :
    utf16IndexToChar text utf16Index ≤ charIndex ↔
      min utf16Index (utf16Length text) ≤
        charIndexToUtf16 text charIndex := by
  have found := utf16IndexToCharFrom_le_iff utf16Index 0 0 text charIndex
  rwa [Nat.zero_add, Nat.zero_add, Nat.zero_add] at found

/-- What the conversions between characters and UTF-16 offsets do to a text. -/
structure OffsetsAdjoint (text : List Char) : Prop where
  inverse :
    ∀ charIndex,
      charIndex ≤ text.length →
      utf16IndexToChar text (charIndexToUtf16 text charIndex) = charIndex
  least :
    ∀ utf16Index,
      IsLeast
        {charIndex |
          min utf16Index (utf16Length text) ≤
            charIndexToUtf16 text charIndex}
        (utf16IndexToChar text utf16Index)
  roundsUp :
    ∀ charIndex utf16Index,
      charIndex < text.length →
      charIndexToUtf16 text charIndex < utf16Index →
      utf16Index ≤ charIndexToUtf16 text (charIndex + 1) →
      utf16IndexToChar text utf16Index = charIndex + 1
  charClamps :
    ∀ utf16Index,
      utf16Length text ≤ utf16Index →
      utf16IndexToChar text utf16Index = text.length
  charMonotone : Monotone (utf16IndexToChar text)
  utf16Monotone : Monotone (charIndexToUtf16 text)
  utf16Clamps :
    ∀ charIndex,
      text.length ≤ charIndex →
      charIndexToUtf16 text charIndex = utf16Length text

/-- For every text the conversions are adjoint, monotone, and clamp. -/
theorem offsetsAdjoint
    (text : List Char) :
    OffsetsAdjoint text := by
  have unitsInside (charIndex : Nat) :
      charIndexToUtf16 text charIndex ≤ utf16Length text := by
    rw [← charIndexToUtf16_of_length_le (Nat.le_max_right charIndex _)]
    exact charIndexToUtf16_mono text (Nat.le_max_left _ _)
  have reached (utf16Index : Nat) :
      min utf16Index (utf16Length text) ≤
        charIndexToUtf16 text (utf16IndexToChar text utf16Index) :=
    utf16IndexToChar_le_iff.mp (Nat.le_refl _)
  constructor
  · exact fun charIndex inside => utf16IndexToChar_charIndexToUtf16 inside
  · intro utf16Index
    exact ⟨reached utf16Index, fun charIndex reaches =>
      utf16IndexToChar_le_iff.mpr reaches⟩
  · intro charIndex utf16Index inside after upTo
    apply Nat.le_antisymm
    · exact utf16IndexToChar_le_iff.mpr
        (Nat.le_trans (Nat.min_le_left _ _) upTo)
    · apply Nat.lt_of_not_le
      intro notAfter
      have early := utf16IndexToChar_le_iff.mp notAfter
      have bounded := unitsInside (charIndex + 1)
      rw [Nat.min_eq_left (Nat.le_trans upTo bounded)] at early
      exact Nat.not_le_of_gt after early
  · intro utf16Index beyond
    have whole :
        min utf16Index (utf16Length text) =
          charIndexToUtf16 text text.length := by
      rw [Nat.min_eq_right beyond,
        charIndexToUtf16_of_length_le (Nat.le_refl _)]
    apply Nat.le_antisymm
    · exact utf16IndexToChar_le_iff.mpr (Nat.le_of_eq whole)
    · have last :=
        utf16IndexToChar_charIndexToUtf16 (Nat.le_refl text.length)
      rw [← last]
      refine utf16IndexToChar_le_iff.mpr ?_
      rw [← whole, Nat.min_assoc, Nat.min_self]
      exact reached utf16Index
  · intro earlier later ordered
    refine utf16IndexToChar_le_iff.mpr (Nat.le_trans ?_ (reached later))
    exact le_min (Nat.le_trans (Nat.min_le_left _ _) ordered)
      (Nat.min_le_right _ _)
  · exact charIndexToUtf16_mono text
  · exact fun charIndex outside => charIndexToUtf16_of_length_le outside

end Waker
