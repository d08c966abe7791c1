import Mathlib.Data.List.DropRight
import Waker.Substring

namespace Text

/-!
# Trimming and cutting

What trimming and the cuts at a single character do to a text that is put
together from blanks, a kernel, and separators.
-/

/-- A text of whitespace only. -/
def Blank (text : List Char) : Prop :=
  ∀ char, char ∈ text → isWhitespace char = true

instance (text : List Char) : Decidable (Blank text) :=
  inferInstanceAs (Decidable (∀ char, char ∈ text → isWhitespace char = true))

theorem blank_nil : Blank [] := by
  simp [Blank]

@[simp] theorem blank_append_iff
    {first second : List Char} :
    Blank (first ++ second) ↔ Blank first ∧ Blank second := by
  simp only [Blank, List.mem_append, or_imp, forall_and]

/-- Nothing is left of a blank text, and of no other, at its start. -/
theorem trimStart_eq_nil_iff
    {text : List Char} :
    trimStart text = [] ↔ Blank text := by
  simp [trimStart, Blank]

/-- Leading blanks are trimmed. -/
theorem trimStart_blank_append
    {blanks : List Char}
    (blank : Blank blanks)
    (text : List Char) :
    trimStart (blanks ++ text) = trimStart text :=
  List.dropWhile_append_of_pos blank

/-- Trimming the start of a text that is not blank leaves its rest alone. -/
theorem trimStart_append_of_not_blank
    {text : List Char}
    (notBlank : ¬ Blank text)
    (rest : List Char) :
    trimStart (text ++ rest) = trimStart text ++ rest := by
  rw [← trimStart_eq_nil_iff] at notBlank
  unfold trimStart at notBlank ⊢
  simp [List.dropWhile_append, notBlank]

/-- A text that begins with another character than a blank keeps its start. -/
theorem trimStart_cons
    {char : Char}
    (solid : isWhitespace char = false)
    (rest : List Char) :
    trimStart (char :: rest) = char :: rest := by
  simp [trimStart, solid]

/-- Trailing blanks are trimmed. -/
theorem trimEnd_append_blank
    {blanks : List Char}
    (blank : Blank blanks)
    (text : List Char) :
    trimEnd (text ++ blanks) = trimEnd text := by
  unfold trimEnd List.rdropWhile
  rw [List.reverse_append, List.dropWhile_append_of_pos]
  intro char member
  exact blank char (List.mem_reverse.mp member)

/-- Blanks around a text do not survive trimming. -/
theorem trim_surrounded
    {before after : List Char}
    (blankBefore : Blank before)
    (blankAfter : Blank after)
    (text : List Char) :
    trim (before ++ text ++ after) = trim text := by
  unfold trim
  by_cases blank : Blank text
  · rw [trimStart_eq_nil_iff.mpr blank, trimStart_eq_nil_iff.mpr]
    rw [blank_append_iff, blank_append_iff]
    exact ⟨⟨blankBefore, blank⟩, blankAfter⟩
  · rw [List.append_assoc, trimStart_blank_append blankBefore,
      trimStart_append_of_not_blank blank, trimEnd_append_blank blankAfter]

/-- What trimming removes is blank. -/
theorem exists_trim
    (text : List Char) :
    ∃ before after,
      Blank before ∧ Blank after ∧ text = before ++ trim text ++ after := by
  refine ⟨text.takeWhile isWhitespace,
    (trimStart text).rtakeWhile isWhitespace, ?_, ?_, ?_⟩
  · intro char member
    exact List.mem_takeWhile_imp member
  · intro char member
    exact List.mem_rtakeWhile_imp member
  · rw [List.append_assoc, trim, trimEnd, List.rdropWhile_append_rtakeWhile,
      trimStart, List.takeWhile_append_dropWhile]

/-- A text without blanks at its ends. -/
def Trimmed (text : List Char) : Prop :=
  (∀ char, text.head? = some char → isWhitespace char = false) ∧
    ∀ char, text.getLast? = some char → isWhitespace char = false

instance (text : List Char) : Decidable (Trimmed text) :=
  decidable_of_iff
    ((text.head?.all fun char => !isWhitespace char) = true ∧
      (text.getLast?.all fun char => !isWhitespace char) = true)
    (by simp [Trimmed, Option.all_eq_true])

/-- Trimming leaves a trimmed text as it is. -/
theorem trim_eq_self
    {text : List Char}
    (trimmed : Trimmed text) :
    trim text = text := by
  have start : trimStart text = text := by
    cases text with
    | nil =>
        rfl
    | cons char rest =>
        exact trimStart_cons (trimmed.1 char rfl) rest
  rw [trim, start, trimEnd, List.rdropWhile_eq_self_iff]
  intro nonempty
  simp [trimmed.2 _ (List.getLast?_eq_getLast_of_ne_nil nonempty)]

/-- Trimming a trimmed text between blanks gives it back. -/
theorem trim_padded
    {before text after : List Char}
    (blankBefore : Blank before)
    (trimmed : Trimmed text)
    (blankAfter : Blank after) :
    trim (before ++ text ++ after) = text := by
  rw [trim_surrounded blankBefore blankAfter, trim_eq_self trimmed]

/-- The result of trimming is trimmed. -/
theorem trimmed_trim
    (text : List Char) :
    Trimmed (trim text) := by
  constructor
  · intro char first
    obtain ⟨rest, shape⟩ : trim text <+: trimStart text :=
      List.rdropWhile_prefix _ _
    have starts : (trimStart text).head? = some char := by
      cases trimmed : trim text with
      | nil =>
          simp [trimmed] at first
      | cons head tail =>
          rw [← shape, trimmed]
          simpa [trimmed] using first
    have solid := List.head?_dropWhile_not isWhitespace text
    unfold trimStart at starts
    rw [starts] at solid
    simpa using solid
  · intro char final
    have nonempty : trim text ≠ [] := by
      intro empty
      simp [empty] at final
    have solid := List.rdropWhile_last_not isWhitespace (trimStart text)
      nonempty
    rw [List.getLast?_eq_getLast_of_ne_nil nonempty] at final
    rw [← Option.some.inj final]
    exact Bool.not_eq_true _ ▸ solid

/-- Trimming one end first does not change the result. -/
theorem trim_trimStart
    (text : List Char) :
    trim (trimStart text) = trim text := by
  have blank : Blank (text.takeWhile isWhitespace) :=
    fun _ member => List.mem_takeWhile_imp member
  calc trim (trimStart text)
      = trim (text.takeWhile isWhitespace ++ trimStart text ++ []) :=
        (trim_surrounded blank blank_nil _).symm
    _ = trim text := by
        rw [List.append_nil, trimStart, List.takeWhile_append_dropWhile]

/-- Trimming one end first does not change the result. -/
theorem trim_trimEnd
    (text : List Char) :
    trim (trimEnd text) = trim text := by
  have blank : Blank (text.rtakeWhile isWhitespace) :=
    fun _ member => List.mem_rtakeWhile_imp member
  calc trim (trimEnd text)
      = trim ([] ++ trimEnd text ++ text.rtakeWhile isWhitespace) :=
        (trim_surrounded blank_nil blank _).symm
    _ = trim text := by
        rw [List.nil_append, trimEnd, List.rdropWhile_append_rtakeWhile]

/-- A character other than a blank keeps the two ends apart. -/
theorem trim_append_cons
    {char : Char}
    (solid : isWhitespace char = false)
    (left right : List Char) :
    trim (left ++ char :: right) =
      trimStart left ++ char :: trimEnd right := by
  have start :
      trimStart (left ++ char :: right) = trimStart left ++ char :: right := by
    by_cases blank : Blank left
    · rw [trimStart_blank_append blank, trimStart_cons solid,
        trimStart_eq_nil_iff.mpr blank, List.nil_append]
    · exact trimStart_append_of_not_blank blank _
  have finish
      (front : List Char) :
      trimEnd (front ++ char :: right) = front ++ char :: trimEnd right := by
    unfold trimEnd List.rdropWhile
    rw [List.reverse_append, List.reverse_cons, List.append_assoc,
      List.singleton_append, List.dropWhile_append]
    split
    · rename_i blank
      rw [List.dropWhile_cons_of_neg (by simp [solid])]
      simp [List.isEmpty_iff.mp blank]
    · simp
  rw [trim, start, finish]

/-- The upper-case letters move up by 32. -/
theorem toNat_toLower_of_upper
    {char : Char}
    (least : 65 ≤ char.toNat)
    (most : char.toNat ≤ 90) :
    char.toLower.toNat = char.toNat + 32 := by
  have range : char.val ≥ 'A'.val ∧ char.val ≤ 'Z'.val := ⟨least, most⟩
  have distance : ('a'.val - 'A'.val).toNat = 32 := by
    decide
  have sum := UInt32.toNat_add char.val ('a'.val - 'A'.val)
  have lowered : char.toLower.val = char.val + ('a'.val - 'A'.val) :=
    congrArg Char.val (dif_pos range)
  simp only [Char.toNat] at least most sum ⊢
  rw [lowered, sum, distance]
  omega

/-- All other characters stay. -/
theorem toLower_eq_self
    {char : Char}
    (other : ¬ (65 ≤ char.toNat ∧ char.toNat ≤ 90)) :
    char.toLower = char :=
  dif_neg other

/-- Lower case changes no blank and produces none. -/
@[simp] theorem isWhitespace_toLower
    (char : Char) :
    isWhitespace char.toLower = isWhitespace char := by
  by_cases upper : 65 ≤ char.toNat ∧ char.toNat ≤ 90
  · have lowered := toNat_toLower_of_upper upper.1 upper.2
    have solid : isWhitespace char = false := by
      simp [isWhitespace]
      omega
    have solidLower : isWhitespace char.toLower = false := by
      simp [isWhitespace, lowered]
      omega
    rw [solid, solidLower]
  · rw [toLower_eq_self upper]

/-- Blanks stay as they are. -/
theorem toLower_of_isWhitespace
    {char : Char}
    (blank : isWhitespace char = true) :
    char.toLower = char := by
  apply toLower_eq_self
  intro upper
  simp only [isWhitespace] at blank
  simp at blank
  omega

@[simp] theorem blank_toAsciiLowercase_iff
    {text : List Char} :
    Blank (toAsciiLowercase text) ↔ Blank text := by
  simp [Blank, toAsciiLowercase]

/-- Trimming and lower case commute. -/
theorem trimStart_toAsciiLowercase
    (text : List Char) :
    trimStart (toAsciiLowercase text) =
      toAsciiLowercase (trimStart text) := by
  simp [trimStart, toAsciiLowercase, List.dropWhile_map, Function.comp_def]

section Cuts

variable {separator : Char}
variable {text left right : List Char}

/-- The characters of a text without the separator differ from it. -/
theorem differs_of_not_mem
    (absent : separator ∉ text)
    (char : Char)
    (member : char ∈ text) :
    decide (char ≠ separator) = true := by
  rw [decide_eq_true_iff]
  intro same
  exact absent (same ▸ member)

/-- A text without the separator is its own first part. -/
theorem before_of_not_mem
    (absent : separator ∉ text) :
    before separator text = text := by
  unfold before
  rw [List.takeWhile_eq_self_iff]
  exact differs_of_not_mem absent

/-- The first part ends at the first separator. -/
theorem before_append_cons
    (absent : separator ∉ left) :
    before separator (left ++ separator :: right) = left := by
  unfold before
  rw [List.takeWhile_append_of_pos (differs_of_not_mem absent)]
  simp

/-- A text is its first part, alone or followed by a separator and a rest. -/
theorem before_cases
    (separator : Char)
    (text : List Char) :
    separator ∉ before separator text ∧
      (text = before separator text ∨
        ∃ rest, text = before separator text ++ separator :: rest) := by
  by_cases member : separator ∈ text
  · obtain ⟨left, right, shape, absent⟩ :=
      List.eq_append_cons_of_mem member
    subst shape
    rw [before_append_cons absent]
    exact ⟨absent, .inr ⟨right, rfl⟩⟩
  · rw [before_of_not_mem member]
    exact ⟨member, .inl rfl⟩

/-- The parts around the first separator. -/
theorem splitOnce_append_cons
    (absent : separator ∉ left) :
    splitOnce separator (left ++ separator :: right) =
      some (left, right) := by
  have cut :
      (left ++ separator :: right).dropWhile (· ≠ separator) =
        separator :: right := by
    rw [List.dropWhile_append_of_pos (differs_of_not_mem absent)]
    simp
  simp only [splitOnce, cut, before_append_cons absent]

/-- Without the separator there is nothing to split. -/
theorem splitOnce_of_not_mem
    (absent : separator ∉ text) :
    splitOnce separator text = none := by
  have cut : text.dropWhile (· ≠ separator) = [] := by
    rw [List.dropWhile_eq_nil_iff]
    exact differs_of_not_mem absent
  simp only [splitOnce, cut]

/-- Exactly the two parts around the first separator are returned. -/
theorem splitOnce_eq_some_iff :
    splitOnce separator text = some (left, right) ↔
      separator ∉ left ∧ text = left ++ separator :: right := by
  constructor
  · intro found
    by_cases member : separator ∈ text
    · obtain ⟨first, second, shape, absent⟩ :=
        List.eq_append_cons_of_mem member
      rw [shape, splitOnce_append_cons absent, Option.some.injEq,
        Prod.mk.injEq] at found
      obtain ⟨rfl, rfl⟩ := found
      exact ⟨absent, shape⟩
    · rw [splitOnce_of_not_mem member] at found
      cases found
  · rintro ⟨absent, rfl⟩
    exact splitOnce_append_cons absent

end Cuts

end Text
