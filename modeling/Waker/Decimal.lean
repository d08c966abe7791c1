import Waker.Trimming

namespace Text

/-!
# Decimal numbers

The text of a natural number and its way back through the integer parser.
-/

/-- The text of a natural number. -/
def decimal (number : Nat) : List Char :=
  Nat.toDigits 10 number

/-- A decimal digit by its code point. -/
theorem isDigit_iff
    {char : Char} :
    char.isDigit = true ↔ 48 ≤ char.toNat ∧ char.toNat ≤ 57 := by
  unfold Char.isDigit
  rw [Bool.and_eq_true, decide_eq_true_iff, decide_eq_true_iff]
  exact Iff.rfl

/-- The parser reads the value of a decimal digit. -/
theorem digit?_of_isDigit
    {char : Char}
    (isDigit : char.isDigit = true) :
    digit? char = some (char.toNat - '0'.toNat) :=
  if_pos (isDigit_iff.mp isDigit)

/-- The characters of a number are digits. -/
theorem isDigit_of_mem_decimal
    {number : Nat}
    {char : Char}
    (member : char ∈ decimal number) :
    char.isDigit = true :=
  Nat.isDigit_of_mem_toDigits (by decide) (by decide) member

/-- The text of a number is not empty. -/
theorem decimal_ne_nil
    (number : Nat) :
    decimal number ≠ [] :=
  Nat.toDigits_ne_nil

/-- Further digits only make a number larger. -/
theorem le_ofDigitChars
    (digits : List Char)
    (start : Nat) :
    start ≤ Nat.ofDigitChars 10 digits start := by
  induction digits generalizing start with
  | nil =>
      simp
  | cons digit rest inductionHypothesis =>
      rw [Nat.ofDigitChars_cons]
      refine Nat.le_trans ?_ (inductionHypothesis _)
      omega

/-- Digits whose number fits are parsed to it. -/
theorem parseDigits_eq
    {maximum : Nat}
    {digits : List Char}
    {start : Nat}
    (areDigits : ∀ char, char ∈ digits → char.isDigit = true)
    (fits : Nat.ofDigitChars 10 digits start ≤ maximum) :
    parseDigits maximum start digits =
      .ok (Nat.ofDigitChars 10 digits start) := by
  induction digits generalizing start with
  | nil =>
      simp [parseDigits]
  | cons digit rest inductionHypothesis =>
      rw [List.forall_mem_cons] at areDigits
      rw [Nat.ofDigitChars_cons, Nat.mul_comm] at fits ⊢
      have step : start * 10 + (digit.toNat - '0'.toNat) ≤ maximum :=
        Nat.le_trans (le_ofDigitChars rest _) fits
      simp only [parseDigits, digit?_of_isDigit areDigits.1, if_pos step]
      exact inductionHypothesis areDigits.2 fits

/-- A digit is no plus sign. -/
theorem ne_plus_of_isDigit
    {char : Char}
    (isDigit : char.isDigit = true) :
    char ≠ '+' := by
  rintro rfl
  cases isDigit

/-- A number that fits is read back. -/
theorem parseUnsigned_decimal
    {maximum number : Nat}
    (fits : number ≤ maximum) :
    parseUnsigned maximum (decimal number) = .ok number := by
  have digits :
      parseDigits maximum 0 (decimal number) = .ok number := by
    have value : Nat.ofDigitChars 10 (decimal number) 0 = number :=
      Nat.ofDigitChars_ten_toDigits
    have parsed :=
      @parseDigits_eq maximum (decimal number) 0
        (fun _ member => isDigit_of_mem_decimal member) (by rwa [value])
    rwa [value] at parsed
  have nonempty := decimal_ne_nil number
  have first : ∀ char, char ∈ decimal number → char ≠ '+' :=
    fun _ member => ne_plus_of_isDigit (isDigit_of_mem_decimal member)
  cases shape : decimal number with
  | nil =>
      exact (nonempty shape).elim
  | cons char rest =>
      have notPlus : char ≠ '+' := first char (by simp [shape])
      rw [shape] at digits
      rw [← digits]
      unfold parseUnsigned
      split
      · rename_i same
        cases same
      · rename_i same
        exact (notPlus (List.cons.inj same).1).elim
      · rename_i same
        exact (notPlus (List.cons.inj same).1).elim
      · rfl

/-- A 16-bit number is read back. -/
theorem parseU16_decimal
    (number : UInt16) :
    parseU16 (decimal number.toNat) = .ok number := by
  have bound := number.toNat_lt
  rw [parseU16, parseUnsigned_decimal (by omega)]
  simp [Except.map]

/-- The parser reads nothing but decimal digits. -/
theorem isDigit_of_digit?
    {char : Char}
    {digit : Nat}
    (read : digit? char = some digit) :
    char.isDigit = true ∧ digit = char.toNat - '0'.toNat := by
  unfold digit? at read
  split at read
  · rename_i range
    exact ⟨isDigit_iff.mpr range, (Option.some.inj read).symm⟩
  · cases read

/-- Parsed digits are digits of the number, which fits. -/
theorem parseDigits_ok
    {maximum start number : Nat}
    {digits : List Char}
    (small : start ≤ maximum)
    (parsed : parseDigits maximum start digits = .ok number) :
    (∀ char, char ∈ digits → char.isDigit = true) ∧
      number = Nat.ofDigitChars 10 digits start ∧ number ≤ maximum := by
  induction digits generalizing start with
  | nil =>
      cases parsed
      exact ⟨by simp, by simp, small⟩
  | cons char rest inductionHypothesis =>
      simp only [parseDigits] at parsed
      split at parsed
      · cases parsed
      · rename_i digit read
        obtain ⟨isDigit, rfl⟩ := isDigit_of_digit? read
        split at parsed
        · rename_i fits
          obtain ⟨areDigits, value, bound⟩ :=
            inductionHypothesis fits parsed
          rw [Nat.ofDigitChars_cons, Nat.mul_comm]
          exact ⟨List.forall_mem_cons.mpr ⟨isDigit, areDigits⟩, value, bound⟩
        · cases parsed

/-- A number is read from its digits, with or without a plus sign. -/
theorem parseUnsigned_ok_iff
    {maximum number : Nat}
    {text : List Char} :
    parseUnsigned maximum text = .ok number ↔
      ∃ sign digits,
        text = sign ++ digits ∧ (sign = [] ∨ sign = ['+']) ∧ digits ≠ [] ∧
          parseDigits maximum 0 digits = .ok number := by
  constructor
  · intro parsed
    unfold parseUnsigned at parsed
    split at parsed
    · cases parsed
    · cases parsed
    · rename_i digits notAlone
      refine ⟨['+'], digits, rfl, .inr rfl, ?_, parsed⟩
      rintro rfl
      exact notAlone rfl
    · rename_i nonempty _ _
      exact ⟨[], text, rfl, .inl rfl, fun empty => nonempty empty, parsed⟩
  · rintro ⟨sign, digits, rfl, isSign, nonempty, parsed⟩
    obtain ⟨first, rest, rfl⟩ := List.exists_cons_of_ne_nil nonempty
    rcases isSign with rfl | rfl
    · have areDigits := (parseDigits_ok (Nat.zero_le _) parsed).1
      have notPlus : first ≠ '+' :=
        ne_plus_of_isDigit (areDigits first List.mem_cons_self)
      rw [List.nil_append]
      unfold parseUnsigned
      split
      · rename_i same
        cases same
      · rename_i same
        exact (notPlus (List.cons.inj same).1).elim
      · rename_i same
        exact (notPlus (List.cons.inj same).1).elim
      · exact parsed
    · exact parsed

/-- A 16-bit number is read as a number that fits. -/
theorem parseU16_ok_iff
    {text : List Char}
    {number : UInt16} :
    parseU16 text = .ok number ↔
      parseUnsigned 65535 text = .ok number.toNat := by
  unfold parseU16
  cases parsed : parseUnsigned 65535 text with
  | error error =>
      constructor
      · intro same
        cases same
      · intro same
        cases same
  | ok value =>
      obtain ⟨sign, digits, -, -, -, read⟩ := parseUnsigned_ok_iff.mp parsed
      have fits := (parseDigits_ok (Nat.zero_le _) read).2.2
      constructor
      · intro same
        rw [← Except.ok.inj same, UInt16.toNat_ofNat_of_lt']
        exact Nat.lt_succ_of_le fits
      · intro same
        rw [Except.ok.inj same]
        exact congrArg Except.ok UInt16.ofNat_toNat

/-- A digit is no blank. -/
theorem isWhitespace_of_isDigit
    {char : Char}
    (isDigit : char.isDigit = true) :
    isWhitespace char = false := by
  have digit := isDigit_iff.mp isDigit
  simp [isWhitespace]
  omega

/-- A number is written without blanks. -/
theorem trimmed_decimal
    (number : Nat) :
    Trimmed (decimal number) := by
  constructor
  · intro char first
    exact isWhitespace_of_isDigit
      (isDigit_of_mem_decimal (List.mem_of_head? first))
  · intro char final
    exact isWhitespace_of_isDigit
      (isDigit_of_mem_decimal (List.mem_of_getLast? final))

end Text
