import Mathlib.Data.List.Basic
import Waker.Text

namespace Text

/-!
# Hexadecimal bytes

`u8::from_str_radix` with radix 16 and the format `{:02X}`.  The parser accepts
one leading plus sign; the format never produces one.
-/

/-- `str::len`: the bytes a text takes in UTF-8. -/
def utf8Length (text : List Char) : Nat :=
  (text.map Char.utf8Size).sum

/-- `char::to_digit` with radix 16. -/
def hexDigit? (char : Char) : Option Nat :=
  if '0' ≤ char ∧ char ≤ '9' then
    some (char.toNat - '0'.toNat)
  else if 'a' ≤ char ∧ char ≤ 'f' then
    some (char.toNat - 'a'.toNat + 10)
  else if 'A' ≤ char ∧ char ≤ 'F' then
    some (char.toNat - 'A'.toNat + 10)
  else
    none

/-- Accumulate hexadecimal digits, checking each step against the maximum. -/
def parseHexDigits
    (maximum : Nat) : Nat → List Char → Except IntErrorKind Nat
  | value, [] => .ok value
  | value, char :: rest =>
      match hexDigit? char with
      | none => .error .invalidDigit
      | some digit =>
          if value * 16 + digit ≤ maximum then
            parseHexDigits maximum (value * 16 + digit) rest
          else
            .error .posOverflow

/-- `u8::from_str_radix` with radix 16. -/
def parseHexByte (text : List Char) : Except IntErrorKind UInt8 :=
  match text with
  | [] => .error .empty
  | first :: rest =>
      if first = '+' then
        match rest with
        | [] => .error .invalidDigit
        | digits => (parseHexDigits 255 0 digits).map UInt8.ofNat
      else
        (parseHexDigits 255 0 text).map UInt8.ofNat

/-- The upper-case digit of a value below 16. -/
def upperHexDigit (value : Nat) : Char :=
  if value < 10 then
    Char.ofNat ('0'.toNat + value)
  else
    Char.ofNat ('A'.toNat + (value - 10))

/-- The format `{:02X}` of a byte. -/
def upperHexByte (byte : UInt8) : List Char :=
  [upperHexDigit (byte.toNat / 16), upperHexDigit (byte.toNat % 16)]

/-- A hexadecimal digit of either case. -/
def IsHexDigit (char : Char) : Prop :=
  (hexDigit? char).isSome = true

instance (char : Char) : Decidable (IsHexDigit char) :=
  inferInstanceAs (Decidable (_ = true))

/-- The code points of the digits. -/
theorem isHexDigit_iff
    {char : Char} :
    IsHexDigit char ↔
      (48 ≤ char.toNat ∧ char.toNat ≤ 57) ∨
        (97 ≤ char.toNat ∧ char.toNat ≤ 102) ∨
        (65 ≤ char.toNat ∧ char.toNat ≤ 70) := by
  have decimal : '0' ≤ char ∧ char ≤ '9' ↔
      48 ≤ char.toNat ∧ char.toNat ≤ 57 := Iff.rfl
  have lower : 'a' ≤ char ∧ char ≤ 'f' ↔
      97 ≤ char.toNat ∧ char.toNat ≤ 102 := Iff.rfl
  have upper : 'A' ≤ char ∧ char ≤ 'F' ↔
      65 ≤ char.toNat ∧ char.toNat ≤ 70 := Iff.rfl
  simp only [IsHexDigit, hexDigit?, decimal, lower, upper]
  split <;> rename_i first
  · simp [first]
  · split <;> rename_i second
    · simp [second]
    · split <;> rename_i third <;> simp [first, second, third]

/-- A fact about all ASCII characters holds of every digit. -/
theorem IsHexDigit.of_ascii
    {property : Char → Prop}
    (checked :
      ∀ code, code < 128 →
        IsHexDigit (Char.ofNat code) → property (Char.ofNat code))
    {char : Char}
    (digit : IsHexDigit char) :
    property char := by
  have small : char.toNat < 128 := by
    have ranges := isHexDigit_iff.mp digit
    omega
  have known := checked char.toNat small
  rw [Char.ofNat_toNat] at known
  exact known digit

/-- A digit takes one byte. -/
theorem IsHexDigit.utf8Size
    {char : Char}
    (digit : IsHexDigit char) :
    char.utf8Size = 1 := by
  apply IsHexDigit.of_ascii _ digit
  decide

/-- The value of a digit is below 16, and its digit is the upper-case one. -/
theorem IsHexDigit.exists_value
    {char : Char}
    (digit : IsHexDigit char) :
    ∃ value,
      hexDigit? char = some value ∧
        value < 16 ∧ upperHexDigit value = char.toUpper := by
  apply IsHexDigit.of_ascii _ digit
  intro code small isDigit
  have checked :
      ∀ code, code < 128 →
      ∀ value, value ∈ hexDigit? (Char.ofNat code) →
        value < 16 ∧ upperHexDigit value = (Char.ofNat code).toUpper := by
    decide
  obtain ⟨value, found⟩ := Option.isSome_iff_exists.mp isDigit
  exact ⟨value, found, checked code small value found⟩

/-- A digit is none of the characters used around digits. -/
theorem IsHexDigit.ne
    {char : Char}
    (digit : IsHexDigit char) :
    char ≠ '+' ∧ char ≠ ':' ∧ char ≠ '-' := by
  apply IsHexDigit.of_ascii _ digit
  decide

/-- Digits of one byte: two digits, or one behind a plus sign. -/
inductive HexByteText : List Char → UInt8 → Prop where
  | pair
      {high low : Char}
      {highValue lowValue : Nat}
      (highDigit : hexDigit? high = some highValue)
      (lowDigit : hexDigit? low = some lowValue) :
      HexByteText [high, low] (UInt8.ofNat (highValue * 16 + lowValue))
  | signed
      {low : Char}
      {lowValue : Nat}
      (lowDigit : hexDigit? low = some lowValue) :
      HexByteText ['+', low] (UInt8.ofNat lowValue)

/-- The values behind a digit text. -/
theorem hexDigit?_bound
    {char : Char}
    {value : Nat}
    (found : hexDigit? char = some value) :
    IsHexDigit char ∧ value < 16 ∧ upperHexDigit value = char.toUpper := by
  have digit : IsHexDigit char := by
    simp [IsHexDigit, found]
  obtain ⟨known, foundKnown, bound, upper⟩ := digit.exists_value
  rw [found, Option.some.injEq] at foundKnown
  rw [foundKnown]
  exact ⟨digit, bound, upper⟩

/-- A single digit is parsed to its value. -/
theorem parseHexDigits_digit
    {start value : Nat}
    {char : Char}
    (found : hexDigit? char = some value)
    (small : start * 16 + value ≤ 255)
    (rest : List Char) :
    parseHexDigits 255 start (char :: rest) =
      parseHexDigits 255 (start * 16 + value) rest := by
  simp [parseHexDigits, found, small]

/-- A parsed text begins with a digit. -/
theorem parseHexDigits_cons_ok
    {start result : Nat}
    {char : Char}
    {rest : List Char}
    (parsed : parseHexDigits 255 start (char :: rest) = .ok result) :
    ∃ value,
      hexDigit? char = some value ∧
        parseHexDigits 255 (start * 16 + value) rest = .ok result := by
  simp only [parseHexDigits] at parsed
  cases found : hexDigit? char with
  | none =>
      simp [found] at parsed
  | some value =>
      simp only [found] at parsed
      split at parsed
      · exact ⟨value, rfl, parsed⟩
      · cases parsed

/-- A byte comes out of the digits after an optional plus sign. -/
theorem parseHexByte_ok
    {first : Char}
    {rest : List Char}
    {byte : UInt8}
    (parsed : parseHexByte (first :: rest) = .ok byte) :
    ∃ digits value,
      (first = '+' ∧ digits = rest ∧ rest ≠ [] ∨ digits = first :: rest) ∧
        parseHexDigits 255 0 digits = .ok value ∧
        byte = UInt8.ofNat value := by
  have converted {digits : List Char}
      (result :
        (parseHexDigits 255 0 digits).map UInt8.ofNat = .ok byte) :
      ∃ value,
        parseHexDigits 255 0 digits = .ok value ∧
          byte = UInt8.ofNat value := by
    cases inner : parseHexDigits 255 0 digits with
    | error kind =>
        simp [inner, Except.map] at result
    | ok value =>
        simp only [inner, Except.map, Except.ok.injEq] at result
        exact ⟨value, rfl, result.symm⟩
  simp only [parseHexByte] at parsed
  split at parsed
  · rename_i plus
    cases rest with
    | nil =>
        cases parsed
    | cons digit more =>
        obtain ⟨value, inner, same⟩ := converted parsed
        exact ⟨_, value, .inl ⟨plus, rfl, by simp⟩, inner, same⟩
  · obtain ⟨value, inner, same⟩ := converted parsed
    exact ⟨_, value, .inr rfl, inner, same⟩

/-- A text of two bytes that is parsed is the text of its byte. -/
theorem hexByteText_of_parseHexByte
    {text : List Char}
    {byte : UInt8}
    (size : utf8Length text = 2)
    (parsed : parseHexByte text = .ok byte) :
    HexByteText text byte := by
  cases text with
  | nil =>
      cases size
  | cons first rest =>
      obtain ⟨digits, value, shape, inner, rfl⟩ := parseHexByte_ok parsed
      have firstSize := first.utf8Size_pos
      simp only [utf8Length, List.map_cons, List.sum_cons] at size
      rcases shape with ⟨rfl, rfl, nonempty⟩ | rfl
      · cases digits with
        | nil =>
            exact (nonempty rfl).elim
        | cons low more =>
            obtain ⟨lowValue, found, later⟩ := parseHexDigits_cons_ok inner
            cases more with
            | nil =>
                simp only [parseHexDigits, Nat.zero_mul, Nat.zero_add,
                  Except.ok.injEq] at later
                rw [← later]
                exact .signed found
            | cons third more =>
                have lowSize := low.utf8Size_pos
                have thirdSize := third.utf8Size_pos
                simp only [List.map_cons, List.sum_cons] at size
                omega
      · obtain ⟨highValue, highFound, later⟩ := parseHexDigits_cons_ok inner
        have digit := (hexDigit?_bound highFound).1
        cases rest with
        | nil =>
            simp [digit.utf8Size] at size
        | cons low more =>
            obtain ⟨lowValue, lowFound, last⟩ :=
              parseHexDigits_cons_ok later
            cases more with
            | nil =>
                simp only [parseHexDigits, Nat.zero_mul, Nat.zero_add,
                  Except.ok.injEq] at last
                rw [← last]
                exact .pair highFound lowFound
            | cons third more =>
                have lowSize := low.utf8Size_pos
                have thirdSize := third.utf8Size_pos
                simp only [List.map_cons, List.sum_cons] at size
                omega

namespace HexByteText

/-- The text of a byte takes two bytes. -/
theorem utf8Length
    {text : List Char}
    {byte : UInt8}
    (digits : HexByteText text byte) :
    Text.utf8Length text = 2 := by
  cases digits with
  | pair highDigit lowDigit =>
      simp [Text.utf8Length, (hexDigit?_bound highDigit).1.utf8Size,
        (hexDigit?_bound lowDigit).1.utf8Size]
  | signed lowDigit =>
      have plus : '+'.utf8Size = 1 := by
        decide
      simp [Text.utf8Length, plus, (hexDigit?_bound lowDigit).1.utf8Size]

/-- The text of a byte is parsed to it. -/
theorem parseHexByte_eq
    {text : List Char}
    {byte : UInt8}
    (digits : HexByteText text byte) :
    parseHexByte text = .ok byte := by
  cases digits with
  | pair highDigit lowDigit =>
      obtain ⟨high, highBound, -⟩ := hexDigit?_bound highDigit
      obtain ⟨-, lowBound, -⟩ := hexDigit?_bound lowDigit
      simp only [parseHexByte, if_neg high.ne.1]
      rw [parseHexDigits_digit highDigit (by omega),
        parseHexDigits_digit lowDigit (by omega)]
      simp [parseHexDigits, Except.map]
  | signed lowDigit =>
      obtain ⟨-, lowBound, -⟩ := hexDigit?_bound lowDigit
      simp only [parseHexByte, if_true]
      rw [parseHexDigits_digit lowDigit (by omega)]
      simp [parseHexDigits, Except.map]

/-- The characters of the text of a byte are digits or plus signs. -/
theorem mem
    {text : List Char}
    {byte : UInt8}
    (digits : HexByteText text byte)
    {char : Char}
    (member : char ∈ text) :
    IsHexDigit char ∨ char = '+' := by
  cases digits with
  | pair highDigit lowDigit =>
      simp only [List.mem_cons, List.not_mem_nil, or_false] at member
      rcases member with rfl | rfl
      · exact .inl (hexDigit?_bound highDigit).1
      · exact .inl (hexDigit?_bound lowDigit).1
  | signed lowDigit =>
      simp only [List.mem_cons, List.not_mem_nil, or_false] at member
      rcases member with rfl | rfl
      · exact .inr rfl
      · exact .inl (hexDigit?_bound lowDigit).1

/-- Without a plus sign the format gives the text back in upper case. -/
theorem upperHexByte_eq
    {text : List Char}
    {byte : UInt8}
    (digits : HexByteText text byte)
    (unsigned : '+' ∉ text) :
    upperHexByte byte = text.map Char.toUpper := by
  cases digits with
  | pair highDigit lowDigit =>
      obtain ⟨-, highBound, highUpper⟩ := hexDigit?_bound highDigit
      obtain ⟨-, lowBound, lowUpper⟩ := hexDigit?_bound lowDigit
      rename_i high low highValue lowValue
      have value :
          (UInt8.ofNat (highValue * 16 + lowValue)).toNat =
            highValue * 16 + lowValue := by
        rw [UInt8.toNat_ofNat']
        omega
      have quotient : (highValue * 16 + lowValue) / 16 = highValue := by
        omega
      have remainder : (highValue * 16 + lowValue) % 16 = lowValue := by
        omega
      rw [upperHexByte, value, quotient, remainder, highUpper, lowUpper]
      rfl
  | signed lowDigit =>
      simp at unsigned

end HexByteText

/-- The format of a byte is a text of the byte. -/
theorem hexByteText_upperHexByte
    (byte : UInt8) :
    HexByteText (upperHexByte byte) byte := by
  have known :
      ∀ value, value < 16 → hexDigit? (upperHexDigit value) = some value := by
    decide
  have bound := byte.toNat_lt
  have split : byte.toNat / 16 * 16 + byte.toNat % 16 = byte.toNat := by
    omega
  have digits :=
    HexByteText.pair (known (byte.toNat / 16) (by omega))
      (known (byte.toNat % 16) (by omega))
  rw [split] at digits
  simpa [upperHexByte] using digits

end Text
