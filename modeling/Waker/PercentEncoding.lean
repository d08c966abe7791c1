import Waker.Utf8Text

namespace Percent

open Text

/-!
# Percent-encoding

Bytes written as unreserved URI characters and as triples of a percent sign and
two upper-case hexadecimal digits.  Decoding reads either case of a digit; it
stays in step with the variable length of the encoding because no unreserved
character is a percent sign.
-/

/-- The unreserved characters of a URI: letters, digits, and four marks. -/
def isUnreserved (char : Char) : Bool :=
  char.isAlphanum || char = '-' || char = '.' || char = '_' || char = '~'

/-- An upper-case hexadecimal digit. -/
def isUpperHexDigit (char : Char) : Bool :=
  char.isDigit || ('A' ≤ char && char ≤ 'F')

/-- Texts that consist of unreserved characters and triples, with their bytes. -/
inductive Encoded : List Char → List UInt8 → Prop where
  | nil : Encoded [] []
  | plain
      {char : Char}
      {rest : List Char}
      {bytes : List UInt8}
      (unreserved : isUnreserved char = true)
      (later : Encoded rest bytes) :
      Encoded (char :: rest) (Utf8.asciiByte char :: bytes)
  | triple
      {high low : Char}
      {highValue lowValue : Nat}
      {rest : List Char}
      {bytes : List UInt8}
      (highUpper : isUpperHexDigit high = true)
      (lowUpper : isUpperHexDigit low = true)
      (highDigit : hexDigit? high = some highValue)
      (lowDigit : hexDigit? low = some lowValue)
      (later : Encoded rest bytes) :
      Encoded ('%' :: high :: low :: rest)
        (UInt8.ofNat (highValue * 16 + lowValue) :: bytes)

/-- Percent-decoding of a text of ASCII characters. -/
def decode : List Char → Option (List UInt8)
  | [] => some []
  | '%' :: high :: low :: rest =>
      match hexDigit? high, hexDigit? low, decode rest with
      | some highValue, some lowValue, some bytes =>
          some (UInt8.ofNat (highValue * 16 + lowValue) :: bytes)
      | _, _, _ => none
  | char :: rest =>
      if char ≠ '%' ∧ char.toNat < 0x80 then
        (decode rest).map (Utf8.asciiByte char :: ·)
      else
        none

/-- The code points of the unreserved characters. -/
theorem isUnreserved_iff
    {char : Char} :
    isUnreserved char = true ↔
      (65 ≤ char.toNat ∧ char.toNat ≤ 90) ∨
        (97 ≤ char.toNat ∧ char.toNat ≤ 122) ∨
        (48 ≤ char.toNat ∧ char.toNat ≤ 57) ∨
        char = '-' ∨ char = '.' ∨ char = '_' ∨ char = '~' := by
  have classes :
      isUnreserved char =
        (decide ('A'.val ≤ char.val ∧ char.val ≤ 'Z'.val) ||
          ('a'.val ≤ char.val && char.val ≤ 'z'.val) ||
          ('0'.val ≤ char.val && char.val ≤ '9'.val) ||
          char = '-' || char = '.' || char = '_' || char = '~') :=
    rfl
  simp only [classes, Bool.or_eq_true, Bool.and_eq_true, decide_eq_true_eq,
    UInt32.le_iff_toNat_le, or_assoc]
  exact Iff.rfl

/-- An unreserved character is an ASCII character but no percent sign. -/
theorem plain_of_isUnreserved
    {char : Char}
    (unreserved : isUnreserved char = true) :
    char ≠ '%' ∧ char.toNat < 0x80 := by
  have ranges := isUnreserved_iff.mp unreserved
  have marks :
      '-'.toNat = 45 ∧ '.'.toNat = 46 ∧ '_'.toNat = 95 ∧ '~'.toNat = 126 ∧
        '%'.toNat = 37 := by
    decide
  constructor
  · rintro rfl
    cases unreserved
  · rcases ranges with
      upper | lower | digit | rfl | rfl | rfl | rfl <;> omega

/-- An upper-case hexadecimal digit is unreserved. -/
theorem isUnreserved_of_isUpperHexDigit
    {char : Char}
    (upper : isUpperHexDigit char = true) :
    isUnreserved char = true := by
  rw [isUpperHexDigit, Bool.or_eq_true, Bool.and_eq_true,
    decide_eq_true_iff, decide_eq_true_iff] at upper
  rcases upper with digit | ⟨least, most⟩
  · simp [isUnreserved, Char.isAlphanum, digit]
  · have first : 65 ≤ char.toNat := least
    have last : char.toNat ≤ 70 := most
    exact isUnreserved_iff.mpr (.inl ⟨first, Nat.le_trans last (by decide)⟩)

/-- The format of a byte is an upper-case triple of it. -/
theorem Encoded.upperHexByte
    {rest : List Char}
    {bytes : List UInt8}
    (later : Encoded rest bytes)
    (byte : UInt8) :
    Encoded ('%' :: (Text.upperHexByte byte ++ rest)) (byte :: bytes) := by
  have digits :
      ∀ value, value < 16 →
        isUpperHexDigit (upperHexDigit value) = true ∧
          hexDigit? (upperHexDigit value) = some value := by
    decide
  have bound := byte.toNat_lt
  obtain ⟨highUpper, highDigit⟩ := digits (byte.toNat / 16) (by omega)
  obtain ⟨lowUpper, lowDigit⟩ := digits (byte.toNat % 16) (by omega)
  have whole :
      UInt8.ofNat (byte.toNat / 16 * 16 + byte.toNat % 16) = byte := by
    rw [Nat.div_add_mod', UInt8.ofNat_toNat]
  have encoded := later.triple highUpper lowUpper highDigit lowDigit
  rwa [whole] at encoded

/-- Encoded texts are decoded to their bytes. -/
theorem Encoded.decode_eq
    {text : List Char}
    {bytes : List UInt8}
    (encoded : Encoded text bytes) :
    decode text = some bytes := by
  induction encoded with
  | nil =>
      rfl
  | plain unreserved later inductionHypothesis =>
      obtain ⟨noPercent, ascii⟩ := plain_of_isUnreserved unreserved
      rw [decode, if_pos ⟨noPercent, ascii⟩, inductionHypothesis]
      · rfl
      · rintro high low rest rfl
        exact (noPercent rfl).elim
  | triple highUpper lowUpper highDigit lowDigit later inductionHypothesis =>
      rw [decode, highDigit, lowDigit, inductionHypothesis]

/-- An encoded text stands for one sequence of bytes only. -/
theorem Encoded.unique
    {text : List Char}
    {first second : List UInt8}
    (encodedFirst : Encoded text first)
    (encodedSecond : Encoded text second) :
    first = second :=
  Option.some.inj (encodedFirst.decode_eq.symm.trans encodedSecond.decode_eq)

/-- No character of an encoded text is reserved or outside a URI. -/
theorem Encoded.mem
    {text : List Char}
    {bytes : List UInt8}
    (encoded : Encoded text bytes)
    {char : Char}
    (member : char ∈ text) :
    isUnreserved char = true ∨ char = '%' := by
  induction encoded with
  | nil =>
      cases member
  | plain unreserved later inductionHypothesis =>
      rcases List.mem_cons.mp member with rfl | inRest
      · exact .inl unreserved
      · exact inductionHypothesis inRest
  | triple highUpper lowUpper highDigit lowDigit later inductionHypothesis =>
      simp only [List.mem_cons] at member
      rcases member with rfl | rfl | rfl | inRest
      · exact .inr rfl
      · exact .inl (isUnreserved_of_isUpperHexDigit highUpper)
      · exact .inl (isUnreserved_of_isUpperHexDigit lowUpper)
      · exact inductionHypothesis inRest

end Percent
