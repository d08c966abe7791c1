import Waker.Utf8
import Waker.Hexadecimal

namespace Utf8

/-!
# Texts as bytes

`str::as_bytes` and `str::from_utf8`.  Bytes are well formed when encoding what
they decode to gives them back.  Texts of ASCII characters are one byte each,
and are read back from their bytes.
-/

/-- `str::as_bytes`. -/
def encode (text : List Char) : List UInt8 :=
  text.flatMap String.utf8EncodeChar

/-- `str::from_utf8`. -/
def fromUtf8 (bytes : List UInt8) : Option (List Char) :=
  if encode (decodeLossy bytes) = bytes then
    some (decodeLossy bytes)
  else
    none

/-- Every character is below 128. -/
def IsAscii (text : List Char) : Prop :=
  ∀ char, char ∈ text → char.toNat < 0x80

instance (text : List Char) : Decidable (IsAscii text) :=
  inferInstanceAs (Decidable (∀ char, char ∈ text → char.toNat < 0x80))

@[simp] theorem encode_append
    (first second : List Char) :
    encode (first ++ second) = encode first ++ encode second :=
  List.flatMap_append

@[simp] theorem isAscii_append_iff
    {first second : List Char} :
    IsAscii (first ++ second) ↔ IsAscii first ∧ IsAscii second := by
  simp only [IsAscii, List.mem_append, or_imp, forall_and]

@[simp] theorem isAscii_cons_iff
    {char : Char}
    {text : List Char} :
    IsAscii (char :: text) ↔ char.toNat < 0x80 ∧ IsAscii text :=
  List.forall_mem_cons

/-- Bytes that begin another text's bytes are those of its beginning. -/
theorem prefix_of_encode_prefix
    {first second : List Char}
    (begins : encode first <+: encode second) :
    first <+: second := by
  obtain ⟨bytes, same⟩ := begins
  have joined :
      first.utf8Encode ++ bytes.toByteArray = second.utf8Encode := by
    rw [List.utf8Encode, List.utf8Encode, ← List.toByteArray_append]
    exact congrArg List.toByteArray same
  exact List.isPrefix_of_utf8Encode_append_eq_utf8Encode _ joined

/-- Well-formed bytes are the bytes of their text. -/
theorem encode_of_fromUtf8
    {bytes : List UInt8}
    {text : List Char}
    (decoded : fromUtf8 bytes = some text) :
    encode text = bytes := by
  unfold fromUtf8 at decoded
  split at decoded
  · rename_i wellFormed
    cases decoded
    exact wellFormed
  · cases decoded

/-- The text of the beginning of some bytes begins the text of all of them. -/
theorem prefix_of_fromUtf8
    {start bytes : List UInt8}
    {first second : List Char}
    (decodedStart : fromUtf8 start = some first)
    (decoded : fromUtf8 bytes = some second)
    (begins : start <+: bytes) :
    first <+: second := by
  rw [← encode_of_fromUtf8 decodedStart, ← encode_of_fromUtf8 decoded]
    at begins
  exact prefix_of_encode_prefix begins

/-- A text takes as many bytes as its encoding has. -/
theorem length_encode
    (text : List Char) :
    (encode text).length = Text.utf8Length text := by
  simp [encode, Text.utf8Length, List.length_flatMap]

/-- The byte of an ASCII character. -/
def asciiByte (char : Char) : UInt8 :=
  UInt8.ofNat char.toNat

/-- An ASCII character is one byte. -/
theorem toNat_asciiByte
    {char : Char}
    (ascii : char.toNat < 0x80) :
    (asciiByte char).toNat = char.toNat := by
  simp [asciiByte]
  omega

/-- An ASCII character is read back from its byte. -/
theorem asciiChar_asciiByte
    {char : Char}
    (ascii : char.toNat < 0x80) :
    asciiChar (asciiByte char) = char := by
  rw [asciiChar, toNat_asciiByte ascii, Char.ofNat_toNat]

/-- An ASCII text takes one byte for each character. -/
theorem encode_of_isAscii
    {text : List Char}
    (ascii : IsAscii text) :
    encode text = text.map asciiByte := by
  induction text with
  | nil =>
      rfl
  | cons char rest inductionHypothesis =>
      rw [isAscii_cons_iff] at ascii
      have single : String.utf8EncodeChar char = [asciiByte char] := by
        have value : char.val.toNat ≤ 0x7F := Nat.le_of_lt_succ ascii.1
        simp only [String.utf8EncodeChar, if_pos value]
        rfl
      have later := inductionHypothesis ascii.2
      unfold encode at later
      rw [encode, List.flatMap_cons, single, later]
      rfl

/-- An ASCII text is read back from its bytes, whatever follows. -/
theorem decodeLossy_encode_append
    {text : List Char}
    (ascii : IsAscii text)
    (bytes : List UInt8) :
    decodeLossy (encode text ++ bytes) = text ++ decodeLossy bytes := by
  rw [encode_of_isAscii ascii]
  induction text with
  | nil =>
      rfl
  | cons char rest inductionHypothesis =>
      rw [isAscii_cons_iff] at ascii
      have byte : (asciiByte char).toNat < 0x80 := by
        rw [toNat_asciiByte ascii.1]
        exact ascii.1
      have first := decodeLossy_append_ascii [] byte
        (rest.map asciiByte ++ bytes)
      rw [List.nil_append, decodeLossy_nil, List.nil_append,
        inductionHypothesis ascii.2, asciiChar_asciiByte ascii.1] at first
      exact first

/-- An ASCII text is read back from its bytes. -/
theorem decodeLossy_encode
    {text : List Char}
    (ascii : IsAscii text) :
    decodeLossy (encode text) = text := by
  have decoded := decodeLossy_encode_append ascii []
  rwa [List.append_nil, decodeLossy_nil, List.append_nil] at decoded

/-- An ASCII byte is the byte of its character. -/
theorem asciiByte_asciiChar
    {byte : UInt8}
    (ascii : byte.toNat < 0x80) :
    asciiByte (asciiChar byte) = byte := by
  rw [asciiByte, toNat_asciiChar ascii, UInt8.ofNat_toNat]

/-- An ASCII character is encoded by its byte. -/
theorem encode_cons_of_isAscii
    {char : Char}
    {text : List Char}
    (ascii : IsAscii (char :: text)) :
    encode (char :: text) = asciiByte char :: encode text := by
  rw [encode_of_isAscii ascii,
    encode_of_isAscii (isAscii_cons_iff.mp ascii).2]
  rfl

/-- An ASCII text begins the decoded text only if its bytes begin the input. -/
theorem decodeLossy_eq_encode_append
    {text rest : List Char}
    {bytes : List UInt8}
    (ascii : IsAscii text)
    (decoded : decodeLossy bytes = text ++ rest) :
    ∃ after, bytes = encode text ++ after ∧ decodeLossy after = rest := by
  induction text generalizing bytes with
  | nil =>
      exact ⟨bytes, rfl, decoded⟩
  | cons char text inductionHypothesis =>
      obtain ⟨charAscii, textAscii⟩ := isAscii_cons_iff.mp ascii
      obtain ⟨before, byte, after, rfl, byteAscii, rfl, decodedBefore,
        decodedAfter⟩ :=
        @decodeFrom_eq_append_ascii none bytes [] (text ++ rest) char
          charAscii decoded
      have first : before = [] := by
        by_contra nonempty
        exact decodeLossy_ne_nil nonempty decodedBefore
      obtain ⟨later, rfl, decodedLater⟩ :=
        inductionHypothesis textAscii decodedAfter
      refine ⟨later, ?_, decodedLater⟩
      rw [first, encode_cons_of_isAscii ascii, asciiByte_asciiChar byteAscii]
      rfl

/-- An ASCII text stands in the decoded text where its bytes stand. -/
theorem decodeLossy_eq_append_iff
    {text front rest : List Char}
    {bytes : List UInt8}
    (nonempty : text ≠ [])
    (ascii : IsAscii text) :
    decodeLossy bytes = front ++ (text ++ rest) ↔
      ∃ before after,
        bytes = before ++ (encode text ++ after) ∧
          decodeLossy before = front ∧
          decodeLossy after = rest := by
  obtain ⟨char, more, rfl⟩ := List.exists_cons_of_ne_nil nonempty
  constructor
  · intro decoded
    obtain ⟨charAscii, moreAscii⟩ := isAscii_cons_iff.mp ascii
    obtain ⟨before, byte, after, rfl, byteAscii, rfl, decodedBefore,
      decodedAfter⟩ := decodeFrom_eq_append_ascii charAscii decoded
    obtain ⟨later, rfl, decodedLater⟩ :=
      decodeLossy_eq_encode_append moreAscii decodedAfter
    refine ⟨before, later, ?_, decodedBefore, decodedLater⟩
    rw [encode_cons_of_isAscii ascii, asciiByte_asciiChar byteAscii]
    rfl
  · rintro ⟨before, after, rfl, rfl, rfl⟩
    have charAscii := (isAscii_cons_iff.mp ascii).1
    have byteAscii : (asciiByte char).toNat < 0x80 := by
      rw [toNat_asciiByte charAscii]
      exact charAscii
    have whole := decodeLossy_encode_append ascii after
    rw [encode_cons_of_isAscii ascii] at whole ⊢
    have cut := decodeLossy_append_ascii [] byteAscii (encode more ++ after)
    rw [List.cons_append, decodeLossy_append_ascii before byteAscii]
    rw [List.cons_append, ← List.nil_append (asciiByte char :: _), cut]
      at whole
    rw [← whole]
    rfl

/-- The bytes of an ASCII text are well formed. -/
theorem fromUtf8_encode
    {text : List Char}
    (ascii : IsAscii text) :
    fromUtf8 (encode text) = some text := by
  rw [fromUtf8, decodeLossy_encode ascii, if_pos rfl]

/-- An ASCII text is as long as its encoding. -/
theorem length_encode_of_isAscii
    {text : List Char}
    (ascii : IsAscii text) :
    (encode text).length = text.length := by
  rw [encode_of_isAscii ascii, List.length_map]

/-- A byte below 128 is the whole encoding of its character. -/
theorem eq_asciiChar_of_mem
    {char : Char}
    {byte : UInt8}
    (member : byte ∈ String.utf8EncodeChar char)
    (ascii : byte.toNat < 0x80) :
    char = asciiChar byte := by
  have high (value : Nat) (bound : value < 256) (isHigh : 0x80 ≤ value) :
      byte ≠ UInt8.ofNat value := by
    rintro rfl
    rw [UInt8.toNat_ofNat', Nat.mod_eq_of_lt bound] at ascii
    omega
  simp only [String.utf8EncodeChar] at member
  split at member
  · rename_i small
    have same := List.mem_singleton.mp member
    have value : byte.toNat = char.toNat := by
      rw [same, UInt8.toNat_ofNat', Nat.mod_eq_of_lt]
      · rfl
      · exact Nat.lt_of_le_of_lt small (by decide)
    rw [asciiChar, value, Char.ofNat_toNat]
  · split at member
    · simp only [List.mem_cons, List.not_mem_nil, or_false] at member
      rcases member with same | same
      · exact (high _ (by omega) (by omega) same).elim
      · exact (high _ (by omega) (by omega) same).elim
    · split at member
      · simp only [List.mem_cons, List.not_mem_nil, or_false] at member
        rcases member with same | same | same
        · exact (high _ (by omega) (by omega) same).elim
        · exact (high _ (by omega) (by omega) same).elim
        · exact (high _ (by omega) (by omega) same).elim
      · simp only [List.mem_cons, List.not_mem_nil, or_false] at member
        rcases member with same | same | same | same
        · exact (high _ (by omega) (by omega) same).elim
        · exact (high _ (by omega) (by omega) same).elim
        · exact (high _ (by omega) (by omega) same).elim
        · exact (high _ (by omega) (by omega) same).elim

/-- A byte below 128 occurs only where its character does. -/
theorem not_mem_encode
    {text : List Char}
    {byte : UInt8}
    (ascii : byte.toNat < 0x80)
    (absent : asciiChar byte ∉ text) :
    byte ∉ encode text := by
  intro member
  obtain ⟨char, inText, inChar⟩ := List.mem_flatMap.mp member
  rw [eq_asciiChar_of_mem inChar ascii] at inText
  exact absent inText

/-- The bytes before the first of an ASCII byte are well formed if all are. -/
theorem fromUtf8_before
    {front rest : List UInt8}
    {byte : UInt8}
    {text : List Char}
    (ascii : byte.toNat < 0x80)
    (absent : byte ∉ front)
    (decoded : fromUtf8 (front ++ byte :: rest) = some text) :
    fromUtf8 front = some (decodeLossy front) := by
  have whole := encode_of_fromUtf8 decoded
  have sameText : text = decodeLossy (front ++ byte :: rest) := by
    unfold fromUtf8 at decoded
    split at decoded
    · exact (Option.some.inj decoded).symm
    · cases decoded
  rw [sameText, decodeLossy_append_ascii front ascii rest] at whole
  have single : String.utf8EncodeChar (asciiChar byte) = [byte] := by
    have value : (asciiChar byte).toNat = byte.toNat :=
      toNat_asciiChar ascii
    have small : (asciiChar byte).val.toNat ≤ 0x7F := by
      have bound : (asciiChar byte).toNat < 0x80 := by
        rw [value]
        exact ascii
      exact Nat.le_of_lt_succ bound
    simp only [String.utf8EncodeChar, if_pos small]
    rw [show (asciiChar byte).val.toNat = byte.toNat from value,
      UInt8.ofNat_toNat]
  have cut :
      encode (decodeLossy front) ++
          byte :: encode (decodeLossy rest) =
        front ++ byte :: rest := by
    rw [encode_append, encode, encode, List.flatMap_cons, single] at whole
    exact whole
  have noByte : byte ∉ encode (decodeLossy front) :=
    not_mem_encode ascii (asciiChar_not_mem_decodeLossy byte ascii absent)
  have differs {bytes : List UInt8} (missing : byte ∉ bytes) :
      ∀ other ∈ bytes, decide (other ≠ byte) = true := by
    intro other member
    simp only [ne_eq, decide_eq_true_eq]
    rintro rfl
    exact missing member
  have front' := congrArg (List.takeWhile (· ≠ byte)) cut
  rw [List.takeWhile_append_of_pos (differs noByte),
    List.takeWhile_append_of_pos (differs absent),
    List.takeWhile_cons_of_neg (by simp),
    List.takeWhile_cons_of_neg (by simp), List.append_nil,
    List.append_nil] at front'
  rw [fromUtf8, if_pos front']

end Utf8
