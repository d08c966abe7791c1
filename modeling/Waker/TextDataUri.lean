import Waker.PercentEncoding

namespace Waker

open Percent

/-!
# The log as a data URI

Outside Android the log is opened as a URI that contains it.  Every byte of the
text becomes an unreserved character or a triple, so nothing in the log ends
the URI early, and the log can be read back from it.
-/

/-- The scheme and the media type of the URI. -/
def dataUriStart : List Char :=
  "data:text/plain;charset=utf-8,".toList

/-- A byte is in a range between two ASCII characters. -/
def byteBetween (first last : Char) (byte : UInt8) : Bool :=
  Utf8.asciiByte first ≤ byte && byte ≤ Utf8.asciiByte last

/-- The bytes that are pushed to the URI as they are. -/
def keepsByte (byte : UInt8) : Bool :=
  byteBetween 'A' 'Z' byte || byteBetween 'a' 'z' byte ||
    byteBetween '0' '9' byte || byte = Utf8.asciiByte '-' ||
    byte = Utf8.asciiByte '_' || byte = Utf8.asciiByte '.' ||
    byte = Utf8.asciiByte '~'

/-- What is pushed to the URI for a byte. -/
def uriByte (byte : UInt8) : List Char :=
  if keepsByte byte then
    [Utf8.asciiChar byte]
  else
    '%' :: Text.upperHexByte byte

/-- The URI of a text. -/
def textDataUri (text : List Char) : List Char :=
  dataUriStart ++ (Utf8.encode text).flatMap uriByte

example :
    textDataUri "line 1\nA&B".toList =
      "data:text/plain;charset=utf-8,line%201%0AA%26B".toList := by
  decide

/-- A byte between two ASCII characters has a code point between theirs. -/
theorem byteBetween_iff
    {first last : Char}
    (firstAscii : first.toNat < 0x80)
    (lastAscii : last.toNat < 0x80)
    {byte : UInt8} :
    byteBetween first last byte = true ↔
      first.toNat ≤ byte.toNat ∧ byte.toNat ≤ last.toNat := by
  rw [byteBetween, Bool.and_eq_true, decide_eq_true_iff, decide_eq_true_iff,
    UInt8.le_iff_toNat_le, UInt8.le_iff_toNat_le,
    Utf8.toNat_asciiByte firstAscii, Utf8.toNat_asciiByte lastAscii]

/-- The bytes that are pushed as they are stand for unreserved characters. -/
theorem isUnreserved_of_keepsByte
    {byte : UInt8}
    (kept : keepsByte byte = true) :
    byte.toNat < 0x80 ∧ isUnreserved (Utf8.asciiChar byte) = true := by
  have ascii : byte.toNat < 0x80 := by
    simp only [keepsByte, Bool.or_eq_true, decide_eq_true_iff] at kept
    rcases kept with
      (((((upper | lower) | digit) | rfl) | rfl) | rfl) | rfl
    · exact Nat.lt_of_le_of_lt
        ((byteBetween_iff (by decide) (by decide)).mp upper).2 (by decide)
    · exact Nat.lt_of_le_of_lt
        ((byteBetween_iff (by decide) (by decide)).mp lower).2 (by decide)
    · exact Nat.lt_of_le_of_lt
        ((byteBetween_iff (by decide) (by decide)).mp digit).2 (by decide)
    all_goals decide
  have checked :
      ∀ code, code < 0x80 →
        keepsByte (UInt8.ofNat code) = true →
        isUnreserved (Utf8.asciiChar (UInt8.ofNat code)) = true := by
    decide
  have unreserved := checked byte.toNat ascii
  rw [UInt8.ofNat_toNat] at unreserved
  exact ⟨ascii, unreserved kept⟩

/-- The text of a byte stands for this byte. -/
theorem encoded_uriByte
    {rest : List Char}
    {bytes : List UInt8}
    (later : Encoded rest bytes)
    (byte : UInt8) :
    Encoded (uriByte byte ++ rest) (byte :: bytes) := by
  unfold uriByte
  split
  · rename_i kept
    obtain ⟨ascii, unreserved⟩ := isUnreserved_of_keepsByte kept
    have encoded := later.plain unreserved
    rwa [Utf8.asciiByte, Utf8.toNat_asciiChar ascii, UInt8.ofNat_toNat]
      at encoded
  · exact later.upperHexByte byte

/-- The text of some bytes stands for these bytes. -/
theorem encoded_flatMap_uriByte
    (bytes : List UInt8) :
    Encoded (bytes.flatMap uriByte) bytes := by
  induction bytes with
  | nil =>
      exact .nil
  | cons byte rest inductionHypothesis =>
      rw [List.flatMap_cons]
      exact encoded_uriByte inductionHypothesis byte

/-- Different texts have different bytes. -/
theorem encode_injective : Function.Injective Utf8.encode := by
  intro first second same
  have begins : first <+: second :=
    Utf8.prefix_of_encode_prefix ⟨[], by rw [List.append_nil, same]⟩
  have continues : second <+: first :=
    Utf8.prefix_of_encode_prefix ⟨[], by rw [List.append_nil, same]⟩
  exact begins.eq_of_length_le continues.length_le

/--
The URI of a text is the start of the URI followed by unreserved characters and
upper-case triples only, which decode to the bytes of the text; so different
texts have different URIs.
-/
theorem textDataUri_lossless :
    (∀ text, ∃ rest,
      textDataUri text = dataUriStart ++ rest ∧
        Encoded rest (Utf8.encode text) ∧
        decode rest = some (Utf8.encode text) ∧
        ∀ char, char ∈ rest → isUnreserved char = true ∨ char = '%') ∧
      Function.Injective textDataUri := by
  constructor
  · intro text
    have encoded := encoded_flatMap_uriByte (Utf8.encode text)
    exact ⟨_, rfl, encoded, encoded.decode_eq, fun char => encoded.mem⟩
  · intro first second same
    have encodedFirst := encoded_flatMap_uriByte (Utf8.encode first)
    have encodedSecond := encoded_flatMap_uriByte (Utf8.encode second)
    rw [List.append_cancel_left same] at encodedFirst
    exact encode_injective (encodedFirst.unique encodedSecond)

end Waker
