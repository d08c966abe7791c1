import Waker.FritzHosts

namespace Waker

/-!
# The characters of messages

Lines of printable characters can be sent as the head of a message.  Displayed
numbers, IPv4 addresses, and MAC addresses consist of hexadecimal
digits, colons, and dots, so they end neither a line nor a tag.
-/

/-- A text of printable ASCII characters. -/
def Printable (text : List Char) : Prop :=
  ∀ char, char ∈ text → 32 ≤ char.toNat ∧ char.toNat < 0x80

instance (text : List Char) : Decidable (Printable text) :=
  inferInstanceAs (Decidable (∀ char, char ∈ text → _))

@[simp] theorem printable_append_iff
    {first second : List Char} :
    Printable (first ++ second) ↔ Printable first ∧ Printable second :=
  List.forall_mem_append

/-- A printable text is ASCII. -/
theorem Printable.isAscii
    {text : List Char}
    (printable : Printable text) :
    Utf8.IsAscii text :=
  fun char member => (printable char member).2

/-- A printable text contains no control character. -/
theorem Printable.not_mem
    {text : List Char}
    (printable : Printable text)
    {char : Char}
    (control : char.toNat < 32) :
    char ∉ text := by
  intro member
  have bound := (printable char member).1
  omega

/-- The head of printable lines is ASCII. -/
theorem isAscii_head
    {lines : List (List Char)}
    (printable : ∀ line, line ∈ lines → Printable line) :
    Utf8.IsAscii (Http.head lines) := by
  intro char member
  rcases Http.mem_head member with rfl | rfl | ⟨line, inLines, inLine⟩
  · decide
  · decide
  · exact (printable line inLines).isAscii char inLine

/-- Characters of no line of a head do not occur in it. -/
theorem not_mem_head
    {lines : List (List Char)}
    {char : Char}
    (visible : 32 ≤ char.toNat)
    (absent : ∀ line, line ∈ lines → char ∉ line) :
    char ∉ Http.head lines := by
  intro member
  rcases Http.mem_head member with rfl | rfl | ⟨line, inLines, inLine⟩
  · exact absurd visible (by decide)
  · exact absurd visible (by decide)
  · exact absent line inLines inLine

/-- A character of a displayed number or address. -/
def IsAddressChar (char : Char) : Prop :=
  Text.IsHexDigit char ∨ char = ':' ∨ char = '.'

instance (char : Char) : Decidable (IsAddressChar char) :=
  inferInstanceAs (Decidable (_ ∨ _))

/-- A text of such characters. -/
def AddressText (text : List Char) : Prop :=
  ∀ char, char ∈ text → IsAddressChar char

/-- A decimal digit is a hexadecimal digit. -/
theorem isAddressChar_of_isDigit
    {char : Char}
    (isDigit : char.isDigit = true) :
    IsAddressChar char := by
  rw [Text.isDigit_iff] at isDigit
  exact .inl (Text.isHexDigit_iff.mpr (.inl isDigit))

/-- Numbers are displayed in such characters. -/
theorem addressText_decimal
    (number : Nat) :
    AddressText (Text.decimal number) :=
  fun _ member => isAddressChar_of_isDigit (Text.isDigit_of_mem_decimal member)

/-- IPv4 addresses are displayed in such characters. -/
theorem addressText_ipv4
    (address : Ipv4Addr) :
    AddressText address.display.toList := by
  intro char member
  rcases Ipv4Addr.mem_display member with isDigit | isDot
  · exact isAddressChar_of_isDigit isDigit
  · exact .inr (.inr isDot)

/-- MAC addresses are displayed in such characters. -/
theorem addressText_mac
    (mac : MacAddress) :
    AddressText mac.display := by
  have digits :
      ∀ value, value < 16 → Text.IsHexDigit (Text.upperHexDigit value) := by
    decide
  intro char member
  rcases Text.mem_join member with isColon | ⟨octet, isOctet, inOctet⟩
  · exact .inr (.inl isColon)
  · obtain ⟨byte, -, rfl⟩ := List.mem_map.mp isOctet
    have bound := byte.toNat_lt
    simp only [Text.upperHexByte, List.mem_cons, List.not_mem_nil,
      or_false] at inOctet
    rcases inOctet with rfl | rfl
    · exact .inl (digits _ (by omega))
    · exact .inl (digits _ (by omega))

namespace AddressText

variable {text : List Char}

/-- Other characters do not occur. -/
theorem not_mem
    (addressText : AddressText text)
    {char : Char}
    (other : ¬ IsAddressChar char) :
    char ∉ text :=
  fun member => other (addressText char member)

/-- Such a text is printable. -/
theorem printable
    (addressText : AddressText text) :
    Printable text := by
  intro char member
  rcases addressText char member with digit | rfl | rfl
  · have code := Text.isHexDigit_iff.mp digit
    omega
  · decide
  · decide

/-- Such a text has no blanks around it. -/
theorem trimmed
    (addressText : AddressText text) :
    Text.Trimmed text := by
  have solid
      {char : Char}
      (member : char ∈ text) :
      Text.isWhitespace char = false := by
    rcases addressText char member with digit | rfl | rfl
    · have code := Text.isHexDigit_iff.mp digit
      simp [Text.isWhitespace]
      omega
    · rfl
    · rfl
  constructor
  · intro char first
    exact solid (List.mem_of_head? first)
  · intro char final
    exact solid (List.mem_of_getLast? final)

end AddressText

end Waker
