import Waker.StandardDecoder
import Waker.SmolStack
import Waker.Decimal
import Waker.Lines

namespace Waker

namespace Ipv4Addr

/-!
# IPv4 addresses as texts

`Ipv4Addr::from_str` reads four octets without leading zeros, and reads back
every displayed address.
-/

/-- The text of an address parse error. -/
def parseErrorText : String :=
  "invalid IPv4 address syntax"

/-- `Ipv4Addr::from_str`. -/
def fromStr (text : List Char) : Except String Ipv4Addr :=
  match StandardDecoder.dottedQuad? text with
  | some address => .ok address
  | none => .error parseErrorText

/-- The octets of a displayed address. -/
theorem toList_display
    (address : Ipv4Addr) :
    address.display.toList =
      Text.join '.'
        [Text.decimal address.a.toNat, Text.decimal address.b.toNat,
          Text.decimal address.c.toNat, Text.decimal address.d.toNat] := by
  have octet
      (byte : UInt8) :
      (toString byte).toList = Text.decimal byte.toNat :=
    String.toList_ofList
  have dot : (toString ".").toList = ['.'] := rfl
  simp [display, octet, dot, Text.join, List.intercalate]

/-- A displayed octet is read back. -/
theorem octet?_decimal
    (octet : UInt8) :
    StandardDecoder.octet? (Text.decimal octet.toNat) = some octet := by
  have all :
      ∀ value, value < 256 →
        StandardDecoder.octet? (Text.decimal value) =
          some (UInt8.ofNat value) := by
    decide +kernel
  rw [all octet.toNat octet.toNat_lt, UInt8.ofNat_toNat]

/-- The characters of a displayed address are digits and dots. -/
theorem mem_display
    {address : Ipv4Addr}
    {char : Char}
    (member : char ∈ address.display.toList) :
    char.isDigit = true ∨ char = '.' := by
  rw [toList_display] at member
  rcases Text.mem_join member with dot | ⟨octet, isOctet, inOctet⟩
  · exact .inr dot
  · simp only [List.mem_cons, List.not_mem_nil, or_false] at isOctet
    rcases isOctet with rfl | rfl | rfl | rfl
    all_goals
      exact .inl (Text.isDigit_of_mem_decimal inOctet)

/-- A displayed address is read back. -/
theorem fromStr_display
    (address : Ipv4Addr) :
    fromStr address.display.toList = .ok address := by
  have noDot
      (number : Nat) :
      '.' ∉ Text.decimal number := by
    intro member
    cases Text.isDigit_of_mem_decimal member
  rw [fromStr, StandardDecoder.dottedQuad?, toList_display,
    Text.split_join (by simp [noDot]) (by simp)]
  simp [octet?_decimal]

end Ipv4Addr

end Waker
