import Waker.WireGuardProfile

namespace Waker

/-!
# A concrete profile decoder

Standard base64 with canonical padding, and networks written as a dotted quad
with an optional prefix length.  Concrete profile texts are evaluated with it.
-/

namespace StandardDecoder

/-- The value of a character of the standard base64 alphabet. -/
def sextet? (char : Char) : Option Nat :=
  let code := char.toNat
  if 'A'.toNat ≤ code ∧ code ≤ 'Z'.toNat then
    some (code - 'A'.toNat)
  else if 'a'.toNat ≤ code ∧ code ≤ 'z'.toNat then
    some (code - 'a'.toNat + 26)
  else if '0'.toNat ≤ code ∧ code ≤ '9'.toNat then
    some (code - '0'.toNat + 52)
  else if char = '+' then
    some 62
  else if char = '/' then
    some 63
  else
    none

/-- The three bytes of four sextets. -/
def bytes3 (a b c d : Nat) : List UInt8 :=
  [UInt8.ofNat (a * 4 + b / 16),
    UInt8.ofNat (b % 16 * 16 + c / 4),
    UInt8.ofNat (c % 4 * 64 + d)]

/-- Decode groups of four characters; only the last may be padded. -/
def decodeQuads : List Char → Option (List UInt8)
  | [] => some []
  | [a, b, '=', '='] => do
      let a ← sextet? a
      let b ← sextet? b
      if b % 16 = 0 then
        some ((bytes3 a b 0 0).take 1)
      else
        none
  | [a, b, c, '='] => do
      let a ← sextet? a
      let b ← sextet? b
      let c ← sextet? c
      if c % 4 = 0 then
        some ((bytes3 a b c 0).take 2)
      else
        none
  | a :: b :: c :: d :: rest => do
      let a ← sextet? a
      let b ← sextet? b
      let c ← sextet? c
      let d ← sextet? d
      let later ← decodeQuads rest
      some (bytes3 a b c d ++ later)
  | _ => none

/-- Decode standard base64. -/
def decodeBase64 (text : List Char) : Except String (List UInt8) :=
  match decodeQuads text with
  | some bytes => .ok bytes
  | none => .error "Invalid base64 text."

/-- An octet has one to three digits and no leading zero. -/
def octet? (text : List Char) : Option UInt8 :=
  if text.length ≤ 3 ∧ (text.length = 1 ∨ text.head? ≠ some '0') ∧
      text.head? ≠ some '+' then
    match Text.parseUnsigned 255 text with
    | .ok value => some (UInt8.ofNat value)
    | .error _ => none
  else
    none

/-- Parse a dotted quad. -/
def dottedQuad? (text : List Char) : Option Ipv4Addr :=
  match Text.split '.' text with
  | [a, b, c, d] => do
      let a ← octet? a
      let b ← octet? b
      let c ← octet? c
      let d ← octet? d
      some ⟨a, b, c, d⟩
  | _ => none

/-- Parse a prefix length, 32 when there is none. -/
def prefix? (text : Option (List Char)) : Option Nat :=
  match text with
  | none => some 32
  | some digits =>
      match Text.parseUnsigned 255 digits with
      | .ok value => some value
      | .error _ => none

/-- Parse a dotted quad with an optional prefix length. -/
def ipv4Network? (text : List Char) : Option Ipv4Network :=
  let parts : List Char × Option (List Char) :=
    match Text.splitOnce '/' text with
    | none => (text, none)
    | some (address, length) => (address, some length)
  match dottedQuad? parts.1, prefix? parts.2 with
  | some ip, some netPrefix =>
      if prefixBound : netPrefix ≤ 32 then
        some ⟨ip, netPrefix, prefixBound⟩
      else
        none
  | _, _ => none

/-- Parse an IP network; this decoder knows dotted quads only. -/
def parseIpNetwork (text : List Char) : Except String IpNetwork :=
  match ipv4Network? text with
  | some network => .ok (.v4 network)
  | none => .error ("invalid address: " ++ String.ofList text)

end StandardDecoder

/-- The decoder for base64 keys and dotted-quad networks. -/
def standardDecoder : ProfileDecoder where
  decodeBase64 := StandardDecoder.decodeBase64
  parseIpNetwork := StandardDecoder.parseIpNetwork

/-- The text made of the given lines. -/
def joinLines (lines : List String) : List Char :=
  lines.flatMap fun line => line.toList ++ ['\n']

end Waker
