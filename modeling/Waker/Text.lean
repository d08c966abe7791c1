import Mathlib.Algebra.GroupWithZero.Nat
import Mathlib.Data.List.DropRight
import Mathlib.Data.List.Infix

namespace Text

/-!
# String operations of the Rust standard library

A string slice is the list of its Unicode scalar values.  The operations follow
the documented behaviour of `str` and of the unsigned integer parser; none of
them depends on the program that uses them.
-/

/-- A property of all characters of a text is decided on these alone. -/
instance (priority := 2000) decidableForallMem
    (property : Char → Prop)
    [DecidablePred property]
    (text : List Char) :
    Decidable (∀ char, char ∈ text → property char) :=
  List.decidableBAll property text

/-- `char::is_whitespace`: the code points with the property `White_Space`. -/
def isWhitespace (char : Char) : Bool :=
  let code := char.toNat
  (9 ≤ code && code ≤ 13) || code == 0x20 || code == 0x85 ||
    code == 0xA0 || code == 0x1680 ||
    (0x2000 ≤ code && code ≤ 0x200A) ||
    code == 0x2028 || code == 0x2029 || code == 0x202F ||
    code == 0x205F || code == 0x3000

/-- `str::trim_start`. -/
def trimStart (text : List Char) : List Char :=
  text.dropWhile isWhitespace

/-- `str::trim_end`. -/
def trimEnd (text : List Char) : List Char :=
  text.rdropWhile isWhitespace

/-- `str::trim`. -/
def trim (text : List Char) : List Char :=
  trimEnd (trimStart text)

/-- Remove one trailing carriage return. -/
def stripCarriageReturn (line : List Char) : List Char :=
  if line.getLast? = some '\r' then line.dropLast else line

/--
`str::lines`: lines end with a line feed, optionally preceded by a carriage
return; a last line without a line feed is kept as it is unless it is empty.
-/
def lines (text : List Char) : List (List Char) :=
  let parts := text.splitOn '\n'
  let ended := parts.dropLast.map stripCarriageReturn
  match parts.getLast? with
  | none | some [] => ended
  | some last => ended ++ [last]

/-- `str::split` at one character. -/
def split (separator : Char) (text : List Char) : List (List Char) :=
  text.splitOn separator

/-- The first part of a split at one character. -/
def before (separator : Char) (text : List Char) : List Char :=
  text.takeWhile (· ≠ separator)

/-- `str::split_once` at one character. -/
def splitOnce
    (separator : Char)
    (text : List Char) : Option (List Char × List Char) :=
  match text.dropWhile (· ≠ separator) with
  | [] => none
  | _ :: after => some (before separator text, after)

/-- `str::split_whitespace`. -/
def splitWhitespace (text : List Char) : List (List Char) :=
  (text.splitOnP isWhitespace).filter (· ≠ [])

/-- A split always has at least one part. -/
theorem split_ne_nil (separator : Char) (text : List Char) :
    split separator text ≠ [] :=
  List.splitOnP_ne_nil _ _

/-- `IntErrorKind` for unsigned integers. -/
inductive IntErrorKind where
  | empty
  | invalidDigit
  | posOverflow
  deriving Repr, DecidableEq

/-- The text of an integer parse error. -/
def IntErrorKind.display : IntErrorKind → String
  | .empty => "cannot parse integer from empty string"
  | .invalidDigit => "invalid digit found in string"
  | .posOverflow => "number too large to fit in target type"

/-- `char::to_digit` with radix 10. -/
def digit? (char : Char) : Option Nat :=
  if '0' ≤ char ∧ char ≤ '9' then
    some (char.toNat - '0'.toNat)
  else
    none

/-- Accumulate decimal digits, checking each step against the type's maximum. -/
def parseDigits (maximum : Nat) : Nat → List Char → Except IntErrorKind Nat
  | value, [] => .ok value
  | value, char :: rest =>
      match digit? char with
      | none => .error .invalidDigit
      | some digit =>
          if value * 10 + digit ≤ maximum then
            parseDigits maximum (value * 10 + digit) rest
          else
            .error .posOverflow

/-- `from_str` of an unsigned integer type, which accepts one leading plus sign. -/
def parseUnsigned
    (maximum : Nat) : List Char → Except IntErrorKind Nat
  | [] => .error .empty
  | ['+'] => .error .invalidDigit
  | '+' :: digits => parseDigits maximum 0 digits
  | digits => parseDigits maximum 0 digits

/-- `u16::from_str`. -/
def parseU16 (text : List Char) : Except IntErrorKind UInt16 :=
  (parseUnsigned 65535 text).map UInt16.ofNat

end Text
