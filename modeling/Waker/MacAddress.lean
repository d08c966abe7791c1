import Mathlib.Data.List.Forall2
import Waker.WakeState
import Waker.Hexadecimal
import Waker.Lines

namespace Waker

/-!
# Texts of MAC addresses

`MacAddress.fromStr` accepts six groups between colons or dashes.  Each group is
parsed as a hexadecimal byte, so a plus sign with one digit is a group as well;
`meetsGrammar_iff` says that nothing else goes beyond the grammar.
-/

/-- The error of a text that is no MAC address. -/
structure ParseMacAddressError where
  value : List Char
  deriving Repr, DecidableEq

/-- The text of the error. -/
def ParseMacAddressError.display (error : ParseMacAddressError) : List Char :=
  "invalid MAC address: ".toList ++ error.value

namespace MacAddress

/-- The separators in their normal form. -/
def normalize (value : List Char) : List Char :=
  value.map fun char => if char = '-' then ':' else char

/-- One group of the text. -/
def parseOctet
    (value part : List Char) : Except ParseMacAddressError UInt8 :=
  if Text.utf8Length part = 2 then
    match Text.parseHexByte part with
    | .ok octet => .ok octet
    | .error _ => .error ⟨value⟩
  else
    .error ⟨value⟩

/-- The loop over the groups. -/
def parseOctets
    (value : List Char) :
    List (List Char) → Except ParseMacAddressError (List UInt8)
  | [] => .ok []
  | part :: rest =>
      match parseOctet value part with
      | .error error => .error error
      | .ok octet =>
          match parseOctets value rest with
          | .error error => .error error
          | .ok octets => .ok (octet :: octets)

/-- The loop produces one octet for each group. -/
theorem length_parseOctets
    {value : List Char}
    {parts : List (List Char)}
    {octets : List UInt8}
    (parsed : parseOctets value parts = .ok octets) :
    octets.length = parts.length := by
  induction parts generalizing octets with
  | nil =>
      cases parsed
      rfl
  | cons part rest inductionHypothesis =>
      simp only [parseOctets] at parsed
      split at parsed
      · cases parsed
      · split at parsed
        · cases parsed
        · rename_i later
          cases parsed
          rw [List.length_cons, List.length_cons, inductionHypothesis later]

/-- `MacAddress::from_str`. -/
def fromStr (value : List Char) : Except ParseMacAddressError MacAddress :=
  let parts := Text.split ':' (normalize value)
  if count : parts.length = 6 then
    match parsed : parseOctets value parts with
    | .error error => .error error
    | .ok octets =>
        .ok ⟨⟨octets.toArray, by
          rw [List.size_toArray, length_parseOctets parsed, count]⟩⟩
  else
    .error ⟨value⟩

/-- `MacAddress::fmt`. -/
def display (mac : MacAddress) : List Char :=
  Text.join ':' (mac.octets.toList.map Text.upperHexByte)

/-- The characters between groups. -/
def IsSeparator (char : Char) : Prop :=
  char = ':' ∨ char = '-'

/-- Groups of one kind between single separators. -/
inductive Grouped (group : List Char → Prop) : Nat → List Char → Prop where
  | last
      {text : List Char}
      (isGroup : group text) :
      Grouped group 1 text
  | more
      {text rest : List Char}
      {separator : Char}
      {count : Nat}
      (isGroup : group text)
      (isSeparator : IsSeparator separator)
      (later : Grouped group count rest) :
      Grouped group (count + 1) (text ++ separator :: rest)

/-- Exactly two hexadecimal digits. -/
def HexPair (text : List Char) : Prop :=
  ∃ high low,
    text = [high, low] ∧ Text.IsHexDigit high ∧ Text.IsHexDigit low

/-- Two hexadecimal digits, or a plus sign and one. -/
def SignedHexPair (text : List Char) : Prop :=
  HexPair text ∨ ∃ low, text = ['+', low] ∧ Text.IsHexDigit low

/-- Six groups of two digits. -/
def IsMacText (value : List Char) : Prop :=
  Grouped HexPair 6 value

/-- Six groups, at least one of them a plus sign with one digit. -/
def HasSignedGroup (value : List Char) : Prop :=
  Grouped SignedHexPair 6 value ∧ '+' ∈ value

/-- The parser accepts the grammar and the address prints as its normal form. -/
structure MeetsGrammar (value : List Char) : Prop where
  accepted : (∃ mac, fromStr value = .ok mac) ↔ IsMacText value
  printed :
    ∀ mac,
      fromStr value = .ok mac →
      mac.display = (normalize value).map Char.toUpper

/-- A group that contains no separator. -/
def SeparatorFree (text : List Char) : Prop :=
  ∀ char, char ∈ text → ¬ IsSeparator char

/-- A text without separators is in its normal form. -/
theorem normalize_of_separatorFree
    {text : List Char}
    (free : SeparatorFree text) :
    normalize text = text ∧ ':' ∉ text := by
  constructor
  · refine (List.map_congr_left ?_).trans (List.map_id text)
    intro char member
    exact if_neg fun dash => free char member (.inr dash)
  · exact fun member => free ':' member (.inl rfl)

/-- The groups of a text with a first separator. -/
theorem split_normalize_cons
    {text : List Char}
    (free : SeparatorFree text)
    {separator : Char}
    (isSeparator : IsSeparator separator)
    (rest : List Char) :
    Text.split ':' (normalize (text ++ separator :: rest)) =
      text :: Text.split ':' (normalize rest) := by
  obtain ⟨normal, absent⟩ := normalize_of_separatorFree free
  have shape :
      normalize (text ++ separator :: rest) =
        text ++ ':' :: normalize rest := by
    unfold normalize at normal ⊢
    rw [List.map_append, normal, List.map_cons]
    rcases isSeparator with rfl | rfl <;> rfl
  rw [shape, Text.split, List.splitOn_append_cons_self_of_not_mem absent]
  rfl

/-- A text without separators is its only group. -/
theorem split_normalize_of_separatorFree
    {text : List Char}
    (free : SeparatorFree text) :
    Text.split ':' (normalize text) = [text] := by
  obtain ⟨normal, absent⟩ := normalize_of_separatorFree free
  rw [normal, Text.split, List.splitOn_eq_singleton absent]

/-- A text is free of separators or has a first one. -/
theorem separatorFree_or_exists
    (value : List Char) :
    SeparatorFree value ∨
      ∃ text separator rest,
        SeparatorFree text ∧ IsSeparator separator ∧
          value = text ++ separator :: rest := by
  induction value with
  | nil =>
      exact .inl (by simp [SeparatorFree])
  | cons char value inductionHypothesis =>
      by_cases isSeparator : IsSeparator char
      · exact .inr ⟨[], char, value, by simp [SeparatorFree], isSeparator, rfl⟩
      · rcases inductionHypothesis with
          free | ⟨text, separator, rest, free, found, rfl⟩
        · exact .inl (List.forall_mem_cons.mpr ⟨isSeparator, free⟩)
        · exact .inr ⟨char :: text, separator, rest,
            List.forall_mem_cons.mpr ⟨isSeparator, free⟩, found, rfl⟩

/-- Groups between separators are the parts of the split. -/
theorem grouped_iff_split
    {group : List Char → Prop}
    (free : ∀ text, group text → SeparatorFree text)
    {count : Nat}
    {value : List Char} :
    Grouped group count value ↔
      (Text.split ':' (normalize value)).length = count ∧
        ∀ part, part ∈ Text.split ':' (normalize value) → group part := by
  constructor
  · intro grouped
    induction grouped with
    | last isGroup =>
        rw [split_normalize_of_separatorFree (free _ isGroup)]
        exact ⟨rfl, by simpa using isGroup⟩
    | more isGroup isSeparator _ inductionHypothesis =>
        rw [split_normalize_cons (free _ isGroup) isSeparator]
        exact ⟨by rw [List.length_cons, inductionHypothesis.1],
          List.forall_mem_cons.mpr ⟨isGroup, inductionHypothesis.2⟩⟩
  · induction count generalizing value with
    | zero =>
        rintro ⟨empty, -⟩
        exact (Text.split_ne_nil ':' _ (List.length_eq_zero_iff.mp empty)).elim
    | succ count inductionHypothesis =>
        rintro ⟨size, groups⟩
        rcases separatorFree_or_exists value with
          whole | ⟨text, separator, rest, first, isSeparator, rfl⟩
        · rw [split_normalize_of_separatorFree whole] at size groups
          have single : count = 0 := by
            simpa using size.symm
          rw [single]
          exact .last (groups value (by simp))
        · rw [split_normalize_cons first isSeparator] at size groups
          rw [List.forall_mem_cons] at groups
          exact .more groups.1 isSeparator
            (inductionHypothesis ⟨by simpa using size, groups.2⟩)

/-- The loop succeeds exactly on the texts of the octets. -/
theorem parseOctets_ok_iff
    {value : List Char}
    {parts : List (List Char)}
    {octets : List UInt8} :
    parseOctets value parts = .ok octets ↔
      List.Forall₂ Text.HexByteText parts octets := by
  induction parts generalizing octets with
  | nil =>
      cases octets <;> simp [parseOctets]
  | cons part rest inductionHypothesis =>
      have single {octet : UInt8} :
          parseOctet value part = .ok octet ↔
            Text.HexByteText part octet := by
        constructor
        · intro parsed
          unfold parseOctet at parsed
          split at parsed
          · rename_i size
            split at parsed
            · rename_i found result
              cases parsed
              exact Text.hexByteText_of_parseHexByte size result
            · cases parsed
          · cases parsed
        · intro digits
          rw [parseOctet, if_pos digits.utf8Length, digits.parseHexByte_eq]
      simp only [parseOctets]
      cases first : parseOctet value part with
      | error error =>
          constructor
          · intro parsed
            cases parsed
          · intro related
            cases related with
            | cons digits _ =>
                rw [single.mpr digits] at first
                cases first
      | ok octet =>
          cases later : parseOctets value rest with
          | error error =>
              constructor
              · intro parsed
                cases parsed
              · intro related
                cases related with
                | cons _ digits =>
                    rw [inductionHypothesis.mpr digits] at later
                    cases later
          | ok found =>
              constructor
              · intro parsed
                cases parsed
                exact .cons (single.mp first) (inductionHypothesis.mp later)
              · intro related
                cases related with
                | cons digits others =>
                    rw [single.mpr digits] at first
                    rw [inductionHypothesis.mpr others] at later
                    cases first
                    cases later
                    rfl

/-- The parser succeeds exactly on the texts of the address. -/
theorem fromStr_ok_iff
    {value : List Char}
    {mac : MacAddress} :
    fromStr value = .ok mac ↔
      List.Forall₂ Text.HexByteText
        (Text.split ':' (normalize value)) mac.octets.toList := by
  rw [← @parseOctets_ok_iff value]
  simp only [fromStr]
  constructor
  · intro parsed
    split at parsed
    · split at parsed
      · cases parsed
      · rename_i octets result
        cases parsed
        exact result
    · cases parsed
  · intro parsed
    have count : (Text.split ':' (normalize value)).length = 6 := by
      rw [← length_parseOctets parsed]
      simp
    rw [dif_pos count]
    split
    · rename_i error result
      rw [parsed] at result
      cases result
    · rename_i octets result
      rw [parsed] at result
      cases result
      rfl

/-- Signed groups are the texts of bytes. -/
theorem signedHexPair_iff
    {text : List Char} :
    SignedHexPair text ↔ ∃ octet, Text.HexByteText text octet := by
  constructor
  · rintro (⟨high, low, rfl, highDigit, lowDigit⟩ | ⟨low, rfl, lowDigit⟩)
    · obtain ⟨highValue, highFound, -⟩ := highDigit.exists_value
      obtain ⟨lowValue, lowFound, -⟩ := lowDigit.exists_value
      exact ⟨_, .pair highFound lowFound⟩
    · obtain ⟨lowValue, lowFound, -⟩ := lowDigit.exists_value
      exact ⟨_, .signed lowFound⟩
  · rintro ⟨octet, digits⟩
    cases digits with
    | pair highFound lowFound =>
        exact .inl ⟨_, _, rfl, (Text.hexDigit?_bound highFound).1,
          (Text.hexDigit?_bound lowFound).1⟩
    | signed lowFound =>
        exact .inr ⟨_, rfl, (Text.hexDigit?_bound lowFound).1⟩

/-- Groups contain no separator. -/
theorem separatorFree_of_signedHexPair
    {text : List Char}
    (isGroup : SignedHexPair text) :
    SeparatorFree text := by
  obtain ⟨octet, digits⟩ := signedHexPair_iff.mp isGroup
  rintro char member (rfl | rfl)
  · rcases digits.mem member with digit | plus
    · exact digit.ne.2.1 rfl
    · cases plus
  · rcases digits.mem member with digit | plus
    · exact digit.ne.2.2 rfl
    · cases plus

/-- A group of two digits contains no plus sign. -/
theorem plus_not_mem_of_hexPair
    {text : List Char}
    (isGroup : HexPair text) :
    '+' ∉ text := by
  obtain ⟨high, low, rfl, highDigit, lowDigit⟩ := isGroup
  simp [highDigit.ne.1.symm, lowDigit.ne.1.symm]

namespace Grouped

variable {count : Nat} {value : List Char}

/-- Groups of two digits are signed groups. -/
theorem toSigned
    (grouped : Grouped HexPair count value) :
    Grouped SignedHexPair count value := by
  induction grouped with
  | last isGroup =>
      exact .last (.inl isGroup)
  | more isGroup isSeparator _ inductionHypothesis =>
      exact .more (.inl isGroup) isSeparator inductionHypothesis

/-- Groups of two digits contain no plus sign. -/
theorem plus_not_mem
    (grouped : Grouped HexPair count value) :
    '+' ∉ value := by
  induction grouped with
  | last isGroup =>
      exact plus_not_mem_of_hexPair isGroup
  | more isGroup isSeparator _ inductionHypothesis =>
      intro member
      rcases List.mem_append.mp member with inGroup | inRest
      · exact plus_not_mem_of_hexPair isGroup inGroup
      · rcases List.mem_cons.mp inRest with rfl | later
        · rcases isSeparator with same | same <;> cases same
        · exact inductionHypothesis later

/-- Signed groups without a plus sign are groups of two digits. -/
theorem toHexPair
    (grouped : Grouped SignedHexPair count value)
    (unsigned : '+' ∉ value) :
    Grouped HexPair count value := by
  have unsignedGroup {text : List Char}
      (isGroup : SignedHexPair text)
      (absent : '+' ∉ text) :
      HexPair text := by
    rcases isGroup with pair | ⟨low, rfl, _⟩
    · exact pair
    · simp at absent
  induction grouped with
  | last isGroup =>
      exact .last (unsignedGroup isGroup unsigned)
  | more isGroup isSeparator _ inductionHypothesis =>
      simp only [List.mem_append, List.mem_cons, not_or] at unsigned
      exact .more (unsignedGroup isGroup unsigned.1) isSeparator
        (inductionHypothesis unsigned.2.2)

end Grouped

/-- A list has related elements exactly when each of its elements has one. -/
theorem exists_forall₂_iff
    {α β : Type}
    {related : α → β → Prop}
    {items : List α} :
    (∃ images, List.Forall₂ related items images) ↔
      ∀ item, item ∈ items → ∃ image, related item image := by
  induction items with
  | nil =>
      simp
  | cons item rest inductionHypothesis =>
      rw [List.forall_mem_cons, ← inductionHypothesis]
      constructor
      · rintro ⟨images, _ | ⟨first, others⟩⟩
        exact ⟨⟨_, first⟩, ⟨_, others⟩⟩
      · rintro ⟨⟨image, first⟩, ⟨images, others⟩⟩
        exact ⟨image :: images, .cons first others⟩

/-- The parser accepts exactly six signed groups. -/
theorem exists_fromStr_iff
    {value : List Char} :
    (∃ mac, fromStr value = .ok mac) ↔ Grouped SignedHexPair 6 value := by
  rw [grouped_iff_split fun _ => separatorFree_of_signedHexPair]
  simp only [signedHexPair_iff, ← exists_forall₂_iff]
  constructor
  · rintro ⟨mac, parsed⟩
    rw [fromStr_ok_iff] at parsed
    exact ⟨by simpa using parsed.length_eq, _, parsed⟩
  · rintro ⟨size, octets, related⟩
    have count : octets.toArray.size = 6 := by
      rw [List.size_toArray, ← related.length_eq, size]
    exact ⟨⟨⟨octets.toArray, count⟩⟩, fromStr_ok_iff.mpr related⟩

/-- Mapping a join that keeps the separator maps its pieces. -/
theorem map_join
    {separator : Char}
    {change : Char → Char}
    (kept : change separator = separator)
    (pieces : List (List Char)) :
    (Text.join separator pieces).map change =
      Text.join separator (pieces.map (List.map change)) := by
  induction pieces with
  | nil =>
      rfl
  | cons piece rest inductionHypothesis =>
      cases rest with
      | nil =>
          simp [Text.join]
      | cons next rest =>
          unfold Text.join at inductionHypothesis ⊢
          rw [List.intercalate_cons_cons, List.map_cons, List.map_cons,
            List.intercalate_cons_cons, List.map_append, List.map_append,
            inductionHypothesis]
          simp [kept]

/-- An accepted text of the grammar is printed in its normal form. -/
theorem display_of_fromStr
    {value : List Char}
    {mac : MacAddress}
    (parsed : fromStr value = .ok mac)
    (isMacText : IsMacText value) :
    mac.display = (normalize value).map Char.toUpper := by
  have related := fromStr_ok_iff.mp parsed
  have groups :=
    ((grouped_iff_split fun _ isGroup =>
      separatorFree_of_signedHexPair (.inl isGroup)).mp isMacText).2
  have upper :
      mac.octets.toList.map Text.upperHexByte =
        (Text.split ':' (normalize value)).map (List.map Char.toUpper) := by
    generalize Text.split ':' (normalize value) = parts at related groups ⊢
    generalize mac.octets.toList = octets at related ⊢
    induction related with
    | nil =>
        rfl
    | cons digits _ inductionHypothesis =>
        rw [List.forall_mem_cons] at groups
        rw [List.map_cons, List.map_cons, inductionHypothesis groups.2,
          digits.upperHexByte_eq (plus_not_mem_of_hexPair groups.1)]
  have whole :
      Text.join ':' (Text.split ':' (normalize value)) = normalize value :=
    List.intercalate_splitOn ':'
  rw [display, upper, ← map_join (by decide), whole]

/--
The parser keeps to the grammar exactly on the texts that are not six groups
with a signed one among them.
-/
theorem meetsGrammar_iff
    (value : List Char) :
    MeetsGrammar value ↔ ¬ HasSignedGroup value := by
  constructor
  · rintro ⟨accepted, -⟩ ⟨signed, plus⟩
    exact (accepted.mp (exists_fromStr_iff.mpr signed)).plus_not_mem plus
  · intro unsigned
    have toGrammar
        (signed : Grouped SignedHexPair 6 value) :
        IsMacText value := by
      apply signed.toHexPair
      exact fun plus => unsigned ⟨signed, plus⟩
    constructor
    · rw [exists_fromStr_iff]
      exact ⟨toGrammar, Grouped.toSigned⟩
    · intro mac parsed
      apply display_of_fromStr parsed
      exact toGrammar (exists_fromStr_iff.mp ⟨mac, parsed⟩)

/-- An address with a plus sign in its first group. -/
def signedText : List Char :=
  "+A:BB:CC:DD:EE:FF".toList

/-- Not every text is treated as the grammar demands. -/
theorem not_meetsGrammar :
    ¬ ∀ value : List Char, MeetsGrammar value := by
  intro always
  have accepted : ∃ mac, fromStr signedText = .ok mac :=
    ⟨⟨#v[0x0A, 0xBB, 0xCC, 0xDD, 0xEE, 0xFF]⟩, by decide⟩
  exact ((always signedText).accepted.mp accepted).plus_not_mem
    (by decide)

/-- A printed address is parsed to the address. -/
theorem fromStr_display
    (mac : MacAddress) :
    fromStr mac.display = .ok mac := by
  have free
      (octet : UInt8) :
      SeparatorFree (Text.upperHexByte octet) :=
    separatorFree_of_signedHexPair
      (signedHexPair_iff.mpr ⟨octet, Text.hexByteText_upperHexByte octet⟩)
  have normal : normalize mac.display = mac.display := by
    rw [normalize, display, map_join (by decide), List.map_map]
    congr 1
    apply List.map_congr_left
    intro octet _
    exact (normalize_of_separatorFree (free octet)).1
  have parts :
      Text.split ':' mac.display = mac.octets.toList.map Text.upperHexByte := by
    apply Text.split_join
    · intro part member
      obtain ⟨octet, -, rfl⟩ := List.mem_map.mp member
      exact (normalize_of_separatorFree (free octet)).2
    · intro empty
      have size := congrArg List.length empty
      simp at size
  rw [fromStr_ok_iff, normal, parts, List.forall₂_map_left_iff,
    List.forall₂_same]
  exact fun octet _ => Text.hexByteText_upperHexByte octet

end MacAddress

end Waker
