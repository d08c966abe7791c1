import Waker.Diagnostics

namespace Waker

/-!
# Credential assignments inside log records

A log record carries a timestamp, a level, and a target before its message, so
a credential assignment in the message stands behind a prefix that ends in a
blank.  This module says exactly when such a line is replaced.
-/

/-- The names of credentials. -/
inductive CredentialName where
  | privateKey
  | presharedKey
  | privateUnderscoreKey
  | presharedUnderscoreKey
  deriving Repr, DecidableEq

namespace CredentialName

/-- The lower-case spelling of a name. -/
def spelling : CredentialName → List Char
  | .privateKey => "privatekey".toList
  | .presharedKey => "presharedkey".toList
  | .privateUnderscoreKey => "private_key".toList
  | .presharedUnderscoreKey => "preshared_key".toList

/-- Whether a name is spelled with an underscore. -/
def underscored : CredentialName → Bool
  | .privateKey | .presharedKey => false
  | .privateUnderscoreKey | .presharedUnderscoreKey => true

end CredentialName

/-- A line with a credential assignment behind a prefix that ends in a blank. -/
structure CredentialRecord where
  leading : List Char
  blank : Char
  blankIsWhitespace : Text.isWhitespace blank = true
  name : CredentialName
  spelled : List Char
  spelledIsName : Text.toAsciiLowercase spelled = name.spelling
  spaces : Nat
  separator : Char
  separatorIsAssignment : separator = '=' ∨ separator = ':'
  rest : List Char

namespace CredentialRecord

/-- What follows the name. -/
def afterName (record : CredentialRecord) : List Char :=
  List.replicate record.spaces ' ' ++ record.separator :: record.rest

/-- The prefix of the line. -/
def prefixText (record : CredentialRecord) : List Char :=
  record.leading ++ [record.blank]

/-- The whole line. -/
def line (record : CredentialRecord) : List Char :=
  record.leading ++ record.blank :: (record.spelled ++ record.afterName)

/-- The first character after the name. -/
def nextChar (record : CredentialRecord) : Char :=
  if record.spaces = 0 then record.separator else ' '

/--
The records that are recognised: the prefix is blank and the name has no
underscore or is followed directly by the separator; or the prefix ends in a
space and the underscored name is followed directly by the separator; or the
prefix or the rest is recognised by itself.
-/
def Covered (record : CredentialRecord) : Prop :=
  (Text.Blank record.leading ∧
      (record.name.underscored = false ∨ record.spaces = 0)) ∨
    (record.blank = ' ' ∧
      record.name.underscored = true ∧
      record.spaces = 0) ∨
    secretAssignment record.prefixText = true ∨
    containsSecret record.rest = true

end CredentialRecord

/-- The characters that can follow a name. -/
def followers : List Char :=
  ['=', ':', ' ']

/-- No pattern goes on after a name and its follower. -/
theorem startPatterns_stop
    (name : CredentialName) :
    ∀ pattern, pattern ∈ startPatterns →
    ∀ next, next ∈ followers →
      name.spelling ++ [next] <+: pattern →
      name.spelling ++ [next] = pattern := by
  cases name <;> decide

/-- The patterns recognise a name by itself or with its separator. -/
theorem startPatterns_follower
    (name : CredentialName) :
    ∀ next, next ∈ followers →
      (startPatterns.any fun pattern =>
        Text.startsWith pattern (name.spelling ++ [next])) =
        (!name.underscored || next != ' ') := by
  cases name <;> decide

/-- Every inner pattern is a space or a quote and a text without whitespace. -/
theorem innerPatterns_shape :
    ∀ pattern, pattern ∈ innerPatterns →
      ∃ first second tail,
        pattern = first :: second :: tail ∧
          (first = ' ' ∨ first = '"') ∧
          second ≠ ' ' ∧ second ≠ '=' ∧ second ≠ ':' ∧
          ∀ char, char ∈ second :: tail → Text.isWhitespace char = false := by
  intro pattern member
  simp only [innerPatterns, List.mem_cons, List.not_mem_nil, or_false] at member
  rcases member with rfl | rfl | rfl | rfl | rfl | rfl <;>
    exact ⟨_, _, _, rfl, by decide⟩

/-- The inner patterns that begin with a space, without it. -/
def spacedPatterns : List (List Char) :=
  [
    "private_key=".toList,
    "private_key:".toList,
    "preshared_key=".toList,
    "preshared_key:".toList
  ]

/-- The spaced patterns are the tails of the inner patterns with a space. -/
theorem cons_space_mem_innerPatterns_iff
    {pattern : List Char} :
    ' ' :: pattern ∈ innerPatterns ↔ pattern ∈ spacedPatterns := by
  have shape :
      innerPatterns =
        spacedPatterns.map (' ' :: ·) ++
          ["\"private_key\":".toList, "\"preshared_key\":".toList] := by
    decide
  have quoted :
      ' ' :: pattern ∉
        ["\"private_key\":".toList, "\"preshared_key\":".toList] := by
    intro member
    simp only [List.mem_cons, List.not_mem_nil, or_false] at member
    rcases member with same | same
    all_goals
      have first := congrArg List.head? same
      rw [List.head?_cons] at first
      exact absurd first (by decide)
  rw [shape, List.mem_append]
  simp only [quoted, or_false, List.mem_map, List.cons.injEq, true_and,
    exists_eq_right]

/-- No spaced pattern goes on after a name and its follower. -/
theorem spacedPatterns_stop
    (name : CredentialName) :
    ∀ pattern, pattern ∈ spacedPatterns →
    ∀ next, next ∈ followers →
      name.spelling ++ [next] <+: pattern →
      name.spelling ++ [next] = pattern := by
  cases name <;> decide

/-- The spaced patterns recognise an underscored name with its separator. -/
theorem spacedPatterns_follower
    (name : CredentialName) :
    ∀ next, next ∈ followers →
      ((∃ pattern, pattern ∈ spacedPatterns ∧
          pattern <+: name.spelling ++ [next]) ↔
        name.underscored = true ∧ next ≠ ' ') := by
  cases name <;> decide

namespace CredentialRecord

/-- The first character after the name is one of the followers. -/
theorem nextChar_mem
    (record : CredentialRecord) :
    record.nextChar ∈ followers := by
  unfold nextChar followers
  split
  · rcases record.separatorIsAssignment with same | same <;> simp [same]
  · simp

/-- The follower is a space exactly when spaces precede the separator. -/
theorem nextChar_eq_space_iff
    (record : CredentialRecord) :
    record.nextChar = ' ' ↔ record.spaces ≠ 0 := by
  unfold nextChar
  rcases record.separatorIsAssignment with same | same <;>
    by_cases none : record.spaces = 0 <;>
      simp [same, none]

/-- Separators have no case. -/
theorem toLower_separator
    (record : CredentialRecord) :
    record.separator.toLower = record.separator := by
  rcases record.separatorIsAssignment with same | same <;>
    rw [same] <;> decide

/-- The lower-case text after the name. -/
theorem toAsciiLowercase_afterName
    (record : CredentialRecord) :
    Text.toAsciiLowercase record.afterName =
      List.replicate record.spaces ' ' ++
        record.separator :: Text.toAsciiLowercase record.rest := by
  have space : ' '.toLower = ' ' := by
    decide
  simp [afterName, Text.toAsciiLowercase, toLower_separator, space]

/-- The lower-case text after the name begins with the follower. -/
theorem exists_afterName
    (record : CredentialRecord) :
    ∃ more,
      Text.toAsciiLowercase record.afterName = record.nextChar :: more := by
  rw [toAsciiLowercase_afterName]
  unfold nextChar
  cases record.spaces with
  | zero =>
      exact ⟨_, rfl⟩
  | succ spaces =>
      exact ⟨_, rfl⟩

/-- The lower-case prefix. -/
theorem toAsciiLowercase_prefixText
    (record : CredentialRecord) :
    Text.toAsciiLowercase record.prefixText =
      Text.toAsciiLowercase record.leading ++ [record.blank] := by
  have blank := Text.toLower_of_isWhitespace record.blankIsWhitespace
  simp [prefixText, Text.toAsciiLowercase, blank]

/-- The lower-case line. -/
theorem toAsciiLowercase_line
    (record : CredentialRecord) :
    Text.toAsciiLowercase record.line =
      Text.toAsciiLowercase record.leading ++
        record.blank ::
          (record.name.spelling ++
            Text.toAsciiLowercase record.afterName) := by
  have blank := Text.toLower_of_isWhitespace record.blankIsWhitespace
  simp only [line, Text.toAsciiLowercase_append, ← record.spelledIsName]
  simp [Text.toAsciiLowercase, blank]

/-- Whether a pattern list recognises the name depends on the follower only. -/
theorem prefix_name_iff
    (record : CredentialRecord)
    {pattern : List Char}
    (stop :
      record.name.spelling ++ [record.nextChar] <+: pattern →
      record.name.spelling ++ [record.nextChar] = pattern) :
    pattern <+:
        record.name.spelling ++ Text.toAsciiLowercase record.afterName ↔
      pattern <+: record.name.spelling ++ [record.nextChar] := by
  obtain ⟨more, shape⟩ := record.exists_afterName
  rw [shape, ← List.singleton_append, ← List.append_assoc]
  exact Text.prefix_append_iff_of_stop stop

/-- The start tests on a record whose prefix is blank. -/
theorem startsSecret_line_of_blank
    (record : CredentialRecord)
    (blank : Text.Blank record.leading) :
    startsSecret record.line = true ↔
      record.name.underscored = false ∨ record.spaces = 0 := by
  have known :=
    startPatterns_follower record.name record.nextChar record.nextChar_mem
  have start :
      Text.trimStart (Text.toAsciiLowercase record.line) =
        record.name.spelling ++ Text.toAsciiLowercase record.afterName := by
    have blanks :
        Text.Blank
          (Text.toAsciiLowercase record.leading ++ [record.blank]) := by
      rw [Text.blank_append_iff, Text.blank_toAsciiLowercase_iff]
      exact ⟨blank, by simpa [Text.Blank] using record.blankIsWhitespace⟩
    rw [toAsciiLowercase_line, ← List.singleton_append,
      ← List.append_assoc, Text.trimStart_blank_append blanks]
    cases record.name <;> exact Text.trimStart_cons (by decide) _
  have same :
      (startPatterns.any fun pattern =>
        Text.startsWith pattern
          (record.name.spelling ++
            Text.toAsciiLowercase record.afterName)) =
        startPatterns.any fun pattern =>
          Text.startsWith pattern
            (record.name.spelling ++ [record.nextChar]) := by
    rw [Bool.eq_iff_iff, List.any_eq_true, List.any_eq_true]
    apply exists_congr
    intro pattern
    apply and_congr_right
    intro member
    rw [Text.startsWith_iff, Text.startsWith_iff]
    apply record.prefix_name_iff
    exact startPatterns_stop record.name pattern member _ record.nextChar_mem
  rw [startsSecret, start, same, known]
  simp [nextChar_eq_space_iff]

/-- The start tests cannot look beyond a prefix that is not blank. -/
theorem startsSecret_line_of_not_blank
    (record : CredentialRecord)
    (notBlank : ¬ Text.Blank record.leading) :
    startsSecret record.line = startsSecret record.prefixText := by
  have start
      (rest : List Char) :
      Text.trimStart
          (Text.toAsciiLowercase record.leading ++ record.blank :: rest) =
        Text.trimStart (Text.toAsciiLowercase record.leading) ++
          record.blank :: rest := by
    apply Text.trimStart_append_of_not_blank
    rwa [Text.blank_toAsciiLowercase_iff]
  unfold startsSecret
  rw [toAsciiLowercase_line, toAsciiLowercase_prefixText, start, start, Bool.eq_iff_iff,
    List.any_eq_true, List.any_eq_true]
  apply exists_congr
  intro pattern
  apply and_congr_right
  intro member
  have absent : record.blank ∉ pattern := by
    intro found
    have solid :
        ∀ pattern, pattern ∈ startPatterns →
        ∀ char, char ∈ pattern → Text.isWhitespace char = false := by
      decide
    have blank := record.blankIsWhitespace
    rw [solid pattern member _ found] at blank
    cases blank
  rw [Text.startsWith_iff, Text.startsWith_iff,
    Text.prefix_append_cons_iff absent, Text.prefix_append_cons_iff absent]

/-- Where an inner pattern can occur in a record. -/
theorem infix_line_iff
    (record : CredentialRecord)
    {pattern : List Char}
    (member : pattern ∈ innerPatterns) :
    pattern <:+: Text.toAsciiLowercase record.line ↔
      pattern <:+: Text.toAsciiLowercase record.prefixText ∨
        (∃ tail, pattern = record.blank :: tail ∧
          tail <+:
            record.name.spelling ++
              Text.toAsciiLowercase record.afterName) ∨
        pattern <:+: Text.toAsciiLowercase record.rest := by
  obtain ⟨first, second, tail, rfl, quoteOrSpace, notSpace, notEquals,
      notColon, solid⟩ := innerPatterns_shape pattern member
  have blankAbsent : record.blank ∉ second :: tail := by
    intro found
    have blank := record.blankIsWhitespace
    rw [solid _ found] at blank
    cases blank
  have nameAbsent : first ∉ record.name.spelling := by
    rcases quoteOrSpace with rfl | rfl <;>
      cases record.name <;> decide
  have separatorAbsent : first ∉ [record.separator] := by
    rcases quoteOrSpace with rfl | rfl <;>
      rcases record.separatorIsAssignment with same | same <;>
        simp [same]
  have notSeparator : second ≠ record.separator := by
    rcases record.separatorIsAssignment with same | same <;>
      rw [same]
    · exact notEquals
    · exact notColon
  have afterName :
      first :: second :: tail <:+:
          Text.toAsciiLowercase record.afterName ↔
        first :: second :: tail <:+:
          Text.toAsciiLowercase record.rest := by
    have skip :
        first :: second :: tail <:+:
            record.separator :: Text.toAsciiLowercase record.rest ↔
          first :: second :: tail <:+:
            Text.toAsciiLowercase record.rest :=
      Text.infix_append_iff_of_first_not_mem separatorAbsent
    rw [toAsciiLowercase_afterName, ← skip]
    rcases quoteOrSpace with rfl | rfl
    · exact Text.infix_replicate_append_cons_iff notSpace notSeparator
    · apply Text.infix_append_iff_of_first_not_mem
      simp [List.mem_replicate]
  rw [toAsciiLowercase_line, toAsciiLowercase_prefixText,
    Text.infix_append_cons_iff blankAbsent,
    Text.infix_append_cons_iff blankAbsent,
    Text.infix_append_iff_of_first_not_mem nameAbsent, afterName]
  simp [and_assoc]

/-- The inner tests on a record. -/
theorem containsSecret_line_iff
    (record : CredentialRecord) :
    containsSecret record.line = true ↔
      containsSecret record.prefixText = true ∨
        (record.blank = ' ' ∧
          record.name.underscored = true ∧
          record.spaces = 0) ∨
        containsSecret record.rest = true := by
  have known :=
    spacedPatterns_follower record.name record.nextChar record.nextChar_mem
  have across :
      (∃ tail, record.blank :: tail ∈ innerPatterns ∧
          tail <+:
            record.name.spelling ++
              Text.toAsciiLowercase record.afterName) ↔
        record.blank = ' ' ∧
          record.name.underscored = true ∧
          record.spaces = 0 := by
    constructor
    · rintro ⟨tail, member, found⟩
      obtain ⟨first, _, _, shape, quoteOrSpace, _⟩ :=
        innerPatterns_shape _ member
      have space : record.blank = ' ' := by
        rcases quoteOrSpace with same | same
        · exact (List.cons.inj shape).1.trans same
        · have blank := record.blankIsWhitespace
          rw [(List.cons.inj shape).1, same] at blank
          exact absurd blank (by decide)
      rw [space, cons_space_mem_innerPatterns_iff] at member
      rw [record.prefix_name_iff
        (spacedPatterns_stop record.name tail member _ record.nextChar_mem)]
        at found
      have recognised := known.mp ⟨tail, member, found⟩
      rw [Ne, nextChar_eq_space_iff, not_not] at recognised
      exact ⟨space, recognised⟩
    · rintro ⟨space, underscored, direct⟩
      obtain ⟨tail, member, found⟩ :=
        known.mpr ⟨underscored, by
          rw [Ne, nextChar_eq_space_iff, not_not]
          exact direct⟩
      refine ⟨tail, ?_, ?_⟩
      · rw [space, cons_space_mem_innerPatterns_iff]
        exact member
      · rw [record.prefix_name_iff
          (spacedPatterns_stop record.name tail member _
            record.nextChar_mem)]
        exact found
  rw [← across]
  simp only [containsSecret, List.any_eq_true, Text.contains_iff]
  constructor
  · rintro ⟨pattern, member, found⟩
    rcases (record.infix_line_iff member).mp found with
      early | ⟨tail, rfl, here⟩ | late
    · exact .inl ⟨pattern, member, early⟩
    · exact .inr (.inl ⟨tail, member, here⟩)
    · exact .inr (.inr ⟨pattern, member, late⟩)
  · rintro (⟨pattern, member, early⟩ | ⟨tail, member, here⟩ |
      ⟨pattern, member, late⟩)
    · exact ⟨pattern, member,
        (record.infix_line_iff member).mpr (.inl early)⟩
    · exact ⟨_, member,
        (record.infix_line_iff member).mpr (.inr (.inl ⟨tail, rfl, here⟩))⟩
    · exact ⟨pattern, member,
        (record.infix_line_iff member).mpr (.inr (.inr late))⟩

/-- A record is recognised exactly when it is covered. -/
theorem secretAssignment_line_iff
    (record : CredentialRecord) :
    secretAssignment record.line = true ↔ record.Covered := by
  unfold Covered secretAssignment
  rw [Bool.or_eq_true, Bool.or_eq_true, containsSecret_line_iff]
  by_cases blank : Text.Blank record.leading
  · have nothing : startsSecret record.prefixText = false := by
      have blanks : Text.Blank record.prefixText := by
        rw [prefixText, Text.blank_append_iff]
        exact ⟨blank, by simpa [Text.Blank] using record.blankIsWhitespace⟩
      rw [startsSecret, Text.trimStart_eq_nil_iff.mpr
        (Text.blank_toAsciiLowercase_iff.mpr blanks)]
      decide
    rw [startsSecret_line_of_blank record blank, nothing]
    simp only [blank, true_and, Bool.false_eq_true, false_or]
    exact or_congr_right or_left_comm
  · rw [startsSecret_line_of_not_blank record blank]
    simp only [blank, false_and, false_or]
    exact (or_congr_right or_left_comm).trans
      (or_left_comm.trans (or_congr_right or_assoc.symm))

/-- A record is never the marker, which assigns nothing. -/
theorem line_ne_redactionMarker
    (record : CredentialRecord) :
    record.line ≠ redactionMarker := by
  intro same
  have assigned : record.separator ∈ record.line := by
    simp [line, afterName]
  rw [same] at assigned
  rcases record.separatorIsAssignment with known | known <;>
    rw [known] at assigned <;>
    exact absurd assigned (by decide)

end CredentialRecord

/--
A credential assignment behind a prefix is replaced exactly when the record is
covered.
-/
theorem sanitizeDiagnostics_record_iff
    {input : List Char}
    {index : Nat}
    {record : CredentialRecord}
    (found : (Text.lines input)[index]? = some record.line) :
    (Text.split '\n' (sanitizeDiagnostics input))[index]? =
        some redactionMarker ↔
      record.Covered := by
  rw [sanitizeDiagnostics_line found, Option.some.injEq,
    sanitizeLine_eq_marker_iff record.line_ne_redactionMarker,
    record.secretAssignment_line_iff]

/-- A record of an underscored name, as structured fields are printed. -/
def fieldRecord : CredentialRecord where
  leading := "DEBUG waker_net: tunnel".toList
  blank := ' '
  blankIsWhitespace := by decide
  name := .privateUnderscoreKey
  spelled := "private_key".toList
  spelledIsName := by decide
  spaces := 0
  separator := '='
  separatorIsAssignment := .inl rfl
  rest := "c2VjcmV0".toList

/-- A structured field that holds a key is replaced. -/
theorem sanitizeDiagnostics_fieldRecord :
    (Text.split '\n' (sanitizeDiagnostics fieldRecord.line))[0]? =
      some redactionMarker :=
  (@sanitizeDiagnostics_record_iff fieldRecord.line 0 fieldRecord
    (by decide)).mpr (.inr (.inl ⟨rfl, rfl, rfl⟩))

/-- A record whose message is a line of a WireGuard profile. -/
def messageRecord : CredentialRecord where
  leading := "DEBUG waker_net:".toList
  blank := ' '
  blankIsWhitespace := by decide
  name := .privateKey
  spelled := "PrivateKey".toList
  spelledIsName := by decide
  spaces := 1
  separator := '='
  separatorIsAssignment := .inl rfl
  rest := " c2VjcmV0".toList

/-- Not every credential assignment behind a prefix is replaced. -/
theorem sanitizeDiagnostics_misses_messageRecord :
    ¬ ∀ (input : List Char) (index : Nat) (record : CredentialRecord),
      (Text.lines input)[index]? = some record.line →
      (Text.split '\n' (sanitizeDiagnostics input))[index]? =
        some redactionMarker := by
  intro always
  have replaced := always messageRecord.line 0 messageRecord
    (by decide)
  exact absurd replaced (by decide +kernel)

end Waker
