import Mathlib.Data.List.Forall2
import Waker.ProfileLines
import Waker.Diagnostics

namespace Waker

/-!
# Copied diagnostics do not depend on profile secrets

Whatever line the profile parser would read a secret from begins, after its
blanks, with the key in the spelling of the profile.  The copy replaces every
such line, so it is the same for all values of the secret and all layouts of
the line.
-/

/-- The line analysis of the parser reads an assignment to the key. -/
def AssignsKey (key rawLine : List Char) : Prop :=
  ∃ name value,
    Text.splitOnce '=' (stripLine rawLine) = some (name, value) ∧
      Text.trim name = key

/-- A line that assigns a secret begins with its key after some blanks. -/
theorem exists_of_assignsKey
    {key rawLine : List Char}
    (nonempty : key ≠ [])
    (assigns : AssignsKey key rawLine) :
    Text.Trimmed key ∧
      ∃ blanks tail,
        Text.Blank blanks ∧ rawLine = blanks ++ (key ++ tail) := by
  obtain ⟨name, value, split, rfl⟩ := assigns
  refine ⟨Text.trimmed_trim name, ?_⟩
  rw [Text.splitOnce_eq_some_iff] at split
  obtain ⟨indent, gap, blankIndent, -, nameShape⟩ := Text.exists_trim name
  obtain ⟨blanks, after, blank, -, rawShape⟩ :=
    Text.exists_trim (Text.before '#' rawLine)
  have stripped := split.2
  unfold stripLine at stripped
  have noIndent : indent = [] := by
    have trimmed := Text.trimmed_trim (Text.before '#' rawLine)
    rw [stripped, nameShape] at trimmed
    cases indent with
    | nil =>
        rfl
    | cons char rest =>
        have solid := trimmed.1 char (by simp)
        rw [blankIndent char (by simp)] at solid
        cases solid
  rw [noIndent, List.nil_append] at nameShape
  have beforeShape :
      Text.before '#' rawLine =
        blanks ++
          (Text.trim name ++ (gap ++ '=' :: value ++ after)) := by
    calc Text.before '#' rawLine
        = blanks ++ Text.trim (Text.before '#' rawLine) ++ after := rawShape
      _ = blanks ++ (name ++ '=' :: value) ++ after := by
          rw [stripped]
      _ = blanks ++ (Text.trim name ++ gap ++ '=' :: value) ++ after := by
          rw [← nameShape]
      _ = _ := by
          simp
  rcases (Text.before_cases '#' rawLine).2 with whole | ⟨comment, whole⟩
  · exact ⟨blanks, _, blank, whole.trans beforeShape⟩
  · rw [beforeShape] at whole
    refine ⟨blanks, gap ++ '=' :: value ++ after ++ '#' :: comment, blank, ?_⟩
    rw [whole]
    simp

/-- Lines that begin with a key are recognised. -/
theorem startsSecret_of_assignsKey
    {key rawLine : List Char}
    (nonempty : key ≠ [])
    (tested : Text.toAsciiLowercase key ∈ startPatterns)
    (assigns : AssignsKey key rawLine) :
    startsSecret rawLine = true := by
  obtain ⟨trimmed, blanks, tail, blank, shape⟩ :=
    exists_of_assignsKey nonempty assigns
  have start :
      Text.trimStart (Text.toAsciiLowercase rawLine) =
        Text.toAsciiLowercase key ++ Text.toAsciiLowercase tail := by
    rw [Text.trimStart_toAsciiLowercase, shape,
      Text.trimStart_blank_append blank]
    cases key with
    | nil =>
        exact (nonempty rfl).elim
    | cons char rest =>
        rw [List.cons_append,
          Text.trimStart_cons (trimmed.1 char rfl), ← List.cons_append,
          Text.toAsciiLowercase_append]
  rw [startsSecret, List.any_eq_true]
  refine ⟨Text.toAsciiLowercase key, tested, ?_⟩
  rw [Text.startsWith_iff, start]
  exact List.prefix_append _ _

/-- Two lines that agree unless both assign the same secret. -/
inductive SameUpToSecret : List Char → List Char → Prop where
  | same
      (line : List Char) :
      SameUpToSecret line line
  | privateKey
      {first second : List Char}
      (firstAssigns : AssignsKey "PrivateKey".toList first)
      (secondAssigns : AssignsKey "PrivateKey".toList second) :
      SameUpToSecret first second
  | presharedKey
      {first second : List Char}
      (firstAssigns : AssignsKey "PresharedKey".toList first)
      (secondAssigns : AssignsKey "PresharedKey".toList second) :
      SameUpToSecret first second

/-- Every line that assigns the private key is replaced. -/
theorem sanitizeLine_of_privateKey
    {rawLine : List Char}
    (assigns : AssignsKey "PrivateKey".toList rawLine) :
    sanitizeLine rawLine = redactionMarker := by
  have recognised : startsSecret rawLine = true :=
    startsSecret_of_assignsKey
      (by decide) (by decide) assigns
  simp [sanitizeLine, secretAssignment, recognised]

/-- Every line that assigns the preshared key is replaced. -/
theorem sanitizeLine_of_presharedKey
    {rawLine : List Char}
    (assigns : AssignsKey "PresharedKey".toList rawLine) :
    sanitizeLine rawLine = redactionMarker := by
  have recognised : startsSecret rawLine = true :=
    startsSecret_of_assignsKey
      (by decide) (by decide) assigns
  simp [sanitizeLine, secretAssignment, recognised]

/-- Lines that differ in a secret only have the same copy. -/
theorem sanitizeLine_eq
    {first second : List Char}
    (related : SameUpToSecret first second) :
    sanitizeLine first = sanitizeLine second := by
  cases related with
  | same =>
      rfl
  | privateKey firstAssigns secondAssigns =>
      rw [sanitizeLine_of_privateKey firstAssigns,
        sanitizeLine_of_privateKey secondAssigns]
  | presharedKey firstAssigns secondAssigns =>
      rw [sanitizeLine_of_presharedKey firstAssigns,
        sanitizeLine_of_presharedKey secondAssigns]

/-- Texts that differ in profile secrets only have the same copy. -/
theorem sanitizeDiagnostics_eq_of_sameUpToSecret
    {first second : List Char}
    (related :
      List.Forall₂ SameUpToSecret (Text.lines first) (Text.lines second)) :
    sanitizeDiagnostics first = sanitizeDiagnostics second := by
  have copies :
      (Text.lines first).map sanitizeLine =
        (Text.lines second).map sanitizeLine := by
    rw [← List.forall₂_eq_eq_eq, List.forall₂_map_left_iff,
      List.forall₂_map_right_iff]
    exact related.imp fun _ _ => sanitizeLine_eq
  unfold sanitizeDiagnostics
  rw [copies]

/-- A short log with a key in it. -/
def shortLog : List Char :=
  "ok\nPrivateKey = c2VjcmV0\nend".toList

/-- The same log with another key, another layout, and a comment. -/
def otherLog : List Char :=
  "ok\n\tPrivateKey=b3RoZXI= # laptop\nend".toList

/-- The two logs have the same copy. -/
theorem sanitizeDiagnostics_shortLog :
    sanitizeDiagnostics shortLog = sanitizeDiagnostics otherLog := by
  apply sanitizeDiagnostics_eq_of_sameUpToSecret
  have shortLines :
      Text.lines shortLog =
        ["ok".toList, "PrivateKey = c2VjcmV0".toList, "end".toList] := by
    decide
  have otherLines :
      Text.lines otherLog =
        ["ok".toList, "\tPrivateKey=b3RoZXI= # laptop".toList,
          "end".toList] := by
    decide
  have shortAssigns :
      AssignsKey "PrivateKey".toList "PrivateKey = c2VjcmV0".toList :=
    ⟨"PrivateKey ".toList, " c2VjcmV0".toList, by decide,
      by decide⟩
  have otherAssigns :
      AssignsKey "PrivateKey".toList
        "\tPrivateKey=b3RoZXI= # laptop".toList :=
    ⟨"PrivateKey".toList, "b3RoZXI=".toList, by decide,
      by decide⟩
  rw [shortLines, otherLines]
  exact .cons (.same _)
    (.cons (.privateKey shortAssigns otherAssigns) (.cons (.same _) .nil))

/-- A classified assignment assigns the key of its field. -/
theorem assignsKey_of_classify
    {current : Section}
    {rawLine value : List Char}
    {field : ProfileField}
    (classified : classify current rawLine = .assignment field value) :
    AssignsKey field.key rawLine := by
  obtain ⟨name, text, found, -, key, -⟩ := assignment_of_classify classified
  exact ⟨name, text, found, key⟩

/-- Lines the parser takes a secret from are replaced in the copy. -/
theorem sanitizeLine_of_classify
    {current : Section}
    {rawLine value : List Char}
    {field : ProfileField}
    (secret : field = .privateKey ∨ field = .presharedKey)
    (classified : classify current rawLine = .assignment field value) :
    sanitizeLine rawLine = redactionMarker := by
  have assigns := assignsKey_of_classify classified
  rcases secret with rfl | rfl
  · exact sanitizeLine_of_privateKey assigns
  · exact sanitizeLine_of_presharedKey assigns

end Waker
