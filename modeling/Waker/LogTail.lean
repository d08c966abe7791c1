import Waker.Diagnostics
import Waker.Utf8Text

namespace Waker

/-!
# Cutting a log and sanitising what is left

The tail of a log begins at an arbitrary byte.  A line behind the cut is copied
as it would be copied from the whole log; a line the cut falls into is judged
by the patterns that stand behind the cut, so where they stand decides.
-/

/-- A log that is empty or ends with a line feed. -/
def EndedBytes (bytes : List UInt8) : Prop :=
  bytes = [] ∨ ∃ front, bytes = front ++ [10]

/-- What can follow a line. -/
inductive LineEnd (line : List UInt8) : List UInt8 → Prop where
  | input :
      LineEnd line []
  | feed
      (rest : List UInt8)
      (noReturn : line.getLast? ≠ some 13) :
      LineEnd line (10 :: rest)
  | returnFeed
      (rest : List UInt8) :
      LineEnd line (13 :: 10 :: rest)

/-- A line of a log with what stands before and after it. -/
structure IsLogLine (log before line after : List UInt8) : Prop where
  shape : log = before ++ (line ++ after)
  starts : EndedBytes before
  feedless : 10 ∉ line
  ends : LineEnd line after

/-- The part of a line that falls inside the tail. -/
def partInTail
    (log : List UInt8)
    (maxBytes : Nat)
    (before line : List UInt8) : List UInt8 :=
  line.drop (tailStart log maxBytes - before.length)

/-- The lines of the tail that stand before a line. -/
def linesBefore
    (log : List UInt8)
    (maxBytes : Nat)
    (before : List UInt8) : List (List Char) :=
  Text.lines (Utf8.decodeLossy (before.drop (tailStart log maxBytes)))

/--
The part of a line that falls inside the tail is replaced: its place in the
copy holds the marker, which is not the part itself.
-/
def PartRedacted
    (log : List UInt8)
    (maxBytes : Nat)
    (before line : List UInt8) : Prop :=
  (Text.split '\n' (sanitizeDiagnostics (logTail log maxBytes)))[
      (linesBefore log maxBytes before).length]? =
      some redactionMarker ∧
    Utf8.decodeLossy (partInTail log maxBytes before line) ≠ redactionMarker

/-- No part of a line that is recognised in the whole log is copied. -/
def TailRedacts (log : List UInt8) (maxBytes : Nat) : Prop :=
  ∀ before line after,
    IsLogLine log before line after →
    secretAssignment (Utf8.decodeLossy line) = true →
    partInTail log maxBytes before line ≠ [] →
    PartRedacted log maxBytes before line

/-- A spelling of a pattern stands in a line, its first byte at `position`. -/
def StandsAt
    (pattern : List Char)
    (line : List UInt8)
    (position : Nat) : Prop :=
  ∃ spelled,
    Text.toAsciiLowercase spelled = pattern ∧
      Utf8.encode spelled <+: line.drop position

/--
From its byte `cut` on, a line holds a start pattern with nothing but blanks
between the cut and the pattern, or an inner pattern.
-/
def RecognisedFrom (line : List UInt8) (cut : Nat) : Prop :=
  (∃ pattern ∈ startPatterns, ∃ position,
      cut ≤ position ∧
        Text.Blank (Utf8.decodeLossy ((line.take position).drop cut)) ∧
        StandsAt pattern line position) ∨
    ∃ pattern ∈ innerPatterns, ∃ position,
      cut ≤ position ∧ StandsAt pattern line position

/--
When the cut falls into a recognised line, a pattern stands behind the cut: a
start pattern with blanks only between the cut and it, or an inner pattern.
-/
def CutKeepsAssignment (log : List UInt8) (maxBytes : Nat) : Prop :=
  ∀ before line after,
    IsLogLine log before line after →
    RecognisedFrom line 0 →
    before.length < tailStart log maxBytes →
    tailStart log maxBytes < before.length + line.length →
    RecognisedFrom line (tailStart log maxBytes - before.length)

/-- The start patterns are ASCII texts that begin with a letter. -/
theorem startPatterns_ascii :
    ∀ pattern, pattern ∈ startPatterns →
      pattern ≠ [] ∧ Utf8.IsAscii pattern ∧
        (pattern.head?.all fun char => !Text.isWhitespace char) = true := by
  decide

/-- The inner patterns are ASCII texts. -/
theorem innerPatterns_ascii :
    ∀ pattern, pattern ∈ innerPatterns →
      pattern ≠ [] ∧ Utf8.IsAscii pattern := by
  decide

/-- Only ASCII characters are spellings of ASCII characters. -/
theorem isAscii_of_toAsciiLowercase
    {text : List Char}
    (ascii : Utf8.IsAscii (Text.toAsciiLowercase text)) :
    Utf8.IsAscii text := by
  intro char member
  have lowered : char.toLower.toNat < 0x80 :=
    ascii _ (List.mem_map_of_mem member)
  by_cases upper : 65 ≤ char.toNat ∧ char.toNat ≤ 90
  · omega
  · rwa [Text.toLower_eq_self upper] at lowered

/--
A pattern stands in the lower-case text of some bytes exactly where one of its
spellings stands in the bytes.
-/
theorem toAsciiLowercase_decodeLossy_iff
    {pattern front : List Char}
    (nonempty : pattern ≠ [])
    (ascii : Utf8.IsAscii pattern)
    (bytes : List UInt8) :
    (∃ rest,
        Text.toAsciiLowercase (Utf8.decodeLossy bytes) =
          front ++ (pattern ++ rest)) ↔
      ∃ position,
        Text.toAsciiLowercase (Utf8.decodeLossy (bytes.take position)) =
            front ∧
          StandsAt pattern bytes position := by
  constructor
  · rintro ⟨rest, lowered⟩
    obtain ⟨start, more, whole, rfl, loweredMore⟩ :=
      List.map_eq_append_iff.mp lowered
    obtain ⟨spelled, after, rfl, rfl, -⟩ :=
      List.map_eq_append_iff.mp loweredMore
    have spelledNonempty : spelled ≠ [] := by
      rintro rfl
      exact nonempty rfl
    obtain ⟨before, later, rfl, rfl, -⟩ :=
      (Utf8.decodeLossy_eq_append_iff spelledNonempty
        (isAscii_of_toAsciiLowercase ascii)).mp whole
    refine ⟨before.length, ?_, spelled, rfl, ?_⟩
    · rw [List.take_left]
      rfl
    · rw [List.drop_left]
      exact List.prefix_append _ _
  · rintro ⟨position, rfl, spelled, rfl, later, shape⟩
    have spelledNonempty : spelled ≠ [] := by
      rintro rfl
      exact nonempty rfl
    have whole :=
      (Utf8.decodeLossy_eq_append_iff spelledNonempty
        (isAscii_of_toAsciiLowercase ascii)).mpr
        ⟨bytes.take position, later, by
          rw [shape, List.take_append_drop], rfl, rfl⟩
    refine ⟨Text.toAsciiLowercase (Utf8.decodeLossy later), ?_⟩
    rw [whole, Text.toAsciiLowercase_append, Text.toAsciiLowercase_append]

/-- A pattern that begins with no blank stands behind the leading blanks. -/
theorem prefix_trimStart_iff
    {pattern : List Char}
    (nonempty : pattern ≠ [])
    (solid : (pattern.head?.all fun char => !Text.isWhitespace char) = true)
    (text : List Char) :
    pattern <+: Text.trimStart text ↔
      ∃ front, Text.Blank front ∧
        ∃ rest, text = front ++ (pattern ++ rest) := by
  constructor
  · rintro ⟨rest, shape⟩
    refine ⟨text.takeWhile Text.isWhitespace,
      fun _ member => List.mem_takeWhile_imp member, rest, ?_⟩
    rw [shape, Text.trimStart, List.takeWhile_append_dropWhile]
  · rintro ⟨front, blank, rest, rfl⟩
    obtain ⟨first, more, rfl⟩ := List.exists_cons_of_ne_nil nonempty
    rw [Text.trimStart_blank_append blank, List.cons_append,
      Text.trimStart_cons (by simpa using solid)]
    exact List.prefix_append (first :: more) rest

/-- The start tests look for a start pattern behind blanks. -/
theorem startsSecret_decodeLossy_iff
    (bytes : List UInt8) :
    startsSecret (Utf8.decodeLossy bytes) = true ↔
      ∃ pattern ∈ startPatterns, ∃ position,
        Text.Blank (Utf8.decodeLossy (bytes.take position)) ∧
          StandsAt pattern bytes position := by
  simp only [startsSecret, List.any_eq_true, Text.startsWith_iff]
  apply exists_congr
  intro pattern
  apply and_congr_right
  intro member
  obtain ⟨nonempty, ascii, solid⟩ := startPatterns_ascii pattern member
  simp only [prefix_trimStart_iff nonempty solid,
    toAsciiLowercase_decodeLossy_iff nonempty ascii]
  constructor
  · rintro ⟨front, blank, position, rfl, stands⟩
    exact ⟨position, Text.blank_toAsciiLowercase_iff.mp blank, stands⟩
  · rintro ⟨position, blank, stands⟩
    exact ⟨_, Text.blank_toAsciiLowercase_iff.mpr blank, position, rfl, stands⟩

/-- The inner tests look for an inner pattern anywhere. -/
theorem containsSecret_decodeLossy_iff
    (bytes : List UInt8) :
    containsSecret (Utf8.decodeLossy bytes) = true ↔
      ∃ pattern ∈ innerPatterns, ∃ position,
        StandsAt pattern bytes position := by
  simp only [containsSecret, List.any_eq_true, Text.contains_iff]
  apply exists_congr
  intro pattern
  apply and_congr_right
  intro member
  obtain ⟨nonempty, ascii⟩ := innerPatterns_ascii pattern member
  constructor
  · rintro ⟨front, rest, shape⟩
    rw [List.append_assoc] at shape
    obtain ⟨position, -, stands⟩ :=
      (toAsciiLowercase_decodeLossy_iff nonempty ascii bytes).mp
        ⟨rest, shape.symm⟩
    exact ⟨position, stands⟩
  · rintro ⟨position, stands⟩
    obtain ⟨rest, shape⟩ :=
      (toAsciiLowercase_decodeLossy_iff nonempty ascii bytes).mpr
        ⟨position, rfl, stands⟩
    rw [shape, ← List.append_assoc]
    exact ⟨_, rest, rfl⟩

/-- The part of a line behind a cut is recognised by what stands behind it. -/
theorem secretAssignment_drop_iff
    (line : List UInt8)
    (cut : Nat) :
    secretAssignment (Utf8.decodeLossy (line.drop cut)) = true ↔
      RecognisedFrom line cut := by
  have stands (pattern : List Char) (position : Nat) :
      StandsAt pattern (line.drop cut) position ↔
        StandsAt pattern line (cut + position) := by
    unfold StandsAt
    rw [List.drop_drop]
  have between (position : Nat) :
      (line.drop cut).take position =
        (line.take (cut + position)).drop cut := by
    rw [List.drop_take, Nat.add_sub_cancel_left]
  have shift (holds : Nat → Prop) :
      (∃ position, holds (cut + position)) ↔
        ∃ position, cut ≤ position ∧ holds position := by
    constructor
    · rintro ⟨position, known⟩
      exact ⟨cut + position, Nat.le_add_right _ _, known⟩
    · rintro ⟨position, behind, known⟩
      refine ⟨position - cut, ?_⟩
      rwa [Nat.add_sub_cancel' behind]
  unfold secretAssignment RecognisedFrom
  rw [Bool.or_eq_true, startsSecret_decodeLossy_iff,
    containsSecret_decodeLossy_iff]
  simp only [stands, between]
  apply or_congr
  · apply exists_congr
    intro pattern
    exact and_congr_right fun _ => shift fun position =>
      Text.Blank (Utf8.decodeLossy ((line.take position).drop cut)) ∧
        StandsAt pattern line position
  · apply exists_congr
    intro pattern
    exact and_congr_right fun _ => shift (StandsAt pattern line)

/-- A line feed is the character of byte 10. -/
theorem asciiChar_feed : Utf8.asciiChar 10 = '\n' :=
  rfl

/-- A carriage return is the character of byte 13. -/
theorem asciiChar_return : Utf8.asciiChar 13 = '\r' :=
  rfl

namespace EndedBytes

/-- What is left of an ended log is ended. -/
theorem drop
    {bytes : List UInt8}
    (ended : EndedBytes bytes)
    (count : Nat) :
    EndedBytes (bytes.drop count) := by
  rcases ended with rfl | ⟨front, rfl⟩
  · exact .inl List.drop_nil
  · by_cases inside : count ≤ front.length
    · exact .inr ⟨front.drop count, List.drop_append_of_le_length inside⟩
    · apply Or.inl
      apply List.drop_eq_nil_of_le
      simp only [List.length_append, List.length_cons, List.length_nil]
      omega

/-- An ended log is decoded independently of what follows. -/
theorem decodeLossy_append
    {bytes : List UInt8}
    (ended : EndedBytes bytes)
    (rest : List UInt8) :
    Utf8.decodeLossy (bytes ++ rest) =
      Utf8.decodeLossy bytes ++ Utf8.decodeLossy rest := by
  rcases ended with rfl | ⟨front, rfl⟩
  · rfl
  · rw [List.append_assoc, List.singleton_append,
      Utf8.decodeLossy_append_ascii front (by decide),
      Utf8.decodeLossy_append_ascii front (by decide)]
    simp

/-- An ended log decodes to an ended text. -/
theorem ended_decodeLossy
    {bytes : List UInt8}
    (ended : EndedBytes bytes) :
    Text.Ended (Utf8.decodeLossy bytes) := by
  rcases ended with rfl | ⟨front, rfl⟩
  · exact .inl rfl
  · exact .inr ⟨Utf8.decodeLossy front,
      Utf8.decodeLossy_append_ascii front (by decide) []⟩

end EndedBytes

/-- The first line of a text that begins with a line of a log. -/
theorem lines_decodeLossy
    {line after : List UInt8}
    (nonempty : line ≠ [])
    (feedless : 10 ∉ line)
    (ends : LineEnd line after) :
    ∃ rest,
      Text.lines (Utf8.decodeLossy (line ++ after)) =
        Utf8.decodeLossy line :: rest := by
  have feedlessText : '\n' ∉ Utf8.decodeLossy line :=
    Utf8.asciiChar_not_mem_decodeLossy 10 (by decide) feedless
  cases ends with
  | input =>
      rw [List.append_nil]
      exact ⟨[], Text.lines_of_feedless
        (Utf8.decodeLossy_ne_nil nonempty) feedlessText⟩
  | feed rest noReturn =>
      have kept :
          Text.stripCarriageReturn (Utf8.decodeLossy line) =
            Utf8.decodeLossy line := by
        apply if_neg
        intro final
        exact noReturn (Utf8.getLast?_decodeLossy 13 (by decide) final)
      rw [Utf8.decodeLossy_append_ascii line (by decide), asciiChar_feed,
        Text.lines_line_feed feedlessText, kept]
      exact ⟨_, rfl⟩
  | returnFeed rest =>
      have feedlessReturn : '\n' ∉ Utf8.decodeLossy line ++ ['\r'] := by
        simpa using feedlessText
      have second :
          Utf8.decodeLossy (10 :: rest) = '\n' :: Utf8.decodeLossy rest :=
        Utf8.decodeLossy_append_ascii [] (by decide) rest
      rw [Utf8.decodeLossy_append_ascii line (by decide), asciiChar_return,
        second, ← List.singleton_append, ← List.append_assoc,
        Text.lines_line_feed feedlessReturn]
      refine ⟨Text.lines (Utf8.decodeLossy rest), ?_⟩
      simp [Text.stripCarriageReturn]

/-- What is left of a line ends as the line does. -/
theorem LineEnd.drop
    {line after : List UInt8}
    (ends : LineEnd line after)
    (count : Nat) :
    LineEnd (line.drop count) after := by
  cases ends with
  | input =>
      exact .input
  | feed rest noReturn =>
      apply LineEnd.feed
      rw [List.getLast?_drop]
      split
      · simp
      · exact noReturn
  | returnFeed rest =>
      exact .returnFeed rest

namespace IsLogLine

variable {log before line after : List UInt8}

/-- The tail of a log around a line that is not cut off entirely. -/
theorem drop_tailStart
    (logLine : IsLogLine log before line after)
    {maxBytes : Nat}
    (nonempty : partInTail log maxBytes before line ≠ []) :
    log.drop (tailStart log maxBytes) =
      before.drop (tailStart log maxBytes) ++
        (partInTail log maxBytes before line ++ after) := by
  unfold partInTail at nonempty ⊢
  have inside : tailStart log maxBytes - before.length < line.length := by
    simpa [List.drop_eq_nil_iff] using nonempty
  calc log.drop (tailStart log maxBytes)
      = (before ++ (line ++ after)).drop (tailStart log maxBytes) := by
        rw [← logLine.shape]
    _ = before.drop (tailStart log maxBytes) ++
          (line ++ after).drop (tailStart log maxBytes - before.length) :=
        List.drop_append
    _ = _ := by
        rw [List.drop_append_of_le_length (Nat.le_of_lt inside)]

/-- The part of a line inside the tail is a line of the tail. -/
theorem lines_logTail
    (logLine : IsLogLine log before line after)
    {maxBytes : Nat}
    (nonempty : partInTail log maxBytes before line ≠ []) :
    (Text.lines (logTail log maxBytes))[
        (linesBefore log maxBytes before).length]? =
      some (Utf8.decodeLossy (partInTail log maxBytes before line)) := by
  have ended := logLine.starts.drop (tailStart log maxBytes)
  have feedless : 10 ∉ partInTail log maxBytes before line :=
    fun found => logLine.feedless (List.mem_of_mem_drop found)
  obtain ⟨rest, shape⟩ :=
    lines_decodeLossy nonempty feedless (logLine.ends.drop _)
  rw [logTail, logLine.drop_tailStart nonempty, ended.decodeLossy_append,
    Text.lines_append ended.ended_decodeLossy, shape]
  unfold linesBefore
  simp

/-- The part is replaced exactly when it is recognised by itself. -/
theorem partRedacted_iff
    (logLine : IsLogLine log before line after)
    {maxBytes : Nat}
    (nonempty : partInTail log maxBytes before line ≠ []) :
    PartRedacted log maxBytes before line ↔
      secretAssignment
        (Utf8.decodeLossy (partInTail log maxBytes before line)) = true := by
  unfold PartRedacted
  rw [sanitizeDiagnostics_line (logLine.lines_logTail nonempty),
    Option.some.injEq]
  constructor
  · rintro ⟨replaced, differs⟩
    exact (sanitizeLine_eq_marker_iff differs).mp replaced
  · intro recognised
    have differs :
        Utf8.decodeLossy (partInTail log maxBytes before line) ≠
          redactionMarker := by
      intro same
      rw [same, secretAssignment_redactionMarker] at recognised
      cases recognised
    exact ⟨(sanitizeLine_eq_marker_iff differs).mpr recognised, differs⟩

end IsLogLine

/--
Cutting a log keeps its recognised lines from being copied exactly when every
cut that falls into such a line leaves a pattern the line is recognised by.
-/
theorem tailRedacts_iff
    (log : List UInt8)
    (maxBytes : Nat) :
    TailRedacts log maxBytes ↔ CutKeepsAssignment log maxBytes := by
  constructor
  · intro redacts before line after logLine recognised cutBefore cutInside
    have nonempty : partInTail log maxBytes before line ≠ [] := by
      simp only [partInTail, ne_eq, List.drop_eq_nil_iff]
      omega
    rw [← secretAssignment_drop_iff, List.drop_zero] at recognised
    rw [← secretAssignment_drop_iff]
    exact (logLine.partRedacted_iff nonempty).mp
      (redacts before line after logLine recognised nonempty)
  · intro keeps before line after logLine recognised nonempty
    apply (logLine.partRedacted_iff nonempty).mpr
    by_cases cutBefore : before.length < tailStart log maxBytes
    · have cutInside :
          tailStart log maxBytes < before.length + line.length := by
        simp only [partInTail, ne_eq, List.drop_eq_nil_iff] at nonempty
        omega
      rw [← @List.drop_zero _ line, secretAssignment_drop_iff]
        at recognised
      exact (secretAssignment_drop_iff _ _).mpr
        (keeps before line after logLine recognised cutBefore cutInside)
    · have whole : tailStart log maxBytes - before.length = 0 := by
        omega
      rw [partInTail, whole, List.drop_zero]
      exact recognised

/-- A log of one credential assignment. -/
def keyLog : List UInt8 :=
  "PrivateKey = secret".toList.map fun char => UInt8.ofNat char.toNat

/-- Not every cut keeps recognised lines from being copied. -/
theorem not_tailRedacts :
    ¬ ∀ (log : List UInt8) (maxBytes : Nat), TailRedacts log maxBytes := by
  intro always
  have whole : IsLogLine keyLog [] keyLog [] := by
    exact ⟨by simp, .inl rfl, by decide, .input⟩
  have replaced :=
    always keyLog 9 [] keyLog [] whole (by decide) (by decide)
  exact absurd replaced.1 (by decide +kernel)

end Waker
