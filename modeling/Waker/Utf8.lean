import Mathlib.Algebra.GroupWithZero.Nat
import Mathlib.Data.List.Basic

namespace Utf8

/-!
# Lossy UTF-8 decoding

`String::from_utf8_lossy` as a machine that reads one byte at a time.  A
sequence that breaks off is replaced by one replacement character, and the byte
that broke it is read afresh.  A pending sequence carries the proof that each
of its completions is a scalar value outside ASCII, so decoded characters never
have to be checked.
-/

/-- A scalar value that takes more than one byte. -/
def Wide (code : Nat) : Prop :=
  0x80 ≤ code ∧ code.isValidChar

/-- A sequence whose first bytes have been read. -/
structure Pending where
  bits : Nat
  later : Nat
  low : Nat
  high : Nat
  continuation : 0x80 ≤ low
  wide :
    ∀ code,
      (bits * 64 + (low - 0x80)) * 64 ^ later ≤ code →
      code < (bits * 64 + (high - 0x80) + 1) * 64 ^ later →
      Wide code

namespace Pending

/-- Whether a byte may come next. -/
def Accepts (pending : Pending) (byte : Nat) : Prop :=
  pending.low ≤ byte ∧ byte ≤ pending.high

instance (pending : Pending) (byte : Nat) :
    Decidable (pending.Accepts byte) :=
  inferInstanceAs (Decidable (_ ∧ _))

/-- The bits read after one more byte. -/
def bitsWith (pending : Pending) (byte : Nat) : Nat :=
  pending.bits * 64 + (byte - 0x80)

/-- The last byte of a sequence completes a wide scalar value. -/
theorem wide_bitsWith
    {pending : Pending}
    {byte : Nat}
    (accepted : pending.Accepts byte)
    (complete : pending.later = 0) :
    Wide (pending.bitsWith byte) := by
  obtain ⟨lowBound, highBound⟩ := accepted
  refine pending.wide _ ?_ ?_
  · rw [complete, Nat.pow_zero, Nat.mul_one]
    unfold bitsWith
    omega
  · rw [complete, Nat.pow_zero, Nat.mul_one]
    unfold bitsWith
    omega

/-- The sequence after one more byte that does not complete it. -/
def advance
    (pending : Pending)
    (byte : Nat)
    (accepted : pending.Accepts byte)
    (later : Nat)
    (missing : pending.later = later + 1) : Pending where
  bits := pending.bitsWith byte
  later := later
  low := 0x80
  high := 0xBF
  continuation := Nat.le_refl _
  wide := by
    intro code lowBound highBound
    obtain ⟨least, most⟩ := accepted
    refine pending.wide code ?_ ?_
    · refine Nat.le_trans ?_ lowBound
      rw [missing, Nat.pow_succ', ← Nat.mul_assoc]
      apply Nat.mul_le_mul_right
      unfold bitsWith
      omega
    · refine Nat.lt_of_lt_of_le highBound ?_
      rw [missing, Nat.pow_succ', ← Nat.mul_assoc]
      apply Nat.mul_le_mul_right
      unfold bitsWith
      omega

end Pending

/-- The sequence a leading byte begins, if it begins one. -/
def lead (byte : Nat) : Option Pending :=
  if two : 0xC2 ≤ byte ∧ byte ≤ 0xDF then
    some {
      bits := byte - 0xC0
      later := 0
      low := 0x80
      high := 0xBF
      continuation := Nat.le_refl _
      wide := by
        intro code lowBound highBound
        simp only [Wide, Nat.isValidChar]
        omega
    }
  else if byte = 0xE0 then
    some {
      bits := 0
      later := 1
      low := 0xA0
      high := 0xBF
      continuation := by decide
      wide := by
        intro code lowBound highBound
        simp only [Wide, Nat.isValidChar]
        omega
    }
  else if three :
      (0xE1 ≤ byte ∧ byte ≤ 0xEC) ∨ (0xEE ≤ byte ∧ byte ≤ 0xEF) then
    some {
      bits := byte - 0xE0
      later := 1
      low := 0x80
      high := 0xBF
      continuation := Nat.le_refl _
      wide := by
        intro code lowBound highBound
        simp only [Wide, Nat.isValidChar]
        omega
    }
  else if byte = 0xED then
    some {
      bits := 0xD
      later := 1
      low := 0x80
      high := 0x9F
      continuation := Nat.le_refl _
      wide := by
        intro code lowBound highBound
        simp only [Wide, Nat.isValidChar]
        omega
    }
  else if byte = 0xF0 then
    some {
      bits := 0
      later := 2
      low := 0x90
      high := 0xBF
      continuation := by decide
      wide := by
        intro code lowBound highBound
        simp only [Wide, Nat.isValidChar]
        omega
    }
  else if four : 0xF1 ≤ byte ∧ byte ≤ 0xF3 then
    some {
      bits := byte - 0xF0
      later := 2
      low := 0x80
      high := 0xBF
      continuation := Nat.le_refl _
      wide := by
        intro code lowBound highBound
        simp only [Wide, Nat.isValidChar]
        omega
    }
  else if byte = 0xF4 then
    some {
      bits := 4
      later := 2
      low := 0x80
      high := 0x8F
      continuation := Nat.le_refl _
      wide := by
        intro code lowBound highBound
        simp only [Wide, Nat.isValidChar]
        omega
    }
  else
    none

/-- `char::REPLACEMENT_CHARACTER`. -/
def replacement : Char :=
  '\uFFFD'

/-- The character of an ASCII byte. -/
def asciiChar (byte : UInt8) : Char :=
  Char.ofNat byte.toNat

/-- Read a byte between characters. -/
def start (byte : UInt8) : List Char × Option Pending :=
  if byte.toNat < 0x80 then
    ([asciiChar byte], none)
  else
    match lead byte.toNat with
    | some pending => ([], some pending)
    | none => ([replacement], none)

/-- Read a byte that continues a sequence. -/
def continueWith
    (pending : Pending)
    (byte : Nat)
    (accepted : pending.Accepts byte) : List Char × Option Pending :=
  match missing : pending.later with
  | 0 =>
      ([Char.ofNatAux _ (Pending.wide_bitsWith accepted missing).2], none)
  | later + 1 =>
      ([], some (pending.advance byte accepted later missing))

/-- Read one byte: the characters it settles and what is pending after it. -/
def step : Option Pending → UInt8 → List Char × Option Pending
  | none, byte => start byte
  | some pending, byte =>
      if accepted : pending.Accepts byte.toNat then
        continueWith pending byte.toNat accepted
      else
        (replacement :: (start byte).1, (start byte).2)

/-- What a pending sequence becomes when the input ends or breaks it off. -/
def flush : Option Pending → List Char
  | none => []
  | some _ => [replacement]

/-- Decode the remaining bytes. -/
def decodeFrom : Option Pending → List UInt8 → List Char
  | state, [] => flush state
  | state, byte :: rest =>
      (step state byte).1 ++ decodeFrom (step state byte).2 rest

/-- `String::from_utf8_lossy`. -/
def decodeLossy (bytes : List UInt8) : List Char :=
  decodeFrom none bytes

/-- A character outside ASCII. -/
def WideChar (char : Char) : Prop :=
  Wide char.toNat

/-- The replacement character is outside ASCII. -/
theorem wideChar_replacement : WideChar replacement :=
  ⟨by decide, .inr ⟨by decide, by decide⟩⟩

/-- What flushing leaves is outside ASCII. -/
theorem wideChar_of_mem_flush
    {state : Option Pending}
    {char : Char}
    (member : char ∈ flush state) :
    WideChar char := by
  cases state with
  | none =>
      simp [flush] at member
  | some pending =>
      rw [flush, List.mem_singleton] at member
      exact member ▸ wideChar_replacement

/-- An ASCII byte breaks off what is pending and stands for itself. -/
theorem step_ascii
    (state : Option Pending)
    {byte : UInt8}
    (ascii : byte.toNat < 0x80) :
    step state byte = (flush state ++ [asciiChar byte], none) := by
  have alone : start byte = ([asciiChar byte], none) := by
    rw [start, if_pos ascii]
  cases state with
  | none =>
      exact alone
  | some pending =>
      have refused : ¬ pending.Accepts byte.toNat := by
        intro accepted
        have continuation := pending.continuation
        have least := accepted.1
        omega
      rw [step, dif_neg refused, alone]
      rfl

/-- A settled character is wide or the ASCII byte just read. -/
theorem mem_start
    {byte : UInt8}
    {char : Char}
    (member : char ∈ (start byte).1) :
    WideChar char ∨ byte.toNat < 0x80 ∧ char = asciiChar byte := by
  unfold start at member
  split at member
  · rename_i ascii
    exact .inr ⟨ascii, List.mem_singleton.mp member⟩
  · split at member
    · simp at member
    · exact .inl (List.mem_singleton.mp member ▸ wideChar_replacement)

/-- A settled character is wide or the ASCII byte just read. -/
theorem mem_step
    {state : Option Pending}
    {byte : UInt8}
    {char : Char}
    (member : char ∈ (step state byte).1) :
    WideChar char ∨ byte.toNat < 0x80 ∧ char = asciiChar byte := by
  cases state with
  | none =>
      exact mem_start member
  | some pending =>
      simp only [step] at member
      split at member
      · rename_i accepted
        apply Or.inl
        unfold continueWith at member
        split at member
        · rename_i complete
          rw [List.mem_singleton] at member
          subst member
          exact Pending.wide_bitsWith accepted complete
        · simp at member
      · rcases List.mem_cons.mp member with rfl | later
        · exact .inl wideChar_replacement
        · exact mem_start later

/-- A byte settles a character or leaves a sequence pending. -/
theorem step_progress
    (state : Option Pending)
    (byte : UInt8) :
    (step state byte).1 ≠ [] ∨ (step state byte).2 ≠ none := by
  cases state with
  | none =>
      simp only [step, start]
      split
      · simp
      · split <;> simp
  | some pending =>
      simp only [step]
      split
      · unfold continueWith
        split
        · exact .inl (List.cons_ne_nil _ _)
        · exact .inr (Option.some_ne_none _)
      · exact .inl (List.cons_ne_nil _ _)

/-- Some character is still to come when something is pending or unread. -/
theorem decodeFrom_ne_nil
    {state : Option Pending}
    {bytes : List UInt8}
    (nonempty : bytes ≠ [] ∨ state ≠ none) :
    decodeFrom state bytes ≠ [] := by
  induction bytes generalizing state with
  | nil =>
      cases state with
      | none =>
          simp at nonempty
      | some pending =>
          simp [decodeFrom, flush]
  | cons byte rest inductionHypothesis =>
      intro empty
      rw [decodeFrom, List.append_eq_nil_iff] at empty
      rcases step_progress state byte with settled | pending
      · exact settled empty.1
      · exact inductionHypothesis (.inr pending) empty.2

/-- Decoding can be cut at an ASCII byte. -/
theorem decodeFrom_append_ascii
    (state : Option Pending)
    (front : List UInt8)
    {byte : UInt8}
    (ascii : byte.toNat < 0x80)
    (rest : List UInt8) :
    decodeFrom state (front ++ byte :: rest) =
      decodeFrom state front ++ asciiChar byte :: decodeFrom none rest := by
  induction front generalizing state with
  | nil =>
      simp [decodeFrom, step_ascii state ascii]
  | cons first front inductionHypothesis =>
      simp [decodeFrom, inductionHypothesis]

/-- An ASCII character of the decoded text is a byte of the input. -/
theorem mem_decodeFrom
    {state : Option Pending}
    {bytes : List UInt8}
    {char : Char}
    (member : char ∈ decodeFrom state bytes) :
    WideChar char ∨
      ∃ byte, byte ∈ bytes ∧ byte.toNat < 0x80 ∧ char = asciiChar byte := by
  induction bytes generalizing state with
  | nil =>
      exact .inl (wideChar_of_mem_flush member)
  | cons first rest inductionHypothesis =>
      rw [decodeFrom, List.mem_append] at member
      rcases member with now | later
      · exact (mem_step now).imp_right
          fun found => ⟨first, List.mem_cons_self, found⟩
      · exact (inductionHypothesis later).imp_right
          fun ⟨byte, inRest, found⟩ =>
            ⟨byte, List.mem_cons_of_mem first inRest, found⟩

/-- The last character is wide or the last byte. -/
theorem getLast?_decodeFrom
    {state : Option Pending}
    {front : List UInt8}
    {last : UInt8}
    {char : Char}
    (final :
      (decodeFrom state (front ++ [last])).getLast? = some char) :
    WideChar char ∨ last.toNat < 0x80 ∧ char = asciiChar last := by
  induction front generalizing state with
  | nil =>
      have member := List.mem_of_getLast? final
      simp only [List.nil_append, decodeFrom] at final member
      rcases List.mem_append.mp member with now | later
      · exact mem_step now
      · exact .inl (wideChar_of_mem_flush later)
  | cons first front inductionHypothesis =>
      have nonempty :
          decodeFrom (step state first).2 (front ++ [last]) ≠ [] :=
        decodeFrom_ne_nil (.inl (by simp))
      rw [List.cons_append, decodeFrom,
        List.getLast?_append_of_ne_nil _ nonempty] at final
      exact inductionHypothesis final

/-- What a settled or pending byte leaves holds an ASCII character last. -/
theorem step_eq_append_ascii
    {state : Option Pending}
    {byte : UInt8}
    {front rest : List Char}
    {char : Char}
    (ascii : char.toNat < 0x80)
    (settled : (step state byte).1 = front ++ char :: rest) :
    byte.toNat < 0x80 ∧
      asciiChar byte = char ∧
      flush state = front ∧
      rest = [] := by
  have narrow : ¬ WideChar char := by
    intro wide
    have least := wide.1
    omega
  have member : char ∈ (step state byte).1 := by
    rw [settled]
    simp
  rcases mem_step member with wide | ⟨byteAscii, rfl⟩
  · exact (narrow wide).elim
  · rw [step_ascii state byteAscii] at settled
    rcases List.append_eq_append_iff.mp settled with
      ⟨more, shape, last⟩ | ⟨more, shape, last⟩
    · cases more with
      | nil =>
          simp at shape last
          exact ⟨byteAscii, rfl, shape.symm, last⟩
      | cons head tail =>
          simp at last
    · cases more with
      | nil =>
          simp at shape last
          exact ⟨byteAscii, rfl, shape, last⟩
      | cons head tail =>
          have inFlush : head ∈ flush state := by
            rw [shape]
            simp
          rw [List.cons_append, List.cons.injEq] at last
          rw [← last.1] at inFlush
          exact (narrow (wideChar_of_mem_flush inFlush)).elim

/-- An ASCII character of the decoded text cuts the input at its byte. -/
theorem decodeFrom_eq_append_ascii
    {state : Option Pending}
    {bytes : List UInt8}
    {front rest : List Char}
    {char : Char}
    (ascii : char.toNat < 0x80)
    (decoded : decodeFrom state bytes = front ++ char :: rest) :
    ∃ before byte after,
      bytes = before ++ byte :: after ∧
        byte.toNat < 0x80 ∧
        asciiChar byte = char ∧
        decodeFrom state before = front ∧
        decodeFrom none after = rest := by
  induction bytes generalizing state front with
  | nil =>
      have member : char ∈ flush state := by
        rw [show flush state = _ from decoded]
        simp
      have least := (wideChar_of_mem_flush member).1
      omega
  | cons first bytes inductionHypothesis =>
      rw [decodeFrom] at decoded
      rcases List.append_eq_append_iff.mp decoded with
        ⟨more, shape, later⟩ | ⟨more, shape, later⟩
      · obtain ⟨before, byte, after, rfl, byteAscii, same, decodedBefore,
          decodedAfter⟩ := inductionHypothesis later
        refine ⟨first :: before, byte, after, rfl, byteAscii, same, ?_,
          decodedAfter⟩
        rw [decodeFrom, decodedBefore, shape]
      · cases more with
        | nil =>
            obtain ⟨before, byte, after, rfl, byteAscii, same, decodedBefore,
              decodedAfter⟩ := @inductionHypothesis _ [] later.symm
            refine ⟨first :: before, byte, after, rfl, byteAscii, same, ?_,
              decodedAfter⟩
            rw [decodeFrom, decodedBefore, shape, List.append_nil,
              List.append_nil]
        | cons head tail =>
            rw [List.cons_append, List.cons.injEq] at later
            obtain ⟨rfl, later⟩ := later
            obtain ⟨firstAscii, same, settled, rfl⟩ :=
              step_eq_append_ascii ascii shape
            refine ⟨[], first, bytes, rfl, firstAscii, same, settled, ?_⟩
            rw [step_ascii state firstAscii] at later
            exact later.symm

/-- The code point of an ASCII byte is the byte. -/
theorem toNat_asciiChar
    {byte : UInt8}
    (ascii : byte.toNat < 0x80) :
    (asciiChar byte).toNat = byte.toNat := by
  have valid : byte.toNat.isValidChar := .inl (by omega)
  have decoded : asciiChar byte = Char.ofNatAux byte.toNat valid :=
    dif_pos valid
  rw [decoded]
  rfl

/-- An ASCII byte does not decode to a wide character. -/
theorem not_wideChar_asciiChar
    {byte : UInt8}
    (ascii : byte.toNat < 0x80) :
    ¬ WideChar (asciiChar byte) := by
  intro wide
  have least := wide.1
  rw [toNat_asciiChar ascii] at least
  omega

/-- Different ASCII bytes are different characters. -/
theorem eq_of_asciiChar_eq
    {first second : UInt8}
    (firstAscii : first.toNat < 0x80)
    (secondAscii : second.toNat < 0x80)
    (same : asciiChar first = asciiChar second) :
    first = second := by
  apply UInt8.toNat.inj
  rw [← toNat_asciiChar firstAscii, same, toNat_asciiChar secondAscii]

@[simp] theorem decodeLossy_nil : decodeLossy [] = [] :=
  rfl

/-- Bytes are left over when the input is not empty. -/
theorem decodeLossy_ne_nil
    {bytes : List UInt8}
    (nonempty : bytes ≠ []) :
    decodeLossy bytes ≠ [] :=
  decodeFrom_ne_nil (.inl nonempty)

/-- Lossy decoding can be cut at an ASCII byte. -/
theorem decodeLossy_append_ascii
    (front : List UInt8)
    {byte : UInt8}
    (ascii : byte.toNat < 0x80)
    (rest : List UInt8) :
    decodeLossy (front ++ byte :: rest) =
      decodeLossy front ++ asciiChar byte :: decodeLossy rest :=
  decodeFrom_append_ascii none front ascii rest

/-- An ASCII character is decoded from its byte only. -/
theorem asciiChar_not_mem_decodeLossy
    {bytes : List UInt8}
    (byte : UInt8)
    (ascii : byte.toNat < 0x80)
    (absent : byte ∉ bytes) :
    asciiChar byte ∉ decodeLossy bytes := by
  intro member
  rcases mem_decodeFrom member with wide | ⟨found, inBytes, foundAscii, same⟩
  · exact not_wideChar_asciiChar ascii wide
  · rw [eq_of_asciiChar_eq ascii foundAscii same] at absent
    exact absent inBytes

/-- An ASCII character ends the text only if its byte ends the input. -/
theorem getLast?_decodeLossy
    {bytes : List UInt8}
    (byte : UInt8)
    (ascii : byte.toNat < 0x80)
    (final : (decodeLossy bytes).getLast? = some (asciiChar byte)) :
    bytes.getLast? = some byte := by
  rcases List.eq_nil_or_concat bytes with rfl | ⟨front, last, rfl⟩
  · cases final
  · rw [List.concat_eq_append] at final ⊢
    rcases getLast?_decodeFrom final with wide | ⟨lastAscii, same⟩
    · exact (not_wideChar_asciiChar ascii wide).elim
    · rw [eq_of_asciiChar_eq ascii lastAscii same]
      simp

end Utf8
