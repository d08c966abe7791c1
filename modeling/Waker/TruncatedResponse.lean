import Waker.FritzHosts
import Waker.Whitespace

namespace Waker

/-!
# A response that is cut off

What is read from the beginning of a response is read from the whole of it: a
connection that is cut can turn a result into an error, never into another
result.
-/

/-- The status code of a response as a text. -/
def codeToken (response : List UInt8) : Option (List Char) := do
  let firstLine ← (response.splitOn 10).head?
  let line ← Utf8.fromUtf8 firstLine
  (Text.splitWhitespace (line.rdropWhile (· = '\r')))[1]?

/-- A status code of three digits, if there is one. -/
def ThreeDigitCode (response : List UInt8) : Prop :=
  ∀ code,
    codeToken response = some code →
    code.length = 3 ∧ ∀ char, char ∈ code → char.isDigit = true

/-- A field that is read from a text is read from its continuation. -/
theorem fieldText_append_right
    {field : String}
    {text value : List Char}
    (read : fieldText field text = .ok value)
    (more : List Char) :
    fieldText field (text ++ more) = .ok value := by
  unfold fieldText at read ⊢
  cases found : Text.find? (startTag field) text with
  | none =>
      rw [found] at read
      cases read
  | some position =>
      rw [Text.find?_append_right found more]
      rw [found] at read
      simp only [Option.map_some] at read ⊢
      have inside := Text.find?_bound found
      rw [List.drop_append_of_le_length inside]
      cases ended :
          Text.find? (endTag field)
            (text.drop (position + (startTag field).length)) with
      | none =>
          simp [Text.splitOnceAt, ended] at read
      | some length =>
          have bound := Text.find?_bound ended
          simp only [Text.splitOnceAt, ended, Option.map_some,
            Text.find?_append_right ended more] at read ⊢
          rw [List.take_append_of_le_length (by omega)]
          exact read

/-- A field of the beginning of a response is the field of the response. -/
theorem hostField_of_begins
    {field : String}
    {start response : List UInt8}
    {value : List Char}
    (begins : start <+: response)
    (read : hostField field start = .ok value)
    {text : List Char}
    (wellFormed : Utf8.fromUtf8 response = some text) :
    hostField field response = .ok value := by
  unfold hostField at read ⊢
  cases decoded : Utf8.fromUtf8 start with
  | none =>
      rw [decoded] at read
      cases read
  | some first =>
      rw [decoded] at read
      obtain ⟨more, rfl⟩ :=
        Utf8.prefix_of_fromUtf8 decoded wellFormed begins
      rw [wellFormed]
      exact fieldText_append_right read more

/-- The digits of a number bound its value. -/
theorem parseDigits_lt
    {maximum value number : Nat}
    {digits : List Char}
    (parsed : Text.parseDigits maximum value digits = .ok number) :
    number < (value + 1) * 10 ^ digits.length := by
  induction digits generalizing value with
  | nil =>
      cases parsed
      simp
  | cons char rest inductionHypothesis =>
      simp only [Text.parseDigits] at parsed
      split at parsed
      · cases parsed
      · rename_i digit isDigit
        split at parsed
        · have bound := inductionHypothesis parsed
          have small : digit < 10 := by
            unfold Text.digit? at isDigit
            split at isDigit
            · rename_i range
              cases isDigit
              have upper : char.toNat ≤ '9'.toNat := range.2
              have nine : '9'.toNat = '0'.toNat + 9 := rfl
              omega
            · cases isDigit
          rw [List.length_cons, Nat.pow_succ, Nat.mul_comm (10 ^ _) 10,
            ← Nat.mul_assoc]
          refine Nat.lt_of_lt_of_le bound (Nat.mul_le_mul_right _ ?_)
          omega
        · cases parsed

/-- A status of at least 200 has three digits. -/
theorem length_of_parseU16
    {code : List Char}
    {status : UInt16}
    (digits : ∀ char, char ∈ code → char.isDigit = true)
    (parsed : Text.parseU16 code = .ok status)
    (success : 200 ≤ status) :
    3 ≤ code.length := by
  by_contra short
  have noSign (rest : List Char) : code ≠ '+' :: rest := by
    rintro rfl
    have sign := digits '+' List.mem_cons_self
    exact absurd sign (by decide)
  have number :
      ∃ value,
        Text.parseDigits 65535 0 code = .ok value ∧
          status = UInt16.ofNat value := by
    unfold Text.parseU16 Text.parseUnsigned at parsed
    split at parsed
    · cases parsed
    · exact (noSign [] rfl).elim
    · exact (noSign _ rfl).elim
    · cases read : Text.parseDigits 65535 0 code with
      | error error =>
          rw [read] at parsed
          cases parsed
      | ok value =>
          rw [read] at parsed
          cases parsed
          exact ⟨value, rfl, rfl⟩
  obtain ⟨value, parsedDigits, rfl⟩ := number
  have bound := parseDigits_lt parsedDigits
  have power : 10 ^ code.length ≤ 10 ^ 2 :=
    Nat.pow_le_pow_right (by decide) (by omega)
  have small : value < 100 := by
    omega
  have atLeast : (200 : UInt16).toNat ≤ (UInt16.ofNat value).toNat := success
  rw [UInt16.toNat_ofNat', Nat.mod_eq_of_lt (by omega)] at atLeast
  have two : (200 : UInt16).toNat = 200 := rfl
  omega

/-- A status is read from the code token. -/
theorem httpStatus_ok_iff
    {response : List UInt8}
    {status : UInt16} :
    httpStatus response = .ok status ↔
      ∃ code,
        codeToken response = some code ∧
          Text.parseU16 code = .ok status := by
  unfold httpStatus codeToken
  cases (response.splitOn 10).head? with
  | none =>
      simp
  | some firstLine =>
      simp only [Option.bind_eq_bind, Option.bind_some]
      cases Utf8.fromUtf8 firstLine with
      | none =>
          simp
      | some line =>
          simp only [Option.bind_some, List.head?_drop]
          cases (Text.splitWhitespace
              (line.rdropWhile (· = '\r')))[1]? with
          | none =>
              simp
          | some code =>
              cases parsed : Text.parseU16 code <;>
                simp [Except.mapError, parsed]

/-- The first line of a well-formed response is well formed. -/
theorem exists_fromUtf8_firstLine
    {response firstLine : List UInt8}
    {text : List Char}
    (wellFormed : Utf8.fromUtf8 response = some text)
    (first : (response.splitOn 10).head? = some firstLine) :
    ∃ line, Utf8.fromUtf8 firstLine = some line := by
  by_cases hasFeed : 10 ∈ response
  · obtain ⟨front, rest, rfl, absent⟩ :=
      List.eq_append_cons_of_mem hasFeed
    have noFeed : ∀ byte ∈ front, (byte == 10) = false := by
      intro byte member
      rw [beq_eq_false_iff_ne]
      rintro rfl
      exact absent member
    rw [List.splitOn_append_cons_of_forall_mem_beq_eq_false noFeed 10
      (by decide)] at first
    cases first
    exact ⟨_, Utf8.fromUtf8_before (by decide) absent wellFormed⟩
  · rw [List.splitOn_eq_singleton hasFeed] at first
    cases first
    exact ⟨text, wellFormed⟩

/-- The code token of a response continues that of its beginning. -/
theorem codeToken_of_begins
    {start response : List UInt8}
    {code : List Char}
    (begins : start <+: response)
    (found : codeToken start = some code)
    {text : List Char}
    (wellFormed : Utf8.fromUtf8 response = some text) :
    ∃ continued,
      codeToken response = some continued ∧ code <+: continued := by
  obtain ⟨more, rfl⟩ := begins
  obtain ⟨first, firstLine, head, headWhole, beginsLine⟩ :=
    Text.head?_splitOnP_append (· == 10) start more
  have headStart : (start.splitOn 10).head? = some first := head
  have headResponse :
      ((start ++ more).splitOn 10).head? = some firstLine := headWhole
  obtain ⟨line, decodedLine⟩ :=
    exists_fromUtf8_firstLine wellFormed headResponse
  unfold codeToken at found ⊢
  rw [headStart] at found
  rw [headResponse]
  simp only [Option.bind_eq_bind, Option.bind_some, decodedLine] at found ⊢
  cases decoded : Utf8.fromUtf8 first with
  | none =>
      rw [decoded] at found
      cases found
  | some begun =>
      rw [decoded] at found
      simp only [Option.bind_some] at found
      obtain ⟨rest, rfl⟩ :=
        Utf8.prefix_of_fromUtf8 decoded decodedLine beginsLine
      rw [Text.splitWhitespace_rdropWhile_return] at found ⊢
      exact Text.getElem?_splitWhitespace_append found rest

/-- The status of a whole response is that of its beginning. -/
theorem httpStatus_of_begins
    {start response : List UInt8}
    {status : UInt16}
    (begins : start <+: response)
    (threeDigits : ThreeDigitCode response)
    (read : httpStatus start = .ok status)
    (success : 200 ≤ status)
    {text : List Char}
    (wellFormed : Utf8.fromUtf8 response = some text) :
    httpStatus response = .ok status := by
  obtain ⟨code, found, parsed⟩ := httpStatus_ok_iff.mp read
  obtain ⟨continued, foundWhole, beginsCode⟩ :=
    codeToken_of_begins begins found wellFormed
  obtain ⟨three, digits⟩ := threeDigits continued foundWhole
  have enough :=
    length_of_parseU16
      (fun char member => digits char (beginsCode.subset member)) parsed
      success
  have same : code = continued :=
    beginsCode.eq_of_length_le (by omega)
  exact httpStatus_ok_iff.mpr ⟨continued, foundWhole, same ▸ parsed⟩

/-- The check of a Hosts action passes with a status. -/
def Succeeds (response : List UInt8) (status : UInt16) : Prop :=
  httpStatus response = .ok status ∧ 200 ≤ status ∧ status < 300

/--
What the client reads from the beginning of a response it reads from the whole
response, unless that is not a text: the status, the address and the activity.
-/
theorem truncated_reads_same
    {start response : List UInt8}
    (begins : start <+: response)
    (threeDigits : ThreeDigitCode response)
    {status : UInt16}
    (succeeds : Succeeds start status) :
    Utf8.fromUtf8 response = none ∨
      Succeeds response status ∧
        ∀ debug,
          (∀ address,
            fritzHostIp debug start = .ok address →
            fritzHostIp debug response = .ok address) ∧
          ∀ active,
            fritzHostActive debug start = .ok active →
            fritzHostActive debug response = .ok active := by
  cases wellFormed : Utf8.fromUtf8 response with
  | none =>
      exact .inl rfl
  | some text =>
      refine .inr ⟨⟨httpStatus_of_begins begins threeDigits succeeds.1
        succeeds.2.1 wellFormed, succeeds.2⟩, fun debug => ⟨?_, ?_⟩⟩
      · intro address read
        unfold fritzHostIp at read ⊢
        cases field : hostField "NewIPAddress" start with
        | error error =>
            rw [field] at read
            cases read
        | ok value =>
            rw [field] at read
            rw [hostField_of_begins begins field wellFormed]
            exact read
      · intro active read
        unfold fritzHostActive at read ⊢
        cases field : hostField "NewActive" start with
        | error error =>
            rw [field] at read
            cases read
        | ok value =>
            rw [field] at read
            rw [hostField_of_begins begins field wellFormed]
            exact read

/-- The beginning of a response that says that a host is active. -/
def activeStart : List UInt8 :=
  Utf8.encode "HTTP/1.1 200 OK\r\n\r\n<NewActive>1</NewActive>".toList

/-- A response whose end is missing is read like the whole response. -/
theorem truncated_reads_same_active :
    Utf8.fromUtf8 (activeStart ++ Utf8.encode "</s:Body>".toList) = none ∨
      Succeeds (activeStart ++ Utf8.encode "</s:Body>".toList) 200 ∧
        ∀ debug,
          (∀ address,
            fritzHostIp debug activeStart = .ok address →
            fritzHostIp debug
                (activeStart ++ Utf8.encode "</s:Body>".toList) =
              .ok address) ∧
          ∀ active,
            fritzHostActive debug activeStart = .ok active →
            fritzHostActive debug
                (activeStart ++ Utf8.encode "</s:Body>".toList) =
              .ok active := by
  have code :
      codeToken (activeStart ++ Utf8.encode "</s:Body>".toList) =
        some ['2', '0', '0'] := by
    decide
  have startCode : codeToken activeStart = some ['2', '0', '0'] := by
    decide
  have threeDigits :
      ThreeDigitCode (activeStart ++ Utf8.encode "</s:Body>".toList) := by
    intro token found
    cases Option.some.inj (code.symm.trans found)
    decide
  exact truncated_reads_same (List.prefix_append _ _) threeDigits
    ⟨httpStatus_ok_iff.mpr ⟨_, startCode, rfl⟩, by decide, by decide⟩

end Waker
