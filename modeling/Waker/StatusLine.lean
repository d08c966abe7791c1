import Waker.Decimal
import Waker.TruncatedResponse
import Waker.TunnelOwnership

namespace Waker

/-!
# Which responses count as a success

The client reads the second word of the first line as a number and does not look
at the first word.  A status line of HTTP is one of the first lines that it
accepts; what it accepts in general is said by `succeeds_iff`.
-/

/-- Two digits behind a 2: the code of a success. -/
def IsSuccessCode (code : List Char) : Prop :=
  ∃ tens units,
    code = ['2', tens, units] ∧ tens.isDigit = true ∧ units.isDigit = true

/-- A success code that may have a plus sign and zeros in front of it. -/
def ReadsAsSuccess (word : List Char) : Prop :=
  ∃ sign zeros code,
    word = sign ++ (zeros ++ code) ∧ (sign = [] ∨ sign = ['+']) ∧
      (∀ char, char ∈ zeros → char = '0') ∧ IsSuccessCode code

/-- The bytes of a response before its first line feed. -/
def firstLine (response : List UInt8) : List UInt8 :=
  response.takeWhile (· ≠ 10)

/-- A space, or nothing but the end of the line. -/
def EndsCode (rest : List UInt8) : Prop :=
  rest.head? = some 32 ∨ ∀ byte, byte ∈ rest → byte = 13

/-- A status line of HTTP up to the code of a success. -/
def statusText (major minor tens units : Char) : List Char :=
  "HTTP/".toList ++ [major, '.', minor, ' ', '2', tens, units]

/-- The status line of a success. -/
def IsSuccessLine (line : List UInt8) : Prop :=
  ∃ major minor tens units rest,
    major.isDigit = true ∧ minor.isDigit = true ∧ tens.isDigit = true ∧
      units.isDigit = true ∧
      line = Utf8.encode (statusText major minor tens units) ++ rest ∧
      EndsCode rest

/-- The digits of a success code, whatever zeros are in front of it. -/
theorem ofDigitChars_zeros
    {zeros : List Char}
    (areZeros : ∀ char, char ∈ zeros → char = '0')
    (digits : List Char) :
    Nat.ofDigitChars 10 (zeros ++ digits) 0 =
      Nat.ofDigitChars 10 digits 0 := by
  induction zeros with
  | nil =>
      rfl
  | cons char rest inductionHypothesis =>
      rw [List.forall_mem_cons] at areZeros
      rw [List.cons_append, Nat.ofDigitChars_cons, areZeros.1]
      exact inductionHypothesis areZeros.2

/-- Digits without a zero in front are a number of 2xx if they are a code. -/
theorem isSuccessCode_of_value
    {digits : List Char}
    (areDigits : ∀ char, char ∈ digits → char.isDigit = true)
    (noZero : digits.head? ≠ some '0')
    (least : 200 ≤ Nat.ofDigitChars 10 digits 0)
    (below : Nat.ofDigitChars 10 digits 0 < 300) :
    IsSuccessCode digits := by
  have code (char : Char) (isDigit : char.isDigit = true) :
      48 ≤ char.toNat ∧ char.toNat ≤ 57 :=
    Text.isDigit_iff.mp isDigit
  have zero : '0'.toNat = 48 := rfl
  rcases digits with _ | ⟨first, _ | ⟨second, _ | ⟨third, rest⟩⟩⟩
  · simp at least
  · have one := code first (areDigits first (by simp))
    simp only [Nat.ofDigitChars_cons, Nat.ofDigitChars_nil] at least
    omega
  · have one := code first (areDigits first (by simp))
    have two := code second (areDigits second (by simp))
    simp only [Nat.ofDigitChars_cons, Nat.ofDigitChars_nil] at least
    omega
  · have one := code first (areDigits first (by simp))
    have two := code second (areDigits second (by simp))
    have three := code third (areDigits third (by simp))
    have positive : first.toNat ≠ 48 := by
      intro same
      exact noZero (congrArg some (Char.toNat_inj.mp same))
    cases rest with
    | nil =>
        simp only [Nat.ofDigitChars_cons, Nat.ofDigitChars_nil]
          at least below
        have isTwo : first.toNat = '2'.toNat := by
          have two : '2'.toNat = 50 := rfl
          omega
        rw [Char.toNat_inj.mp isTwo]
        exact ⟨second, third, rfl, areDigits second (by simp),
          areDigits third (by simp)⟩
    | cons fourth rest =>
        have more := Text.le_ofDigitChars rest
        simp only [Nat.ofDigitChars_cons] at below
        have large := Nat.lt_of_le_of_lt (more _) below
        omega

/-- A success code is a number of 2xx. -/
theorem IsSuccessCode.value
    {code : List Char}
    (isCode : IsSuccessCode code) :
    (∀ char, char ∈ code → char.isDigit = true) ∧
      200 ≤ Nat.ofDigitChars 10 code 0 ∧ Nat.ofDigitChars 10 code 0 < 300 := by
  obtain ⟨tens, units, rfl, isTens, isUnits⟩ := isCode
  have ten := Text.isDigit_iff.mp isTens
  have unit := Text.isDigit_iff.mp isUnits
  have zero : '0'.toNat = 48 := rfl
  have two : '2'.toNat = 50 := rfl
  refine ⟨?_, ?_⟩
  · simp [isTens, isUnits]
  · simp only [Nat.ofDigitChars_cons, Nat.ofDigitChars_nil]
    omega

/-- The integer parser reads a number of 2xx from these words. -/
theorem parseU16_success_iff
    {word : List Char} :
    (∃ status,
      Text.parseU16 word = .ok status ∧ 200 ≤ status ∧ status < 300) ↔
      ReadsAsSuccess word := by
  constructor
  · rintro ⟨status, parsed, least, below⟩
    obtain ⟨sign, digits, rfl, isSign, -, read⟩ :=
      Text.parseUnsigned_ok_iff.mp (Text.parseU16_ok_iff.mp parsed)
    obtain ⟨areDigits, value, -⟩ := Text.parseDigits_ok (Nat.zero_le _) read
    have zeros :
        ∀ char, char ∈ digits.takeWhile (· = '0') → char = '0' := by
      intro char member
      simpa using List.mem_takeWhile_imp member
    have same := ofDigitChars_zeros zeros (digits.dropWhile (· = '0'))
    rw [List.takeWhile_append_dropWhile, ← value] at same
    refine ⟨sign, _, _, congrArg (sign ++ ·)
      (List.takeWhile_append_dropWhile (p := (· = '0'))).symm, isSign, zeros,
      isSuccessCode_of_value ?_ ?_ ?_ ?_⟩
    · exact fun char member =>
        areDigits char (List.dropWhile_subset _ member)
    · intro first
      have notZero := List.head?_dropWhile_not (· = '0') digits
      rw [first] at notZero
      simp at notZero
    · rw [← same]
      exact least
    · rw [← same]
      exact below
  · rintro ⟨sign, zeros, code, rfl, isSign, areZeros, isCode⟩
    obtain ⟨areDigits, least, below⟩ := isCode.value
    have allDigits :
        ∀ char, char ∈ zeros ++ code → char.isDigit = true := by
      intro char member
      rcases List.mem_append.mp member with inZeros | inCode
      · rw [areZeros char inZeros]
        rfl
      · exact areDigits char inCode
    have value := ofDigitChars_zeros areZeros code
    have fits : Nat.ofDigitChars 10 (zeros ++ code) 0 ≤ 65535 := by
      omega
    have parsed := Text.parseDigits_eq allDigits fits
    have number :
        (UInt16.ofNat (Nat.ofDigitChars 10 code 0)).toNat =
          Nat.ofDigitChars 10 code 0 :=
      UInt16.toNat_ofNat_of_lt' (Nat.lt_trans below (by decide))
    refine ⟨UInt16.ofNat (Nat.ofDigitChars 10 code 0), ?_, ?_, ?_⟩
    · rw [Text.parseU16_ok_iff, Text.parseUnsigned_ok_iff, number, ← value]
      refine ⟨sign, zeros ++ code, rfl, isSign, ?_, parsed⟩
      obtain ⟨tens, units, rfl, -⟩ := isCode
      simp
    · rw [UInt16.le_iff_toNat_le, number]
      exact least
    · rw [UInt16.lt_iff_toNat_lt, number]
      exact below

/-- The first line comes first when a response is split into lines. -/
theorem head?_splitOn_feed
    (response : List UInt8) :
    (response.splitOn 10).head? = some (firstLine response) := by
  rw [List.splitOn, Text.head?_splitOnP, firstLine]
  congr
  funext byte
  exact (decide_not).symm

/-- The code token is the second word of the first line. -/
theorem codeToken_eq_some_iff
    {response : List UInt8}
    {word : List Char} :
    codeToken response = some word ↔
      ∃ text,
        Utf8.fromUtf8 (firstLine response) = some text ∧
          (Text.splitWhitespace text)[1]? = some word := by
  simp only [codeToken, head?_splitOn_feed, Option.bind_eq_bind,
    Option.bind_some, Option.bind_eq_some_iff,
    Text.splitWhitespace_rdropWhile_return]

/-- Exactly these responses pass the check of a Hosts action. -/
theorem succeeds_iff
    {response : List UInt8} :
    (∃ status, Succeeds response status) ↔
      ∃ text word,
        Utf8.fromUtf8 (firstLine response) = some text ∧
          (Text.splitWhitespace text)[1]? = some word ∧
          ReadsAsSuccess word := by
  constructor
  · rintro ⟨status, read, inRange⟩
    obtain ⟨word, token, parsed⟩ := httpStatus_ok_iff.mp read
    obtain ⟨text, decoded, second⟩ := codeToken_eq_some_iff.mp token
    exact ⟨text, word, decoded, second,
      parseU16_success_iff.mp ⟨status, parsed, inRange⟩⟩
  · rintro ⟨text, word, decoded, second, reads⟩
    obtain ⟨status, parsed, inRange⟩ := parseU16_success_iff.mpr reads
    have token := codeToken_eq_some_iff.mpr ⟨text, decoded, second⟩
    exact ⟨status, httpStatus_ok_iff.mpr ⟨word, token, parsed⟩, inRange⟩

/-- Every character takes some byte. -/
theorem utf8EncodeChar_ne_nil
    (char : Char) :
    String.utf8EncodeChar char ≠ [] := by
  intro empty
  have size := String.length_utf8EncodeChar char
  rw [empty] at size
  exact absurd size.symm (Nat.ne_of_gt (Char.utf8Size_pos char))

/-- What ends the code of a status line separates words. -/
theorem EndsCode.isWhitespace
    {char : Char}
    {rest : List Char}
    (ends : EndsCode (Utf8.encode (char :: rest))) :
    Text.isWhitespace char = true := by
  have bytes :
      Utf8.encode (char :: rest) =
        String.utf8EncodeChar char ++ Utf8.encode rest :=
    List.flatMap_cons
  obtain ⟨first, others, shape⟩ :=
    List.exists_cons_of_ne_nil (utf8EncodeChar_ne_nil char)
  have inChar : first ∈ String.utf8EncodeChar char := by
    simp [shape]
  rw [bytes, shape] at ends
  rcases ends with space | returns
  · have isSpace : first = 32 := by
      simpa using space
    rw [isSpace] at inChar
    rw [Utf8.eq_asciiChar_of_mem inChar (by decide)]
    rfl
  · have isReturn : first = 13 := returns first (by simp)
    rw [isReturn] at inChar
    rw [Utf8.eq_asciiChar_of_mem inChar (by decide)]
    rfl

/-- The second word of a status line is its code. -/
theorem IsSuccessLine.code
    {text : List Char}
    {line : List UInt8}
    (isSuccess : IsSuccessLine line)
    (decoded : Utf8.fromUtf8 line = some text) :
    ∃ word,
      (Text.splitWhitespace text)[1]? = some word ∧ IsSuccessCode word := by
  obtain ⟨major, minor, tens, units, rest, isMajor, isMinor, isTens, isUnits,
    shape, ends⟩ := isSuccess
  have bytes := Utf8.encode_of_fromUtf8 decoded
  obtain ⟨tail, rfl⟩ : statusText major minor tens units <+: text :=
    Utf8.prefix_of_encode_prefix ⟨rest, by rw [bytes, shape]⟩
  have sameTail : Utf8.encode tail = rest := by
    rw [shape, Utf8.encode_append] at bytes
    exact List.append_cancel_left bytes
  rw [← sameTail] at ends
  refine ⟨['2', tens, units], ?_, tens, units, rfl, isTens, isUnits⟩
  have version :
      ∀ char ∈ "HTTP/".toList ++ [major, '.', minor],
        Text.isWhitespace char = false := by
    have name : ∀ char ∈ "HTTP/".toList, Text.isWhitespace char = false := by
      decide
    intro char member
    rcases List.mem_append.mp member with inName | inNumbers
    · exact name char inName
    · simp only [List.mem_cons, List.not_mem_nil, or_false] at inNumbers
      rcases inNumbers with rfl | rfl | rfl
      · exact Text.isWhitespace_of_isDigit isMajor
      · rfl
      · exact Text.isWhitespace_of_isDigit isMinor
  have code :
      ∀ char ∈ ['2', tens, units], Text.isWhitespace char = false := by
    intro char member
    simp only [List.mem_cons, List.not_mem_nil, or_false] at member
    rcases member with rfl | rfl | rfl
    · rfl
    · exact Text.isWhitespace_of_isDigit isTens
    · exact Text.isWhitespace_of_isDigit isUnits
  have words :
      (['2', tens, units] ++ tail).splitOnP Text.isWhitespace =
        ['2', tens, units] :: (tail.drop 1).splitOnP Text.isWhitespace ∨
      (['2', tens, units] ++ tail).splitOnP Text.isWhitespace =
        [['2', tens, units]] := by
    cases tail with
    | nil =>
        exact .inr (List.splitOnP_eq_singleton code)
    | cons char others =>
        exact .inl (List.splitOnP_append_cons_of_forall_mem code char
          ends.isWhitespace others)
  have whole :
      statusText major minor tens units ++ tail =
        ("HTTP/".toList ++ [major, '.', minor]) ++
          ' ' :: (['2', tens, units] ++ tail) := by
    simp [statusText]
  rw [Text.splitWhitespace, whole,
    List.splitOnP_append_cons_of_forall_mem version ' ' rfl]
  rcases words with more | alone
  · rw [more]
    rfl
  · rw [alone]
    rfl

/-- What an answer says about whether a Hosts action accepts it. -/
structure AcceptsSuccess
    (response : List UInt8)
    (accepted : Prop) : Prop where
  onlySuccess :
    accepted →
    ∃ text word,
      Utf8.fromUtf8 (firstLine response) = some text ∧
        (Text.splitWhitespace text)[1]? = some word ∧ ReadsAsSuccess word
  everyCode :
    ∀ text word,
      Utf8.fromUtf8 (firstLine response) = some text →
      (Text.splitWhitespace text)[1]? = some word →
      IsSuccessCode word →
      accepted
  everyStatusLine :
    ∀ text,
      Utf8.fromUtf8 (firstLine response) = some text →
      IsSuccessLine (firstLine response) →
      accepted

namespace WakerWireGuardBackend

variable {Env : Type}
variable {network : Network Env}
variable {action arguments : List Char}
variable {world : TunnelWorld Env}
variable {tunnel : TunnelClient}
variable {response : List UInt8}

/-- An action succeeds exactly when its answer passes the check. -/
theorem hostsAction_ok_iff
    (connected : world.backend.tunnel = some tunnel)
    (answered :
      (network.http tunnel world.backend.fritzAddress
        (fritzHostsRequest world.backend.fritzAddress.ip action arguments)
        (Duration.fromSecs 8) world.env).1 = .ok response) :
    (∃ answer, (hostsAction network action arguments world).1 = .ok answer) ↔
      ∃ status, Succeeds response status := by
  simp only [hostsAction, connected, answered, Succeeds]
  cases httpStatus response with
  | error error =>
      simp
  | ok status =>
      by_cases inRange : 200 ≤ status ∧ status < 300
      · simp [inRange]
      · simp only [if_neg inRange]
        simp only [reduceCtorEq, exists_false, Except.ok.injEq, false_iff]
        rintro ⟨other, rfl, isSuccess⟩
        exact inRange isSuccess

/-- A wake request is accepted exactly when its action succeeds. -/
theorem sendWake_ok_iff
    {mac : MacAddress} :
    (sendWake network mac world).1 = .ok () ↔
      ∃ answer,
        (hostsAction network HostsAction.wakeOnLan.name (macArguments mac)
          world).1 = .ok answer := by
  have mapped :
      (sendWake network mac world).1 =
        (hostsAction network HostsAction.wakeOnLan.name (macArguments mac)
          world).1.map fun _ => () :=
    rfl
  rw [mapped]
  cases (hostsAction network HostsAction.wakeOnLan.name (macArguments mac)
      world).1 with
  | error error =>
      simp [Except.map]
  | ok answer =>
      simp [Except.map]

/--
A Hosts action, and so a wake request, accepts an answer only if its first line
is a text whose second word reads as a number of 2xx.  It accepts every code of
a success there, and so every status line of a success that is a text.
-/
theorem hostsAction_acceptsSuccess
    (connected : world.backend.tunnel = some tunnel)
    (answered :
      (network.http tunnel world.backend.fritzAddress
        (fritzHostsRequest world.backend.fritzAddress.ip action arguments)
        (Duration.fromSecs 8) world.env).1 = .ok response) :
    AcceptsSuccess response
        (∃ answer,
          (hostsAction network action arguments world).1 = .ok answer) ∧
      ∀ mac,
        (sendWake network mac world).1 = .ok () ↔
          ∃ answer,
            (hostsAction network HostsAction.wakeOnLan.name
              (macArguments mac) world).1 = .ok answer := by
  have accepts := (hostsAction_ok_iff connected answered).trans succeeds_iff
  have everyCode
      {text word : List Char}
      (decoded : Utf8.fromUtf8 (firstLine response) = some text)
      (second : (Text.splitWhitespace text)[1]? = some word)
      (isCode : IsSuccessCode word) :
      ∃ answer,
        (hostsAction network action arguments world).1 = .ok answer :=
    accepts.mpr ⟨text, word, decoded, second, [], [], word, rfl, .inl rfl,
      by simp, isCode⟩
  refine ⟨⟨accepts.mp, ?_, ?_⟩, fun mac => sendWake_ok_iff⟩
  · exact fun text word => everyCode
  · intro text decoded isSuccess
    obtain ⟨word, second, isCode⟩ := isSuccess.code decoded
    exact everyCode decoded second isCode

/-- A network whose FRITZ!Box sends the same bytes whatever it is asked. -/
def answering (response : List UInt8) : Network Unit :=
  { labNetwork ⟨10, 231, 0, 1⟩ with
    http := fun _ _ _ _ env => (.ok response, env) }

/-- The greeting of another protocol. -/
def greeting : List UInt8 :=
  Utf8.encode "RTSP/1.0 200 OK\r\n\r\n".toList

/-- A status line whose reason is written in Latin-1. -/
def latinStatus : List UInt8 :=
  Utf8.encode "HTTP/1.1 200 ".toList ++ [0xE9, 13, 10]

/-- The greeting is accepted. -/
theorem hostsAction_acceptsSuccess_greeting :
    AcceptsSuccess greeting
        (∃ answer,
          (hostsAction (answering greeting) [] []
            (.initial connectedBackend ())).1 = .ok answer) ∧
      ∀ mac,
        (sendWake (answering greeting) mac
              (.initial connectedBackend ())).1 = .ok () ↔
          ∃ answer,
            (hostsAction (answering greeting) HostsAction.wakeOnLan.name
              (macArguments mac) (.initial connectedBackend ())).1 =
                .ok answer :=
  @hostsAction_acceptsSuccess Unit (answering greeting) [] [] _ ⟨0⟩ greeting
    rfl rfl

/--
The greeting is no status line and is accepted, and the status line whose reason
is no text is not.
-/
theorem hostsAction_accepts_otherLines :
    ((∃ answer,
        (hostsAction (answering greeting) [] []
          (.initial connectedBackend ())).1 = .ok answer) ∧
        ¬ IsSuccessLine (firstLine greeting)) ∧
      IsSuccessLine (firstLine latinStatus) ∧
      ¬ ∃ answer,
        (hostsAction (answering latinStatus) [] []
          (.initial connectedBackend ())).1 = .ok answer := by
  refine ⟨⟨?_, ?_⟩, ?_, ?_⟩
  · have token : codeToken greeting = some ['2', '0', '0'] := by
      decide
    exact (@hostsAction_ok_iff Unit (answering greeting) [] [] _ ⟨0⟩ greeting
      rfl rfl).mpr
      ⟨200, httpStatus_ok_iff.mpr ⟨_, token, by decide⟩, by decide, by decide⟩
  · rintro ⟨major, minor, tens, units, rest, -, -, -, -, shape, -⟩
    have greets : (firstLine greeting).head? = some 82 := by
      decide
    have isHttp :
        (Utf8.encode (statusText major minor tens units) ++ rest).head? =
          some 72 :=
      rfl
    rw [shape, isHttp] at greets
    exact absurd greets (by decide)
  · exact ⟨'1', '1', '0', '0', [32, 0xE9, 13], rfl, rfl, rfl, rfl, by decide,
      .inl rfl⟩
  · intro accepted
    have noText : Utf8.fromUtf8 (firstLine latinStatus) = none := by
      decide
    obtain ⟨text, word, decoded, -⟩ :=
      succeeds_iff.mp
        ((@hostsAction_ok_iff Unit (answering latinStatus) [] [] _ ⟨0⟩
          latinStatus rfl rfl).mp accepted)
    rw [noText] at decoded
    cases decoded

end WakerWireGuardBackend

end Waker
