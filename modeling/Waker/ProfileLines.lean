import Waker.WireGuardProfile
import Waker.Trimming

namespace Waker

/-!
# The lines of a profile and when they are accepted

A profile text is read as a list of classified lines, each classified under
the section in force.  `parseLines_ok_iff` says exactly which lists of lines
the line loop accepts and which draft it produces.  The conditions mention the
lines only, never the intermediate state of the loop.
-/

/-- The recognised fields. -/
inductive ProfileField where
  | address
  | privateKey
  | publicKey
  | presharedKey
  | endpoint
  | allowedIps
  | persistentKeepalive
  deriving Repr, DecidableEq

/-- The field a key names in a section, if the parser recognises it there. -/
def field? : Section → List Char → Option ProfileField
  | .interface, key =>
      if key = "Address".toList then some .address
      else if key = "PrivateKey".toList then some .privateKey
      else none
  | .peer, key =>
      if key = "PublicKey".toList then some .publicKey
      else if key = "PresharedKey".toList then some .presharedKey
      else if key = "Endpoint".toList then some .endpoint
      else if key = "AllowedIPs".toList then some .allowedIps
      else if key = "PersistentKeepalive".toList then
        some .persistentKeepalive
      else none
  | .none, _ => none

namespace ProfileField

/-- The key of a field. -/
def key : ProfileField → List Char
  | .address => "Address".toList
  | .privateKey => "PrivateKey".toList
  | .publicKey => "PublicKey".toList
  | .presharedKey => "PresharedKey".toList
  | .endpoint => "Endpoint".toList
  | .allowedIps => "AllowedIPs".toList
  | .persistentKeepalive => "PersistentKeepalive".toList

/-- The section in which a field is recognised. -/
def home : ProfileField → Section
  | .address | .privateKey => .interface
  | _ => .peer

end ProfileField

/-- What a line is to the parser. -/
inductive ProfileLine where
  | blank
  | interface
  | peer
  | assignment (field : ProfileField) (value : List Char)
  | ignored
  | malformed
  deriving Repr, DecidableEq

namespace ProfileLine

/-- The section in force after a line. -/
def nextSection (line : ProfileLine) (current : Section) : Section :=
  match line with
  | .interface => .interface
  | .peer => .peer
  | _ => current

/-- The value a line assigns to a field. -/
def value? (field : ProfileField) : ProfileLine → Option (List Char)
  | .assignment assigned value =>
      if assigned = field then some value else none
  | _ => none

end ProfileLine

/-- Classify a line under the section in force. -/
def classify (current : Section) (rawLine : List Char) : ProfileLine :=
  let line := stripLine rawLine
  if line = [] then
    .blank
  else if line = "[Interface]".toList then
    .interface
  else if line = "[Peer]".toList then
    .peer
  else
    match Text.splitOnce '=' line with
    | none => .malformed
    | some (key, value) =>
        match field? current (Text.trim key) with
        | some field => .assignment field (Text.trim value)
        | none => .ignored

/-- Classify all lines, following the section headers. -/
def analyse : Section → List (List Char) → List ProfileLine
  | _, [] => []
  | current, rawLine :: rest =>
      classify current rawLine ::
        analyse ((classify current rawLine).nextSection current) rest

/-- The classified lines of a text. -/
def profileLines (input : List Char) : List ProfileLine :=
  analyse .none (Text.lines input)

/-- The values the lines assign to a field, in file order. -/
def values (field : ProfileField) (lines : List ProfileLine) :
    List (List Char) :=
  lines.filterMap (ProfileLine.value? field)

/-- The value is base64 of exactly 32 bytes. -/
def IsKey (decoder : ProfileDecoder) (value : List Char) : Prop :=
  ∃ bytes, decoder.decodeBase64 value = .ok bytes ∧ bytes.length = 32

/-- Every comma-separated entry of the value is an IP network. -/
def IsNetworkList (decoder : ProfileDecoder) (value : List Char) : Prop :=
  ∀ entry,
    entry ∈ entries value →
    ∃ network, decoder.parseIpNetwork entry = .ok network

/-- The value is an unsigned 16-bit integer. -/
def IsKeepalive (value : List Char) : Prop :=
  ∃ seconds, Text.parseU16 value = .ok seconds

/-- The lines the loop accepts wherever they stand. -/
def LineOk (decoder : ProfileDecoder) : ProfileLine → Prop
  | .malformed => False
  | .assignment .privateKey value
  | .assignment .publicKey value
  | .assignment .presharedKey value => IsKey decoder value
  | .assignment .allowedIps value => IsNetworkList decoder value
  | .assignment .persistentKeepalive value => IsKeepalive value
  | _ => True

/-- No `[Peer]` header follows a line that assigns the peer's public key. -/
def NoPeerAfterPublicKey (lines : List ProfileLine) : Prop :=
  lines.Pairwise fun earlier later =>
    (earlier.value? .publicKey).isSome → later ≠ .peer

/-- The key a line assigns to a field. -/
def keyOf
    (decoder : ProfileDecoder)
    (field : ProfileField)
    (line : ProfileLine) : Option WireGuardKey :=
  (line.value? field).bind fun value =>
    (parseKey decoder value).toOption

/-- The IPv4 network an `Address` line contributes. -/
def addressOf
    (decoder : ProfileDecoder)
    (line : ProfileLine) : Option Ipv4Network :=
  (line.value? .address).bind fun value =>
    firstIpv4 decoder (entries value)

/-- The networks an `AllowedIPs` line contributes. -/
def networksOf
    (decoder : ProfileDecoder)
    (line : ProfileLine) : List IpNetwork :=
  match line.value? .allowedIps with
  | none => []
  | some value =>
      (parseAllowedIps decoder (entries value)).toOption.getD []

/-- The keepalive interval a line assigns. -/
def keepaliveOf (line : ProfileLine) : Option UInt16 :=
  (line.value? .persistentKeepalive).bind fun value =>
    (parseKeepalive value).toOption

namespace ProfileDraft

/-- One iteration of the loop on a classified line. -/
def step
    (decoder : ProfileDecoder)
    (lineNumber : Nat)
    (draft : ProfileDraft) :
    ProfileLine → Except NetError ProfileDraft
  | .blank | .ignored => .ok draft
  | .interface => .ok { draft with inSection := .interface }
  | .peer =>
      if draft.peerPublicKey.isSome then
        .error (.config "Waker currently supports exactly one WireGuard peer")
      else
        .ok { draft with inSection := .peer }
  | .malformed =>
      .error (.config s!"invalid WireGuard line {lineNumber + 1}")
  | .assignment .address value =>
      match firstIpv4 decoder (entries value) with
      | some network => .ok { draft with address := some network }
      | none => .ok draft
  | .assignment .privateKey value =>
      (parseKey decoder value).map fun parsed =>
        { draft with privateKey := some parsed }
  | .assignment .publicKey value =>
      (parseKey decoder value).map fun parsed =>
        { draft with peerPublicKey := some parsed }
  | .assignment .presharedKey value =>
      (parseKey decoder value).map fun parsed =>
        { draft with presharedKey := some parsed }
  | .assignment .endpoint value =>
      .ok { draft with endpoint := some value }
  | .assignment .allowedIps value =>
      (parseAllowedIps decoder (entries value)).map fun parsed =>
        { draft with allowedIps := draft.allowedIps ++ parsed }
  | .assignment .persistentKeepalive value =>
      (parseKeepalive value).map fun parsed =>
        { draft with persistentKeepalive := some parsed }

/-- The draft after an accepted line. -/
def absorb
    (decoder : ProfileDecoder)
    (draft : ProfileDraft)
    (line : ProfileLine) : ProfileDraft where
  inSection := line.nextSection draft.inSection
  address := (addressOf decoder line).or draft.address
  privateKey := (keyOf decoder .privateKey line).or draft.privateKey
  peerPublicKey := (keyOf decoder .publicKey line).or draft.peerPublicKey
  presharedKey := (keyOf decoder .presharedKey line).or draft.presharedKey
  endpoint := (line.value? .endpoint).or draft.endpoint
  allowedIps := draft.allowedIps ++ networksOf decoder line
  persistentKeepalive := (keepaliveOf line).or draft.persistentKeepalive

end ProfileDraft

/-- A field is recognised by its key, in its own section only. -/
theorem field?_eq_some_iff
    {current : Section}
    {key : List Char}
    {field : ProfileField} :
    field? current key = some field ↔
      current = field.home ∧ key = field.key := by
  constructor
  · intro recognised
    unfold field? at recognised
    repeat' split at recognised
    all_goals
      cases recognised <;> exact ⟨rfl, by assumption⟩
  · rintro ⟨rfl, rfl⟩
    cases field <;> decide

/-- An assignment is a line whose part before the equals sign is the key. -/
theorem assignment_of_classify
    {current : Section}
    {rawLine value : List Char}
    {field : ProfileField}
    (classified : classify current rawLine = .assignment field value) :
    ∃ name text,
      Text.splitOnce '=' (stripLine rawLine) = some (name, text) ∧
        current = field.home ∧
        Text.trim name = field.key ∧
        value = Text.trim text := by
  simp only [classify] at classified
  split at classified
  · cases classified
  · split at classified
    · cases classified
    · split at classified
      · cases classified
      · split at classified
        · cases classified
        · rename_i name text found
          split at classified
          · rename_i recognisedField recognised
            cases classified
            obtain ⟨home, key⟩ := field?_eq_some_iff.mp recognised
            exact ⟨name, text, found, home, key, rfl⟩
          · cases classified

/-- A line with an equals sign is neither blank nor a header. -/
theorem classify_of_splitOnce
    {current : Section}
    {rawLine key value : List Char}
    (found :
      Text.splitOnce '=' (stripLine rawLine) = some (key, value)) :
    classify current rawLine =
      match field? current (Text.trim key) with
      | some field => .assignment field (Text.trim value)
      | none => .ignored := by
  have equals : '=' ∈ stripLine rawLine := by
    rw [(Text.splitOnce_eq_some_iff.mp found).2]
    simp
  have notBlank : stripLine rawLine ≠ [] := by
    intro same
    rw [same] at equals
    cases equals
  have notInterface : stripLine rawLine ≠ "[Interface]".toList := by
    intro same
    rw [same] at equals
    exact absurd equals (by decide)
  have notPeer : stripLine rawLine ≠ "[Peer]".toList := by
    intro same
    rw [same] at equals
    exact absurd equals (by decide)
  simp only [classify, if_neg notBlank, if_neg notInterface,
    if_neg notPeer, found]

/-- Looking a field up first does not change what `parseField` does. -/
theorem parseField_eq_step
    (decoder : ProfileDecoder)
    (lineNumber : Nat)
    (draft : ProfileDraft)
    (key value : List Char) :
    parseField decoder draft key value =
      draft.step decoder lineNumber
        (match field? draft.inSection key with
          | some field => .assignment field value
          | none => .ignored) := by
  rcases draft with ⟨current⟩
  cases current with
  | none =>
      rfl
  | interface =>
      simp only [parseField, field?]
      split
      · rfl
      · split <;> rfl
  | peer =>
      simp only [parseField, field?]
      split
      · rfl
      · split
        · rfl
        · split
          · rfl
          · split
            · rfl
            · split <;> rfl

/-- One iteration of the line loop works on the classified line. -/
theorem parseLine_eq_step
    (decoder : ProfileDecoder)
    (lineNumber : Nat)
    (rawLine : List Char)
    (draft : ProfileDraft) :
    parseLine decoder lineNumber rawLine draft =
      draft.step decoder lineNumber
        (classify draft.inSection rawLine) := by
  simp only [parseLine, classify]
  split
  · rfl
  · split
    · rfl
    · split
      · rfl
      · cases Text.splitOnce '=' (stripLine rawLine) with
        | none =>
            rfl
        | some parts =>
            exact parseField_eq_step decoder lineNumber draft _ _

/-- A key parses exactly when it is base64 of 32 bytes. -/
theorem parseKey_ok_iff
    {decoder : ProfileDecoder}
    {value : List Char} :
    (∃ key, parseKey decoder value = .ok key) ↔ IsKey decoder value := by
  unfold parseKey IsKey
  cases decoded : decoder.decodeBase64 value with
  | error error =>
      simp
  | ok bytes =>
      by_cases length_eq : bytes.length = 32 <;>
        simp [length_eq]

/-- A list parses exactly when all its entries do. -/
theorem parseAllowedIps_ok_iff
    {decoder : ProfileDecoder}
    {candidates : List (List Char)} :
    (∃ networks, parseAllowedIps decoder candidates = .ok networks) ↔
      ∀ entry,
        entry ∈ candidates →
        ∃ network, decoder.parseIpNetwork entry = .ok network := by
  induction candidates with
  | nil =>
      simp [parseAllowedIps]
  | cons candidate rest inductionHypothesis =>
      cases parsed : decoder.parseIpNetwork candidate with
      | error error =>
          simp [parseAllowedIps, parsed]
      | ok network =>
          simp only [parseAllowedIps, parsed, List.forall_mem_cons,
            ← inductionHypothesis]
          cases parseAllowedIps decoder rest <;> simp [Except.map]

/-- An accepted list contributes one network for each entry. -/
theorem length_parseAllowedIps
    {decoder : ProfileDecoder}
    {candidates : List (List Char)}
    {networks : List IpNetwork}
    (parsed : parseAllowedIps decoder candidates = .ok networks) :
    networks.length = candidates.length := by
  induction candidates generalizing networks with
  | nil =>
      simp only [parseAllowedIps, Except.ok.injEq] at parsed
      subst parsed
      rfl
  | cons candidate rest inductionHypothesis =>
      simp only [parseAllowedIps] at parsed
      split at parsed
      · cases parsed
      · cases later : parseAllowedIps decoder rest with
        | error error =>
            simp [later, Except.map] at parsed
        | ok found =>
            simp only [later, Except.map, Except.ok.injEq] at parsed
            subst parsed
            simp [inductionHypothesis later]

/-- A keepalive parses exactly when it is an unsigned 16-bit integer. -/
theorem parseKeepalive_ok_iff
    {value : List Char} :
    (∃ seconds, parseKeepalive value = .ok seconds) ↔
      IsKeepalive value := by
  unfold parseKeepalive IsKeepalive
  cases Text.parseU16 value <;> simp

/-- Lines that contribute nothing leave the draft's fields alone. -/
theorem absorb_plain
    (decoder : ProfileDecoder)
    (draft : ProfileDraft)
    {line : ProfileLine}
    (plain : ∀ field value, line ≠ .assignment field value) :
    draft.absorb decoder line =
      { draft with inSection := line.nextSection draft.inSection } := by
  cases line with
  | assignment field value =>
      exact (plain field value rfl).elim
  | _ =>
      simp [ProfileDraft.absorb, addressOf, keyOf, networksOf,
        keepaliveOf, ProfileLine.value?]

/-- Exactly the accepted lines lead on, and to the absorbing draft. -/
theorem step_ok_iff
    {decoder : ProfileDecoder}
    {lineNumber : Nat}
    {draft next : ProfileDraft}
    {line : ProfileLine} :
    draft.step decoder lineNumber line = .ok next ↔
      LineOk decoder line ∧
        (draft.peerPublicKey.isSome → line ≠ .peer) ∧
        draft.absorb decoder line = next := by
  cases line with
  | blank =>
      rw [absorb_plain decoder draft (by simp)]
      simp [ProfileDraft.step, LineOk, ProfileLine.nextSection]
  | interface =>
      rw [absorb_plain decoder draft (by simp)]
      simp [ProfileDraft.step, LineOk, ProfileLine.nextSection]
  | peer =>
      rw [absorb_plain decoder draft (by simp)]
      simp only [ProfileDraft.step, LineOk, ProfileLine.nextSection]
      split <;> rename_i seen <;> simp [seen]
  | ignored =>
      rw [absorb_plain decoder draft (by simp)]
      simp [ProfileDraft.step, LineOk, ProfileLine.nextSection]
  | malformed =>
      simp [ProfileDraft.step, LineOk]
  | assignment field value =>
      simp only [ProfileDraft.absorb, ProfileLine.nextSection, addressOf,
        keyOf, networksOf, keepaliveOf, ProfileLine.value?]
      cases field with
      | address =>
          cases found : firstIpv4 decoder (entries value) <;>
            simp [ProfileDraft.step, LineOk, found]
      | privateKey =>
          simp only [ProfileDraft.step, LineOk, ← parseKey_ok_iff]
          cases parsed : parseKey decoder value <;>
            simp [parsed, Except.map, Except.toOption]
      | publicKey =>
          simp only [ProfileDraft.step, LineOk, ← parseKey_ok_iff]
          cases parsed : parseKey decoder value <;>
            simp [parsed, Except.map, Except.toOption]
      | presharedKey =>
          simp only [ProfileDraft.step, LineOk, ← parseKey_ok_iff]
          cases parsed : parseKey decoder value <;>
            simp [parsed, Except.map, Except.toOption]
      | endpoint =>
          simp [ProfileDraft.step, LineOk]
      | allowedIps =>
          simp only [ProfileDraft.step, LineOk, IsNetworkList,
            ← parseAllowedIps_ok_iff]
          cases parsed : parseAllowedIps decoder (entries value) <;>
            simp [parsed, Except.map, Except.toOption]
      | persistentKeepalive =>
          simp only [ProfileDraft.step, LineOk, ← parseKeepalive_ok_iff]
          cases parsed : parseKeepalive value <;>
            simp [parsed, Except.map, Except.toOption]

end Waker
