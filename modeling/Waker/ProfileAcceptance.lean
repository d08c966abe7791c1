import Waker.Latest
import Waker.ProfileLines

namespace Waker

open Latest

/-!
# Which profiles are accepted

`parse_ok_iff` characterises the line loop together with the checks after it:
a profile is the result of parsing a text exactly when the lines of the text
describe it.  `Accepted` states the conditions under which there is such a
profile.
-/

/-- The lines satisfy every check and yield the profile's fields. -/
structure Describes
    (decoder : ProfileDecoder)
    (lines : List ProfileLine)
    (profile : WireGuardProfile) : Prop where
  linesOk : ∀ line, line ∈ lines → LineOk decoder line
  onePublicPeer : NoPeerAfterPublicKey lines
  address : latest (addressOf decoder) lines = some profile.address
  privateKey :
    latest (keyOf decoder .privateKey) lines = some profile.privateKey
  peerPublicKey :
    latest (keyOf decoder .publicKey) lines = some profile.peerPublicKey
  presharedKey :
    latest (keyOf decoder .presharedKey) lines = profile.presharedKey
  endpoint :
    latest (ProfileLine.value? .endpoint) lines = some profile.endpoint
  allowedIps : lines.flatMap (networksOf decoder) = profile.allowedIps
  someAllowedIps : profile.allowedIps ≠ []
  persistentKeepalive :
    latest keepaliveOf lines = profile.persistentKeepalive

/-- The fields without which no profile is built. -/
structure RequiredFields
    (decoder : ProfileDecoder)
    (lines : List ProfileLine) : Prop where
  address : (latest (addressOf decoder) lines).isSome
  privateKey : values .privateKey lines ≠ []
  publicKey : values .publicKey lines ≠ []
  endpoint : values .endpoint lines ≠ []
  allowedIps : values .allowedIps lines ≠ []

/-- The lines satisfy every check and no required field is missing. -/
structure Accepted
    (decoder : ProfileDecoder)
    (lines : List ProfileLine) : Prop
    extends RequiredFields decoder lines where
  linesOk : ∀ line, line ∈ lines → LineOk decoder line
  onePublicPeer : NoPeerAfterPublicKey lines

/-- A register of the loop written by a public key line is set there. -/
theorem peerPublicKey_absorb_isSome
    {decoder : ProfileDecoder}
    {draft : ProfileDraft}
    {line : ProfileLine}
    (lineOk : LineOk decoder line) :
    (draft.absorb decoder line).peerPublicKey.isSome ↔
      (line.value? .publicKey).isSome ∨ draft.peerPublicKey.isSome := by
  cases line with
  | assignment field value =>
      cases field with
      | publicKey =>
          obtain ⟨key, parsed⟩ := parseKey_ok_iff.mpr lineOk
          simp [ProfileDraft.absorb, keyOf, ProfileLine.value?, parsed,
            Except.toOption]
      | _ =>
          simp [ProfileDraft.absorb, keyOf, ProfileLine.value?]
  | _ =>
      simp [ProfileDraft.absorb, keyOf, ProfileLine.value?]

/-- Exactly the lists of acceptable lines survive the line loop. -/
theorem parseLines_ok_iff
    {decoder : ProfileDecoder}
    {lineNumber : Nat}
    {rawLines : List (List Char)}
    {draft final : ProfileDraft} :
    parseLines decoder lineNumber rawLines draft = .ok final ↔
      (∀ line,
        line ∈ analyse draft.inSection rawLines →
        LineOk decoder line) ∧
      NoPeerAfterPublicKey (analyse draft.inSection rawLines) ∧
      (draft.peerPublicKey.isSome →
        ∀ line,
          line ∈ analyse draft.inSection rawLines →
          line ≠ .peer) ∧
      (analyse draft.inSection rawLines).foldl
        (ProfileDraft.absorb decoder) draft = final := by
  induction rawLines generalizing lineNumber draft with
  | nil =>
      simp [parseLines, analyse, NoPeerAfterPublicKey]
  | cons rawLine rest inductionHypothesis =>
      simp only [parseLines, parseLine_eq_step, analyse,
        List.forall_mem_cons, List.foldl_cons]
      generalize classify draft.inSection rawLine = line
      have later (accepted : LineOk decoder line) :=
        @inductionHypothesis (lineNumber + 1) (draft.absorb decoder line)
      simp only [show (draft.absorb decoder line).inSection =
        line.nextSection draft.inSection from rfl] at later
      cases stepped : draft.step decoder lineNumber line with
      | error error =>
          have rejected :
              ¬ (LineOk decoder line ∧
                (draft.peerPublicKey.isSome → line ≠ .peer)) :=
            fun ⟨lineOk, noPeer⟩ => by
              have ok :
                  draft.step decoder lineNumber line =
                    .ok (draft.absorb decoder line) :=
                step_ok_iff.mpr ⟨lineOk, noPeer, rfl⟩
              rw [stepped] at ok
              cases ok
          simp only [reduceCtorEq, false_iff]
          rintro ⟨⟨lineOk, -⟩, -, noPeer, -⟩
          exact rejected ⟨lineOk, fun seen => (noPeer seen).1⟩
      | ok next =>
          obtain ⟨lineOk, noPeer, rfl⟩ := step_ok_iff.mp stepped
          rw [later lineOk]
          simp only [lineOk, true_and, NoPeerAfterPublicKey,
            List.pairwise_cons, peerPublicKey_absorb_isSome lineOk]
          constructor
          · rintro ⟨linesOk, pairwise, absent, folded⟩
            exact ⟨linesOk,
              ⟨fun other member assigned =>
                absent (.inl assigned) other member, pairwise⟩,
              fun seen =>
                ⟨noPeer seen, fun other member =>
                  absent (.inr seen) other member⟩,
              folded⟩
          · rintro ⟨linesOk, ⟨first, pairwise⟩, absent, folded⟩
            exact ⟨linesOk, pairwise,
              fun seen other member =>
                seen.elim
                  (fun assigned => first other member assigned)
                  (fun seen => (absent seen).2 other member),
              folded⟩

/-- The checks after the loop pass exactly when no field is missing. -/
theorem finish_ok_iff
    {draft : ProfileDraft}
    {profile : WireGuardProfile} :
    draft.finish = .ok profile ↔
      draft.address = some profile.address ∧
      draft.privateKey = some profile.privateKey ∧
      draft.peerPublicKey = some profile.peerPublicKey ∧
      draft.presharedKey = profile.presharedKey ∧
      draft.endpoint = some profile.endpoint ∧
      draft.allowedIps = profile.allowedIps ∧
      profile.allowedIps ≠ [] ∧
      draft.persistentKeepalive = profile.persistentKeepalive := by
  rcases draft with ⟨current, address, privateKey, peerPublicKey,
    presharedKey, endpoint, allowedIps, persistentKeepalive⟩
  rcases profile with ⟨⟩
  cases address with
  | none =>
      simp [ProfileDraft.finish]
  | some address =>
      cases privateKey with
      | none =>
          simp [ProfileDraft.finish]
      | some privateKey =>
          cases peerPublicKey with
          | none =>
              simp [ProfileDraft.finish]
          | some peerPublicKey =>
              cases endpoint with
              | none =>
                  simp [ProfileDraft.finish]
              | some endpoint =>
                  cases allowedIps with
                  | nil =>
                      simp +contextual [ProfileDraft.finish, eq_comm]
                  | cons network networks =>
                      simp only [ProfileDraft.finish, List.isEmpty_cons]
                      simp only [Bool.false_eq_true, if_false,
                        Except.ok.injEq, WireGuardProfile.mk.injEq,
                        Option.some.injEq]
                      constructor
                      · rintro ⟨rfl, rfl, rfl, rfl, rfl, rfl, rfl⟩
                        simp
                      · rintro ⟨rfl, rfl, rfl, rfl, rfl, rfl, -, rfl⟩
                        simp

/-- The line loop succeeds exactly on acceptable lines. -/
theorem parse_eq_finish
    {decoder : ProfileDecoder}
    {input : List Char}
    {profile : WireGuardProfile} :
    WireGuardProfile.parse decoder input = .ok profile ↔
      (∀ line, line ∈ profileLines input → LineOk decoder line) ∧
      NoPeerAfterPublicKey (profileLines input) ∧
      ((profileLines input).foldl
        (ProfileDraft.absorb decoder) .initial).finish = .ok profile := by
  have loop {final : ProfileDraft} :
      parseLines decoder 0 (Text.lines input) .initial = .ok final ↔
        (∀ line, line ∈ profileLines input → LineOk decoder line) ∧
        NoPeerAfterPublicKey (profileLines input) ∧
        (profileLines input).foldl
          (ProfileDraft.absorb decoder) .initial = final := by
    rw [parseLines_ok_iff]
    simp [ProfileDraft.initial, profileLines]
  unfold WireGuardProfile.parse
  cases parsed : parseLines decoder 0 (Text.lines input) .initial with
  | error error =>
      simp only [reduceCtorEq, false_iff]
      rintro ⟨linesOk, noPeer, -⟩
      rw [loop.mpr ⟨linesOk, noPeer, rfl⟩] at parsed
      cases parsed
  | ok final =>
      obtain ⟨linesOk, noPeer, rfl⟩ := loop.mp parsed
      exact ⟨fun finished => ⟨linesOk, noPeer, finished⟩,
        fun ⟨_, _, finished⟩ => finished⟩

/-- A text parses to a profile exactly when its lines describe it. -/
theorem parse_ok_iff
    {decoder : ProfileDecoder}
    {input : List Char}
    {profile : WireGuardProfile} :
    WireGuardProfile.parse decoder input = .ok profile ↔
      Describes decoder (profileLines input) profile := by
  rw [parse_eq_finish, finish_ok_iff,
    foldl_overwrite ProfileDraft.address (addressOf decoder)
      (fun _ _ => rfl),
    foldl_overwrite ProfileDraft.privateKey (keyOf decoder .privateKey)
      (fun _ _ => rfl),
    foldl_overwrite ProfileDraft.peerPublicKey (keyOf decoder .publicKey)
      (fun _ _ => rfl),
    foldl_overwrite ProfileDraft.presharedKey
      (keyOf decoder .presharedKey) (fun _ _ => rfl),
    foldl_overwrite ProfileDraft.endpoint (ProfileLine.value? .endpoint)
      (fun _ _ => rfl),
    foldl_extend ProfileDraft.allowedIps (networksOf decoder)
      (fun _ _ => rfl),
    foldl_overwrite ProfileDraft.persistentKeepalive keepaliveOf
      (fun _ _ => rfl)]
  simp only [ProfileDraft.initial, Option.or_none, List.nil_append]
  constructor
  · rintro ⟨linesOk, noPeer, address, privateKey, publicKey,
      presharedKey, endpoint, allowedIps, someAllowedIps, keepalive⟩
    exact ⟨linesOk, noPeer, address, privateKey, publicKey,
      presharedKey, endpoint, allowedIps, someAllowedIps, keepalive⟩
  · rintro ⟨linesOk, noPeer, address, privateKey, publicKey,
      presharedKey, endpoint, allowedIps, someAllowedIps, keepalive⟩
    exact ⟨linesOk, noPeer, address, privateKey, publicKey,
      presharedKey, endpoint, allowedIps, someAllowedIps, keepalive⟩

/-- A field has values exactly when some line assigns it. -/
theorem values_ne_nil_iff
    {field : ProfileField}
    {lines : List ProfileLine} :
    values field lines ≠ [] ↔
      ∃ line, line ∈ lines ∧ (line.value? field).isSome := by
  simp [values, List.filterMap_eq_nil_iff, Option.isSome_iff_ne_none]

/-- A value of a field is the value some line assigns. -/
theorem mem_values_iff
    {field : ProfileField}
    {lines : List ProfileLine}
    {value : List Char} :
    value ∈ values field lines ↔
      .assignment field value ∈ lines := by
  simp only [values, List.mem_filterMap]
  constructor
  · rintro ⟨line, member, assigned⟩
    cases line with
    | assignment other text =>
        simp only [ProfileLine.value?] at assigned
        split at assigned
        · rename_i same
          cases assigned
          exact same ▸ member
        · cases assigned
    | _ =>
        cases assigned
  · intro member
    exact ⟨_, member, by simp [ProfileLine.value?]⟩

/-- The fields that carry a key. -/
def ProfileField.isKey : ProfileField → Bool
  | .privateKey | .publicKey | .presharedKey => true
  | _ => false

/-- An acceptable key line carries a key. -/
theorem keyOf_isSome_iff
    {decoder : ProfileDecoder}
    {field : ProfileField}
    {line : ProfileLine}
    (isKey : field.isKey)
    (lineOk : LineOk decoder line) :
    (keyOf decoder field line).isSome ↔ (line.value? field).isSome := by
  cases line with
  | assignment assigned value =>
      by_cases same : assigned = field
      · subst same
        have key : IsKey decoder value := by
          cases assigned <;>
            first
              | exact lineOk
              | cases isKey
        obtain ⟨key, parsed⟩ := parseKey_ok_iff.mpr key
        simp [keyOf, ProfileLine.value?, parsed, Except.toOption]
      · simp [keyOf, ProfileLine.value?, same]
  | _ =>
      simp [keyOf, ProfileLine.value?]

/-- Acceptable lines set a key register exactly when one assigns it. -/
theorem latest_keyOf_isSome_iff
    {decoder : ProfileDecoder}
    {field : ProfileField}
    {lines : List ProfileLine}
    (isKey : field.isKey)
    (linesOk : ∀ line, line ∈ lines → LineOk decoder line) :
    (latest (keyOf decoder field) lines).isSome ↔
      values field lines ≠ [] := by
  rw [latest_isSome_iff, values_ne_nil_iff]
  exact exists_congr fun line =>
    and_congr_right fun member =>
      keyOf_isSome_iff isKey (linesOk line member)

/-- Splitting never yields an empty list, so entries exist. -/
theorem entries_ne_nil (value : List Char) :
    entries value ≠ [] := by
  simp [entries, Text.split_ne_nil]

/-- An acceptable `AllowedIPs` line contributes at least one network. -/
theorem networksOf_ne_nil_iff
    {decoder : ProfileDecoder}
    {line : ProfileLine}
    (lineOk : LineOk decoder line) :
    networksOf decoder line ≠ [] ↔
      (line.value? .allowedIps).isSome := by
  cases line with
  | assignment field value =>
      cases field with
      | allowedIps =>
          obtain ⟨networks, parsed⟩ := parseAllowedIps_ok_iff.mpr lineOk
          have sameLength := length_parseAllowedIps parsed
          have nonempty : networks ≠ [] := by
            rintro rfl
            exact entries_ne_nil value
              (List.eq_nil_of_length_eq_zero sameLength.symm)
          simpa [networksOf, ProfileLine.value?, parsed,
            Except.toOption] using nonempty
      | _ =>
          simp [networksOf, ProfileLine.value?]
  | _ =>
      simp [networksOf, ProfileLine.value?]

/-- Acceptable lines collect networks exactly when one lists them. -/
theorem flatMap_networksOf_ne_nil_iff
    {decoder : ProfileDecoder}
    {lines : List ProfileLine}
    (linesOk : ∀ line, line ∈ lines → LineOk decoder line) :
    lines.flatMap (networksOf decoder) ≠ [] ↔
      values .allowedIps lines ≠ [] := by
  rw [values_ne_nil_iff]
  simp only [ne_eq, List.flatMap_eq_nil_iff, not_forall, exists_prop]
  exact exists_congr fun line =>
    and_congr_right fun member =>
      networksOf_ne_nil_iff (linesOk line member)

/-- A text is parsed to some profile exactly when its lines are accepted. -/
theorem exists_parse_ok_iff
    {decoder : ProfileDecoder}
    {input : List Char} :
    (∃ profile, WireGuardProfile.parse decoder input = .ok profile) ↔
      Accepted decoder (profileLines input) := by
  simp only [parse_ok_iff]
  generalize profileLines input = lines
  constructor
  · rintro ⟨profile, described⟩
    have linesOk := described.linesOk
    exact {
      linesOk := linesOk
      onePublicPeer := described.onePublicPeer
      address := by simp [described.address]
      privateKey :=
        (latest_keyOf_isSome_iff rfl linesOk).mp
          (by simp [described.privateKey])
      publicKey :=
        (latest_keyOf_isSome_iff rfl linesOk).mp
          (by simp [described.peerPublicKey])
      endpoint :=
        values_ne_nil_iff.mpr
          (latest_isSome_iff.mp (by simp [described.endpoint]))
      allowedIps :=
        (flatMap_networksOf_ne_nil_iff linesOk).mp
          (described.allowedIps ▸ described.someAllowedIps)
    }
  · intro accepted
    have linesOk := accepted.linesOk
    obtain ⟨address, addressFound⟩ :=
      Option.isSome_iff_exists.mp accepted.address
    obtain ⟨privateKey, privateKeyFound⟩ :=
      Option.isSome_iff_exists.mp
        ((latest_keyOf_isSome_iff rfl linesOk).mpr accepted.privateKey)
    obtain ⟨publicKey, publicKeyFound⟩ :=
      Option.isSome_iff_exists.mp
        ((latest_keyOf_isSome_iff rfl linesOk).mpr accepted.publicKey)
    obtain ⟨endpoint, endpointFound⟩ :=
      Option.isSome_iff_exists.mp
        (latest_isSome_iff.mpr (values_ne_nil_iff.mp accepted.endpoint))
    exact ⟨{
      address := address
      privateKey := privateKey
      peerPublicKey := publicKey
      presharedKey := latest (keyOf decoder .presharedKey) lines
      endpoint := endpoint
      allowedIps := lines.flatMap (networksOf decoder)
      persistentKeepalive := latest keepaliveOf lines
    }, {
      linesOk := linesOk
      onePublicPeer := accepted.onePublicPeer
      address := addressFound
      privateKey := privateKeyFound
      peerPublicKey := publicKeyFound
      presharedKey := rfl
      endpoint := endpointFound
      allowedIps := rfl
      someAllowedIps :=
        (flatMap_networksOf_ne_nil_iff linesOk).mpr accepted.allowedIps
      persistentKeepalive := rfl
    }⟩

/-- Parsing fails exactly when the lines are not accepted. -/
theorem exists_parse_error_iff
    {decoder : ProfileDecoder}
    {input : List Char} :
    (∃ error, WireGuardProfile.parse decoder input = .error error) ↔
      ¬ Accepted decoder (profileLines input) := by
  rw [← exists_parse_ok_iff]
  cases WireGuardProfile.parse decoder input <;> simp

/-- The three reasons for which the lines are not accepted. -/
theorem not_accepted_iff
    {decoder : ProfileDecoder}
    {lines : List ProfileLine} :
    ¬ Accepted decoder lines ↔
      ¬ NoPeerAfterPublicKey lines ∨
      (∃ line, line ∈ lines ∧ ¬ LineOk decoder line) ∨
      ¬ RequiredFields decoder lines := by
  have accepted :
      Accepted decoder lines ↔
        NoPeerAfterPublicKey lines ∧
        (∀ line, line ∈ lines → LineOk decoder line) ∧
        RequiredFields decoder lines :=
    ⟨fun accepted =>
      ⟨accepted.onePublicPeer, accepted.linesOk,
        accepted.toRequiredFields⟩,
      fun ⟨onePublicPeer, linesOk, required⟩ =>
        { required with
          linesOk := linesOk
          onePublicPeer := onePublicPeer }⟩
  rw [accepted]
  simp only [not_and_or, not_forall, exists_prop]

end Waker
