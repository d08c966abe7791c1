import Waker.ProfileAcceptance
import Waker.StandardDecoder

namespace Waker

open Latest

/-!
# At most one peer section

The `[Peer]` arm rejects a second header only when a public key has been seen
before it.  `parse_singlePeer_iff` says exactly which texts with several peer
sections are rejected, and `twoPeers` is one that is accepted.
-/

/-- The number of lines that are a `[Peer]` header. -/
def peerHeaders (input : List Char) : Nat :=
  (Text.lines input).countP fun rawLine =>
    stripLine rawLine = "[Peer]".toList

/-- Whether a line assigns a field of the peer section. -/
def ProfileLine.isPeerField : ProfileLine → Bool
  | .assignment field _ => field.home = .peer
  | _ => false

/-- The lines up to the next section header. -/
def sectionBody (lines : List ProfileLine) : List ProfileLine :=
  lines.takeWhile fun line => line ≠ .interface ∧ line ≠ .peer

/-- The bodies of the peer sections. -/
def peerSections : List ProfileLine → List (List ProfileLine)
  | [] => []
  | .peer :: rest => sectionBody rest :: peerSections rest
  | _ :: rest => peerSections rest

/-- Every peer field of the profile comes from the given lines. -/
structure TakenFrom
    (decoder : ProfileDecoder)
    (body : List ProfileLine)
    (profile : WireGuardProfile) : Prop where
  peerPublicKey :
    latest (keyOf decoder .publicKey) body = some profile.peerPublicKey
  presharedKey :
    latest (keyOf decoder .presharedKey) body = profile.presharedKey
  endpoint :
    latest (ProfileLine.value? .endpoint) body = some profile.endpoint
  allowedIps : body.flatMap (networksOf decoder) = profile.allowedIps
  persistentKeepalive :
    latest keepaliveOf body = profile.persistentKeepalive

/--
A text with two peer headers is rejected, so every accepted profile takes its
peer fields from one section.
-/
structure SinglePeer
    (decoder : ProfileDecoder)
    (input : List Char) : Prop where
  rejected :
    2 ≤ peerHeaders input →
    ∃ error, WireGuardProfile.parse decoder input = .error error
  oneSection :
    ∀ profile,
      WireGuardProfile.parse decoder input = .ok profile →
      ∃ body,
        body ∈ peerSections (profileLines input) ∧
        TakenFrom decoder body profile

/-- A line is classified as a peer header exactly when it is one. -/
theorem classify_eq_peer_iff
    {current : Section}
    {rawLine : List Char} :
    classify current rawLine = .peer ↔
      stripLine rawLine = "[Peer]".toList := by
  unfold classify
  generalize stripLine rawLine = line
  constructor
  · intro classified
    simp only at classified
    split at classified
    · cases classified
    · split at classified
      · cases classified
      · split at classified
        · assumption
        · split at classified
          · cases classified
          · split at classified <;> cases classified
  · rintro rfl
    rfl

/-- Classification keeps the number of peer headers. -/
theorem count_peer_analyse
    (current : Section)
    (rawLines : List (List Char)) :
    (analyse current rawLines).count .peer =
      rawLines.countP fun rawLine =>
        stripLine rawLine = "[Peer]".toList := by
  induction rawLines generalizing current with
  | nil =>
      rfl
  | cons rawLine rest inductionHypothesis =>
      rw [analyse, List.count_cons, List.countP_cons, inductionHypothesis]
      simp only [beq_iff_eq, classify_eq_peer_iff, decide_eq_true_eq]

/-- A field is assigned only in its own section. -/
theorem home_of_classify
    {current : Section}
    {rawLine : List Char}
    {field : ProfileField}
    {value : List Char}
    (classified : classify current rawLine = .assignment field value) :
    field.home = current := by
  obtain ⟨name, text, -, home, -⟩ := assignment_of_classify classified
  exact home.symm

/-- Outside a peer section no line assigns a peer field. -/
theorem isPeerField_classify
    {current : Section}
    (outside : current ≠ .peer)
    (rawLine : List Char) :
    (classify current rawLine).isPeerField = false := by
  cases classified : classify current rawLine with
  | assignment field value =>
      simpa [ProfileLine.isPeerField, home_of_classify classified]
        using outside
  | _ =>
      rfl

/-- Only a peer header leads into a peer section. -/
theorem nextSection_ne_peer
    {current : Section}
    {line : ProfileLine}
    (outside : current ≠ .peer)
    (noHeader : line ≠ .peer) :
    line.nextSection current ≠ .peer := by
  cases line <;> simp_all [ProfileLine.nextSection]

/-- Without a peer header, lines outside a peer section assign no peer field. -/
theorem filter_isPeerField_eq_nil
    {current : Section}
    {rawLines : List (List Char)}
    (outside : current ≠ .peer)
    (noHeader : .peer ∉ analyse current rawLines) :
    (analyse current rawLines).filter ProfileLine.isPeerField = [] := by
  induction rawLines generalizing current with
  | nil =>
      rfl
  | cons rawLine rest inductionHypothesis =>
      simp only [analyse, List.mem_cons, not_or] at noHeader
      rw [analyse, List.filter_cons,
        isPeerField_classify outside rawLine]
      exact inductionHypothesis
        (nextSection_ne_peer outside (Ne.symm noHeader.1)) noHeader.2

/-- After the last peer header, all peer fields stand in its section. -/
theorem filter_isPeerField_sectionBody
    {rawLines : List (List Char)}
    (noHeader : .peer ∉ analyse .peer rawLines) :
    (analyse .peer rawLines).filter ProfileLine.isPeerField =
      (sectionBody (analyse .peer rawLines)).filter
        ProfileLine.isPeerField := by
  induction rawLines with
  | nil =>
      rfl
  | cons rawLine rest inductionHypothesis =>
      simp only [analyse, List.mem_cons, not_or] at noHeader ⊢
      cases classified : classify .peer rawLine with
      | interface =>
          rw [classified] at noHeader
          simpa [sectionBody, ProfileLine.isPeerField] using
            filter_isPeerField_eq_nil (by decide) noHeader.2
      | peer =>
          exact (noHeader.1 classified.symm).elim
      | _ =>
          rw [classified] at noHeader
          have later := inductionHypothesis noHeader.2
          simp only [sectionBody, ProfileLine.nextSection] at later ⊢
          simp [List.filter_cons, later]

/-- With one peer header, all peer fields stand in its section. -/
theorem exists_sectionBody
    {current : Section}
    {rawLines : List (List Char)}
    (outside : current ≠ .peer)
    (oneHeader : (analyse current rawLines).count .peer ≤ 1)
    (assigned :
      (analyse current rawLines).filter ProfileLine.isPeerField ≠ []) :
    ∃ body,
      body ∈ peerSections (analyse current rawLines) ∧
      (analyse current rawLines).filter ProfileLine.isPeerField =
        body.filter ProfileLine.isPeerField := by
  induction rawLines generalizing current with
  | nil =>
      exact (assigned rfl).elim
  | cons rawLine rest inductionHypothesis =>
      by_cases header : classify current rawLine = .peer
      · simp only [analyse, header, ProfileLine.nextSection,
          List.count_cons_self] at oneHeader ⊢
        have noHeader : .peer ∉ analyse .peer rest :=
          List.count_eq_zero.mp (by omega)
        exact ⟨sectionBody (analyse .peer rest), by simp [peerSections],
          filter_isPeerField_sectionBody noHeader⟩
      · have quiet := isPeerField_classify outside rawLine
        simp only [analyse, List.count_cons_of_ne header,
          List.filter_cons, quiet, Bool.false_eq_true, if_false]
          at oneHeader assigned ⊢
        obtain ⟨body, member, same⟩ :=
          inductionHypothesis (nextSection_ne_peer outside header)
            oneHeader assigned
        refine ⟨body, ?_, same⟩
        rw [peerSections]
        · exact member
        · exact header

/-- Filtering out lines that write nothing keeps the latest value. -/
theorem latest_filter_isPeerField
    {Value : Type}
    {written : ProfileLine → Option Value}
    (silent : ∀ line,
      line.isPeerField = false →
      written line = none)
    (lines : List ProfileLine) :
    latest written (lines.filter ProfileLine.isPeerField) =
      latest written lines := by
  induction lines with
  | nil =>
      rfl
  | cons line rest inductionHypothesis =>
      cases peerField : line.isPeerField <;>
        simp_all

/-- Filtering out other lines keeps the networks. -/
theorem flatMap_networksOf_filter
    (decoder : ProfileDecoder)
    (lines : List ProfileLine) :
    (lines.filter ProfileLine.isPeerField).flatMap (networksOf decoder) =
      lines.flatMap (networksOf decoder) := by
  induction lines with
  | nil =>
      rfl
  | cons line rest inductionHypothesis =>
      cases peerField : line.isPeerField with
      | true =>
          simp [peerField, inductionHypothesis]
      | false =>
          have silent : networksOf decoder line = [] := by
            rcases line with _ | _ | _ | ⟨_ | _, _⟩ | _ | _ <;>
              first
                | rfl
                | cases peerField
          simp [peerField, inductionHypothesis, silent]

/-- Lines other than peer fields assign no value to a peer field. -/
theorem value?_eq_none_of_home
    {field : ProfileField}
    {line : ProfileLine}
    (home : field.home = .peer)
    (other : line.isPeerField = false) :
    line.value? field = none := by
  cases line with
  | assignment assigned value =>
      have different : assigned ≠ field := by
        rintro rfl
        simp [ProfileLine.isPeerField, home] at other
      simp [ProfileLine.value?, different]
  | _ =>
      rfl

/-- Lines with the same peer fields yield the same peer. -/
theorem takenFrom_of_filter_eq
    {decoder : ProfileDecoder}
    {lines body : List ProfileLine}
    {profile : WireGuardProfile}
    (described : Describes decoder lines profile)
    (same :
      lines.filter ProfileLine.isPeerField =
        body.filter ProfileLine.isPeerField) :
    TakenFrom decoder body profile := by
  have sameLatest {Value : Type}
      {written : ProfileLine → Option Value}
      (silent : ∀ line,
        line.isPeerField = false →
        written line = none) :
      latest written body = latest written lines := by
    rw [← latest_filter_isPeerField silent body, ← same,
      latest_filter_isPeerField silent lines]
  have silentKey {field : ProfileField} (home : field.home = .peer)
      (line : ProfileLine) (other : line.isPeerField = false) :
      keyOf decoder field line = none := by
    simp [keyOf, value?_eq_none_of_home home other]
  have silentKeepalive
      (line : ProfileLine) (other : line.isPeerField = false) :
      keepaliveOf line = none := by
    have silent : line.value? .persistentKeepalive = none :=
      value?_eq_none_of_home rfl other
    simp [keepaliveOf, silent]
  exact {
    peerPublicKey :=
      (sameLatest (silentKey rfl)).trans described.peerPublicKey
    presharedKey :=
      (sameLatest (silentKey rfl)).trans described.presharedKey
    endpoint :=
      (sameLatest fun _ => value?_eq_none_of_home rfl).trans
        described.endpoint
    allowedIps := by
      rw [← flatMap_networksOf_filter decoder body, ← same,
        flatMap_networksOf_filter decoder lines, described.allowedIps]
    persistentKeepalive :=
      (sameLatest silentKeepalive).trans described.persistentKeepalive
  }

/-- A profile with at most one peer header is taken from one section. -/
theorem takenFrom_of_oneHeader
    {decoder : ProfileDecoder}
    {input : List Char}
    {profile : WireGuardProfile}
    (oneHeader : peerHeaders input < 2)
    (parsed : WireGuardProfile.parse decoder input = .ok profile) :
    ∃ body,
      body ∈ peerSections (profileLines input) ∧
      TakenFrom decoder body profile := by
  have described := parse_ok_iff.mp parsed
  have count : (profileLines input).count .peer ≤ 1 := by
    rw [profileLines, count_peer_analyse]
    exact Nat.le_of_lt_succ oneHeader
  have assigned :
      (profileLines input).filter ProfileLine.isPeerField ≠ [] := by
    intro none
    have missing : TakenFrom decoder [] profile :=
      takenFrom_of_filter_eq described none
    cases missing.peerPublicKey
  obtain ⟨body, member, same⟩ :=
    exists_sectionBody (by decide) count assigned
  exact ⟨body, member, takenFrom_of_filter_eq described same⟩

/--
A text with several peer headers is rejected exactly when a header follows a
public key, a line is unacceptable or a required field is missing.
-/
theorem parse_singlePeer_iff
    (decoder : ProfileDecoder)
    (input : List Char) :
    SinglePeer decoder input ↔
      peerHeaders input < 2 ∨
      ¬ NoPeerAfterPublicKey (profileLines input) ∨
      (∃ line,
        line ∈ profileLines input ∧ ¬ LineOk decoder line) ∨
      ¬ RequiredFields decoder (profileLines input) := by
  rw [← not_accepted_iff, ← exists_parse_error_iff]
  constructor
  · intro singlePeer
    by_cases several : 2 ≤ peerHeaders input
    · exact .inr (singlePeer.rejected several)
    · exact .inl (Nat.lt_of_not_le several)
  · rintro (oneHeader | ⟨error, failed⟩)
    · exact {
        rejected := fun several =>
          (Nat.not_le_of_lt oneHeader several).elim
        oneSection := fun profile parsed =>
          takenFrom_of_oneHeader oneHeader parsed
      }
    · exact {
        rejected := fun _ => ⟨error, failed⟩
        oneSection := fun profile parsed => by
          rw [failed] at parsed
          cases parsed
      }

/-- The endpoint of one peer combined with the key of another. -/
def twoPeers : List Char :=
  joinLines [
    "[Interface]",
    "PrivateKey = AAAAAAAAAAAAAAAAAAAAAAAAAAAAAAAAAAAAAAAAAAA=",
    "Address = 10.0.0.2/24",
    "[Peer]",
    "Endpoint = first.example:51820",
    "AllowedIPs = 10.0.0.0/24",
    "[Peer]",
    "PublicKey = AAAAAAAAAAAAAAAAAAAAAAAAAAAAAAAAAAAAAAAAAAE="
  ]

/-- Not every text with two peer headers is rejected. -/
theorem twoPeers_accepted :
    ¬ ∀ input,
      2 ≤ peerHeaders input →
      ∃ error,
        WireGuardProfile.parse standardDecoder input = .error error := by
  intro rejected
  obtain ⟨error, failed⟩ := rejected twoPeers (by decide)
  have accepted :
      (WireGuardProfile.parse standardDecoder twoPeers).isOk = true := by
    decide
  rw [failed] at accepted
  cases accepted

end Waker
