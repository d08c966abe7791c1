import Waker.ProfileAcceptance
import Waker.StandardDecoder

namespace Waker

open Latest

/-!
# A list on one line or on two

`AllowedIPs` lines are collected, so it does not matter how a list is divided
between them.  Of the `Address` lines the last one with an IPv4 entry wins, but
within a line the first entry does: a list that is divided between two
different IPv4 entries yields another address.
-/

/-- A line that assigns a list of entries to a key. -/
def ListLine
    (key line : List Char)
    (list : List (List Char)) : Prop :=
  ∃ name text,
    Text.splitOnce '=' (stripLine line) = some (name, text) ∧
      Text.trim name = key ∧
      entries (Text.trim text) = list

/-- The section in force after some lines. -/
def sectionAfter : Section → List (List Char) → Section
  | current, [] => current
  | current, rawLine :: rest =>
      sectionAfter ((classify current rawLine).nextSection current) rest

/-- The error of a line without an equals sign. -/
def lineError (number : Nat) : NetError :=
  .config s!"invalid WireGuard line {number}"

/-- Both results are related values, or errors equal up to a line number. -/
def AgreesUpToLine
    {Left Right : Type}
    (related : Left → Right → Prop) :
    Except NetError Left → Except NetError Right → Prop
  | .ok left, .ok right => related left right
  | .error left, .error right =>
      left = right ∨
        ∃ number other, left = lineError number ∧ right = lineError other
  | _, _ => False

/-- The same result, or errors that differ at most in a line number. -/
def SameUpToLine
    {Value : Type} :
    Except NetError Value → Except NetError Value → Prop :=
  AgreesUpToLine Eq

/--
An `Address` list is divided between two different IPv4 entries, and no later
`Address` line has one.
-/
structure Diverts
    (decoder : ProfileDecoder)
    (key : List Char)
    (before after firstList secondList : List (List Char)) : Prop where
  isAddress : key = "Address".toList
  inInterface : sectionAfter .none before = .interface
  differ :
    ∃ address other,
      firstIpv4 decoder firstList = some address ∧
        firstIpv4 decoder secondList = some other ∧ address ≠ other
  last : latest (addressOf decoder) (analyse .interface after) = none

namespace ProfileDraft

/-- The draft with another address. -/
def withAddress
    (draft : ProfileDraft)
    (address : Option Ipv4Network) : ProfileDraft :=
  { draft with address := address }

/-- What a list contributes to a draft under a key. -/
def contribute
    (decoder : ProfileDecoder)
    (key : List Char)
    (list : List (List Char))
    (draft : ProfileDraft) : ProfileDraft :=
  if draft.inSection = .interface ∧ key = "Address".toList then
    draft.withAddress ((firstIpv4 decoder list).or draft.address)
  else if draft.inSection = .peer ∧ key = "AllowedIPs".toList then
    { draft with
      allowedIps :=
        draft.allowedIps ++
          ((parseAllowedIps decoder list).toOption.getD []) }
  else
    draft

end ProfileDraft

/-- The first IPv4 entry of a list is the first of its first part with one. -/
theorem firstIpv4_append
    (decoder : ProfileDecoder)
    (firstList secondList : List (List Char)) :
    firstIpv4 decoder (firstList ++ secondList) =
      (firstIpv4 decoder firstList).or (firstIpv4 decoder secondList) := by
  induction firstList with
  | nil =>
      rfl
  | cons candidate rest inductionHypothesis =>
      simp only [List.cons_append, firstIpv4]
      split
      · rfl
      · exact inductionHypothesis

/-- The networks of a list are those of its parts. -/
theorem parseAllowedIps_append
    {decoder : ProfileDecoder}
    {firstList secondList : List (List Char)}
    {first second : List IpNetwork}
    (parsedFirst : parseAllowedIps decoder firstList = .ok first)
    (parsedSecond : parseAllowedIps decoder secondList = .ok second) :
    parseAllowedIps decoder (firstList ++ secondList) =
      .ok (first ++ second) := by
  induction firstList generalizing first with
  | nil =>
      cases parsedFirst
      exact parsedSecond
  | cons candidate rest inductionHypothesis =>
      simp only [parseAllowedIps] at parsedFirst
      split at parsedFirst
      · cases parsedFirst
      · rename_i network parsed
        cases later : parseAllowedIps decoder rest with
        | error error =>
            simp [later, Except.map] at parsedFirst
        | ok networks =>
            simp only [later, Except.map, Except.ok.injEq] at parsedFirst
            subst parsedFirst
            simp only [List.cons_append, parseAllowedIps, parsed,
              inductionHypothesis later]
            rfl

/-- A line with a list of networks is accepted and contributes its list. -/
theorem parseLine_listLine
    {decoder : ProfileDecoder}
    {key line : List Char}
    {list : List (List Char)}
    (listed : ListLine key line list)
    (isList : key = "Address".toList ∨ key = "AllowedIPs".toList)
    (wellFormed :
      ∀ entry,
        entry ∈ list →
        ∃ network, decoder.parseIpNetwork entry = .ok network)
    (lineNumber : Nat)
    (draft : ProfileDraft) :
    parseLine decoder lineNumber line draft =
      .ok (draft.contribute decoder key list) := by
  obtain ⟨name, text, divided, rfl, rfl⟩ := listed
  obtain ⟨networks, parsed⟩ := parseAllowedIps_ok_iff.mpr wellFormed
  rw [parseLine_eq_step, classify_of_splitOnce divided]
  unfold ProfileDraft.contribute
  rcases draft with ⟨current, address⟩
  rcases isList with isAddress | isAllowed
  · rw [isAddress]
    cases current with
    | interface =>
        have recognised :
            field? .interface "Address".toList = some .address :=
          field?_eq_some_iff.mpr ⟨rfl, rfl⟩
        simp only [recognised, ProfileDraft.step, and_self, if_true]
        cases firstIpv4 decoder (entries (Text.trim text)) <;> rfl
    | peer =>
        rfl
    | none =>
        rfl
  · rw [isAllowed]
    cases current with
    | interface =>
        rfl
    | peer =>
        have recognised :
            field? .peer "AllowedIPs".toList = some .allowedIps :=
          field?_eq_some_iff.mpr ⟨rfl, rfl⟩
        simp only [recognised, ProfileDraft.step, parsed, Except.map,
          Except.toOption]
        rfl
    | none =>
        rfl

/-- The line loop over two parts of a text. -/
theorem parseLines_append
    (decoder : ProfileDecoder)
    (lineNumber : Nat)
    (before rest : List (List Char))
    (draft : ProfileDraft) :
    parseLines decoder lineNumber (before ++ rest) draft =
      match parseLines decoder lineNumber before draft with
      | .error error => .error error
      | .ok next =>
          parseLines decoder (lineNumber + before.length) rest next := by
  induction before generalizing lineNumber draft with
  | nil =>
      rfl
  | cons rawLine before inductionHypothesis =>
      simp only [List.cons_append, parseLines, List.length_cons]
      cases parseLine decoder lineNumber rawLine draft with
      | error error =>
          rfl
      | ok next =>
          simp only [inductionHypothesis]
          rw [Nat.add_right_comm, Nat.add_assoc]

/-- The line loop ends in the section in force after its lines. -/
theorem inSection_of_parseLines
    {decoder : ProfileDecoder}
    {lineNumber : Nat}
    {rawLines : List (List Char)}
    {draft final : ProfileDraft}
    (parsed : parseLines decoder lineNumber rawLines draft = .ok final) :
    final.inSection = sectionAfter draft.inSection rawLines := by
  induction rawLines generalizing lineNumber draft with
  | nil =>
      cases parsed
      rfl
  | cons rawLine rest inductionHypothesis =>
      simp only [parseLines, parseLine_eq_step] at parsed
      split at parsed
      · cases parsed
      · rename_i next stepped
        obtain ⟨-, -, rfl⟩ := step_ok_iff.mp stepped
        exact inductionHypothesis parsed

/-- A line treats drafts alike that differ in their address. -/
theorem step_withAddress
    (decoder : ProfileDecoder)
    (lineNumber otherNumber : Nat)
    (draft : ProfileDraft)
    (other : Option Ipv4Network)
    (line : ProfileLine) :
    AgreesUpToLine
      (fun next nextOther =>
        nextOther =
          next.withAddress ((addressOf decoder line).or other))
      (draft.step decoder lineNumber line)
      ((draft.withAddress other).step decoder otherNumber line) := by
  cases line with
  | malformed =>
      exact .inr ⟨lineNumber + 1, otherNumber + 1, rfl, rfl⟩
  | peer =>
      rcases draft with ⟨current, address, privateKey, peerPublicKey⟩
      cases peerPublicKey with
      | none =>
          rfl
      | some key =>
          exact .inl rfl
  | assignment field value =>
      cases field with
      | address =>
          simp only [ProfileDraft.step, addressOf, ProfileLine.value?,
            if_true, Option.bind_some]
          cases firstIpv4 decoder (entries value) <;> rfl
      | privateKey =>
          simp only [ProfileDraft.step]
          cases parseKey decoder value with
          | error error =>
              exact .inl rfl
          | ok key =>
              rfl
      | publicKey =>
          simp only [ProfileDraft.step]
          cases parseKey decoder value with
          | error error =>
              exact .inl rfl
          | ok key =>
              rfl
      | presharedKey =>
          simp only [ProfileDraft.step]
          cases parseKey decoder value with
          | error error =>
              exact .inl rfl
          | ok key =>
              rfl
      | endpoint =>
          rfl
      | allowedIps =>
          simp only [ProfileDraft.step]
          cases parseAllowedIps decoder (entries value) with
          | error error =>
              exact .inl rfl
          | ok networks =>
              rfl
      | persistentKeepalive =>
          simp only [ProfileDraft.step]
          cases parseKeepalive value with
          | error error =>
              exact .inl rfl
          | ok seconds =>
              rfl
  | _ =>
      rfl

/-- The line loop treats drafts alike that differ in their address. -/
theorem parseLines_withAddress
    (decoder : ProfileDecoder)
    (lineNumber otherNumber : Nat)
    (rawLines : List (List Char))
    (draft : ProfileDraft)
    (other : Option Ipv4Network) :
    AgreesUpToLine
      (fun final finalOther =>
        finalOther =
          final.withAddress
            ((latest (addressOf decoder)
              (analyse draft.inSection rawLines)).or other))
      (parseLines decoder lineNumber rawLines draft)
      (parseLines decoder otherNumber rawLines
        (draft.withAddress other)) := by
  induction rawLines generalizing lineNumber otherNumber draft other with
  | nil =>
      rfl
  | cons rawLine rest inductionHypothesis =>
      have sameSection :
          (draft.withAddress other).inSection = draft.inSection :=
        rfl
      have stepped :=
        step_withAddress decoder lineNumber otherNumber draft other
          (classify draft.inSection rawLine)
      simp only [parseLines, parseLine_eq_step, sameSection, analyse,
        latest_cons, Option.or_assoc]
      cases left :
          draft.step decoder lineNumber (classify draft.inSection rawLine)
        with
      | error error =>
          rw [left] at stepped
          cases right :
              (draft.withAddress other).step decoder otherNumber
                (classify draft.inSection rawLine) with
          | error otherError =>
              rw [right] at stepped
              exact stepped
          | ok nextOther =>
              rw [right] at stepped
              exact stepped.elim
      | ok next =>
          rw [left] at stepped
          cases right :
              (draft.withAddress other).step decoder otherNumber
                (classify draft.inSection rawLine) with
          | error otherError =>
              rw [right] at stepped
              exact stepped.elim
          | ok nextOther =>
              rw [right] at stepped
              have nextSection :
                  next.inSection =
                    (classify draft.inSection rawLine).nextSection
                      draft.inSection := by
                obtain ⟨-, -, rfl⟩ := step_ok_iff.mp left
                rfl
              simp only [AgreesUpToLine] at stepped
              subst stepped
              rw [← nextSection]
              exact inductionHypothesis (lineNumber + 1) (otherNumber + 1)
                next _

/-- The address of the draft at the end of the line loop. -/
theorem address_of_parseLines
    {decoder : ProfileDecoder}
    {lineNumber : Nat}
    {rawLines : List (List Char)}
    {draft final : ProfileDraft}
    (parsed : parseLines decoder lineNumber rawLines draft = .ok final) :
    final.address =
      (latest (addressOf decoder) (analyse draft.inSection rawLines)).or
        draft.address := by
  obtain ⟨-, -, -, rfl⟩ := parseLines_ok_iff.mp parsed
  exact foldl_overwrite ProfileDraft.address (addressOf decoder)
    (fun _ _ => rfl) _ _

/-- The lists on two lines contribute what the list on one line does. -/
theorem contribute_twice
    {decoder : ProfileDecoder}
    {key : List Char}
    {firstList secondList : List (List Char)}
    (wellFormed :
      ∀ entry,
        entry ∈ firstList ++ secondList →
        ∃ network, decoder.parseIpNetwork entry = .ok network)
    (draft : ProfileDraft) :
    ∃ address,
      (draft.contribute decoder key firstList).contribute decoder key
          secondList =
        (draft.contribute decoder key
          (firstList ++ secondList)).withAddress address ∧
      (address ≠
          (draft.contribute decoder key
            (firstList ++ secondList)).address ↔
        draft.inSection = .interface ∧ key = "Address".toList ∧
          ∃ first second,
            firstIpv4 decoder firstList = some first ∧
              firstIpv4 decoder secondList = some second ∧
              first ≠ second) ∧
      (address.isSome ↔
        (draft.contribute decoder key
          (firstList ++ secondList)).address.isSome) := by
  unfold ProfileDraft.contribute
  by_cases isAddress :
      draft.inSection = .interface ∧ key = "Address".toList
  · have stays (address : Option Ipv4Network) :
        (draft.withAddress address).inSection = .interface ∧
          key = "Address".toList :=
      isAddress
    simp only [if_pos isAddress, if_pos (stays _)]
    refine ⟨(firstIpv4 decoder secondList).or
      ((firstIpv4 decoder firstList).or draft.address), rfl, ?_, ?_⟩
    · rw [firstIpv4_append]
      cases firstIpv4 decoder firstList <;>
        cases firstIpv4 decoder secondList <;>
        simp [ProfileDraft.withAddress, isAddress, eq_comm]
    · rw [firstIpv4_append]
      cases firstIpv4 decoder firstList <;>
        cases firstIpv4 decoder secondList <;>
        simp [ProfileDraft.withAddress]
  · simp only [if_neg isAddress]
    have never :
        ¬ (draft.inSection = .interface ∧ key = "Address".toList ∧
          ∃ first second,
            firstIpv4 decoder firstList = some first ∧
              firstIpv4 decoder secondList = some second ∧
              first ≠ second) :=
      fun ⟨inInterface, named, _⟩ => isAddress ⟨inInterface, named⟩
    by_cases isAllowed :
        draft.inSection = .peer ∧ key = "AllowedIPs".toList
    · obtain ⟨first, parsedFirst⟩ :=
        parseAllowedIps_ok_iff.mpr fun entry member =>
          wellFormed entry (List.mem_append_left _ member)
      obtain ⟨second, parsedSecond⟩ :=
        parseAllowedIps_ok_iff.mpr fun entry member =>
          wellFormed entry (List.mem_append_right _ member)
      simp only [if_pos isAllowed, if_neg isAddress, parsedFirst,
        parsedSecond, parseAllowedIps_append parsedFirst parsedSecond]
      refine ⟨draft.address, ?_, iff_of_false (by simp) never, Iff.rfl⟩
      simp [ProfileDraft.withAddress, Except.toOption]
    · simp only [if_neg isAllowed, if_neg isAddress]
      exact ⟨draft.address, rfl, iff_of_false (by simp) never, Iff.rfl⟩

/-- The final checks treat drafts alike that both have an address. -/
theorem finish_withAddress
    {draft : ProfileDraft}
    {other : Option Ipv4Network}
    (bothOrNone : other.isSome ↔ draft.address.isSome) :
    (∃ error,
      draft.finish = .error error ∧
        (draft.withAddress other).finish = .error error) ∨
    ∃ profile otherProfile,
      draft.finish = .ok profile ∧
        (draft.withAddress other).finish = .ok otherProfile ∧
        draft.address = some profile.address ∧
        other = some otherProfile.address ∧
        otherProfile = { profile with address := otherProfile.address } := by
  rcases draft with ⟨current, address, privateKey, peerPublicKey,
    presharedKey, endpoint, allowedIps, persistentKeepalive⟩
  cases address with
  | none =>
      cases other with
      | none =>
          exact .inl ⟨_, rfl, rfl⟩
      | some other =>
          simp at bothOrNone
  | some address =>
      cases other with
      | none =>
          simp at bothOrNone
      | some other =>
          cases privateKey with
          | none =>
              exact .inl ⟨_, rfl, rfl⟩
          | some privateKey =>
              cases peerPublicKey with
              | none =>
                  exact .inl ⟨_, rfl, rfl⟩
              | some peerPublicKey =>
                  cases endpoint with
                  | none =>
                      exact .inl ⟨_, rfl, rfl⟩
                  | some endpoint =>
                      cases allowedIps with
                      | nil =>
                          exact .inl ⟨_, rfl, rfl⟩
                      | cons network networks =>
                          exact .inr ⟨_, _, rfl, rfl, rfl, rfl, rfl⟩

/-- Another address gives another profile exactly when one is accepted. -/
theorem sameUpToLine_withAddress
    {draft : ProfileDraft}
    {other : Option Ipv4Network}
    (bothOrNone : other.isSome ↔ draft.address.isSome) :
    SameUpToLine draft.finish (draft.withAddress other).finish ↔
      ¬ ((∃ profile, draft.finish = .ok profile) ∧
        other ≠ draft.address) := by
  rcases finish_withAddress bothOrNone with
    ⟨error, failed, otherFailed⟩ |
    ⟨profile, otherProfile, finished, otherFinished, address, otherAddress,
      sameRest⟩
  · rw [failed, otherFailed]
    refine iff_of_true (.inl rfl) ?_
    rintro ⟨⟨profile, accepted⟩, -⟩
    cases accepted
  · have accepted : ∃ profile, draft.finish = .ok profile :=
      ⟨profile, finished⟩
    rw [and_iff_right accepted, not_not, finished, otherFinished, address,
      otherAddress, Option.some.injEq]
    constructor
    · intro same
      exact (congrArg WireGuardProfile.address same).symm
    · intro same
      rw [sameRest, same]
      rfl

/-- A divided list diverts when the address it leaves is not overwritten. -/
theorem diverts_iff
    {decoder : ProfileDecoder}
    {key : List Char}
    {before after firstList secondList : List (List Char)}
    {reached : Section}
    {address other : Option Ipv4Network}
    (sectionBefore : reached = sectionAfter .none before)
    (differs :
      other ≠ address ↔
        reached = .interface ∧ key = "Address".toList ∧
          ∃ first second,
            firstIpv4 decoder firstList = some first ∧
              firstIpv4 decoder secondList = some second ∧
              first ≠ second) :
    Diverts decoder key before after firstList secondList ↔
      (latest (addressOf decoder) (analyse reached after)).or other ≠
        (latest (addressOf decoder) (analyse reached after)).or address := by
  cases last : latest (addressOf decoder) (analyse reached after) with
  | some later =>
      refine iff_of_false (fun diverts => ?_) (by simp)
      rw [sectionBefore, diverts.inInterface, diverts.last] at last
      cases last
  | none =>
      rw [Option.none_or, Option.none_or, differs]
      constructor
      · intro diverts
        exact ⟨sectionBefore.trans diverts.inInterface, diverts.isAddress,
          diverts.differ⟩
      · rintro ⟨inInterface, isAddress, differ⟩
        refine ⟨isAddress, sectionBefore.symm.trans inInterface, differ, ?_⟩
        rw [← last, inInterface]

/--
Dividing a list between two lines gives the same result exactly when the text
is not accepted, or the list is not an `Address` list that is divided between
two different IPv4 entries and decides the address.
-/
theorem parse_divided_iff
    {decoder : ProfileDecoder}
    {key line firstLine secondLine : List Char}
    {firstList secondList before after : List (List Char)}
    (isList : key = "Address".toList ∨ key = "AllowedIPs".toList)
    (listed : ListLine key line (firstList ++ secondList))
    (listedFirst : ListLine key firstLine firstList)
    (listedSecond : ListLine key secondLine secondList)
    (wellFormed :
      ∀ entry,
        entry ∈ firstList ++ secondList →
        ∃ network, decoder.parseIpNetwork entry = .ok network)
    {input divided : List Char}
    (linesOfInput : Text.lines input = before ++ line :: after)
    (linesOfDivided :
      Text.lines divided = before ++ firstLine :: secondLine :: after) :
    SameUpToLine
        (WireGuardProfile.parse decoder input)
        (WireGuardProfile.parse decoder divided) ↔
      ¬ (Accepted decoder (profileLines input) ∧
        Diverts decoder key before after firstList secondList) := by
  rw [← exists_parse_ok_iff]
  unfold WireGuardProfile.parse
  rw [linesOfInput, linesOfDivided, parseLines_append, parseLines_append]
  cases begun : parseLines decoder 0 before .initial with
  | error error =>
      refine iff_of_true (.inl rfl) ?_
      rintro ⟨⟨profile, accepted⟩, -⟩
      cases accepted
  | ok draft =>
      have sectionBefore := inSection_of_parseLines begun
      have whole := parseLine_listLine listed isList wellFormed
      have first :=
        parseLine_listLine listedFirst isList fun entry member =>
          wellFormed entry (List.mem_append_left _ member)
      have second :=
        parseLine_listLine listedSecond isList fun entry member =>
          wellFormed entry (List.mem_append_right _ member)
      obtain ⟨other, twice, differs, bothOrNone⟩ :=
        @contribute_twice decoder key _ _ wellFormed draft
      simp only [parseLines, whole, first, second, twice]
      generalize contributed :
        draft.contribute decoder key (firstList ++ secondList) = next at *
      have nextSection : next.inSection = draft.inSection := by
        rw [← contributed, ProfileDraft.contribute]
        split
        · rfl
        · split <;> rfl
      have agree :=
        parseLines_withAddress decoder (0 + before.length + 1)
          (0 + before.length + 1 + 1) after next other
      cases left :
          parseLines decoder (0 + before.length + 1) after next with
      | error error =>
          rw [left] at agree
          cases right :
              parseLines decoder (0 + before.length + 1 + 1) after
                (next.withAddress other) with
          | error otherError =>
              rw [right] at agree
              refine iff_of_true agree ?_
              rintro ⟨⟨profile, accepted⟩, -⟩
              cases accepted
          | ok finalOther =>
              rw [right] at agree
              exact agree.elim
      | ok final =>
          rw [left] at agree
          have finalAddress := address_of_parseLines left
          cases right :
              parseLines decoder (0 + before.length + 1 + 1) after
                (next.withAddress other) with
          | error otherError =>
              rw [right] at agree
              exact agree.elim
          | ok finalOther =>
              rw [right] at agree
              simp only [AgreesUpToLine] at agree
              subst agree
              have sameIsSome :
                  ((latest (addressOf decoder)
                      (analyse next.inSection after)).or other).isSome ↔
                    final.address.isSome := by
                rw [finalAddress, Option.isSome_or, Option.isSome_or,
                  Bool.or_eq_true, Bool.or_eq_true, bothOrNone]
              rw [diverts_iff (nextSection.trans sectionBefore)
                (nextSection ▸ differs), ← finalAddress]
              exact sameUpToLine_withAddress sameIsSome

/-- The lines of a profile before its addresses. -/
def linesBeforeAddress : List (List Char) :=
  ["[Interface]".toList,
    "PrivateKey = AAAAAAAAAAAAAAAAAAAAAAAAAAAAAAAAAAAAAAAAAAA=".toList]

/-- The lines of a profile after its addresses. -/
def linesAfterAddress : List (List Char) :=
  ["[Peer]".toList,
    "PublicKey = AAAAAAAAAAAAAAAAAAAAAAAAAAAAAAAAAAAAAAAAAAE=".toList,
    "Endpoint = first.example:51820".toList,
    "AllowedIPs = 10.0.0.0/24".toList]

/-- A text of lines that each end with a line feed. -/
def textOfLines (lines : List (List Char)) : List Char :=
  lines.flatMap fun line => line ++ ['\n']

/-- Two addresses on one line. -/
def addressesOnOneLine : List Char :=
  textOfLines
    (linesBeforeAddress ++
      "Address = 10.8.0.2/24, 10.9.0.2/24".toList :: linesAfterAddress)

/-- The same addresses on two lines. -/
def addressesOnTwoLines : List Char :=
  textOfLines
    (linesBeforeAddress ++
      "Address = 10.8.0.2/24".toList ::
        "Address = 10.9.0.2/24".toList :: linesAfterAddress)

/-- On one line the first address is taken. -/
theorem parse_addressesOnOneLine :
    ((WireGuardProfile.parse standardDecoder addressesOnOneLine).toOption.map
        fun profile => profile.address.ip) =
      some ⟨10, 8, 0, 2⟩ := by
  decide +kernel

/-- On two lines the second address is taken. -/
theorem parse_addressesOnTwoLines :
    ((WireGuardProfile.parse standardDecoder
        addressesOnTwoLines).toOption.map
        fun profile => profile.address.ip) =
      some ⟨10, 9, 0, 2⟩ := by
  decide +kernel

/-- A list whose entries all parse is well formed. -/
theorem wellFormed_of_all
    {decoder : ProfileDecoder}
    {list : List (List Char)}
    (allParse :
      (list.all fun entry => (decoder.parseIpNetwork entry).isOk) = true) :
    ∀ entry,
      entry ∈ list →
      ∃ network, decoder.parseIpNetwork entry = .ok network := by
  intro entry member
  have parses := List.all_eq_true.mp allParse entry member
  cases parsed : decoder.parseIpNetwork entry with
  | error error =>
      rw [parsed] at parses
      cases parses
  | ok network =>
      exact ⟨network, rfl⟩

/-- Dividing a list of two addresses changes the address of the profile. -/
theorem dividedAddresses_differ :
    ¬ ∀ line firstLine secondLine firstList secondList before after
        input divided,
      ListLine "Address".toList line (firstList ++ secondList) →
      ListLine "Address".toList firstLine firstList →
      ListLine "Address".toList secondLine secondList →
      (∀ entry,
        entry ∈ firstList ++ secondList →
        ∃ network, standardDecoder.parseIpNetwork entry = .ok network) →
      Text.lines input = before ++ line :: after →
      Text.lines divided = before ++ firstLine :: secondLine :: after →
      SameUpToLine
        (WireGuardProfile.parse standardDecoder input)
        (WireGuardProfile.parse standardDecoder divided) := by
  intro same
  have agrees :=
    same "Address = 10.8.0.2/24, 10.9.0.2/24".toList
      "Address = 10.8.0.2/24".toList "Address = 10.9.0.2/24".toList
      ["10.8.0.2/24".toList] ["10.9.0.2/24".toList]
      linesBeforeAddress linesAfterAddress
      addressesOnOneLine addressesOnTwoLines
      ⟨"Address ".toList, " 10.8.0.2/24, 10.9.0.2/24".toList,
        by decide, by decide, by decide⟩
      ⟨"Address ".toList, " 10.8.0.2/24".toList,
        by decide, by decide, by decide⟩
      ⟨"Address ".toList, " 10.9.0.2/24".toList,
        by decide, by decide, by decide⟩
      (wellFormed_of_all (by decide)) (by decide +kernel)
      (by decide +kernel)
  have one := parse_addressesOnOneLine
  have two := parse_addressesOnTwoLines
  cases first : WireGuardProfile.parse standardDecoder addressesOnOneLine with
  | error error =>
      rw [first] at one
      cases one
  | ok profile =>
      cases second :
          WireGuardProfile.parse standardDecoder addressesOnTwoLines with
      | error error =>
          rw [second] at two
          cases two
      | ok other =>
          rw [first, second] at agrees
          rw [first] at one
          rw [second] at two
          cases agrees
          exact absurd (one.symm.trans two) (by decide)

/-- The networks of a profile on one line or on two. -/
theorem parse_divided_iff_networks :
    SameUpToLine
        (WireGuardProfile.parse standardDecoder
          (textOfLines
            ["[Peer]".toList, "AllowedIPs = 10.0.0.0/24,10.1.0.0/16".toList]))
        (WireGuardProfile.parse standardDecoder
          (textOfLines
            ["[Peer]".toList, "AllowedIPs = 10.0.0.0/24".toList,
              "AllowedIPs = 10.1.0.0/16".toList])) ↔
      ¬ (Accepted standardDecoder
          (profileLines
            (textOfLines
              ["[Peer]".toList,
                "AllowedIPs = 10.0.0.0/24,10.1.0.0/16".toList])) ∧
        Diverts standardDecoder "AllowedIPs".toList ["[Peer]".toList] []
          ["10.0.0.0/24".toList] ["10.1.0.0/16".toList]) := by
  have listed :
      ListLine "AllowedIPs".toList
        "AllowedIPs = 10.0.0.0/24,10.1.0.0/16".toList
        (["10.0.0.0/24".toList] ++ ["10.1.0.0/16".toList]) :=
    ⟨"AllowedIPs ".toList, " 10.0.0.0/24,10.1.0.0/16".toList,
      by decide, by decide, by decide⟩
  have listedFirst :
      ListLine "AllowedIPs".toList "AllowedIPs = 10.0.0.0/24".toList
        ["10.0.0.0/24".toList] :=
    ⟨"AllowedIPs ".toList, " 10.0.0.0/24".toList,
      by decide, by decide, by decide⟩
  have listedSecond :
      ListLine "AllowedIPs".toList "AllowedIPs = 10.1.0.0/16".toList
        ["10.1.0.0/16".toList] :=
    ⟨"AllowedIPs ".toList, " 10.1.0.0/16".toList,
      by decide, by decide, by decide⟩
  exact parse_divided_iff (.inr rfl) listed listedFirst listedSecond
    (wellFormed_of_all (by decide)) (by decide) (by decide)

end Waker
