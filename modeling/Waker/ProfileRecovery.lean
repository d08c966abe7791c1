import Waker.RenderedLines
import Waker.StandardDecoder

namespace Waker

open Latest

/-!
# Every rendering is parsed

The items of both sections together describe the profile, whatever the order
of the sections and of the fields inside them, so parsing recovers exactly the
profile.
-/

/-- The items of a whole text describe the profile. -/
structure ItemsDescribe
    (items : List ProfileItem)
    (profile : WireGuardProfile) : Prop where
  address : items.filterMap ProfileItem.address? = [profile.address]
  privateKey : items.filterMap ProfileItem.privateKey? = [profile.privateKey]
  publicKey :
    items.filterMap ProfileItem.publicKey? = [profile.peerPublicKey]
  presharedKey :
    items.filterMap ProfileItem.presharedKey? = profile.presharedKey.toList
  endpoint : items.filterMap ProfileItem.endpoint? = [profile.endpoint]
  allowedIps : items.flatMap ProfileItem.networks = profile.allowedIps
  persistentKeepalive :
    items.filterMap ProfileItem.keepalive? =
      profile.persistentKeepalive.toList
  noLatePeer :
    items.Pairwise fun earlier later =>
      earlier.publicKey?.isSome → ¬ later = .header .peer

/-- Contributions of lines are the contributions of their items. -/
theorem filterMap_eq_of_itemLines
    {decoder : ProfileDecoder}
    {items : List ProfileItem}
    {lines : List ProfileLine}
    (related : List.Forall₂ (ItemLine decoder) items lines)
    {Value : Type}
    {fromItem : ProfileItem → Option Value}
    {fromLine : ProfileLine → Option Value}
    (agree :
      ∀ item line,
        Reads decoder item line → fromLine line = fromItem item) :
    lines.filterMap fromLine = items.filterMap fromItem := by
  induction related with
  | nil =>
      rfl
  | cons first _ inductionHypothesis =>
      rw [List.filterMap_cons, List.filterMap_cons,
        agree _ _ first.reads, inductionHypothesis]

/-- Lines whose items describe a profile describe it. -/
theorem describes_of_items
    {decoder : ProfileDecoder}
    {profile : WireGuardProfile}
    {items : List ProfileItem}
    {lines : List ProfileLine}
    (related : List.Forall₂ (ItemLine decoder) items lines)
    (described : ItemsDescribe items profile)
    (nonempty : profile.allowedIps ≠ []) :
    Describes decoder lines profile where
  linesOk := by
    clear described
    induction related with
    | nil =>
        simp
    | cons first _ inductionHypothesis =>
        rw [List.forall_mem_cons]
        exact ⟨first.reads.lineOk, inductionHypothesis⟩
  onePublicPeer := by
    have noLatePeer := described.noLatePeer
    clear described
    unfold NoPeerAfterPublicKey
    induction related with
    | nil =>
        exact .nil
    | @cons item line items lines first later inductionHypothesis =>
        rw [List.pairwise_cons] at noLatePeer ⊢
        refine ⟨?_, inductionHypothesis noLatePeer.2⟩
        intro other member publicKey peer
        have seen := first.reads.publicKeyLine publicKey
        have notHeader :
            ∀ item, item ∈ items → item ≠ .header .peer :=
          fun item inItems => noLatePeer.1 item inItems seen
        clear noLatePeer inductionHypothesis first
        induction later with
        | nil =>
            cases member
        | cons head _ rest =>
            rw [List.forall_mem_cons] at notHeader
            rcases List.mem_cons.mp member with rfl | inRest
            · exact notHeader.1 (head.reads.peerHeader peer)
            · exact rest inRest notHeader.2
  address := by
    rw [latest_eq_getLast?,
      filterMap_eq_of_itemLines related fun _ _ reads => reads.address,
      described.address]
    rfl
  privateKey := by
    rw [latest_eq_getLast?,
      filterMap_eq_of_itemLines related fun _ _ reads => reads.privateKey,
      described.privateKey]
    rfl
  peerPublicKey := by
    rw [latest_eq_getLast?,
      filterMap_eq_of_itemLines related fun _ _ reads => reads.publicKey,
      described.publicKey]
    rfl
  presharedKey := by
    rw [latest_eq_getLast?,
      filterMap_eq_of_itemLines related fun _ _ reads => reads.presharedKey,
      described.presharedKey]
    cases profile.presharedKey <;> rfl
  endpoint := by
    rw [latest_eq_getLast?,
      filterMap_eq_of_itemLines related fun _ _ reads => reads.endpoint,
      described.endpoint]
    rfl
  allowedIps := by
    rw [← described.allowedIps]
    clear described
    induction related with
    | nil =>
        rfl
    | cons first _ inductionHypothesis =>
        rw [List.flatMap_cons, List.flatMap_cons, first.reads.allowedIps,
          inductionHypothesis]
  someAllowedIps := nonempty
  persistentKeepalive := by
    rw [latest_eq_getLast?,
      filterMap_eq_of_itemLines related
        fun _ _ reads => reads.persistentKeepalive,
      described.persistentKeepalive]
    cases profile.persistentKeepalive <;> rfl

/-- Networks that no line of a section lists are missing there. -/
theorem flatMap_networks_eq_nil_of_writesAll
    {decoder : ProfileDecoder}
    {current : Section}
    {items : List ProfileItem}
    {lines : List (List Char)}
    (notPeer : current ≠ .peer)
    (written : WritesAll decoder current items lines) :
    items.flatMap ProfileItem.networks = [] := by
  induction written with
  | nil =>
      rfl
  | @cons item line _ _ first _ inductionHypothesis =>
      have silent : item.networks = [] := by
        cases first <;> first | rfl | exact (notPeer rfl).elim
      rw [List.flatMap_cons, silent, inductionHypothesis]
      rfl

/-- A late peer header is missing when one opens the only peer section. -/
theorem noLatePeer_of_split
    {front back : List ProfileItem}
    (silent : front.filterMap ProfileItem.publicKey? = [])
    (headerless : .header .peer ∉ back) :
    (front ++ .header .peer :: back).Pairwise fun earlier later =>
      earlier.publicKey?.isSome → ¬ later = .header .peer := by
  rw [List.filterMap_eq_nil_iff] at silent
  have early
      {earlier : ProfileItem}
      (member : earlier ∈ front) :
      ¬ earlier.publicKey?.isSome := by
    simp [silent earlier member]
  have late
      {later : ProfileItem}
      (member : later ∈ back) :
      ¬ later = .header .peer :=
    fun same => headerless (same ▸ member)
  rw [List.pairwise_append, List.pairwise_cons]
  refine ⟨?_, ⟨?_, ?_⟩, ?_⟩
  · exact List.pairwise_of_forall_mem_list
      fun earlier member _ _ publicKey => (early member publicKey).elim
  · exact fun later member _ => late member
  · exact List.pairwise_of_forall_mem_list
      fun _ _ later member _ => late member
  · exact fun earlier member _ _ publicKey => (early member publicKey).elim

/-- No line inside a section says a header. -/
theorem header_not_mem_of_writesAll
    {decoder : ProfileDecoder}
    {current opened : Section}
    {items : List ProfileItem}
    {lines : List (List Char)}
    (written : WritesAll decoder current items lines) :
    .header opened ∉ items := by
  induction written with
  | nil =>
      simp
  | cons first _ inductionHypothesis =>
      intro member
      rcases List.mem_cons.mp member with rfl | later
      · cases first
      · exact inductionHypothesis later

/-- Headers contribute nothing between two sections. -/
theorem filterMap_sections
    {Value : Type}
    {contribution : ProfileItem → Option Value}
    (silent : ∀ opened, contribution (.header opened) = none)
    (before first second : List ProfileItem)
    (firstOpened secondOpened : Section) :
    (before ++ .header firstOpened ::
        (first ++ .header secondOpened :: second)).filterMap contribution =
      before.filterMap contribution ++
        (first.filterMap contribution ++ second.filterMap contribution) := by
  rw [List.filterMap_append, List.filterMap_cons_none (silent firstOpened),
    List.filterMap_append, List.filterMap_cons_none (silent secondOpened)]

section Sections

variable {decoder : ProfileDecoder}
variable {profile : WireGuardProfile}
variable {before interfaceItems peerItems : List ProfileItem}
variable {preamble interfaceBody peerBody : List (List Char)}
variable {interfaceHeader peerHeader : List Char}

/-- The items of the two sections describe the profile in either order. -/
theorem itemsDescribe_of_sections
    (start : WritesAll decoder .none before preamble)
    (interface :
      InterfaceSection decoder profile interfaceHeader interfaceItems
        interfaceBody)
    (peer : PeerSection decoder profile peerHeader peerItems peerBody) :
    ItemsDescribe
        (before ++ .header .interface ::
          (interfaceItems ++ .header .peer :: peerItems))
        profile ∧
      ItemsDescribe
        (before ++ .header .peer ::
          (peerItems ++ .header .interface :: interfaceItems))
        profile := by
  have startSilent
      {Value : Type}
      {contribution : ProfileItem → Option Value}
      (filler : contribution .filler = none)
      (unknown : contribution .unknown = none) :
      before.filterMap contribution = [] := by
    apply filterMap_eq_nil_of_writesAll start
    intro item line writes
    cases writes
    · exact filler
    · exact unknown
  have interfaceSilent
      {Value : Type}
      {contribution : ProfileItem → Option Value}
      (silent :
        ∀ item line,
          Writes decoder .interface item line → contribution item = none) :
      interfaceItems.filterMap contribution = [] :=
    filterMap_eq_nil_of_writesAll interface.written silent
  have peerSilent
      {Value : Type}
      {contribution : ProfileItem → Option Value}
      (silent :
        ∀ item line,
          Writes decoder .peer item line → contribution item = none) :
      peerItems.filterMap contribution = [] :=
    filterMap_eq_nil_of_writesAll peer.written silent
  have address :
      peerItems.filterMap ProfileItem.address? = [] :=
    peerSilent (by intro _ _ writes; cases writes <;> rfl)
  have privateKey :
      peerItems.filterMap ProfileItem.privateKey? = [] :=
    peerSilent (by intro _ _ writes; cases writes <;> rfl)
  have publicKey :
      interfaceItems.filterMap ProfileItem.publicKey? = [] :=
    interfaceSilent (by intro _ _ writes; cases writes <;> rfl)
  have presharedKey :
      interfaceItems.filterMap ProfileItem.presharedKey? = [] :=
    interfaceSilent (by intro _ _ writes; cases writes <;> rfl)
  have endpoint :
      interfaceItems.filterMap ProfileItem.endpoint? = [] :=
    interfaceSilent (by intro _ _ writes; cases writes <;> rfl)
  have keepalive :
      interfaceItems.filterMap ProfileItem.keepalive? = [] :=
    interfaceSilent (by intro _ _ writes; cases writes <;> rfl)
  have startNetworks :=
    flatMap_networks_eq_nil_of_writesAll (by decide) start
  have interfaceNetworks :=
    flatMap_networks_eq_nil_of_writesAll (by decide) interface.written
  have startPublicKey : before.filterMap ProfileItem.publicKey? = [] :=
    startSilent rfl rfl
  have noInterfaceHeader :
      .header .peer ∉ interfaceItems :=
    header_not_mem_of_writesAll interface.written
  have noPeerHeader :
      .header .peer ∉ peerItems :=
    header_not_mem_of_writesAll peer.written
  constructor
  · constructor
    · rw [filterMap_sections fun _ => rfl, startSilent rfl rfl,
        interface.address, address]
      rfl
    · rw [filterMap_sections fun _ => rfl, startSilent rfl rfl,
        interface.privateKey, privateKey]
      rfl
    · rw [filterMap_sections fun _ => rfl, startSilent rfl rfl,
        publicKey, peer.publicKey]
      rfl
    · rw [filterMap_sections fun _ => rfl, startSilent rfl rfl,
        presharedKey, peer.presharedKey]
      rfl
    · rw [filterMap_sections fun _ => rfl, startSilent rfl rfl,
        endpoint, peer.endpoint]
      rfl
    · simp [ProfileItem.networks, startNetworks, interfaceNetworks,
        peer.allowedIps]
    · rw [filterMap_sections fun _ => rfl, startSilent rfl rfl,
        keepalive, peer.persistentKeepalive]
      rfl
    · rw [← List.cons_append, ← List.append_assoc]
      apply noLatePeer_of_split _ noPeerHeader
      rw [List.filterMap_append, startPublicKey,
        List.filterMap_cons_none rfl, publicKey]
      rfl
  · constructor
    · rw [filterMap_sections fun _ => rfl, startSilent rfl rfl,
        address, interface.address]
      rfl
    · rw [filterMap_sections fun _ => rfl, startSilent rfl rfl,
        privateKey, interface.privateKey]
      rfl
    · rw [filterMap_sections fun _ => rfl, startSilent rfl rfl,
        peer.publicKey, publicKey,
        List.append_nil]
      rfl
    · rw [filterMap_sections fun _ => rfl, startSilent rfl rfl,
        peer.presharedKey, presharedKey,
        List.append_nil]
      rfl
    · rw [filterMap_sections fun _ => rfl, startSilent rfl rfl,
        peer.endpoint, endpoint,
        List.append_nil]
      rfl
    · simp [ProfileItem.networks, startNetworks, interfaceNetworks,
        peer.allowedIps]
    · rw [filterMap_sections fun _ => rfl, startSilent rfl rfl,
        peer.persistentKeepalive, keepalive,
        List.append_nil]
      rfl
    · apply noLatePeer_of_split startPublicKey
      simp [noPeerHeader, noInterfaceHeader]

/-- The lines of a profile text are classified as items that describe it. -/
theorem exists_items
    {lines : List (List Char)}
    (rendering : ProfileText decoder profile lines) :
    ∃ items,
      List.Forall₂ (ItemLine decoder) items (analyse .none lines) ∧
        ItemsDescribe items profile := by
  cases rendering with
  | @interfaceFirst before interfaceItems peerItems preamble interfaceBody
      peerBody interfaceHeader peerHeader start interface peer =>
      obtain ⟨startLines, startShape, startRelated⟩ :=
        analyse_writesAll start
          (interfaceHeader :: (interfaceBody ++ peerHeader :: peerBody))
      obtain ⟨interfaceLines, interfaceShape, interfaceRelated⟩ :=
        analyse_writesAll interface.written (peerHeader :: peerBody)
      obtain ⟨peerLines, peerShape, peerRelated⟩ :=
        analyse_writesAll peer.written []
      refine ⟨_, ?_, (itemsDescribe_of_sections start interface peer).1⟩
      rw [List.append_nil, analyse, List.append_nil] at peerShape
      rw [List.append_assoc, List.cons_append, startShape,
        analyse_interfaceHeader interface.opened, interfaceShape,
        analyse_peerHeader peer.opened, peerShape]
      exact List.rel_append startRelated
        (.cons .interface
          (List.rel_append interfaceRelated (.cons .peer peerRelated)))
  | @peerFirst before interfaceItems peerItems preamble interfaceBody
      peerBody interfaceHeader peerHeader start interface peer =>
      obtain ⟨startLines, startShape, startRelated⟩ :=
        analyse_writesAll start
          (peerHeader :: (peerBody ++ interfaceHeader :: interfaceBody))
      obtain ⟨peerLines, peerShape, peerRelated⟩ :=
        analyse_writesAll peer.written (interfaceHeader :: interfaceBody)
      obtain ⟨interfaceLines, interfaceShape, interfaceRelated⟩ :=
        analyse_writesAll interface.written []
      refine ⟨_, ?_, (itemsDescribe_of_sections start interface peer).2⟩
      rw [List.append_nil, analyse, List.append_nil] at interfaceShape
      rw [List.append_assoc, List.cons_append, startShape,
        analyse_peerHeader peer.opened, peerShape,
        analyse_interfaceHeader interface.opened, interfaceShape]
      exact List.rel_append startRelated
        (.cons .peer
          (List.rel_append peerRelated (.cons .interface interfaceRelated)))

end Sections

/-- A carriage return at the end of a line is stripped with the blanks. -/
theorem stripLine_stripCarriageReturn
    (line : List Char) :
    stripLine (Text.stripCarriageReturn line) = stripLine line := by
  unfold Text.stripCarriageReturn
  split
  · rename_i returned
    obtain ⟨kept, rfl⟩ := List.getLast?_eq_some_iff.mp returned
    rw [List.dropLast_concat]
    by_cases commented : '#' ∈ kept
    · obtain ⟨text, comment, rfl, noComment⟩ :=
        List.eq_append_cons_of_mem commented
      rw [stripLine, stripLine, List.append_assoc, List.cons_append,
        Text.before_append_cons noComment, Text.before_append_cons noComment]
    · have noComment : '#' ∉ kept ++ ['\r'] := by
        simp [commented]
      rw [stripLine, stripLine, Text.before_of_not_mem commented,
        Text.before_of_not_mem noComment]
      have blank : Text.Blank ['\r'] := by
        intro char member
        rw [List.mem_singleton.mp member]
        rfl
      exact (Text.trim_surrounded Text.blank_nil blank kept).symm
  · rfl

/-- The lines of a written text are the lines it was made of, once stripped. -/
theorem map_stripLine_of_writtenLines
    {lines : List (List Char)}
    {text : List Char}
    (written : WrittenLines lines text) :
    (Text.lines text).map stripLine = lines.map stripLine := by
  induction written with
  | empty =>
      rfl
  | unended nonempty feedless =>
      rw [Text.lines_of_feedless nonempty feedless]
  | feed feedless _ inductionHypothesis =>
      rw [Text.lines_line_feed feedless, List.map_cons, List.map_cons,
        stripLine_stripCarriageReturn, inductionHypothesis]
  | @returnFeed line text rest feedless _ inductionHypothesis =>
      have returned : '\n' ∉ line ++ ['\r'] := by
        simp [feedless]
      have stripped :
          Text.stripCarriageReturn (line ++ ['\r']) = line := by
        simp [Text.stripCarriageReturn]
      rw [List.append_cons, Text.lines_line_feed returned, List.map_cons,
        List.map_cons, stripped, inductionHypothesis]

/-- A line is classified by what is left of it once stripped. -/
theorem analyse_congr
    {lines others : List (List Char)}
    (stripped : lines.map stripLine = others.map stripLine)
    (current : Section) :
    analyse current lines = analyse current others := by
  induction lines generalizing others current with
  | nil =>
      rw [List.map_nil, eq_comm, List.map_eq_nil_iff] at stripped
      rw [stripped]
  | cons line rest inductionHypothesis =>
      obtain _ | ⟨other, otherRest⟩ := others
      · cases stripped
      · rw [List.map_cons, List.map_cons, List.cons.injEq] at stripped
        have same : classify current line = classify current other := by
          simp only [classify, stripped.1]
        rw [analyse, analyse, same, inductionHypothesis stripped.2]

/-- Parsing recovers the profile from every rendering of it. -/
theorem parse_of_profileText
    {decoder : ProfileDecoder}
    {profile : WireGuardProfile}
    {lines : List (List Char)}
    {text : List Char}
    (nonempty : profile.allowedIps ≠ [])
    (rendering : ProfileText decoder profile lines)
    (written : WrittenLines lines text) :
    WireGuardProfile.parse decoder text = .ok profile := by
  obtain ⟨items, related, described⟩ := exists_items rendering
  have sameLines : profileLines text = analyse .none lines :=
    analyse_congr (map_stripLine_of_writtenLines written) .none
  rw [parse_ok_iff, sameLines]
  exact describes_of_items related described nonempty

/-- An assignment without blanks around it. -/
theorem AssignmentText.bare
    {key value line : List Char}
    {gap lead comment : List Char}
    (blankGap : Text.Blank gap)
    (blankLead : Text.Blank lead)
    (isComment : IsComment comment)
    (shape : line = (key ++ gap) ++ '=' :: (lead ++ value) ++ comment) :
    AssignmentText key value line := by
  have written :
      AssignmentText key value
        (([] ++ key ++ gap) ++ '=' :: (lead ++ value ++ []) ++ comment) :=
    .mk Text.blank_nil blankGap blankLead Text.blank_nil isComment
  simpa [shape] using written

/-- Joined lines are written lines. -/
theorem writtenLines_joinLines
    {lines : List String}
    (feedless : ∀ line, line ∈ lines → '\n' ∉ line.toList) :
    WrittenLines (lines.map String.toList) (joinLines lines) := by
  induction lines with
  | nil =>
      exact .empty
  | cons line rest inductionHypothesis =>
      rw [List.forall_mem_cons] at feedless
      have written :=
        WrittenLines.feed feedless.1 (inductionHypothesis feedless.2)
      simpa [joinLines] using written

/-- The lines of a profile whose peer section comes first. -/
def peerFirstLines : List String :=
  [
    "# home",
    "[Peer]\r",
    "AllowedIPs = 10.0.0.0/25 ,10.0.1.0/25",
    "PublicKey=AAAAAAAAAAAAAAAAAAAAAAAAAAAAAAAAAAAAAAAAAAE=",
    "Endpoint = first.example:51820# here",
    "[Interface]",
    "WakerFritzIP = 10.0.0.1",
    "Address = 10.0.0.2/25",
    "PrivateKey = AAAAAAAAAAAAAAAAAAAAAAAAAAAAAAAAAAAAAAAAAAA="
  ]

/-- The profile those lines are a rendering of. -/
def peerFirstProfile : WireGuardProfile where
  address := ⟨⟨10, 0, 0, 2⟩, 25, by decide⟩
  privateKey := ⟨List.replicate 32 0, rfl⟩
  peerPublicKey := ⟨List.replicate 31 0 ++ [1], rfl⟩
  presharedKey := none
  endpoint := "first.example:51820".toList
  allowedIps :=
    [.v4 ⟨⟨10, 0, 0, 0⟩, 25, by decide⟩, .v4 ⟨⟨10, 0, 1, 0⟩, 25, by decide⟩]
  persistentKeepalive := none

/-- The interface section of those lines. -/
theorem peerFirst_interface :
    InterfaceSection standardDecoder peerFirstProfile "[Interface]".toList
      [.unknown, .address peerFirstProfile.address,
        .privateKey peerFirstProfile.privateKey]
      ((peerFirstLines.drop 6).map String.toList) where
  opened := .self _
  written := by
    have network :
        List.Forall₂ (NetworkText standardDecoder)
          [.v4 peerFirstProfile.address] ["10.0.0.2/25".toList] :=
      .cons ⟨by decide, by decide, by decide⟩ .nil
    have listed : ListText ["10.0.0.2/25".toList] "10.0.0.2/25".toList :=
      ⟨["10.0.0.2/25".toList], rfl,
        .cons ⟨[], [], by decide, by decide, by decide⟩ .nil⟩
    have spaced : Text.Blank [' '] := by decide
    apply List.Forall₂.cons
    · exact @Writes.unknown _ _ "WakerFritzIP".toList "10.0.0.1".toList _
        (by decide) (by decide) (by decide)
        (by decide) (.bare spaced spaced (.inl rfl) (by decide))
    apply List.Forall₂.cons
    · exact @Writes.address _ [] _ _ _ _ network listed
        (.bare spaced spaced (.inl rfl) (by decide))
    apply List.Forall₂.cons _ .nil
    exact @Writes.privateKey _ _
      "AAAAAAAAAAAAAAAAAAAAAAAAAAAAAAAAAAAAAAAAAAA=".toList _
      ⟨by decide, by decide⟩
      (.bare spaced spaced (.inl rfl) (by decide))
  address := rfl
  privateKey := rfl

/-- The peer section of those lines. -/
theorem peerFirst_peer :
    PeerSection standardDecoder peerFirstProfile "[Peer]\r".toList
      [.allowedIps peerFirstProfile.allowedIps,
        .publicKey peerFirstProfile.peerPublicKey,
        .endpoint peerFirstProfile.endpoint]
      (((peerFirstLines.take 5).drop 2).map String.toList) where
  opened := @LineText.mk _ [] ['\r'] [] (by decide) (by decide) (by decide)
  written := by
    have networks :
        List.Forall₂ (NetworkText standardDecoder)
          peerFirstProfile.allowedIps
          ["10.0.0.0/25".toList, "10.0.1.0/25".toList] :=
      .cons ⟨by decide, by decide, by decide⟩
        (.cons ⟨by decide, by decide, by decide⟩
          .nil)
    have listed :
        ListText ["10.0.0.0/25".toList, "10.0.1.0/25".toList]
          "10.0.0.0/25 ,10.0.1.0/25".toList :=
      ⟨["10.0.0.0/25 ".toList, "10.0.1.0/25".toList], by decide,
        .cons ⟨[], [' '], by decide, by decide, by decide⟩
          (.cons ⟨[], [], by decide, by decide, by decide⟩ .nil)⟩
    have spaced : Text.Blank [' '] := by decide
    apply List.Forall₂.cons
    · exact .allowedIps (by decide) networks listed
        (.bare spaced spaced (.inl rfl) (by decide))
    apply List.Forall₂.cons
    · exact @Writes.publicKey _ _
        "AAAAAAAAAAAAAAAAAAAAAAAAAAAAAAAAAAAAAAAAAAE=".toList _
        ⟨by decide, by decide⟩
        (.bare Text.blank_nil Text.blank_nil (.inl rfl) (by decide))
    apply List.Forall₂.cons _ .nil
    exact .endpoint (by decide)
      (.bare spaced spaced (.inr ⟨" here".toList, rfl⟩) (by decide))
  publicKey := rfl
  presharedKey := rfl
  endpoint := rfl
  allowedIps := rfl
  persistentKeepalive := rfl

/-- Those lines are read back as their profile. -/
theorem parse_peerFirstLines :
    WireGuardProfile.parse standardDecoder (joinLines peerFirstLines) =
      .ok peerFirstProfile := by
  have comment : LineText [] "# home".toList :=
    @LineText.mk [] [] [] _ (by decide) (by decide)
      (.inr ⟨" home".toList, rfl⟩)
  have rendering :
      ProfileText standardDecoder peerFirstProfile
        (peerFirstLines.map String.toList) :=
    .peerFirst (.cons (.filler comment) .nil) peerFirst_interface
      peerFirst_peer
  exact parse_of_profileText (by decide) rendering
    (writtenLines_joinLines (by decide))

end Waker
