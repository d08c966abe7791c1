import Waker.ProfileRendering

namespace Waker

/-!
# How the lines of a rendering are read

Each line of a rendering is classified as the item it was written for, and
contributes exactly what that item says.
-/

/-- A character other than a blank does not come in with blanks. -/
theorem not_mem_between
    (char : Char)
    (solid : Text.isWhitespace char = false)
    {before text after : List Char}
    (blankBefore : Text.Blank before)
    (absent : char ∉ text)
    (blankAfter : Text.Blank after) :
    char ∉ before ++ text ++ after := by
  have notBlank
      {blanks : List Char}
      (blank : Text.Blank blanks) :
      char ∉ blanks := by
    intro member
    rw [blank char member] at solid
    cases solid
  rw [List.mem_append, List.mem_append, not_or, not_or]
  exact ⟨⟨notBlank blankBefore, absent⟩, notBlank blankAfter⟩

/-- A comment is cut off the text before it. -/
theorem before_comment
    {text comment : List Char}
    (noComment : '#' ∉ text)
    (isComment : IsComment comment) :
    Text.before '#' (text ++ comment) = text := by
  rcases isComment with rfl | ⟨rest, rfl⟩
  · rw [List.append_nil, Text.before_of_not_mem noComment]
  · exact Text.before_append_cons noComment

/-- A line that is nothing but its text. -/
theorem LineText.self
    (text : List Char) :
    LineText text text := by
  have written : LineText text ([] ++ text ++ [] ++ []) :=
    .mk Text.blank_nil Text.blank_nil (.inl rfl)
  simpa using written

/-- A line is stripped to its text. -/
theorem stripLine_of_lineText
    {text line : List Char}
    (plain : IsPlain text)
    (written : LineText text line) :
    stripLine line = text := by
  cases written with
  | mk blankBefore blankAfter isComment =>
      have noComment :=
        not_mem_between '#' (by decide) blankBefore plain.noComment blankAfter
      rw [stripLine, before_comment noComment isComment,
        Text.trim_padded blankBefore plain.trimmed blankAfter]

/-- An assignment is split into its key and its value. -/
theorem splitOnce_of_assignmentText
    {key value line : List Char}
    (plain : IsPlain key)
    (noEquals : '=' ∉ key)
    (noComment : '#' ∉ value)
    (written : AssignmentText key value line) :
    ∃ name text,
      Text.splitOnce '=' (stripLine line) = some (name, text) ∧
        Text.trim name = key ∧
        Text.trim text = Text.trim value := by
  cases written with
  | mk blankBefore blankGap blankLead blankAfter isComment =>
      rename_i before gap lead after comment
      have leftComment : '#' ∉ before ++ key ++ gap :=
        not_mem_between '#' (by decide) blankBefore plain.noComment blankGap
      have rightComment : '#' ∉ lead ++ value ++ after :=
        not_mem_between '#' (by decide) blankLead noComment blankAfter
      have wholeComment :
          '#' ∉ (before ++ key ++ gap) ++ '=' :: (lead ++ value ++ after) := by
        rw [List.mem_append, List.mem_cons, not_or, not_or]
        exact ⟨leftComment, by decide, rightComment⟩
      have leftEquals : '=' ∉ Text.trimStart (before ++ key ++ gap) :=
        fun member =>
          not_mem_between '=' (by decide) blankBefore noEquals blankGap
            ((List.dropWhile_sublist Text.isWhitespace).subset member)
      refine ⟨Text.trimStart (before ++ key ++ gap),
        Text.trimEnd (lead ++ value ++ after), ?_, ?_, ?_⟩
      · rw [stripLine, before_comment wholeComment isComment,
          Text.trim_append_cons (by decide)]
        exact Text.splitOnce_append_cons leftEquals
      · rw [Text.trim_trimStart,
          Text.trim_padded blankBefore plain.trimmed blankGap]
      · rw [Text.trim_trimEnd, Text.trim_surrounded blankLead blankAfter]

/-- The keys of fields may stand before an equals sign. -/
theorem plain_key
    (field : ProfileField) :
    IsPlain field.key ∧ '=' ∉ field.key := by
  cases field <;> decide

/-- A line that assigns a field in its section is classified so. -/
theorem classify_of_field
    {field : ProfileField}
    {value line : List Char}
    (noComment : '#' ∉ value)
    (written : AssignmentText field.key value line) :
    classify field.home line = .assignment field (Text.trim value) := by
  obtain ⟨plain, noEquals⟩ := plain_key field
  obtain ⟨name, text, found, nameKey, textValue⟩ :=
    splitOnce_of_assignmentText plain noEquals noComment written
  have known : field? field.home field.key = some field :=
    field?_eq_some_iff.mpr ⟨rfl, rfl⟩
  rw [classify_of_splitOnce found, nameKey, known, textValue]

/-- Blanks before a list belong to its first entry. -/
theorem entries_blank_append
    {blanks : List Char}
    (blank : Text.Blank blanks)
    (value : List Char) :
    entries (blanks ++ value) = entries value := by
  have noComma
      {part : List Char}
      (absent : ',' ∉ part) :
      ',' ∉ blanks ++ part := by
    have between :=
      not_mem_between ',' (by decide) blank absent Text.blank_nil
    rwa [List.append_nil] at between
  have trimmed
      (part : List Char) :
      Text.trim (blanks ++ part) = Text.trim part := by
    have surrounded := Text.trim_surrounded blank Text.blank_nil part
    rwa [List.append_nil] at surrounded
  unfold entries Text.split
  induction value using Text.cutInduction ',' with
  | last part absent =>
      rw [List.splitOn_eq_singleton absent,
        List.splitOn_eq_singleton (noComma absent)]
      simp [trimmed]
  | more part rest absent _ =>
      rw [List.splitOn_append_cons_self_of_not_mem absent,
        ← List.append_assoc,
        List.splitOn_append_cons_self_of_not_mem (noComma absent)]
      simp [trimmed]

/-- Blanks after a list belong to its last entry. -/
theorem entries_append_blank
    {blanks : List Char}
    (blank : Text.Blank blanks)
    (value : List Char) :
    entries (value ++ blanks) = entries value := by
  unfold entries Text.split
  induction value using Text.cutInduction ',' with
  | last part absent =>
      have noComma : ',' ∉ part ++ blanks :=
        not_mem_between ',' (by decide) Text.blank_nil absent blank
      have trimmed : Text.trim (part ++ blanks) = Text.trim part :=
        Text.trim_surrounded Text.blank_nil blank part
      rw [List.splitOn_eq_singleton absent,
        List.splitOn_eq_singleton noComma]
      simp [trimmed]
  | more part rest absent inductionHypothesis =>
      rw [List.append_assoc, List.cons_append,
        List.splitOn_append_cons_self_of_not_mem absent,
        List.splitOn_append_cons_self_of_not_mem absent, List.map_cons,
        List.map_cons, inductionHypothesis]

/-- The entries of a list do not depend on blanks around it. -/
theorem entries_trim
    (value : List Char) :
    entries (Text.trim value) = entries value := by
  obtain ⟨before, after, blankBefore, blankAfter, shape⟩ :=
    Text.exists_trim value
  calc entries (Text.trim value)
      = entries (before ++ Text.trim value) :=
        (entries_blank_append blankBefore _).symm
    _ = entries (before ++ Text.trim value ++ after) :=
        (entries_append_blank blankAfter _).symm
    _ = entries value := by
        rw [← shape]

/-- The entries of a written list are its texts. -/
theorem entries_of_listText
    {texts : List (List Char)}
    {value : List Char}
    (plain : ∀ text, text ∈ texts → Text.Trimmed text ∧ ',' ∉ text)
    (nonempty : texts ≠ [])
    (listed : ListText texts value) :
    entries (Text.trim value) = texts := by
  obtain ⟨padded, rfl, written⟩ := listed
  have facts :
      (∀ part, part ∈ padded → ',' ∉ part) ∧
        padded.map Text.trim = texts := by
    clear nonempty
    induction written with
    | nil =>
        simp
    | cons first _ inductionHypothesis =>
        rw [List.forall_mem_cons] at plain
        obtain ⟨before, after, blankBefore, blankAfter, rfl⟩ := first
        obtain ⟨noCommas, trimmed⟩ := inductionHypothesis plain.2
        constructor
        · rw [List.forall_mem_cons]
          exact ⟨not_mem_between ',' (by decide) blankBefore plain.1.2
            blankAfter, noCommas⟩
        · rw [List.map_cons, trimmed,
            Text.trim_padded blankBefore plain.1.1 blankAfter]
  have someParts : padded ≠ [] := by
    rintro rfl
    exact nonempty facts.2.symm
  rw [entries_trim, entries, Text.split_join facts.1 someParts, facts.2]

/-- A list whose entries contain no comment sign contains none. -/
theorem noComment_of_listText
    {texts : List (List Char)}
    {value : List Char}
    (noComment : ∀ text, text ∈ texts → '#' ∉ text)
    (listed : ListText texts value) :
    '#' ∉ value := by
  obtain ⟨padded, rfl, written⟩ := listed
  have clean : ∀ part, part ∈ padded → '#' ∉ part := by
    induction written with
    | nil =>
        simp
    | cons first _ inductionHypothesis =>
        rw [List.forall_mem_cons] at noComment ⊢
        obtain ⟨before, after, blankBefore, blankAfter, rfl⟩ := first
        exact ⟨not_mem_between '#' (by decide) blankBefore noComment.1
            blankAfter,
          inductionHypothesis noComment.2⟩
  intro member
  rcases Text.mem_join member with isComma | ⟨part, isPart, inPart⟩
  · exact absurd isComma (by decide)
  · exact clean part isPart inPart

/-- A key text is parsed to its key. -/
theorem parseKey_of_keyText
    {decoder : ProfileDecoder}
    {key : WireGuardKey}
    {text : List Char}
    (encoded : KeyText decoder key text) :
    parseKey decoder text = .ok key := by
  simp only [parseKey, encoded.decoded]
  rw [dif_pos key.length_eq]

section NetworkTexts

variable {decoder : ProfileDecoder}
variable {texts : List (List Char)}

/-- The texts of networks are the entries of their list. -/
theorem entries_of_networkTexts
    {networks : List IpNetwork}
    {value : List Char}
    (written : List.Forall₂ (NetworkText decoder) networks texts)
    (nonempty : networks ≠ [])
    (listed : ListText texts value) :
    entries (Text.trim value) = texts ∧ '#' ∉ value := by
  have facts :
      ∀ text, text ∈ texts → IsPlain text ∧ ',' ∉ text := by
    clear nonempty listed
    induction written with
    | nil =>
        simp
    | cons first _ inductionHypothesis =>
        rw [List.forall_mem_cons]
        exact ⟨⟨first.plain, first.noComma⟩, inductionHypothesis⟩
  have someTexts : texts ≠ [] := by
    rintro rfl
    cases written
    exact nonempty rfl
  constructor
  · apply entries_of_listText _ someTexts listed
    exact fun text member => ⟨(facts text member).1.trimmed,
      (facts text member).2⟩
  · apply noComment_of_listText _ listed
    exact fun text member => (facts text member).1.noComment

/-- IPv6 networks are skipped on the way to the IPv4 network. -/
theorem firstIpv4_of_networkTexts
    {before : List Ipv6Network}
    {network : Ipv4Network}
    (written :
      List.Forall₂ (NetworkText decoder)
        (before.map IpNetwork.v6 ++ [.v4 network]) texts) :
    firstIpv4 decoder texts = some network := by
  induction before generalizing texts with
  | nil =>
      obtain _ | ⟨first, _⟩ := written
      simp [firstIpv4, first.decoded]
  | cons skipped rest inductionHypothesis =>
      obtain _ | ⟨first, later⟩ := written
      simp only [firstIpv4, first.decoded]
      exact inductionHypothesis later

/-- All networks of a list are parsed, in order. -/
theorem parseAllowedIps_of_networkTexts
    {networks : List IpNetwork}
    (written : List.Forall₂ (NetworkText decoder) networks texts) :
    parseAllowedIps decoder texts = .ok networks := by
  induction written with
  | nil =>
      rfl
  | cons first _ inductionHypothesis =>
      simp only [parseAllowedIps, first.decoded, inductionHypothesis]
      rfl

end NetworkTexts

/-- The section in force after an item. -/
def ProfileItem.nextSection
    (item : ProfileItem)
    (current : Section) : Section :=
  match item with
  | .header opened => opened
  | _ => current

/-- How a line that says an item is classified. -/
inductive ItemLine
    (decoder : ProfileDecoder) : ProfileItem → ProfileLine → Prop where
  | filler :
      ItemLine decoder .filler .blank
  | interface :
      ItemLine decoder (.header .interface) .interface
  | peer :
      ItemLine decoder (.header .peer) .peer
  | unknown :
      ItemLine decoder .unknown .ignored
  | address
      {network : Ipv4Network}
      {value : List Char}
      (found : firstIpv4 decoder (entries value) = some network) :
      ItemLine decoder (.address network) (.assignment .address value)
  | privateKey
      {key : WireGuardKey}
      {value : List Char}
      (parsed : parseKey decoder value = .ok key) :
      ItemLine decoder (.privateKey key) (.assignment .privateKey value)
  | publicKey
      {key : WireGuardKey}
      {value : List Char}
      (parsed : parseKey decoder value = .ok key) :
      ItemLine decoder (.publicKey key) (.assignment .publicKey value)
  | presharedKey
      {key : WireGuardKey}
      {value : List Char}
      (parsed : parseKey decoder value = .ok key) :
      ItemLine decoder (.presharedKey key) (.assignment .presharedKey value)
  | endpoint
      {value : List Char} :
      ItemLine decoder (.endpoint value) (.assignment .endpoint value)
  | allowedIps
      {networks : List IpNetwork}
      {value : List Char}
      (parsed : parseAllowedIps decoder (entries value) = .ok networks) :
      ItemLine decoder (.allowedIps networks) (.assignment .allowedIps value)
  | persistentKeepalive
      {seconds : UInt16}
      {value : List Char}
      (parsed : parseKeepalive value = .ok seconds) :
      ItemLine decoder (.persistentKeepalive seconds)
        (.assignment .persistentKeepalive value)

/-- A classified line contributes what its item says. -/
structure Reads
    (decoder : ProfileDecoder)
    (item : ProfileItem)
    (line : ProfileLine) : Prop where
  lineOk : LineOk decoder line
  address : addressOf decoder line = item.address?
  privateKey : keyOf decoder .privateKey line = item.privateKey?
  publicKey : keyOf decoder .publicKey line = item.publicKey?
  presharedKey : keyOf decoder .presharedKey line = item.presharedKey?
  endpoint : line.value? .endpoint = item.endpoint?
  allowedIps : networksOf decoder line = item.networks
  persistentKeepalive : keepaliveOf line = item.keepalive?
  nextSection : ∀ current, line.nextSection current = item.nextSection current
  peerHeader : line = .peer → item = .header .peer
  publicKeyLine :
    (line.value? .publicKey).isSome → item.publicKey?.isSome

/-- The classification of a line determines what it contributes. -/
theorem ItemLine.reads
    {decoder : ProfileDecoder}
    {item : ProfileItem}
    {line : ProfileLine}
    (itemLine : ItemLine decoder item line) :
    Reads decoder item line := by
  have lineOk : LineOk decoder line := by
    cases itemLine with
    | privateKey parsed =>
        exact parseKey_ok_iff.mp ⟨_, parsed⟩
    | publicKey parsed =>
        exact parseKey_ok_iff.mp ⟨_, parsed⟩
    | presharedKey parsed =>
        exact parseKey_ok_iff.mp ⟨_, parsed⟩
    | allowedIps parsed =>
        exact parseAllowedIps_ok_iff.mp ⟨_, parsed⟩
    | persistentKeepalive parsed =>
        exact parseKeepalive_ok_iff.mp ⟨_, parsed⟩
    | _ =>
        trivial
  cases itemLine <;> constructor <;>
    first
    | exact lineOk
    | simp_all [addressOf, keyOf, networksOf, keepaliveOf,
        ProfileLine.value?, ProfileLine.nextSection,
        ProfileItem.nextSection, ProfileItem.address?,
        ProfileItem.privateKey?, ProfileItem.publicKey?,
        ProfileItem.presharedKey?, ProfileItem.endpoint?,
        ProfileItem.networks, ProfileItem.keepalive?, Except.toOption]

/-- The text of a number may stand between blanks. -/
theorem plain_decimal
    (number : Nat) :
    IsPlain (Text.decimal number) where
  trimmed := Text.trimmed_decimal number
  noComment := by
    intro member
    cases Text.isDigit_of_mem_decimal member

/-- A written line is classified as its item. -/
theorem itemLine_of_writes
    {decoder : ProfileDecoder}
    {current : Section}
    {item : ProfileItem}
    {line : List Char}
    (writes : Writes decoder current item line) :
    ItemLine decoder item (classify current line) := by
  have keyLine
      {field : ProfileField}
      {key : WireGuardKey}
      {value : List Char}
      (encoded : KeyText decoder key value)
      (written : AssignmentText field.key value line) :
      classify field.home line = .assignment field value := by
    rw [classify_of_field encoded.plain.noComment written,
      Text.trim_eq_self encoded.plain.trimmed]
  cases writes with
  | filler written =>
      have stripped := stripLine_of_lineText (by decide) written
      have blank : classify current line = .blank := by
        simp only [classify, if_pos stripped]
      rw [blank]
      exact .filler
  | unknown plain noEquals noComment notKnown written =>
      obtain ⟨name, text, found, nameKey, -⟩ :=
        splitOnce_of_assignmentText plain noEquals noComment written
      rw [classify_of_splitOnce found, nameKey, notKnown]
      exact .unknown
  | address written listed assigned =>
      obtain ⟨texts, noComment⟩ :=
        entries_of_networkTexts written (by simp) listed
      have classified :
          classify .interface line = .assignment .address (Text.trim _) :=
        classify_of_field noComment assigned
      rw [classified]
      apply ItemLine.address
      rw [texts]
      exact firstIpv4_of_networkTexts written
  | @privateKey key value _ encoded written =>
      have classified :
          classify .interface line = .assignment .privateKey value :=
        keyLine encoded written
      rw [classified]
      exact .privateKey (parseKey_of_keyText encoded)
  | @publicKey key value _ encoded written =>
      have classified :
          classify .peer line = .assignment .publicKey value :=
        keyLine encoded written
      rw [classified]
      exact .publicKey (parseKey_of_keyText encoded)
  | @presharedKey key value _ encoded written =>
      have classified :
          classify .peer line = .assignment .presharedKey value :=
        keyLine encoded written
      rw [classified]
      exact .presharedKey (parseKey_of_keyText encoded)
  | @endpoint value _ plain written =>
      have classified :
          classify .peer line =
            .assignment .endpoint (Text.trim value) :=
        classify_of_field plain.noComment written
      rw [classified, Text.trim_eq_self plain.trimmed]
      exact .endpoint
  | allowedIps nonempty written listed assigned =>
      obtain ⟨texts, noComment⟩ :=
        entries_of_networkTexts written nonempty listed
      have classified :
          classify .peer line = .assignment .allowedIps (Text.trim _) :=
        classify_of_field noComment assigned
      rw [classified]
      apply ItemLine.allowedIps
      rw [texts]
      exact parseAllowedIps_of_networkTexts written
  | @persistentKeepalive seconds _ written =>
      have plain := plain_decimal seconds.toNat
      have classified :
          classify .peer line =
            .assignment .persistentKeepalive
              (Text.trim (Text.decimal seconds.toNat)) :=
        classify_of_field plain.noComment written
      rw [classified, Text.trim_eq_self plain.trimmed]
      apply ItemLine.persistentKeepalive
      simp only [parseKeepalive, Text.parseU16_decimal]

section Lines

variable {decoder : ProfileDecoder}
variable {current : Section}
variable {items : List ProfileItem}
variable {lines : List (List Char)}

/-- No line inside a section opens another one. -/
theorem nextSection_of_writes
    {item : ProfileItem}
    {line : List Char}
    (writes : Writes decoder current item line) :
    (classify current line).nextSection current = current := by
  rw [(itemLine_of_writes writes).reads.nextSection]
  cases writes <;> rfl

/-- The lines of a section are classified one by one. -/
theorem analyse_writesAll
    (written : WritesAll decoder current items lines)
    (rest : List (List Char)) :
    ∃ read,
      analyse current (lines ++ rest) = read ++ analyse current rest ∧
        List.Forall₂ (ItemLine decoder) items read := by
  induction written with
  | nil =>
      exact ⟨[], rfl, .nil⟩
  | cons first _ inductionHypothesis =>
      obtain ⟨read, shape, related⟩ := inductionHypothesis
      refine ⟨_ :: read, ?_, .cons (itemLine_of_writes first) related⟩
      rw [List.cons_append, analyse, nextSection_of_writes first, shape]
      rfl

/-- A line is classified like the plain text it is written from. -/
theorem classify_of_lineText
    {title line : List Char}
    (plain : IsPlain title)
    (written : LineText title line) :
    classify current line = classify current title := by
  have same : stripLine line = stripLine title := by
    rw [stripLine_of_lineText plain written,
      stripLine_of_lineText plain (.self title)]
  simp only [classify, same]

/-- An interface header opens the interface section. -/
theorem analyse_interfaceHeader
    {header : List Char}
    (opened : LineText "[Interface]".toList header)
    (rest : List (List Char)) :
    analyse current (header :: rest) =
      .interface :: analyse .interface rest := by
  have classified : classify current header = .interface :=
    (classify_of_lineText (by decide) opened).trans
      (by cases current <;> decide)
  rw [analyse, classified]
  rfl

/-- A peer header opens the peer section. -/
theorem analyse_peerHeader
    {header : List Char}
    (opened : LineText "[Peer]".toList header)
    (rest : List (List Char)) :
    analyse current (header :: rest) = .peer :: analyse .peer rest := by
  have classified : classify current header = .peer :=
    (classify_of_lineText (by decide) opened).trans
      (by cases current <;> decide)
  rw [analyse, classified]
  rfl

/-- A contribution that no line of a section makes is missing there. -/
theorem filterMap_eq_nil_of_writesAll
    {Value : Type}
    {contribution : ProfileItem → Option Value}
    (written : WritesAll decoder current items lines)
    (silent :
      ∀ item line,
        Writes decoder current item line → contribution item = none) :
    items.filterMap contribution = [] := by
  induction written with
  | nil =>
      rfl
  | cons first _ inductionHypothesis =>
      rw [List.filterMap_cons_none (silent _ _ first), inductionHypothesis]

end Lines

end Waker
