import Waker.AddressText
import Waker.LabFritz

namespace Waker

/-!
# The client and the lab server agree

However the bytes of a request are cut into pieces, the server stops reading
with the last of them, recognises the action of the request, and answers with
what the client expects.
-/

/-- A message whose head announces the length of its body. -/
structure Announced (lines : List (List Char)) (body : List Char) : Prop where
  ascii : Utf8.IsAscii (Http.head lines ++ body)
  nonempty : lines ≠ []
  separate : Http.HeadLines '\r' lines
  feedless : ∀ line, line ∈ lines → '\n' ∉ line
  announced : lines.findSome? contentLengthOf = some body.length

namespace Announced

variable {lines : List (List Char)}
variable {body : List Char}

/-- The content length is known as soon as the head has been received. -/
theorem contentLength_head
    (message : Announced lines body)
    (rest : List UInt8) :
    contentLength (Utf8.encode (Http.head lines) ++ rest) =
      some body.length := by
  have asciiHead := (Utf8.isAscii_append_iff.mp message.ascii).1
  rw [contentLength, Utf8.decodeLossy_encode_append asciiHead,
    Http.lines_head_append message.feedless, List.findSome?_append,
    message.announced]
  rfl

/-- The empty line that ends the head is the first one. -/
theorem find?_head
    (message : Announced lines body)
    (rest : List UInt8) :
    ∃ position,
      Text.find? blankLine (Utf8.encode (Http.head lines) ++ rest) =
          some position ∧
        position + 4 = (Utf8.encode (Http.head lines)).length := by
  have asciiHead := (Utf8.isAscii_append_iff.mp message.ascii).1
  have bytes :
      Utf8.encode (Http.head lines) =
        Http.headOf 13 10 (lines.map fun line => line.map Utf8.asciiByte) := by
    rw [Utf8.encode_of_isAscii asciiHead, Http.head, Http.map_headOf]
    rfl
  have separate :
      Http.HeadLines 13 (lines.map fun line => line.map Utf8.asciiByte) := by
    intro line member
    obtain ⟨text, inLines, rfl⟩ := List.mem_map.mp member
    obtain ⟨nonempty, noReturn⟩ := message.separate text inLines
    refine ⟨by simpa using nonempty, ?_⟩
    intro isReturn
    obtain ⟨char, inText, same⟩ := List.mem_map.mp isReturn
    have inHead : char ∈ Http.head lines :=
      List.mem_append_left _
        (List.mem_flatMap.mpr ⟨text, inLines, List.mem_append_left _ inText⟩)
    have decoded := Utf8.asciiChar_asciiByte (asciiHead char inHead)
    rw [same] at decoded
    subst decoded
    exact noReturn inText
  rw [bytes]
  obtain ⟨first, others, shape⟩ :
      ∃ first others, lines = first :: others :=
    List.exists_cons_of_ne_nil message.nonempty
  subst shape
  exact Http.find?_headOf (by decide) separate rest

/-- A part of the message is complete exactly when it is all of it. -/
theorem requestComplete_iff
    (message : Announced lines body)
    {received : List UInt8}
    (part : received <+: Utf8.encode (Http.head lines ++ body)) :
    requestComplete received = true ↔
      received = Utf8.encode (Http.head lines ++ body) := by
  have lengthBody : (Utf8.encode body).length = body.length :=
    Utf8.length_encode_of_isAscii (Utf8.isAscii_append_iff.mp message.ascii).2
  rw [Utf8.encode_append] at part ⊢
  constructor
  · intro complete
    unfold requestComplete at complete
    split at complete
    · rename_i position length found announced
      rw [decide_eq_true_iff] at complete
      obtain ⟨unread, shape⟩ := part
      obtain ⟨ended, foundHead, endedLength⟩ :=
        message.find?_head (Utf8.encode body)
      have same : position = ended := by
        have foundLater := Text.find?_append_right found unread
        rw [shape, foundHead] at foundLater
        exact (Option.some.inj foundLater).symm
      have headReceived : Utf8.encode (Http.head lines) <+: received := by
        apply List.prefix_of_prefix_length_le (List.prefix_append _ _)
          (shape ▸ List.prefix_append received unread)
        omega
      obtain ⟨rest, rfl⟩ := headReceived
      rw [message.contentLength_head rest] at announced
      cases announced
      have total := congrArg List.length shape
      simp only [List.length_append] at total complete
      have nothing : unread = [] := by
        apply List.eq_nil_of_length_eq_zero
        omega
      rw [← shape, nothing, List.append_nil]
    · cases complete
  · rintro rfl
    obtain ⟨position, found, length⟩ :=
      message.find?_head (Utf8.encode body)
    simp only [requestComplete, found,
      message.contentLength_head (Utf8.encode body), List.length_append,
      decide_eq_true_iff]
    omega

end Announced

/-- The loop reads on until the request is complete. -/
theorem readRequest_of_complete_iff
    {request : List UInt8}
    (complete_iff :
      ∀ received,
        received <+: request →
        (requestComplete received = true ↔ received = request))
    {chunks : List (List UInt8)}
    (nonempty : ∀ chunk, chunk ∈ chunks → chunk ≠ [])
    {received : List UInt8}
    (unfinished : received ≠ request)
    (split : received ++ chunks.flatten = request)
    (later : List ReadEvent) :
    readRequest received (chunks.map ReadEvent.bytes ++ later) =
      .request request later := by
  induction chunks generalizing received with
  | nil =>
      rw [List.flatten_nil, List.append_nil] at split
      exact (unfinished split).elim
  | cons chunk rest inductionHypothesis =>
      rw [List.forall_mem_cons] at nonempty
      rw [List.flatten_cons, ← List.append_assoc] at split
      have part : received ++ chunk <+: request :=
        ⟨rest.flatten, split⟩
      rw [List.map_cons, List.cons_append, readRequest,
        if_neg nonempty.1]
      by_cases finished : received ++ chunk = request
      · rw [if_pos ((complete_iff _ part).mpr finished), finished]
        have nothing : rest.flatten = [] := by
          rw [finished] at split
          exact List.append_right_eq_self.mp split
        have noChunks : rest = [] := by
          cases rest with
          | nil =>
              rfl
          | cons next others =>
              rw [List.flatten_cons, List.append_eq_nil_iff] at nothing
              exact (nonempty.2 next (by simp) nothing.1).elim
        rw [noChunks]
        rfl
      · have incomplete : ¬ requestComplete (received ++ chunk) = true :=
          fun complete => finished ((complete_iff _ part).mp complete)
        rw [if_neg incomplete]
        exact inductionHypothesis nonempty.2 finished split

/-- What the fixed texts of the envelope contain. -/
structure EnvelopeFacts (start stop tag name : List Char) : Prop where
  printableStart : Printable start
  printableEnd : Printable stop
  short : start.length + stop.length ≤ 1000
  noTag : Text.Clear tag start
  named : name <:+: start

/-- The envelope of every action has fixed texts of that kind. -/
theorem envelopeFacts
    (action : HostsAction) :
    EnvelopeFacts (envelopeStart action.name) (envelopeEnd action.name)
      (startTag "NewMACAddress") action.name := by
  cases action with
  | getSpecificHostEntry =>
      unfold envelopeStart envelopeEnd fritzHostsService HostsAction.name
        startTag
      repeat rw [String.toList_ofList]
      constructor <;> decide +kernel
  | wakeOnLan =>
      unfold envelopeStart envelopeEnd fritzHostsService HostsAction.name
        startTag
      repeat rw [String.toList_ofList]
      constructor <;> decide +kernel

/-- The tags around a MAC address. -/
theorem macTags :
    Printable (startTag "NewMACAddress") ∧
      Printable (endTag "NewMACAddress") ∧
      (startTag "NewMACAddress").length + (endTag "NewMACAddress").length ≤
        100 := by
  unfold startTag endTag
  repeat rw [String.toList_ofList]
  decide

/-- The body of a request is printable. -/
theorem printable_body
    (action : HostsAction)
    (mac : MacAddress) :
    Printable (fritzHostsBody action.name (macArguments mac)) := by
  have fixed := envelopeFacts action
  rw [fritzHostsBody, macArguments, element, printable_append_iff,
    printable_append_iff, printable_append_iff, printable_append_iff]
  exact ⟨⟨fixed.printableStart, macTags.1, (addressText_mac mac).printable,
    macTags.2.1⟩, fixed.printableEnd⟩

/-- A MAC address is displayed in 17 characters. -/
theorem length_display
    (mac : MacAddress) :
    mac.display.length = 17 := by
  obtain ⟨⟨⟨octets⟩, size⟩⟩ := mac
  match octets, size with
  | [a, b, c, d, e, f], _ =>
      rfl

/-- The length of a body is a machine number. -/
theorem length_body_le
    (action : HostsAction)
    (mac : MacAddress) :
    (fritzHostsBody action.name (macArguments mac)).length ≤ 2 ^ 64 - 1 := by
  have fixed := (envelopeFacts action).short
  have tags := macTags.2.2
  rw [fritzHostsBody, macArguments, element, List.length_append,
    List.length_append, List.length_append, List.length_append,
    length_display]
  omega

/-- The MAC address in the body of a request is read back. -/
theorem fieldText_body
    (action : HostsAction)
    (mac : MacAddress) :
    fieldText "NewMACAddress"
        (fritzHostsBody action.name (macArguments mac)) =
      .ok mac.display := by
  have address := addressText_mac mac
  have clearMac : Text.Clear (endTag "NewMACAddress") mac.display :=
    (clear_tags (address.not_mem (by decide)) _).2
  have read :=
    fieldText_append (envelopeFacts action).noTag clearMac
      (envelopeEnd action.name)
  rw [Text.trim_eq_self address.trimmed, ← List.append_assoc] at read
  exact read

/-- A line that does not end its name early is read by its name. -/
theorem contentLengthOf_append
    {name : List Char}
    (noColon : ':' ∉ name)
    (value : List Char) :
    contentLengthOf (name ++ ':' :: value) =
      if Text.toAsciiLowercase name =
          Text.toAsciiLowercase "Content-Length".toList then
        (Text.parseUnsigned (2 ^ 64 - 1) (Text.trim value)).toOption
      else
        none := by
  rw [contentLengthOf, Text.splitOnce_append_cons noColon]
  rfl

/-- A displayed number is read back from its line. -/
theorem contentLengthOf_decimal
    {number : Nat}
    (fits : number ≤ 2 ^ 64 - 1) :
    contentLengthOf ("Content-Length: ".toList ++ Text.decimal number) =
      some number := by
  have shape :
      "Content-Length: ".toList ++ Text.decimal number =
        "Content-Length".toList ++ ':' :: ' ' :: Text.decimal number := by
    have start :
        "Content-Length: ".toList = "Content-Length".toList ++ [':', ' '] := by
      repeat rw [String.toList_ofList]
      rfl
    rw [start, List.append_assoc]
    rfl
  have trimmed :
      Text.trim (' ' :: Text.decimal number) = Text.decimal number := by
    have blank : Text.Blank [' '] := by decide
    have padded :=
      Text.trim_padded blank (Text.trimmed_decimal number) Text.blank_nil
    rwa [List.append_nil] at padded
  rw [shape, contentLengthOf_append (by decide), if_pos rfl, trimmed,
    Text.parseUnsigned_decimal fits]
  rfl

/-- The lines of the head of a request are printable. -/
theorem printable_head
    (fritzIp : Ipv4Addr)
    (action : HostsAction)
    (bodyLength : Nat) :
    ∀ line,
      line ∈ fritzHostsHead fritzIp action.name bodyLength →
      line ≠ [] ∧ Printable line := by
  have host :
      Printable ("Host: ".toList ++ fritzIp.display.toList ++
        ":49000".toList) := by
    rw [printable_append_iff, printable_append_iff]
    exact ⟨⟨by decide, (addressText_ipv4 fritzIp).printable⟩,
      by decide⟩
  have length :
      Printable ("Content-Length: ".toList ++ Text.decimal bodyLength) := by
    rw [printable_append_iff]
    exact ⟨by decide, (addressText_decimal bodyLength).printable⟩
  have soapAction :
      Printable ("SOAPAction: \"".toList ++ fritzHostsService ++
        '#' :: action.name ++ ['"']) := by
    cases action <;> decide
  unfold fritzHostsHead
  rw [List.forall_mem_cons, List.forall_mem_cons, List.forall_mem_cons,
    List.forall_mem_cons, List.forall_mem_cons, List.forall_mem_singleton]
  exact ⟨⟨by decide, by decide⟩, ⟨by simp, host⟩,
    ⟨by decide, by decide⟩, ⟨by simp, soapAction⟩, ⟨by simp, length⟩,
    ⟨by decide, by decide⟩⟩

/-- The head of a request announces the length of its body. -/
theorem findSome?_fritzHostsHead
    (fritzIp : Ipv4Addr)
    (action : HostsAction)
    {bodyLength : Nat}
    (fits : bodyLength ≤ 2 ^ 64 - 1) :
    (fritzHostsHead fritzIp action.name bodyLength).findSome?
        contentLengthOf =
      some bodyLength := by
  have host :
      contentLengthOf ("Host: ".toList ++ fritzIp.display.toList ++
        ":49000".toList) = none := by
    have shape : "Host: ".toList = "Host".toList ++ [':', ' '] := by
      decide
    rw [shape, List.append_assoc, List.append_assoc, List.cons_append,
      contentLengthOf_append (by decide), if_neg (by decide)]
  have soapAction :
      contentLengthOf ("SOAPAction: \"".toList ++ fritzHostsService ++
        '#' :: action.name ++ ['"']) = none := by
    cases action <;> decide
  have request :
      contentLengthOf "POST /upnp/control/hosts HTTP/1.1".toList = none := by
    decide
  have contentType :
      contentLengthOf "Content-Type: text/xml; charset=\"utf-8\"".toList =
        none := by
    decide
  have skip
      {line : List Char}
      (other : contentLengthOf line = none)
      (rest : List (List Char)) :
      (line :: rest).findSome? contentLengthOf =
        rest.findSome? contentLengthOf :=
    List.findSome?_cons_of_isNone (Option.isNone_iff_eq_none.mpr other)
  rw [fritzHostsHead, skip request, skip host, skip contentType,
    skip soapAction, List.findSome?_cons, contentLengthOf_decimal fits]

/-- A request announces the length of its body. -/
theorem announced_request
    (fritzIp : Ipv4Addr)
    (action : HostsAction)
    (mac : MacAddress) :
    Announced
      (fritzHostsHead fritzIp action.name
        (Text.utf8Length (fritzHostsBody action.name (macArguments mac))))
      (fritzHostsBody action.name (macArguments mac)) := by
  have printable := printable_body action mac
  have length :
      Text.utf8Length (fritzHostsBody action.name (macArguments mac)) =
        (fritzHostsBody action.name (macArguments mac)).length := by
    rw [← Utf8.length_encode,
      Utf8.length_encode_of_isAscii printable.isAscii]
  rw [length]
  have lines := printable_head fritzIp action
    (fritzHostsBody action.name (macArguments mac)).length
  exact {
    ascii := Utf8.isAscii_append_iff.mpr
      ⟨isAscii_head fun line member => (lines line member).2,
        printable.isAscii⟩
    nonempty := List.cons_ne_nil _ _
    separate := fun line member =>
      ⟨(lines line member).1, (lines line member).2.not_mem (by decide)⟩
    feedless := fun line member => (lines line member).2.not_mem (by decide)
    announced := findSome?_fritzHostsHead fritzIp action
      (length_body_le action mac)
  }

/-- A request for a lookup contains no underscore. -/
theorem noUnderscore_lookup
    (fritzIp : Ipv4Addr)
    (mac : MacAddress)
    (bodyLength : Nat) :
    '_' ∉ Http.head
        (fritzHostsHead fritzIp HostsAction.getSpecificHostEntry.name
          bodyLength) ++
      fritzHostsBody HostsAction.getSpecificHostEntry.name
        (macArguments mac) := by
  have macAddress : '_' ∉ mac.display :=
    (addressText_mac mac).not_mem (by decide)
  have host :
      '_' ∉ "Host: ".toList ++ fritzIp.display.toList ++ ":49000".toList := by
    rw [List.mem_append, List.mem_append, not_or, not_or]
    exact ⟨⟨by decide, (addressText_ipv4 fritzIp).not_mem (by decide)⟩,
      by decide⟩
  have length :
      '_' ∉ "Content-Length: ".toList ++ Text.decimal bodyLength := by
    rw [List.mem_append, not_or]
    exact ⟨by decide, (addressText_decimal bodyLength).not_mem (by decide)⟩
  have envelope :
      '_' ∉ envelopeStart HostsAction.getSpecificHostEntry.name ∧
        '_' ∉ envelopeEnd HostsAction.getSpecificHostEntry.name ∧
        '_' ∉ startTag "NewMACAddress" ∧
        '_' ∉ endTag "NewMACAddress" := by
    unfold envelopeStart envelopeEnd fritzHostsService HostsAction.name
      startTag endTag
    repeat rw [String.toList_ofList]
    decide
  obtain ⟨start, stop, opening, closing⟩ := envelope
  rw [List.mem_append, not_or]
  constructor
  · apply not_mem_head (by decide)
    unfold fritzHostsHead
    rw [List.forall_mem_cons, List.forall_mem_cons, List.forall_mem_cons,
      List.forall_mem_cons, List.forall_mem_cons, List.forall_mem_singleton]
    exact ⟨by decide, host, by decide, by decide,
      length, by decide⟩
  · rw [fritzHostsBody, macArguments, element, List.mem_append,
      List.mem_append, List.mem_append, List.mem_append, not_or, not_or,
      not_or, not_or]
    exact ⟨⟨start, opening, macAddress, closing⟩, stop⟩

/-- The server recognises the action of a request. -/
theorem recognisedAction_request
    (fritzIp : Ipv4Addr)
    (action : HostsAction)
    (mac : MacAddress)
    (bodyLength : Nat) :
    recognisedAction
        (Http.head (fritzHostsHead fritzIp action.name bodyLength) ++
          fritzHostsBody action.name (macArguments mac)) =
      some action := by
  have named :
      Text.contains action.name
          (Http.head (fritzHostsHead fritzIp action.name bodyLength) ++
            fritzHostsBody action.name (macArguments mac)) = true := by
    have inStart := (envelopeFacts action).named
    rw [Text.contains_iff, fritzHostsBody]
    exact ((inStart.trans (List.prefix_append _ _).isInfix).trans
      (List.prefix_append _ _).isInfix).trans (List.suffix_append _ _).isInfix
  have tagged :
      Text.contains (startTag "NewMACAddress")
          (Http.head (fritzHostsHead fritzIp action.name bodyLength) ++
            fritzHostsBody action.name (macArguments mac)) = true := by
    have inArguments :
        startTag "NewMACAddress" <:+: macArguments mac :=
      (List.prefix_append _ _).isInfix
    rw [Text.contains_iff, fritzHostsBody]
    exact ((inArguments.trans (List.suffix_append _ _).isInfix).trans
      (List.prefix_append _ _).isInfix).trans (List.suffix_append _ _).isInfix
  cases action with
  | wakeOnLan =>
      rw [recognisedAction, if_pos ⟨named, tagged⟩]
  | getSpecificHostEntry =>
      have notWake :
          ¬ Text.contains HostsAction.wakeOnLan.name
            (Http.head (fritzHostsHead fritzIp
                HostsAction.getSpecificHostEntry.name bodyLength) ++
              fritzHostsBody HostsAction.getSpecificHostEntry.name
                (macArguments mac)) = true := by
        rw [Text.contains_iff]
        intro found
        exact noUnderscore_lookup fritzIp mac bodyLength
          (found.subset (by decide))
      rw [recognisedAction, if_neg fun both => notWake both.1,
        if_pos ⟨named, tagged⟩]

/-- The lines of the head of a reply are printable and open no tag. -/
theorem replyHead_lines
    (bodyLength : Nat) :
    ∀ line, line ∈ replyHead bodyLength → Printable line ∧ '<' ∉ line := by
  have length :
      Printable ("Content-Length: ".toList ++ Text.decimal bodyLength) ∧
        '<' ∉ "Content-Length: ".toList ++ Text.decimal bodyLength := by
    have number := addressText_decimal bodyLength
    rw [printable_append_iff, List.mem_append, not_or]
    exact ⟨⟨by decide, number.printable⟩, by decide,
      number.not_mem (by decide)⟩
  unfold replyHead
  rw [List.forall_mem_cons, List.forall_mem_cons, List.forall_mem_cons,
    List.forall_mem_singleton]
  exact ⟨by decide, by decide, length, by decide⟩

/-- The first line of a message ends at its first line feed. -/
theorem encode_head_cons
    (line : List Char)
    (lines : List (List Char))
    (body : List Char) :
    Utf8.encode (Http.head (line :: lines) ++ body) =
      Utf8.encode (line ++ ['\r']) ++
        10 :: Utf8.encode (Http.head lines ++ body) := by
  have shape :
      Http.head (line :: lines) ++ body =
        (line ++ ['\r']) ++ '\n' :: (Http.head lines ++ body) := by
    simp [Http.head]
  rw [shape, Utf8.encode_append]
  rfl

/-- A reply with a body has the status 200. -/
theorem httpStatus_reply
    (bodyLength : Nat)
    (body : List Char) :
    httpStatus (Utf8.encode (Http.head (replyHead bodyLength) ++ body)) =
      .ok 200 := by
  have noFeed :
      10 ∉ Utf8.encode ("HTTP/1.1 200 OK".toList ++ ['\r']) := by
    decide
  have decoded :
      Utf8.fromUtf8 (Utf8.encode ("HTTP/1.1 200 OK".toList ++ ['\r'])) =
        some ("HTTP/1.1 200 OK".toList ++ ['\r']) :=
    Utf8.fromUtf8_encode (by decide)
  have code :
      ((Text.splitWhitespace
          (("HTTP/1.1 200 OK".toList ++ ['\r']).rdropWhile
            (· = '\r'))).drop 1).head? =
        some (Text.decimal (200 : UInt16).toNat) := by
    decide
  rw [httpStatus, replyHead, encode_head_cons,
    List.splitOn_append_cons_self_of_not_mem noFeed, List.head?_cons]
  dsimp only
  rw [decoded]
  dsimp only
  rw [code]
  dsimp only
  rw [Text.parseU16_decimal]
  rfl

/-- The fixed texts of the replies are printable. -/
theorem printable_replies :
    Printable wakeReply ∧
      Printable lookupReplyStart ∧
      Printable lookupReplyEnd ∧
      Printable (startTag "NewIPAddress") ∧
      Printable (endTag "NewIPAddress") ∧
      Printable (element "NewActive" ['1']) := by
  unfold wakeReply lookupReplyStart lookupReplyEnd replyStart replyEnd
    fritzHostsService element startTag endTag
  repeat rw [String.toList_ofList]
  decide +kernel

/-- The reply to a lookup begins without a field. -/
theorem clear_lookupReplyStart :
    Text.Clear (startTag "NewIPAddress") lookupReplyStart ∧
      Text.Clear (startTag "NewActive") lookupReplyStart := by
  unfold lookupReplyStart replyStart fritzHostsService startTag
  repeat rw [String.toList_ofList]
  decide +kernel

/-- The body of a reply is printable. -/
theorem printable_replyBody
    (pcIp : Ipv4Addr)
    (action : HostsAction) :
    Printable (replyBody pcIp.display.toList action) := by
  obtain ⟨wake, start, stop, opening, closing, active⟩ := printable_replies
  cases action with
  | wakeOnLan =>
      exact wake
  | getSpecificHostEntry =>
      rw [replyBody, lookupReplyFields, element, printable_append_iff,
        printable_append_iff, printable_append_iff, printable_append_iff,
        printable_append_iff]
      exact ⟨⟨start, ⟨opening, (addressText_ipv4 pcIp).printable, closing⟩,
        active⟩, stop⟩

/-- A field of a reply to a lookup is read back. -/
theorem hostField_reply
    {field : String}
    {pcIp : Ipv4Addr}
    {between value after : List Char}
    (fixed : Text.Clear (startTag field) lookupReplyStart)
    (clearBetween : Text.Clear (startTag field) between)
    (noBracket : '<' ∉ value)
    (shape :
      lookupReplyFields pcIp.display.toList =
        between ++ (element field value ++ after))
    (bodyLength : Nat) :
    hostField field
        (Utf8.encode
          (Http.head (replyHead bodyLength) ++
            replyBody pcIp.display.toList .getSpecificHostEntry)) =
      .ok (Text.trim value) := by
  have lines := replyHead_lines bodyLength
  have ascii :
      Utf8.IsAscii
        (Http.head (replyHead bodyLength) ++
          replyBody pcIp.display.toList .getSpecificHostEntry) :=
    Utf8.isAscii_append_iff.mpr
      ⟨isAscii_head fun line member => (lines line member).1,
        (printable_replyBody pcIp .getSpecificHostEntry).isAscii⟩
  have noTag : '<' ∉ Http.head (replyHead bodyLength) :=
    not_mem_head (by decide) fun line member => (lines line member).2
  have clearBefore :
      Text.Clear (startTag field)
        (Http.head (replyHead bodyLength) ++ (lookupReplyStart ++ between)) :=
    Text.clear_append (clear_tags noTag field).1
      (Text.clear_append fixed clearBetween)
  have read :=
    fieldText_append clearBefore (clear_tags noBracket field).2
      (after ++ lookupReplyEnd)
  have whole :
      Http.head (replyHead bodyLength) ++
          replyBody pcIp.display.toList .getSpecificHostEntry =
        (Http.head (replyHead bodyLength) ++ (lookupReplyStart ++ between)) ++
          (element field value ++ (after ++ lookupReplyEnd)) := by
    simp only [replyBody, shape, List.append_assoc]
  rw [hostField, Utf8.fromUtf8_encode ascii, whole]
  exact read

/-- The address in the reply to a lookup is the address of the PC. -/
theorem fritzHostIp_reply
    (debug : List Char → String)
    (pcIp : Ipv4Addr)
    (bodyLength : Nat) :
    fritzHostIp debug
        (Utf8.encode
          (Http.head (replyHead bodyLength) ++
            replyBody pcIp.display.toList .getSpecificHostEntry)) =
      .ok pcIp := by
  have address := addressText_ipv4 pcIp
  have field :=
    @hostField_reply "NewIPAddress" pcIp [] pcIp.display.toList
      (element "NewActive" ['1']) clear_lookupReplyStart.1 trivial
      (address.not_mem (by decide)) rfl bodyLength
  rw [Text.trim_eq_self address.trimmed] at field
  rw [fritzHostIp, field]
  dsimp only [bind, Except.bind]
  rw [Ipv4Addr.fromStr_display]
  rfl

/-- The element of the address contains no tag of the activity. -/
theorem clear_addressElement
    {text : List Char}
    (noBracket : '<' ∉ text) :
    Text.Clear (startTag "NewActive") (element "NewIPAddress" text) := by
  have tags :
      Text.Clear (startTag "NewActive") (startTag "NewIPAddress") ∧
        Text.Clear (startTag "NewActive") (endTag "NewIPAddress") := by
    unfold startTag endTag
    repeat rw [String.toList_ofList]
    decide
  have inside := (clear_tags noBracket "NewActive").1
  exact Text.clear_append tags.1 (Text.clear_append inside tags.2)

/-- The reply to a lookup calls the host active. -/
theorem fritzHostActive_reply
    (debug : List Char → String)
    (pcIp : Ipv4Addr)
    (bodyLength : Nat) :
    fritzHostActive debug
        (Utf8.encode
          (Http.head (replyHead bodyLength) ++
            replyBody pcIp.display.toList .getSpecificHostEntry)) =
      .ok true := by
  have noBracket : '<' ∉ pcIp.display.toList :=
    (addressText_ipv4 pcIp).not_mem (by decide)
  have field :=
    @hostField_reply "NewActive" pcIp
      (element "NewIPAddress" pcIp.display.toList) ['1'] []
      clear_lookupReplyStart.2 (clear_addressElement noBracket) (by decide)
      (by rw [List.append_nil, lookupReplyFields]) bodyLength
  have trimmed : Text.trim ['1'] = "1".toList := by
    decide
  have isOne : "1".toList = "1".toList ∨ "1".toList = "true".toList :=
    .inl rfl
  rw [fritzHostActive, field, trimmed]
  dsimp only [bind, Except.bind]
  rw [if_pos isOne]

/-- The client and the server agree about a request. -/
structure ExchangeAgrees
    (debug : List Char → String)
    (pcIp : Ipv4Addr)
    (mac : MacAddress)
    (action : HostsAction)
    (request : List UInt8)
    (received : ReadOutcome)
    (unread : List ReadEvent) : Prop where
  stopped : received = .request request unread
  contentLength :
    contentLength request =
      some (Utf8.encode
        (fritzHostsBody action.name (macArguments mac))).length
  macAddress :
    ∃ text,
      fieldText "NewMACAddress"
          (fritzHostsBody action.name (macArguments mac)) =
        .ok text ∧
      MacAddress.fromStr text = .ok mac
  recognised :
    recognisedAction (Utf8.decodeLossy request) = some action
  status : httpStatus (labReply pcIp.display.toList request) = .ok 200
  lookup :
    action = .getSpecificHostEntry →
    fritzHostIp debug (labReply pcIp.display.toList request) = .ok pcIp ∧
      fritzHostActive debug (labReply pcIp.display.toList request) = .ok true

/-- The client and the server agree however a request is cut into pieces. -/
theorem exchange_agrees
    (debug : List Char → String)
    (fritzIp pcIp : Ipv4Addr)
    (mac : MacAddress)
    (action : HostsAction)
    {chunks : List (List UInt8)}
    (nonempty : ∀ chunk, chunk ∈ chunks → chunk ≠ [])
    (split :
      chunks.flatten =
        fritzHostsRequest fritzIp action.name (macArguments mac))
    (unread : List ReadEvent) :
    ExchangeAgrees debug pcIp mac action
      (fritzHostsRequest fritzIp action.name (macArguments mac))
      (readRequest [] (chunks.map ReadEvent.bytes ++ unread)) unread := by
  have message := announced_request fritzIp action mac
  have request :
      fritzHostsRequest fritzIp action.name (macArguments mac) =
        Utf8.encode
          (Http.head
              (fritzHostsHead fritzIp action.name
                (Text.utf8Length
                  (fritzHostsBody action.name (macArguments mac)))) ++
            fritzHostsBody action.name (macArguments mac)) :=
    rfl
  have recognised :
      recognisedAction
          (Utf8.decodeLossy
            (fritzHostsRequest fritzIp action.name (macArguments mac))) =
        some action := by
    rw [request, Utf8.decodeLossy_encode message.ascii]
    exact recognisedAction_request fritzIp action mac _
  have reply :
      labReply pcIp.display.toList
          (fritzHostsRequest fritzIp action.name (macArguments mac)) =
        Utf8.encode
          (Http.head
              (replyHead
                (Text.utf8Length (replyBody pcIp.display.toList action))) ++
            replyBody pcIp.display.toList action) := by
    simp only [labReply, recognised]
  have nothingYet :
      [] ≠ fritzHostsRequest fritzIp action.name (macArguments mac) := by
    intro empty
    have message := congrArg List.length empty
    rw [fritzHostsRequest, fritzHostsHead, encode_head_cons] at message
    simp at message
  exact {
    stopped := by
      apply readRequest_of_complete_iff _ nonempty nothingYet split
      rw [request]
      exact fun received part => message.requestComplete_iff part
    contentLength := by
      have announced := message.contentLength_head
        (Utf8.encode (fritzHostsBody action.name (macArguments mac)))
      rw [← Utf8.encode_append] at announced
      rw [request,
        Utf8.length_encode_of_isAscii (printable_body action mac).isAscii]
      exact announced
    macAddress :=
      ⟨mac.display, fieldText_body action mac, MacAddress.fromStr_display mac⟩
    recognised := recognised
    status := by
      rw [reply, httpStatus_reply]
    lookup := by
      rintro rfl
      rw [reply]
      exact ⟨fritzHostIp_reply debug pcIp _,
        fritzHostActive_reply debug pcIp _⟩
  }

/-- A request for the lookup of a host. -/
def lookupRequest : List UInt8 :=
  fritzHostsRequest ⟨192, 168, 178, 1⟩ HostsAction.getSpecificHostEntry.name
    (macArguments ⟨#v[0xAA, 0xBB, 0xCC, 0xDD, 0xEE, 0x11]⟩)

/-- The agreement does not depend on where that request is cut. -/
theorem exchange_agrees_cut :
    ExchangeAgrees (fun value => String.ofList value) ⟨10, 231, 0, 1⟩
      ⟨#v[0xAA, 0xBB, 0xCC, 0xDD, 0xEE, 0x11]⟩ .getSpecificHostEntry
      lookupRequest
      (readRequest []
        ([lookupRequest.take 180, lookupRequest.drop 180].map
            ReadEvent.bytes ++ [.failed]))
      [.failed] :=
  exchange_agrees _ ⟨192, 168, 178, 1⟩ _ _ _
    (by decide)
    (by
      simp only [List.flatten_cons, List.flatten_nil, List.append_nil,
        List.take_append_drop]
      rfl)
    _

end Waker
