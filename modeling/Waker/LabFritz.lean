import Waker.FritzHosts

namespace Waker

/-!
# The lab server

A connection of the fake FRITZ!Box: the loop that reads a request in whatever
pieces it arrives, the recognition of its action, and the reply.
-/

/-- What one read of the stream gives; no bytes mean the end of the stream. -/
inductive ReadEvent where
  | bytes (chunk : List UInt8)
  | failed
  deriving Repr, DecidableEq

/-- The number of a `Content-Length` line. -/
def contentLengthOf (line : List Char) : Option Nat := do
  let (name, value) ← Text.splitOnce ':' line
  if Text.toAsciiLowercase name =
      Text.toAsciiLowercase "Content-Length".toList then
    (Text.parseUnsigned (2 ^ 64 - 1) (Text.trim value)).toOption
  else
    none

/-- The first content length in the lines of a request. -/
def contentLength (request : List UInt8) : Option Nat :=
  (Text.lines (Utf8.decodeLossy request)).findSome? contentLengthOf

/-- The end of the lines of a head and its empty line. -/
def blankLine : List UInt8 :=
  [13, 10, 13, 10]

/-- The bytes received so far are a whole request. -/
def requestComplete (request : List UInt8) : Bool :=
  match Text.find? blankLine request, contentLength request with
  | some position, some length => position + 4 + length ≤ request.length
  | _, _ => false

/-- How the read loop of a connection goes on. -/
inductive ReadOutcome where
  | request (received : List UInt8) (unread : List ReadEvent)
  | failed
  | waiting (received : List UInt8)
  deriving Repr, DecidableEq

/-- The read loop of a connection. -/
def readRequest : List UInt8 → List ReadEvent → ReadOutcome
  | received, [] => .waiting received
  | _, .failed :: _ => .failed
  | received, .bytes chunk :: unread =>
      if chunk = [] then
        .request received unread
      else if requestComplete (received ++ chunk) then
        .request (received ++ chunk) unread
      else
        readRequest (received ++ chunk) unread

/-- The action whose branch is taken. -/
def recognisedAction (text : List Char) : Option HostsAction :=
  if Text.contains HostsAction.wakeOnLan.name text ∧
      Text.contains (startTag "NewMACAddress") text then
    some .wakeOnLan
  else if Text.contains HostsAction.getSpecificHostEntry.name text ∧
      Text.contains (startTag "NewMACAddress") text then
    some .getSpecificHostEntry
  else
    none

/-- The beginning of both reply bodies. -/
def replyStart : List Char :=
  "<?xml version=\"1.0\"?>".toList ++
    "<s:Envelope xmlns:s=\"http://schemas.xmlsoap.org/soap/envelope/\">".toList ++
    "<s:Body>".toList

/-- The end of both reply bodies. -/
def replyEnd : List Char :=
  "</s:Body></s:Envelope>".toList

/-- The reply to a request to wake a host. -/
def wakeReply : List Char :=
  replyStart ++
    "<u:X_AVM-DE_WakeOnLANByMACAddressResponse xmlns:u=\"".toList ++
    fritzHostsService ++ "\"/>".toList ++ replyEnd

/-- The reply to a host lookup up to the fields. -/
def lookupReplyStart : List Char :=
  replyStart ++ "<u:GetSpecificHostEntryResponse xmlns:u=\"".toList ++
    fritzHostsService ++ "\">".toList

/-- The fields of the reply to a host lookup. -/
def lookupReplyFields (pcIp : List Char) : List Char :=
  element "NewIPAddress" pcIp ++ element "NewActive" ['1']

/-- The reply to a host lookup behind the fields. -/
def lookupReplyEnd : List Char :=
  "</u:GetSpecificHostEntryResponse>".toList ++ replyEnd

/-- The body of the reply to an action. -/
def replyBody (pcIp : List Char) : HostsAction → List Char
  | .wakeOnLan => wakeReply
  | .getSpecificHostEntry =>
      lookupReplyStart ++ lookupReplyFields pcIp ++ lookupReplyEnd

/-- The lines of the head of a reply with a body. -/
def replyHead (bodyLength : Nat) : List (List Char) :=
  [
    "HTTP/1.1 200 OK".toList,
    "Content-Type: text/xml".toList,
    "Content-Length: ".toList ++ Text.decimal bodyLength,
    "Connection: close".toList
  ]

/-- The lines of the head of the reply to an unsupported request. -/
def notFoundHead : List (List Char) :=
  [
    "HTTP/1.1 404 Not Found".toList,
    "Content-Length: 0".toList,
    "Connection: close".toList
  ]

/-- The reply to a request, for the displayed address of the PC. -/
def labReply (pcIp : List Char) (request : List UInt8) : List UInt8 :=
  match recognisedAction (Utf8.decodeLossy request) with
  | some action =>
      let body := replyBody pcIp action
      Utf8.encode (Http.head (replyHead (Text.utf8Length body)) ++ body)
  | none => Utf8.encode (Http.head notFoundHead)

/-- What a connection is answered, if it is answered yet. -/
def runFakeFritz
    (pcIp : List Char)
    (events : List ReadEvent) : Option (List UInt8) :=
  match readRequest [] events with
  | .request request _ => some (labReply pcIp request)
  | .failed | .waiting _ => none

end Waker
