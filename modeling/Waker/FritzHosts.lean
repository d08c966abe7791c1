import Waker.HttpHead
import Waker.Ipv4Text
import Waker.MacAddress
import Waker.Utf8Text

namespace Waker

/-!
# The Hosts service of the FRITZ!Box

The requests of the client and its reading of the responses.  Debug output of a
string slice escapes by the Unicode tables, so it is a parameter of the error
texts that contain it.
-/

/-- The name of the service. -/
def fritzHostsService : List Char :=
  "urn:dslforum-org:service:Hosts:1".toList

/-- The actions the client asks the service for. -/
inductive HostsAction where
  | getSpecificHostEntry
  | wakeOnLan
  deriving Repr, DecidableEq

/-- The name of an action. -/
def HostsAction.name : HostsAction → List Char
  | .getSpecificHostEntry => "GetSpecificHostEntry".toList
  | .wakeOnLan => "X_AVM-DE_WakeOnLANByMACAddress".toList

/-- The tag that opens a field. -/
def startTag (field : String) : List Char :=
  '<' :: (field.toList ++ ['>'])

/-- The tag that closes a field. -/
def endTag (field : String) : List Char :=
  '<' :: '/' :: (field.toList ++ ['>'])

/-- A field with its tags. -/
def element (field : String) (text : List Char) : List Char :=
  startTag field ++ (text ++ endTag field)

/-- The argument of both actions. -/
def macArguments (mac : MacAddress) : List Char :=
  element "NewMACAddress" mac.display

/-- The SOAP envelope of a request up to the arguments. -/
def envelopeStart (action : List Char) : List Char :=
  "<?xml version=\"1.0\"?>".toList ++
    "<s:Envelope xmlns:s=\"http://schemas.xmlsoap.org/soap/envelope/\"".toList ++
    " s:encodingStyle=\"http://schemas.xmlsoap.org/soap/encoding/\">".toList ++
    "<s:Body><u:".toList ++ action ++ " xmlns:u=\"".toList ++
    fritzHostsService ++ "\">".toList

/-- The SOAP envelope of a request behind the arguments. -/
def envelopeEnd (action : List Char) : List Char :=
  "</u:".toList ++ action ++ "></s:Body></s:Envelope>".toList

/-- The SOAP envelope of a request. -/
def fritzHostsBody (action arguments : List Char) : List Char :=
  envelopeStart action ++ arguments ++ envelopeEnd action

/-- The lines of the head of a request. -/
def fritzHostsHead
    (fritzIp : Ipv4Addr)
    (action : List Char)
    (bodyLength : Nat) : List (List Char) :=
  [
    "POST /upnp/control/hosts HTTP/1.1".toList,
    "Host: ".toList ++ fritzIp.display.toList ++ ":49000".toList,
    "Content-Type: text/xml; charset=\"utf-8\"".toList,
    "SOAPAction: \"".toList ++ fritzHostsService ++ '#' :: action ++ ['"'],
    "Content-Length: ".toList ++ Text.decimal bodyLength,
    "Connection: close".toList
  ]

/-- A request for an action of the service. -/
def fritzHostsRequest
    (fritzIp : Ipv4Addr)
    (action arguments : List Char) : List UInt8 :=
  let body := fritzHostsBody action arguments
  Utf8.encode
    (Http.head (fritzHostsHead fritzIp action (Text.utf8Length body)) ++ body)

/-- The status code of a response. -/
def httpStatus (response : List UInt8) : Except NetError UInt16 :=
  match (response.splitOn 10).head? with
  | none => .error (.network "empty HTTP response")
  | some firstLine =>
      match Utf8.fromUtf8 firstLine with
      | none => .error (.network "HTTP status line was not UTF-8")
      | some line =>
          let parts := Text.splitWhitespace (line.rdropWhile (· = '\r'))
          match (parts.drop 1).head? with
          | none => .error (.network "HTTP response had no status code")
          | some code =>
              (Text.parseU16 code).mapError fun error =>
                .network ("invalid HTTP status: " ++ error.display)

/-- The trimmed text of a field. -/
def fieldText
    (field : String)
    (text : List Char) : Except NetError (List Char) :=
  match (Text.find? (startTag field) text).map
      (· + (startTag field).length) with
  | none =>
      .error (.network
        ("FRITZ!Box host response had no " ++ field ++ " field"))
  | some start =>
      match Text.splitOnceAt (endTag field) (text.drop start) with
      | none =>
          .error (.network
            ("FRITZ!Box host response had an incomplete " ++ field ++
              " field"))
      | some (value, _) => .ok (Text.trim value)

/-- The trimmed text of a field of a host response. -/
def hostField
    (field : String)
    (response : List UInt8) : Except NetError (List Char) :=
  match Utf8.fromUtf8 response with
  | none => .error (.network "FRITZ!Box host response was not UTF-8")
  | some text => fieldText field text

/-- The IPv4 address of a host response. -/
def fritzHostIp
    (debug : List Char → String)
    (response : List UInt8) : Except NetError Ipv4Addr := do
  let value ← hostField "NewIPAddress" response
  (Ipv4Addr.fromStr value).mapError fun error =>
    .network
      ("FRITZ!Box returned invalid NewIPAddress value " ++ debug value ++
        ": " ++ error)

/-- Whether a host response calls the host active. -/
def fritzHostActive
    (debug : List Char → String)
    (response : List UInt8) : Except NetError Bool := do
  let value ← hostField "NewActive" response
  if value = "1".toList ∨ value = "true".toList then
    .ok true
  else if value = "0".toList ∨ value = "false".toList then
    .ok false
  else
    .error (.network
      ("FRITZ!Box returned invalid NewActive value " ++ debug value))

/-- No tag begins in a text without an opening bracket. -/
theorem clear_tags
    {text : List Char}
    (noBracket : '<' ∉ text)
    (field : String) :
    Text.Clear (startTag field) text ∧ Text.Clear (endTag field) text :=
  ⟨Text.clear_of_first_not_mem noBracket,
    Text.clear_of_first_not_mem noBracket⟩

/-- A field between its tags is read, whatever surrounds it. -/
theorem fieldText_append
    {field : String}
    {before value : List Char}
    (clearBefore : Text.Clear (startTag field) before)
    (clearValue : Text.Clear (endTag field) value)
    (after : List Char) :
    fieldText field (before ++ (element field value ++ after)) =
      .ok (Text.trim value) := by
  unfold element
  rw [List.append_assoc, List.append_assoc]
  have found :
      Text.find? (startTag field)
          (before ++ (startTag field ++ (value ++ (endTag field ++ after)))) =
        some before.length := by
    rw [Text.find?_append_of_clear clearBefore, Text.find?_append_self]
    simp
  have rest :
      (before ++ (startTag field ++ (value ++ (endTag field ++ after)))).drop
          (before.length + (startTag field).length) =
        value ++ (endTag field ++ after) := by
    rw [← List.drop_drop, List.drop_left, List.drop_left]
  simp only [fieldText, found, Option.map_some, rest,
    Text.splitOnceAt_append clearValue]

end Waker
