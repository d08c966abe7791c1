import Waker.Text
import Waker.WakeState

namespace Waker

/-!
# Parsing a WireGuard profile

`WireGuardProfile.parse` follows the line loop of the source.  The base64
decoder and the parser of IP networks belong to other crates and are taken as
parameters.
-/

/-- An IPv4 network, whose prefix never exceeds 32. -/
structure Ipv4Network where
  ip : Ipv4Addr
  netPrefix : Nat
  prefixBound : netPrefix ≤ 32
  deriving Repr, DecidableEq

/-- An IPv6 network by its eight segments, whose prefix never exceeds 128. -/
structure Ipv6Network where
  segments : Vector UInt16 8
  netPrefix : Nat
  prefixBound : netPrefix ≤ 128
  deriving Repr, DecidableEq

/-- An IP network of either family. -/
inductive IpNetwork where
  | v4 (network : Ipv4Network)
  | v6 (network : Ipv6Network)
  deriving Repr, DecidableEq

/-- A WireGuard key is exactly 32 bytes. -/
structure WireGuardKey where
  bytes : List UInt8
  length_eq : bytes.length = 32
  deriving Repr, DecidableEq

/-- The parsers of other crates used by the profile parser. -/
structure ProfileDecoder where
  decodeBase64 : List Char → Except String (List UInt8)
  parseIpNetwork : List Char → Except String IpNetwork

/-- Errors of the network crate. -/
inductive NetError where
  | config (detail : String)
  | wireGuard (detail : String)
  | network (detail : String)
  | timeout
  | workerStopped
  deriving Repr, DecidableEq

namespace NetError

/-- The text of a network error. -/
def display : NetError → String
  | .config detail => "configuration error: " ++ detail
  | .wireGuard detail => "WireGuard error: " ++ detail
  | .network detail => "network error: " ++ detail
  | .timeout => "operation timed out"
  | .workerStopped => "tunnel worker stopped"

end NetError

/-- The subset of a wg-quick profile used by Waker. -/
structure WireGuardProfile where
  address : Ipv4Network
  privateKey : WireGuardKey
  peerPublicKey : WireGuardKey
  presharedKey : Option WireGuardKey
  endpoint : List Char
  allowedIps : List IpNetwork
  persistentKeepalive : Option UInt16
  deriving Repr, DecidableEq

/-- The section the parser is in. -/
inductive Section where
  | none
  | interface
  | peer
  deriving Repr, DecidableEq

/-- The local variables of the line loop. -/
structure ProfileDraft where
  inSection : Section
  address : Option Ipv4Network
  privateKey : Option WireGuardKey
  peerPublicKey : Option WireGuardKey
  presharedKey : Option WireGuardKey
  endpoint : Option (List Char)
  allowedIps : List IpNetwork
  persistentKeepalive : Option UInt16

namespace ProfileDraft

/-- The local variables before the first line. -/
def initial : ProfileDraft where
  inSection := .none
  address := none
  privateKey := none
  peerPublicKey := none
  presharedKey := none
  endpoint := none
  allowedIps := []
  persistentKeepalive := none

end ProfileDraft

/-- Decode a key and check its length. -/
def parseKey
    (decoder : ProfileDecoder)
    (value : List Char) : Except NetError WireGuardKey :=
  match decoder.decodeBase64 value with
  | .error error =>
      .error (.config ("invalid WireGuard key: " ++ error))
  | .ok bytes =>
      if length_eq : bytes.length = 32 then
        .ok ⟨bytes, length_eq⟩
      else
        .error (.config "WireGuard keys must decode to exactly 32 bytes")

/-- The trimmed entries of a comma-separated list. -/
def entries (value : List Char) : List (List Char) :=
  (Text.split ',' value).map Text.trim

/-- The first entry that parses as an IPv4 network; all others are skipped. -/
def firstIpv4
    (decoder : ProfileDecoder) :
    List (List Char) → Option Ipv4Network
  | [] => none
  | candidate :: rest =>
      match decoder.parseIpNetwork candidate with
      | .ok (.v4 network) => some network
      | _ => firstIpv4 decoder rest

/-- Parse every entry of an `AllowedIPs` line, stopping at the first error. -/
def parseAllowedIps
    (decoder : ProfileDecoder) :
    List (List Char) → Except NetError (List IpNetwork)
  | [] => .ok []
  | network :: rest =>
      match decoder.parseIpNetwork network with
      | .error error =>
          .error (.config
            ("invalid AllowedIPs entry " ++ String.ofList network ++
              ": " ++ error))
      | .ok parsed =>
          (parseAllowedIps decoder rest).map (parsed :: ·)

/-- Parse the value of a `PersistentKeepalive` line. -/
def parseKeepalive (value : List Char) : Except NetError UInt16 :=
  match Text.parseU16 value with
  | .error error =>
      .error (.config ("invalid PersistentKeepalive: " ++ error.display))
  | .ok seconds => .ok seconds

/-- The match on section and key; unknown fields are ignored. -/
def parseField
    (decoder : ProfileDecoder)
    (draft : ProfileDraft)
    (key value : List Char) : Except NetError ProfileDraft :=
  match draft.inSection with
  | .interface =>
      if key = "Address".toList then
        match firstIpv4 decoder (entries value) with
        | some network => .ok { draft with address := some network }
        | none => .ok draft
      else if key = "PrivateKey".toList then
        (parseKey decoder value).map fun parsed =>
          { draft with privateKey := some parsed }
      else
        .ok draft
  | .peer =>
      if key = "PublicKey".toList then
        (parseKey decoder value).map fun parsed =>
          { draft with peerPublicKey := some parsed }
      else if key = "PresharedKey".toList then
        (parseKey decoder value).map fun parsed =>
          { draft with presharedKey := some parsed }
      else if key = "Endpoint".toList then
        .ok { draft with endpoint := some value }
      else if key = "AllowedIPs".toList then
        (parseAllowedIps decoder (entries value)).map fun parsed =>
          { draft with allowedIps := draft.allowedIps ++ parsed }
      else if key = "PersistentKeepalive".toList then
        (parseKeepalive value).map fun parsed =>
          { draft with persistentKeepalive := some parsed }
      else
        .ok draft
  | .none => .ok draft

/-- A line without its comment and surrounding whitespace. -/
def stripLine (rawLine : List Char) : List Char :=
  Text.trim (Text.before '#' rawLine)

/-- One iteration of the line loop. -/
def parseLine
    (decoder : ProfileDecoder)
    (lineNumber : Nat)
    (rawLine : List Char)
    (draft : ProfileDraft) : Except NetError ProfileDraft :=
  let line := stripLine rawLine
  if line = [] then
    .ok draft
  else if line = "[Interface]".toList then
    .ok { draft with inSection := .interface }
  else if line = "[Peer]".toList then
    if draft.peerPublicKey.isSome then
      .error (.config "Waker currently supports exactly one WireGuard peer")
    else
      .ok { draft with inSection := .peer }
  else
    match Text.splitOnce '=' line with
    | none =>
        .error (.config s!"invalid WireGuard line {lineNumber + 1}")
    | some (key, value) =>
        parseField decoder draft (Text.trim key) (Text.trim value)

/-- The line loop, stopping at the first error. -/
def parseLines
    (decoder : ProfileDecoder) :
    Nat → List (List Char) → ProfileDraft → Except NetError ProfileDraft
  | _, [], draft => .ok draft
  | lineNumber, rawLine :: rest, draft =>
      match parseLine decoder lineNumber rawLine draft with
      | .error error => .error error
      | .ok next => parseLines decoder (lineNumber + 1) rest next

namespace ProfileDraft

/-- The checks for required fields after the line loop. -/
def finish (draft : ProfileDraft) : Except NetError WireGuardProfile :=
  match draft.address with
  | none =>
      .error (.config "WireGuard profile has no IPv4 Interface Address")
  | some address =>
      match draft.privateKey with
      | none => .error (.config "WireGuard profile has no PrivateKey")
      | some privateKey =>
          match draft.peerPublicKey with
          | none =>
              .error (.config "WireGuard profile has no peer PublicKey")
          | some peerPublicKey =>
              match draft.endpoint with
              | none =>
                  .error (.config "WireGuard profile has no peer Endpoint")
              | some endpoint =>
                  if draft.allowedIps.isEmpty then
                    .error (.config
                      "WireGuard profile has no peer AllowedIPs")
                  else
                    .ok {
                      address := address
                      privateKey := privateKey
                      peerPublicKey := peerPublicKey
                      presharedKey := draft.presharedKey
                      endpoint := endpoint
                      allowedIps := draft.allowedIps
                      persistentKeepalive := draft.persistentKeepalive
                    }

end ProfileDraft

namespace WireGuardProfile

/-- Parse a profile text. -/
def parse
    (decoder : ProfileDecoder)
    (input : List Char) : Except NetError WireGuardProfile :=
  match parseLines decoder 0 (Text.lines input) .initial with
  | .error error => .error error
  | .ok draft => draft.finish

end WireGuardProfile

end Waker
