import Mathlib.Data.List.Forall2
import Waker.Lines
import Waker.Decimal
import Waker.ProfileAcceptance

namespace Waker

open Latest

/-!
# Renderings of a profile

A rendering writes a profile as a text: lines with arbitrary blanks, comments,
and line ends, two sections in either order, the fields of a section in any
order, and fields the parser does not know.  A key or a network is written as
any text that its decoder reads as that key or network.
-/

/-- Nothing, or a comment up to the end of the line. -/
def IsComment (text : List Char) : Prop :=
  text = [] ∨ ∃ rest, text = '#' :: rest

instance (text : List Char) : Decidable (IsComment text) :=
  decidable_of_iff (text = [] ∨ text.head? = some '#') <| by
    unfold IsComment
    rw [List.head?_eq_some_iff]

/-- A text that may stand between blanks and before a comment. -/
structure IsPlain (text : List Char) : Prop where
  trimmed : Text.Trimmed text
  noComment : '#' ∉ text

instance (text : List Char) : Decidable (IsPlain text) :=
  decidable_of_iff (Text.Trimmed text ∧ '#' ∉ text)
    ⟨fun ⟨trimmed, noComment⟩ => ⟨trimmed, noComment⟩,
      fun ⟨trimmed, noComment⟩ => ⟨trimmed, noComment⟩⟩

/-- A line that says nothing but the text. -/
inductive LineText (text : List Char) : List Char → Prop where
  | mk
      {before after comment : List Char}
      (blankBefore : Text.Blank before)
      (blankAfter : Text.Blank after)
      (isComment : IsComment comment) :
      LineText text (before ++ text ++ after ++ comment)

/-- A line that assigns a value to a key. -/
inductive AssignmentText (key value : List Char) : List Char → Prop where
  | mk
      {before gap lead after comment : List Char}
      (blankBefore : Text.Blank before)
      (blankGap : Text.Blank gap)
      (blankLead : Text.Blank lead)
      (blankAfter : Text.Blank after)
      (isComment : IsComment comment) :
      AssignmentText key value
        ((before ++ key ++ gap) ++ '=' :: (lead ++ value ++ after) ++ comment)

/-- A comma-separated list with blanks around its entries. -/
def ListText (texts : List (List Char)) (text : List Char) : Prop :=
  ∃ padded,
    text = Text.join ',' padded ∧
      List.Forall₂
        (fun entry written =>
          ∃ before after,
            Text.Blank before ∧ Text.Blank after ∧
              written = before ++ entry ++ after)
        texts padded

/-- A text the decoder reads as the key. -/
structure KeyText
    (decoder : ProfileDecoder)
    (key : WireGuardKey)
    (text : List Char) : Prop where
  decoded : decoder.decodeBase64 text = .ok key.bytes
  plain : IsPlain text

/-- A text the decoder reads as the network. -/
structure NetworkText
    (decoder : ProfileDecoder)
    (network : IpNetwork)
    (text : List Char) : Prop where
  decoded : decoder.parseIpNetwork text = .ok network
  plain : IsPlain text
  noComma : ',' ∉ text

/-- What a line of a rendering says. -/
inductive ProfileItem where
  | filler
  | header (opened : Section)
  | unknown
  | address (network : Ipv4Network)
  | privateKey (key : WireGuardKey)
  | publicKey (key : WireGuardKey)
  | presharedKey (key : WireGuardKey)
  | endpoint (text : List Char)
  | allowedIps (networks : List IpNetwork)
  | persistentKeepalive (seconds : UInt16)

namespace ProfileItem

/-- The network of an address item. -/
def address? : ProfileItem → Option Ipv4Network
  | .address network => some network
  | _ => none

/-- The key of a private key item. -/
def privateKey? : ProfileItem → Option WireGuardKey
  | .privateKey key => some key
  | _ => none

/-- The key of a public key item. -/
def publicKey? : ProfileItem → Option WireGuardKey
  | .publicKey key => some key
  | _ => none

/-- The key of a preshared key item. -/
def presharedKey? : ProfileItem → Option WireGuardKey
  | .presharedKey key => some key
  | _ => none

/-- The text of an endpoint item. -/
def endpoint? : ProfileItem → Option (List Char)
  | .endpoint text => some text
  | _ => none

/-- The networks of an item. -/
def networks : ProfileItem → List IpNetwork
  | .allowedIps networks => networks
  | _ => []

/-- The interval of a keepalive item. -/
def keepalive? : ProfileItem → Option UInt16
  | .persistentKeepalive seconds => some seconds
  | _ => none

end ProfileItem

/-- A line of a section that says an item. -/
inductive Writes
    (decoder : ProfileDecoder) :
    Section → ProfileItem → List Char → Prop where
  | filler
      {current : Section}
      {line : List Char}
      (written : LineText [] line) :
      Writes decoder current .filler line
  | unknown
      {current : Section}
      {key value line : List Char}
      (plain : IsPlain key)
      (noEquals : '=' ∉ key)
      (noComment : '#' ∉ value)
      (notKnown : field? current key = none)
      (written : AssignmentText key value line) :
      Writes decoder current .unknown line
  | address
      {before : List Ipv6Network}
      {network : Ipv4Network}
      {texts : List (List Char)}
      {value line : List Char}
      (entries :
        List.Forall₂ (NetworkText decoder)
          (before.map IpNetwork.v6 ++ [.v4 network]) texts)
      (listed : ListText texts value)
      (written : AssignmentText ProfileField.address.key value line) :
      Writes decoder .interface (.address network) line
  | privateKey
      {key : WireGuardKey}
      {value line : List Char}
      (encoded : KeyText decoder key value)
      (written : AssignmentText ProfileField.privateKey.key value line) :
      Writes decoder .interface (.privateKey key) line
  | publicKey
      {key : WireGuardKey}
      {value line : List Char}
      (encoded : KeyText decoder key value)
      (written : AssignmentText ProfileField.publicKey.key value line) :
      Writes decoder .peer (.publicKey key) line
  | presharedKey
      {key : WireGuardKey}
      {value line : List Char}
      (encoded : KeyText decoder key value)
      (written : AssignmentText ProfileField.presharedKey.key value line) :
      Writes decoder .peer (.presharedKey key) line
  | endpoint
      {value line : List Char}
      (plain : IsPlain value)
      (written : AssignmentText ProfileField.endpoint.key value line) :
      Writes decoder .peer (.endpoint value) line
  | allowedIps
      {networks : List IpNetwork}
      {texts : List (List Char)}
      {value line : List Char}
      (nonempty : networks ≠ [])
      (entries : List.Forall₂ (NetworkText decoder) networks texts)
      (listed : ListText texts value)
      (written : AssignmentText ProfileField.allowedIps.key value line) :
      Writes decoder .peer (.allowedIps networks) line
  | persistentKeepalive
      {seconds : UInt16}
      {line : List Char}
      (written :
        AssignmentText ProfileField.persistentKeepalive.key
          (Text.decimal seconds.toNat) line) :
      Writes decoder .peer (.persistentKeepalive seconds) line

/-- Lines of a section that say the items. -/
def WritesAll
    (decoder : ProfileDecoder)
    (current : Section)
    (items : List ProfileItem)
    (lines : List (List Char)) : Prop :=
  List.Forall₂ (Writes decoder current) items lines

/-- An interface section with one address and one private key. -/
structure InterfaceSection
    (decoder : ProfileDecoder)
    (profile : WireGuardProfile)
    (header : List Char)
    (items : List ProfileItem)
    (body : List (List Char)) : Prop where
  opened : LineText "[Interface]".toList header
  written : WritesAll decoder .interface items body
  address : items.filterMap ProfileItem.address? = [profile.address]
  privateKey : items.filterMap ProfileItem.privateKey? = [profile.privateKey]

/-- A peer section with each field of the peer at most once. -/
structure PeerSection
    (decoder : ProfileDecoder)
    (profile : WireGuardProfile)
    (header : List Char)
    (items : List ProfileItem)
    (body : List (List Char)) : Prop where
  opened : LineText "[Peer]".toList header
  written : WritesAll decoder .peer items body
  publicKey :
    items.filterMap ProfileItem.publicKey? = [profile.peerPublicKey]
  presharedKey :
    items.filterMap ProfileItem.presharedKey? = profile.presharedKey.toList
  endpoint : items.filterMap ProfileItem.endpoint? = [profile.endpoint]
  allowedIps : items.flatMap ProfileItem.networks = profile.allowedIps
  persistentKeepalive :
    items.filterMap ProfileItem.keepalive? =
      profile.persistentKeepalive.toList

/-- The lines of a profile, with the two sections in either order. -/
inductive ProfileText
    (decoder : ProfileDecoder)
    (profile : WireGuardProfile) : List (List Char) → Prop where
  | interfaceFirst
      {before interfaceItems peerItems : List ProfileItem}
      {preamble interfaceBody peerBody : List (List Char)}
      {interfaceHeader peerHeader : List Char}
      (start : WritesAll decoder .none before preamble)
      (interface :
        InterfaceSection decoder profile interfaceHeader interfaceItems
          interfaceBody)
      (peer : PeerSection decoder profile peerHeader peerItems peerBody) :
      ProfileText decoder profile
        (preamble ++ interfaceHeader :: interfaceBody ++
          peerHeader :: peerBody)
  | peerFirst
      {before interfaceItems peerItems : List ProfileItem}
      {preamble interfaceBody peerBody : List (List Char)}
      {interfaceHeader peerHeader : List Char}
      (start : WritesAll decoder .none before preamble)
      (interface :
        InterfaceSection decoder profile interfaceHeader interfaceItems
          interfaceBody)
      (peer : PeerSection decoder profile peerHeader peerItems peerBody) :
      ProfileText decoder profile
        (preamble ++ peerHeader :: peerBody ++
          interfaceHeader :: interfaceBody)

/-- A text made of lines with either line end, the last with or without one. -/
inductive WrittenLines : List (List Char) → List Char → Prop where
  | empty :
      WrittenLines [] []
  | unended
      {line : List Char}
      (nonempty : line ≠ [])
      (feedless : '\n' ∉ line) :
      WrittenLines [line] line
  | feed
      {line text : List Char}
      {rest : List (List Char)}
      (feedless : '\n' ∉ line)
      (later : WrittenLines rest text) :
      WrittenLines (line :: rest) (line ++ '\n' :: text)
  | returnFeed
      {line text : List Char}
      {rest : List (List Char)}
      (feedless : '\n' ∉ line)
      (later : WrittenLines rest text) :
      WrittenLines (line :: rest) (line ++ '\r' :: '\n' :: text)

end Waker
