import Waker.ProfileAcceptance
import Waker.SmolEngine
import Waker.SmolReference
import Waker.StandardDecoder

namespace Waker

open Latest

/-!
# Building the engine from a profile

The interface refuses multicast and broadcast addresses by panicking.  The
profile parser never looks at the kind of the address, so it decides whether
the engine of an accepted profile can be built.
-/

/-- The interface accepts exactly the addresses that name no group of hosts. -/
theorem isUnicast_or_isUnspecified_iff
    {address : Ipv4Addr} :
    (address.isUnicast || address.isUnspecified) = true ↔
      address.isMulticast = false ∧ address.isBroadcast = false := by
  by_cases unspecified : address = ⟨0, 0, 0, 0⟩
  · subst unspecified
    decide
  · simp [Ipv4Addr.isUnicast, Ipv4Addr.isUnspecified, unspecified,
      and_comm]

section Start

variable [Smoltcp]
variable {Tcp Icmp : Type}
variable {address : Ipv4Network}

/-- The engine is built exactly when its address names no group of hosts. -/
theorem exists_new_ok_iff
    [LawfulSmoltcp] :
    (∃ engine : SmolEngine Tcp Icmp,
      SmolEngine.new address = .ok engine) ↔
      address.ip.isMulticast = false ∧ address.ip.isBroadcast = false := by
  obtain ⟨cidr, accepted⟩ :=
    LawfulSmoltcp.ipCidr_ok address.ip address.prefixBound
  rw [← isUnicast_or_isUnspecified_iff,
    ← LawfulSmoltcp.pushIpAddr_ok_iff accepted]
  simp only [SmolEngine.new, accepted]
  constructor
  · rintro ⟨engine, built⟩
    split at built
    · cases built
    · rename_i iface pushed
      exact ⟨iface, pushed⟩
  · rintro ⟨iface, pushed⟩
    obtain ⟨routed, added⟩ :=
      LawfulSmoltcp.addDefaultIpv4Route_ok pushed ⟨0, 0, 0, 1⟩
    simp only [pushed, added]
    exact ⟨_, rfl⟩

/-- A built engine has no sockets. -/
theorem sockets_new
    {engine : SmolEngine Tcp Icmp}
    (built : SmolEngine.new address = .ok engine) :
    engine.sockets = SlotMaps.empty := by
  simp only [SmolEngine.new] at built
  split at built
  · cases built
  · split at built
    · cases built
    · split at built <;> cases built
      rfl

end Start

/--
Every accepted profile builds an engine exactly when the address the text
selects names no group of hosts, or the text is rejected.
-/
theorem parse_buildsEngine_iff
    [Smoltcp]
    [LawfulSmoltcp]
    {Tcp Icmp : Type}
    (decoder : ProfileDecoder)
    (input : List Char) :
    (∀ profile,
      WireGuardProfile.parse decoder input = .ok profile →
      ∃ engine : SmolEngine Tcp Icmp,
        SmolEngine.new profile.address = .ok engine) ↔
      (∀ network,
        latest (addressOf decoder) (profileLines input) = some network →
        network.ip.isMulticast = false ∧
        network.ip.isBroadcast = false) ∨
      ¬ NoPeerAfterPublicKey (profileLines input) ∨
      (∃ line,
        line ∈ profileLines input ∧ ¬ LineOk decoder line) ∨
      ¬ RequiredFields decoder (profileLines input) := by
  rw [← not_accepted_iff, ← exists_parse_ok_iff]
  simp only [exists_new_ok_iff]
  constructor
  · intro builds
    by_cases accepted :
        ∃ profile, WireGuardProfile.parse decoder input = .ok profile
    · obtain ⟨profile, parsed⟩ := accepted
      refine .inl fun network selected => ?_
      rw [(parse_ok_iff.mp parsed).address] at selected
      cases selected
      exact builds profile parsed
    · exact .inr accepted
  · rintro (selectable | rejected) profile parsed
    · exact selectable profile.address (parse_ok_iff.mp parsed).address
    · exact (rejected ⟨profile, parsed⟩).elim

/-- A profile whose interface address is a multicast address. -/
def multicastAddress : List Char :=
  joinLines [
    "[Interface]",
    "PrivateKey = AAAAAAAAAAAAAAAAAAAAAAAAAAAAAAAAAAAAAAAAAAA=",
    "Address = 224.0.0.1/4",
    "[Peer]",
    "PublicKey = AAAAAAAAAAAAAAAAAAAAAAAAAAAAAAAAAAAAAAAAAAE=",
    "Endpoint = first.example:51820",
    "AllowedIPs = 10.0.0.0/24"
  ]

/-- On a bounded interface the condition rules out such an address. -/
theorem parse_buildsEngine_iff_multicastAddress :
    (∀ profile,
      WireGuardProfile.parse standardDecoder multicastAddress =
        .ok profile →
      ∃ engine : SmolEngine Unit Unit,
        SmolEngine.new profile.address = .ok engine) ↔
      (∀ network,
        latest (addressOf standardDecoder) (profileLines multicastAddress) =
          some network →
        network.ip.isMulticast = false ∧
        network.ip.isBroadcast = false) ∨
      ¬ NoPeerAfterPublicKey (profileLines multicastAddress) ∨
      (∃ line,
        line ∈ profileLines multicastAddress ∧
        ¬ LineOk standardDecoder line) ∨
      ¬ RequiredFields standardDecoder (profileLines multicastAddress) :=
  parse_buildsEngine_iff standardDecoder multicastAddress

/-- Not every accepted profile builds an engine. -/
theorem multicastAddress_panics :
    ¬ ∀ [Smoltcp] [LawfulSmoltcp] input profile,
      WireGuardProfile.parse standardDecoder input = .ok profile →
      ∃ engine : SmolEngine Unit Unit,
        SmolEngine.new profile.address = .ok engine := by
  intro builds
  have selected :
      (WireGuardProfile.parse standardDecoder multicastAddress).toOption.map
        (fun profile => profile.address.ip.isMulticast) = some true := by
    decide
  cases parsed :
      WireGuardProfile.parse standardDecoder multicastAddress with
  | error error =>
      simp [parsed, Except.toOption] at selected
  | ok profile =>
      have single :=
        exists_new_ok_iff.mp (builds multicastAddress profile parsed)
      simp only [parsed, Except.toOption, Option.map_some,
        Option.some.injEq] at selected
      rw [single.1] at selected
      cases selected

end Waker
