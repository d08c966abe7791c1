import Waker.ProfileAcceptance
import Waker.StandardDecoder

namespace Waker

open Latest

/-!
# Malformed fields

Every recognised field but the interface address propagates its parse error.
The `Address` arm looks for the first entry that parses as an IPv4 network and
skips the others without a message.
-/

/-- Every value given to a recognised field is well formed. -/
structure FieldsWellFormed
    (decoder : ProfileDecoder)
    (lines : List ProfileLine) : Prop where
  address :
    ∀ value, value ∈ values .address lines → IsNetworkList decoder value
  privateKey :
    ∀ value, value ∈ values .privateKey lines → IsKey decoder value
  publicKey :
    ∀ value, value ∈ values .publicKey lines → IsKey decoder value
  presharedKey :
    ∀ value, value ∈ values .presharedKey lines → IsKey decoder value
  allowedIps :
    ∀ value, value ∈ values .allowedIps lines → IsNetworkList decoder value
  persistentKeepalive :
    ∀ value, value ∈ values .persistentKeepalive lines → IsKeepalive value

/-- In acceptable lines only an interface address may be malformed. -/
theorem fieldsWellFormed_iff
    {decoder : ProfileDecoder}
    {lines : List ProfileLine}
    (linesOk : ∀ line, line ∈ lines → LineOk decoder line) :
    FieldsWellFormed decoder lines ↔
      ∀ value,
        value ∈ values .address lines →
        IsNetworkList decoder value := by
  constructor
  · intro wellFormed
    exact wellFormed.address
  · intro addresses
    exact {
      address := addresses
      privateKey := fun _ member =>
        linesOk _ (mem_values_iff.mp member)
      publicKey := fun _ member =>
        linesOk _ (mem_values_iff.mp member)
      presharedKey := fun _ member =>
        linesOk _ (mem_values_iff.mp member)
      allowedIps := fun _ member =>
        linesOk _ (mem_values_iff.mp member)
      persistentKeepalive := fun _ member =>
        linesOk _ (mem_values_iff.mp member)
    }

/--
An accepted text has well-formed fields exactly when its interface addresses
are well formed or it is rejected for another reason.
-/
theorem parse_fieldsWellFormed_iff
    (decoder : ProfileDecoder)
    (input : List Char) :
    (∀ profile,
      WireGuardProfile.parse decoder input = .ok profile →
      FieldsWellFormed decoder (profileLines input)) ↔
      (∀ value,
        value ∈ values .address (profileLines input) →
        IsNetworkList decoder value) ∨
      ¬ NoPeerAfterPublicKey (profileLines input) ∨
      (∃ line,
        line ∈ profileLines input ∧ ¬ LineOk decoder line) ∨
      ¬ RequiredFields decoder (profileLines input) := by
  rw [← not_accepted_iff, ← exists_parse_ok_iff]
  by_cases accepted :
      ∃ profile, WireGuardProfile.parse decoder input = .ok profile
  · have linesOk := (exists_parse_ok_iff.mp accepted).linesOk
    obtain ⟨profile, parsed⟩ := accepted
    simp only [parsed, Except.ok.injEq, forall_eq',
      fieldsWellFormed_iff linesOk, exists_eq', not_true_eq_false,
      or_false]
  · have never :
        ∀ profile,
          WireGuardProfile.parse decoder input = .ok profile →
          FieldsWellFormed decoder (profileLines input) :=
      fun profile parsed => (accepted ⟨profile, parsed⟩).elim
    exact iff_of_true never (.inr accepted)

/-- A mistyped second address that is dropped without a message. -/
def mistypedAddress : List Char :=
  joinLines [
    "[Interface]",
    "PrivateKey = AAAAAAAAAAAAAAAAAAAAAAAAAAAAAAAAAAAAAAAAAAA=",
    "Address = 10.0.0.2/24, 10.0.0.256/24",
    "[Peer]",
    "PublicKey = AAAAAAAAAAAAAAAAAAAAAAAAAAAAAAAAAAAAAAAAAAE=",
    "Endpoint = first.example:51820",
    "AllowedIPs = 10.0.0.0/24"
  ]

/-- Not every accepted text has well-formed fields. -/
theorem mistypedAddress_accepted :
    ¬ ∀ input profile,
      WireGuardProfile.parse standardDecoder input = .ok profile →
      FieldsWellFormed standardDecoder (profileLines input) := by
  intro wellFormed
  have accepted :
      (WireGuardProfile.parse standardDecoder mistypedAddress).isOk =
        true := by
    decide
  cases parsed :
      WireGuardProfile.parse standardDecoder mistypedAddress with
  | error error =>
      rw [parsed] at accepted
      cases accepted
  | ok profile =>
      have assigned :
          "10.0.0.2/24, 10.0.0.256/24".toList ∈
            values .address (profileLines mistypedAddress) := by
        decide
      obtain ⟨network, malformed⟩ :=
        (wellFormed mistypedAddress profile parsed).address _ assigned
          "10.0.0.256/24".toList (by decide)
      have skipped :
          (standardDecoder.parseIpNetwork
            "10.0.0.256/24".toList).isOk = false := by
        decide
      rw [malformed] at skipped
      cases skipped

end Waker
