import Waker.WireGuardBackend

namespace Waker

/-!
# Resolving the endpoint

The resolved addresses are tried in order, and the first one that does not look
like a filtered answer is taken.  An IPv4-mapped address denotes an IPv4
address, but only one of the tests looks through the mapping.
-/

namespace Ipv4Addr

/-- The addresses of `127.0.0.0/8`. -/
def isLoopback (address : Ipv4Addr) : Bool :=
  address.a = 127

/-- The octets of an address as a 32-bit suffix of an IPv6 address. -/
def toIpv6Mapped (address : Ipv4Addr) : Vector UInt16 8 :=
  #v[0, 0, 0, 0, 0, 0xffff,
    UInt16.ofNat (address.a.toNat * 256 + address.b.toNat),
    UInt16.ofNat (address.c.toNat * 256 + address.d.toNat)]

end Ipv4Addr

namespace Ipv6Addr

/-- The first six segments of a mapped address. -/
def mappedPrefix : List UInt16 :=
  [0, 0, 0, 0, 0, 0xffff]

/-- The IPv4 address of a mapped address `::ffff:a.b.c.d`. -/
def toIpv4Mapped (segments : Vector UInt16 8) : Option Ipv4Addr :=
  if segments.toList.take 6 = mappedPrefix then
    some ⟨UInt8.ofNat (segments[6].toNat / 256),
      UInt8.ofNat (segments[6].toNat % 256),
      UInt8.ofNat (segments[7].toNat / 256),
      UInt8.ofNat (segments[7].toNat % 256)⟩
  else
    none

/-- The address `::`. -/
def isUnspecified (segments : Vector UInt16 8) : Bool :=
  segments = #v[0, 0, 0, 0, 0, 0, 0, 0]

/-- The address `::1`. -/
def isLoopback (segments : Vector UInt16 8) : Bool :=
  segments = #v[0, 0, 0, 0, 0, 0, 0, 1]

/-- The addresses of `ff00::/8`. -/
def isMulticast (segments : Vector UInt16 8) : Bool :=
  segments[0] / 256 = 255

/-- The longest run of zero segments, and the run that is being read. -/
structure ZeroRuns where
  longest : Nat × Nat
  current : Nat × Nat

/-- Extend or end the current run with the segment at an index. -/
def ZeroRuns.read
    (runs : ZeroRuns)
    (segment : UInt16 × Nat) : ZeroRuns :=
  if segment.1 = 0 then
    let start := if runs.current.2 = 0 then segment.2 else runs.current.1
    let current := (start, runs.current.2 + 1)
    { longest := if runs.longest.2 < current.2 then current else runs.longest
      current := current }
  else
    { runs with current := (0, 0) }

/-- Segments in hexadecimal, with colons between them. -/
def displaySegments (segments : List UInt16) : String :=
  ":".intercalate
    (segments.map fun segment =>
      String.ofList (Nat.toDigits 16 segment.toNat))

/-- The text of an address, its longest run of zeros left out. -/
def display (segments : Vector UInt16 8) : String :=
  match toIpv4Mapped segments with
  | some address => "::ffff:" ++ address.display
  | none =>
      let runs :=
        segments.toList.zipIdx.foldl ZeroRuns.read ⟨(0, 0), (0, 0)⟩
      let (start, length) := runs.longest
      if 1 < length then
        displaySegments (segments.toList.take start) ++ "::" ++
          displaySegments (segments.toList.drop (start + length))
      else
        displaySegments segments.toList

end Ipv6Addr

namespace IpAddress

/-- The text of an address. -/
def display : IpAddress → String
  | .ipv4 address => address.display
  | .ipv6 segments => Ipv6Addr.display segments

/-- The address of no host. -/
def isUnspecified : IpAddress → Bool
  | .ipv4 address => address.isUnspecified
  | .ipv6 segments => Ipv6Addr.isUnspecified segments

/-- An address of the host itself. -/
def isLoopback : IpAddress → Bool
  | .ipv4 address => address.isLoopback
  | .ipv6 segments => Ipv6Addr.isLoopback segments

/-- A group address. -/
def isMulticast : IpAddress → Bool
  | .ipv4 address => address.isMulticast
  | .ipv6 segments => Ipv6Addr.isMulticast segments

/-- The IPv4 address that an address is or maps. -/
def toIpv4? : IpAddress → Option Ipv4Addr
  | .ipv4 address => some address
  | .ipv6 segments => Ipv6Addr.toIpv4Mapped segments

end IpAddress

/-- The block pages of a filtering resolver. -/
def isBlockPage (address : Ipv4Addr) : Bool :=
  address.a = 146 && address.b = 112 && address.c = 61 &&
    [104, 105, 106, 107, 108, 110].contains address.d

/-- Why a resolved address looks like a filtered answer. -/
def suspiciousDnsResult (address : IpAddress) : Option String :=
  if address.toIpv4?.any isBlockPage then
    some "is a Cisco Umbrella/OpenDNS block-page address"
  else if address.isUnspecified then
    some "is an unusable unspecified address"
  else if address.isLoopback then
    some
      "is a loopback address rather than the configured internet endpoint"
  else if address.isMulticast then
    some
      "is a multicast address rather than the configured internet endpoint"
  else
    none

/-- The first address that is not suspicious, or the reasons against all. -/
def selectEndpoint :
    List SocketAddr → List (IpAddress × String) →
    Except (List (IpAddress × String)) SocketAddr
  | [], rejected => .error rejected
  | address :: rest, rejected =>
      match suspiciousDnsResult address.ip with
      | some reason => selectEndpoint rest (rejected ++ [(address.ip, reason)])
      | none => .ok address

/-- Resolve an endpoint that is a socket address or a name with a port. -/
def resolveEndpoint
    (fromStr : List Char → Option SocketAddr)
    (lookupHost : List Char → Except String (List SocketAddr))
    (endpoint : List Char) : Except NetError SocketAddr :=
  match fromStr endpoint with
  | some address => .ok address
  | none =>
      match lookupHost endpoint with
      | .error error =>
          .error (.network
            ("WireGuard endpoint DNS lookup failed for " ++
              String.ofList endpoint ++ ": " ++ error ++
              ". Check the current network's DNS/internet access."))
      | .ok resolved =>
          match selectEndpoint resolved [] with
          | .ok address => .ok address
          | .error rejected =>
              match rejected.head? with
              | some (address, reason) =>
                  .error (.network
                    ("WireGuard endpoint DNS for " ++
                      String.ofList endpoint ++ " resolved to " ++
                      address.display ++ ", which " ++ reason ++
                      ". The current network may be filtering or blocking " ++
                      "the MyFRITZ hostname; try mobile data or another " ++
                      "network."))
              | none =>
                  .error (.network
                    ("WireGuard endpoint DNS lookup for " ++
                      String.ofList endpoint ++ " returned no addresses"))

/-- The address that is meant, in the notation of its own family. -/
def IpAddress.denoted (address : IpAddress) : IpAddress :=
  match address.toIpv4? with
  | some denoted => .ipv4 denoted
  | none => address

/-- An address that the code does not find suspicious. -/
def PassesFilter (address : SocketAddr) : Bool :=
  (suspiciousDnsResult address.ip).isNone

/-- An address is acceptable if the address that it denotes is. -/
def Acceptable (address : SocketAddr) : Bool :=
  (suspiciousDnsResult address.ip.denoted).isNone

/-- An IPv4 address that no endpoint on the internet has. -/
def Ipv4Addr.isUnusable (address : Ipv4Addr) : Bool :=
  address.isUnspecified || address.isLoopback || address.isMulticast

/-- A mapped address that hides an unusable one. -/
def Disguised : SocketAddr → Bool
  | { ip := .ipv4 _, .. } => false
  | { ip := .ipv6 segments, .. } =>
      (Ipv6Addr.toIpv4Mapped segments).any Ipv4Addr.isUnusable

/-- The result is the first acceptable address, or an error without one. -/
structure TakesFirstAcceptable
    (resolved : List SocketAddr)
    (result : Except NetError SocketAddr) : Prop where
  taken :
    ∀ address,
      result = .ok address ↔ resolved.find? Acceptable = some address
  refused :
    (∃ error, result = .error error) ↔
      ∀ address, address ∈ resolved → Acceptable address = false

/-- A mapped address denotes the IPv4 address that it maps. -/
theorem toIpv4Mapped_toIpv6Mapped (address : Ipv4Addr) :
    Ipv6Addr.toIpv4Mapped address.toIpv6Mapped = some address := by
  obtain ⟨a, b, c, d⟩ := address
  have upper (high low : UInt8) :
      UInt8.ofNat
          ((UInt16.ofNat (high.toNat * 256 + low.toNat)).toNat / 256) =
        high := by
    have highBound := high.toNat_lt
    have lowBound := low.toNat_lt
    have whole :
        (high.toNat * 256 + low.toNat) % 2 ^ 16 =
          high.toNat * 256 + low.toNat :=
      Nat.mod_eq_of_lt (by omega)
    rw [UInt16.toNat_ofNat', whole,
      show (high.toNat * 256 + low.toNat) / 256 = high.toNat by omega,
      UInt8.ofNat_toNat]
  have lower (high low : UInt8) :
      UInt8.ofNat
          ((UInt16.ofNat (high.toNat * 256 + low.toNat)).toNat % 256) =
        low := by
    have highBound := high.toNat_lt
    have lowBound := low.toNat_lt
    have whole :
        (high.toNat * 256 + low.toNat) % 2 ^ 16 =
          high.toNat * 256 + low.toNat :=
      Nat.mod_eq_of_lt (by omega)
    rw [UInt16.toNat_ofNat', whole,
      show (high.toNat * 256 + low.toNat) % 256 = low.toNat by omega,
      UInt8.ofNat_toNat]
  have isMapped :
      (Ipv4Addr.toIpv6Mapped ⟨a, b, c, d⟩).toList.take 6 =
        Ipv6Addr.mappedPrefix :=
    rfl
  rw [Ipv6Addr.toIpv4Mapped, if_pos isMapped]
  exact congrArg some
    (Ipv4Addr.mk.injEq .. ▸ ⟨upper a b, lower a b, upper c d, lower c d⟩)

/-- A mapped address is acceptable when the IPv4 address is. -/
theorem acceptable_toIpv6Mapped
    (address : Ipv4Addr)
    (port : UInt16) :
    Acceptable ⟨.ipv6 address.toIpv6Mapped, port⟩ =
      Acceptable ⟨.ipv4 address, port⟩ := by
  simp [Acceptable, IpAddress.denoted, IpAddress.toIpv4?,
    toIpv4Mapped_toIpv6Mapped]

/-- A mapped address is itself neither unspecified, loopback nor multicast. -/
theorem not_special_of_mapped
    {segments : Vector UInt16 8}
    (mapped : segments.toList.take 6 = Ipv6Addr.mappedPrefix) :
    Ipv6Addr.isUnspecified segments = false ∧
      Ipv6Addr.isLoopback segments = false ∧
      Ipv6Addr.isMulticast segments = false := by
  have first : segments[0] = 0 := by
    have head := congrArg List.head? mapped
    rw [List.head?_take, if_neg (by decide), List.head?_eq_getElem?,
      Vector.getElem?_toList, Vector.getElem?_eq_getElem (by decide)] at head
    exact Option.some.inj head
  refine ⟨?_, ?_, ?_⟩
  · refine decide_eq_false fun same => ?_
    rw [same] at mapped
    exact absurd mapped (by decide)
  · refine decide_eq_false fun same => ?_
    rw [same] at mapped
    exact absurd mapped (by decide)
  · rw [Ipv6Addr.isMulticast, first]
    rfl

/-- A block page is not one of the unusable addresses. -/
theorem isUnusable_of_isBlockPage
    {address : Ipv4Addr}
    (isPage : isBlockPage address = true) :
    address.isUnusable = false := by
  obtain ⟨a, b, c, d⟩ := address
  have first : a = 146 := by
    simp only [isBlockPage, Bool.and_eq_true, decide_eq_true_eq] at isPage
    exact isPage.1.1.1
  subst first
  simp [Ipv4Addr.isUnusable, Ipv4Addr.isUnspecified, Ipv4Addr.isLoopback,
    Ipv4Addr.isMulticast]

/-- An IPv4 address passes when it is neither a block page nor unusable. -/
theorem suspicious_ipv4_isNone_iff (address : Ipv4Addr) :
    (suspiciousDnsResult (.ipv4 address)).isNone = true ↔
      isBlockPage address = false ∧ address.isUnusable = false := by
  unfold suspiciousDnsResult
  simp only [IpAddress.toIpv4?, IpAddress.isUnspecified,
    IpAddress.isLoopback, IpAddress.isMulticast, Option.any_some,
    Ipv4Addr.isUnusable]
  by_cases page : isBlockPage address <;>
    by_cases unspecified : address.isUnspecified <;>
    by_cases loopback : address.isLoopback <;>
    by_cases multicast : address.isMulticast <;>
    simp [page, unspecified, loopback, multicast]

/-- A mapped address passes when it is not a block page. -/
theorem suspicious_mapped_isNone_iff
    {segments : Vector UInt16 8}
    {address : Ipv4Addr}
    (mapped : Ipv6Addr.toIpv4Mapped segments = some address) :
    (suspiciousDnsResult (.ipv6 segments)).isNone = true ↔
      isBlockPage address = false := by
  have isMapped : segments.toList.take 6 = Ipv6Addr.mappedPrefix := by
    by_contra other
    rw [Ipv6Addr.toIpv4Mapped, if_neg other] at mapped
    cases mapped
  obtain ⟨unspecified, loopback, multicast⟩ := not_special_of_mapped isMapped
  unfold suspiciousDnsResult
  simp only [IpAddress.toIpv4?, IpAddress.isUnspecified,
    IpAddress.isLoopback, IpAddress.isMulticast, mapped, Option.any_some,
    unspecified, loopback, multicast]
  by_cases page : isBlockPage address <;> simp [page]

/-- The code takes the acceptable addresses and the disguised ones. -/
theorem passesFilter_iff (address : SocketAddr) :
    PassesFilter address = true ↔
      Acceptable address = true ∨ Disguised address = true := by
  obtain ⟨ip, port⟩ := address
  unfold PassesFilter
  cases ip with
  | ipv4 ipv4 =>
      simp [Acceptable, IpAddress.denoted, IpAddress.toIpv4?, Disguised]
  | ipv6 segments =>
      cases mapped : Ipv6Addr.toIpv4Mapped segments with
      | none =>
          simp [Acceptable, IpAddress.denoted, IpAddress.toIpv4?, Disguised,
            mapped]
      | some denoted =>
          have accepted :
              Acceptable ⟨.ipv6 segments, port⟩ = true ↔
                isBlockPage denoted = false ∧ denoted.isUnusable = false := by
            rw [← suspicious_ipv4_isNone_iff]
            simp [Acceptable, IpAddress.denoted, IpAddress.toIpv4?, mapped]
          have hidden :
              Disguised ⟨.ipv6 segments, port⟩ = denoted.isUnusable := by
            simp [Disguised, mapped]
          rw [suspicious_mapped_isNone_iff mapped, accepted, hidden]
          cases isPage : isBlockPage denoted with
          | false =>
              cases denoted.isUnusable <;> simp
          | true =>
              simp [isUnusable_of_isBlockPage isPage]

/-- An acceptable address is not disguised. -/
theorem not_disguised_of_acceptable
    {address : SocketAddr}
    (acceptable : Acceptable address = true) :
    Disguised address = false := by
  obtain ⟨ip, port⟩ := address
  cases ip with
  | ipv4 ipv4 =>
      rfl
  | ipv6 segments =>
      cases mapped : Ipv6Addr.toIpv4Mapped segments with
      | none =>
          simp [Disguised, mapped]
      | some denoted =>
          have passes :
              (suspiciousDnsResult (.ipv4 denoted)).isNone = true := by
            simpa [Acceptable, IpAddress.denoted, IpAddress.toIpv4?, mapped]
              using acceptable
          simpa [Disguised, mapped] using
            ((suspicious_ipv4_isNone_iff denoted).mp passes).2

/-- The loop takes the first address that is not suspicious. -/
theorem selectEndpoint_eq
    (resolved : List SocketAddr)
    (rejected : List (IpAddress × String)) :
    (∃ reasons,
      selectEndpoint resolved rejected = .error reasons ∧
        resolved.find? PassesFilter = none) ∨
    ∃ address,
      selectEndpoint resolved rejected = .ok address ∧
        resolved.find? PassesFilter = some address := by
  induction resolved generalizing rejected with
  | nil =>
      exact .inl ⟨rejected, rfl, rfl⟩
  | cons address rest inductionHypothesis =>
      cases reason : suspiciousDnsResult address.ip with
      | none =>
          refine .inr ⟨address, ?_, ?_⟩
          · simp only [selectEndpoint, reason]
          · rw [List.find?_cons_of_pos (by simp [PassesFilter, reason])]
      | some reason' =>
          rw [List.find?_cons_of_neg (by simp [PassesFilter, reason])]
          simp only [selectEndpoint, reason]
          exact inductionHypothesis _

/-- Every disguised address comes after an acceptable one. -/
def NoDisguiseFirst (resolved : List SocketAddr) : Prop :=
  ∀ before address after,
    resolved = before ++ address :: after →
    Disguised address = true →
    ∃ earlier, earlier ∈ before ∧ Acceptable earlier = true

/--
The first address that the code takes is the first acceptable one when no
disguised address comes before it.
-/
theorem find?_eq_iff_noDisguiseFirst (resolved : List SocketAddr) :
    resolved.find? PassesFilter = resolved.find? Acceptable ↔
      NoDisguiseFirst resolved := by
  induction resolved with
  | nil =>
      refine iff_of_true rfl ?_
      intro before address after shape
      simp at shape
  | cons address rest inductionHypothesis =>
      by_cases acceptable : Acceptable address = true
      · rw [List.find?_cons_of_pos
            ((passesFilter_iff address).mpr (.inl acceptable)),
          List.find?_cons_of_pos acceptable]
        refine iff_of_true rfl fun before other after shape disguised => ?_
        cases before with
        | nil =>
            cases shape
            rw [not_disguised_of_acceptable acceptable] at disguised
            cases disguised
        | cons head before =>
            cases shape
            exact ⟨address, List.mem_cons_self, acceptable⟩
      · by_cases disguised : Disguised address = true
        · rw [List.find?_cons_of_pos
              ((passesFilter_iff address).mpr (.inr disguised)),
            List.find?_cons_of_neg acceptable]
          refine iff_of_false (fun same => ?_) fun noDisguise => ?_
          · exact acceptable (List.find?_some same.symm)
          · obtain ⟨earlier, member, _⟩ :=
              noDisguise [] address rest rfl disguised
            cases member
        · have passes :
              ¬ PassesFilter address = true := by
            rw [passesFilter_iff]
            exact fun either => either.elim acceptable disguised
          rw [List.find?_cons_of_neg passes,
            List.find?_cons_of_neg acceptable, inductionHypothesis]
          constructor
          · intro later before other after shape otherDisguised
            cases before with
            | nil =>
                cases shape
                exact (disguised otherDisguised).elim
            | cons head before =>
                cases shape
                obtain ⟨earlier, member, isAcceptable⟩ :=
                  later before other after rfl otherDisguised
                exact ⟨earlier, List.mem_cons_of_mem _ member, isAcceptable⟩
          · intro whole before other after shape otherDisguised
            obtain ⟨earlier, member, isAcceptable⟩ :=
              whole (address :: before) other after (by rw [shape]; rfl)
                otherDisguised
            rcases List.mem_cons.mp member with rfl | member
            · exact (acceptable isAcceptable).elim
            · exact ⟨earlier, member, isAcceptable⟩

/-- What a lookup of a name resolves to. -/
theorem resolveEndpoint_eq
    {fromStr : List Char → Option SocketAddr}
    {lookupHost : List Char → Except String (List SocketAddr)}
    {endpoint : List Char}
    {resolved : List SocketAddr}
    (isName : fromStr endpoint = none)
    (looked : lookupHost endpoint = .ok resolved) :
    (∃ error,
      resolveEndpoint fromStr lookupHost endpoint = .error error ∧
        resolved.find? PassesFilter = none) ∨
    ∃ address,
      resolveEndpoint fromStr lookupHost endpoint = .ok address ∧
        resolved.find? PassesFilter = some address := by
  unfold resolveEndpoint
  simp only [isName, looked]
  rcases selectEndpoint_eq resolved [] with
    ⟨reasons, refused, none⟩ | ⟨address, taken, found⟩
  · refine .inl ?_
    rw [refused]
    cases reasons with
    | nil =>
        exact ⟨_, rfl, none⟩
    | cons first others =>
        exact ⟨_, rfl, none⟩
  · rw [taken]
    exact .inr ⟨address, rfl, found⟩

/--
Resolving a name takes the first acceptable address, or fails without one,
exactly when every disguised address comes after an acceptable one.
-/
theorem resolveEndpoint_takesFirst_iff
    {fromStr : List Char → Option SocketAddr}
    {lookupHost : List Char → Except String (List SocketAddr)}
    {endpoint : List Char}
    {resolved : List SocketAddr}
    (isName : fromStr endpoint = none)
    (looked : lookupHost endpoint = .ok resolved) :
    TakesFirstAcceptable resolved
        (resolveEndpoint fromStr lookupHost endpoint) ↔
      NoDisguiseFirst resolved := by
  rw [← find?_eq_iff_noDisguiseFirst]
  have noneAcceptable :
      (∀ address, address ∈ resolved → Acceptable address = false) ↔
        resolved.find? Acceptable = none := by
    simp
  rcases resolveEndpoint_eq isName looked with
    ⟨error, refused, none⟩ | ⟨address, taken, found⟩
  · rw [refused, none]
    constructor
    · intro takes
      exact (noneAcceptable.mp (takes.refused.mp ⟨error, rfl⟩)).symm
    · intro same
      refine ⟨fun address => ?_, ?_⟩
      · rw [← same]
        simp
      · exact iff_of_true ⟨error, rfl⟩ (noneAcceptable.mpr same.symm)
  · rw [taken, found]
    constructor
    · exact fun takes => ((takes.taken address).mp rfl).symm
    · intro same
      refine ⟨fun other => ?_, ?_⟩
      · rw [← same]
        simp
      · refine iff_of_false (by simp) fun refused => ?_
        rw [noneAcceptable.mp refused] at same
        cases same

/-- The endpoint of a profile, by name. -/
def myFritzEndpoint : List Char :=
  ['m', 'y', '.', 'f', 'r', 'i', 't', 'z', ':', '5', '1', '8', '2', '0']

/-- The loopback address in the notation of IPv6. -/
def mappedLoopback : SocketAddr :=
  ⟨.ipv6 (Ipv4Addr.toIpv6Mapped ⟨127, 0, 0, 1⟩), 51820⟩

/-- A public address. -/
def publicAddress : SocketAddr :=
  ⟨.ipv4 ⟨1, 1, 1, 1⟩, 51820⟩

/-- A mapped loopback address is taken, although a usable one follows. -/
theorem mappedLoopback_taken :
    resolveEndpoint (fun _ => none)
        (fun _ => .ok [mappedLoopback, publicAddress]) myFritzEndpoint =
      .ok mappedLoopback ∧
    ¬ TakesFirstAcceptable [mappedLoopback, publicAddress]
      (resolveEndpoint (fun _ => none)
        (fun _ => .ok [mappedLoopback, publicAddress]) myFritzEndpoint) := by
  have taken :
      resolveEndpoint (fun _ => none)
          (fun _ => .ok [mappedLoopback, publicAddress]) myFritzEndpoint =
        .ok mappedLoopback :=
    rfl
  refine ⟨taken, fun takes => ?_⟩
  have first := (takes.taken mappedLoopback).mp taken
  exact absurd first (by decide)

/-- A name whose public address stands before a mapped loopback address. -/
theorem resolveEndpoint_takesFirst_iff_public :
    TakesFirstAcceptable [publicAddress, mappedLoopback]
        (resolveEndpoint (fun _ => none)
          (fun _ => .ok [publicAddress, mappedLoopback]) myFritzEndpoint) ∧
      Disguised mappedLoopback = true := by
  refine ⟨(resolveEndpoint_takesFirst_iff rfl rfl).mpr ?_, by decide⟩
  rw [← find?_eq_iff_noDisguiseFirst]
  decide

end Waker
