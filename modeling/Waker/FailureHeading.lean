import Waker.EndpointResolution
import Waker.Ipv4Text
import Waker.WakeScreen

namespace Waker

/-!
# The heading of a failed name resolution

The app recognises a failed name resolution by the text that the network crate
has put into the error.  The text also holds the name, what the system says and
an address; none of them may pass for the marks that the app looks for.
-/

/-- What the app looks for to name a filtering resolver. -/
def blockPageMark : List Char :=
  "Cisco Umbrella/OpenDNS block-page address".toList

/-- What the app looks for to name a failed resolution. -/
def resolutionMark : List Char :=
  "WireGuard endpoint DNS".toList

/-- The network resolves endpoints with the given lookups. -/
def Network.Resolves
    {Env : Type}
    (network : Network Env)
    (fromStr : List Char → Option SocketAddr)
    (lookupHost : Env → List Char → Except String (List SocketAddr)) : Prop :=
  ∀ endpoint env,
    (network.resolveEndpoint endpoint env).1 =
      Waker.resolveEndpoint fromStr (lookupHost env) endpoint

/-- A lookup that fails or finds only addresses that look filtered. -/
def NoEndpoint : Except String (List SocketAddr) → Prop
  | .error _ => True
  | .ok resolved => resolved.find? PassesFilter = none

/-- The first address of a lookup is a block page. -/
def blockPageFirst : Except String (List SocketAddr) → Bool
  | .error _ => false
  | .ok resolved =>
      resolved.head?.any fun address => address.ip.toIpv4?.any isBlockPage

/-- What the system says of a failed lookup has no slash. -/
def LookupSlashless : Except String (List SocketAddr) → Prop
  | .error error => '/' ∉ error.toList
  | .ok _ => True

section Marks

variable {pattern : List Char}
variable {first second : String}

/-- What occurs in the first part of a text occurs in it. -/
theorem infix_append_of_first
    (inside : pattern <:+: first.toList)
    (second : String) :
    pattern <:+: (first ++ second).toList := by
  rw [String.toList_append]
  exact inside.trans (List.prefix_append _ _).isInfix

/-- What occurs in the second part of a text occurs in it. -/
theorem infix_append_of_second
    (first : String)
    (inside : pattern <:+: second.toList) :
    pattern <:+: (first ++ second).toList := by
  rw [String.toList_append]
  exact inside.trans (List.suffix_append _ _).isInfix

/-- A text that is put together without slashes has none. -/
theorem slashless_append
    (free : '/' ∉ first.toList)
    (alsoFree : '/' ∉ second.toList) :
    '/' ∉ (first ++ second).toList := by
  rw [String.toList_append, List.mem_append]
  exact not_or.mpr ⟨free, alsoFree⟩

/-- The mark of a block page has a slash before a capital letter. -/
theorem slash_infix_of_mark
    {text : List Char}
    (marked : blockPageMark <:+: text) :
    ['/', 'O'] <:+: text :=
  List.IsInfix.trans (by decide +kernel) marked

/-- A text without slashes has no slash before a capital letter. -/
theorem unmarked_of_slashless
    (free : '/' ∉ first.toList) :
    ¬ ['/', 'O'] <:+: first.toList := by
  intro slash
  exact free (slash.subset (by simp))

/-- Nor does a text whose only slash is in a harmless last part. -/
theorem unmarked_append
    (free : '/' ∉ first.toList)
    (harmless : ¬ ['/', 'O'] <:+: second.toList) :
    ¬ ['/', 'O'] <:+: (first ++ second).toList := by
  rw [String.toList_append, Text.infix_append_iff_of_first_not_mem free]
  exact harmless

end Marks

section Addresses

/-- A hexadecimal digit is not a slash. -/
theorem digitChar_ne_slash
    {digit : Nat}
    (small : digit < 16) :
    digit.digitChar ≠ '/' := by
  have all : ∀ value, value < 16 → Nat.digitChar value ≠ '/' := by
    decide
  exact all digit small

/-- A number in hexadecimal has no slash. -/
theorem slash_not_mem_toDigits (number : Nat) :
    '/' ∉ Nat.toDigits 16 number := by
  induction number using Nat.strong_induction_on with
  | _ number inductionHypothesis =>
      rw [Nat.toDigits_eq_if (by decide)]
      split
      · next small =>
          simp [(digitChar_ne_slash small).symm]
      · next large =>
          have last := digitChar_ne_slash (Nat.mod_lt number (by decide))
          have front :=
            inductionHypothesis (number / 16)
              (Nat.div_lt_self (by omega) (by decide))
          simp [front, last.symm]

/-- Displayed segments have no slash. -/
theorem slash_not_mem_displaySegments (segments : List UInt16) :
    '/' ∉ (Ipv6Addr.displaySegments segments).toList := by
  rw [Ipv6Addr.displaySegments, String.toList_intercalate,
    show (":" : String).toList = [':'] from rfl, ← Text.join]
  intro member
  rcases Text.mem_join member with colon | ⟨piece, isPiece, inPiece⟩
  · cases colon
  · simp only [List.map_map, List.mem_map, Function.comp_apply] at isPiece
    obtain ⟨segment, _, rfl⟩ := isPiece
    rw [String.toList_ofList] at inPiece
    exact slash_not_mem_toDigits _ inPiece

/-- A displayed IPv4 address has no slash. -/
theorem slash_not_mem_display_ipv4 (address : Ipv4Addr) :
    '/' ∉ address.display.toList := by
  intro member
  rcases Ipv4Addr.mem_display member with digit | dot
  · cases digit
  · cases dot

/-- A displayed address has no slash. -/
theorem slash_not_mem_display (address : IpAddress) :
    '/' ∉ address.display.toList := by
  cases address with
  | ipv4 address =>
      exact slash_not_mem_display_ipv4 address
  | ipv6 segments =>
      rw [IpAddress.display, Ipv6Addr.display]
      split
      · exact slashless_append (by decide) (slash_not_mem_display_ipv4 _)
      · dsimp only
        split
        · exact slashless_append
            (slashless_append (slash_not_mem_displaySegments _) (by decide))
            (slash_not_mem_displaySegments _)
        · exact slash_not_mem_displaySegments _

end Addresses

/--
The detail of a failed resolution has its mark, and the mark of a block page if
the first address is one, but not by accident.
-/
structure MarksResolution
    (endpoint : List Char)
    (looked : Except String (List SocketAddr))
    (detail : String) : Prop where
  resolution : resolutionMark <:+: detail.toList
  blocked : blockPageFirst looked = true → blockPageMark <:+: detail.toList
  other :
    blockPageFirst looked = false →
    '/' ∉ endpoint →
    LookupSlashless looked →
    ¬ ['/', 'O'] <:+: detail.toList

section Resolution

variable {endpoint : List Char}

/-- The reasons against the addresses that look filtered, in their order. -/
theorem selectEndpoint_of_none
    {resolved : List SocketAddr}
    (none : resolved.find? PassesFilter = none)
    (rejected : List (IpAddress × String)) :
    ∃ reasons,
      selectEndpoint resolved rejected = .error (rejected ++ reasons) ∧
      reasons.map (fun reason => (reason.1, some reason.2)) =
        resolved.map fun address =>
          (address.ip, suspiciousDnsResult address.ip) := by
  induction resolved generalizing rejected with
  | nil =>
      exact ⟨[], by rw [List.append_nil]; rfl, rfl⟩
  | cons address rest inductionHypothesis =>
      rw [List.find?_eq_none] at none
      have suspicious := none address List.mem_cons_self
      have others : rest.find? PassesFilter = Option.none := by
        rw [List.find?_eq_none]
        exact fun other member => none other (List.mem_cons_of_mem _ member)
      cases reason : suspiciousDnsResult address.ip with
      | none =>
          exact absurd (by simp [PassesFilter, reason]) suspicious
      | some text =>
          obtain ⟨reasons, selected, same⟩ :=
            inductionHypothesis others (rejected ++ [(address.ip, text)])
          refine ⟨(address.ip, text) :: reasons, ?_, ?_⟩
          · rw [selectEndpoint, reason]
            dsimp only
            rw [selected, List.append_assoc]
            rfl
          · rw [List.map_cons, List.map_cons, same, reason]

/-- Only a block page is rejected with the mark of a block page. -/
theorem suspiciousDnsResult_mark
    {address : IpAddress}
    {reason : String}
    (suspicious : suspiciousDnsResult address = some reason) :
    (address.toIpv4?.any isBlockPage = true →
      blockPageMark <:+: reason.toList) ∧
      (address.toIpv4?.any isBlockPage = false →
        '/' ∉ reason.toList) := by
  unfold suspiciousDnsResult at suspicious
  split at suspicious
  · next page =>
      cases suspicious
      exact ⟨fun _ => by decide +kernel, fun noPage =>
        absurd page (Bool.eq_false_iff.mp noPage)⟩
  · next noPage =>
      refine ⟨fun page => absurd page noPage, fun _ => ?_⟩
      split at suspicious
      · cases suspicious
        decide +kernel
      · split at suspicious
        · cases suspicious
          decide +kernel
        · split at suspicious
          · cases suspicious
            decide +kernel
          · cases suspicious

/-- A failed lookup is marked as a failed resolution. -/
theorem marks_lookupError
    (error : String) :
    MarksResolution endpoint (.error error)
      ("WireGuard endpoint DNS lookup failed for " ++
        String.ofList endpoint ++ ": " ++ error ++
        ". Check the current network's DNS/internet access.") where
  resolution :=
    infix_append_of_first (infix_append_of_first (infix_append_of_first
      (infix_append_of_first (by decide +kernel) _) _) _) _
  blocked page := by cases page
  other _ name said :=
    unmarked_append
      (slashless_append (slashless_append (slashless_append
        (by decide +kernel) (by rwa [String.toList_ofList]))
        (by decide +kernel)) said)
      (by decide +kernel)

/-- An empty answer is marked as a failed resolution. -/
theorem marks_empty :
    MarksResolution endpoint (.ok [])
      ("WireGuard endpoint DNS lookup for " ++ String.ofList endpoint ++
        " returned no addresses") where
  resolution :=
    infix_append_of_first
      (infix_append_of_first (by decide +kernel) _) _
  blocked page := by cases page
  other _ name _ :=
    unmarked_of_slashless
      (slashless_append (slashless_append (by decide +kernel)
        (by rwa [String.toList_ofList])) (by decide +kernel))

/-- A filtered answer is marked by the reason against its first address. -/
theorem marks_rejected
    {address : SocketAddr}
    {rest : List SocketAddr}
    {reason : String}
    (suspicious : suspiciousDnsResult address.ip = some reason) :
    MarksResolution endpoint (.ok (address :: rest))
      ("WireGuard endpoint DNS for " ++ String.ofList endpoint ++
        " resolved to " ++ address.ip.display ++ ", which " ++ reason ++
        ". The current network may be filtering or blocking " ++
        "the MyFRITZ hostname; try mobile data or another " ++
        "network.") where
  resolution :=
    infix_append_of_first (infix_append_of_first (infix_append_of_first
      (infix_append_of_first (infix_append_of_first (infix_append_of_first
        (infix_append_of_first (infix_append_of_first
          (by decide +kernel) _) _) _) _) _) _) _) _
  blocked page := by
    have mark := (suspiciousDnsResult_mark suspicious).1 page
    exact infix_append_of_first (infix_append_of_first
      (infix_append_of_first (infix_append_of_second _ mark) _) _) _
  other noPage name _ := by
    have free := (suspiciousDnsResult_mark suspicious).2 noPage
    exact unmarked_of_slashless
      (slashless_append (slashless_append (slashless_append
        (slashless_append (slashless_append (slashless_append
          (slashless_append (slashless_append (by decide +kernel)
            (by rwa [String.toList_ofList])) (by decide +kernel))
          (slash_not_mem_display _)) (by decide +kernel)) free)
        (by decide +kernel)) (by decide +kernel)) (by decide +kernel))

/-- A failed resolution is an error whose detail is marked. -/
theorem resolveEndpoint_marks
    {fromStr : List Char → Option SocketAddr}
    (lookupHost : List Char → Except String (List SocketAddr))
    (isName : fromStr endpoint = none)
    (unresolved : NoEndpoint (lookupHost endpoint)) :
    ∃ detail,
      resolveEndpoint fromStr lookupHost endpoint =
          .error (.network detail) ∧
        MarksResolution endpoint (lookupHost endpoint) detail := by
  unfold resolveEndpoint
  rw [isName]
  cases looked : lookupHost endpoint with
  | error error =>
      exact ⟨_, rfl, marks_lookupError error⟩
  | ok resolved =>
      rw [looked] at unresolved
      obtain ⟨reasons, selected, same⟩ :=
        selectEndpoint_of_none unresolved []
      dsimp only
      rw [selected, List.nil_append]
      cases resolved with
      | nil =>
          rw [List.map_nil, List.map_eq_nil_iff] at same
          rw [same]
          exact ⟨_, rfl, marks_empty⟩
      | cons address rest =>
          cases reasons with
          | nil =>
              cases same
          | cons reason others =>
              rw [List.map_cons, List.map_cons, List.cons.injEq,
                Prod.mk.injEq] at same
              obtain ⟨⟨sameAddress, suspicious⟩, _⟩ := same
              refine ⟨_, rfl, ?_⟩
              rw [sameAddress]
              exact marks_rejected suspicious.symm

end Resolution

section Wake

variable {Env : Type}
variable {network : Network Env}

/-- An attempt that cannot connect ends there. -/
theorem runWake_of_connect_error
    {World : Type}
    {backend : WakeBackend World}
    {world after : World}
    {error : WakeBackendError}
    (refused : backend.connect world = (.error error, after))
    (clock : Clock World)
    (target : WakeTarget)
    (fuel : Nat) :
    runWake backend clock target fuel world =
      some {
        result := .error ⟨.connect, error.message⟩
        events := [
          .report .connecting,
          .call (.connect (.error error)),
          .call .disconnect,
          .report (.failed ⟨.connect, error.message⟩)
        ]
        world := backend.disconnect after
      } := by
  simp [runWake, attemptWake, refused]

/-- A backend whose endpoint is not resolved does not connect. -/
theorem connect_of_resolve_error
    {world : TunnelWorld Env}
    {error : NetError}
    (unresolved :
      (network.resolveEndpoint world.backend.profile.endpoint world.env).1 =
        .error error) :
    ∃ after,
      WakerWireGuardBackend.connect network world =
        (.error (toBackendError error), after) := by
  unfold WakerWireGuardBackend.connect TunnelClient.connect
  generalize
    network.resolveEndpoint world.backend.profile.endpoint world.env = answer
    at unresolved
  obtain ⟨resolved, env⟩ := answer
  cases unresolved
  exact ⟨_, rfl⟩

/--
The failure is one of connecting, and its heading tells why the name was not
resolved.
-/
structure TellsResolution
    (endpoint : List Char)
    (looked : Except String (List SocketAddr))
    (failure : WakeFailure) : Prop where
  stage : failure.stage = .connect
  blocked :
    blockPageFirst looked = true →
    friendlyFailureMessage failure =
      "Network DNS is blocking the WireGuard endpoint"
  other :
    blockPageFirst looked = false →
    '/' ∉ endpoint →
    LookupSlashless looked →
    friendlyFailureMessage failure =
      "Could not resolve the WireGuard endpoint"

/-- A failure with the mark of a block page has its heading. -/
theorem friendlyFailureMessage_of_blockPage
    {failure : WakeFailure}
    (marked : blockPageMark <:+: failure.detail.toList) :
    friendlyFailureMessage failure =
      "Network DNS is blocking the WireGuard endpoint" :=
  if_pos (Text.contains_iff.mpr marked)

/-- A failure with only the mark of a resolution has its heading. -/
theorem friendlyFailureMessage_of_resolution
    {failure : WakeFailure}
    (unmarked : ¬ blockPageMark <:+: failure.detail.toList)
    (marked : resolutionMark <:+: failure.detail.toList) :
    friendlyFailureMessage failure =
      "Could not resolve the WireGuard endpoint" :=
  (if_neg fun found => unmarked (Text.contains_iff.mp found)).trans
    (if_pos (Text.contains_iff.mpr marked))

/-- The heading of a marked failure tells why the name was not resolved. -/
theorem MarksResolution.tells
    {endpoint : List Char}
    {looked : Except String (List SocketAddr)}
    {detail : String}
    (marks : MarksResolution endpoint looked detail) :
    TellsResolution endpoint looked
      ⟨.connect, (toBackendError (.network detail)).message⟩ where
  stage := rfl
  blocked page :=
    friendlyFailureMessage_of_blockPage
      (infix_append_of_second _ (marks.blocked page))
  other noPage name said := by
    have harmless := marks.other noPage name said
    have unmarked :
        ¬ ['/', 'O'] <:+: ("network error: " ++ detail).toList :=
      unmarked_append (by decide +kernel) harmless
    exact friendlyFailureMessage_of_resolution
      (fun marked => unmarked (slash_infix_of_mark marked))
      (infix_append_of_second _ marks.resolution)

/--
A wake attempt whose endpoint is a name without a usable address returns after
its connection has failed, and the heading of the failure tells why the name
was not resolved.
-/
theorem runWake_tellsResolution
    (network : Network Env)
    (fromStr : List Char → Option SocketAddr)
    (lookupHost : Env → List Char → Except String (List SocketAddr))
    (resolves : network.Resolves fromStr lookupHost)
    (debug : List Char → String)
    (clock : Clock (TunnelWorld Env))
    (target : WakeTarget)
    (fuel : Nat)
    (world : TunnelWorld Env)
    (isName : fromStr world.backend.profile.endpoint = none)
    (unresolved :
      NoEndpoint (lookupHost world.env world.backend.profile.endpoint)) :
    ∃ run failure,
      runWake (WakerWireGuardBackend.wakeBackend network debug) clock target
          fuel world = some run ∧
        run.result = .error failure ∧
        run.events = [
          .report .connecting,
          .call (.connect (.error ⟨failure.detail⟩)),
          .call .disconnect,
          .report (.failed failure)
        ] ∧
        TellsResolution world.backend.profile.endpoint
          (lookupHost world.env world.backend.profile.endpoint) failure := by
  obtain ⟨detail, failed, marks⟩ :=
    resolveEndpoint_marks (lookupHost world.env) isName unresolved
  have refused := (resolves _ world.env).trans failed
  obtain ⟨after, notConnected⟩ := connect_of_resolve_error refused
  exact ⟨_, _, runWake_of_connect_error notConnected clock target fuel, rfl,
    rfl, marks.tells⟩

/-- A block page of a filtering resolver. -/
def blockPageAddress : SocketAddr :=
  ⟨.ipv4 ⟨146, 112, 61, 104⟩, 51820⟩

/-- A network behind that resolver. -/
def filteredNetwork : Network Unit where
  resolveEndpoint endpoint env :=
    (resolveEndpoint (fun _ => none) (fun _ => .ok [blockPageAddress])
      endpoint, env)
  buildDevice _ _ env := (.ok (), env)
  probe _ _ _ env := (.ok false, env)
  http _ _ _ _ env := (.error .timeout, env)
  ping _ _ _ env := (.ok false, env)
  shutdown _ env := env

/-- Behind a filtering resolver the app names the resolver. -/
theorem runWake_tellsResolution_filtered :
    ∃ run failure,
      runWake
          (WakerWireGuardBackend.wakeBackend filteredNetwork String.ofList)
          (TunnelWorld.clock ⟨fun env => (0, env), fun _ env => env⟩)
          homeJob.target 1
          (TunnelWorld.initial
            (.new homeProfile ⟨192, 168, 178, 1⟩) ()) = some run ∧
        run.result = .error failure ∧
        friendlyFailureMessage failure =
          "Network DNS is blocking the WireGuard endpoint" := by
  have unresolved : NoEndpoint (.ok [blockPageAddress]) := by
    rw [NoEndpoint]
    decide
  obtain ⟨run, failure, returned, failed, _, tells⟩ :=
    runWake_tellsResolution filteredNetwork (fun _ => none)
      (fun _ _ => .ok [blockPageAddress]) (fun _ _ => rfl) String.ofList
      (TunnelWorld.clock ⟨fun env => (0, env), fun _ env => env⟩)
      homeJob.target 1
      (TunnelWorld.initial (.new homeProfile ⟨192, 168, 178, 1⟩) ())
      rfl unresolved
  exact ⟨run, failure, returned, failed, tells.blocked (by decide)⟩

end Wake

end Waker
