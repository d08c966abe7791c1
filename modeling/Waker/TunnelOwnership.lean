import Waker.WireGuardBackend
import Waker.RunWakeRule
import Waker.LabFritz
import Waker.WorkerThreads

namespace Waker

open GuardedLog

/-!
# No tunnel survives a wake attempt

A tunnel client has one owner at a time: the backend, or the call that has just
created it.  Whatever the network answers, the owners of all tunnels shut them
down or drop them before the attempt returns, and requests are sent only
through the tunnel on which the FRITZ!Box answered.
-/

/-- The tunnel has been shut down or dropped. -/
def TunnelEnded (log : List TunnelEvent) (tunnel : TunnelClient) : Prop :=
  .shutDown tunnel ∈ log ∨ .dropped tunnel ∈ log

/-- The tunnel existed before the run or was created in it. -/
def TunnelStarted
    (existing : Option TunnelClient)
    (log : List TunnelEvent)
    (tunnel : TunnelClient) : Prop :=
  existing = some tunnel ∨ .created tunnel ∈ log

/-- The FRITZ!Box has answered through the tunnel, which still exists. -/
def Verified
    (fritzAddress : SocketAddrV4)
    (log : List TunnelEvent)
    (tunnel : TunnelClient) : Prop :=
  .probed tunnel fritzAddress (.ok true) ∈ log ∧ ¬ TunnelEnded log tunnel

/-- Requests are sent through verified tunnels only, never without a tunnel. -/
def UsesVerified
    (fritzAddress : SocketAddrV4)
    (earlier : List TunnelEvent) : TunnelEvent → Prop
  | .hostsAction tunnel _ => Verified fritzAddress earlier tunnel
  | .pinged tunnel _ => Verified fritzAddress earlier tunnel
  | .missing => False
  | _ => True

/-- The event neither creates nor ends a tunnel. -/
def TunnelEvent.KeepsOwners : TunnelEvent → Prop
  | .created _ | .shutDown _ | .dropped _ => False
  | _ => True

@[simp] theorem ended_concat_iff
    {log : List TunnelEvent}
    {event : TunnelEvent}
    {tunnel : TunnelClient} :
    TunnelEnded (log ++ [event]) tunnel ↔
      TunnelEnded log tunnel ∨
        event = .shutDown tunnel ∨ event = .dropped tunnel := by
  simp only [TunnelEnded, List.mem_append, List.mem_singleton, eq_comm]
  tauto

@[simp] theorem started_concat_iff
    {existing : Option TunnelClient}
    {log : List TunnelEvent}
    {event : TunnelEvent}
    {tunnel : TunnelClient} :
    TunnelStarted existing (log ++ [event]) tunnel ↔
      TunnelStarted existing log tunnel ∨ event = .created tunnel := by
  simp only [TunnelStarted, List.mem_append, List.mem_singleton, eq_comm,
    or_assoc]

/-- The owners of the tunnels, one of which a running call may own. -/
structure Owned
    {Env : Type}
    (existing : Option TunnelClient)
    (fritzAddress : SocketAddrV4)
    (inCall : Option TunnelClient)
    (world : TunnelWorld Env) : Prop where
  address : world.backend.fritzAddress = fritzAddress
  bounded :
    ∀ tunnel,
      TunnelStarted existing world.log tunnel →
      tunnel.identity < world.nextIdentity
  wasStarted :
    ∀ tunnel,
      TunnelEnded world.log tunnel →
      TunnelStarted existing world.log tunnel
  held :
    ∀ tunnel,
      world.backend.tunnel = some tunnel ∨ inCall = some tunnel →
      TunnelStarted existing world.log tunnel ∧
        ¬ TunnelEnded world.log tunnel
  distinct :
    ∀ tunnel,
      inCall = some tunnel →
      world.backend.tunnel ≠ some tunnel
  owned :
    ∀ tunnel,
      TunnelStarted existing world.log tunnel →
      TunnelEnded world.log tunnel ∨
        world.backend.tunnel = some tunnel ∨
        inCall = some tunnel
  guarded : Guarded (UsesVerified fritzAddress) world.log

namespace Owned

variable {Env : Type}
variable {existing inCall : Option TunnelClient}
variable {fritzAddress : SocketAddrV4}
variable {world : TunnelWorld Env}

/-- In the beginning the backend owns the only tunnel. -/
theorem initial
    (backend : WakerWireGuardBackend)
    (env : Env) :
    Owned backend.tunnel backend.fritzAddress none
      (TunnelWorld.initial backend env) where
  address := rfl
  bounded := by
    rintro tunnel (existing | created)
    · simp [TunnelWorld.initial, existing]
    · cases created
  wasStarted := by
    rintro tunnel (shutDown | dropped)
    · cases shutDown
    · cases dropped
  held := by
    rintro tunnel (held | inCall)
    · refine ⟨.inl held, ?_⟩
      rintro (shutDown | dropped)
      · cases shutDown
      · cases dropped
    · cases inCall
  distinct := by
    intro tunnel inCall
    cases inCall
  owned := by
    rintro tunnel (held | created)
    · exact .inr (.inl held)
    · cases created
  guarded := guarded_nil

/-- The answers of the network do not change the owners. -/
theorem withEnv
    (owned : Owned existing fritzAddress inCall world)
    (env : Env) :
    Owned existing fritzAddress inCall (world.withEnv env) :=
  ⟨owned.address, owned.bounded, owned.wasStarted, owned.held,
    owned.distinct, owned.owned, owned.guarded⟩

/-- An allowed event that creates and ends nothing keeps the owners. -/
theorem record
    (owned : Owned existing fritzAddress inCall world)
    {event : TunnelEvent}
    (keeps : event.KeepsOwners)
    (allowed : UsesVerified fritzAddress world.log event) :
    Owned existing fritzAddress inCall (world.record event) := by
  have sameStarted
      (tunnel : TunnelClient) :
      TunnelStarted existing (world.log ++ [event]) tunnel ↔
        TunnelStarted existing world.log tunnel := by
    rw [started_concat_iff, or_iff_left]
    rintro rfl
    exact keeps
  have sameEnded
      (tunnel : TunnelClient) :
      TunnelEnded (world.log ++ [event]) tunnel ↔
        TunnelEnded world.log tunnel := by
    rw [ended_concat_iff, or_iff_left]
    rintro (rfl | rfl)
    · exact keeps
    · exact keeps
  unfold TunnelWorld.record
  constructor
  · exact owned.address
  · simpa only [sameStarted] using owned.bounded
  · simpa only [sameStarted, sameEnded] using owned.wasStarted
  · simpa only [sameStarted, sameEnded] using owned.held
  · exact owned.distinct
  · simpa only [sameStarted, sameEnded] using owned.owned
  · exact guarded_concat_iff.mpr ⟨owned.guarded, allowed⟩

/-- A new tunnel is owned by the call that creates it. -/
theorem create
    (owned : Owned existing fritzAddress none world) :
    Owned existing fritzAddress (some ⟨world.nextIdentity⟩)
      ({ world with nextIdentity := world.nextIdentity + 1 }.record
        (.created ⟨world.nextIdentity⟩)) := by
  have unknown : ¬ TunnelStarted existing world.log ⟨world.nextIdentity⟩ :=
    fun started => Nat.lt_irrefl _ (owned.bounded _ started)
  have notEnded : ¬ TunnelEnded world.log ⟨world.nextIdentity⟩ :=
    fun ended => unknown (owned.wasStarted _ ended)
  unfold TunnelWorld.record
  constructor
  · exact owned.address
  · intro tunnel started
    rcases started_concat_iff.mp started with before | created
    · exact Nat.lt_succ_of_lt (owned.bounded tunnel before)
    · cases created
      exact Nat.lt_succ_self _
  · intro tunnel ended
    rw [ended_concat_iff] at ended
    rcases ended with before | shutDown | dropped
    · exact started_concat_iff.mpr (.inl (owned.wasStarted tunnel before))
    · cases shutDown
    · cases dropped
  · rintro tunnel (held | inCall)
    · have before := owned.held tunnel (.inl held)
      simpa [before.1] using before.2
    · cases inCall
      simpa using notEnded
  · intro tunnel inCall held
    cases inCall
    exact unknown (owned.held _ (.inl held)).1
  · intro tunnel started
    rcases started_concat_iff.mp started with before | created
    · rcases owned.owned tunnel before with ended | held | inCall
      · exact .inl (ended_concat_iff.mpr (.inl ended))
      · exact .inr (.inl held)
      · cases inCall
    · cases created
      exact .inr (.inr rfl)
  · exact guarded_concat_iff.mpr ⟨owned.guarded, trivial⟩

/-- Tunnels change hands between the call and the backend. -/
theorem move
    (owned : Owned existing fritzAddress inCall world)
    {kept inCallAfter : Option TunnelClient}
    (owners :
      ∀ tunnel,
        kept = some tunnel ∨ inCallAfter = some tunnel ↔
          world.backend.tunnel = some tunnel ∨ inCall = some tunnel)
    (distinct :
      ∀ tunnel,
        inCallAfter = some tunnel →
        kept ≠ some tunnel) :
    Owned existing fritzAddress inCallAfter (world.setTunnel kept) where
  address := owned.address
  bounded := owned.bounded
  wasStarted := owned.wasStarted
  held := fun tunnel owner => owned.held tunnel ((owners tunnel).mp owner)
  distinct := distinct
  owned := by
    intro tunnel started
    rcases owned.owned tunnel started with ended | owner
    · exact .inl ended
    · exact .inr ((owners tunnel).mpr owner)
  guarded := owned.guarded

/-- An owner shuts its tunnel down or drops it. -/
theorem release
    {released : TunnelClient}
    (owned : Owned existing fritzAddress inCall world)
    (isOwned :
      world.backend.tunnel = some released ∨ inCall = some released)
    {event : TunnelEvent}
    (ends : event = .shutDown released ∨ event = .dropped released)
    {kept inCallAfter : Option TunnelClient}
    (owners :
      ∀ tunnel,
        kept = some tunnel ∨ inCallAfter = some tunnel ↔
          (world.backend.tunnel = some tunnel ∨ inCall = some tunnel) ∧
            tunnel ≠ released)
    (distinct :
      ∀ tunnel,
        inCallAfter = some tunnel →
        kept ≠ some tunnel) :
    Owned existing fritzAddress inCallAfter
      ((world.setTunnel kept).record event) := by
  have sameStarted
      (tunnel : TunnelClient) :
      TunnelStarted existing (world.log ++ [event]) tunnel ↔
        TunnelStarted existing world.log tunnel := by
    rw [started_concat_iff, or_iff_left]
    rintro rfl
    rcases ends with ends | ends
    · cases ends
    · cases ends
  have nowEnded
      (tunnel : TunnelClient) :
      TunnelEnded (world.log ++ [event]) tunnel ↔
        TunnelEnded world.log tunnel ∨ tunnel = released := by
    rw [ended_concat_iff]
    rcases ends with rfl | rfl
    · simp [eq_comm]
    · simp [eq_comm]
  have allowed : UsesVerified fritzAddress world.log event := by
    rcases ends with rfl | rfl
    · trivial
    · trivial
  unfold TunnelWorld.record TunnelWorld.setTunnel
  constructor
  · exact owned.address
  · simpa only [sameStarted] using owned.bounded
  · intro tunnel ended
    rw [sameStarted]
    rcases (nowEnded tunnel).mp ended with before | rfl
    · exact owned.wasStarted tunnel before
    · exact (owned.held tunnel isOwned).1
  · intro tunnel owner
    obtain ⟨before, other⟩ := (owners tunnel).mp owner
    have state := owned.held tunnel before
    rw [sameStarted, nowEnded, not_or]
    exact ⟨state.1, state.2, other⟩
  · exact distinct
  · intro tunnel started
    rw [sameStarted] at started
    rw [nowEnded]
    by_cases isReleased : tunnel = released
    · exact .inl (.inr isReleased)
    · rcases owned.owned tunnel started with ended | owner
      · exact .inl (.inl ended)
      · exact .inr ((owners tunnel).mpr ⟨owner, isReleased⟩)
  · exact guarded_concat_iff.mpr ⟨owned.guarded, allowed⟩

/-- A call shuts its own tunnel down or drops it. -/
theorem releaseInCall
    {tunnel : TunnelClient}
    (owned : Owned existing fritzAddress (some tunnel) world)
    {event : TunnelEvent}
    (ends : event = .shutDown tunnel ∨ event = .dropped tunnel) :
    Owned existing fritzAddress none (world.record event) := by
  have owners
      (other : TunnelClient) :
      world.backend.tunnel = some other ∨ none = some other ↔
        (world.backend.tunnel = some other ∨ some tunnel = some other) ∧
          other ≠ tunnel := by
    constructor
    · rintro (held | nothing)
      · refine ⟨.inl held, ?_⟩
        rintro rfl
        exact owned.distinct other rfl held
      · cases nothing
    · rintro ⟨held | inCall, different⟩
      · exact .inl held
      · cases inCall
        exact (different rfl).elim
  exact owned.release (.inr rfl) ends owners (fun _ nothing => nomatch nothing)

/-- The backend keeps the tunnel of the call and drops the one it had. -/
theorem replace
    {tunnel replaced : TunnelClient}
    (owned : Owned existing fritzAddress (some tunnel) world)
    (had : world.backend.tunnel = some replaced) :
    Owned existing fritzAddress none
      ((world.record (.dropped replaced)).setTunnel (some tunnel)) := by
  have different : tunnel ≠ replaced := by
    rintro rfl
    exact owned.distinct tunnel rfl had
  have owners
      (other : TunnelClient) :
      some tunnel = some other ∨ none = some other ↔
        (world.backend.tunnel = some other ∨ some tunnel = some other) ∧
          other ≠ replaced := by
    rw [had]
    constructor
    · rintro (same | nothing)
      · cases same
        exact ⟨.inr rfl, different⟩
      · cases nothing
    · rintro ⟨same | same, other⟩
      · cases same
        exact (other rfl).elim
      · exact .inl same
  exact owned.release (.inl had) (.inr rfl) owners
    (fun _ nothing => nomatch nothing)

/-- A backend without a tunnel keeps the tunnel of the call. -/
theorem store
    {tunnel : TunnelClient}
    (owned : Owned existing fritzAddress (some tunnel) world)
    (hadNone : world.backend.tunnel = none) :
    Owned existing fritzAddress none (world.setTunnel (some tunnel)) := by
  apply owned.move
  · intro other
    rw [hadNone, or_comm]
  · intro _ nothing
    cases nothing

/-- Disconnecting leaves no tunnel that has not ended. -/
theorem disconnect
    (owned : Owned existing fritzAddress none world)
    (network : Network Env) :
    Owned existing fritzAddress none
        (WakerWireGuardBackend.disconnect network world) ∧
      (WakerWireGuardBackend.disconnect network world).backend.tunnel =
        none := by
  unfold WakerWireGuardBackend.disconnect
  split
  · rename_i hadNone
    exact ⟨owned, hadNone⟩
  · rename_i tunnel had
    refine ⟨?_, rfl⟩
    have closed := owned.withEnv (network.shutdown tunnel world.env)
    change Owned existing fritzAddress none
      (((world.withEnv (network.shutdown tunnel world.env)).setTunnel
        none).record (.shutDown tunnel))
    apply closed.release (.inl had) (.inl rfl)
    · intro other
      change _ ↔ (world.backend.tunnel = some other ∨ _) ∧ _
      rw [had]
      constructor
      · rintro (nothing | nothing)
        · cases nothing
        · cases nothing
      · rintro ⟨same | nothing, different⟩
        · cases same
          exact (different rfl).elim
        · cases nothing
    · intro _ nothing
      cases nothing

end Owned

/-- The backend owns a tunnel on which the FRITZ!Box has answered. -/
structure HoldsVerified
    {Env : Type}
    (existing : Option TunnelClient)
    (fritzAddress : SocketAddrV4)
    (world : TunnelWorld Env) : Prop where
  owned : Owned existing fritzAddress none world
  verified :
    ∃ tunnel,
      world.backend.tunnel = some tunnel ∧
        .probed tunnel fritzAddress (.ok true) ∈ world.log

section Calls

variable {Env : Type}
variable {existing : Option TunnelClient}
variable {fritzAddress : SocketAddrV4}
variable {world : TunnelWorld Env}

namespace HoldsVerified

/-- The answers of the network do not affect the tunnel. -/
theorem withEnv
    (holds : HoldsVerified existing fritzAddress world)
    (env : Env) :
    HoldsVerified existing fritzAddress (world.withEnv env) :=
  ⟨holds.owned.withEnv env, holds.verified⟩

/-- A request through the tunnel of the backend is allowed. -/
theorem request
    (holds : HoldsVerified existing fritzAddress world)
    {tunnel : TunnelClient}
    (held : world.backend.tunnel = some tunnel)
    {event : TunnelEvent}
    (keeps : event.KeepsOwners)
    (isRequest :
      Verified fritzAddress world.log tunnel →
      UsesVerified fritzAddress world.log event) :
    HoldsVerified existing fritzAddress (world.record event) := by
  obtain ⟨verified, same, probed⟩ := holds.verified
  rw [held, Option.some.injEq] at same
  subst same
  have notEnded := (holds.owned.held tunnel (.inl held)).2
  exact {
    owned := holds.owned.record keeps (isRequest ⟨probed, notEnded⟩)
    verified :=
      ⟨tunnel, held, List.mem_append_left _ probed⟩
  }

/-- A Hosts action keeps the verified tunnel. -/
theorem hostsAction
    (holds : HoldsVerified existing fritzAddress world)
    (network : Network Env)
    (action arguments : List Char) :
    HoldsVerified existing fritzAddress
      (WakerWireGuardBackend.hostsAction network action arguments world).2 := by
  unfold WakerWireGuardBackend.hostsAction
  dsimp only
  split
  · rename_i hadNone
    obtain ⟨tunnel, held, -⟩ := holds.verified
    rw [hadNone] at held
    cases held
  · rename_i tunnel held
    have answered :=
      holds.withEnv
        (network.http tunnel world.backend.fritzAddress
          (fritzHostsRequest world.backend.fritzAddress.ip action arguments)
          (Duration.fromSecs 8) world.env).2
    have asked :=
      @request _ _ _ _ answered tunnel held (.hostsAction tunnel action)
        trivial id
    split
    · exact asked
    · split
      · exact asked
      · split
        · exact asked
        · exact asked

/-- A ping keeps the verified tunnel. -/
theorem pingIpv4
    (holds : HoldsVerified existing fritzAddress world)
    (network : Network Env)
    (target : Ipv4Addr)
    (timeout : Duration) :
    HoldsVerified existing fritzAddress
      (WakerWireGuardBackend.pingIpv4 network target timeout world).2 := by
  unfold WakerWireGuardBackend.pingIpv4
  split
  · rename_i hadNone
    obtain ⟨tunnel, held, -⟩ := holds.verified
    rw [hadNone] at held
    cases held
  · rename_i tunnel held
    have answered :=
      holds.withEnv (network.ping tunnel target timeout world.env).2
    exact answered.request held trivial id

/-- Every call of an attempt keeps the verified tunnel. -/
theorem preserved
    (existing : Option TunnelClient)
    (fritzAddress : SocketAddrV4)
    (network : Network Env)
    (debug : List Char → String)
    (clock : Clock Env) :
    Preserved (WakerWireGuardBackend.wakeBackend network debug)
      (TunnelWorld.clock clock)
      (HoldsVerified existing fritzAddress) where
  resolveTargetIpv4 := fun mac _ holds =>
    holds.hostsAction network HostsAction.getSpecificHostEntry.name
      (macArguments mac)
  sendWake := fun mac _ holds =>
    holds.hostsAction network HostsAction.wakeOnLan.name (macArguments mac)
  probe := fun address _ holds =>
    holds.pingIpv4 network address (Duration.fromMillis 750)
  now := fun _ holds => holds.withEnv _
  sleep := fun _ _ holds => holds.withEnv _

end HoldsVerified

/-- A tunnel that was just created belongs to the call. -/
theorem owned_tunnelConnect
    (owned : Owned existing fritzAddress none world)
    (network : Network Env)
    (profile : WireGuardProfile) :
    match TunnelClient.connect network profile world with
    | (.error _, after) => Owned existing fritzAddress none after
    | (.ok tunnel, after) =>
        Owned existing fritzAddress (some tunnel) after := by
  unfold TunnelClient.connect
  dsimp only
  split
  · rename_i error after same
    split at same
    · cases same
      exact owned.withEnv _
    · split at same
      · cases same
        exact owned.withEnv _
      · cases same
  · rename_i tunnel after same
    split at same
    · cases same
    · split at same
      · cases same
      · rename_i endpoint _ _ _
        cases same
        have fresh :=
          (owned.withEnv
            (network.buildDevice profile endpoint
              (network.resolveEndpoint profile.endpoint world.env).2).2).create
        exact fresh

/-- Connecting ends with a verified tunnel or without a new one. -/
theorem connect_cases
    (owned : Owned existing fritzAddress none world)
    (network : Network Env) :
    ((WakerWireGuardBackend.connect network world).1 = .ok () →
      HoldsVerified existing fritzAddress
        (WakerWireGuardBackend.connect network world).2) ∧
    (∀ error,
      (WakerWireGuardBackend.connect network world).1 = .error error →
      Owned existing fritzAddress none
        (WakerWireGuardBackend.connect network world).2) := by
  have created := owned_tunnelConnect owned network world.backend.profile
  unfold WakerWireGuardBackend.connect
  generalize
    TunnelClient.connect network world.backend.profile world = connected
      at created ⊢
  obtain ⟨result, after⟩ := connected
  cases result with
  | error error =>
      exact ⟨fun succeeded => (nomatch succeeded), fun _ _ => created⟩
  | ok tunnel =>
      have address := created.address
      have answered :
          Owned existing fritzAddress (some tunnel)
            (tunnel.probe network after.backend.fritzAddress
              (Duration.fromSecs 8) after).2 :=
        (created.withEnv _).record trivial trivial
      dsimp only
      split
      · refine ⟨fun succeeded => (nomatch succeeded), fun _ _ => ?_⟩
        exact answered.releaseInCall (.inr rfl)
      · refine ⟨fun succeeded => (nomatch succeeded), fun _ _ => ?_⟩
        exact (answered.withEnv _).releaseInCall (.inl rfl)
      · rename_i reachable
        refine ⟨fun _ => ?_, fun _ failed => (nomatch failed)⟩
        have onLog :
            .probed tunnel fritzAddress (.ok true) ∈
              (tunnel.probe network after.backend.fritzAddress
                (Duration.fromSecs 8) after).2.log := by
          rw [← reachable, ← address]
          exact List.mem_append_right _ (List.mem_singleton.mpr rfl)
        split
        · rename_i hadNone
          exact ⟨answered.store hadNone, tunnel, rfl, onLog⟩
        · rename_i replaced had
          exact ⟨answered.replace had, tunnel, rfl,
            List.mem_append_left _ onLog⟩

end Calls

/-- What a wake attempt leaves of the tunnels it had. -/
structure TunnelsReleased
    {Env : Type}
    (existing : Option TunnelClient)
    (fritzAddress : SocketAddrV4)
    (world : TunnelWorld Env) : Prop where
  noTunnel : world.backend.tunnel = none
  ended :
    ∀ tunnel,
      TunnelStarted existing world.log tunnel →
      TunnelEnded world.log tunnel
  guarded : Guarded (UsesVerified fritzAddress) world.log

/-- Every returned wake attempt has released every tunnel. -/
theorem runWake_releasesTunnels
    {Env : Type}
    (network : Network Env)
    (debug : List Char → String)
    (clock : Clock Env)
    (target : WakeTarget)
    (fuel : Nat)
    (backend : WakerWireGuardBackend)
    (env : Env)
    {run : WakeRun (TunnelWorld Env)}
    (returned :
      runWake (WakerWireGuardBackend.wakeBackend network debug)
          (TunnelWorld.clock clock) target fuel
          (TunnelWorld.initial backend env) =
        some run) :
    TunnelsReleased backend.tunnel backend.fritzAddress run.world := by
  have start := @Owned.initial Env backend env
  obtain ⟨accepts, refuses⟩ := connect_cases start network
  obtain ⟨last, reached, world⟩ :=
    runWake_disconnects
      (HoldsVerified.preserved backend.tunnel backend.fritzAddress network
        debug clock)
      accepts refuses returned
  have owned :
      Owned backend.tunnel backend.fritzAddress none last :=
    reached.elim HoldsVerified.owned id
  obtain ⟨after, noTunnel⟩ := owned.disconnect network
  rw [world]
  refine ⟨noTunnel, ?_, after.guarded⟩
  intro tunnel started
  rcases after.owned tunnel started with ended | held | inCall
  · exact ended
  · exact absurd (noTunnel.symm.trans held) (by simp)
  · cases inCall

/-- A network whose FRITZ!Box answers like the lab server. -/
def labNetwork (pcIp : Ipv4Addr) : Network Unit where
  resolveEndpoint := fun _ env =>
    (.ok ⟨.ipv4 ⟨127, 0, 0, 1⟩, 51820⟩, env)
  buildDevice := fun _ _ env => (.ok (), env)
  probe := fun _ _ _ env => (.ok true, env)
  http := fun _ _ request _ env =>
    (.ok (labReply pcIp.display.toList request), env)
  ping := fun _ target _ env => (.ok (decide (target = pcIp)), env)
  shutdown := fun _ env => env

/-- A clock that stands still. -/
def stoppedClock : Clock Unit where
  now := fun env => (0, env)
  sleep := fun _ env => env

/-- A backend that still has a tunnel. -/
def connectedBackend : WakerWireGuardBackend where
  profile := homeProfile
  fritzAddress := ⟨⟨10, 231, 0, 1⟩, 49000⟩
  tunnel := some ⟨0⟩

/-- An attempt of that backend. -/
def reconnectRun : Option (WakeRun (TunnelWorld Unit)) :=
  runWake
    (WakerWireGuardBackend.wakeBackend (labNetwork ⟨10, 231, 0, 1⟩)
      fun value => String.ofList value)
    (TunnelWorld.clock stoppedClock)
    homeJob.target 1 (TunnelWorld.initial connectedBackend ())

theorem reconnectRun_isSome : reconnectRun.isSome = true := by
  decide +kernel

/-- That attempt releases its old tunnel and its new one. -/
theorem reconnectRun_releasesTunnels :
    TunnelsReleased connectedBackend.tunnel connectedBackend.fritzAddress
      (reconnectRun.get reconnectRun_isSome).world :=
  runWake_releasesTunnels (labNetwork ⟨10, 231, 0, 1⟩) _ stoppedClock _ 1
    connectedBackend () (Option.some_get reconnectRun_isSome).symm

end Waker
