import Waker.LabExchange
import Waker.TunnelOwnership
import Waker.WorkerThreads

namespace Waker

/-!
# What the router is asked

A network can keep a record of the requests that are handed to its tunnels.
Whatever that network answers, a wake attempt asks the FRITZ!Box for its target
and then to wake it, at most once each, and a diagnostic check never asks it to
wake anything.
-/

/-- A request as it was handed to a tunnel. -/
structure SentRequest where
  tunnel : TunnelClient
  target : SocketAddrV4
  request : List UInt8
  deriving DecidableEq

/-- The network with a record of the requests handed to its tunnels. -/
def Network.recording
    {Env : Type}
    (network : Network Env) : Network (List SentRequest × Env) where
  resolveEndpoint := fun endpoint (sent, env) =>
    let (resolved, env) := network.resolveEndpoint endpoint env
    (resolved, sent, env)
  buildDevice := fun profile endpoint (sent, env) =>
    let (built, env) := network.buildDevice profile endpoint env
    (built, sent, env)
  probe := fun tunnel target timeout (sent, env) =>
    let (reachable, env) := network.probe tunnel target timeout env
    (reachable, sent, env)
  http := fun tunnel target request timeout (sent, env) =>
    let (answered, env) := network.http tunnel target request timeout env
    (answered, sent ++ [⟨tunnel, target, request⟩], env)
  ping := fun tunnel target timeout (sent, env) =>
    let (reachable, env) := network.ping tunnel target timeout env
    (reachable, sent, env)
  shutdown := fun tunnel (sent, env) => (sent, network.shutdown tunnel env)

/-- A clock beside that record. -/
def Clock.recording
    {Env : Type}
    (clock : Clock Env) : Clock (List SentRequest × Env) where
  now := fun (sent, env) =>
    let (reading, env) := clock.now env
    (reading, sent, env)
  sleep := fun duration (sent, env) => (sent, clock.sleep duration env)

/-- The requests that have been handed to tunnels. -/
def TunnelWorld.sent
    {Env : Type}
    (world : TunnelWorld (List SentRequest × Env)) : List SentRequest :=
  world.env.1

namespace WakerWireGuardBackend

variable {Env : Type}

/-- A request for an action on a host. -/
def hostRequest
    (fritzAddress : SocketAddrV4)
    (action : HostsAction)
    (mac : MacAddress)
    (tunnel : TunnelClient) : SentRequest where
  tunnel := tunnel
  target := fritzAddress
  request :=
    fritzHostsRequest fritzAddress.ip action.name (macArguments mac)

section

variable (network : Network Env)
variable (debug : List Char → String)

/-- Ask the FRITZ!Box whether the target host is active. -/
def hostActive
    (mac : MacAddress)
    (world : TunnelWorld Env) :
    Except WakeBackendError Bool × TunnelWorld Env :=
  let (answered, world) := hostEntry network mac world
  (answered.bind fun response =>
    (fritzHostActive debug response).mapError toBackendError, world)

/-- Resolve the target host, then send one ICMP echo. -/
def pingHost
    (mac : MacAddress)
    (world : TunnelWorld Env) :
    Except WakeBackendError Bool × TunnelWorld Env :=
  let (resolved, world) := hostIpv4 network debug mac world
  match resolved with
  | .error error => (.error error, world)
  | .ok target => pingIpv4 network target (Duration.fromSecs 2) world

end

end WakerWireGuardBackend

/-- What a diagnostic worker does between its runtime and its message. -/
structure CheckRun (Env : Type) where
  connected : Except WakeBackendError Unit
  result : Except String Bool
  world : TunnelWorld Env

/-- Connect, ask, and disconnect whatever the answer. -/
def hostCheck
    {Env : Type}
    (network : Network Env)
    (ask :
      MacAddress → TunnelWorld Env →
      Except WakeBackendError Bool × TunnelWorld Env)
    (job : FritzJob)
    (env : Env) : CheckRun Env :=
  let backend := WakerWireGuardBackend.new job.profile job.fritzIp
  let (connected, world) :=
    WakerWireGuardBackend.connect network (.initial backend env)
  match connected with
  | .error error => {
      connected := connected
      result := .error error.message
      world := WakerWireGuardBackend.disconnect network world
    }
  | .ok () =>
      let (answer, world) := ask job.mac world
      {
        connected := connected
        result := answer.mapError WakeBackendError.message
        world := WakerWireGuardBackend.disconnect network world
      }

/-- The check of a host status worker. -/
def hostStatusCheck
    {Env : Type}
    (network : Network Env)
    (debug : List Char → String) : FritzJob → Env → CheckRun Env :=
  hostCheck network (WakerWireGuardBackend.hostActive network debug)

/-- The check of a ping worker. -/
def pingCheck
    {Env : Type}
    (network : Network Env)
    (debug : List Char → String) : FritzJob → Env → CheckRun Env :=
  hostCheck network (WakerWireGuardBackend.pingHost network debug)

/-- The body of the diagnostic worker that runs a check. -/
def CheckRun.body {Env : Type} (run : CheckRun Env) : CheckBody :=
  .check (run.connected.mapError WakeBackendError.message) run.result

/-- The action that a call asks the FRITZ!Box for. -/
def BackendCall.action? : BackendCall → Option HostsAction
  | .resolveTargetIpv4 _ _ => some .getSpecificHostEntry
  | .sendWake _ _ => some .wakeOnLan
  | _ => none

/-- The actions that an attempt asks for, in order. -/
def askedActions (events : List WakeEvent) : List HostsAction :=
  (calls events).filterMap BackendCall.action?

/--
What the FRITZ!Box is asked in a wake attempt: through one tunnel, exactly what
the calls of the attempt say, and that is first where the target is and then to
wake it, at most once each.
-/
structure WakeRequests
    {Env : Type}
    (fritzAddress : SocketAddrV4)
    (mac : MacAddress)
    (run : WakeRun (TunnelWorld (List SentRequest × Env))) : Prop where
  asked :
    ∃ tunnel,
      run.world.sent =
        (askedActions run.events).map fun action =>
          WakerWireGuardBackend.hostRequest fritzAddress action mac tunnel
  order :
    askedActions run.events <+: [.getSpecificHostEntry, .wakeOnLan]
  recognised :
    run.world.sent.map
        (fun sent => recognisedAction (Utf8.decodeLossy sent.request)) =
      (askedActions run.events).map some
  woken :
    run.result = .ok () →
    askedActions run.events = [.getSpecificHostEntry, .wakeOnLan]

/--
What the FRITZ!Box is asked in a diagnostic check: where the host is, once it
has answered through the tunnel, and never to wake anything.
-/
structure CheckRequests
    {Env : Type}
    (job : FritzJob)
    (run : CheckRun (List SentRequest × Env)) : Prop where
  asked :
    run.world.sent = [] ∨
      ∃ tunnel,
        run.world.sent =
          [WakerWireGuardBackend.hostRequest ⟨job.fritzIp, 49000⟩
            .getSpecificHostEntry job.mac tunnel]
  unconnected :
    ∀ error, run.connected = .error error → run.world.sent = []
  neverWakes :
    ∀ sent,
      sent ∈ run.world.sent →
      recognisedAction (Utf8.decodeLossy sent.request) =
        some .getSpecificHostEntry
  released : TunnelsReleased none ⟨job.fritzIp, 49000⟩ run.world
  reported : ReportingThread.sends run.body.program = [run.result]

namespace WakerWireGuardBackend

variable {Env : Type}

/-- The server recognises what it is asked for. -/
theorem recognisedAction_hostRequest
    (fritzAddress : SocketAddrV4)
    (action : HostsAction)
    (mac : MacAddress)
    (tunnel : TunnelClient) :
    recognisedAction
        (Utf8.decodeLossy
          (hostRequest fritzAddress action mac tunnel).request) =
      some action := by
  have message := announced_request fritzAddress.ip action mac
  have request :
      (hostRequest fritzAddress action mac tunnel).request =
        Utf8.encode
          (Http.head
              (fritzHostsHead fritzAddress.ip action.name
                (Text.utf8Length
                  (fritzHostsBody action.name (macArguments mac)))) ++
            fritzHostsBody action.name (macArguments mac)) :=
    rfl
  rw [request, Utf8.decodeLossy_encode message.ascii]
  exact recognisedAction_request fritzAddress.ip action mac _

section

variable (network : Network Env)
variable (debug : List Char → String)
variable (world : TunnelWorld (List SentRequest × Env))

/-- Connecting asks the FRITZ!Box for nothing. -/
theorem sent_connect :
    (connect network.recording world).2.sent = world.sent := by
  unfold connect TunnelClient.connect
  dsimp only [Network.recording]
  split
  · rename_i error after same
    split at same
    · cases same
      rfl
    · split at same
      · cases same
        rfl
      · cases same
  · rename_i tunnel after same
    split at same
    · cases same
    · split at same
      · cases same
      · cases same
        split
        · rfl
        · rfl
        · split
          · rfl
          · rfl

variable {world}

/-- A Hosts action asks the FRITZ!Box once, through the tunnel of the backend. -/
theorem sent_hostsAction
    {tunnel : TunnelClient}
    (held : world.backend.tunnel = some tunnel)
    (action : HostsAction)
    (mac : MacAddress) :
    let after :=
      (hostsAction network.recording action.name (macArguments mac) world).2
    after.backend = world.backend ∧
      after.sent =
        world.sent ++
          [hostRequest world.backend.fritzAddress action mac tunnel] := by
  unfold hostsAction
  dsimp only [Network.recording]
  split
  · rename_i hadNone
    cases held.symm.trans hadNone
  · rename_i other hadOther
    cases Option.some.inj (held.symm.trans hadOther)
    split
    · exact ⟨rfl, rfl⟩
    · split
      · exact ⟨rfl, rfl⟩
      · split
        · exact ⟨rfl, rfl⟩
        · exact ⟨rfl, rfl⟩

/-- A ping asks the FRITZ!Box for nothing. -/
theorem sent_pingIpv4
    (target : Ipv4Addr)
    (timeout : Duration) :
    (pingIpv4 network.recording target timeout world).2.sent =
      world.sent := by
  unfold pingIpv4
  split
  · rfl
  · rfl

/-- Disconnecting asks the FRITZ!Box for nothing. -/
theorem sent_disconnect :
    (disconnect network.recording world).sent = world.sent := by
  unfold disconnect
  split
  · rfl
  · rfl

/-- Asking whether a host is active asks the FRITZ!Box where the host is. -/
theorem sent_hostActive
    {tunnel : TunnelClient}
    (held : world.backend.tunnel = some tunnel)
    (mac : MacAddress) :
    (hostActive network.recording debug mac world).2.sent =
      world.sent ++
        [hostRequest world.backend.fritzAddress .getSpecificHostEntry mac
          tunnel] :=
  (sent_hostsAction network held .getSpecificHostEntry mac).2

/-- Pinging a host asks the FRITZ!Box where the host is. -/
theorem sent_pingHost
    {tunnel : TunnelClient}
    (held : world.backend.tunnel = some tunnel)
    (mac : MacAddress) :
    (pingHost network.recording debug mac world).2.sent =
      world.sent ++
        [hostRequest world.backend.fritzAddress .getSpecificHostEntry mac
          tunnel] := by
  have asked := (sent_hostsAction network held .getSpecificHostEntry mac).2
  unfold pingHost
  dsimp only
  split
  · exact asked
  · rw [sent_pingIpv4]
    exact asked

/-- The probe loop asks the FRITZ!Box for nothing. -/
theorem sent_probeLoop
    {clock : Clock Env}
    {target : WakeTarget}
    {address : Ipv4Addr}
    {started : Instant}
    {fuel attempt : Nat}
    {run : WakeRun (TunnelWorld (List SentRequest × Env))}
    (returned :
      probeLoop (wakeBackend network.recording debug)
          (TunnelWorld.clock clock.recording) target address started fuel
          attempt world =
        some run) :
    run.world.sent = world.sent ∧ askedActions run.events = [] := by
  induction fuel generalizing attempt world run with
  | zero =>
      cases returned
  | succ fuel inductionHypothesis =>
      have probed :=
        @sent_pingIpv4 _ network world address (Duration.fromMillis 750)
      unfold probeLoop at returned
      dsimp only at returned
      split at returned
      · cases returned
        exact ⟨probed, rfl⟩
      · cases returned
        exact ⟨probed, rfl⟩
      · split at returned
        · cases returned
          exact ⟨probed, rfl⟩
        · obtain ⟨later, laterRun, rfl⟩ :=
            Option.map_eq_some_iff.mp returned
          obtain ⟨sent, asked⟩ := inductionHypothesis laterRun
          exact ⟨sent.trans probed, asked⟩

end

end WakerWireGuardBackend

section

variable {Env : Type}

/-- What is asked in one part of an attempt and then in another. -/
theorem askedActions_append (first second : List WakeEvent) :
    askedActions (first ++ second) =
      askedActions first ++ askedActions second := by
  simp only [askedActions, calls, List.filterMap_append]

/-- What was asked through a tunnel is what the server recognises. -/
theorem recognised_requests
    (fritzAddress : SocketAddrV4)
    (mac : MacAddress)
    (tunnel : TunnelClient)
    (actions : List HostsAction) :
    (actions.map fun action =>
          WakerWireGuardBackend.hostRequest fritzAddress action mac
            tunnel).map
        (fun sent => recognisedAction (Utf8.decodeLossy sent.request)) =
      actions.map some := by
  rw [List.map_map]
  apply List.map_congr_left
  intro action _
  simp only [Function.comp_apply,
    WakerWireGuardBackend.recognisedAction_hostRequest]

/-- The requests of an attempt up to its disconnection. -/
theorem attemptWake_requests
    {network : Network Env}
    {debug : List Char → String}
    {clock : Clock Env}
    {target : WakeTarget}
    {fuel : Nat}
    {backend : WakerWireGuardBackend}
    {env : Env}
    {attempt : WakeRun (TunnelWorld (List SentRequest × Env))}
    (attempted :
      attemptWake
          (WakerWireGuardBackend.wakeBackend network.recording debug)
          (TunnelWorld.clock clock.recording) target fuel
          (TunnelWorld.initial backend ([], env)) =
        some attempt) :
    WakeRequests backend.fritzAddress target.mac attempt := by
  have ofTunnel
      {run : WakeRun (TunnelWorld (List SentRequest × Env))}
      (tunnel : TunnelClient)
      (asked :
        run.world.sent =
          (askedActions run.events).map fun action =>
            WakerWireGuardBackend.hostRequest backend.fritzAddress action
              target.mac tunnel)
      (order :
        askedActions run.events <+: [.getSpecificHostEntry, .wakeOnLan])
      (woken :
        run.result = .ok () →
        askedActions run.events = [.getSpecificHostEntry, .wakeOnLan]) :
      WakeRequests backend.fritzAddress target.mac run := {
    asked := ⟨tunnel, asked⟩
    order := order
    recognised := by
      rw [asked]
      exact recognised_requests _ _ _ _
    woken := woken
  }
  have connected :=
    WakerWireGuardBackend.sent_connect network
      (TunnelWorld.initial backend ([], env))
  obtain ⟨accepts, -⟩ :=
    connect_cases (Owned.initial backend ([], env)) network.recording
  unfold attemptWake at attempted
  dsimp only at attempted
  split at attempted
  · cases attempted
    exact ofTunnel ⟨0⟩ connected List.nil_prefix (fun done => nomatch done)
  · rename_i succeeded
    have holds := accepts succeeded
    obtain ⟨tunnel, held, -⟩ := holds.verified
    obtain ⟨sameBackend, looked⟩ :=
      WakerWireGuardBackend.sent_hostsAction network held
        .getSpecificHostEntry target.mac
    rw [holds.owned.address, connected] at looked
    split at attempted
    · cases attempted
      exact ofTunnel tunnel looked ⟨[.wakeOnLan], rfl⟩
        (fun done => nomatch done)
    · have stillHeld := (congrArg (·.tunnel) sameBackend).trans held
      obtain ⟨-, woke⟩ :=
        WakerWireGuardBackend.sent_hostsAction network stillHeld .wakeOnLan
          target.mac
      rw [sameBackend, holds.owned.address, looked] at woke
      split at attempted
      · cases attempted
        exact ofTunnel tunnel woke (List.prefix_refl _)
          (fun done => nomatch done)
      · obtain ⟨probing, probed, rfl⟩ :=
          Option.map_eq_some_iff.mp attempted
        obtain ⟨sent, asked⟩ :=
          WakerWireGuardBackend.sent_probeLoop network debug probed
        have both
            (front : List WakeEvent)
            (isBoth :
              askedActions front = [.getSpecificHostEntry, .wakeOnLan]) :
            askedActions (probing.prepend front).events =
              [.getSpecificHostEntry, .wakeOnLan] := by
          rw [WakeRun.prepend, askedActions_append, asked, List.append_nil,
            isBoth]
        refine ofTunnel tunnel ?_ ?_ ?_
        · rw [both _ rfl]
          exact sent.trans woke
        · rw [both _ rfl]
        · intro _
          exact both _ rfl

/-- A run that asks for the same as another has the same requests. -/
theorem WakeRequests.carry
    {fritzAddress : SocketAddrV4}
    {mac : MacAddress}
    {attempt run : WakeRun (TunnelWorld (List SentRequest × Env))}
    (requests : WakeRequests fritzAddress mac attempt)
    (sameSent : run.world.sent = attempt.world.sent)
    (sameActions : askedActions run.events = askedActions attempt.events)
    (sameResult : run.result = attempt.result) :
    WakeRequests fritzAddress mac run where
  asked := by
    rw [sameSent, sameActions]
    exact requests.asked
  order := by
    rw [sameActions]
    exact requests.order
  recognised := by
    rw [sameSent, sameActions]
    exact requests.recognised
  woken := by
    rw [sameResult, sameActions]
    exact requests.woken

/-- Whatever the network answers, a wake attempt asks the router only this. -/
theorem runWake_requests
    (network : Network Env)
    (debug : List Char → String)
    (clock : Clock Env)
    (target : WakeTarget)
    (fuel : Nat)
    (backend : WakerWireGuardBackend)
    (env : Env)
    {run : WakeRun (TunnelWorld (List SentRequest × Env))}
    (returned :
      runWake
          (WakerWireGuardBackend.wakeBackend network.recording debug)
          (TunnelWorld.clock clock.recording) target fuel
          (TunnelWorld.initial backend ([], env)) =
        some run) :
    WakeRequests backend.fritzAddress target.mac run := by
  obtain ⟨attempt, attempted, rfl⟩ := Option.map_eq_some_iff.mp returned
  refine (attemptWake_requests attempted).carry
    (WakerWireGuardBackend.sent_disconnect network) ?_ rfl
  dsimp only
  rw [askedActions_append]
  split
  · exact List.append_nil _
  · exact List.append_nil _

/-- Disconnecting releases the tunnels that are owned before it. -/
theorem Owned.released
    {existing : Option TunnelClient}
    {fritzAddress : SocketAddrV4}
    {world : TunnelWorld Env}
    (owned : Owned existing fritzAddress none world)
    (network : Network Env) :
    TunnelsReleased existing fritzAddress
      (WakerWireGuardBackend.disconnect network world) := by
  obtain ⟨after, noTunnel⟩ := owned.disconnect network
  refine ⟨noTunnel, ?_, after.guarded⟩
  intro tunnel started
  rcases after.owned tunnel started with ended | held | inCall
  · exact ended
  · cases noTunnel.symm.trans held
  · cases inCall

/-- Whatever the network answers, a check does not wake anything. -/
theorem hostCheck_requests
    (network : Network Env)
    {ask :
      MacAddress → TunnelWorld (List SentRequest × Env) →
      Except WakeBackendError Bool × TunnelWorld (List SentRequest × Env)}
    (job : FritzJob)
    (env : Env)
    (looksUp :
      ∀ tunnel world,
        world.backend.tunnel = some tunnel →
        (ask job.mac world).2.sent =
          world.sent ++
            [WakerWireGuardBackend.hostRequest world.backend.fritzAddress
              .getSpecificHostEntry job.mac tunnel])
    (keeps :
      ∀ existing fritzAddress world,
        HoldsVerified existing fritzAddress world →
        HoldsVerified existing fritzAddress (ask job.mac world).2) :
    CheckRequests job (hostCheck network.recording ask job ([], env)) := by
  let initial : TunnelWorld (List SentRequest × Env) :=
    .initial (.new job.profile job.fritzIp) ([], env)
  have quiet := WakerWireGuardBackend.sent_connect network initial
  obtain ⟨accepts, refuses⟩ :=
    connect_cases
      (Owned.initial (.new job.profile job.fritzIp) ([], env))
      network.recording
  unfold hostCheck
  dsimp only
  split
  · rename_i error failed
    have nothing :=
      (WakerWireGuardBackend.sent_disconnect network).trans quiet
    exact {
      asked := .inl nothing
      unconnected := fun _ _ => nothing
      neverWakes := fun sent member => by
        rw [nothing] at member
        cases member
      released := (refuses error failed).released _
      reported := by
        rw [CheckRun.body, failed]
        rfl
    }
  · rename_i succeeded
    have holds := accepts succeeded
    obtain ⟨tunnel, held, -⟩ := holds.verified
    have looked :=
      (WakerWireGuardBackend.sent_disconnect network).trans
        (looksUp tunnel _ held)
    rw [holds.owned.address, quiet] at looked
    exact {
      asked := .inr ⟨tunnel, looked⟩
      unconnected := fun error failed => by
        cases succeeded.symm.trans failed
      neverWakes := fun sent member => by
        rw [looked] at member
        rw [List.mem_singleton.mp member]
        exact WakerWireGuardBackend.recognisedAction_hostRequest _ _ _ _
      released := (keeps _ _ _ holds).owned.released _
      reported := by
        rw [CheckRun.body, succeeded]
        rfl
    }

/--
Whatever the network answers, neither the host status check nor the ping wakes
anything.
-/
theorem checks_neverWake
    (network : Network Env)
    (debug : List Char → String)
    (job : FritzJob)
    (env : Env) :
    CheckRequests job
        (hostStatusCheck network.recording debug job ([], env)) ∧
      CheckRequests job
        (pingCheck network.recording debug job ([], env)) := by
  constructor
  · refine hostCheck_requests network job env ?_ ?_
    · intro tunnel world held
      exact WakerWireGuardBackend.sent_hostActive network debug held job.mac
    · intro existing fritzAddress world holds
      exact holds.hostsAction network.recording
        HostsAction.getSpecificHostEntry.name (macArguments job.mac)
  · refine hostCheck_requests network job env ?_ ?_
    · intro tunnel world held
      exact WakerWireGuardBackend.sent_pingHost network debug held job.mac
    · intro existing fritzAddress world holds
      have looked :=
        holds.hostsAction network.recording
          HostsAction.getSpecificHostEntry.name (macArguments job.mac)
      unfold WakerWireGuardBackend.pingHost
      dsimp only
      split
      · exact looked
      · exact looked.pingIpv4 network.recording _ _

end

/-- An attempt on the lab's network, with a record of its requests. -/
def recordedRun :
    Option (WakeRun (TunnelWorld (List SentRequest × Unit))) :=
  runWake
    (WakerWireGuardBackend.wakeBackend
      (labNetwork ⟨10, 231, 0, 1⟩).recording fun value => String.ofList value)
    (TunnelWorld.clock stoppedClock.recording)
    homeJob.target 1 (TunnelWorld.initial connectedBackend ([], ()))

theorem recordedRun_isSome : recordedRun.isSome = true := by
  decide +kernel

/-- That attempt asks the lab for its target and to wake it. -/
theorem recordedRun_requests :
    WakeRequests connectedBackend.fritzAddress homeJob.target.mac
      (recordedRun.get recordedRun_isSome) :=
  runWake_requests (labNetwork ⟨10, 231, 0, 1⟩) _ stoppedClock _ 1
    connectedBackend () (Option.some_get recordedRun_isSome).symm

end Waker
