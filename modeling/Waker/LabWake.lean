import Waker.ProbeDeadline
import Waker.RouterRequests

namespace Waker

/-!
# Waking a PC through the lab server

A whole wake attempt against an environment in which the FRITZ!Box is the lab
server, which reads its requests in whatever pieces they arrive, and the PC
answers pings once it has booted.  A PC that boots in time is found, and one
that is reported awake has booted.
-/

/-- The request arrives in these pieces. -/
def ArrivesAs
    (request : List UInt8)
    (chunks : List (List UInt8)) : Prop :=
  (∀ chunk, chunk ∈ chunks → chunk ≠ []) ∧ chunks.flatten = request

/--
An environment with the lab server and a PC: a Wake-on-LAN request wakes the PC,
which is up when it has booted and answers every ping from then on.  A ping and
the reading of the clock behind it take no longer than `longest`.
-/
structure LabNetwork
    {Env : Type}
    (network : Network Env)
    (clock : Clock Env)
    (pcIp : Ipv4Addr)
    (boot longest : Duration)
    (time : Env → Nat)
    (woken : Env → Option Nat) : Prop where
  resolves :
    ∀ endpoint env,
      ∃ address, (network.resolveEndpoint endpoint env).1 = .ok address
  builds :
    ∀ profile address env,
      (network.buildDevice profile address env).1 = .ok ()
  reachable :
    ∀ tunnel target timeout env,
      (network.probe tunnel target timeout env).1 = .ok true
  answers :
    ∀ tunnel target request timeout env,
      ∃ chunks,
        ArrivesAs request chunks ∧
          ∀ reply,
            runFakeFritz pcIp.display.toList
                (chunks.map ReadEvent.bytes) =
              some reply →
            (network.http tunnel target request timeout env).1 = .ok reply
  wakes :
    ∀ tunnel target request timeout env,
      recognisedAction (Utf8.decodeLossy request) = some .wakeOnLan →
      ∃ instant,
        let after := (network.http tunnel target request timeout env).2
        woken after = some instant ∧ instant ≤ time after
  pings :
    ∀ tunnel timeout env,
      ∃ answered, (network.ping tunnel pcIp timeout env).1 = .ok answered
  answersWhenUp :
    ∀ tunnel timeout env instant,
      woken env = some instant →
      instant + boot ≤ time env →
      (network.ping tunnel pcIp timeout env).1 = .ok true
  upWhenAnswered :
    ∀ tunnel timeout env,
      (network.ping tunnel pcIp timeout env).1 = .ok true →
      ∃ instant,
        let after := (network.ping tunnel pcIp timeout env).2
        woken after = some instant ∧ instant + boot ≤ time after
  prompt :
    ∀ tunnel timeout env,
      (clock.now (network.ping tunnel pcIp timeout env).2).1 ≤
        time env + longest
  pingTime :
    ∀ tunnel target timeout env,
      time env ≤ time (network.ping tunnel target timeout env).2
  pingWoken :
    ∀ tunnel target timeout env,
      woken (network.ping tunnel target timeout env).2 = woken env
  nowTime :
    ∀ env,
      time env ≤ (clock.now env).1 ∧
        (clock.now env).1 ≤ time (clock.now env).2
  nowWoken : ∀ env, woken (clock.now env).2 = woken env
  sleepTime :
    ∀ duration env, time env + duration ≤ time (clock.sleep duration env)
  sleepWoken : ∀ duration env, woken (clock.sleep duration env) = woken env
  shutdownTime :
    ∀ tunnel env, time env ≤ time (network.shutdown tunnel env)
  shutdownWoken :
    ∀ tunnel env, woken (network.shutdown tunnel env) = woken env

/-- The PC has booted since it was woken. -/
def Booted
    {Env : Type}
    (boot : Duration)
    (time : Env → Nat)
    (woken : Env → Option Nat)
    (env : Env) : Prop :=
  ∃ instant, woken env = some instant ∧ instant + boot ≤ time env

/-- How an attempt to wake the PC of the lab goes. -/
structure LabWake
    {Env : Type}
    (pcIp : Ipv4Addr)
    (boot longest : Duration)
    (time : Env → Nat)
    (woken : Env → Option Nat)
    (target : WakeTarget)
    (run : WakeRun (TunnelWorld Env)) : Prop where
  reports :
    ∃ probes,
      0 < probes ∧ probes ≤ maxProbes target ∧
        reports run.events =
          [.connecting, .resolvingPc, .waking] ++
            (List.range probes).map
              (fun index => .waitingForPc (announcedAttempt (index + 1))) ++
            [terminalState run.result]
  probed :
    ∀ address answer,
      .call (.probe address answer) ∈ run.events → address = pcIp
  outcome :
    run.result = .ok () ∨ run.result = .error (timeoutFailure target)
  found :
    boot + longest ≤ target.probeTimeout → run.result = .ok ()
  awake : run.result = .ok () → Booted boot time woken run.world.env

/-- The reply of the server to an action. -/
def labActionReply
    (pcIp : Ipv4Addr)
    (action : HostsAction) : List UInt8 :=
  let body := replyBody pcIp.display.toList action
  Utf8.encode (Http.head (replyHead (Text.utf8Length body)) ++ body)

/-- The server answers a request of the client however it arrives. -/
theorem runFakeFritz_hostRequest
    (pcIp : Ipv4Addr)
    {fritzAddress : SocketAddrV4}
    {action : HostsAction}
    {mac : MacAddress}
    {chunks : List (List UInt8)}
    (arrives :
      ArrivesAs
        (fritzHostsRequest fritzAddress.ip action.name (macArguments mac))
        chunks) :
    runFakeFritz pcIp.display.toList (chunks.map ReadEvent.bytes) =
      some (labActionReply pcIp action) := by
  obtain ⟨nonempty, split⟩ := arrives
  have message := announced_request fritzAddress.ip action mac
  have recognised :=
    WakerWireGuardBackend.recognisedAction_hostRequest fritzAddress action
      mac ⟨0⟩
  dsimp only [WakerWireGuardBackend.hostRequest] at recognised
  have request :
      fritzHostsRequest fritzAddress.ip action.name (macArguments mac) =
        Utf8.encode
          (Http.head
              (fritzHostsHead fritzAddress.ip action.name
                (Text.utf8Length
                  (fritzHostsBody action.name (macArguments mac)))) ++
            fritzHostsBody action.name (macArguments mac)) :=
    rfl
  have nothingYet :
      [] ≠
        fritzHostsRequest fritzAddress.ip action.name
          (macArguments mac) := by
    intro empty
    have length := congrArg List.length empty
    rw [fritzHostsRequest, fritzHostsHead, encode_head_cons] at length
    simp at length
  have received :
      readRequest [] (chunks.map ReadEvent.bytes ++ []) =
        .request
          (fritzHostsRequest fritzAddress.ip action.name (macArguments mac))
          [] := by
    apply readRequest_of_complete_iff _ nonempty nothingYet split
    rw [request]
    exact fun received part => message.requestComplete_iff part
  have reply :
      labReply pcIp.display.toList
          (fritzHostsRequest fritzAddress.ip action.name
            (macArguments mac)) =
        labActionReply pcIp action := by
    rw [labReply, recognised]
    rfl
  rw [List.append_nil] at received
  rw [runFakeFritz, received]
  exact congrArg some reply

section

variable {Env : Type}
variable {network : Network Env}
variable {clock : Clock Env}
variable {pcIp : Ipv4Addr}
variable {boot longest : Duration}
variable {time : Env → Nat}
variable {woken : Env → Option Nat}

/-- The lab server accepts an action on a host. -/
theorem LabNetwork.hostsAction
    (lab : LabNetwork network clock pcIp boot longest time woken)
    {world : TunnelWorld Env}
    {tunnel : TunnelClient}
    (held : world.backend.tunnel = some tunnel)
    (action : HostsAction)
    (mac : MacAddress) :
    let acted :=
      WakerWireGuardBackend.hostsAction network action.name
        (macArguments mac) world
    acted.1 = .ok (200, labActionReply pcIp action) ∧
      acted.2.backend = world.backend ∧
      acted.2.env =
        (network.http tunnel world.backend.fritzAddress
          (fritzHostsRequest world.backend.fritzAddress.ip action.name
            (macArguments mac))
          (Duration.fromSecs 8) world.env).2 := by
  obtain ⟨chunks, arrives, answers⟩ :=
    lab.answers tunnel world.backend.fritzAddress
      (fritzHostsRequest world.backend.fritzAddress.ip action.name
        (macArguments mac))
      (Duration.fromSecs 8) world.env
  have answered := answers _ (runFakeFritz_hostRequest pcIp arrives)
  have status :
      httpStatus (labActionReply pcIp action) = .ok 200 :=
    httpStatus_reply _ _
  unfold WakerWireGuardBackend.hostsAction
  simp only [held, answered, status]
  exact ⟨rfl, rfl, rfl⟩

/-- Time passes in the lab. -/
theorem LabNetwork.timePasses
    (lab : LabNetwork network clock pcIp boot longest time woken)
    (debug : List Char → String) :
    TimePasses (WakerWireGuardBackend.wakeBackend network debug)
      (TunnelWorld.clock clock) (fun world => time world.env) where
  beforeReading := fun world => (lab.nowTime world.env).1
  afterReading := fun world => (lab.nowTime world.env).2
  probe := fun address world => by
    dsimp only [WakerWireGuardBackend.wakeBackend]
    unfold WakerWireGuardBackend.pingIpv4
    split
    · exact Nat.le_refl _
    · exact lab.pingTime _ _ _ _
  sleep := fun duration world => lab.sleepTime duration world.env

/-- Disconnecting leaves the PC as it is. -/
theorem LabNetwork.booted_disconnect
    (lab : LabNetwork network clock pcIp boot longest time woken)
    (world : TunnelWorld Env)
    (booted : Booted boot time woken world.env) :
    Booted boot time woken
      (WakerWireGuardBackend.disconnect network world).env := by
  obtain ⟨instant, woke, past⟩ := booted
  unfold WakerWireGuardBackend.disconnect
  split
  · exact ⟨instant, woke, past⟩
  · rename_i tunnel held
    exact ⟨instant, (lab.shutdownWoken tunnel world.env).trans woke,
      Nat.le_trans past (lab.shutdownTime tunnel world.env)⟩

/-- A probe pings the PC through the tunnel of the backend. -/
theorem probe_eq
    (debug : List Char → String)
    {world : TunnelWorld Env}
    {tunnel : TunnelClient}
    (held : world.backend.tunnel = some tunnel)
    {address : Ipv4Addr}
    {answered : Bool}
    (pinged :
      (network.ping tunnel address (Duration.fromMillis 750)
        world.env).1 = .ok answered) :
    (WakerWireGuardBackend.wakeBackend network debug).probe address world =
      (.ok answered,
        (world.withEnv
          (network.ping tunnel address (Duration.fromMillis 750)
            world.env).2).record (.pinged tunnel address)) := by
  simp only [WakerWireGuardBackend.wakeBackend,
    WakerWireGuardBackend.pingIpv4, held, pinged]
  rfl

/-- What was read soon after a time is not far behind an earlier start. -/
theorem sub_lt_of_late
    {reading now instant started bootTime delay : Nat}
    (prompt : reading ≤ now + delay)
    (notUp : now < instant + bootTime)
    (begun : instant ≤ started)
    (late : started ≤ now) :
    reading - started < bootTime + delay := by
  omega

/--
The probe loop ends when the PC answers, or at a deadline that the PC could not
meet.
-/
theorem LabNetwork.probeLoop
    (lab : LabNetwork network clock pcIp boot longest time woken)
    {debug : List Char → String}
    {target : WakeTarget}
    {world : TunnelWorld Env}
    {tunnel : TunnelClient}
    (held : world.backend.tunnel = some tunnel)
    {instant started : Nat}
    (woke : woken world.env = some instant)
    (begun : instant ≤ started)
    (late : started ≤ time world.env)
    {fuel attempt : Nat}
    {run : WakeRun (TunnelWorld Env)}
    (returned :
      probeLoop (WakerWireGuardBackend.wakeBackend network debug)
          (TunnelWorld.clock clock) target pcIp started fuel attempt
          world =
        some run) :
    (run.result = .ok () ∧ Booted boot time woken run.world.env) ∨
      run.result = .error (timeoutFailure target) ∧
        target.probeTimeout < boot + longest := by
  induction fuel generalizing attempt world run with
  | zero =>
      cases returned
  | succ fuel inductionHypothesis =>
      obtain ⟨answered, pinged⟩ :=
        lab.pings tunnel (Duration.fromMillis 750) world.env
      unfold Waker.probeLoop at returned
      rw [probe_eq debug held pinged] at returned
      cases answered with
      | true =>
          cases returned
          exact .inl ⟨rfl, lab.upWhenAnswered _ _ _ pinged⟩
      | false =>
          have notUp : time world.env < instant + boot := by
            by_contra up
            have answers :=
              lab.answersWhenUp tunnel (Duration.fromMillis 750) world.env
                instant woke (Nat.le_of_not_lt up)
            cases pinged.symm.trans answers
          have prompt :=
            lab.prompt tunnel (Duration.fromMillis 750) world.env
          dsimp only at returned
          split at returned
          · rename_i passed
            cases returned
            refine .inr ⟨rfl, ?_⟩
            exact Nat.lt_of_le_of_lt passed
              (sub_lt_of_late prompt notUp begun late)
          · obtain ⟨later, laterRun, rfl⟩ :=
              Option.map_eq_some_iff.mp returned
            have ended :
                (later.result = .ok () ∧
                    Booted boot time woken later.world.env) ∨
                  later.result = .error (timeoutFailure target) ∧
                    target.probeTimeout < boot + longest := by
              refine inductionHypothesis ?_ ?_ ?_ laterRun
              · exact held
              · exact (lab.sleepWoken _ _).trans
                  ((lab.nowWoken _).trans
                    ((lab.pingWoken _ _ _ _).trans woke))
              · have pingTime :=
                  lab.pingTime tunnel pcIp (Duration.fromMillis 750)
                    world.env
                have nowTime :=
                  lab.nowTime
                    (network.ping tunnel pcIp (Duration.fromMillis 750)
                      world.env).2
                have sleepTime :=
                  lab.sleepTime target.probeInterval
                    (clock.now
                      (network.ping tunnel pcIp (Duration.fromMillis 750)
                        world.env).2).2
                exact Nat.le_trans late (Nat.le_trans pingTime
                  (Nat.le_trans (Nat.le_trans nowTime.1 nowTime.2)
                    (Nat.le_trans (Nat.le_add_right _ _) sleepTime)))
            exact ended

/-- Connecting to the lab succeeds. -/
theorem LabNetwork.connects
    (lab : LabNetwork network clock pcIp boot longest time woken)
    (world : TunnelWorld Env) :
    (WakerWireGuardBackend.connect network world).1 = .ok () := by
  obtain ⟨address, resolved⟩ :=
    lab.resolves world.backend.profile.endpoint world.env
  simp only [WakerWireGuardBackend.connect, TunnelClient.connect, resolved,
    lab.builds, TunnelClient.probe, lab.reachable]

/-- Every probe of a loop is announced. -/
theorem ProbeTrace.length_announcedCalls
    {target : WakeTarget}
    {address : Ipv4Addr}
    {started : Instant}
    {attempt : Nat}
    {events : List WakeEvent}
    {result : Except WakeFailure Unit}
    (trace : ProbeTrace target address started attempt events result) :
    (announcedCalls events).length = (probes events).length := by
  induction trace with
  | again attempt reading early later inductionHypothesis =>
      simpa [probes, WakeEvent.probe?, List.filterMap_cons] using
        inductionHypothesis
  | _ =>
      rfl

/-- Every probe of a loop is one of its address. -/
theorem ProbeTrace.probed
    {target : WakeTarget}
    {address : Ipv4Addr}
    {started : Instant}
    {attempt : Nat}
    {events : List WakeEvent}
    {result : Except WakeFailure Unit}
    (trace : ProbeTrace target address started attempt events result)
    {other : Ipv4Addr}
    {answer : Except WakeBackendError Bool}
    (member : .call (.probe other answer) ∈ events) :
    other = address := by
  induction trace with
  | again attempt reading early later inductionHypothesis =>
      simp only [List.mem_cons, reduceCtorEq, false_or,
        WakeEvent.call.injEq, BackendCall.probe.injEq] at member
      rcases member with ⟨same, -⟩ | inLater
      · exact same
      · exact inductionHypothesis inLater
  | _ =>
      simp at member
      exact member.1

/-- An attempt that gets to its probe loop returns what the loop does. -/
theorem runWake_of_loop
    {World : Type}
    {backend : WakeBackend World}
    {clock : Clock World}
    {target : WakeTarget}
    {world : World}
    {address : Ipv4Addr}
    {fuel : Nat}
    {loop : WakeRun World}
    (connected : (backend.connect world).1 = .ok ())
    (resolved :
      (backend.resolveTargetIpv4 target.mac (backend.connect world).2).1 =
        .ok address)
    (sent :
      (backend.sendWake target.mac
        (backend.resolveTargetIpv4 target.mac
          (backend.connect world).2).2).1 = .ok ())
    (looped :
      probeLoop backend clock target address
          (clock.now (answeredWorld backend target world)).1 fuel 0
          (clock.now (answeredWorld backend target world)).2 =
        some loop) :
    runWake backend clock target fuel world =
      some {
        result := loop.result
        events :=
          [.report .connecting,
            .call (.connect (.ok ())),
            .report .resolvingPc,
            .call (.resolveTargetIpv4 target.mac (.ok address)),
            .report .waking,
            .call (.sendWake target.mac (.ok ())),
            .now (clock.now (answeredWorld backend target world)).1] ++
            (loop.events ++ closing loop.result)
        world := backend.disconnect loop.world
      } := by
  simp only [runWake, attemptWake, connected, resolved, sent]
  rw [← answeredWorld, looped]
  cases succeeded : loop.result with
  | ok done =>
      simp [WakeRun.prepend, closing, succeeded]
  | error failure =>
      simp [WakeRun.prepend, closing, succeeded]

/-- An attempt whose probe loop ran like this goes like this. -/
theorem labWake_of_loop
    {target : WakeTarget}
    {started : Instant}
    {loop run : WakeRun (TunnelWorld Env)}
    (trace :
      ProbeTrace target pcIp started 0
        (loop.events ++ closing loop.result) loop.result)
    (ends : LoopEnds target pcIp started 0 loop)
    (outcome :
      (loop.result = .ok () ∧ Booted boot time woken loop.world.env) ∨
        loop.result = .error (timeoutFailure target) ∧
          target.probeTimeout < boot + longest)
    (sameResult : run.result = loop.result)
    (stillBooted :
      Booted boot time woken loop.world.env →
      Booted boot time woken run.world.env)
    (shape :
      run.events =
        [.report .connecting,
          .call (.connect (.ok ())),
          .report .resolvingPc,
          .call (.resolveTargetIpv4 target.mac (.ok pcIp)),
          .report .waking,
          .call (.sendWake target.mac (.ok ())),
          .now started] ++
          (loop.events ++ closing loop.result)) :
    LabWake pcIp boot longest time woken target run where
  reports := by
    have sameProbes :
        probes (loop.events ++ closing loop.result) =
          probes loop.events := by
      rw [probes, List.filterMap_append]
      cases loop.result with
      | ok done =>
          exact List.append_nil _
      | error failure =>
          exact List.append_nil _
    refine ⟨(probes loop.events).length,
      List.length_pos_iff.mpr ends.nonempty, ?_, ?_⟩
    · have bound := ends.bound
      rw [Nat.zero_add] at bound
      exact bound
    · have reported := trace.reports
      rw [trace.length_announcedCalls, sameProbes] at reported
      rw [shape, sameResult]
      simp only [reports_report, reports_call, reports_now, List.cons_append,
        List.nil_append, reported, Nat.zero_add]
  probed := by
    intro address answer member
    rw [shape] at member
    rcases List.mem_append.mp member with front | inLoop
    · simp at front
    · exact trace.probed inLoop
  outcome := by
    rw [sameResult]
    exact outcome.imp And.left And.left
  found := by
    intro inTime
    rw [sameResult]
    rcases outcome with ⟨succeeded, -⟩ | ⟨-, late⟩
    · exact succeeded
    · exact absurd inTime (Nat.not_le_of_lt late)
  awake := by
    intro succeeded
    rw [sameResult] at succeeded
    rcases outcome with ⟨-, booted⟩ | ⟨failed, -⟩
    · exact stillBooted booted
    · cases succeeded.symm.trans failed

/-- The lab resolves its PC. -/
theorem LabNetwork.resolvesPc
    (lab : LabNetwork network clock pcIp boot longest time woken)
    (debug : List Char → String)
    {world : TunnelWorld Env}
    {tunnel : TunnelClient}
    (held : world.backend.tunnel = some tunnel)
    (mac : MacAddress) :
    let resolved := WakerWireGuardBackend.hostIpv4 network debug mac world
    resolved.1 = .ok pcIp ∧ resolved.2.backend = world.backend := by
  obtain ⟨looked, sameBackend, -⟩ :=
    lab.hostsAction held .getSpecificHostEntry mac
  have ip :
      fritzHostIp debug (labActionReply pcIp .getSpecificHostEntry) =
        .ok pcIp :=
    fritzHostIp_reply debug pcIp _
  refine ⟨?_, sameBackend⟩
  unfold WakerWireGuardBackend.hostIpv4 WakerWireGuardBackend.hostEntry
  dsimp only
  rw [looked]
  dsimp only [Except.map, Except.bind]
  rw [ip]
  rfl

/-- The lab wakes its PC. -/
theorem LabNetwork.wakesPc
    (lab : LabNetwork network clock pcIp boot longest time woken)
    {world : TunnelWorld Env}
    {tunnel : TunnelClient}
    (held : world.backend.tunnel = some tunnel)
    (mac : MacAddress) :
    let accepted := WakerWireGuardBackend.sendWake network mac world
    accepted.1 = .ok () ∧
      accepted.2.backend = world.backend ∧
      ∃ instant,
        woken accepted.2.env = some instant ∧
          instant ≤ time accepted.2.env := by
  obtain ⟨answered, sameBackend, sameEnv⟩ :=
    lab.hostsAction held .wakeOnLan mac
  have recognised :=
    WakerWireGuardBackend.recognisedAction_hostRequest
      world.backend.fritzAddress .wakeOnLan mac tunnel
  obtain ⟨instant, woke, begun⟩ :=
    lab.wakes tunnel world.backend.fritzAddress
      (fritzHostsRequest world.backend.fritzAddress.ip
        HostsAction.wakeOnLan.name (macArguments mac))
      (Duration.fromSecs 8) world.env recognised
  rw [← sameEnv] at woke begun
  refine ⟨?_, sameBackend, instant, woke, begun⟩
  unfold WakerWireGuardBackend.sendWake
  dsimp only
  rw [answered]
  rfl

/--
An attempt to wake the PC of the lab returns; it finds a PC that boots in time,
and reports no other awake.
-/
theorem runWake_lab
    (lab : LabNetwork network clock pcIp boot longest time woken)
    (debug : List Char → String)
    {target : WakeTarget}
    (positive : 0 < target.probeInterval)
    (backend : WakerWireGuardBackend)
    (env : Env) :
    ∃ run,
      LabWake pcIp boot longest time woken target run ∧
        ∀ fuel,
          maxProbes target ≤ fuel →
          runWake (WakerWireGuardBackend.wakeBackend network debug)
              (TunnelWorld.clock clock) target fuel
              (TunnelWorld.initial backend env) =
            some run := by
  let answered :=
    answeredWorld (WakerWireGuardBackend.wakeBackend network debug) target
      (.initial backend env)
  have connected := lab.connects (.initial backend env)
  obtain ⟨tunnel, held, -⟩ :=
    ((connect_cases (Owned.initial backend env) network).1
      connected).verified
  obtain ⟨resolved, resolvedBackend⟩ :=
    lab.resolvesPc debug held target.mac
  have stillHeld := (congrArg (·.tunnel) resolvedBackend).trans held
  obtain ⟨sent, sentBackend, instant, woke, begun⟩ :=
    lab.wakesPc stillHeld target.mac
  have reading := lab.nowTime answered.env
  have probingHeld :
      ((TunnelWorld.clock clock).now answered).2.backend.tunnel =
        some tunnel :=
    (congrArg (·.tunnel) sentBackend).trans stillHeld
  have stillWoken :
      woken ((TunnelWorld.clock clock).now answered).2.env =
        some instant :=
    (lab.nowWoken answered.env).trans woke
  have atLeastOne :
      0 + (maxProbes target - 1) + 1 = maxProbes target := by
    rw [Nat.zero_add]
    exact Nat.sub_add_cancel (Nat.succ_pos _)
  have running :
      ((TunnelWorld.clock clock).now answered).1 +
          0 * target.probeInterval ≤
        time ((TunnelWorld.clock clock).now answered).2.env := by
    rw [Nat.zero_mul]
    exact reading.2
  obtain ⟨loop, ends, returns⟩ :=
    exists_probeLoop positive (lab.timePasses debug) pcIp atLeastOne 0
      running
  have looped := returns (maxProbes target) (by omega)
  have outcome :=
    lab.probeLoop probingHeld stillWoken
      (Nat.le_trans begun reading.1) reading.2 looped
  refine ⟨_, ?_, fun fuel enough =>
    runWake_of_loop connected resolved sent (returns fuel (by omega))⟩
  exact labWake_of_loop (probeLoop_trace looped) ends outcome rfl
    (lab.booted_disconnect loop.world) rfl

end

/-- A PC, with the time and the instant at which it was woken. -/
structure LabPc where
  time : Nat
  woken : Option Nat

/-- The PC has been woken so long ago. -/
def LabPc.isUp (boot : Duration) (pc : LabPc) : Bool :=
  match pc.woken with
  | none => false
  | some instant => instant + boot ≤ pc.time

/-- A network on which only a ping without an answer takes time. -/
def labPcNetwork (pcIp : Ipv4Addr) (boot : Duration) : Network LabPc where
  resolveEndpoint := fun _ pc => (.ok ⟨.ipv4 ⟨127, 0, 0, 1⟩, 51820⟩, pc)
  buildDevice := fun _ _ pc => (.ok (), pc)
  probe := fun _ _ _ pc => (.ok true, pc)
  http := fun _ _ request _ pc =>
    (.ok (labReply pcIp.display.toList request),
      if recognisedAction (Utf8.decodeLossy request) = some .wakeOnLan then
        { pc with woken := some pc.time }
      else
        pc)
  ping := fun _ target _ pc =>
    if target = pcIp ∧ pc.isUp boot then
      (.ok true, pc)
    else
      (.ok false, { pc with time := pc.time + Duration.fromMillis 750 })
  shutdown := fun _ pc => pc

/-- The clock of that network. -/
def labPcClock : Clock LabPc where
  now := fun pc => (pc.time, pc)
  sleep := fun duration pc => { pc with time := pc.time + duration }

/-- On this network the PC boots as in the lab. -/
theorem labPcNetwork_isLab
    (pcIp : Ipv4Addr)
    (boot : Duration) :
    LabNetwork (labPcNetwork pcIp boot) labPcClock pcIp boot
      (Duration.fromMillis 750) LabPc.time LabPc.woken where
  resolves _ _ := ⟨_, rfl⟩
  builds _ _ _ := rfl
  reachable _ _ _ _ := rfl
  answers _ _ request _ _ := by
    refine ⟨[request].filter (· ≠ []), ⟨?_, ?_⟩, ?_⟩
    · intro chunk member
      simpa using (List.mem_filter.mp member).2
    · by_cases empty : request = []
      · simp [empty]
      · simp [empty]
    · intro reply answered
      by_cases empty : request = []
      · simp [empty, runFakeFritz, readRequest] at answered
      · by_cases complete : requestComplete request = true
        · simpa [empty, complete, runFakeFritz, readRequest, labPcNetwork]
            using answered
        · simp [empty, complete, runFakeFritz, readRequest] at answered
  wakes _ _ _ _ pc recognised := by
    refine ⟨pc.time, ?_⟩
    simp [labPcNetwork, recognised]
  pings _ _ pc := by
    by_cases up : pc.isUp boot
    · exact ⟨true, by simp [labPcNetwork, up]⟩
    · exact ⟨false, by simp [labPcNetwork, up]⟩
  answersWhenUp _ _ pc instant woke booted := by
    have up : pc.isUp boot = true := by
      rw [LabPc.isUp, woke]
      exact decide_eq_true booted
    simp [labPcNetwork, up]
  upWhenAnswered _ _ pc answered := by
    by_cases up : pc.isUp boot
    · have booted := up
      rw [LabPc.isUp] at booted
      split at booted
      · cases booted
      · rename_i instant woke
        refine ⟨instant, ?_⟩
        simp only [labPcNetwork, up, and_self, ↓reduceIte]
        exact ⟨woke, of_decide_eq_true booted⟩
    · simp [labPcNetwork, up] at answered
  prompt _ _ pc := by
    dsimp only [labPcNetwork, labPcClock]
    split
    · exact Nat.le_add_right _ _
    · exact Nat.le_refl _
  pingTime _ _ _ pc := by
    dsimp only [labPcNetwork]
    split
    · exact Nat.le_refl _
    · exact Nat.le_add_right _ _
  pingWoken _ _ _ pc := by
    dsimp only [labPcNetwork]
    split
    · rfl
    · rfl
  nowTime _ := ⟨Nat.le_refl _, Nat.le_refl _⟩
  nowWoken _ := rfl
  sleepTime _ _ := Nat.le_refl _
  sleepWoken _ _ := rfl
  shutdownTime _ _ := Nat.le_refl _
  shutdownWoken _ _ := rfl

/-- An attempt to wake a PC that boots within forty seconds finds it. -/
theorem runWake_lab_fortySeconds :
    ∃ run,
      LabWake ⟨10, 231, 0, 1⟩ (Duration.fromSecs 40)
          (Duration.fromMillis 750) LabPc.time
          LabPc.woken homeJob.target run ∧
        ∀ fuel,
          maxProbes homeJob.target ≤ fuel →
          runWake
              (WakerWireGuardBackend.wakeBackend
                (labPcNetwork ⟨10, 231, 0, 1⟩ (Duration.fromSecs 40))
                fun value => String.ofList value)
              (TunnelWorld.clock labPcClock) homeJob.target fuel
              (TunnelWorld.initial connectedBackend ⟨0, none⟩) =
            some run :=
  runWake_lab (labPcNetwork_isLab _ _) _ (by decide) connectedBackend _

end Waker
