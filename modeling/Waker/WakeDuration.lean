import Waker.ProbeDeadline
import Waker.RouterRequests

namespace Waker

/-!
# How long a job of the app takes

Every call of the backend has a timeout of its own.  Where the network keeps
these and time passes, a wake attempt and a diagnostic check return, after a
time that depends on nothing else that the network does.
-/

/--
Every call takes at most its timeout and some slack; resolving the endpoint,
building the device and shutting a tunnel down have no timeout of their own.
-/
structure KeepsTimeouts
    {Env : Type}
    (network : Network Env)
    (clock : Clock Env)
    (time : Env → Nat)
    (setup closing slack : Nat) : Prop where
  resolveEndpoint :
    ∀ endpoint env,
      time (network.resolveEndpoint endpoint env).2 ≤ time env + setup
  buildDevice :
    ∀ profile endpoint env,
      time (network.buildDevice profile endpoint env).2 ≤ time env + setup
  probe :
    ∀ tunnel target timeout env,
      time (network.probe tunnel target timeout env).2 ≤
        time env + (timeout + slack)
  http :
    ∀ tunnel target request timeout env,
      time (network.http tunnel target request timeout env).2 ≤
        time env + (timeout + slack)
  ping :
    ∀ tunnel target timeout env,
      time (network.ping tunnel target timeout env).2 ≤
        time env + (timeout + slack)
  shutdown :
    ∀ tunnel env, time (network.shutdown tunnel env) ≤ time env + closing
  reading : ∀ env, (clock.now env).1 ≤ time env + slack
  now : ∀ env, time (clock.now env).2 ≤ (clock.now env).1 + slack
  sleep :
    ∀ duration env,
      time (clock.sleep duration env) ≤ time env + (duration + slack)

/--
The clock shows the time, pings do not turn it back, and a sleep lasts as long
as asked.
-/
structure ClockPasses
    {Env : Type}
    (network : Network Env)
    (clock : Clock Env)
    (time : Env → Nat) : Prop where
  beforeReading : ∀ env, time env ≤ (clock.now env).1
  afterReading : ∀ env, (clock.now env).1 ≤ time (clock.now env).2
  ping :
    ∀ tunnel target timeout env,
      time env ≤ time (network.ping tunnel target timeout env).2
  sleep :
    ∀ duration env, time env + duration ≤ time (clock.sleep duration env)

/-- The time for a connection, with the end of a tunnel that is of no use. -/
def connectLimit (setup closing slack : Nat) : Nat :=
  2 * setup + (Duration.fromSecs 8 + slack) + closing

/-- The time for a Hosts action. -/
def hostsActionLimit (slack : Nat) : Nat :=
  Duration.fromSecs 8 + slack

/-- The time from the start of a probe loop to its last probe. -/
def lastProbeLimit (target : WakeTarget) (slack : Nat) : Nat :=
  target.probeTimeout + (target.probeInterval + 2 * slack)

/-- The time for a probe and the reading of the clock behind it. -/
def probeLimit (slack : Nat) : Nat :=
  Duration.fromMillis 750 + 3 * slack

/-- The time for a wake attempt up to its disconnection. -/
def attemptLimit (target : WakeTarget) (setup closing slack : Nat) : Nat :=
  connectLimit setup closing slack + 2 * hostsActionLimit slack + slack +
    lastProbeLimit target slack + probeLimit slack

/-- The time for a wake attempt. -/
def wakeLimit (target : WakeTarget) (setup closing slack : Nat) : Nat :=
  attemptLimit target setup closing slack + closing

/-- The time for a host status check. -/
def hostStatusLimit (setup closing slack : Nat) : Nat :=
  connectLimit setup closing slack + hostsActionLimit slack + closing

/-- The time for a ping check. -/
def pingCheckLimit (setup closing slack : Nat) : Nat :=
  connectLimit setup closing slack +
    (hostsActionLimit slack + (Duration.fromSecs 2 + slack)) + closing

section

variable {Env : Type}
variable {network : Network Env}
variable {clock : Clock Env}
variable {time : Env → Nat}
variable {setup closing slack : Nat}

/-- One wait behind another. -/
theorem le_add_of_le_add
    {first second third waited more : Nat}
    (begun : second ≤ first + waited)
    (ended : third ≤ second + more) :
    third ≤ first + (waited + more) := by
  omega

/-- Starting a tunnel takes two waits without a timeout. -/
theorem KeepsTimeouts.tunnelConnect
    (keeps : KeepsTimeouts network clock time setup closing slack)
    (profile : WireGuardProfile)
    (world : TunnelWorld Env) :
    time (TunnelClient.connect network profile world).2.env ≤
      time world.env + 2 * setup := by
  have resolved := keeps.resolveEndpoint profile.endpoint world.env
  rw [Nat.two_mul]
  unfold TunnelClient.connect
  dsimp only
  split
  · exact le_add_of_le_add resolved (Nat.le_add_right _ _)
  · rename_i endpoint _
    have built :=
      keeps.buildDevice profile endpoint
        (network.resolveEndpoint profile.endpoint world.env).2
    split
    · exact le_add_of_le_add resolved built
    · exact le_add_of_le_add resolved built

/-- Connecting takes the time for a connection. -/
theorem KeepsTimeouts.connect
    (keeps : KeepsTimeouts network clock time setup closing slack)
    (world : TunnelWorld Env) :
    time (WakerWireGuardBackend.connect network world).2.env ≤
      time world.env + connectLimit setup closing slack := by
  have started := keeps.tunnelConnect world.backend.profile world
  rw [connectLimit]
  unfold WakerWireGuardBackend.connect
  generalize
    TunnelClient.connect network world.backend.profile world = connected
      at started ⊢
  obtain ⟨result, after⟩ := connected
  cases result with
  | error error =>
      rw [Nat.add_assoc]
      exact le_add_of_le_add started (Nat.le_add_right _ _)
  | ok tunnel =>
      have probed :=
        keeps.probe tunnel after.backend.fritzAddress (Duration.fromSecs 8)
          after.env
      have both := le_add_of_le_add started probed
      have inTime := le_add_of_le_add both (Nat.le_add_right _ closing)
      dsimp only
      split
      · exact inTime
      · exact le_add_of_le_add both (keeps.shutdown tunnel _)
      · split
        · exact inTime
        · exact inTime

/-- A Hosts action takes the time for one. -/
theorem KeepsTimeouts.hostsAction
    (keeps : KeepsTimeouts network clock time setup closing slack)
    (action arguments : List Char)
    (world : TunnelWorld Env) :
    time
        (WakerWireGuardBackend.hostsAction network action arguments
          world).2.env ≤
      time world.env + hostsActionLimit slack := by
  unfold WakerWireGuardBackend.hostsAction
  dsimp only
  split
  · exact Nat.le_add_right _ _
  · rename_i tunnel held
    have answered :=
      keeps.http tunnel world.backend.fritzAddress
        (fritzHostsRequest world.backend.fritzAddress.ip action arguments)
        (Duration.fromSecs 8) world.env
    split
    · exact answered
    · split
      · exact answered
      · split
        · exact answered
        · exact answered

/-- A ping takes its timeout. -/
theorem KeepsTimeouts.pingIpv4
    (keeps : KeepsTimeouts network clock time setup closing slack)
    (target : Ipv4Addr)
    (timeout : Duration)
    (world : TunnelWorld Env) :
    time
        (WakerWireGuardBackend.pingIpv4 network target timeout
          world).2.env ≤
      time world.env + (timeout + slack) := by
  unfold WakerWireGuardBackend.pingIpv4
  split
  · exact Nat.le_add_right _ _
  · exact keeps.ping _ _ _ _

/-- A round that begins behind an early reading begins in time. -/
theorem begun_of_early
    {reading started timeout interval after slept delay : Nat}
    (early : ¬ timeout ≤ reading - started)
    (now : after ≤ reading + delay)
    (sleep : slept ≤ after + (interval + delay)) :
    slept ≤ started + (timeout + (interval + 2 * delay)) := by
  omega

/-- The last reading of a loop follows its last probe. -/
theorem ended_of_answered
    {answered limit reading after ping delay : Nat}
    (probed : answered ≤ limit + (ping + delay))
    (read : reading ≤ answered + delay)
    (now : after ≤ reading + delay) :
    after ≤ limit + (ping + 3 * delay) := by
  omega

/-- The probe loop takes no longer than until its last probe and that one. -/
theorem KeepsTimeouts.probeLoop
    (keeps : KeepsTimeouts network clock time setup closing slack)
    {debug : List Char → String}
    {target : WakeTarget}
    {address : Ipv4Addr}
    {started : Nat}
    {world : TunnelWorld Env}
    (begun : time world.env ≤ started + lastProbeLimit target slack)
    {fuel attempt : Nat}
    {run : WakeRun (TunnelWorld Env)}
    (returned :
      probeLoop (WakerWireGuardBackend.wakeBackend network debug)
          (TunnelWorld.clock clock) target address started fuel attempt
          world =
        some run) :
    time run.world.env ≤
      started + lastProbeLimit target slack + probeLimit slack := by
  induction fuel generalizing attempt world run with
  | zero =>
      cases returned
  | succ fuel inductionHypothesis =>
      let answered :=
        ((WakerWireGuardBackend.wakeBackend network debug).probe address
          world).2
      have probed :
          time answered.env ≤
            started + lastProbeLimit target slack +
              (Duration.fromMillis 750 + slack) :=
        Nat.le_trans
          (keeps.pingIpv4 address (Duration.fromMillis 750) world)
          (Nat.add_le_add_right begun _)
      have last :=
        ended_of_answered probed (keeps.reading answered.env)
          (keeps.now answered.env)
      have early :
          time answered.env ≤
            started + lastProbeLimit target slack + probeLimit slack :=
        Nat.le_trans probed (Nat.add_le_add_left
          (Nat.add_le_add_left
            (Nat.le_mul_of_pos_left slack (Nat.succ_pos 2)) _) _)
      unfold Waker.probeLoop at returned
      dsimp only at returned
      split at returned
      · cases returned
        exact early
      · cases returned
        exact early
      · split at returned
        · cases returned
          exact last
        · rename_i notPassed
          obtain ⟨later, laterRun, rfl⟩ :=
            Option.map_eq_some_iff.mp returned
          have again :=
            begun_of_early notPassed (keeps.now answered.env)
              (keeps.sleep target.probeInterval _)
          have ended := inductionHypothesis again laterRun
          exact ended

/-- A loop that starts behind a wait ends behind it. -/
theorem ended_of_started
    {begun waited answered reading ended delay loop : Nat}
    (before : answered ≤ begun + waited)
    (read : reading ≤ answered + delay)
    (looped : ended ≤ reading + loop) :
    ended ≤ begun + (waited + delay + loop) := by
  omega

/-- Disconnecting takes the time for the end of a tunnel. -/
theorem KeepsTimeouts.disconnect
    (keeps : KeepsTimeouts network clock time setup closing slack)
    (world : TunnelWorld Env) :
    time (WakerWireGuardBackend.disconnect network world).env ≤
      time world.env + closing := by
  unfold WakerWireGuardBackend.disconnect
  split
  · exact Nat.le_add_right _ _
  · exact keeps.shutdown _ _

/-- The parts of a wake attempt end within its time. -/
theorem within_attemptLimit
    {begun : Nat}
    {target : WakeTarget}
    {setup closing slack : Nat} :
    begun + connectLimit setup closing slack ≤
        begun + attemptLimit target setup closing slack ∧
      begun + (connectLimit setup closing slack + hostsActionLimit slack) ≤
        begun + attemptLimit target setup closing slack ∧
      begun +
          (connectLimit setup closing slack + hostsActionLimit slack +
            hostsActionLimit slack) ≤
        begun + attemptLimit target setup closing slack ∧
      begun +
          (connectLimit setup closing slack + hostsActionLimit slack +
              hostsActionLimit slack + slack +
            (lastProbeLimit target slack + probeLimit slack)) =
        begun + attemptLimit target setup closing slack := by
  unfold attemptLimit
  omega

/-- The slack of one call is part of the time for all probes. -/
theorem slack_le_lastProbeLimit (target : WakeTarget) (slack : Nat) :
    slack ≤ lastProbeLimit target slack :=
  Nat.le_trans (Nat.le_mul_of_pos_left slack (Nat.succ_pos 1))
    (Nat.le_trans (Nat.le_add_left _ _) (Nat.le_add_left _ _))

/-- Up to its disconnection a wake attempt is over in time. -/
theorem attemptWake_duration
    (keeps : KeepsTimeouts network clock time setup closing slack)
    {debug : List Char → String}
    {target : WakeTarget}
    {fuel : Nat}
    {world : TunnelWorld Env}
    {attempt : WakeRun (TunnelWorld Env)}
    (attempted :
      attemptWake (WakerWireGuardBackend.wakeBackend network debug)
          (TunnelWorld.clock clock) target fuel world =
        some attempt) :
    time attempt.world.env ≤
      time world.env + attemptLimit target setup closing slack := by
  have connected := keeps.connect world
  have resolved :=
    le_add_of_le_add connected
      (keeps.hostsAction HostsAction.getSpecificHostEntry.name
        (macArguments target.mac)
        (WakerWireGuardBackend.connect network world).2)
  have sent :=
    le_add_of_le_add resolved
      (keeps.hostsAction HostsAction.wakeOnLan.name
        (macArguments target.mac) _)
  unfold attemptWake at attempted
  dsimp only at attempted
  split at attempted
  · cases attempted
    exact Nat.le_trans connected (within_attemptLimit.1)
  · split at attempted
    · cases attempted
      exact Nat.le_trans resolved (within_attemptLimit.2.1)
    · split at attempted
      · cases attempted
        exact Nat.le_trans sent (within_attemptLimit.2.2.1)
      · obtain ⟨loop, looped, rfl⟩ :=
          Option.map_eq_some_iff.mp attempted
        have loopEnds := fun begun => keeps.probeLoop begun looped
        have ended :=
          loopEnds (Nat.le_trans (keeps.now _)
            (Nat.add_le_add_left (slack_le_lastProbeLimit target slack) _))
        rw [Nat.add_assoc] at ended
        rw [← within_attemptLimit.2.2.2]
        exact ended_of_started sent (keeps.reading _) ended

/-- A wake attempt is over in time, however it goes. -/
theorem runWake_duration
    (keeps : KeepsTimeouts network clock time setup closing slack)
    {debug : List Char → String}
    {target : WakeTarget}
    {fuel : Nat}
    {world : TunnelWorld Env}
    {run : WakeRun (TunnelWorld Env)}
    (returned :
      runWake (WakerWireGuardBackend.wakeBackend network debug)
          (TunnelWorld.clock clock) target fuel world =
        some run) :
    time run.world.env ≤
      time world.env + wakeLimit target setup closing slack := by
  obtain ⟨attempt, attempted, rfl⟩ := Option.map_eq_some_iff.mp returned
  exact le_add_of_le_add (attemptWake_duration keeps attempted)
    (keeps.disconnect attempt.world)

/-- Where the clock passes, time passes for the probe loop. -/
theorem ClockPasses.timePasses
    (passes : ClockPasses network clock time)
    (debug : List Char → String) :
    TimePasses (WakerWireGuardBackend.wakeBackend network debug)
      (TunnelWorld.clock clock) (fun world => time world.env) where
  beforeReading := fun world => passes.beforeReading world.env
  afterReading := fun world => passes.afterReading world.env
  probe := fun address world => by
    dsimp only [WakerWireGuardBackend.wakeBackend]
    unfold WakerWireGuardBackend.pingIpv4
    split
    · exact Nat.le_refl _
    · exact passes.ping _ _ _ _
  sleep := fun duration world => passes.sleep duration world.env

/-- An attempt returns once it has the fuel for all probes that it can make. -/
theorem exists_attemptWake
    {World : Type}
    {backend : WakeBackend World}
    {clock : Clock World}
    {time : World → Nat}
    {target : WakeTarget}
    (positive : 0 < target.probeInterval)
    (passes : TimePasses backend clock time)
    (world : World) :
    ∃ attempt,
      ∀ fuel,
        maxProbes target ≤ fuel →
        attemptWake backend clock target fuel world = some attempt := by
  unfold attemptWake
  dsimp only
  split
  · exact ⟨_, fun _ _ => rfl⟩
  · split
    · exact ⟨_, fun _ _ => rfl⟩
    · rename_i address resolved
      split
      · exact ⟨_, fun _ _ => rfl⟩
      · have atLeastOne :
            0 + (maxProbes target - 1) + 1 = maxProbes target := by
          rw [Nat.zero_add]
          exact Nat.sub_add_cancel (Nat.succ_pos _)
        obtain ⟨loop, -, returns⟩ :=
          exists_probeLoop positive passes address atLeastOne 0
            (Nat.le_trans (Nat.le_of_eq (by rw [Nat.zero_mul]; rfl))
              (passes.afterReading _))
        exact ⟨_, fun fuel enough =>
          congrArg (Option.map _) (returns fuel (by omega))⟩

/-- A check is over in time if what it asks for is. -/
theorem hostCheck_duration
    (keeps : KeepsTimeouts network clock time setup closing slack)
    {ask :
      MacAddress → TunnelWorld Env →
      Except WakeBackendError Bool × TunnelWorld Env}
    {limit : Nat}
    (job : FritzJob)
    (env : Env)
    (asked :
      ∀ world,
        time (ask job.mac world).2.env ≤ time world.env + limit) :
    time (hostCheck network ask job env).world.env ≤
      time env + (connectLimit setup closing slack + limit + closing) := by
  have connected :=
    keeps.connect
      (TunnelWorld.initial (.new job.profile job.fritzIp) env)
  unfold hostCheck
  dsimp only
  split
  · refine le_add_of_le_add ?_ (keeps.disconnect _)
    exact le_add_of_le_add connected (Nat.le_add_right _ _)
  · refine le_add_of_le_add ?_ (keeps.disconnect _)
    exact le_add_of_le_add connected (asked _)

/-- The jobs of the app return, and take no more than this. -/
structure JobsEndInTime
    (network : Network Env)
    (clock : Clock Env)
    (time : Env → Nat)
    (setup closing slack : Nat) : Prop where
  wake :
    ∀ debug target backend env,
      0 < target.probeInterval →
      ∃ run,
        (∀ fuel,
          maxProbes target ≤ fuel →
          runWake (WakerWireGuardBackend.wakeBackend network debug)
              (TunnelWorld.clock clock) target fuel
              (TunnelWorld.initial backend env) =
            some run) ∧
          time run.world.env ≤
            time env + wakeLimit target setup closing slack
  hostStatus :
    ∀ debug job env,
      time (hostStatusCheck network debug job env).world.env ≤
        time env + hostStatusLimit setup closing slack
  ping :
    ∀ debug job env,
      time (pingCheck network debug job env).world.env ≤
        time env + pingCheckLimit setup closing slack

/--
Where the network keeps its timeouts and the clock passes, a wake attempt
returns, and it and both checks are over in time, however they go.
-/
theorem jobs_endInTime
    (keeps : KeepsTimeouts network clock time setup closing slack)
    (passes : ClockPasses network clock time) :
    JobsEndInTime network clock time setup closing slack where
  wake := fun debug target backend env positive => by
    obtain ⟨attempt, returns⟩ :=
      exists_attemptWake positive (passes.timePasses debug)
        (TunnelWorld.initial backend env)
    have returned := returns (maxProbes target) (Nat.le_refl _)
    obtain ⟨run, ran⟩ :
        ∃ run,
          runWake (WakerWireGuardBackend.wakeBackend network debug)
              (TunnelWorld.clock clock) target (maxProbes target)
              (TunnelWorld.initial backend env) =
            some run :=
      ⟨_, congrArg (Option.map _) returned⟩
    refine ⟨run, fun fuel enough => ?_, runWake_duration keeps ran⟩
    rw [← ran, runWake, runWake, returns fuel enough, returned]
  hostStatus := fun debug job env => by
    refine hostCheck_duration keeps job env fun world => ?_
    exact keeps.hostsAction HostsAction.getSpecificHostEntry.name
      (macArguments job.mac) world
  ping := fun debug job env => by
    refine hostCheck_duration keeps job env fun world => ?_
    have looked :=
      keeps.hostsAction HostsAction.getSpecificHostEntry.name
        (macArguments job.mac) world
    unfold WakerWireGuardBackend.pingHost
    dsimp only
    split
    · exact le_add_of_le_add looked (Nat.le_add_right _ _)
    · exact le_add_of_le_add looked
        (keeps.pingIpv4 _ (Duration.fromSecs 2) _)

end

/-- A network of a PC that never answers: its state is the time. -/
def silentNetwork : Network Nat where
  resolveEndpoint := fun _ time =>
    (.ok ⟨.ipv4 ⟨127, 0, 0, 1⟩, 51820⟩, time + 1)
  buildDevice := fun _ _ time => (.ok (), time + 1)
  probe := fun _ _ _ time => (.ok true, time + 1)
  http := fun _ _ request _ time =>
    (.ok (labReply "10.231.0.1".toList request), time + 1)
  ping := fun _ _ timeout time => (.ok false, time + timeout)
  shutdown := fun _ time => time + 1

/-- On that network every job of the app is over in time. -/
theorem jobs_endInTime_silent :
    JobsEndInTime silentNetwork worldClock id 1 1 1 :=
  jobs_endInTime
    {
      resolveEndpoint := fun _ _ => Nat.le_refl _
      buildDevice := fun _ _ _ => Nat.le_refl _
      probe := fun _ _ _ _ => Nat.add_le_add_left (Nat.le_add_left _ _) _
      http := fun _ _ _ _ _ => Nat.add_le_add_left (Nat.le_add_left _ _) _
      ping := fun _ _ _ _ => Nat.add_le_add_left (Nat.le_add_right _ _) _
      shutdown := fun _ _ => Nat.le_refl _
      reading := fun _ => Nat.le_add_right _ _
      now := fun _ => Nat.le_add_right _ _
      sleep := fun _ _ => Nat.add_le_add_left (Nat.le_add_right _ _) _
    }
    {
      beforeReading := fun _ => Nat.le_refl _
      afterReading := fun _ => Nat.le_refl _
      ping := fun _ _ _ _ => Nat.le_add_right _ _
      sleep := fun _ _ => Nat.le_refl _
    }

end Waker
