import Waker.RunWakeTrace

namespace Waker

/-!
# The probe loop ends in time

The loop neither sets the clock nor knows how long a probe takes.  It ends
because each round sleeps for the interval between two readings that a clock
never turns back, and it cannot end early because it reads that clock after the
last probe.
-/

section

variable {World : Type}

/--
Time passes in the world: readings lie between the times before and after them,
a probe does not turn time back, and a sleep lasts as long as asked.
-/
structure TimePasses
    (backend : WakeBackend World)
    (clock : Clock World)
    (time : World → Nat) : Prop where
  beforeReading : ∀ world, time world ≤ (clock.now world).1
  afterReading : ∀ world, time (clock.now world).2 ≥ (clock.now world).1
  probe :
    ∀ address world, time world ≤ time (backend.probe address world).2
  sleep :
    ∀ duration world,
      time world + duration ≤ time (clock.sleep duration world)

/-- The result of a probe. -/
def WakeEvent.probe? : WakeEvent → Option (Except WakeBackendError Bool)
  | .call (.probe _ result) => some result
  | _ => none

/-- The results of the probes of an event sequence, in order. -/
def probes (events : List WakeEvent) : List (Except WakeBackendError Bool) :=
  events.filterMap WakeEvent.probe?

/-- Nothing is probed after the last attempt. -/
theorem probes_append_closing
    (events : List WakeEvent)
    (result : Except WakeFailure Unit) :
    probes
        (events ++
          .call .disconnect ::
            match result with
            | .error failure => [.report (.failed failure)]
            | .ok () => []) =
      probes events := by
  unfold probes
  rw [List.filterMap_append]
  split <;> simp [WakeEvent.probe?]

/-- The timeout in intervals, rounded up, and one probe more. -/
def maxProbes (target : WakeTarget) : Nat :=
  (target.probeTimeout + target.probeInterval - 1) / target.probeInterval + 1

/-- A round that begins before the deadline is not the last one. -/
theorem lt_maxProbes
    {target : WakeTarget}
    (positive : 0 < target.probeInterval)
    {rounds : Nat}
    (early : rounds * target.probeInterval < target.probeTimeout) :
    rounds + 1 < maxProbes target := by
  unfold maxProbes
  rw [Nat.add_lt_add_iff_right, ← Nat.succ_le_iff,
    Nat.le_div_iff_mul_le positive, Nat.succ_mul]
  omega

/-- What a probe loop that has made some probes before does. -/
structure LoopEnds
    (target : WakeTarget)
    (address : Ipv4Addr)
    (started : Instant)
    (made : Nat)
    (run : WakeRun World) : Prop where
  bound : made + (probes run.events).length ≤ maxProbes target
  nonempty : probes run.events ≠ []
  reached :
    .ok true ∈ probes run.events →
    run.result = .ok () ∧ .report .awake ∈ run.events
  timedOut :
    ∀ failure,
      run.result = .error failure →
      failure.stage = .timeout →
      ∃ earlier reading,
        run.events =
            earlier ++ [.call (.probe address (.ok false)), .now reading] ∧
          started + target.probeTimeout ≤ reading

variable {backend : WakeBackend World}
variable {clock : Clock World}
variable {time : World → Nat}
variable {target : WakeTarget}

/-- The events of a round after which the loop goes on. -/
def unansweredRound
    (target : WakeTarget)
    (address : Ipv4Addr)
    (attempt : Nat)
    (reading : Instant) : List WakeEvent :=
  [.report (.waitingForPc attempt),
    .call (.probe address (.ok false)),
    .now reading,
    .sleep target.probeInterval]

/-- A loop that goes on ends as the rounds after this one do. -/
theorem LoopEnds.again
    {address : Ipv4Addr}
    {started : Instant}
    {made : Nat}
    {run : WakeRun World}
    (ends : LoopEnds target address started (made + 1) run)
    (attempt : Nat)
    (reading : Instant) :
    LoopEnds target address started made
      (run.prepend (unansweredRound target address attempt reading)) where
  bound := by
    have bound := ends.bound
    simp only [WakeRun.prepend, unansweredRound, probes,
      List.filterMap_append, List.length_append] at bound ⊢
    simp only [List.filterMap, WakeEvent.probe?, List.length_cons,
      List.length_nil]
    omega
  nonempty := by
    simp [WakeRun.prepend, unansweredRound, probes, WakeEvent.probe?]
  reached := by
    intro member
    have inLater : .ok true ∈ probes run.events := by
      simpa [WakeRun.prepend, unansweredRound, probes, WakeEvent.probe?]
        using member
    obtain ⟨succeeded, reported⟩ := ends.reached inLater
    exact ⟨succeeded, List.mem_append_right _ reported⟩
  timedOut := by
    intro failure failed stage
    obtain ⟨earlier, last, shape, elapsed⟩ :=
      ends.timedOut failure failed stage
    refine ⟨unansweredRound target address attempt reading ++ earlier, last,
      ?_, elapsed⟩
    rw [WakeRun.prepend, shape, List.append_assoc]

/-- A round is the last one, or it begins before the deadline and sleeps. -/
theorem probeLoop_round
    (passes : TimePasses backend clock time)
    (address : Ipv4Addr)
    {started made : Nat}
    (within : made + 1 ≤ maxProbes target)
    (attempt : Nat)
    {world : World}
    (elapsed : started + made * target.probeInterval ≤ time world) :
    (∃ run,
      LoopEnds target address started made run ∧
        ∀ fuel,
          probeLoop backend clock target address started (fuel + 1) attempt
              world =
            some run) ∨
    ∃ reading later,
      made * target.probeInterval < target.probeTimeout ∧
        started + (made + 1) * target.probeInterval ≤ time later ∧
        ∀ fuel,
          probeLoop backend clock target address started (fuel + 1) attempt
              world =
            (probeLoop backend clock target address started fuel
                (saturatingAddU32 attempt 1) later).map
              (WakeRun.prepend
                (unansweredRound target address (saturatingAddU32 attempt 1)
                  reading)) := by
  cases probed : (backend.probe address world).1 with
  | error error =>
      refine .inl ⟨_, ⟨?_, ?_, ?_, ?_⟩, fun fuel => by
        simp only [probeLoop, probed]; rfl⟩
      · exact within
      · simp [probes, WakeEvent.probe?]
      · simp [probes, WakeEvent.probe?]
      · rintro failure ⟨⟩ stage
        cases stage
  | ok reachable =>
      cases reachable with
      | true =>
          refine .inl ⟨_, ⟨?_, ?_, ?_, ?_⟩, fun fuel => by
            simp only [probeLoop, probed]; rfl⟩
          · exact within
          · simp [probes, WakeEvent.probe?]
          · exact fun _ => ⟨rfl, by simp⟩
          · rintro failure ⟨⟩
      | false =>
          have afterProbe := passes.probe address world
          have beforeReading :=
            passes.beforeReading (backend.probe address world).2
          have afterReading :=
            passes.afterReading (backend.probe address world).2
          have afterSleep :=
            passes.sleep target.probeInterval
              (clock.now (backend.probe address world).2).2
          by_cases passed :
              target.probeTimeout ≤
                Instant.durationSince
                  (clock.now (backend.probe address world).2).1 started
          · refine .inl ⟨_, ⟨?_, ?_, ?_, ?_⟩, fun fuel => by
              simp only [probeLoop, probed, if_pos passed]; rfl⟩
            · exact within
            · simp [probes, WakeEvent.probe?]
            · simp [probes, WakeEvent.probe?]
            · rintro failure - -
              refine ⟨[.report (.waitingForPc (saturatingAddU32 attempt 1))],
                _, rfl, ?_⟩
              have waited := Nat.add_le_of_le_sub' (by omega) passed
              exact waited
          · refine .inr
              ⟨(clock.now (backend.probe address world).2).1,
                clock.sleep target.probeInterval
                  (clock.now (backend.probe address world).2).2,
                ?_, ?_, fun fuel => by
                  simp only [probeLoop, probed, if_neg passed]; rfl⟩
            · have early := Nat.lt_of_not_le passed
              rw [Instant.durationSince] at early
              omega
            · rw [Nat.succ_mul]
              omega

/--
The loop returns once it has the fuel for the rounds that are left: the time is
at least the interval times the rounds made.
-/
theorem exists_probeLoop
    (positive : 0 < target.probeInterval)
    (passes : TimePasses backend clock time)
    (address : Ipv4Addr)
    {started left made : Nat}
    (rounds : made + left + 1 = maxProbes target)
    (attempt : Nat)
    {world : World}
    (elapsed : started + made * target.probeInterval ≤ time world) :
    ∃ run,
      LoopEnds target address started made run ∧
        ∀ fuel,
          left < fuel →
          probeLoop backend clock target address started fuel attempt world =
            some run := by
  induction left generalizing made attempt world with
  | zero =>
      rcases probeLoop_round passes address (by omega) attempt elapsed with
        ⟨run, ends, returns⟩ | ⟨reading, later, early, -, -⟩
      · refine ⟨run, ends, fun fuel enough => ?_⟩
        obtain ⟨fuel, rfl⟩ := Nat.exists_eq_add_one.mpr enough
        exact returns fuel
      · have another := lt_maxProbes positive early
        omega
  | succ left inductionHypothesis =>
      rcases probeLoop_round passes address (by omega) attempt elapsed with
        ⟨run, ends, returns⟩ | ⟨reading, later, -, elapsedLater, continues⟩
      · refine ⟨run, ends, fun fuel enough => ?_⟩
        obtain ⟨fuel, rfl⟩ :=
          Nat.exists_eq_add_one.mpr (Nat.zero_lt_of_lt enough)
        exact returns fuel
      · obtain ⟨run, ends, returns⟩ :=
          inductionHypothesis (by omega) (saturatingAddU32 attempt 1)
            elapsedLater
        refine ⟨_, ends.again (saturatingAddU32 attempt 1) reading,
          fun fuel enough => ?_⟩
        obtain ⟨fuel, rfl⟩ :=
          Nat.exists_eq_add_one.mpr (Nat.zero_lt_of_lt enough)
        rw [continues, returns fuel (by omega)]
        rfl

/-- The world in which the Wake-on-LAN request has been answered. -/
def answeredWorld
    (backend : WakeBackend World)
    (target : WakeTarget)
    (world : World) : World :=
  (backend.sendWake target.mac
    (backend.resolveTargetIpv4 target.mac (backend.connect world).2).2).2

/-- How often a wake attempt probes, and what it then makes of the answers. -/
structure ProbesInTime
    (backend : WakeBackend World)
    (time : World → Nat)
    (target : WakeTarget)
    (world : World)
    (run : WakeRun World) : Prop where
  bound : (probes run.events).length ≤ maxProbes target
  nonempty :
    .call (.sendWake target.mac (.ok ())) ∈ run.events →
    probes run.events ≠ []
  reached :
    .ok true ∈ probes run.events →
    run.result = .ok () ∧ .report .awake ∈ run.events
  timedOut :
    ∀ failure,
      run.result = .error failure →
      failure.stage = .timeout →
      ∃ address earlier reading,
        run.events =
            earlier ++
              [.call (.probe address (.ok false)), .now reading,
                .call .disconnect, .report (.failed failure)] ∧
          time (answeredWorld backend target world) + target.probeTimeout ≤
            reading

/-- An attempt that fails before its first probe probes in time. -/
theorem ProbesInTime.of_refused
    {world : World}
    {run : WakeRun World}
    {failure : WakeFailure}
    (noProbe : probes run.events = [])
    (notSent : .call (.sendWake target.mac (.ok ())) ∉ run.events)
    (failed : run.result = .error failure)
    (stage : failure.stage ≠ .timeout) :
    ProbesInTime backend time target world run where
  bound := by
    rw [noProbe]
    exact Nat.zero_le _
  nonempty := fun sent => absurd sent notSent
  reached := by
    rw [noProbe]
    exact fun member => absurd member List.not_mem_nil
  timedOut := by
    intro other failedToo timedOut
    obtain rfl := Except.error.inj (failed.symm.trans failedToo)
    exact absurd timedOut stage

/-- An attempt whose probe loop ends in time probes in time. -/
theorem ProbesInTime.of_loop
    {world : World}
    {address : Ipv4Addr}
    {started : Instant}
    {loop run : WakeRun World}
    {earlier : List WakeEvent}
    (ends : LoopEnds target address started 0 loop)
    (begun : time (answeredWorld backend target world) ≤ started)
    (noProbe : probes earlier = [])
    (sameResult : run.result = loop.result)
    (shape :
      run.events =
        earlier ++
          (loop.events ++
            .call .disconnect ::
              match loop.result with
              | .error failure => [.report (.failed failure)]
              | .ok () => [])) :
    ProbesInTime backend time target world run := by
  have sameProbes : probes run.events = probes loop.events := by
    rw [shape, ← probes_append_closing loop.events loop.result]
    unfold probes at noProbe ⊢
    rw [List.filterMap_append, noProbe, List.nil_append]
  exact {
    bound := by
      have bound := ends.bound
      rw [Nat.zero_add] at bound
      rw [sameProbes]
      exact bound
    nonempty := by
      rw [sameProbes]
      exact fun _ => ends.nonempty
    reached := by
      rw [sameProbes, sameResult]
      intro member
      obtain ⟨succeeded, reported⟩ := ends.reached member
      exact ⟨succeeded, by simp [shape, reported]⟩
    timedOut := by
      intro failure failed stage
      rw [sameResult] at failed
      obtain ⟨rounds, reading, lastRound, elapsed⟩ :=
        ends.timedOut failure failed stage
      refine ⟨address, earlier ++ rounds, reading, ?_, ?_⟩
      · simp [shape, failed, lastRound]
      · exact Nat.le_trans (Nat.add_le_add_right begun _) elapsed
  }

/-- A wake attempt returns, after a bounded number of probes. -/
theorem runWake_endsInTime
    (positive : 0 < target.probeInterval)
    (passes : TimePasses backend clock time)
    (world : World) :
    ∃ run,
      ProbesInTime backend time target world run ∧
        ∀ fuel,
          maxProbes target ≤ fuel →
          runWake backend clock target fuel world = some run := by
  cases connected : (backend.connect world).1 with
  | error error =>
      refine ⟨_, ?_, fun fuel _ => by
        simp only [runWake, attemptWake, connected]; rfl⟩
      exact .of_refused rfl (by simp) rfl (by simp)
  | ok value =>
      cases resolved :
          (backend.resolveTargetIpv4 target.mac (backend.connect world).2).1 with
      | error error =>
          refine ⟨_, ?_, fun fuel _ => by
            simp only [runWake, attemptWake, connected, resolved]; rfl⟩
          exact .of_refused rfl (by simp) rfl (by simp)
      | ok address =>
          cases sent :
              (backend.sendWake target.mac
                (backend.resolveTargetIpv4 target.mac
                  (backend.connect world).2).2).1 with
          | error error =>
              refine ⟨_, ?_, fun fuel _ => by
                simp only [runWake, attemptWake, connected, resolved, sent]
                rfl⟩
              exact .of_refused rfl (by simp) rfl (by simp)
          | ok value =>
              have atLeastOne :
                  0 + (maxProbes target - 1) + 1 = maxProbes target := by
                rw [Nat.zero_add]
                exact Nat.sub_add_cancel (Nat.succ_pos _)
              have begun :=
                passes.beforeReading (answeredWorld backend target world)
              have running :
                  (clock.now (answeredWorld backend target world)).1 +
                      0 * target.probeInterval ≤
                    time (clock.now (answeredWorld backend target world)).2 := by
                rw [Nat.zero_mul]
                exact passes.afterReading _
              obtain ⟨loop, ends, returns⟩ :=
                exists_probeLoop positive passes address atLeastOne 0 running
              refine ⟨_, ?_, fun fuel enough => by
                simp only [runWake, attemptWake, connected, resolved, sent]
                rw [← answeredWorld, returns fuel (by omega)]
                rfl⟩
              have noProbe :
                  probes
                      [.report .connecting,
                        .call (.connect (.ok ())),
                        .report .resolvingPc,
                        .call (.resolveTargetIpv4 target.mac (.ok address)),
                        .report .waking,
                        .call (.sendWake target.mac (.ok ())),
                        .now
                          (clock.now (answeredWorld backend target world)).1] =
                    [] :=
                rfl
              exact .of_loop ends begun noProbe rfl rfl

/-- A backend whose host never answers: its world is the time. -/
def silentBackend : WakeBackend Nat where
  connect := fun time => (.ok (), time)
  resolveTargetIpv4 := fun _ time => (.ok ⟨192, 168, 178, 20⟩, time)
  sendWake := fun _ time => (.ok (), time)
  probe := fun _ time => (.ok false, time + 1)
  disconnect := id

/-- A clock that shows that time. -/
def worldClock : Clock Nat where
  now := fun time => (time, time)
  sleep := fun duration time => time + duration

/-- An attempt to wake a silent host ends in time. -/
theorem runWake_endsInTime_silent :
    ∃ run,
      ProbesInTime silentBackend id Replay.target 0 run ∧
        ∀ fuel,
          maxProbes Replay.target ≤ fuel →
          runWake silentBackend worldClock Replay.target fuel 0 = some run :=
  @runWake_endsInTime Nat silentBackend worldClock id Replay.target
    (by decide)
    ⟨fun _ => Nat.le_refl _, fun _ => Nat.le_refl _,
      fun _ time => Nat.le_succ time, fun _ _ => Nat.le_refl _⟩ 0

end

end Waker
