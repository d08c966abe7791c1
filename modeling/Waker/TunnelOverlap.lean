import Waker.SystemSteps

namespace Waker

open ReportingThread

/-!
# Overlapping network jobs

Every worker disconnects before it reports its result, except that a wake
attempt reports `Awake` first.  Two jobs therefore never overlap as long as no
`Awake` report is drained while its worker is still disconnecting; and when one
is, the diagnostic buttons are enabled with the old tunnel still up.
-/

namespace AppSystem

/--
The number of tunnels that workers hold; the tasks that a dropped client leaves
behind for a while do not count.
-/
def liveTunnels (system : AppSystem) : Nat :=
  holders system.wakeThreads + holders system.checkThreads

/-- All workers have finished `disconnect`. -/
def AllDisconnected (system : AppSystem) : Prop :=
  (∀ thread, thread ∈ system.wakeThreads → thread.Settled) ∧
  (∀ thread, thread ∈ system.checkThreads → thread.Settled)

/--
There is at most one live tunnel, and whenever a job may start, all earlier
workers have finished `disconnect`.
-/
structure NoOverlap (system : AppSystem) : Prop where
  oneTunnel : system.liveTunnels ≤ 1
  disconnected :
    system.app.wakeEnabled ∨ system.app.diagnosticActionEnabled →
    system.AllDisconnected

/--
When the wake worker's channel is drained and `Awake` waits in it, that worker
has finished `disconnect`.
-/
def AwakeAfterDisconnect (system : AppSystem) : SystemStep → Prop
  | .drainState _ _ =>
      ∀ channel thread,
        listening? system.wakeThreads system.app.stateRx =
          some (channel, thread) →
        .awake ∈ thread.unread →
        thread.Settled
  | _ => True

/-- Only a worker somebody waits for may still have to disconnect. -/
structure Quiet (system : AppSystem) : Prop where
  wake :
    SettledExcept (system.app.stateRx = some ·) system.wakeThreads
  check :
    SettledExcept
      (fun channel =>
        system.app.hostStatus.checkRx = some channel ∨
        system.app.ping.checkRx = some channel)
      system.checkThreads

/-- The invariant of a run in which no jobs overlap. -/
structure Separated (system : AppSystem) : Prop where
  inv : system.Invariant
  quiet : system.Quiet

/-- No worker exists before the first frame. -/
theorem Separated.initial : Separated initial where
  inv := Invariant.initial
  quiet := {
    wake := fun _ _ present => by cases present
    check := fun _ _ present => by cases present
  }

namespace Quiet

variable {system : AppSystem}

/-- An idle application has no unsettled worker. -/
theorem allDisconnected
    (quiet : system.Quiet)
    (noWake : system.app.stateRx = none)
    (noHost : system.app.hostStatus.checkRx = none)
    (noPing : system.app.ping.checkRx = none) :
    system.AllDisconnected := by
  constructor
  · exact fun thread => quiet.wake.settled (by simp [noWake])
  · exact fun thread => quiet.check.settled (by simp [noHost, noPing])

/-- Operations that keep the receivers keep the workers apart. -/
theorem sameJobs
    (quiet : system.Quiet)
    {app : WakerApp}
    {phase : FramePhase}
    {repaint : Bool}
    {history : List HistoryEvent}
    (same : SameJobs system.app app) :
    Quiet { system with
      app := app
      phase := phase
      repaint := repaint
      history := history } where
  wake := quiet.wake.mono fun _ heard => same.stateRx.trans heard
  check := quiet.check.mono fun _ heard =>
    heard.imp same.hostRx.trans same.pingRx.trans

end Quiet

namespace Separated

variable {system : AppSystem}

/-- Without a running attempt no wake worker holds a tunnel. -/
theorem wakeHolders_eq_zero
    (separated : system.Separated)
    (noWake : system.app.stateRx = none) :
    holders system.wakeThreads = 0 := by
  apply separated.inv.wakeSound.holders_eq_zero
  intro thread
  exact separated.quiet.wake.settled (by simp [noWake])

/-- Without a running check no diagnostic worker holds a tunnel. -/
theorem checkHolders_eq_zero
    (separated : system.Separated)
    (noHost : system.app.hostStatus.checkRx = none)
    (noPing : system.app.ping.checkRx = none) :
    holders system.checkThreads = 0 := by
  apply separated.inv.checkSound.holders_eq_zero
  intro thread
  exact separated.quiet.check.settled (by simp [noHost, noPing])

/-- Only the worker of the running attempt holds a tunnel. -/
theorem wakeHolders_le_one
    (separated : system.Separated)
    {channel : Nat}
    (waiting : system.app.stateRx = some channel) :
    holders system.wakeThreads ≤ 1 := by
  apply separated.inv.wakeSound.holders_le_one
  apply separated.quiet.wake.mono
  intro other heard
  exact (Option.some.inj (waiting.symm.trans heard)).symm

/-- Only the worker of the running check holds a tunnel. -/
theorem checkHolders_le_one (separated : system.Separated) :
    holders system.checkThreads ≤ 1 := by
  obtain ⟨inv, quiet⟩ := separated
  cases checking : system.app.hostStatus.checkRx with
  | some channel =>
      have noPing : system.app.ping.checkRx = none :=
        inv.ui.checkAlone (by rw [checking, Option.isSome_some])
      apply @PoolSound.holders_le_one _ _ _ channel inv.checkSound
      apply quiet.check.mono
      intro other heard
      simpa [checking, noPing, eq_comm] using heard
  | none =>
      apply @PoolSound.holders_le_one _ _ _
        (system.app.ping.checkRx.getD 0) inv.checkSound
      apply quiet.check.mono
      intro other heard
      have pinging : system.app.ping.checkRx = some other := by
        simpa [checking] using heard
      rw [pinging, Option.getD_some]

/-- Separated workers hold at most one tunnel. -/
theorem liveTunnels_le_one (separated : system.Separated) :
    system.liveTunnels ≤ 1 := by
  unfold liveTunnels
  cases waiting : system.app.stateRx with
  | none =>
      rw [separated.wakeHolders_eq_zero waiting, Nat.zero_add]
      exact separated.checkHolders_le_one
  | some channel =>
      have busy : system.app.busy = true := by
        rw [separated.inv.ui.busy_stateRx, waiting, Option.isSome_some]
      obtain ⟨noHost, noPing⟩ := separated.inv.ui.wakeAlone busy
      rw [separated.checkHolders_eq_zero noHost noPing, Nat.add_zero]
      exact separated.wakeHolders_le_one waiting

/-- Separated workers do not overlap. -/
theorem noOverlap (separated : system.Separated) : system.NoOverlap where
  oneTunnel := separated.liveTunnels_le_one
  disconnected enabled := by
    obtain ⟨noWake, noHost, noPing⟩ := separated.inv.idle enabled
    exact separated.quiet.allDisconnected noWake noHost noPing

end Separated

/-- A worker whose result was received has finished `disconnect`. -/
theorem settled_of_received
    {thread : ReportingThread (Except String Bool)}
    (sound : Sound checkProtocol thread)
    (something : thread.tryRecv ≠ .error .empty) :
    thread.Settled := by
  unfold tryRecv at something
  split at something
  · rename_i message rest waiting
    exact sound.released message
      (mem_sent_iff.mpr (.inr (by simp [waiting]))) rfl
  · refine sound.settled_of_disconnected ?_
    by_contra connected
    simp [connected] at something

/--
An attempt that ends in a drain leaves a settled worker, unless it has just
reported `Awake`.
-/
theorem settled_of_outcome
    {thread : ReportingThread WakeState}
    {state : WakeState}
    (sound : Sound wakeProtocol thread)
    (outcome : EndsIn thread state)
    (awake : .awake ∈ thread.unread → thread.Settled) :
    thread.Settled := by
  cases outcome with
  | reported waiting terminal =>
      have ends := isTerminal_of_terminal terminal
      cases state with
      | awake =>
          exact awake waiting
      | failed failure =>
          exact sound.released _ (mem_sent_iff.mpr (.inr waiting)) rfl
      | _ =>
          cases ends
  | lost disconnected progress =>
      exact sound.settled_of_disconnected disconnected

/-- An admitted step keeps the workers apart. -/
theorem Quiet.step
    {system next : AppSystem}
    {label : SystemStep}
    (separated : system.Separated)
    (admitted : system.AwakeAfterDisconnect label)
    (stepped : StepCase system label next) :
    next.Quiet := by
  obtain ⟨inv, quiet⟩ := separated
  cases stepped with
  | beginFrame =>
      exact quiet.sameJobs (.refl _)
  | pass label app following repaint _ _ _ _ _ _ same =>
      exact quiet.sameJobs same
  | drainedProgress elapsedAt shownAt channel thread state turn receiver
      present =>
      exact {
        wake := quiet.wake.set present id
        check := quiet.check
      }
  | drainedEnd elapsedAt shownAt channel thread state active app turn
      receiver present outcome isActive ended =>
      have sound := inv.wakeSound thread (List.mem_of_getElem? present)
      have settled :=
        settled_of_outcome sound outcome
          (admitted channel thread (by simp [listening?, receiver, present]))
      exact {
        wake := quiet.wake.set_settled settled fun other different heard =>
          (different (Option.some.inj (heard.symm.trans receiver))).elim
        check := by
          simpa only [ended.hostStatus, ended.ping] using quiet.check
      }
  | hostWaiting now channel thread turn receiver present =>
      exact {
        wake := quiet.wake
        check := quiet.check.set present id
      }
  | pingWaiting now channel thread turn receiver present =>
      exact {
        wake := quiet.wake
        check := quiet.check.set present id
      }
  | hostFinished now channel thread check turn receiver present something
      finished =>
      have settled : thread.Settled :=
        settled_of_received
          (inv.checkSound thread (List.mem_of_getElem? present)) something
      exact {
        wake := quiet.wake
        check :=
          quiet.check.set_settled settled
            fun other different heard => by
              rcases heard with host | ping
              · exact (different
                  (Option.some.inj (host.symm.trans receiver))).elim
              · exact .inr ping
      }
  | pingFinished now channel thread check turn receiver present something
      finished =>
      have settled : thread.Settled :=
        settled_of_received
          (inv.checkSound thread (List.mem_of_getElem? present)) something
      exact {
        wake := quiet.wake
        check :=
          quiet.check.set_settled settled
            fun other different heard => by
              rcases heard with host | ping
              · exact .inl host
              · exact (different
                  (Option.some.inj (ping.symm.trans receiver))).elim
      }
  | wakeRefused click now failure app turn enabled refusal celebrated same =>
      exact quiet.sameJobs same
  | wakeSpawned click now app body turn enabled stateRx hostStatus ping =>
      obtain ⟨noWake, _⟩ := inv.idle (.inl enabled)
      exact {
        wake :=
          quiet.wake.spawn (fun _ heard => by simp [noWake] at heard)
            stateRx body.program
        check := by
          simpa only [hostStatus, ping] using quiet.check
      }
  | hostSpawned click check body turn enabled checkRx =>
      obtain ⟨_, noHost, _⟩ := inv.idle (.inr enabled)
      exact {
        wake := quiet.wake
        check :=
          quiet.check.spawn
            (fun _ heard => heard.imp_left fun host => by
              simp [noHost] at host)
            (by exact .inl checkRx) body.program
      }
  | pingSpawned click check body turn enabled checkRx =>
      obtain ⟨_, _, noPing⟩ := inv.idle (.inr enabled)
      exact {
        wake := quiet.wake
        check :=
          quiet.check.spawn
            (fun _ heard => heard.imp_right fun ping => by
              simp [noPing] at ping)
            (by exact .inr checkRx) body.program
      }
  | wakeAdvanced channel thread after notified present stepped =>
      exact {
        wake := quiet.wake.set present (·.advance stepped)
        check := quiet.check
      }
  | checkAdvanced channel thread after notified present stepped =>
      exact {
        wake := quiet.wake
        check := quiet.check.set present (·.advance stepped)
      }
  | wakePanicked channel thread after present stepped =>
      have sound := inv.wakeSound thread (List.mem_of_getElem? present)
      exact {
        wake := quiet.wake.set present (·.panic sound stepped)
        check := quiet.check
      }
  | checkPanicked channel thread after present stepped =>
      have sound := inv.checkSound thread (List.mem_of_getElem? present)
      exact {
        wake := quiet.wake
        check := quiet.check.set present (·.panic sound stepped)
      }

/--
Draining `Awake` from a worker that still has to disconnect enables the
diagnostic buttons.
-/
theorem awakeAfterDisconnect_of_noOverlap
    {system next : AppSystem}
    {label : SystemStep}
    (inv : system.Invariant)
    (stepped : system.step? label = some next)
    (noOverlap : next.NoOverlap) :
    system.AwakeAfterDisconnect label := by
  cases label with
  | drainState elapsedAt shownAt =>
      intro channel thread heard awake
      obtain ⟨receiver, present⟩ := listening?_eq_some heard
      obtain ⟨turn, _⟩ := inPhase_eq_some_iff.mp stepped
      have busy : system.app.busy = true := by
        rw [inv.ui.busy_stateRx, receiver, Option.isSome_some]
      obtain ⟨noHost, noPing⟩ := inv.ui.wakeAlone busy
      cases step_cases inv stepped with
      | pass label app following repaint inFrame moved stateDrained =>
          rw [stateDrained turn] at receiver
          cases receiver
      | drainedProgress elapsedAt shownAt drained other state turn
          sameReceiver samePresent connected shown progress =>
          cases sameReceiver.symm.trans receiver
          cases samePresent.symm.trans present
          cases progress .awake awake
      | drainedEnd elapsedAt shownAt drained other state active app turn
          sameReceiver samePresent outcome isActive ended =>
          cases sameReceiver.symm.trans receiver
          cases samePresent.symm.trans present
          have enabled : app.diagnosticActionEnabled = true := by
            simp [WakerApp.diagnosticActionEnabled, ended.busy,
              ended.hostStatus, ended.ping, noHost, noPing]
          have inRange := (List.getElem?_eq_some_iff.mp present).1
          have finished : (thread.take thread.unread.length).Settled :=
            (noOverlap.disconnected (.inr enabled)).1 _
              (List.mem_set inRange _)
          exact finished
  | _ =>
      trivial

/-- No jobs overlap exactly in the runs that drain no early `Awake`. -/
theorem noOverlap_iff_awakeAfterDisconnect (labels : List SystemStep) :
    StepSystem.Always step? NoOverlap initial labels ↔
      StepSystem.Meets step? AwakeAfterDisconnect initial labels :=
  StepSystem.always_iff_meets
    (fun _ _ _ separated admitted stepped =>
      ⟨separated.inv.step stepped,
        .step separated admitted (step_cases separated.inv stepped)⟩)
    (fun _ separated => separated.noOverlap)
    (fun _ _ _ separated stepped noOverlap =>
      awakeAfterDisconnect_of_noOverlap separated.inv stepped noOverlap)
    Separated.initial labels

/--
The wake worker reports `Awake` and is about to disconnect; the next frame
shows it, and a click starts a status check, whose worker connects.
-/
def earlyAwakeRun : List SystemStep :=
  frame 0 (some (firstClick (.spawned homeJob (.attempt promptScript))))
      none ++
    List.replicate 16 (.wakeThread 0) ++
    frame 1 none
      (some ⟨1, .spawned homeJob.fritz (.check (.ok ()) (.ok true))⟩) ++
    List.replicate 2 (.checkThread 0)

/-- Then two tunnels are up at once. -/
theorem earlyAwakeRun_overlaps :
    ¬ StepSystem.Always step? NoOverlap initial earlyAwakeRun := by
  intro always
  have twoTunnels :
      (StepSystem.run? step? initial earlyAwakeRun).map liveTunnels =
        some 2 := by
    decide
  obtain ⟨final, returned, two⟩ := Option.map_eq_some_iff.mp twoTunnels
  have one := (always.last returned).oneTunnel
  omega

end AppSystem

end Waker
