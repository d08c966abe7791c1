import Waker.SystemSteps
import Waker.ThreadWakeup

namespace Waker

open ReportingThread

/-!
# Repaint requests and the end of a worker

A frame runs only when a repaint was requested, and only a frame notices that a
worker has dropped its sender.  Workers request a repaint after each report,
but nothing requests one when an unwinding worker drops its sender.  The user
interface is left waiting exactly when that happens with no frame to come.
-/

namespace AppSystem

/-- The wake worker's channel will still be drained. -/
def WakeDrainAhead (system : AppSystem) : Prop :=
  system.repaint = true ∨ system.phase = .drainState

/-- The channel of the host status check will still be drained. -/
def HostDrainAhead (system : AppSystem) : Prop :=
  system.repaint = true ∨ system.phase = .drainState ∨
    system.phase = .drainHostStatus

/-- The channel of the ping will still be drained. -/
def PingDrainAhead (system : AppSystem) : Prop :=
  system.repaint = true ∨ system.phase = .drainState ∨
    system.phase = .drainHostStatus ∨ system.phase = .drainPing

/--
Once a worker has ended, no repaint request is outstanding and the frame in
progress, if any, has drained the channel, nobody waits for the worker.
-/
structure NotStuck (system : AppSystem) : Prop where
  wake :
    ∀ channel thread,
      system.wakeThreads[channel]? = some thread →
      thread.disconnected = true →
      ¬ system.WakeDrainAhead →
      system.app.stateRx ≠ some channel
  busy :
    (∀ thread,
      thread ∈ system.wakeThreads → thread.disconnected = true) →
    ¬ system.WakeDrainAhead →
    system.app.busy = false
  hostStatus :
    ∀ channel thread,
      system.checkThreads[channel]? = some thread →
      thread.disconnected = true →
      ¬ system.HostDrainAhead →
      system.app.hostStatus.checkRx ≠ some channel
  ping :
    ∀ channel thread,
      system.checkThreads[channel]? = some thread →
      thread.disconnected = true →
      ¬ system.PingDrainAhead →
      system.app.ping.checkRx ≠ some channel

/--
A worker that panicked drops its sender only while its channel will still be
drained, or when nobody waits for it.
-/
def PanicNoticed (system : AppSystem) : SystemStep → Prop
  | .wakeThread channel =>
      ∀ thread,
        system.wakeThreads[channel]? = some thread →
        thread.DropsSender →
        system.app.stateRx = some channel →
        system.WakeDrainAhead
  | .checkThread channel =>
      ∀ thread,
        system.checkThreads[channel]? = some thread →
        thread.DropsSender →
        (system.app.hostStatus.checkRx = some channel →
          system.HostDrainAhead) ∧
        (system.app.ping.checkRx = some channel → system.PingDrainAhead)
  | _ => True

/-- Every awaited worker will ask for a frame, or a frame will come anyway. -/
structure Attentive (system : AppSystem) : Prop where
  inv : system.Invariant
  wake :
    Roused system.WakeDrainAhead system.wakeThreads system.app.stateRx
  hostStatus :
    Roused system.HostDrainAhead system.checkThreads
      system.app.hostStatus.checkRx
  ping :
    Roused system.PingDrainAhead system.checkThreads
      system.app.ping.checkRx

namespace Attentive

variable {system : AppSystem}

/-- Nobody waits before the first frame. -/
theorem initial : Attentive initial where
  inv := Invariant.initial
  wake := roused_none
  hostStatus := roused_none
  ping := roused_none

/-- While all workers are attended to, the user interface is not stuck. -/
theorem notStuck (attentive : system.Attentive) : system.NotStuck where
  wake channel thread present ended notAhead heard :=
    notAhead (attentive.wake.endSeen channel thread heard present ended)
  busy ended notAhead := by
    rw [attentive.inv.ui.busy_stateRx, Option.isSome_eq_false_iff,
      Option.isNone_iff_eq_none]
    by_contra waiting
    obtain ⟨channel, heard⟩ := Option.ne_none_iff_exists'.mp waiting
    obtain ⟨thread, present, _⟩ := attentive.inv.wakeListening channel heard
    exact notAhead (attentive.wake.endSeen channel thread heard present
      (ended thread (List.mem_of_getElem? present)))
  hostStatus channel thread present ended notAhead heard :=
    notAhead (attentive.hostStatus.endSeen channel thread heard present ended)
  ping channel thread present ended notAhead heard :=
    notAhead (attentive.ping.endSeen channel thread heard present ended)

end Attentive

/-- A drain that leaves an empty channel leaves a thread that will notify. -/
theorem willNotify_of_empty
    {thread : ReportingThread (Except String Bool)}
    (sound : Sound checkProtocol thread)
    (unfinished : Unfinished checkProtocol thread)
    (nothing : thread.tryRecv = .error .empty) :
    (thread.take 1).WillNotify := by
  have waiting := unread_eq_nil_of_tryRecv nothing
  have connected : thread.disconnected = false := by
    by_contra ended
    rw [Bool.not_eq_false] at ended
    simp [tryRecv, waiting, ended] at nothing
  refine (sound.take 1).willNotify connected fun message member => ?_
  exact unfinished.not_terminal (by simp [waiting]) member

/-- A drain that leaves only progress leaves a thread that will notify. -/
theorem willNotify_of_progress
    {thread : ReportingThread WakeState}
    (sound : Sound wakeProtocol thread)
    (unfinished : Unfinished wakeProtocol thread)
    (connected : thread.disconnected = false)
    (progress :
      ∀ state, state ∈ thread.unread → state.isProgress = true)
    (count : Nat) :
    (thread.take count).WillNotify :=
  (sound.take count).willNotify connected fun _ member =>
    unfinished.not_terminal
      (fun state waiting =>
        wakeProtocol.disjoint state (progress state waiting)) member

section Phases

variable {system : AppSystem}

/-- After its drain, only a request makes a frame look at the wake worker. -/
theorem WakeDrainAhead.requested
    (ahead : system.WakeDrainAhead)
    (past : system.phase ≠ .drainState) :
    system.repaint = true :=
  ahead.resolve_right past

/-- After its drain, only a request makes a frame look at the host check. -/
theorem HostDrainAhead.requested
    (ahead : system.HostDrainAhead)
    (past :
      system.phase ≠ .drainState ∧ system.phase ≠ .drainHostStatus) :
    system.repaint = true :=
  ahead.resolve_right (not_or.mpr past)

/-- After its drain, only a request makes a frame look at the ping. -/
theorem PingDrainAhead.requested
    (ahead : system.PingDrainAhead)
    (past :
      system.phase ≠ .drainState ∧ system.phase ≠ .drainHostStatus ∧
        system.phase ≠ .drainPing) :
    system.repaint = true :=
  ahead.resolve_right fun turn =>
    turn.elim past.1 fun turn => turn.elim past.2.1 past.2.2

end Phases

/-- A step that meets the condition keeps all workers attended to. -/
theorem Attentive.step
    {system next : AppSystem}
    {label : SystemStep}
    (attentive : system.Attentive)
    (noticed : system.PanicNoticed label)
    (stepped : system.step? label = some next) :
    next.Attentive := by
  have after := attentive.inv.step stepped
  obtain ⟨inv, wake, hostStatus, ping⟩ := attentive
  cases step_cases inv stepped with
  | beginFrame input idle =>
      exact {
        inv := after
        wake := roused_of_looks (.inr rfl)
        hostStatus := roused_of_looks (.inr (.inl rfl))
        ping := roused_of_looks (.inr (.inl rfl))
      }
  | pass label app following repaint inFrame moved stateDrained
      hostDrained pingDrained celebrated same repaintKept =>
      subst moved
      exact {
        inv := after
        wake := wake.pass same.stateRx stateDrained
          fun other ahead => .inl (repaintKept (ahead.resolve_right other))
        hostStatus := hostStatus.pass same.hostRx hostDrained
          fun other ahead => by
            rcases ahead with requested | turn | turn
            · exact .inl (repaintKept requested)
            · exact .inr (.inr (by rw [turn]; rfl))
            · exact (other turn).elim
        ping := ping.pass same.pingRx pingDrained
          fun other ahead => by
            rcases ahead with requested | turn | turn | turn
            · exact .inl (repaintKept requested)
            · exact .inr (.inr (.inl (by rw [turn]; rfl)))
            · exact .inr (.inr (.inr (by rw [turn]; rfl)))
            · exact (other turn).elim
      }
  | drainedProgress elapsedAt shownAt channel thread state turn receiver
      present connected shown progress =>
      have sound := inv.wakeSound thread (List.mem_of_getElem? present)
      have unfinished :=
        inv.wakeListening.unfinished receiver present
      exact {
        inv := after
        wake := roused_set_of_willNotify receiver
          (willNotify_of_progress sound unfinished connected progress _)
        hostStatus := roused_of_looks (.inr (.inr rfl))
        ping := roused_of_looks (.inr (.inr (.inl rfl)))
      }
  | drainedEnd elapsedAt shownAt channel thread state active app turn
      receiver present outcome isActive ended =>
      exact {
        inv := after
        wake := by
          rw [show ({ system with app := app } : AppSystem).app.stateRx =
            none from ended.stateRx]
          exact roused_none
        hostStatus := roused_of_looks (.inr (.inr rfl))
        ping := roused_of_looks (.inr (.inr (.inl rfl)))
      }
  | hostWaiting now channel thread turn receiver present nothing =>
      have sound := inv.checkSound thread (List.mem_of_getElem? present)
      have unfinished :=
        inv.hostListening.unfinished receiver present
      exact {
        inv := after
        wake := wake.mono fun ahead =>
          .inl (ahead.requested (by simp [turn]))
        hostStatus := roused_set_of_willNotify receiver
          (willNotify_of_empty sound unfinished nothing)
        ping := roused_of_looks (.inr (.inr (.inr rfl)))
      }
  | hostFinished now channel thread check turn receiver present something
      finished =>
      exact {
        inv := after
        wake := wake.mono fun ahead =>
          .inl (ahead.requested (by simp [turn]))
        hostStatus := by
          simp only [finished]
          exact roused_none
        ping := roused_of_looks (.inr (.inr (.inr rfl)))
      }
  | pingWaiting now channel thread turn receiver present nothing =>
      have sound := inv.checkSound thread (List.mem_of_getElem? present)
      have unfinished :=
        inv.pingListening.unfinished receiver present
      have noHost := inv.hostIdle receiver
      exact {
        inv := after
        wake := wake.mono fun ahead =>
          .inl (ahead.requested (by simp [turn]))
        hostStatus := by
          simp only [noHost]
          exact roused_none
        ping := roused_set_of_willNotify receiver
          (willNotify_of_empty sound unfinished nothing)
      }
  | pingFinished now channel thread check turn receiver present something
      finished =>
      have noHost := inv.hostIdle receiver
      exact {
        inv := after
        wake := wake.mono fun ahead =>
          .inl (ahead.requested (by simp [turn]))
        hostStatus := by
          simp only [noHost]
          exact roused_none
        ping := by
          simp only [finished]
          exact roused_none
      }
  | wakeRefused click now failure app turn enabled refusal celebrated same =>
      exact {
        inv := after
        wake := wake.pass same.stateRx False.elim
          fun _ ahead => .inl (ahead.requested (by simp [turn]))
        hostStatus := hostStatus.pass same.hostRx False.elim
          fun _ ahead => .inl (ahead.requested (by simp [turn]))
        ping := ping.pass same.pingRx False.elim
          fun _ ahead => .inl (ahead.requested (by simp [turn]))
      }
  | wakeSpawned click now app body turn enabled stateRx sameHost samePing =>
      obtain ⟨_, noHost, noPing⟩ := inv.idle (.inl enabled)
      exact {
        inv := after
        wake := by
          simp only [stateRx]
          exact roused_spawn body.admitted
        hostStatus := by
          simp only [sameHost, noHost]
          exact roused_none
        ping := by
          simp only [samePing, noPing]
          exact roused_none
      }
  | hostSpawned click check body turn enabled checkRx =>
      obtain ⟨noWake, _, noPing⟩ := inv.idle (.inr enabled)
      exact {
        inv := after
        wake := by
          simp only [noWake]
          exact roused_none
        hostStatus := by
          simp only [checkRx]
          exact roused_spawn body.admitted
        ping := by
          simp only [noPing]
          exact roused_none
      }
  | pingSpawned click check body turn enabled checkRx =>
      obtain ⟨noWake, noHost, _⟩ := inv.idle (.inr enabled)
      exact {
        inv := after
        wake := by
          simp only [noWake]
          exact roused_none
        hostStatus := by
          simp only [noHost]
          exact roused_none
        ping := by
          simp only [checkRx]
          exact roused_spawn body.admitted
      }
  | wakeAdvanced channel thread next notified present advanced =>
      exact {
        inv := after
        wake := wake.advance present advanced
          (fun ahead => ahead.imp_left (by simp +contextual))
          (fun asked => .inl (by simp [asked]))
          fun drops heard => noticed thread present drops heard
        hostStatus := hostStatus.mono fun ahead =>
          ahead.imp_left (by simp +contextual)
        ping := ping.mono fun ahead =>
          ahead.imp_left (by simp +contextual)
      }
  | checkAdvanced channel thread next notified present advanced =>
      exact {
        inv := after
        wake := wake.mono fun ahead =>
          ahead.imp_left (by simp +contextual)
        hostStatus := hostStatus.advance present advanced
          (fun ahead => ahead.imp_left (by simp +contextual))
          (fun asked => .inl (by simp [asked]))
          fun drops heard => (noticed thread present drops).1 heard
        ping := ping.advance present advanced
          (fun ahead => ahead.imp_left (by simp +contextual))
          (fun asked => .inl (by simp [asked]))
          fun drops heard => (noticed thread present drops).2 heard
      }
  | wakePanicked channel thread next present panicked =>
      exact {
        inv := after
        wake := wake.set present id fun _ _ =>
          .inl (willNotify_panic panicked)
        hostStatus := hostStatus
        ping := ping
      }
  | checkPanicked channel thread next present panicked =>
      exact {
        inv := after
        wake := wake
        hostStatus := hostStatus.set present id fun _ _ =>
          .inl (willNotify_panic panicked)
        ping := ping.set present id fun _ _ =>
          .inl (willNotify_panic panicked)
      }

/-- The last step of an unwinding worker that nobody will notice. -/
theorem panicNoticed_of_notStuck
    {system next : AppSystem}
    {label : SystemStep}
    (stepped : system.step? label = some next)
    (notStuck : next.NotStuck) :
    system.PanicNoticed label := by
  cases label with
  | wakeThread channel =>
      intro thread present drops heard
      obtain ⟨⟨threads, notified⟩, advanced, rfl⟩ :=
        Option.map_eq_some_iff.mp stepped
      obtain ⟨found, after, samePresent, taken, rfl⟩ :=
        advanceAt?_eq_some advanced
      cases samePresent.symm.trans present
      obtain ⟨ended, rfl⟩ := drops.disconnected_advance taken
      have inRange := (List.getElem?_eq_some_iff.mp present).1
      by_contra notAhead
      refine notStuck.wake channel after (by simp [inRange]) ended ?_ heard
      simpa [WakeDrainAhead] using notAhead
  | checkThread channel =>
      intro thread present drops
      obtain ⟨⟨threads, notified⟩, advanced, rfl⟩ :=
        Option.map_eq_some_iff.mp stepped
      obtain ⟨found, after, samePresent, taken, rfl⟩ :=
        advanceAt?_eq_some advanced
      cases samePresent.symm.trans present
      obtain ⟨ended, rfl⟩ := drops.disconnected_advance taken
      have inRange := (List.getElem?_eq_some_iff.mp present).1
      constructor
      · intro heard
        by_contra notAhead
        refine notStuck.hostStatus channel after (by simp [inRange]) ended
          ?_ heard
        simpa [HostDrainAhead] using notAhead
      · intro heard
        by_contra notAhead
        refine notStuck.ping channel after (by simp [inRange]) ended ?_ heard
        simpa [PingDrainAhead] using notAhead
  | _ =>
      trivial

/-- The user interface is never stuck exactly when every panic is noticed. -/
theorem notStuck_iff_panicNoticed (labels : List SystemStep) :
    StepSystem.Always step? NotStuck initial labels ↔
      StepSystem.Meets step? PanicNoticed initial labels :=
  StepSystem.always_iff_meets
    (fun _ _ _ attentive noticed stepped => attentive.step noticed stepped)
    (fun _ attentive => attentive.notStuck)
    (fun _ _ _ _ stepped notStuck =>
      panicNoticed_of_notStuck stepped notStuck)
    Attentive.initial labels

/--
The wake worker reports `Connecting` and connects, a frame shows it, and then
the worker panics, drops its tunnel and drops its sender.
-/
def lostPanicRun : List SystemStep :=
  frame 0 (some (firstClick (.spawned homeJob (.attempt promptScript))))
      none ++
    List.replicate 4 (.wakeThread 0) ++
    frame 1 none none ++
    [.wakePanic 0, .wakeThread 0, .wakeThread 0]

/-- Then the user interface stays busy and no frame is requested. -/
theorem lostPanicRun_stuck :
    ¬ StepSystem.Always step? NotStuck initial lostPanicRun := by
  intro always
  have waiting :
      (StepSystem.run? step? initial lostPanicRun).map
          (fun final =>
            (final.app.busy, final.repaint, final.phase,
              final.wakeThreads.all disconnected)) =
        some (true, false, .idle, true) := by
    decide
  obtain ⟨final, returned, same⟩ := Option.map_eq_some_iff.mp waiting
  simp only [Prod.mk.injEq, List.all_eq_true] at same
  obtain ⟨busy, unrequested, idle, ended⟩ := same
  have notBusy :=
    (always.last returned).busy ended
      (by simp [WakeDrainAhead, unrequested, idle])
  rw [busy] at notBusy
  cases notBusy

end AppSystem

end Waker
