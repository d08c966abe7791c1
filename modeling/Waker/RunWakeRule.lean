import Waker.RunWake

namespace Waker

/-!
# Invariants of a wake attempt

What holds of the world from the successful connection on, whatever the calls
and the clock do, holds when `disconnect` is called; so does what a refused
connection leaves.
-/

section

variable {World : Type}
variable {backend : WakeBackend World}
variable {clock : Clock World}
variable {target : WakeTarget}

/-- What every call and the clock preserve once the backend is connected. -/
structure Preserved
    (backend : WakeBackend World)
    (clock : Clock World)
    (invariant : World → Prop) : Prop where
  resolveTargetIpv4 :
    ∀ mac world,
      invariant world →
      invariant (backend.resolveTargetIpv4 mac world).2
  sendWake :
    ∀ mac world,
      invariant world →
      invariant (backend.sendWake mac world).2
  probe :
    ∀ address world,
      invariant world →
      invariant (backend.probe address world).2
  now :
    ∀ world,
      invariant world →
      invariant (clock.now world).2
  sleep :
    ∀ duration world,
      invariant world →
      invariant (clock.sleep duration world)

/-- The probe loop preserves what its steps preserve. -/
theorem Preserved.probeLoop
    {invariant : World → Prop}
    (preserved : Preserved backend clock invariant)
    {address : Ipv4Addr}
    {started : Instant}
    {fuel attempt : Nat}
    {world : World}
    {run : WakeRun World}
    (returned :
      probeLoop backend clock target address started fuel attempt world =
        some run)
    (holds : invariant world) :
    invariant run.world := by
  induction fuel generalizing attempt world run with
  | zero =>
      cases returned
  | succ fuel inductionHypothesis =>
      have probed := preserved.probe address world holds
      have read := preserved.now _ probed
      unfold Waker.probeLoop at returned
      dsimp only at returned
      split at returned
      · cases returned
        exact probed
      · cases returned
        exact probed
      · split at returned
        · cases returned
          exact read
        · obtain ⟨later, laterRun, rfl⟩ :=
            Option.map_eq_some_iff.mp returned
          have ended : invariant later.world :=
            inductionHypothesis laterRun
              (preserved.sleep target.probeInterval _ read)
          exact ended

/-- A returned attempt disconnects a world that one of two cases describes. -/
theorem runWake_disconnects
    {connected refused : World → Prop}
    {fuel : Nat}
    {world : World}
    {run : WakeRun World}
    (preserved : Preserved backend clock connected)
    (accepts :
      (backend.connect world).1 = .ok () →
      connected (backend.connect world).2)
    (refuses :
      ∀ error,
        (backend.connect world).1 = .error error →
        refused (backend.connect world).2)
    (returned : runWake backend clock target fuel world = some run) :
    ∃ last,
      (connected last ∨ refused last) ∧
        run.world = backend.disconnect last := by
  obtain ⟨attempt, attempted, rfl⟩ := Option.map_eq_some_iff.mp returned
  refine ⟨attempt.world, ?_, rfl⟩
  unfold attemptWake at attempted
  dsimp only at attempted
  split at attempted
  · rename_i error failed
    cases attempted
    exact .inr (refuses error failed)
  · rename_i succeeded
    have resolved :=
      preserved.resolveTargetIpv4 target.mac _ (accepts succeeded)
    have sent := preserved.sendWake target.mac _ resolved
    split at attempted
    · cases attempted
      exact .inl resolved
    · split at attempted
      · cases attempted
        exact .inl sent
      · obtain ⟨probing, probed, rfl⟩ := Option.map_eq_some_iff.mp attempted
        have ended : connected probing.world :=
          preserved.probeLoop probed (preserved.now _ sent)
        exact .inl ended

end

end Waker
