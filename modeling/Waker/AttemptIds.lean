import Mathlib.Order.Nat
import Waker.AtomicUpdate
import Waker.WakeState

namespace Waker

open AtomicUpdate

/-!
# Attempt ids

`next_attempt_id` reads the system clock once and then updates the last id, to
which every concurrent call refers.  The id it returns is computed a second
time, from the value that the update has replaced.
-/

/-- A reading of the system clock: nanoseconds since the Unix epoch. -/
abbrev SystemTime := Int

/-- `SystemTime::duration_since(UNIX_EPOCH)`, which fails before the epoch. -/
def SystemTime.sinceEpoch? (time : SystemTime) : Option Duration :=
  if 0 ≤ time then some time.toNat else none

/-- `u64::MAX`. -/
def maxU64 : UInt64 :=
  18446744073709551615

/-- `u64::try_from`. -/
def tryIntoU64 (number : Nat) : Option UInt64 :=
  if number ≤ maxU64.toNat then some (UInt64.ofNat number) else none

/-- `u64::saturating_add`. -/
def saturatingAddU64 (left right : UInt64) : UInt64 :=
  UInt64.ofNat (min (left.toNat + right.toNat) maxU64.toNat)

/-- The milliseconds that a call of `next_attempt_id` takes from the clock. -/
def attemptMillis (time : SystemTime) : UInt64 :=
  (tryIntoU64 (time.sinceEpoch?.getD 0).asMillis).getD maxU64

/-- The id after a previous one. -/
def attemptIdAfter (now previous : UInt64) : UInt64 :=
  max now (saturatingAddU64 previous 1)

/-- The function that `next_attempt_id` passes to `fetch_update`. -/
def updateAttemptId (time : SystemTime) (previous : UInt64) : Option UInt64 :=
  some (attemptIdAfter (attemptMillis time) previous)

section

variable {Call : Type}

/-- `LAST_ATTEMPT_ID` and the calls that use it. -/
abbrev AttemptIds (Call : Type) := State Call SystemTime UInt64

namespace AttemptIds

/-- No attempt has begun. -/
def new : AttemptIds Call :=
  .start 0

/-- The id that a call returns once its `fetch_update` has returned. -/
def nextAttemptId? (ids : AttemptIds Call) (call : Call) : Option UInt64 :=
  match ids.phase call with
  | .returned time result =>
      let previous :=
        match result with
        | .ok previous => previous
        | .error previous => previous
      some (attemptIdAfter (attemptMillis time) previous)
  | _ => none

/--
The ids of all calls that have returned one: a call returns the id that it has
stored.
-/
structure Increasing (ids : AttemptIds Call) : Prop where
  returned :
    ∀ update,
      update ∈ ids.updates →
      ids.nextAttemptId? update.call = some update.stored
  stored :
    ∀ call id,
      ids.nextAttemptId? call = some id →
      ∃ update,
        update ∈ ids.updates ∧ update.call = call ∧ update.stored = id
  once : (ids.updates.map Update.call).Nodup
  ordered :
    ids.updates.Pairwise fun earlier later =>
      ∀ first second,
        ids.nextAttemptId? earlier.call = some first →
        ids.nextAttemptId? later.call = some second →
        first < second
  distinct :
    ∀ first second id,
      ids.nextAttemptId? first = some id →
      ids.nextAttemptId? second = some id →
      first = second

end AttemptIds

/-- The id after one that can be increased is larger. -/
theorem lt_attemptIdAfter
    {previous : UInt64}
    (bounded : previous < maxU64)
    (now : UInt64) :
    previous.toNat < (attemptIdAfter now previous).toNat := by
  have fits : previous.toNat + (1 : UInt64).toNat ≤ maxU64.toNat :=
    UInt64.lt_iff_toNat_lt.mp bounded
  have next :
      (saturatingAddU64 previous 1).toNat = previous.toNat + 1 := by
    rw [saturatingAddU64, Nat.min_eq_left fits, UInt64.toNat_ofNat_of_lt']
    · rfl
    · exact Nat.lt_of_le_of_lt fits (by decide)
  have atLeast :
      (saturatingAddU64 previous 1).toNat ≤
        (attemptIdAfter now previous).toNat := by
    unfold attemptIdAfter
    rw [UInt64.max_def]
    split
    · exact Nat.le_refl _
    · rename_i larger
      exact Nat.le_of_not_le larger
  rw [next] at atLeast
  exact atLeast

/-- The calls that have returned an id are those that have stored it. -/
theorem AttemptIds.nextAttemptId?_eq_some_iff
    {ids : AttemptIds Call}
    (coherent : Coherent updateAttemptId ids)
    {call : Call}
    {id : UInt64} :
    ids.nextAttemptId? call = some id ↔
      ∃ update,
        update ∈ ids.updates ∧ update.call = call ∧ update.stored = id := by
  constructor
  · intro returned
    unfold nextAttemptId? at returned
    split at returned
    · rename_i time result there
      cases result with
      | error previous =>
          have refused := coherent.refused call time previous there
          cases refused
      | ok previous =>
          obtain ⟨update, member, sameCall, rfl, rfl⟩ :=
            coherent.recorded call time previous there
          have made := coherent.chained.stored_eq member
          exact ⟨update, member, sameCall,
            (Option.some.inj made).symm.trans (Option.some.inj returned)⟩
    · cases returned
  · rintro ⟨update, member, rfl, rfl⟩
    rw [nextAttemptId?, coherent.returned update member]
    exact coherent.chained.stored_eq member

variable [DecidableEq Call]

/--
Whatever the clock shows and however concurrent calls interleave, lose an
exchange and retry: as long as no stored id has reached the largest one, the
ids returned are those stored, differ from each other, and increase in the
order of the updates; and every call that has stored an id returns it.
-/
theorem nextAttemptId?_increasing
    {steps : List (Step Call SystemTime UInt64)}
    {ids : AttemptIds Call}
    (reached :
      StepSystem.run? (step? updateAttemptId) AttemptIds.new steps = some ids)
    (unsaturated : ∀ update, update ∈ ids.updates → update.stored < maxU64) :
    ids.Increasing := by
  obtain ⟨coherent, initial⟩ := coherent_of_run reached
  have iff {call : Call} {id : UInt64} :=
    @AttemptIds.nextAttemptId?_eq_some_iff Call ids coherent call id
  have increasing :
      ids.updates.Pairwise fun earlier later =>
        earlier.stored.toNat < later.stored.toNat := by
    refine (coherent.chained.increasing UInt64.toNat
      (· < maxU64) ?_ unsaturated ?_).2
    · rw [initial]
      decide
    · intro time previous next bounded made
      rw [← Option.some.inj made]
      exact lt_attemptIdAfter bounded _
  constructor
  · exact fun update member => iff.mpr ⟨update, member, rfl, rfl⟩
  · exact fun call id returned => iff.mp returned
  · exact coherent.once
  · refine increasing.imp_of_mem fun earlierThere laterThere smaller => ?_
    intro first second firstReturned secondReturned
    have ofEarlier := iff.mpr ⟨_, earlierThere, rfl, rfl⟩
    have ofLater := iff.mpr ⟨_, laterThere, rfl, rfl⟩
    rw [ofEarlier] at firstReturned
    rw [ofLater] at secondReturned
    cases firstReturned
    cases secondReturned
    exact UInt64.lt_iff_toNat_lt.mpr smaller
  · intro first second id firstReturned secondReturned
    obtain ⟨update, member, rfl, stored⟩ := iff.mp firstReturned
    obtain ⟨other, otherMember, rfl, same⟩ := iff.mp secondReturned
    have different : (ids.updates.map Update.stored).Nodup := by
      refine List.pairwise_map.mpr (increasing.imp fun smaller same => ?_)
      rw [same] at smaller
      exact Nat.lt_irrefl _ smaller
    rw [List.inj_on_of_nodup_map different member otherMember
      (stored.trans same.symm)]

/--
Two calls race, the clock jumps back in between, and a third call reads a clock
before the epoch.
-/
def racingCalls : List (Step Nat SystemTime UInt64) :=
  [.call 0 5000000, .load 0 0, .call 1 3999999, .load 1 0, .exchange 1,
    .miss 0 3, .exchange 0, .call 2 (-1), .load 2 3, .miss 2 0, .miss 2 5,
    .exchange 2]

/-- The ids of the race increase. -/
theorem nextAttemptId?_increasing_race :
    ∃ ids,
      StepSystem.run? (step? updateAttemptId) AttemptIds.new racingCalls =
          some ids ∧
        ids.updates.map Update.stored = [3, 5, 6] ∧
        [0, 1, 2].map (AttemptIds.nextAttemptId? ids) =
          [some 5, some 3, some 6] ∧
        AttemptIds.Increasing ids :=
  ⟨_, rfl, rfl, rfl,
    @nextAttemptId?_increasing Nat _ racingCalls _ rfl (by decide)⟩

end

end Waker
