import Waker.ReportingThread

namespace ReportingThread

/-!
# Pools of reporting threads

Threads are spawned at the end of a pool and never leave it, so an index names
the same thread, and its channel, for ever.
-/

variable {Message : Type*}
variable {protocol : Protocol Message}

/-- One action of the thread at an index of a pool. -/
def advanceAt?
    (threads : List (ReportingThread Message))
    (channel : Nat) : Option (List (ReportingThread Message) × Bool) :=
  threads[channel]?.bind fun thread =>
    thread.advance?.map fun (next, notified) =>
      (threads.set channel next, notified)

/-- The panic of the thread at an index of a pool. -/
def panicAt?
    (threads : List (ReportingThread Message))
    (channel : Nat) : Option (List (ReportingThread Message)) :=
  threads[channel]?.bind fun thread =>
    thread.panic?.map (threads.set channel ·)

/-- The thread whose channel a receiver listens to. -/
def listening?
    (threads : List (ReportingThread Message))
    (receiver : Option Nat) : Option (Nat × ReportingThread Message) :=
  receiver.bind fun channel => threads[channel]?.map (channel, ·)

/-- All threads of a pool are sound. -/
def PoolSound
    (protocol : Protocol Message)
    (threads : List (ReportingThread Message)) : Prop :=
  ∀ thread, thread ∈ threads → Sound protocol thread

/-- A receiver listens to a thread from which it took nothing terminal. -/
def Listening
    (protocol : Protocol Message)
    (threads : List (ReportingThread Message))
    (receiver : Option Nat) : Prop :=
  ∀ channel,
    receiver = some channel →
    ∃ thread,
      threads[channel]? = some thread ∧ Unfinished protocol thread

/-- Every thread is settled, except those that somebody waits for. -/
def SettledExcept
    (awaited : Nat → Prop)
    (threads : List (ReportingThread Message)) : Prop :=
  ∀ (channel : Nat) (thread : ReportingThread Message),
    threads[channel]? = some thread →
    thread.Settled ∨ awaited channel

/-- The number of threads that hold their resource. -/
def holders (threads : List (ReportingThread Message)) : Nat :=
  threads.countP ReportingThread.holding

/-- Every thread of the old pool is in the new one or has evolved. -/
def PoolEvolves (old new : List (ReportingThread Message)) : Prop :=
  ∀ (channel : Nat) (thread : ReportingThread Message),
    old[channel]? = some thread →
    ∃ next,
      new[channel]? = some next ∧ (next = thread ∨ Evolves thread next)

section Set

variable {threads : List (ReportingThread Message)}
variable {channel : Nat}
variable {thread next : ReportingThread Message}

/-- Replacing a thread by its evolution evolves the pool. -/
theorem poolEvolves_set
    (present : threads[channel]? = some thread)
    (evolves : Evolves thread next) :
    PoolEvolves threads (threads.set channel next) := by
  intro other held found
  by_cases same : other = channel
  · subst same
    rw [present] at found
    cases found
    have inRange := (List.getElem?_eq_some_iff.mp present).1
    exact ⟨next, by simp [inRange], .inr evolves⟩
  · exact ⟨held, by rwa [List.getElem?_set_ne (Ne.symm same)], .inl rfl⟩

/-- Spawning threads evolves the pool. -/
theorem poolEvolves_append
    (more : List (ReportingThread Message)) :
    PoolEvolves threads (threads ++ more) := by
  intro channel held found
  have inRange := (List.getElem?_eq_some_iff.mp found).1
  exact ⟨held, by rwa [List.getElem?_append_left inRange], .inl rfl⟩

/-- A pool evolves when nothing happens. -/
theorem poolEvolves_rfl : PoolEvolves threads threads :=
  fun _ held found => ⟨held, found, .inl rfl⟩

/-- A pool in which a sound thread evolves stays sound. -/
theorem PoolSound.set
    (sound : PoolSound protocol threads)
    (present : threads[channel]? = some thread)
    (evolves : Evolves thread next) :
    PoolSound protocol (threads.set channel next) := by
  intro held member
  rcases List.mem_or_eq_of_mem_set member with old | rfl
  · exact sound held old
  · exact (sound thread (List.mem_of_getElem? present)).evolves evolves

/-- Spawning an admitted program keeps a pool sound. -/
theorem PoolSound.spawn
    (sound : PoolSound protocol threads)
    {program : List (Action Message)}
    (admitted : Admitted protocol program) :
    PoolSound protocol (threads ++ [spawned program]) := by
  intro held member
  rcases List.mem_append.mp member with old | fresh
  · exact sound held old
  · rw [List.mem_singleton.mp fresh]
    exact admitted.sound

/-- A receiver keeps listening when its thread stays unfinished. -/
theorem Listening.set
    {receiver : Option Nat}
    (listening : Listening protocol threads receiver)
    (present : threads[channel]? = some thread)
    (kept : Unfinished protocol thread → Unfinished protocol next) :
    Listening protocol (threads.set channel next) receiver := by
  intro other heard
  obtain ⟨held, found, unfinished⟩ := listening other heard
  by_cases same : other = channel
  · subst same
    rw [present] at found
    cases found
    have inRange := (List.getElem?_eq_some_iff.mp present).1
    exact ⟨next, by simp [inRange], kept unfinished⟩
  · exact ⟨held, by rwa [List.getElem?_set_ne (Ne.symm same)], unfinished⟩

/-- The receiver of a fresh thread listens to it. -/
theorem listening_spawn (program : List (Action Message)) :
    Listening protocol (threads ++ [spawned program])
      (some threads.length) := by
  intro channel heard
  cases heard
  exact ⟨spawned program, by simp, by simp [Unfinished, spawned]⟩

/-- Nobody listens without a receiver. -/
theorem listening_none : Listening protocol threads none := by
  intro channel heard
  cases heard

/-- A receiver that listens finds its thread. -/
theorem Listening.eq_none_of_listening?
    {receiver : Option Nat}
    (listening : Listening protocol threads receiver)
    (unheard : listening? threads receiver = none) :
    receiver = none := by
  cases receiver with
  | none =>
      rfl
  | some channel =>
      obtain ⟨thread, present, _⟩ := listening channel rfl
      simp [listening?, present] at unheard

/-- A receiver has taken nothing terminal from the thread it finds. -/
theorem Listening.unfinished
    {receiver : Option Nat}
    (listening : Listening protocol threads receiver)
    (heard : receiver = some channel)
    (present : threads[channel]? = some thread) :
    Unfinished protocol thread := by
  obtain ⟨found, samePresent, unfinished⟩ := listening channel heard
  cases samePresent.symm.trans present
  exact unfinished

end Set

section SettledExcept

variable {threads : List (ReportingThread Message)}
variable {awaited stillAwaited : Nat → Prop}
variable {channel : Nat}
variable {thread next : ReportingThread Message}

/-- Waiting for more threads changes nothing. -/
theorem SettledExcept.mono
    (settled : SettledExcept awaited threads)
    (more : ∀ channel, awaited channel → stillAwaited channel) :
    SettledExcept stillAwaited threads :=
  fun channel thread present =>
    (settled channel thread present).imp_right (more channel)

/-- When nobody waits, all threads are settled. -/
theorem SettledExcept.settled
    (settled : SettledExcept awaited threads)
    (nobody : ∀ channel, ¬ awaited channel)
    {thread : ReportingThread Message}
    (member : thread ∈ threads) :
    thread.Settled := by
  obtain ⟨channel, present⟩ := List.mem_iff_getElem?.mp member
  exact (settled channel thread present).resolve_right (nobody channel)

/-- What the other threads do is of no concern to a settled thread. -/
theorem SettledExcept.set
    (settled : SettledExcept awaited threads)
    (present : threads[channel]? = some thread)
    (kept : thread.Settled → next.Settled) :
    SettledExcept awaited (threads.set channel next) := by
  intro other held found
  by_cases same : other = channel
  · subst same
    have inRange := (List.getElem?_eq_some_iff.mp present).1
    rw [List.getElem?_set_self inRange] at found
    cases found
    exact (settled other thread present).imp_left kept
  · rw [List.getElem?_set_ne (Ne.symm same)] at found
    exact settled other held found

/-- Nobody has to wait for a thread that has settled. -/
theorem SettledExcept.set_settled
    (settled : SettledExcept awaited threads)
    (finished : next.Settled)
    (others :
      ∀ other, other ≠ channel → awaited other → stillAwaited other) :
    SettledExcept stillAwaited (threads.set channel next) := by
  intro other held found
  by_cases same : other = channel
  · subst same
    have inRange := (List.getElem?_eq_some_iff.mp found).1
    rw [List.length_set] at inRange
    rw [List.getElem?_set_self inRange] at found
    cases found
    exact .inl finished
  · rw [List.getElem?_set_ne (Ne.symm same)] at found
    exact (settled other held found).imp_right (others other same)

/-- A spawned thread has somebody who waits for it. -/
theorem SettledExcept.spawn
    (settled : SettledExcept awaited threads)
    (more : ∀ channel, awaited channel → stillAwaited channel)
    (heard : stillAwaited threads.length)
    (program : List (Action Message)) :
    SettledExcept stillAwaited (threads ++ [spawned program]) := by
  intro channel held found
  rcases Nat.lt_trichotomy channel threads.length with
    before | same | beyond
  · rw [List.getElem?_append_left before] at found
    exact (settled channel held found).imp_right (more channel)
  · exact .inr (same ▸ heard)
  · have inRange := (List.getElem?_eq_some_iff.mp found).1
    rw [List.length_append, List.length_singleton] at inRange
    omega

/-- When all threads are settled, none holds its resource. -/
theorem PoolSound.holders_eq_zero
    (sound : PoolSound protocol threads)
    (settled : ∀ thread, thread ∈ threads → thread.Settled) :
    holders threads = 0 := by
  rw [holders, List.countP_eq_zero]
  intro thread member
  rw [(sound thread member).holding_eq_false (settled thread member)]
  exact Bool.false_ne_true

/-- When all but one are settled, at most one holds its resource. -/
theorem PoolSound.holders_le_one
    (sound : PoolSound protocol threads)
    (settled : SettledExcept (· = channel) threads) :
    holders threads ≤ 1 := by
  induction threads generalizing channel with
  | nil =>
      exact Nat.zero_le 1
  | cons first rest inductionHypothesis =>
      have later : PoolSound protocol rest := fun thread member =>
        sound thread (List.mem_cons_of_mem first member)
      cases channel with
      | zero =>
          have none : holders rest = 0 := by
            refine later.holders_eq_zero fun thread member => ?_
            obtain ⟨index, present⟩ := List.mem_iff_getElem?.mp member
            exact (settled (index + 1) thread present).resolve_right
              (Nat.succ_ne_zero index)
          rw [holders, List.countP_cons]
          rw [holders] at none
          split <;> omega
      | succ index =>
          have idle : first.holding = false :=
            (sound first List.mem_cons_self).holding_eq_false
              ((settled 0 first rfl).resolve_right
                (Nat.succ_ne_zero index).symm)
          have few : holders rest ≤ 1 :=
            inductionHypothesis later fun other thread present =>
              (settled (other + 1) thread present).imp_right
                Nat.succ.inj
          rw [holders, List.countP_cons, idle]
          exact few

end SettledExcept

section Steps

variable {threads after : List (ReportingThread Message)}
variable {channel : Nat}
variable {notified : Bool}

/-- What one action of a thread does to its pool. -/
theorem advanceAt?_eq_some
    (stepped : advanceAt? threads channel = some (after, notified)) :
    ∃ thread next,
      threads[channel]? = some thread ∧
      thread.advance? = some (next, notified) ∧
      after = threads.set channel next := by
  obtain ⟨thread, present, advanced⟩ := Option.bind_eq_some_iff.mp stepped
  obtain ⟨⟨next, told⟩, stepped, same⟩ := Option.map_eq_some_iff.mp advanced
  cases same
  exact ⟨thread, next, present, stepped, rfl⟩

/-- What the panic of a thread does to its pool. -/
theorem panicAt?_eq_some
    (stepped : panicAt? threads channel = some after) :
    ∃ thread next,
      threads[channel]? = some thread ∧
      thread.panic? = some next ∧
      after = threads.set channel next := by
  obtain ⟨thread, present, panicked⟩ := Option.bind_eq_some_iff.mp stepped
  obtain ⟨next, stepped, same⟩ := Option.map_eq_some_iff.mp panicked
  exact ⟨thread, next, present, stepped, same.symm⟩

/-- What a receiver that listens to a thread finds. -/
theorem listening?_eq_some
    {receiver : Option Nat}
    {thread : ReportingThread Message}
    (heard : listening? threads receiver = some (channel, thread)) :
    receiver = some channel ∧ threads[channel]? = some thread := by
  obtain ⟨index, chosen, found⟩ := Option.bind_eq_some_iff.mp heard
  obtain ⟨held, present, same⟩ := Option.map_eq_some_iff.mp found
  cases same
  exact ⟨chosen, present⟩

end Steps

end ReportingThread
