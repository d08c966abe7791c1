import Waker.ThreadPool

namespace ReportingThread

/-!
# Waking the receiver of a thread

A receiver that looks into its channel only when somebody asks it to must not
miss the end of its thread.  While the thread will still ask, or unwinds,
nothing is lost; a thread that runs its program to the end has asked after its
last message.  What asks the receiver to look is a proposition here.
-/

variable {Message : Type*}
variable {protocol : Protocol Message}

/-- A thread that will notify its receiver, or is unwinding. -/
def WillNotify (thread : ReportingThread Message) : Prop :=
  thread.phase = .unwinding ∨
    (thread.phase = .running ∧ .notify ∈ thread.program)

/-- The last step of a thread that panicked: it drops the sender. -/
def DropsSender (thread : ReportingThread Message) : Prop :=
  thread.phase = .unwinding ∧ thread.program = []

/-- The receiver's thread will notify it, or it will look anyway. -/
def Roused
    (looks : Prop)
    (threads : List (ReportingThread Message))
    (receiver : Option Nat) : Prop :=
  ∀ channel thread,
    receiver = some channel →
    threads[channel]? = some thread →
    thread.WillNotify ∨ looks

/-- The receiver of a thread that has ended will look. -/
def EndSeen
    (looks : Prop)
    (threads : List (ReportingThread Message))
    (receiver : Option Nat) : Prop :=
  ∀ channel thread,
    receiver = some channel →
    threads[channel]? = some thread →
    thread.disconnected = true →
    looks

section Threads

variable {thread next : ReportingThread Message}
variable {notified : Bool}

/-- A thread that will notify its receiver has not ended. -/
theorem WillNotify.not_disconnected
    (will : thread.WillNotify) :
    thread.disconnected = false := by
  rcases will with unwinding | ⟨running, _⟩
  · simp [disconnected, unwinding]
  · simp [disconnected, running]

/-- A connected thread that sent nothing terminal will notify its receiver. -/
theorem Sound.willNotify
    (sound : Sound protocol thread)
    (connected : thread.disconnected = false)
    (unfinished :
      ∀ message,
        message ∈ thread.sent →
        protocol.terminal message = false) :
    thread.WillNotify := by
  cases phase : thread.phase with
  | running =>
      exact .inr ⟨phase, sound.notify_mem phase unfinished⟩
  | unwinding =>
      exact .inl phase
  | ended =>
      simp [disconnected, phase] at connected

/-- A freshly spawned thread will notify its receiver. -/
theorem Admitted.willNotify
    {program : List (Action Message)}
    (admitted : Admitted protocol program) :
    (spawned program).WillNotify :=
  admitted.sound.willNotify rfl fun _ member => by cases member

/--
A thread that will notify its receiver does so with its next action, or keeps
the promise, or has panicked and drops the sender.
-/
theorem WillNotify.advance
    (will : thread.WillNotify)
    (stepped : thread.advance? = some (next, notified)) :
    next.WillNotify ∨ notified = true ∨ thread.DropsSender := by
  rcases advance_cases stepped with
    ⟨action, rest, _, program, samePhase, nextProgram, _, _, _, asked⟩ |
      ⟨_, program, rfl, _⟩
  · rcases will with unwinding | ⟨running, promised⟩
    · exact .inl (.inl (samePhase.trans unwinding))
    · rw [program, List.mem_cons] at promised
      rcases promised with now | later
      · exact .inr (.inl (asked.mpr now.symm))
      · exact .inl (.inr ⟨samePhase.trans running, nextProgram ▸ later⟩)
  · rcases will with unwinding | ⟨_, promised⟩
    · exact .inr (.inr ⟨unwinding, program⟩)
    · rw [program] at promised
      cases promised

/-- A thread that panics is unwinding. -/
theorem willNotify_panic
    (stepped : thread.panic? = some next) :
    next.WillNotify := by
  rw [(panic_eq_some_iff.mp stepped).2]
  exact .inl rfl

/-- After its last step a thread that panicked has ended. -/
theorem DropsSender.disconnected_advance
    (drops : thread.DropsSender)
    (stepped : thread.advance? = some (next, notified)) :
    next.disconnected = true ∧ notified = false := by
  rcases advance_cases stepped with
    ⟨action, rest, _, program, _⟩ | ⟨_, _, rfl, silent⟩
  · rw [drops.2] at program
    cases program
  · exact ⟨by simp [disconnected], silent⟩

end Threads

section Receivers

variable {threads : List (ReportingThread Message)}
variable {receiver : Option Nat}
variable {looks stillLooks : Prop}
variable {channel : Nat}
variable {thread next : ReportingThread Message}

/-- A roused receiver sees the end of its thread. -/
theorem Roused.endSeen
    (roused : Roused looks threads receiver) :
    EndSeen looks threads receiver := by
  intro channel thread heard present ended
  refine (roused channel thread heard present).resolve_left fun will => ?_
  rw [will.not_disconnected] at ended
  cases ended

/-- Without a receiver nobody has to be roused. -/
theorem roused_none : Roused looks threads none := by
  intro channel thread heard
  cases heard

/-- A receiver that will look is roused. -/
theorem roused_of_looks (will : looks) : Roused looks threads receiver :=
  fun _ _ _ _ => .inr will

/-- A receiver that will look later than thought is still roused. -/
theorem Roused.mono
    (roused : Roused looks threads receiver)
    (implied : looks → stillLooks) :
    Roused stillLooks threads receiver :=
  fun channel thread heard present =>
    (roused channel thread heard present).imp_right implied

/-- What another thread does, or a promise that is kept, changes nothing. -/
theorem Roused.set
    (roused : Roused looks threads receiver)
    (present : threads[channel]? = some thread)
    (implied : looks → stillLooks)
    (kept :
      receiver = some channel →
      thread.WillNotify →
      next.WillNotify ∨ stillLooks) :
    Roused stillLooks (threads.set channel next) receiver := by
  intro other held heard found
  by_cases same : other = channel
  · subst same
    have inRange := (List.getElem?_eq_some_iff.mp present).1
    rw [List.getElem?_set_self inRange] at found
    cases found
    rcases roused other thread heard present with will | look
    · exact kept heard will
    · exact .inr (implied look)
  · rw [List.getElem?_set_ne (Ne.symm same)] at found
    exact (roused other held heard found).imp_right implied

/-- Looking into the channel of a thread that will notify does no harm. -/
theorem roused_set_of_willNotify
    (heard : receiver = some channel)
    (will : next.WillNotify) :
    Roused looks (threads.set channel next) receiver := by
  intro other held sameHeard found
  cases heard.symm.trans sameHeard
  have inRange := (List.getElem?_eq_some_iff.mp found).1
  rw [List.length_set] at inRange
  rw [List.getElem?_set_self inRange] at found
  cases found
  exact .inl will

/-- The receiver of a fresh thread will be notified. -/
theorem roused_spawn
    {program : List (Action Message)}
    (admitted : Admitted protocol program) :
    Roused looks (threads ++ [spawned program]) (some threads.length) := by
  intro other held heard found
  cases heard
  rw [List.getElem?_concat_length] at found
  cases found
  exact .inl admitted.willNotify

/-- One action of a thread keeps its receiver roused. -/
theorem Roused.advance
    {notified : Bool}
    (roused : Roused looks threads receiver)
    (present : threads[channel]? = some thread)
    (stepped : thread.advance? = some (next, notified))
    (implied : looks → stillLooks)
    (asked : notified = true → stillLooks)
    (noticed : thread.DropsSender → receiver = some channel → looks) :
    Roused stillLooks (threads.set channel next) receiver :=
  roused.set present implied fun heard will => by
    rcases will.advance stepped with kept | now | drops
    · exact .inl kept
    · exact .inr (asked now)
    · exact .inr (implied (noticed drops heard))

/-- A receiver is roused by what comes next, unless it is gone by then. -/
theorem Roused.pass
    {before after : Option Nat}
    {gone : Prop}
    (roused : Roused looks threads before)
    (same : after = before)
    (nobody : gone → before = none)
    (implied : ¬ gone → looks → stillLooks) :
    Roused stillLooks threads after := by
  rw [same]
  by_cases ended : gone
  · rw [nobody ended]
    exact roused_none
  · exact roused.mono (implied ended)

end Receivers

end ReportingThread
