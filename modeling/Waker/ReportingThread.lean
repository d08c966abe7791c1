import Mathlib.Data.List.Basic

namespace ReportingThread

/-!
# Threads that report to a receiver

A thread owns one resource and the sender of a channel.  It performs its
program action by action and drops the sender when it ends.  It may panic at
any point; it then unwinds, which drops the resource before the sender.  The
receiver takes messages in order and learns that the sender is gone only after
the last message.
-/

/-- One step of a thread's program. -/
inductive Action (Message : Type*) where
  | acquire (granted : Bool)
  | work
  | release
  | send (message : Message)
  | notify
  deriving Repr, DecidableEq

/-- What a thread is doing. -/
inductive Phase where
  | running
  | unwinding
  | ended
  deriving Repr, DecidableEq

end ReportingThread

open ReportingThread in
/-- A thread with the messages it has sent and how many were taken. -/
structure ReportingThread (Message : Type*) where
  program : List (Action Message)
  phase : Phase
  holding : Bool
  sent : List Message
  taken : Nat
  deriving Repr, DecidableEq

namespace ReportingThread

variable {Message : Type*}

/-- A freshly spawned thread. -/
def spawned (program : List (Action Message)) : ReportingThread Message where
  program := program
  phase := .running
  holding := false
  sent := []
  taken := 0

/--
Perform the next action and say whether the receiver was notified.  Without
actions left the thread ends and drops the sender.
-/
def advance?
    (thread : ReportingThread Message) :
    Option (ReportingThread Message × Bool) :=
  match thread.phase, thread.program with
  | .ended, _ => none
  | _, [] => some ({ thread with phase := .ended }, false)
  | _, .acquire granted :: rest =>
      some ({ thread with program := rest, holding := granted }, false)
  | _, .work :: rest =>
      some ({ thread with program := rest }, false)
  | _, .release :: rest =>
      some ({ thread with program := rest, holding := false }, false)
  | _, .send message :: rest =>
      some ({ thread with
        program := rest
        sent := thread.sent ++ [message] }, false)
  | _, .notify :: rest =>
      some ({ thread with program := rest }, true)

/-- What unwinding still does: drop a resource that is held. -/
def cleanup (thread : ReportingThread Message) : List (Action Message) :=
  if thread.holding then [.release] else []

/-- Panic: the rest of the program is lost, and unwinding begins. -/
def panic?
    (thread : ReportingThread Message) : Option (ReportingThread Message) :=
  match thread.phase with
  | .running =>
      some { thread with program := thread.cleanup, phase := .unwinding }
  | .unwinding | .ended => none

/-- The messages that wait in the channel. -/
def unread (thread : ReportingThread Message) : List Message :=
  thread.sent.drop thread.taken

/-- The sender has been dropped. -/
def disconnected (thread : ReportingThread Message) : Bool :=
  thread.phase = .ended

/-- Take up to that many messages out of the channel. -/
def take
    (thread : ReportingThread Message)
    (count : Nat) : ReportingThread Message :=
  { thread with taken := min (thread.taken + count) thread.sent.length }

/-- Why nothing could be taken out of the channel. -/
inductive TryRecvError where
  | empty
  | disconnected
  deriving Repr, DecidableEq

/-- Look at the next message, or at the end of the channel. -/
def tryRecv (thread : ReportingThread Message) : Except TryRecvError Message :=
  match thread.unread with
  | message :: _ => .ok message
  | [] => .error (if thread.disconnected then .disconnected else .empty)

/-- No release is left to do, so the resource is not held any more. -/
def Settled (thread : ReportingThread Message) : Prop :=
  .release ∉ thread.program

/-- The messages a program will send. -/
def sends (program : List (Action Message)) : List Message :=
  program.filterMap fun action =>
    match action with
    | .send message => some message
    | _ => none

section Sends

variable (rest : List (Action Message))

@[simp] theorem sends_nil : sends ([] : List (Action Message)) = [] := rfl

@[simp] theorem sends_acquire (granted : Bool) :
    sends (.acquire granted :: rest) = sends rest := rfl

@[simp] theorem sends_work : sends (.work :: rest) = sends rest := rfl

@[simp] theorem sends_release : sends (.release :: rest) = sends rest := rfl

@[simp] theorem sends_send (message : Message) :
    sends (.send message :: rest) = message :: sends rest := rfl

@[simp] theorem sends_notify : sends (.notify :: rest) = sends rest := rfl

end Sends

/--
The kinds of messages: some report progress, exactly one terminal message ends
the stream, and some are sent only after the resource was released.
-/
structure Protocol (Message : Type*) where
  progress : Message → Bool
  terminal : Message → Bool
  afterRelease : Message → Bool
  disjoint : ∀ message, progress message → terminal message = false

variable {protocol : Protocol Message}

/-- Progress messages followed by one terminal message. -/
def Stream
    (protocol : Protocol Message)
    (messages : List Message) : Prop :=
  ∃ earlier last,
    messages = earlier ++ [last] ∧
    (∀ message, message ∈ earlier → protocol.progress message) ∧
    protocol.terminal last

/-- What must follow an action in an orderly program. -/
def Follows
    (protocol : Protocol Message) :
    Action Message → List (Action Message) → Prop
  | .acquire _, rest => .release ∈ rest
  | .send message, rest =>
      .notify ∈ rest ∧
      (protocol.afterRelease message → .release ∉ rest)
  | .work, _ | .release, _ | .notify, _ => True

/-- Every action is followed by what it requires. -/
def Orderly
    (protocol : Protocol Message) : List (Action Message) → Prop
  | [] => True
  | action :: rest =>
      Follows protocol action rest ∧ Orderly protocol rest

/-- A program whose messages form a stream and whose actions are in order. -/
structure Admitted
    (protocol : Protocol Message)
    (program : List (Action Message)) : Prop where
  stream : Stream protocol (sends program)
  orderly : Orderly protocol program

/-- What holds of a thread at every moment of an admitted program. -/
structure Sound
    (protocol : Protocol Message)
    (thread : ReportingThread Message) : Prop where
  started : ∃ rest, Stream protocol (thread.sent ++ rest)
  remaining :
    thread.phase = .running →
    Stream protocol (thread.sent ++ sends thread.program)
  unwinding :
    thread.phase = .unwinding →
    thread.program = [] ∨ thread.program = [.release]
  finished : thread.phase = .ended → thread.program = []
  orderly : Orderly protocol thread.program
  released :
    ∀ message,
      message ∈ thread.sent →
      protocol.afterRelease message →
      thread.Settled
  holding : thread.holding → ¬ thread.Settled
  taken_le : thread.taken ≤ thread.sent.length

/-- No terminal message was taken yet. -/
def Unfinished
    (protocol : Protocol Message)
    (thread : ReportingThread Message) : Prop :=
  ∀ message,
    message ∈ thread.sent.take thread.taken →
    protocol.terminal message = false

/-- Every message of a stream is a progress or a terminal one. -/
theorem Stream.kind
    {messages : List Message}
    (stream : Stream protocol messages)
    {message : Message}
    (member : message ∈ messages) :
    protocol.progress message ∨ protocol.terminal message := by
  obtain ⟨earlier, last, rfl, progress, terminal⟩ := stream
  rcases List.mem_append.mp member with early | final
  · exact .inl (progress message early)
  · rw [List.mem_singleton.mp final]
    exact .inr terminal

/-- After a terminal message of a stream nothing follows. -/
theorem Stream.eq_nil_of_terminal
    {before after : List Message}
    (stream : Stream protocol (before ++ after))
    {message : Message}
    (member : message ∈ before)
    (terminal : protocol.terminal message) :
    after = [] := by
  obtain ⟨earlier, last, same, progress, _⟩ := stream
  rcases List.eq_nil_or_concat after with none | ⟨more, final, rfl⟩
  · exact none
  · rw [List.concat_eq_append, ← List.append_assoc] at same
    obtain ⟨rfl, -⟩ := List.append_inj' same rfl
    have early :=
      progress message (List.mem_append_left more member)
    rw [protocol.disjoint message early] at terminal
    cases terminal

/-- A stream has a terminal message. -/
theorem Stream.exists_terminal
    {messages : List Message}
    (stream : Stream protocol messages) :
    ∃ message, message ∈ messages ∧ protocol.terminal message := by
  obtain ⟨earlier, last, rfl, _, terminal⟩ := stream
  exact ⟨last, by simp, terminal⟩

/-- A stream has only one terminal message. -/
theorem Stream.terminal_unique
    {messages : List Message}
    (stream : Stream protocol messages)
    {first second : Message}
    (firstMember : first ∈ messages)
    (secondMember : second ∈ messages)
    (firstTerminal : protocol.terminal first)
    (secondTerminal : protocol.terminal second) :
    first = second := by
  obtain ⟨earlier, last, rfl, progress, _⟩ := stream
  have isLast
      {message : Message}
      (member : message ∈ earlier ++ [last])
      (terminal : protocol.terminal message) :
      message = last := by
    rcases List.mem_append.mp member with early | final
    · rw [protocol.disjoint message (progress message early)] at terminal
      cases terminal
    · exact List.mem_singleton.mp final
  rw [isLast firstMember firstTerminal, isLast secondMember secondTerminal]

/-- A program that still sends still notifies afterwards. -/
theorem notify_mem_of_sends
    {program : List (Action Message)}
    (orderly : Orderly protocol program)
    (sending : sends program ≠ []) :
    .notify ∈ program := by
  induction program with
  | nil =>
      exact (sending rfl).elim
  | cons action rest inductionHypothesis =>
      obtain ⟨follows, later⟩ := orderly
      cases action with
      | send message =>
          exact List.mem_cons_of_mem _ follows.1
      | notify =>
          exact List.mem_cons_self
      | _ =>
          exact List.mem_cons_of_mem _ (inductionHypothesis later sending)

/-- A thread that runs an admitted program is sound from the start. -/
theorem Admitted.sound
    {program : List (Action Message)}
    (admitted : Admitted protocol program) :
    Sound protocol (spawned program) where
  started := ⟨sends program, admitted.stream⟩
  remaining _ := admitted.stream
  unwinding turn := by
    cases turn
  finished ended := by
    cases ended
  orderly := admitted.orderly
  released message member := by
    cases member
  holding held := by
    cases held
  taken_le := Nat.le_refl 0

/-- Taking messages does not concern the thread. -/
theorem Sound.take
    {thread : ReportingThread Message}
    (sound : Sound protocol thread)
    (count : Nat) :
    Sound protocol (thread.take count) where
  started := sound.started
  remaining := sound.remaining
  unwinding := sound.unwinding
  finished := sound.finished
  orderly := sound.orderly
  released := sound.released
  holding := sound.holding
  taken_le := Nat.min_le_right _ _

/-- What a panic leaves of a thread. -/
theorem panic_eq_some_iff
    {thread panicked : ReportingThread Message} :
    thread.panic? = some panicked ↔
      thread.phase = .running ∧
      panicked = { thread with
        program := thread.cleanup
        phase := .unwinding } := by
  rcases thread with ⟨program, phase, holding, sent, taken⟩
  cases phase <;> simp [panic?, eq_comm]

/-- A thread that holds nothing has nothing to clean up. -/
theorem cleanup_cases (thread : ReportingThread Message) :
    (thread.holding = true ∧ thread.cleanup = [.release]) ∨
      (thread.holding = false ∧ thread.cleanup = []) := by
  cases holding : thread.holding <;> simp [cleanup, holding]

/-- A settled thread holds nothing. -/
theorem Sound.holding_eq_false
    {thread : ReportingThread Message}
    (sound : Sound protocol thread)
    (settled : thread.Settled) :
    thread.holding = false := by
  cases holding : thread.holding with
  | false =>
      rfl
  | true =>
      exact (sound.holding holding settled).elim

/-- A thread that has ended is settled. -/
theorem Sound.settled_of_disconnected
    {thread : ReportingThread Message}
    (sound : Sound protocol thread)
    (disconnected : thread.disconnected = true) :
    thread.Settled := by
  rw [Settled, sound.finished (of_decide_eq_true disconnected)]
  exact List.not_mem_nil

/-- A settled thread stays settled when it panics. -/
theorem Settled.panic
    {thread panicked : ReportingThread Message}
    (sound : Sound protocol thread)
    (settled : thread.Settled)
    (stepped : thread.panic? = some panicked) :
    panicked.Settled := by
  obtain ⟨_, rfl⟩ := panic_eq_some_iff.mp stepped
  simp [Settled, cleanup, sound.holding_eq_false settled]

/-- A panic keeps a thread sound. -/
theorem Sound.panic
    {thread panicked : ReportingThread Message}
    (sound : Sound protocol thread)
    (stepped : thread.panic? = some panicked) :
    Sound protocol panicked := by
  have settled (before : thread.Settled) : panicked.Settled :=
    before.panic sound stepped
  obtain ⟨_, rfl⟩ := panic_eq_some_iff.mp stepped
  exact {
    started := sound.started
    remaining := fun running => by cases running
    unwinding := fun _ => by
      rcases thread.cleanup_cases with ⟨_, same⟩ | ⟨_, same⟩ <;>
        simp [same]
    finished := fun ended => by cases ended
    orderly := by
      rcases thread.cleanup_cases with ⟨_, same⟩ | ⟨_, same⟩ <;>
        simp [same, Orderly, Follows]
    released := fun message member after =>
      settled (sound.released message member after)
    holding := fun held => by
      simpa [Settled, cleanup] using held
    taken_le := sound.taken_le
  }

/--
Everything an advance can do: perform the first action, or drop the sender when
there is none.
-/
theorem advance_cases
    {thread next : ReportingThread Message}
    {notified : Bool}
    (stepped : thread.advance? = some (next, notified)) :
    (∃ action rest,
      thread.phase ≠ .ended ∧
      thread.program = action :: rest ∧
      next.phase = thread.phase ∧
      next.program = rest ∧
      next.taken = thread.taken ∧
      next.sent = thread.sent ++ sends [action] ∧
      next.holding =
        (match action with
          | .acquire granted => granted
          | .release => false
          | _ => thread.holding) ∧
      (notified = true ↔ action = .notify)) ∨
    (thread.phase ≠ .ended ∧
      thread.program = [] ∧
      next = { thread with phase := .ended } ∧
      notified = false) := by
  rcases thread with ⟨program, phase, holding, sent, taken⟩
  have going : phase ≠ .ended := by
    rintro rfl
    cases stepped
  cases program with
  | nil =>
      refine .inr ⟨going, rfl, ?_⟩
      cases phase <;> cases stepped <;> exact ⟨rfl, rfl⟩
  | cons action rest =>
      refine .inl ⟨action, rest, going, rfl, ?_⟩
      cases phase <;> cases action <;> cases stepped <;> simp

/-- A thread keeps the messages it has sent. -/
theorem sent_prefix_advance
    {thread next : ReportingThread Message}
    {notified : Bool}
    (stepped : thread.advance? = some (next, notified)) :
    thread.sent <+: next.sent := by
  rcases advance_cases stepped with
    ⟨action, rest, _, _, _, _, _, sent, _⟩ | ⟨_, _, rfl, _⟩
  · exact ⟨_, sent.symm⟩
  · exact List.prefix_rfl

/-- A settled thread stays settled. -/
theorem Settled.advance
    {thread next : ReportingThread Message}
    {notified : Bool}
    (settled : thread.Settled)
    (stepped : thread.advance? = some (next, notified)) :
    next.Settled := by
  rcases advance_cases stepped with
    ⟨action, rest, _, program, _, nextProgram, _⟩ | ⟨_, _, rfl, _⟩
  · rw [Settled, program] at settled
    rw [Settled, nextProgram]
    exact fun member => settled (List.mem_cons_of_mem _ member)
  · exact settled

/-- An unwinding thread only drops its resource. -/
theorem Sound.eq_release_of_unwinding
    {thread : ReportingThread Message}
    (sound : Sound protocol thread)
    (unwinding : thread.phase = .unwinding)
    {action : Action Message}
    {rest : List (Action Message)}
    (program : thread.program = action :: rest) :
    action = .release ∧ rest = [] := by
  have whole := sound.unwinding unwinding
  simpa [program] using whole

/-- The phase of a thread that is not over. -/
theorem phase_cases
    {thread : ReportingThread Message}
    (going : thread.phase ≠ .ended) :
    thread.phase = .running ∨ thread.phase = .unwinding := by
  cases phase : thread.phase with
  | running =>
      exact .inl rfl
  | unwinding =>
      exact .inr rfl
  | ended =>
      exact (going phase).elim

/-- What a sound thread holds after its next action is still to be released. -/
theorem Orderly.holding_advance
    {action : Action Message}
    {rest : List (Action Message)}
    {before after : Bool}
    (orderly : Orderly protocol (action :: rest))
    (held : before → .release ∈ action :: rest)
    (same :
      after =
        (match action with
          | .acquire granted => granted
          | .release => false
          | _ => before))
    (holding : after = true) :
    .release ∈ rest := by
  subst same
  cases action with
  | acquire granted =>
      exact orderly.1
  | release =>
      cases holding
  | _ =>
      simpa using held holding

/-- An advance keeps a thread sound. -/
theorem Sound.advance
    {thread next : ReportingThread Message}
    {notified : Bool}
    (sound : Sound protocol thread)
    (stepped : thread.advance? = some (next, notified)) :
    Sound protocol next := by
  have settledNext (settled : thread.Settled) : next.Settled :=
    settled.advance stepped
  rcases advance_cases stepped with
    ⟨action, rest, going, program, samePhase, nextProgram, taken, sent,
      holding, _⟩ | ⟨_, program, rfl, _⟩
  · have orderly := sound.orderly
    rw [program] at orderly
    have whole (running : thread.phase = .running) :
        Stream protocol (next.sent ++ sends next.program) := by
      have before := sound.remaining running
      rw [program] at before
      rw [sent, nextProgram, List.append_assoc]
      cases action <;> exact before
    have silent (unwinding : thread.phase = .unwinding) :
        next.sent = thread.sent := by
      obtain ⟨rfl, _⟩ := sound.eq_release_of_unwinding unwinding program
      rw [sent]
      exact List.append_nil _
    exact {
      started := by
        rcases phase_cases going with running | unwinding
        · exact ⟨_, whole running⟩
        · rw [silent unwinding]
          exact sound.started
      remaining := fun running => whole (samePhase.symm.trans running)
      unwinding := fun unwinding => by
        rw [nextProgram]
        exact .inl (sound.eq_release_of_unwinding
          (samePhase.symm.trans unwinding) program).2
      finished := fun ended => (going (samePhase.symm.trans ended)).elim
      orderly := nextProgram ▸ orderly.2
      released := by
        intro message member after
        rw [sent] at member
        rcases List.mem_append.mp member with early | fresh
        · exact settledNext (sound.released message early after)
        · cases action with
          | send last =>
              rw [List.mem_singleton.mp fresh] at after
              rw [Settled, nextProgram]
              exact orderly.1.2 after
          | _ =>
              cases fresh
      holding := by
        intro held
        rw [Settled, nextProgram, not_not]
        refine orderly.holding_advance (fun before => ?_) holding held
        have unsettled := sound.holding before
        rwa [Settled, program, not_not] at unsettled
      taken_le := by
        rw [taken, sent, List.length_append]
        exact Nat.le_add_right_of_le sound.taken_le
    }
  · exact {
      started := sound.started
      remaining := fun running => by cases running
      unwinding := fun unwinding => by cases unwinding
      finished := fun _ => program
      orderly := sound.orderly
      released := sound.released
      holding := sound.holding
      taken_le := sound.taken_le
    }

/-- Once a terminal message is sent, no more messages are. -/
theorem Sound.sent_advance
    {thread next : ReportingThread Message}
    {notified : Bool}
    (sound : Sound protocol thread)
    (stepped : thread.advance? = some (next, notified))
    {message : Message}
    (member : message ∈ thread.sent)
    (terminal : protocol.terminal message) :
    next.sent = thread.sent := by
  rcases advance_cases stepped with
    ⟨action, rest, going, program, _, _, _, sent, _⟩ | ⟨_, _, rfl, _⟩
  · rw [sent]
    cases action with
    | send last =>
        rcases phase_cases going with running | unwinding
        · have finished :=
            (sound.remaining running).eq_nil_of_terminal member terminal
          rw [program] at finished
          cases finished
        · cases (sound.eq_release_of_unwinding unwinding program).1
    | _ =>
        exact List.append_nil _
  · rfl

/-- A running thread that has sent no terminal message will still notify. -/
theorem Sound.notify_mem
    {thread : ReportingThread Message}
    (sound : Sound protocol thread)
    (running : thread.phase = .running)
    (unfinished :
      ∀ message,
        message ∈ thread.sent →
        protocol.terminal message = false) :
    .notify ∈ thread.program := by
  refine notify_mem_of_sends sound.orderly fun silent => ?_
  obtain ⟨message, member, terminal⟩ :=
    (sound.remaining running).exists_terminal
  rw [silent, List.append_nil] at member
  rw [unfinished message member] at terminal
  cases terminal

/-- Every sent message is a progress or a terminal one. -/
theorem Sound.kind
    {thread : ReportingThread Message}
    (sound : Sound protocol thread)
    {message : Message}
    (member : message ∈ thread.sent) :
    protocol.progress message ∨ protocol.terminal message := by
  obtain ⟨rest, stream⟩ := sound.started
  exact stream.kind (List.mem_append_left rest member)

/-- A thread sends at most one terminal message. -/
theorem Sound.terminal_unique
    {thread : ReportingThread Message}
    (sound : Sound protocol thread)
    {first second : Message}
    (firstMember : first ∈ thread.sent)
    (secondMember : second ∈ thread.sent)
    (firstTerminal : protocol.terminal first)
    (secondTerminal : protocol.terminal second) :
    first = second := by
  obtain ⟨rest, stream⟩ := sound.started
  exact stream.terminal_unique
    (List.mem_append_left rest firstMember)
    (List.mem_append_left rest secondMember)
    firstTerminal secondTerminal

/-- A sent message was either taken or waits in the channel. -/
theorem mem_sent_iff
    {thread : ReportingThread Message}
    {message : Message} :
    message ∈ thread.sent ↔
      message ∈ thread.sent.take thread.taken ∨
        message ∈ thread.unread := by
  rw [unread, ← List.mem_append, List.take_append_drop]

/-- Nothing is received only from an empty channel. -/
theorem unread_eq_nil_of_tryRecv
    {thread : ReportingThread Message}
    {error : TryRecvError}
    (nothing : thread.tryRecv = .error error) :
    thread.unread = [] := by
  unfold tryRecv at nothing
  split at nothing
  · cases nothing
  · assumption

/-- What waits is progress, possibly followed by the terminal message. -/
theorem Sound.unread_cases
    {thread : ReportingThread Message}
    (sound : Sound protocol thread) :
    (∀ message, message ∈ thread.unread → protocol.progress message) ∨
      ∃ earlier last,
        thread.unread = earlier ++ [last] ∧
        (∀ message, message ∈ earlier → protocol.progress message) ∧
        protocol.terminal last := by
  obtain ⟨rest, earlier, last, same, progress, terminal⟩ := sound.started
  rcases List.eq_nil_or_concat rest with rfl | ⟨more, final, rfl⟩
  · rw [List.append_nil] at same
    by_cases inside : thread.taken ≤ earlier.length
    · refine .inr ⟨earlier.drop thread.taken, last, ?_, ?_, terminal⟩
      · rw [unread, same, List.drop_append_of_le_length inside]
      · exact fun message member =>
          progress message (List.mem_of_mem_drop member)
    · have all : thread.sent.length ≤ thread.taken := by
        rw [same, List.length_append, List.length_singleton]
        omega
      rw [unread, List.drop_of_length_le all]
      exact .inl (by simp)
  · rw [List.concat_eq_append, ← List.append_assoc] at same
    obtain ⟨rfl, -⟩ := List.append_inj' same rfl
    exact .inl fun message member =>
      progress message
        (List.mem_append_left more (List.mem_of_mem_drop member))

/-- A thread of which nothing terminal was taken or waits has not finished. -/
theorem Unfinished.not_terminal
    {thread : ReportingThread Message}
    (unfinished : Unfinished protocol thread)
    (waiting :
      ∀ message,
        message ∈ thread.unread →
        protocol.terminal message = false)
    {message : Message}
    (member : message ∈ thread.sent) :
    protocol.terminal message = false :=
  (mem_sent_iff.mp member).elim (unfinished message) (waiting message)

/-- Taking messages that are not terminal keeps a thread unfinished. -/
theorem Unfinished.take
    {thread : ReportingThread Message}
    (unfinished : Unfinished protocol thread)
    (waiting :
      ∀ message,
        message ∈ thread.unread →
        protocol.terminal message = false)
    (count : Nat) :
    Unfinished protocol (thread.take count) :=
  fun _ member =>
    unfinished.not_terminal waiting (List.mem_of_mem_take member)

/-- Everything that can happen to a thread and its channel. -/
inductive Evolves
    (old new : ReportingThread Message) : Prop where
  | advanced
      (notified : Bool)
      (stepped : old.advance? = some (new, notified))
  | panicked (stepped : old.panic? = some new)
  | taken (count : Nat) (same : new = old.take count)

/-- A thread stays sound whatever happens. -/
theorem Sound.evolves
    {old new : ReportingThread Message}
    (sound : Sound protocol old)
    (evolves : Evolves old new) :
    Sound protocol new := by
  cases evolves with
  | advanced notified stepped =>
      exact sound.advance stepped
  | panicked stepped =>
      exact sound.panic stepped
  | taken count same =>
      exact same ▸ sound.take count

/-- A thread keeps the messages it has sent whatever happens. -/
theorem sent_prefix_evolves
    {old new : ReportingThread Message}
    (evolves : Evolves old new) :
    old.sent <+: new.sent := by
  cases evolves with
  | advanced notified stepped =>
      exact sent_prefix_advance stepped
  | panicked stepped =>
      obtain ⟨_, rfl⟩ := panic_eq_some_iff.mp stepped
      exact List.prefix_rfl
  | taken count same =>
      subst same
      exact List.prefix_rfl

/-- Only taking messages can finish a thread. -/
theorem Unfinished.of_sent_prefix
    {old new : ReportingThread Message}
    (sound : Sound protocol old)
    (unfinished : Unfinished protocol old)
    (sameTaken : new.taken = old.taken)
    (kept : old.sent <+: new.sent) :
    Unfinished protocol new := by
  obtain ⟨more, same⟩ := kept
  intro message member
  rw [sameTaken, ← same,
    List.take_append_of_le_length sound.taken_le] at member
  exact unfinished message member

/-- An advance keeps a thread unfinished. -/
theorem Unfinished.advance
    {thread next : ReportingThread Message}
    {notified : Bool}
    (sound : Sound protocol thread)
    (unfinished : Unfinished protocol thread)
    (stepped : thread.advance? = some (next, notified)) :
    Unfinished protocol next := by
  refine unfinished.of_sent_prefix sound ?_ (sent_prefix_advance stepped)
  rcases advance_cases stepped with
    ⟨_, _, _, _, _, _, taken, _⟩ | ⟨_, _, rfl, _⟩
  · exact taken
  · rfl

/-- A panic keeps a thread unfinished. -/
theorem Unfinished.panic
    {thread panicked : ReportingThread Message}
    (unfinished : Unfinished protocol thread)
    (stepped : thread.panic? = some panicked) :
    Unfinished protocol panicked := by
  rw [(panic_eq_some_iff.mp stepped).2]
  exact unfinished

end ReportingThread
