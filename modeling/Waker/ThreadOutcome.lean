import Waker.ThreadPool

namespace ReportingThread

/-!
# The outcome of a thread

Once a thread has sent its terminal message, or has ended without one, what it
has sent is final.  A property of all messages that a program can send holds
of all messages that were sent.
-/

variable {Message : Type*}
variable {protocol : Protocol Message}
variable {old new : ReportingThread Message}

/-- The outcome of the thread is known. -/
def Decided
    (protocol : Protocol Message)
    (thread : ReportingThread Message) : Prop :=
  (∃ message,
    message ∈ thread.sent ∧ protocol.terminal message = true) ∨
  thread.disconnected = true

/-- All messages that were or can still be sent have a property. -/
def SendsOnly
    (property : Message → Prop)
    (thread : ReportingThread Message) : Prop :=
  ∀ message,
    message ∈ thread.sent ++ sends thread.program →
    property message

/-- A thread that has ended does nothing more. -/
theorem advance_disconnected
    (ended : old.disconnected = true) :
    old.advance? = none := by
  rcases old with ⟨program, phase, holding, sent, taken⟩
  cases of_decide_eq_true ended
  rfl

/-- A thread that has ended does not panic. -/
theorem panic_disconnected
    (ended : old.disconnected = true) :
    old.panic? = none := by
  rcases old with ⟨program, phase, holding, sent, taken⟩
  cases of_decide_eq_true ended
  rfl

/-- A thread that has ended stays as it is, apart from its channel. -/
theorem Evolves.of_disconnected
    (evolves : Evolves old new)
    (ended : old.disconnected = true) :
    ∃ count, new = old.take count := by
  cases evolves with
  | advanced notified stepped =>
      rw [advance_disconnected ended] at stepped
      cases stepped
  | panicked stepped =>
      rw [panic_disconnected ended] at stepped
      cases stepped
  | taken count same =>
      exact ⟨count, same⟩

/-- What a decided thread has sent is final. -/
theorem Decided.sent_evolves
    (decided : Decided protocol old)
    (sound : Sound protocol old)
    (evolves : Evolves old new) :
    new.sent = old.sent := by
  rcases decided with ⟨message, member, terminal⟩ | ended
  · cases evolves with
    | advanced notified stepped =>
        exact sound.sent_advance stepped member terminal
    | panicked stepped =>
        rw [(panic_eq_some_iff.mp stepped).2]
    | taken count same =>
        rw [same]
        rfl
  · obtain ⟨count, rfl⟩ := evolves.of_disconnected ended
    rfl

/-- A thread that has ended stays ended. -/
theorem disconnected_evolves
    (evolves : Evolves old new)
    (ended : old.disconnected = true) :
    new.disconnected = true := by
  obtain ⟨count, rfl⟩ := evolves.of_disconnected ended
  exact ended

/-- A spawned thread sends only what its program does. -/
theorem sendsOnly_spawned
    {property : Message → Prop}
    {program : List (Action Message)}
    (only : ∀ message, message ∈ sends program → property message) :
    SendsOnly property (spawned program) := by
  simpa [SendsOnly, spawned] using only

/-- Nothing makes a thread send anything else. -/
theorem SendsOnly.evolves
    {property : Message → Prop}
    (only : SendsOnly property old)
    (evolves : Evolves old new) :
    SendsOnly property new := by
  cases evolves with
  | advanced notified stepped =>
      rcases advance_cases stepped with
        ⟨action, rest, _, program, _, nextProgram, _, sent, _⟩ |
          ⟨_, _, rfl, _⟩
      · rw [SendsOnly, program] at only
        rw [SendsOnly, sent, nextProgram, List.append_assoc]
        cases action <;> exact only
      · exact only
  | panicked stepped =>
      obtain ⟨_, rfl⟩ := panic_eq_some_iff.mp stepped
      intro message member
      refine only message (List.mem_append_left _ ?_)
      rcases old.cleanup_cases with ⟨_, same⟩ | ⟨_, same⟩ <;>
        simpa [same] using member
  | taken count same =>
      rw [same]
      exact only

end ReportingThread
