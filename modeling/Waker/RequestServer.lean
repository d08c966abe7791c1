import Mathlib.Logic.Function.Basic
import Waker.StepSystem

namespace RequestServer

/-!
# A server behind a bounded queue

Any number of calls send requests to one server.  A request waits for room in
the queue, then for its turn; the server works on one request at a time and
answers it through a channel that belongs to the call alone.  The server may
stop at any time, and with it everything that it has not answered; a call may
be abandoned at any time.  Nothing is said of how requests and replies travel: a
server over channels refines this one.
-/

variable {Call Effort Request Reply Memory : Type*}

/-- A request with the call that waits for its reply. -/
structure Job (Call Request : Type*) where
  call : Call
  request : Request
  deriving Repr, DecidableEq

/-- A request that was served, with its reply. -/
structure Served (Call Request Reply : Type*) where
  job : Job Call Request
  reply : Reply
  deriving Repr, DecidableEq

/-- What a call returns. -/
inductive Answer (Reply : Type*) where
  | replied (reply : Reply)
  | stopped
  deriving Repr, DecidableEq

/-- Where a call stands. -/
inductive Phase (Request Reply : Type*) where
  | idle
  | sending (request : Request)
  | waiting (request : Request)
  | answered (request : Request) (reply : Reply)
  | returned (request : Request) (answer : Answer Reply)
  | abandoned

/--
The calls, the queue and the server.  The lists of the requests that were
accepted and of those that were served are kept for the record.
-/
structure State (Call Request Reply Memory : Type*) where
  memory : Memory
  running : Bool
  queue : List (Job Call Request)
  current : Option (Job Call Request)
  accepted : List (Job Call Request)
  served : List (Served Call Request Reply)
  phase : Call → Phase Request Reply

/-- What can happen next. -/
inductive Step (Call Effort Request : Type*) where
  | call (call : Call) (request : Request)
  | send (call : Call)
  | refuse (call : Call)
  | take
  | serve (effort : Effort)
  | receive (call : Call)
  | abandon (call : Call)
  | stop

/-- The step answers a request. -/
def Step.serves : Step Call Effort Request → Bool
  | .serve _ => true
  | _ => false

namespace State

/-- A running server that has not been called. -/
def start (memory : Memory) : State Call Request Reply Memory where
  memory := memory
  running := true
  queue := []
  current := none
  accepted := []
  served := []
  phase := fun _ => .idle

/-- The requests that the server has yet to answer, the current one first. -/
def pending (state : State Call Request Reply Memory) :
    List (Job Call Request) :=
  state.current.toList ++ state.queue

/-- Only one call moves. -/
def setPhase
    [DecidableEq Call]
    (state : State Call Request Reply Memory)
    (call : Call)
    (phase : Phase Request Reply) : State Call Request Reply Memory :=
  { state with phase := Function.update state.phase call phase }

end State

/-- The reply reaches its channel, unless the call has been abandoned. -/
def Phase.answer
    (request : Request)
    (reply : Reply) : Phase Request Reply → Phase Request Reply
  | .waiting _ => .answered request reply
  | phase => phase

/-- A call that waits for its reply goes on to wait, gets it or gives up. -/
def Phase.Follows (request : Request) : Phase Request Reply → Prop
  | .waiting own | .answered own _ | .returned own _ => own = request
  | .abandoned => True
  | .idle | .sending _ => False

/-- The call has its reply, unless it was abandoned. -/
def Phase.Has (request : Request) (reply : Reply) : Phase Request Reply → Prop
  | .answered own result | .returned own (.replied result) =>
      own = request ∧ result = reply
  | .abandoned => True
  | _ => False

section

variable [DecidableEq Call]

/-- Take one step, unless it is not possible. -/
def step?
    (serve? : Effort → Request → Memory → Option (Reply × Memory))
    (capacity : Nat)
    (state : State Call Request Reply Memory) :
    Step Call Effort Request → Option (State Call Request Reply Memory)
  | .call call request =>
      match state.phase call with
      | .idle => some (state.setPhase call (.sending request))
      | _ => none
  | .send call =>
      match state.phase call with
      | .sending request =>
          if state.running ∧ state.queue.length < capacity then
            some { state.setPhase call (.waiting request) with
              queue := state.queue ++ [⟨call, request⟩]
              accepted := state.accepted ++ [⟨call, request⟩] }
          else
            none
      | _ => none
  | .refuse call =>
      match state.phase call with
      | .sending request =>
          if state.running then
            none
          else
            some (state.setPhase call (.returned request .stopped))
      | _ => none
  | .take =>
      match state.current, state.queue with
      | none, job :: rest =>
          some { state with queue := rest, current := some job }
      | _, _ => none
  | .serve effort =>
      match state.current with
      | some job =>
          match serve? effort job.request state.memory with
          | some (reply, memory) =>
              let phase := (state.phase job.call).answer job.request reply
              some { state.setPhase job.call phase with
                memory := memory
                current := none
                served := state.served ++ [⟨job, reply⟩] }
          | none => none
      | none => none
  | .receive call =>
      match state.phase call with
      | .answered request reply =>
          some (state.setPhase call (.returned request (.replied reply)))
      | .waiting request =>
          if state.running then
            none
          else
            some (state.setPhase call (.returned request .stopped))
      | _ => none
  | .abandon call =>
      match state.phase call with
      | .sending _ | .waiting _ | .answered _ _ =>
          some (state.setPhase call .abandoned)
      | _ => none
  | .stop =>
      if state.running then
        some { state with running := false, queue := [], current := none }
      else
        none

variable {serve? : Effort → Request → Memory → Option (Reply × Memory)}
variable {capacity : Nat}
variable {state next : State Call Request Reply Memory}

/-- A call that moves is where it moved to. -/
@[simp]
theorem State.phase_setPhase_self
    (state : State Call Request Reply Memory)
    (call : Call)
    (phase : Phase Request Reply) :
    (state.setPhase call phase).phase call = phase :=
  Function.update_self ..

/-- Where another call moves, a call stays. -/
theorem State.phase_setPhase_of_ne
    (state : State Call Request Reply Memory)
    {call other : Call}
    (different : other ≠ call)
    (phase : Phase Request Reply) :
    (state.setPhase call phase).phase other = state.phase other :=
  Function.update_of_ne different ..

/-- A call that can still be abandoned. -/
def Phase.IsOpen : Phase Request Reply → Prop
  | .sending _ | .waiting _ | .answered _ _ => True
  | _ => False

/-- What a step requires and what it does. -/
inductive Moves
    (serve? : Effort → Request → Memory → Option (Reply × Memory))
    (capacity : Nat)
    (state : State Call Request Reply Memory) :
    Step Call Effort Request → State Call Request Reply Memory → Prop where
  | called
      {call : Call}
      {request : Request}
      (idle : state.phase call = .idle) :
      Moves serve? capacity state (.call call request)
        (state.setPhase call (.sending request))
  | sent
      {call : Call}
      {request : Request}
      (sending : state.phase call = .sending request)
      (running : state.running = true)
      (room : state.queue.length < capacity) :
      Moves serve? capacity state (.send call)
        { state.setPhase call (.waiting request) with
          queue := state.queue ++ [⟨call, request⟩]
          accepted := state.accepted ++ [⟨call, request⟩] }
  | refused
      {call : Call}
      {request : Request}
      (sending : state.phase call = .sending request)
      (ended : state.running = false) :
      Moves serve? capacity state (.refuse call)
        (state.setPhase call (.returned request .stopped))
  | taken
      {job : Job Call Request}
      {rest : List (Job Call Request)}
      (free : state.current = none)
      (first : state.queue = job :: rest) :
      Moves serve? capacity state .take
        { state with queue := rest, current := some job }
  | served
      {effort : Effort}
      {job : Job Call Request}
      {reply : Reply}
      {memory : Memory}
      (current : state.current = some job)
      (serves : serve? effort job.request state.memory = some (reply, memory)) :
      Moves serve? capacity state (.serve effort)
        { state.setPhase job.call
            ((state.phase job.call).answer job.request reply) with
          memory := memory
          current := none
          served := state.served ++ [⟨job, reply⟩] }
  | received
      {call : Call}
      {request : Request}
      {reply : Reply}
      (answered : state.phase call = .answered request reply) :
      Moves serve? capacity state (.receive call)
        (state.setPhase call (.returned request (.replied reply)))
  | dropped
      {call : Call}
      {request : Request}
      (waiting : state.phase call = .waiting request)
      (ended : state.running = false) :
      Moves serve? capacity state (.receive call)
        (state.setPhase call (.returned request .stopped))
  | abandoned
      {call : Call}
      (isOpen : (state.phase call).IsOpen) :
      Moves serve? capacity state (.abandon call)
        (state.setPhase call .abandoned)
  | stopped
      (running : state.running = true) :
      Moves serve? capacity state .stop
        { state with running := false, queue := [], current := none }

/-- A step that is taken does what it requires. -/
theorem moves_of_step
    {label : Step Call Effort Request}
    (taken : step? serve? capacity state label = some next) :
    Moves serve? capacity state label next := by
  cases label with
  | call call request =>
      simp only [step?] at taken
      split at taken
      · rename_i idle
        cases taken
        exact .called idle
      · cases taken
  | send call =>
      simp only [step?] at taken
      split at taken
      · rename_i sending
        split at taken
        · rename_i ready
          cases taken
          exact .sent sending ready.1 ready.2
        · cases taken
      · cases taken
  | refuse call =>
      simp only [step?] at taken
      split at taken
      · rename_i sending
        split at taken
        · cases taken
        · rename_i ended
          cases taken
          exact .refused sending (Bool.eq_false_iff.mpr ended)
      · cases taken
  | take =>
      simp only [step?] at taken
      split at taken
      · rename_i free first
        cases taken
        exact .taken free first
      · cases taken
  | serve effort =>
      simp only [step?] at taken
      split at taken
      · rename_i current
        split at taken
        · rename_i serves
          cases taken
          exact .served current serves
        · cases taken
      · cases taken
  | receive call =>
      simp only [step?] at taken
      split at taken
      · rename_i answered
        cases taken
        exact .received answered
      · rename_i waiting
        split at taken
        · cases taken
        · rename_i ended
          cases taken
          exact .dropped waiting (Bool.eq_false_iff.mpr ended)
      · cases taken
  | abandon call =>
      simp only [step?] at taken
      split at taken
      · rename_i sending
        cases taken
        exact .abandoned (sending ▸ trivial)
      · rename_i waiting
        cases taken
        exact .abandoned (waiting ▸ trivial)
      · rename_i answered
        cases taken
        exact .abandoned (answered ▸ trivial)
      · cases taken
  | stop =>
      simp only [step?] at taken
      split at taken
      · rename_i running
        cases taken
        exact .stopped running
      · cases taken

end

end RequestServer
