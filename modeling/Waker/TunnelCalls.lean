import Waker.OneshotChannel
import Waker.RequestTurns
import Waker.SmolEngine

namespace Waker

open FifoChannel OneshotChannel RequestServer

/-!
# The calls of a tunnel

Any number of calls share one tunnel.  Each makes a channel for its reply, sends
its command through a channel with room for eight and waits; the engine executes
one command after the other and sends each reply to its call.  The engine may
end at any time, and with it the commands that it has not executed.
-/

/-- The room of the channel for commands. -/
def commandCapacity : Nat :=
  8

/-- Where a call stands. -/
inductive CallPhase where
  | idle
  | sending (command : NetCommand)
  | waiting (command : NetCommand)
  | returned (command : NetCommand) (answer : Answer NetResponse)
  | abandoned

/--
A tunnel with its calls, the channel for commands, the channels for replies and
the engine.  The commands that were executed are kept for the record.
-/
structure TunnelCalls
    [Smoltcp]
    (Channel Slot : Type → Type)
    (Call World Tcp Icmp : Type) where
  engine : EngineState World Tcp Icmp
  running : Bool
  commands : Recorded Channel (Job Call NetCommand)
  current : Option (Job Call NetCommand)
  replies : Call → Slot NetResponse
  phase : Call → CallPhase
  executed : List (RequestServer.Served Call NetCommand NetResponse)

/-- A step of a call, or of the engine, which is given fuel for a command. -/
abbrev TunnelStep (Call : Type) :=
  Step Call Nat NetCommand

namespace TunnelCalls

variable [Smoltcp]
variable {Channel Slot : Type → Type}
variable {Call World Tcp Icmp : Type}

section Operations

variable [Mpsc Channel] [Oneshot Slot]

/-- A tunnel that has just been connected. -/
def start
    (engine : EngineState World Tcp Icmp) :
    TunnelCalls Channel Slot Call World Tcp Icmp where
  engine := engine
  running := true
  commands := .of (Mpsc.channel commandCapacity)
  current := none
  replies := fun _ => Oneshot.channel
  phase := fun _ => .idle
  executed := []

/-- The engine ends and drops the commands that it has, with their replies. -/
def stop
    [DecidableEq Call]
    (state : TunnelCalls Channel Slot Call World Tcp Icmp) :
    TunnelCalls Channel Slot Call World Tcp Icmp :=
  let dropped :=
    state.current.toList ++ (Mpsc.dropReceiver state.commands.channel).1
  { state with
    running := false
    commands := state.commands.dropReceiver
    current := none
    replies := fun call =>
      if call ∈ dropped.map Job.call then
        Oneshot.dropSender (state.replies call)
      else
        state.replies call }

variable [DecidableEq Call]

/-- A call moves on with the channel for its reply. -/
def move
    (state : TunnelCalls Channel Slot Call World Tcp Icmp)
    (call : Call)
    (phase : CallPhase)
    (slot : Slot NetResponse) :
    TunnelCalls Channel Slot Call World Tcp Icmp :=
  { state with
    phase := Function.update state.phase call phase
    replies := Function.update state.replies call slot }

/--
A step of `TunnelClient::http`, `ping` or `probe`, each of which makes a
channel, sends its command and waits, or of `SmolEngine::run`.
-/
def step?
    (stack : SmolStack World Tcp Icmp)
    (state : TunnelCalls Channel Slot Call World Tcp Icmp) :
    TunnelStep Call → Option (TunnelCalls Channel Slot Call World Tcp Icmp)
  | .call call command =>
      match state.phase call with
      | .idle => some (state.move call (.sending command) Oneshot.channel)
      | _ => none
  | .send call =>
      match state.phase call with
      | .sending command =>
          match state.commands.send ⟨call, command⟩ with
          | (.accepted, commands) =>
              some { state.move call (.waiting command) (state.replies call)
                with commands := commands }
          | _ => none
      | _ => none
  | .refuse call =>
      match state.phase call with
      | .sending command =>
          match state.commands.send ⟨call, command⟩ with
          | (.closed, commands) =>
              let slot :=
                Oneshot.dropReceiver (Oneshot.dropSender (state.replies call))
              some { state.move call (.returned command .stopped) slot with
                commands := commands }
          | _ => none
      | _ => none
  | .take =>
      if state.running then
        match state.current, state.commands.recv with
        | none, (.value job, commands) =>
            some { state with commands := commands, current := some job }
        | _, _ => none
      else
        none
  | .serve fuel =>
      match state.current with
      | some job =>
          match execute stack fuel job.request state.engine with
          | some (response, engine) =>
              let slot :=
                (Oneshot.send response (state.replies job.call)).2
              some { state.move job.call (state.phase job.call) slot with
                engine := engine
                current := none
                executed := state.executed ++ [⟨job, response⟩] }
          | none => none
      | none => none
  | .receive call =>
      match state.phase call with
      | .waiting command =>
          match Oneshot.recv (state.replies call) with
          | (.value response, slot) =>
              some
                (state.move call (.returned command (.replied response)) slot)
          | (.closed, slot) =>
              some (state.move call (.returned command .stopped) slot)
          | (.empty, _) => none
      | _ => none
  | .abandon call =>
      match state.phase call with
      | .sending _ =>
          let slot :=
            Oneshot.dropReceiver (Oneshot.dropSender (state.replies call))
          some (state.move call .abandoned slot)
      | .waiting _ =>
          let slot := Oneshot.dropReceiver (state.replies call)
          some (state.move call .abandoned slot)
      | _ => none
  | .stop => if state.running then some state.stop else none

end Operations

variable [Mpsc Channel] [Oneshot Slot]

/-- The commands that the engine has yet to execute, the current one first. -/
def pending
    (state : TunnelCalls Channel Slot Call World Tcp Icmp) :
    List (Job Call NetCommand) :=
  state.current.toList ++ state.commands.queue

/-- The reply that waits for its call. -/
def reply
    (state : TunnelCalls Channel Slot Call World Tcp Icmp)
    (call : Call) : Option NetResponse :=
  (Oneshot.contents (state.replies call)).value

end TunnelCalls

/-- What a call is to the server, given the reply that waits for it. -/
def CallPhase.phase
    (reply : Option NetResponse) :
    CallPhase → RequestServer.Phase NetCommand NetResponse
  | .idle => .idle
  | .sending command => .sending command
  | .waiting command =>
      match reply with
      | some response => .answered command response
      | none => .waiting command
  | .returned command answer => .returned command answer
  | .abandoned => .abandoned

namespace TunnelCalls

variable [Smoltcp]
variable {Channel Slot : Type → Type}
variable {Call World Tcp Icmp : Type}
variable [Mpsc Channel] [Oneshot Slot]

/-- A tunnel is a request server whose requests are the commands. -/
def server
    (state : TunnelCalls Channel Slot Call World Tcp Icmp) :
    State Call NetCommand NetResponse (EngineState World Tcp Icmp) where
  memory := state.engine
  running := state.running
  queue := state.commands.queue
  current := state.current
  accepted := state.commands.accepted
  served := state.executed
  phase := fun call => (state.phase call).phase (state.reply call)

/-- The channels are those that the calls and the engine hold. -/
structure Linked
    (state : TunnelCalls Channel Slot Call World Tcp Icmp) : Prop where
  capacity :
    (Mpsc.contents state.commands.channel).capacity = some commandCapacity
  sender : state.commands.hasSender = true
  receiver : state.commands.hasReceiver = state.running
  fresh :
    ∀ call command,
      state.phase call = .sending command →
      Oneshot.contents (state.replies call) =
        { value := none, hasSender := true, hasReceiver := true }
  awaited :
    ∀ call command,
      state.phase call = .waiting command →
      state.reply call = none →
      Oneshot.contents (state.replies call) =
        { value := none, hasSender := state.running, hasReceiver := true }

variable {state next : TunnelCalls Channel Slot Call World Tcp Icmp}
variable {stack : SmolStack World Tcp Icmp}
variable {initial : EngineState World Tcp Icmp}

section Start

variable [LawfulMpsc Channel]

/-- A tunnel that has just been connected is a new server. -/
theorem server_start :
    (start initial :
      TunnelCalls Channel Slot Call World Tcp Icmp).server =
      .start initial := by
  simp [server, start, State.start, CallPhase.phase, Recorded.of,
    Recorded.queue, LawfulMpsc.channel, Contents.new]

/-- Its record is in order. -/
theorem coherent_server_start :
    Coherent (execute stack) commandCapacity initial
      (start initial :
        TunnelCalls Channel Slot Call World Tcp Icmp).server := by
  rw [server_start]
  exact coherent_start initial

/-- The channels of a tunnel that has just been connected. -/
theorem linked_start :
    (start initial :
      TunnelCalls Channel Slot Call World Tcp Icmp).Linked where
  capacity := by
    simp [start, Recorded.of, LawfulMpsc.channel, Contents.new]
  sender := by
    simp [start, Recorded.of, Recorded.hasSender, LawfulMpsc.channel,
      Contents.new]
  receiver := by
    simp [start, Recorded.of, Recorded.hasReceiver, LawfulMpsc.channel,
      Contents.new]
  fresh := fun _ _ sending => nomatch sending
  awaited := fun _ _ waiting => nomatch waiting

end Start

/-- What becomes of the commands leaves the channels for replies. -/
theorem Linked.withCommands
    (linked : state.Linked)
    {commands : Recorded Channel (Job Call NetCommand)}
    (ends : state.commands.SameEnds commands) :
    ({ state with commands := commands } :
      TunnelCalls Channel Slot Call World Tcp Icmp).Linked where
  capacity := ends.capacity.trans linked.capacity
  sender := ends.sender.trans linked.sender
  receiver := ends.receiver.trans linked.receiver
  fresh := linked.fresh
  awaited := linked.awaited

variable [DecidableEq Call]

section Move

/-- A call that moves on is where it moved to. -/
theorem server_move
    (state : TunnelCalls Channel Slot Call World Tcp Icmp)
    (call : Call)
    (phase : CallPhase)
    (slot : Slot NetResponse) :
    (state.move call phase slot).server =
      state.server.setPhase call
        (phase.phase (Oneshot.contents slot).value) := by
  have phases :
      (state.move call phase slot).server.phase =
        Function.update state.server.phase call
          (phase.phase (Oneshot.contents slot).value) := by
    funext other
    by_cases same : other = call
    · subst same
      simp [server, move, reply]
    · simp [server, move, reply, same]
  exact congrArg
    (fun phase => { state.server with phase := phase }) phases

/-- So is one that moves on after what becomes of its command. -/
theorem server_move_commands
    (state : TunnelCalls Channel Slot Call World Tcp Icmp)
    (call : Call)
    (phase : CallPhase)
    (slot : Slot NetResponse)
    (commands : Recorded Channel (Job Call NetCommand)) :
    ({ state.move call phase slot with commands := commands } :
      TunnelCalls Channel Slot Call World Tcp Icmp).server =
      { state.server.setPhase call
          (phase.phase (Oneshot.contents slot).value) with
        queue := commands.queue
        accepted := commands.accepted } := by
  rw [← server_move]
  rfl

/-- The channels of the other calls stay as they are. -/
theorem Linked.move
    (linked : state.Linked)
    {call : Call}
    {phase : CallPhase}
    {slot : Slot NetResponse}
    (fresh :
      ∀ command,
        phase = .sending command →
        Oneshot.contents slot =
          { value := none, hasSender := true, hasReceiver := true })
    (awaited :
      ∀ command,
        phase = .waiting command →
        (Oneshot.contents slot).value = none →
        Oneshot.contents slot =
          { value := none
            hasSender := state.running
            hasReceiver := true }) :
    (state.move call phase slot).Linked where
  capacity := linked.capacity
  sender := linked.sender
  receiver := linked.receiver
  fresh := fun other command sending => by
    by_cases same : other = call
    · subst same
      simp only [TunnelCalls.move, Function.update_self] at sending ⊢
      exact fresh command sending
    · simp only [TunnelCalls.move, Function.update_of_ne same] at sending ⊢
      exact linked.fresh other command sending
  awaited := fun other command waiting unanswered => by
    by_cases same : other = call
    · subst same
      simp only [TunnelCalls.move, reply, Function.update_self]
        at waiting unanswered ⊢
      exact awaited command waiting unanswered
    · simp only [TunnelCalls.move, reply, Function.update_of_ne same]
        at waiting unanswered ⊢
      exact linked.awaited other command waiting unanswered

/-- A call that is over needs its channel no more. -/
theorem Linked.moveOver
    (linked : state.Linked)
    {call : Call}
    {phase : CallPhase}
    {slot : Slot NetResponse}
    (unsent : ∀ command, phase ≠ .sending command)
    (heard : ∀ command, phase ≠ .waiting command) :
    (state.move call phase slot).Linked :=
  linked.move
    (fun command sending => absurd sending (unsent command))
    (fun command waiting _ => absurd waiting (heard command))

end Move

section Commands

variable [LawfulMpsc Channel]

/-- A command that the channel accepts is a request that was sent. -/
theorem server_send
    (linked : state.Linked)
    {call : Call}
    {command : NetCommand}
    {commands : Recorded Channel (Job Call NetCommand)}
    (sending : state.phase call = .sending command)
    (sent : state.commands.send ⟨call, command⟩ = (.accepted, commands)) :
    let next :=
      { state.move call (.waiting command) (state.replies call) with
        commands := commands }
    RequestServer.step? (execute stack) commandCapacity state.server
          (.send call) = some next.server ∧
      next.Linked := by
  obtain ⟨alive, room, queue, accepted, ends⟩ :=
    Recorded.sent_of_accepted sent
  have fresh := linked.fresh call command sending
  have running : state.running = true := linked.receiver.symm.trans alive
  have short : state.commands.queue.length < commandCapacity := by
    rw [Contents.hasRoom, linked.capacity] at room
    exact of_decide_eq_true room
  constructor
  · rw [server_move_commands, fresh, queue, accepted]
    simp [RequestServer.step?, server, sending, CallPhase.phase, running,
      short, State.setPhase]
  · refine (linked.move ?_ ?_).withCommands ends
    · rintro _ ⟨⟩
    · intro _ _ _
      rw [fresh, running]

/-- A command that finds no receiver is a request that was refused. -/
theorem server_refuse
    (linked : state.Linked)
    {call : Call}
    {command : NetCommand}
    {commands : Recorded Channel (Job Call NetCommand)}
    {slot : Slot NetResponse}
    (sending : state.phase call = .sending command)
    (sent : state.commands.send ⟨call, command⟩ = (.closed, commands)) :
    let next :=
      { state.move call (.returned command .stopped) slot with
        commands := commands }
    RequestServer.step? (execute stack) commandCapacity state.server
          (.refuse call) = some next.server ∧
      next.Linked := by
  obtain ⟨gone, queue, accepted, ends⟩ := Recorded.sent_of_closed sent
  have ended : state.running = false := linked.receiver.symm.trans gone
  constructor
  · rw [server_move_commands, queue, accepted]
    simp [RequestServer.step?, server, sending, CallPhase.phase, ended,
      State.setPhase]
  · exact (linked.moveOver (by simp) (by simp)).withCommands ends

/-- The command that the engine receives is the first request. -/
theorem server_take
    (linked : state.Linked)
    {job : Job Call NetCommand}
    {commands : Recorded Channel (Job Call NetCommand)}
    (free : state.current = none)
    (received : state.commands.recv = (.value job, commands)) :
    let next := { state with commands := commands, current := some job }
    RequestServer.step? (execute stack) commandCapacity state.server .take =
        some next.server ∧
      next.Linked := by
  obtain ⟨queue, accepted, ends⟩ := Recorded.received_of_value received
  have kept := linked.withCommands ends
  constructor
  · simp [RequestServer.step?, server, free, queue, accepted, reply]
  · exact ⟨kept.capacity, kept.sender, kept.receiver, kept.fresh,
      kept.awaited⟩

/-- The calls whose commands go with the engine lose the sender of the reply. -/
theorem contents_stop
    [LawfulOneshot Slot]
    (state : TunnelCalls Channel Slot Call World Tcp Icmp)
    (call : Call) :
    Oneshot.contents (state.stop.replies call) =
      if call ∈ state.pending.map Job.call then
        { Oneshot.contents (state.replies call) with hasSender := false }
      else
        Oneshot.contents (state.replies call) := by
  obtain ⟨dropped, -⟩ := LawfulMpsc.dropReceiver state.commands.channel
  have same :
      state.current.toList ++ (Mpsc.dropReceiver state.commands.channel).1 =
        state.pending := by
    rw [dropped]
    rfl
  simp only [stop, same]
  split
  · exact LawfulOneshot.dropSender _
  · rfl

/-- The engine that ends takes the replies with it that nobody has sent. -/
theorem server_stop
    [LawfulOneshot Slot]
    (linked : state.Linked)
    (coherent :
      Coherent (execute stack) commandCapacity initial state.server)
    (running : state.running = true) :
    RequestServer.step? (execute stack) commandCapacity state.server .stop =
        some state.stop.server ∧
      state.stop.Linked := by
  obtain ⟨-, channel⟩ := LawfulMpsc.dropReceiver state.commands.channel
  have reply (call : Call) : state.stop.reply call = state.reply call := by
    rw [TunnelCalls.reply, contents_stop]
    split <;> rfl
  constructor
  · have queue : state.stop.commands.queue = [] :=
      congrArg FifoChannel.Contents.queue channel
    simp only [RequestServer.step?, server, running, reply, queue]
    rfl
  · exact {
      capacity :=
        (congrArg FifoChannel.Contents.capacity channel).trans linked.capacity
      sender :=
        (congrArg FifoChannel.Contents.hasSender channel).trans linked.sender
      receiver := congrArg FifoChannel.Contents.hasReceiver channel
      fresh := fun call command sending => by
        have agrees := coherent.phases call
        have unsent : state.phase call = .sending command := sending
        simp only [server, unsent, CallPhase.phase, Agrees] at agrees
        rw [contents_stop, if_neg]
        · exact linked.fresh call command unsent
        · intro isPending
          exact agrees (List.map_subset _ coherent.pending_subset isPending)
      awaited := fun call command waiting unanswered => by
        rw [reply] at unanswered
        have waits : state.phase call = .waiting command := waiting
        have place : state.server.phase call = .waiting command := by
          simp [server, waits, unanswered, CallPhase.phase]
        obtain ⟨ahead, behind, isPending, -⟩ :=
          coherent.exists_ahead running place
        rw [contents_stop, if_pos, linked.awaited call command waits unanswered]
        · rfl
        · have member : ⟨call, command⟩ ∈ state.server.pending := by
            rw [isPending]
            exact List.mem_append_right _ List.mem_cons_self
          exact List.mem_map_of_mem member
    }

end Commands

variable [LawfulOneshot Slot]

/-- A command that is executed is a request that is served. -/
theorem server_serve
    (linked : state.Linked)
    (coherent :
      Coherent (execute stack) commandCapacity initial state.server)
    {fuel : Nat}
    {job : Job Call NetCommand}
    {response : NetResponse}
    {engine : EngineState World Tcp Icmp}
    (current : state.current = some job)
    (returned :
      execute stack fuel job.request state.engine = some (response, engine)) :
    let slot := (Oneshot.send response (state.replies job.call)).2
    let executed : RequestServer.Served Call NetCommand NetResponse :=
      ⟨job, response⟩
    let next :=
      { state.move job.call (state.phase job.call) slot with
        engine := engine
        current := none
        executed := state.executed ++ [executed] }
    RequestServer.step? (execute stack) commandCapacity state.server
          (.serve fuel) = some next.server ∧
      next.Linked := by
  intro slot executed next
  have running := coherent.running_of_current current
  have accepted := coherent.current_accepted current
  have agrees := coherent.phases job.call
  -- a call that waits has no reply yet, and gets this one
  have delivered
      {command : NetCommand}
      (waiting : state.phase job.call = .waiting command) :
      state.reply job.call = none ∧
      command = job.request ∧
      (Oneshot.contents slot).value = some response := by
    cases unanswered : state.reply job.call with
    | some earlier =>
        simp only [server, waiting, unanswered, CallPhase.phase, Agrees]
          at agrees
        exact absurd rfl (coherent.current_unserved current _ agrees)
    | none =>
        simp only [server, waiting, unanswered, CallPhase.phase, Agrees]
          at agrees
        have open' := linked.awaited job.call command waiting unanswered
        refine ⟨rfl, coherent.request_unique agrees.1 accepted, ?_⟩
        have awaits :
            (Oneshot.contents (state.replies job.call)).hasReceiver = true := by
          rw [open']
        have sends :
            (Oneshot.contents (state.replies job.call)).hasSender = true := by
          rw [open']
          exact running
        exact congrArg OneshotChannel.Contents.value
          (LawfulOneshot.send_received response sends awaits).2
  have answered :
      (state.server.phase job.call).answer job.request response =
        (state.phase job.call).phase (Oneshot.contents slot).value := by
    cases place : state.phase job.call with
    | waiting command =>
        obtain ⟨unanswered, rfl, value⟩ := delivered place
        simp [server, place, unanswered, value, CallPhase.phase,
          Phase.answer]
    | _ =>
        simp [server, place, CallPhase.phase, Phase.answer]
  constructor
  · have after :
        next.server =
          { (state.move job.call (state.phase job.call) slot).server with
            memory := engine
            current := none
            served := state.executed ++ [executed] } :=
      rfl
    rw [after, server_move, ← answered]
    simp [RequestServer.step?, server, current, returned, State.setPhase,
      executed]
  · have moved :
        (state.move job.call (state.phase job.call) slot).Linked := by
      refine linked.move ?_ ?_
      · intro command sending
        simp only [server, sending, CallPhase.phase, Agrees] at agrees
        exact absurd (List.mem_map_of_mem accepted) agrees
      · intro command waiting unanswered
        cases (delivered waiting).2.2.symm.trans unanswered
    exact ⟨moved.capacity, moved.sender, moved.receiver, moved.fresh,
      moved.awaited⟩

omit [DecidableEq Call] in
/-- What a call that waits gets from the channel for its reply. -/
theorem Linked.recv_eq
    (linked : state.Linked)
    {call : Call}
    {command : NetCommand}
    (waiting : state.phase call = .waiting command) :
    (Oneshot.recv (state.replies call)).1 =
      match state.reply call with
      | some response => .value response
      | none => if state.running then .empty else .closed := by
  cases unanswered : state.reply call with
  | some response =>
      exact (LawfulOneshot.recv_value unanswered).1
  | none =>
      have slot := linked.awaited call command waiting unanswered
      by_cases running : state.running = true
      · rw [if_pos running]
        refine (LawfulOneshot.recv_empty unanswered ?_).1
        rw [slot]
        exact running
      · rw [if_neg running]
        refine (LawfulOneshot.recv_closed unanswered ?_).1
        rw [slot]
        exact Bool.eq_false_iff.mpr running

/-- A call that stops waiting has its reply or learns that the engine ended. -/
theorem server_receive
    (linked : state.Linked)
    {call : Call}
    {command : NetCommand}
    (waiting : state.phase call = .waiting command)
    (taken : state.step? stack (.receive call) = some next) :
    RequestServer.step? (execute stack) commandCapacity state.server
          (.receive call) = some next.server ∧
      next.Linked := by
  have received := linked.recv_eq waiting
  simp only [step?, waiting] at taken
  split at taken
  · rename_i response slot got
    cases taken
    rw [got] at received
    refine ⟨?_, linked.moveOver (by simp) (by simp)⟩
    rw [server_move]
    cases reply : state.reply call with
    | some earlier =>
        rw [reply] at received
        cases received
        simp [RequestServer.step?, server, waiting, reply, CallPhase.phase]
    | none =>
        simp only [reply] at received
        split at received <;> cases received
  · rename_i slot got
    cases taken
    rw [got] at received
    refine ⟨?_, linked.moveOver (by simp) (by simp)⟩
    rw [server_move]
    cases reply : state.reply call with
    | some earlier =>
        rw [reply] at received
        cases received
    | none =>
        simp only [reply] at received
        split at received
        · cases received
        · rename_i ended
          simp [RequestServer.step?, server, waiting, reply,
            CallPhase.phase, ended]
  · cases taken

/-- What a step of the calls and the engine is to the server. -/
theorem server_step
    [LawfulMpsc Channel]
    (linked : state.Linked)
    (coherent :
      Coherent (execute stack) commandCapacity initial state.server)
    {label : TunnelStep Call}
    (taken : state.step? stack label = some next) :
    RequestServer.step? (execute stack) commandCapacity state.server label =
        some next.server ∧
      next.Linked := by
  cases label with
  | call call command =>
      simp only [step?] at taken
      split at taken
      · rename_i idle
        cases taken
        refine ⟨?_, linked.move ?_ ?_⟩
        · rw [server_move]
          simp [RequestServer.step?, server, idle, CallPhase.phase]
        · intro _ _
          exact LawfulOneshot.channel
        · rintro _ ⟨⟩
      · cases taken
  | send call =>
      simp only [step?] at taken
      split at taken
      · rename_i command sending
        split at taken
        · rename_i commands sent
          cases taken
          exact server_send linked sending sent
        · cases taken
      · cases taken
  | refuse call =>
      simp only [step?] at taken
      split at taken
      · rename_i command sending
        split at taken
        · rename_i commands sent
          cases taken
          exact server_refuse linked sending sent
        · cases taken
      · cases taken
  | take =>
      obtain ⟨-, rest⟩ := Option.ite_none_right_eq_some.mp taken
      split at rest
      · rename_i job commands free received
        cases rest
        exact server_take linked free received
      · cases rest
  | serve fuel =>
      simp only [step?] at taken
      split at taken
      · rename_i job current
        split at taken
        · rename_i response engine returned
          cases taken
          exact server_serve linked coherent current returned
        · cases taken
      · cases taken
  | receive call =>
      have isReceived := taken
      simp only [step?] at taken
      split at taken
      · rename_i command waiting
        exact server_receive linked waiting isReceived
      · cases taken
  | abandon call =>
      simp only [step?] at taken
      split at taken
      · rename_i command sending
        cases taken
        refine ⟨?_, linked.moveOver (by simp) (by simp)⟩
        rw [server_move]
        simp [RequestServer.step?, server, sending, CallPhase.phase]
      · rename_i command waiting
        cases taken
        refine ⟨?_, linked.moveOver (by simp) (by simp)⟩
        rw [server_move]
        cases reply : state.reply call <;>
          simp [RequestServer.step?, server, waiting, reply,
            CallPhase.phase]
      · cases taken
  | stop =>
      obtain ⟨running, rest⟩ := Option.ite_none_right_eq_some.mp taken
      cases rest
      exact server_stop linked coherent running

omit [LawfulOneshot Slot] in
/-- The engine can go on while there is a command to execute. -/
theorem exists_work
    [LawfulMpsc Channel]
    (running : state.running = true)
    (total :
      ∀ command engine,
        ∃ fuel response after,
          execute stack fuel command engine = some (response, after))
    (busy : state.pending ≠ []) :
    ∃ label : TunnelStep Call,
      (label = .take ∨ label.serves = true) ∧
        (state.step? stack label).isSome := by
  cases current : state.current with
  | some job =>
      obtain ⟨fuel, response, after, returned⟩ :=
        total job.request state.engine
      refine ⟨.serve fuel, .inr rfl, ?_⟩
      simp [step?, current, returned]
  | none =>
      cases queue : state.commands.queue with
      | nil =>
          exact absurd (by simp [pending, current, queue]) busy
      | cons job rest =>
          refine ⟨.take, .inl rfl, ?_⟩
          have received := (LawfulMpsc.recv_value queue).1
          simp [step?, running, current, Recorded.recv, received]

/-- What a run of the calls and the engine is to the server. -/
theorem server_run
    [LawfulMpsc Channel]
    (linked : state.Linked)
    (coherent :
      Coherent (execute stack) commandCapacity initial state.server)
    {steps : List (TunnelStep Call)}
    (reached : StepSystem.run? (step? stack) state steps = some next) :
    StepSystem.run?
          (RequestServer.step? (execute stack) commandCapacity)
          state.server steps = some next.server ∧
      next.Linked := by
  induction steps generalizing state with
  | nil =>
      cases reached
      exact ⟨rfl, linked⟩
  | cons label rest inductionHypothesis =>
      simp only [StepSystem.run?] at reached ⊢
      split at reached
      · cases reached
      · rename_i between taken
        obtain ⟨served, linkedNext⟩ := server_step linked coherent taken
        rw [served]
        exact inductionHypothesis linkedNext (coherent.step served) reached

end TunnelCalls

end Waker
