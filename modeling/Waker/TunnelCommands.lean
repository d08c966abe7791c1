import Waker.EngineTermination
import Waker.TunnelCalls

namespace Waker

open FifoChannel OneshotChannel PollingLoop RequestServer

/-!
# The commands of a tunnel

Whatever its calls do, the engine executes their commands one after the other in
the order in which they were sent, and every call gets the reply to its own
command in its turn, or learns that the engine has ended.
-/

section Fuel

variable [Smoltcp]
variable {World Tcp Icmp : Type}
variable {stack : SmolStack World Tcp Icmp}
variable {fuel more : Nat}

/-- More fuel does not change what is received. -/
theorem receiveAll_mono
    (enough : fuel ≤ more)
    {response : List UInt8}
    {socket : Tcp}
    {result : Except NetError (List UInt8) × Tcp}
    (returned : receiveAll stack fuel response socket = some result) :
    receiveAll stack more response socket = some result := by
  rw [receiveAll_eq_loop] at returned ⊢
  refine loop_mono ?_ enough returned
  intro fuel more entry outcome less ends
  exact ends

/-- More fuel does not change which packet is taken. -/
theorem receiveReply_mono
    (enough : fuel ≤ more)
    {target : Ipv4Addr}
    {socket : Icmp}
    {result : Except NetError Bool × Icmp}
    (returned : receiveReply stack target fuel socket = some result) :
    receiveReply stack target more socket = some result := by
  rw [receiveReply_eq_loop] at returned ⊢
  refine loop_mono ?_ enough returned
  intro fuel more entry outcome less ends
  exact ends

/-- More fuel does not change an iteration of an HTTP exchange. -/
theorem httpBody_mono
    {handle : Nat}
    {target : SocketAddrV4}
    {request : List UInt8}
    {deadline : Instant}
    (enough : fuel ≤ more)
    {entry : HttpEntry World Tcp Icmp}
    {outcome :
      Outcome (HttpEntry World Tcp Icmp)
        (Except NetError (List UInt8) × EngineState World Tcp Icmp)}
    (ends :
      httpBody stack handle target request deadline fuel entry =
        some outcome) :
    httpBody stack handle target request deadline more entry =
      some outcome := by
  simp only [httpBody] at ends ⊢
  split at ends
  · cases ends
  · split at ends
    · exact ends
    · obtain ⟨result, received, exits⟩ := Option.map_eq_some_iff.mp ends
      exact Option.map_eq_some_iff.mpr
        ⟨result, receiveAll_mono enough received, exits⟩

/-- More fuel does not change an iteration of a ping. -/
theorem pingBody_mono
    {handle : Nat}
    {target : Ipv4Addr}
    {deadline : Instant}
    (enough : fuel ≤ more)
    {state : EngineState World Tcp Icmp}
    {outcome :
      Outcome (EngineState World Tcp Icmp)
        (Except NetError Bool × EngineState World Tcp Icmp)}
    (ends :
      pingBody stack handle target deadline fuel state = some outcome) :
    pingBody stack handle target deadline more state = some outcome := by
  simp only [pingBody] at ends ⊢
  split at ends
  · cases ends
  · obtain ⟨result, taken, exits⟩ := Option.map_eq_some_iff.mp ends
    exact Option.map_eq_some_iff.mpr
      ⟨result, receiveReply_mono enough taken, exits⟩

/-- More fuel does not change what a command returns. -/
theorem execute_mono
    (enough : fuel ≤ more)
    {command : NetCommand}
    {state : EngineState World Tcp Icmp}
    {outcome : NetResponse × EngineState World Tcp Icmp}
    (returned : execute stack fuel command state = some outcome) :
    execute stack more command state = some outcome := by
  cases command with
  | http target request timeout =>
      obtain ⟨result, ran, same⟩ := Option.map_eq_some_iff.mp returned
      refine Option.map_eq_some_iff.mpr ⟨result, ?_, same⟩
      rw [http] at ran ⊢
      split at ran
      · exact ran
      · rw [httpLoop_eq_loop] at ran ⊢
        refine loop_mono ?_ enough ran
        intro fuel more entry outcome less ends
        exact httpBody_mono less ends
  | probe target timeout =>
      obtain ⟨result, ran, same⟩ := Option.map_eq_some_iff.mp returned
      refine Option.map_eq_some_iff.mpr ⟨result, ?_, same⟩
      rw [probe] at ran ⊢
      split at ran
      · exact ran
      · rw [connectLoop_eq_loop] at ran ⊢
        refine loop_mono ?_ enough ran
        intro fuel more entry outcome less ends
        exact ends
  | ping target timeout =>
      obtain ⟨result, ran, same⟩ := Option.map_eq_some_iff.mp returned
      refine Option.map_eq_some_iff.mpr ⟨result, ?_, same⟩
      simp only [ping] at ran ⊢
      split at ran
      · exact ran
      · split at ran
        · exact ran
        · rw [pingLoop_eq_loop] at ran ⊢
          refine loop_mono ?_ enough ran
          intro fuel more entry outcome less ends
          exact pingBody_mono less ends

/-- More fuel does not change what a list of commands returns. -/
theorem run_mono
    (enough : fuel ≤ more)
    {commands : List NetCommand}
    {state : EngineState World Tcp Icmp}
    {outcomes : List (NetResponse × EngineState World Tcp Icmp)}
    (returned : run stack fuel commands state = some outcomes) :
    run stack more commands state = some outcomes := by
  induction commands generalizing state outcomes with
  | nil =>
      exact returned
  | cons command rest inductionHypothesis =>
      rw [run] at returned ⊢
      split at returned
      · cases returned
      · rename_i ran
        obtain ⟨later, runs, same⟩ := Option.map_eq_some_iff.mp returned
        rw [execute_mono enough ran]
        exact Option.map_eq_some_iff.mpr
          ⟨later, inductionHypothesis runs, same⟩

end Fuel

/-- The reply has the type that the command's sender expects. -/
def NetResponse.Fits : NetCommand → NetResponse → Prop
  | .http _ _ _, .http _ => True
  | .probe _ _, .probe _ => True
  | .ping _ _, .ping _ => True
  | _, _ => False

namespace TunnelCall

/-- What a call returns once it has sent its command and waited. -/
def outcome (command : NetCommand) : Answer NetResponse → NetResponse
  | .replied response => response
  | .stopped => command.refusal .workerStopped

/-- Send one HTTP request. -/
def http
    (target : SocketAddrV4)
    (request : List UInt8)
    (timeout : Duration) : Answer NetResponse → NetResponse :=
  outcome (.http target request timeout)

/-- Send one echo request. -/
def ping
    (target : Ipv4Addr)
    (timeout : Duration) : Answer NetResponse → NetResponse :=
  outcome (.ping target timeout)

/-- Attempt one TCP connection. -/
def probe
    (target : SocketAddrV4)
    (timeout : Duration) : Answer NetResponse → NetResponse :=
  outcome (.probe target timeout)

end TunnelCall

/--
What every call of a tunnel can rely on: the commands of all calls are executed
one after the other in the order in which the channel took them, each once, and
a call returns the reply to its own command or learns that the engine ended.
-/
structure CallsServed
    {Channel Slot : Type → Type}
    [Smoltcp]
    {Call World Tcp Icmp : Type}
    [Mpsc Channel] [Oneshot Slot]
    (stack : SmolStack World Tcp Icmp)
    (initial : EngineState World Tcp Icmp)
    (state : TunnelCalls Channel Slot Call World Tcp Icmp) : Prop where
  ordered :
    state.executed.map RequestServer.Served.job <+: state.commands.accepted
  once : (state.commands.accepted.map Job.call).Nodup
  bounded : state.commands.queue.length ≤ commandCapacity
  sequential :
    ∃ fuel outcomes,
      run stack fuel
          (state.executed.map fun entry => entry.job.request) initial =
        some outcomes ∧
      outcomes.map Prod.fst =
        state.executed.map RequestServer.Served.reply ∧
      (outcomes.getLast?.map Prod.snd).getD initial = state.engine
  replied :
    ∀ call command response,
      state.phase call = .returned command (.replied response) →
      ⟨⟨call, command⟩, response⟩ ∈ state.executed
  workerStopped :
    ∀ call command,
      state.phase call = .returned command .stopped →
      state.running = false ∧
        ∀ entry, entry ∈ state.executed → entry.job.call ≠ call
  typed :
    ∀ call command answer,
      state.phase call = .returned command answer →
      (TunnelCall.outcome command answer).Fits command
  attended :
    state.running = true →
    ∀ call command,
      state.phase call = .waiting command →
      state.reply call = none →
      ⟨call, command⟩ ∈ state.pending

section Calls

variable [Smoltcp]
variable {Call World Tcp Icmp : Type}
variable {stack : SmolStack World Tcp Icmp}
variable {initial : EngineState World Tcp Icmp}

/-- A command is answered by a reply of its own type. -/
theorem fits_of_execute
    {fuel : Nat}
    {command : NetCommand}
    {state after : EngineState World Tcp Icmp}
    {response : NetResponse}
    (returned : execute stack fuel command state = some (response, after)) :
    response.Fits command := by
  cases command with
  | http target request timeout =>
      obtain ⟨result, _, same⟩ := Option.map_eq_some_iff.mp returned
      cases same
      trivial
  | probe target timeout =>
      obtain ⟨result, _, same⟩ := Option.map_eq_some_iff.mp returned
      cases same
      trivial
  | ping target timeout =>
      obtain ⟨result, _, same⟩ := Option.map_eq_some_iff.mp returned
      cases same
      trivial

/-- Every reply that was given fits its command. -/
theorem fits_of_served
    {served : List (RequestServer.Served Call NetCommand NetResponse)}
    {after : EngineState World Tcp Icmp}
    (computed : ServedFrom (execute stack) initial served after)
    (entry : RequestServer.Served Call NetCommand NetResponse)
    (member : entry ∈ served) :
    entry.reply.Fits entry.job.request := by
  induction computed with
  | nil =>
      cases member
  | concat _ fuel serves inductionHypothesis =>
      rcases List.mem_append.mp member with before | last
      · exact inductionHypothesis before
      · rw [List.mem_singleton.mp last]
        exact fits_of_execute serves

/-- One command more is executed after the others. -/
theorem run_concat
    {fuel : Nat}
    {commands : List NetCommand}
    {command : NetCommand}
    {state after : EngineState World Tcp Icmp}
    {response : NetResponse}
    {outcomes : List (NetResponse × EngineState World Tcp Icmp)}
    (earlier : run stack fuel commands state = some outcomes)
    (last :
      execute stack fuel command
          ((outcomes.getLast?.map Prod.snd).getD state) =
        some (response, after)) :
    run stack fuel (commands ++ [command]) state =
      some (outcomes ++ [(response, after)]) := by
  induction commands generalizing state outcomes with
  | nil =>
      cases earlier
      simp only [List.getLast?_nil, Option.map_none, Option.getD_none] at last
      simp [run, last]
  | cons first rest inductionHypothesis =>
      rw [run] at earlier
      split at earlier
      · cases earlier
      · rename_i reply next ran
        obtain ⟨later, runs, rfl⟩ := Option.map_eq_some_iff.mp earlier
        rw [List.cons_append, run, ran]
        have fromNext :
            (((reply, next) :: later).getLast?.map Prod.snd).getD state =
              (later.getLast?.map Prod.snd).getD next := by
          rw [List.getLast?_cons]
          cases later.getLast? <;> rfl
        rw [fromNext] at last
        simp [inductionHypothesis runs last]

/-- The engine executes the served commands one after the other. -/
theorem run_of_served
    {served : List (RequestServer.Served Call NetCommand NetResponse)}
    {after : EngineState World Tcp Icmp}
    (computed : ServedFrom (execute stack) initial served after) :
    ∃ fuel outcomes,
      run stack fuel (served.map fun entry => entry.job.request) initial =
        some outcomes ∧
      outcomes.map Prod.fst = served.map RequestServer.Served.reply ∧
      (outcomes.getLast?.map Prod.snd).getD initial = after := by
  induction computed with
  | nil =>
      exact ⟨0, [], rfl, rfl, rfl⟩
  | @concat served between after job reply _ fuel serves
      inductionHypothesis =>
      obtain ⟨before, outcomes, ran, replies, same⟩ := inductionHypothesis
      refine ⟨max before fuel, outcomes ++ [(reply, after)], ?_, ?_, ?_⟩
      · rw [List.map_append]
        refine run_concat (run_mono (Nat.le_max_left ..) ran) ?_
        rw [same]
        exact execute_mono (Nat.le_max_right ..) serves
      · simp [replies]
      · simp

variable {Channel Slot : Type → Type}
variable [Mpsc Channel] [Oneshot Slot]

/-- The calls of a server whose record is in order are served. -/
theorem callsServed_of_coherent
    {state : TunnelCalls Channel Slot Call World Tcp Icmp}
    (coherent :
      Coherent (execute stack) commandCapacity initial state.server) :
    CallsServed stack initial state where
  ordered := (List.prefix_append _ _).trans coherent.ordered
  once := coherent.once
  bounded := coherent.bounded
  sequential := run_of_served coherent.computed
  replied := fun call command response returned => by
    have agrees := coherent.phases call
    simp only [TunnelCalls.server, returned, CallPhase.phase, Agrees]
      at agrees
    exact agrees
  workerStopped := fun call command returned => by
    have agrees := coherent.phases call
    simp only [TunnelCalls.server, returned, CallPhase.phase, Agrees]
      at agrees
    exact agrees
  typed := fun call command answer returned => by
    have agrees := coherent.phases call
    cases answer with
    | replied response =>
        simp only [TunnelCalls.server, returned, CallPhase.phase, Agrees]
          at agrees
        exact fits_of_served coherent.computed _ agrees
    | stopped =>
        cases command <;> trivial
  attended := fun running call command waiting unanswered => by
    have place : state.server.phase call = .waiting command := by
      simp [TunnelCalls.server, waiting, unanswered, CallPhase.phase]
    obtain ⟨ahead, behind, isPending, -⟩ :=
      coherent.exists_ahead running place
    have member : ⟨call, command⟩ ∈ state.server.pending := by
      rw [isPending]
      exact List.mem_append_right _ List.mem_cons_self
    exact member

namespace TunnelCalls

/-- The reply to its command is there for a call, unless it was abandoned. -/
def Has
    (state : TunnelCalls Channel Slot Call World Tcp Icmp)
    (call : Call)
    (command : NetCommand)
    (response : NetResponse) : Prop :=
  (state.phase call = .waiting command ∧ state.reply call = some response) ∨
    state.phase call = .returned command (.replied response) ∨
    state.phase call = .abandoned

end TunnelCalls

/-- A call that the server has answered has its reply. -/
theorem has_of_server
    {state : TunnelCalls Channel Slot Call World Tcp Icmp}
    {call : Call}
    {command : NetCommand}
    {response : NetResponse}
    (has : (state.server.phase call).Has command response) :
    state.Has call command response := by
  cases place : state.phase call with
  | waiting own =>
      cases reply : state.reply call with
      | none =>
          simp [TunnelCalls.server, place, reply, CallPhase.phase, Phase.Has]
            at has
      | some earlier =>
          simp only [TunnelCalls.server, place, reply, CallPhase.phase,
            Phase.Has] at has
          obtain ⟨rfl, rfl⟩ := has
          exact .inl ⟨place, reply⟩
  | returned own answer =>
      cases answer with
      | replied earlier =>
          simp only [TunnelCalls.server, place, CallPhase.phase, Phase.Has]
            at has
          obtain ⟨rfl, rfl⟩ := has
          exact .inr (.inl place)
      | stopped =>
          simp [TunnelCalls.server, place, CallPhase.phase, Phase.Has] at has
  | abandoned =>
      exact .inr (.inr place)
  | _ =>
      simp [TunnelCalls.server, place, CallPhase.phase, Phase.Has] at has

variable [DecidableEq Call]
variable [LawfulMpsc Channel] [LawfulOneshot Slot]

/--
Whatever the calls do and whenever the engine ends, every call of a tunnel can
rely on this.
-/
theorem calls_served
    (stack : SmolStack World Tcp Icmp)
    (initial : EngineState World Tcp Icmp)
    (steps : List (TunnelStep Call)) :
    StepSystem.Always (TunnelCalls.step? stack) (CallsServed stack initial)
      (.start initial : TunnelCalls Channel Slot Call World Tcp Icmp)
      steps := by
  refine @StepSystem.always_of_invariant _ _ _
    (fun state =>
      state.Linked ∧
        Coherent (execute stack) commandCapacity initial state.server)
    _ _ ?_ ?_ ?_ steps
  · rintro state label next ⟨linked, coherent⟩ taken
    obtain ⟨served, linkedNext⟩ :=
      TunnelCalls.server_step linked coherent taken
    exact ⟨linkedNext, coherent.step served⟩
  · rintro state ⟨-, coherent⟩
    exact callsServed_of_coherent coherent
  · exact ⟨TunnelCalls.linked_start, TunnelCalls.coherent_server_start⟩

end Calls

/-- An engine that ends after the first of two pings has answered only that. -/
theorem calls_served_stopped :
    ∃ final :
        TunnelCalls FifoChannel.Contents OneshotChannel.Contents Nat
          ScriptedWorld Connection Scripted.EchoSlot,
      StepSystem.run? (TunnelCalls.step? Scripted.stack)
          (.start (Scripted.start []))
          [.call 0 (.ping Scripted.pingedHost 0), .send 0,
            .call 1 (.ping Scripted.pingedHost 0), .send 1,
            .take, .serve 2, .take, .stop, .receive 0, .receive 1] =
        some final ∧
      final.executed.map (fun entry => entry.job.call) = [0] ∧
      final.phase 1 =
        .returned (.ping Scripted.pingedHost 0) .stopped ∧
      CallsServed Scripted.stack (Scripted.start []) final := by
  have reached :
      StepSystem.run? (TunnelCalls.step? Scripted.stack)
          (.start (Scripted.start []) :
            TunnelCalls FifoChannel.Contents OneshotChannel.Contents Nat
              ScriptedWorld Connection Scripted.EchoSlot)
          [.call 0 (.ping Scripted.pingedHost 0), .send 0,
            .call 1 (.ping Scripted.pingedHost 0), .send 1,
            .take, .serve 2, .take, .stop, .receive 0, .receive 1] =
        some _ :=
    rfl
  exact ⟨_, reached, rfl, rfl, (calls_served _ _ _).last reached⟩

section Turns

variable [Smoltcp]
variable {Call World Tcp Icmp : Type}
variable {stack : SmolStack World Tcp Icmp}
variable {initial : EngineState World Tcp Icmp}
variable {Channel Slot : Type → Type}
variable [Mpsc Channel] [Oneshot Slot]
variable [DecidableEq Call]

/--
What a call that waits for its reply can rely on as long as the engine has not
ended: no more commands than fit into the channel are ahead of it, the engine
can go on as long as it waits, and it has its reply once these commands and its
own are executed, after no more time than they may take.
-/
structure AnsweredInTurn
    (stack : SmolStack World Tcp Icmp)
    (longest : NetCommand → Duration)
    (call : Call)
    (command : NetCommand)
    (state : TunnelCalls Channel Slot Call World Tcp Icmp)
    (later : List (TunnelStep Call))
    (final : TunnelCalls Channel Slot Call World Tcp Icmp)
    (ahead : List NetCommand) : Prop where
  place :
    ∃ behind,
      state.pending.map Job.request = ahead ++ command :: behind
  few : ahead.length ≤ commandCapacity
  goesOn :
    final.phase call = .waiting command →
    final.reply call = none →
    ∃ label : TunnelStep Call,
      (label = .take ∨ label.serves = true) ∧
        (final.step? stack label).isSome
  inTurn :
    ahead.length < later.countP Step.serves →
    ∃ fuel earlier response after,
      final.Has call command response ∧
        run stack fuel (ahead ++ [command]) state.engine =
          some (earlier ++ [(response, after)]) ∧
        stack.now after.world ≤
          stack.now state.engine.world +
            ((ahead ++ [command]).map longest).sum

variable {bytes : Tcp → Nat}
variable {packets : Icmp → Nat}
variable {opening pausing polling : Duration}

/-- The longest that the engine takes for a command. -/
def NetCommand.longest
    (opening pausing polling : Duration)
    (command : NetCommand) : Duration :=
  opening + command.timeout + (pausing + 2 * polling)

/-- However a command is executed, it ends in time. -/
theorem now_le_of_execute
    [LawfulSmoltcp]
    (drains : stack.Drains bytes packets)
    (passes : stack.TimePasses)
    (bounded : stack.PaceBounded opening pausing polling)
    {fuel : Nat}
    {command : NetCommand}
    {state after : EngineState World Tcp Icmp}
    {response : NetResponse}
    (returned : execute stack fuel command state = some (response, after)) :
    stack.now after.world ≤
      stack.now state.world +
        command.longest opening pausing polling := by
  obtain ⟨outcome, finishes⟩ := exists_finishes drains passes command state
  obtain ⟨enough, ends⟩ := finishes.returns
  have same :=
    (execute_mono (Nat.le_max_right enough fuel) returned).symm.trans
      (ends _ (Nat.le_max_left enough fuel))
  cases same
  have soon := finishes.soon opening pausing polling bounded
  rw [Nat.add_assoc, Nat.add_assoc] at soon
  rw [NetCommand.longest, Nat.add_assoc opening]
  exact soon

/--
From every state that a tunnel can reach, a call that waits is answered in its
turn while the engine runs, whatever the other calls do.
-/
theorem waitingCall_answered
    [LawfulSmoltcp]
    [LawfulMpsc Channel] [LawfulOneshot Slot]
    (drains : stack.Drains bytes packets)
    (passes : stack.TimePasses)
    (bounded : stack.PaceBounded opening pausing polling)
    {before later : List (TunnelStep Call)}
    {state final : TunnelCalls Channel Slot Call World Tcp Icmp}
    {call : Call}
    {command : NetCommand}
    (reached :
      StepSystem.run? (TunnelCalls.step? stack) (.start initial) before =
        some state)
    (waiting : state.phase call = .waiting command)
    (unanswered : state.reply call = none)
    (continued :
      StepSystem.run? (TunnelCalls.step? stack) state later = some final)
    (running : final.running = true) :
    ∃ ahead,
      AnsweredInTurn stack (NetCommand.longest opening pausing polling) call
        command state later final ahead := by
  have coherentStart :
      Coherent (execute stack) commandCapacity initial
        (.start initial :
          TunnelCalls Channel Slot Call World Tcp Icmp).server :=
    TunnelCalls.coherent_server_start
  obtain ⟨served, linked⟩ :=
    TunnelCalls.server_run TunnelCalls.linked_start coherentStart reached
  have coherent := coherentStart.run served
  obtain ⟨servedLater, -⟩ :=
    TunnelCalls.server_run linked coherent continued
  have coherentFinal := coherent.run servedLater
  have was : state.running = true :=
    (extends_of_run servedLater).running running
  have place : state.server.phase call = .waiting command := by
    simp [TunnelCalls.server, waiting, unanswered, CallPhase.phase]
  obtain ⟨ahead, behind, queued, few⟩ := coherent.exists_ahead was place
  have isPending : state.pending = ahead ++ ⟨call, command⟩ :: behind := queued
  refine ⟨ahead.map Job.request, {
    place := ⟨behind.map Job.request, by rw [isPending]; simp⟩
    few := by rw [List.length_map]; exact few
    goesOn := ?_
    inTurn := ?_
  }⟩
  · intro still lacking
    refine TunnelCalls.exists_work running ?_ ?_
    · intro command engine
      obtain ⟨⟨response, after⟩, finishes⟩ :=
        exists_finishes drains passes command engine
      obtain ⟨enough, ends⟩ := finishes.returns
      exact ⟨enough, response, after, ends enough (Nat.le_refl _)⟩
    · have member :=
        (callsServed_of_coherent coherentFinal).attended running call command
          still lacking
      exact List.ne_nil_of_mem member
  · intro turn
    rw [List.length_map] at turn
    obtain ⟨earlier, response, after, jobs, computed, has⟩ :=
      coherent.answered_in_turn place queued servedLater running turn
    let own : RequestServer.Served Call NetCommand NetResponse :=
      ⟨⟨call, command⟩, response⟩
    have commands :
        ((earlier ++ [own]).map fun entry => entry.job.request) =
          ahead.map Job.request ++ [command] := by
      rw [← jobs]
      simp [own]
    obtain ⟨fuel, outcomes, ran, replies, same⟩ := run_of_served computed
    rw [List.map_append] at replies
    obtain ⟨front, tail, rfl, -, isLast⟩ :=
      List.map_eq_append_iff.mp replies
    obtain ⟨last, rfl, rfl⟩ := List.map_eq_singleton_iff.mp isLast
    obtain ⟨lastResponse, lastState⟩ := last
    have ended : lastState = after := by simpa using same
    subst ended
    have soon :=
      computed.clock_le
        (fun _ _ _ _ _ returned =>
          now_le_of_execute drains passes bounded returned)
    refine ⟨fuel, front, _, _, has_of_server has, commands ▸ ran, ?_⟩
    rw [← commands, List.map_map]
    exact soon

end Turns

/-- Behind another ping, a call is answered by the second service. -/
theorem waitingCall_answered_scripted :
    ∃ state final :
        TunnelCalls FifoChannel.Contents OneshotChannel.Contents Nat
          ScriptedWorld Connection Scripted.EchoSlot,
      StepSystem.run? (TunnelCalls.step? Scripted.stack) state
          [.take, .serve 8, .take, .serve 8] = some final ∧
        AnsweredInTurn Scripted.stack (NetCommand.longest 0 pollPause 0) 1
          (.ping Scripted.pingedHost 1) state
          [.take, .serve 8, .take, .serve 8] final
          [.ping Scripted.pingedHost 0] := by
  let start :
      TunnelCalls FifoChannel.Contents OneshotChannel.Contents Nat
        ScriptedWorld Connection Scripted.EchoSlot :=
    .start (Scripted.start [])
  let calls : List (TunnelStep Nat) :=
    [.call 0 (.ping Scripted.pingedHost 0), .send 0,
      .call 1 (.ping Scripted.pingedHost 1), .send 1]
  let state :=
    (StepSystem.run? (TunnelCalls.step? Scripted.stack) start calls).get rfl
  have executes :
      (StepSystem.run? (TunnelCalls.step? Scripted.stack) state
        [.take, .serve 8, .take, .serve 8]).map TunnelCalls.running =
        some true := by
    decide +kernel
  obtain ⟨final, continued, running⟩ := Option.map_eq_some_iff.mp executes
  have reached :
      StepSystem.run? (TunnelCalls.step? Scripted.stack) start calls =
        some state :=
    rfl
  have waiting : state.phase 1 = .waiting (.ping Scripted.pingedHost 1) :=
    rfl
  have unanswered : state.reply 1 = none :=
    rfl
  obtain ⟨ahead, inTurn⟩ :=
    waitingCall_answered Scripted.drains Scripted.timePasses
      Scripted.paceBounded reached waiting unanswered continued running
  refine ⟨state, final, continued, ?_⟩
  obtain ⟨behind, place⟩ := inTurn.place
  have queued :
      ahead ++ .ping Scripted.pingedHost 1 :: behind =
        [.ping Scripted.pingedHost 0, .ping Scripted.pingedHost 1] :=
    place.symm
  have only : ahead = [.ping Scripted.pingedHost 0] := by
    rcases ahead with _ | ⟨first, _ | ⟨second, rest⟩⟩
    · simp at queued
    · rw [(List.cons.inj queued).1]
    · simp at queued
  exact only ▸ inTurn

end Waker
