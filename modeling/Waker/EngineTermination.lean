import Waker.EngineLoops
import Waker.ScriptedNetwork

namespace Waker

open PollingLoop

/-!
# Every command ends

A command opens its socket and runs one of the loops of the engine.  It returns
after a number of iterations that its timeout alone determines, so that the
commands queued behind it are executed as well.
-/

section Commands

variable [Smoltcp]
variable {World Tcp Icmp : Type}

namespace NetCommand

/-- The timeout of a command. -/
def timeout : NetCommand → Duration
  | .http _ _ timeout | .probe _ timeout | .ping _ timeout => timeout

/-- The kind of the socket that a command adds. -/
def socketKind : NetCommand → SocketKind
  | .http _ _ _ | .probe _ _ => .tcp
  | .ping _ _ => .icmp

/-- The answer of a command whose socket cannot be opened. -/
def refusal (error : NetError) : NetCommand → NetResponse
  | .http _ _ _ => .http (.error error)
  | .probe _ _ => .probe (.error error)
  | .ping _ _ => .ping (.error error)

/-- One iteration for each started pause of the timeout, and one more. -/
def iterationLimit (command : NetCommand) : Nat :=
  (command.timeout + pollPause - 1) / pollPause + 1

end NetCommand

/-- What a ping does before its deadline is set. -/
def openPing
    (stack : SmolStack World Tcp Icmp)
    (target : Ipv4Addr)
    (state : EngineState World Tcp Icmp) :
    Except NetError Nat × EngineState World Tcp Icmp :=
  match stack.icmpBind (stack.icmpNew 1 64 1 64) ICMP_IDENT with
  | .error error => (.error (.network ("ICMP bind failed: " ++ error)), state)
  | .ok socket =>
      let bytes :=
        stack.icmpEmit (.echoRequest ICMP_IDENT ICMP_SEQUENCE ICMP_PAYLOAD)
      match stack.icmpSend socket bytes (.ipv4 target) with
      | .error error =>
          (.error (.network ("ICMP send failed: " ++ error)), state)
      | .ok socket =>
          let added := SlotMaps.add state.engine.sockets (.icmp socket)
          (.ok added.1,
            { state with
              engine := { state.engine with sockets := added.2 } })

/-- What a command does before its deadline is set. -/
def openCommand
    (stack : SmolStack World Tcp Icmp) :
    NetCommand → EngineState World Tcp Icmp →
    Except NetError Nat × EngineState World Tcp Icmp
  | .http target _ _ => openSocket stack target
  | .probe target _ => openSocket stack target
  | .ping target _ => openPing stack target

/-- The loop of a command ends after some iterations. -/
inductive CommandIterates
    (stack : SmolStack World Tcp Icmp)
    (handle : Nat)
    (entry : EngineState World Tcp Icmp) :
    NetCommand → Nat → NetResponse × EngineState World Tcp Icmp → Prop where
  | http
      {target : SocketAddrV4}
      {request : List UInt8}
      {timeout : Duration}
      {iterations : Nat}
      {result : Except NetError (List UInt8)}
      {after : EngineState World Tcp Icmp}
      (iterates :
        Iterates
          (httpBody stack handle target request
            (stack.now entry.world + timeout))
          (HttpEntry.sleep stack) iterations ⟨false, [], entry⟩
          (result, after)) :
      CommandIterates stack handle entry (.http target request timeout)
        iterations (.http result, after)
  | probe
      {target : SocketAddrV4}
      {timeout : Duration}
      {iterations : Nat}
      {result : Except NetError Bool}
      {after : EngineState World Tcp Icmp}
      (iterates :
        Iterates
          (fun _ =>
            connectBody stack handle (stack.now entry.world + timeout))
          (EngineState.sleep stack) iterations entry (result, after)) :
      CommandIterates stack handle entry (.probe target timeout) iterations
        (.probe result, after)
  | ping
      {target : Ipv4Addr}
      {timeout : Duration}
      {iterations : Nat}
      {result : Except NetError Bool}
      {after : EngineState World Tcp Icmp}
      (iterates :
        Iterates
          (pingBody stack handle target (stack.now entry.world + timeout))
          (EngineState.sleep stack) iterations entry (result, after)) :
      CommandIterates stack handle entry (.ping target timeout) iterations
        (.ping result, after)

/-- A command returns after some iterations of its loop, if it gets there. -/
inductive Runs
    (stack : SmolStack World Tcp Icmp)
    (command : NetCommand)
    (state : EngineState World Tcp Icmp) :
    Nat → NetResponse × EngineState World Tcp Icmp → Prop where
  | refused
      {error : NetError}
      {after : EngineState World Tcp Icmp}
      (failed : openCommand stack command state = (.error error, after)) :
      Runs stack command state 0 (command.refusal error, after)
  | looped
      {handle : Nat}
      {entry : EngineState World Tcp Icmp}
      {iterations : Nat}
      {outcome : NetResponse × EngineState World Tcp Icmp}
      (opened : openCommand stack command state = (.ok handle, entry))
      (iterates :
        CommandIterates stack handle entry command iterations outcome) :
      Runs stack command state iterations outcome

/--
A command returns after so many iterations as its timeout allows, and in time
for the next one.
-/
structure Finishes
    (stack : SmolStack World Tcp Icmp)
    (command : NetCommand)
    (state : EngineState World Tcp Icmp)
    (outcome : NetResponse × EngineState World Tcp Icmp) : Prop where
  returns :
    ∃ enough, ∀ fuel,
      enough ≤ fuel →
      execute stack fuel command state = some outcome
  few :
    ∃ iterations,
      Runs stack command state iterations outcome ∧
        iterations ≤ command.iterationLimit
  soon :
    ∀ opening pausing polling,
      stack.PaceBounded opening pausing polling →
      stack.now outcome.2.world ≤
        stack.now state.world + opening + command.timeout +
          (pausing + 2 * polling)

/-- The commands of a queue finish, each from where the one before left off. -/
inductive Served
    (stack : SmolStack World Tcp Icmp) :
    List NetCommand → EngineState World Tcp Icmp →
    List (NetResponse × EngineState World Tcp Icmp) → Prop where
  | nil (state : EngineState World Tcp Icmp) : Served stack [] state []
  | cons
      {command : NetCommand}
      {rest : List NetCommand}
      {state after : EngineState World Tcp Icmp}
      {response : NetResponse}
      {outcomes : List (NetResponse × EngineState World Tcp Icmp)}
      (finishes : Finishes stack command state (response, after))
      (later : Served stack rest after outcomes) :
      Served stack (command :: rest) state ((response, after) :: outcomes)

variable {stack : SmolStack World Tcp Icmp}
variable {command : NetCommand}
variable {state : EngineState World Tcp Icmp}

/-- A command that cannot open its socket is answered at once. -/
theorem execute_refused
    {error : NetError}
    {after : EngineState World Tcp Icmp}
    (failed : openCommand stack command state = (.error error, after))
    (fuel : Nat) :
    execute stack fuel command state =
      some (command.refusal error, after) := by
  cases command with
  | http target request timeout =>
      simp only [openCommand] at failed
      simp [execute, http, failed, NetCommand.refusal]
  | probe target timeout =>
      simp only [openCommand] at failed
      simp [execute, probe, failed, NetCommand.refusal]
  | ping target timeout =>
      simp only [openCommand, openPing] at failed
      split at failed
      · rename_i bound
        cases failed
        simp only [execute, ping, bound]
        rfl
      · rename_i socket bound
        split at failed
        · rename_i sent
          cases failed
          simp only [execute, ping, bound, sent]
          rfl
        · cases failed

/-- A ping that has opened its socket continues with its loop. -/
theorem ping_opened
    {target : Ipv4Addr}
    {handle : Nat}
    {entry : EngineState World Tcp Icmp}
    (opened : openPing stack target state = (.ok handle, entry))
    (fuel : Nat)
    (timeout : Duration) :
    ping stack fuel target timeout state =
      pingLoop stack handle target (stack.now entry.world + timeout) fuel
        entry := by
  simp only [openPing] at opened
  split at opened
  · cases opened
  · rename_i socket bound
    split at opened
    · cases opened
    · rename_i sent sends
      cases opened
      simp [ping, bound, sends]

/-- The iterations of a command are those of its execution. -/
theorem Runs.executes
    {iterations : Nat}
    {outcome : NetResponse × EngineState World Tcp Icmp}
    (runs : Runs stack command state iterations outcome) :
    ∃ enough, ∀ fuel,
      enough ≤ fuel →
      execute stack fuel command state = some outcome := by
  cases runs with
  | refused failed =>
      exact ⟨0, fun fuel _ => execute_refused failed fuel⟩
  | looped opened iterates =>
      cases iterates with
      | http iterates =>
          obtain ⟨enough, returns⟩ := iterates.returns
          refine ⟨enough, fun fuel more => ?_⟩
          simp only [openCommand] at opened
          simp only [execute, http, opened, httpLoop_eq_loop,
            returns fuel more, Option.map_some]
      | probe iterates =>
          obtain ⟨enough, returns⟩ := iterates.returns
          refine ⟨enough, fun fuel more => ?_⟩
          simp only [openCommand] at opened
          simp only [execute, probe, opened, connectLoop_eq_loop,
            returns fuel more, Option.map_some]
      | ping iterates =>
          obtain ⟨enough, returns⟩ := iterates.returns
          refine ⟨enough, fun fuel more => ?_⟩
          simp only [openCommand] at opened
          simp only [execute, ping_opened opened, pingLoop_eq_loop,
            returns fuel more, Option.map_some]

/-- A command that has opened its socket finds it in the set. -/
theorem openCommand_holds
    [LawfulSmoltcp]
    {handle : Nat}
    {entry : EngineState World Tcp Icmp}
    (opened : openCommand stack command state = (.ok handle, entry)) :
    entry.Holds command.socketKind handle := by
  have openedTcp
      {target : SocketAddrV4}
      (opened : openSocket stack target state = (.ok handle, entry)) :
      entry.Holds .tcp handle := by
    simp only [openSocket] at opened
    split at opened
    · cases opened
    · cases opened
      exact congrArg (Option.map Socket.kind)
        (LawfulSlotMaps.get?_put
          (LawfulSlotMaps.get?_add state.engine.sockets _) _)
  cases command with
  | http target request timeout =>
      exact openedTcp opened
  | probe target timeout =>
      exact openedTcp opened
  | ping target timeout =>
      simp only [openCommand, openPing] at opened
      split at opened
      · cases opened
      · split at opened
        · cases opened
        · cases opened
          exact EngineState.holds_of_getIcmp? (getIcmp?_add _ _)

/-- Opening the socket of a command takes no longer than a connect. -/
theorem openCommand_now_le
    {result : Except NetError Nat}
    {entry : EngineState World Tcp Icmp}
    (opened : openCommand stack command state = (result, entry))
    {opening pausing polling : Duration}
    (bounded : stack.PaceBounded opening pausing polling) :
    stack.now entry.world ≤ stack.now state.world + opening := by
  have openedTcp
      {target : SocketAddrV4}
      (opened : openSocket stack target state = (result, entry)) :
      stack.now entry.world ≤ stack.now state.world + opening := by
    simp only [openSocket] at opened
    split at opened <;>
      cases opened <;>
      exact bounded.connect _ _ _ _ _
  cases command with
  | http target request timeout =>
      exact openedTcp opened
  | probe target timeout =>
      exact openedTcp opened
  | ping target timeout =>
      simp only [openCommand, openPing] at opened
      split at opened
      · cases opened
        exact Nat.le_add_right _ _
      · split at opened
        · cases opened
          exact Nat.le_add_right _ _
        · cases opened
          exact Nat.le_add_right _ _

variable {bytes : Tcp → Nat}
variable {packets : Icmp → Nat}

/-- The loop of a command ends. -/
theorem exists_commandIterates
    [LawfulSmoltcp]
    (drains : stack.Drains bytes packets)
    (passes : stack.TimePasses)
    {handle : Nat}
    {entry : EngineState World Tcp Icmp}
    (holds : entry.Holds command.socketKind handle) :
    ∃ iterations outcome,
      CommandIterates stack handle entry command iterations outcome ∧
        iterations ≤ command.iterationLimit ∧
        ∀ opening pausing polling,
          stack.PaceBounded opening pausing polling →
          stack.now outcome.2.world ≤
            stack.now entry.world + command.timeout +
              (pausing + 2 * polling) := by
  cases command with
  | http target request timeout =>
      have startHolds :
          (HttpEntry.state ⟨false, [], entry⟩).Holds .tcp handle :=
        holds
      obtain ⟨iterations, result, iterates, few, soon⟩ :=
        (engineLoop_http drains request).finishes passes startHolds
      exact ⟨iterations, _, .http iterates, few, soon⟩
  | probe target timeout =>
      obtain ⟨iterations, result, iterates, few, soon⟩ :=
        (engineLoop_connect drains).finishes passes holds
      exact ⟨iterations, _, .probe iterates, few, soon⟩
  | ping target timeout =>
      obtain ⟨iterations, result, iterates, few, soon⟩ :=
        (engineLoop_ping drains).finishes passes holds
      exact ⟨iterations, _, .ping iterates, few, soon⟩

/-- Every command finishes, from every state of the engine. -/
theorem exists_finishes
    [LawfulSmoltcp]
    (drains : stack.Drains bytes packets)
    (passes : stack.TimePasses)
    (command : NetCommand)
    (state : EngineState World Tcp Icmp) :
    ∃ outcome, Finishes stack command state outcome := by
  cases opened : openCommand stack command state with
  | mk result entry =>
      cases result with
      | error error =>
          have runs : Runs stack command state 0 _ := .refused opened
          refine ⟨_, runs.executes, ⟨0, runs, Nat.zero_le _⟩, ?_⟩
          intro opening pausing polling bounded
          have early := openCommand_now_le opened bounded
          rw [Nat.add_assoc]
          exact Nat.le_trans early (Nat.le_add_right _ _)
      | ok handle =>
          obtain ⟨iterations, outcome, iterates, few, soon⟩ :=
            exists_commandIterates drains passes (openCommand_holds opened)
          have runs := Runs.looped opened iterates
          refine ⟨outcome, runs.executes, ⟨iterations, runs, few⟩, ?_⟩
          intro opening pausing polling bounded
          have early := openCommand_now_le opened bounded
          exact Nat.le_trans (soon opening pausing polling bounded)
            (Nat.add_le_add_right
              (Nat.add_le_add_right early command.timeout) _)

/-- Every queue of commands is answered to its end. -/
theorem exists_served
    [LawfulSmoltcp]
    (drains : stack.Drains bytes packets)
    (passes : stack.TimePasses)
    (commands : List NetCommand)
    (state : EngineState World Tcp Icmp) :
    ∃ outcomes,
      Served stack commands state outcomes ∧
        ∃ enough, ∀ fuel,
          enough ≤ fuel →
          run stack fuel commands state = some outcomes := by
  induction commands generalizing state with
  | nil =>
      exact ⟨[], .nil state, 0, fun _ _ => rfl⟩
  | cons command rest inductionHypothesis =>
      obtain ⟨⟨response, after⟩, finishes⟩ :=
        exists_finishes drains passes command state
      obtain ⟨outcomes, served, enoughLater, later⟩ :=
        inductionHypothesis after
      obtain ⟨enough, returns⟩ := finishes.returns
      refine ⟨_, .cons finishes served, max enough enoughLater,
        fun fuel more => ?_⟩
      have both := Nat.max_le.mp more
      simp only [run, returns fuel both.1, later fuel both.2,
        Option.map_some]

/-- Nothing the engine executes goes on for ever. -/
structure CommandsFinish
    (stack : SmolStack World Tcp Icmp)
    (bytes : Tcp → Nat)
    (packets : Icmp → Nat) : Prop where
  receives :
    ∀ response socket,
      ∃ result, ∀ fuel,
        bytes socket < fuel →
        receiveAll stack fuel response socket = some result
  replies :
    ∀ target socket,
      ∃ result, ∀ fuel,
        packets socket < fuel →
        receiveReply stack target fuel socket = some result
  command :
    ∀ command state, ∃ outcome, Finishes stack command state outcome
  queue :
    ∀ commands state,
      ∃ outcomes,
        Served stack commands state outcomes ∧
          ∃ enough, ∀ fuel,
            enough ≤ fuel →
            run stack fuel commands state = some outcomes

/--
Whatever the network does, the receive loops end, every command returns within
its limit of iterations, and every queue of commands is answered.
-/
theorem commands_finish
    [LawfulSmoltcp]
    (drains : stack.Drains bytes packets)
    (passes : stack.TimePasses) :
    CommandsFinish stack bytes packets where
  receives := drains.exists_receiveAll
  replies := drains.exists_receiveReply
  command := exists_finishes drains passes
  queue := exists_served drains passes

end Commands

namespace Scripted

/-- A batch does not change the kind of a socket. -/
theorem kind_deliver
    (batch : NetworkBatch)
    (socket : Socket Connection EchoSlot) :
    (deliver batch socket).kind = socket.kind := by
  cases socket <;> rfl

/-- A transfer on this network empties its buffer. -/
theorem drains :
    stack.Drains (fun connection => connection.buffered.length)
      (fun slot => if slot.packet.isSome then 1 else 0) where
  poll_kind iface world sockets handle := by
    rw [get?_poll, Option.map_map]
    exact congrArg (fun kind => (SlotMaps.get? sockets handle).map kind)
      (funext (kind_deliver (next world)))
  recv connection data received canRecv got := by
    cases got
    cases held : connection.buffered with
    | nil =>
        simp [stack, held] at canRecv
    | cons byte rest =>
        exact Nat.succ_pos rest.length
  icmpRecv slot packet received canRecv got := by
    obtain ⟨ident, held⟩ := slot
    cases held with
    | none =>
        cases got
    | some held =>
        cases got
        exact Nat.one_pos

/-- On this network only the pauses last. -/
theorem paceBounded : stack.PaceBounded 0 pollPause 0 where
  connect _ _ _ _ _ := Nat.le_refl _
  sleep _ := Nat.le_refl _
  poll _ _ _ := Nat.le_refl _

end Scripted

/-- On the scripted network every command finishes. -/
theorem commands_finish_scripted :
    CommandsFinish Scripted.stack
        (fun connection => connection.buffered.length)
        (fun slot => if slot.packet.isSome then 1 else 0) ∧
      Scripted.stack.PaceBounded 0 pollPause 0 :=
  ⟨commands_finish Scripted.drains Scripted.timePasses,
    Scripted.paceBounded⟩

end Waker
