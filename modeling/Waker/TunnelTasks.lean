import Waker.AbortableTask
import Waker.PacketQueues
import Waker.TunnelCalls
import Waker.WatchChannel

namespace Waker

open AbortableTask FifoChannel WatchChannel

/-!
# The tasks of a tunnel

Connecting spawns a task that keeps the WireGuard device until it is told to
stop, and one that runs the engine.  The tunnel goes when its owner shuts it
down, lets it go, or never gets it because making the engine panics.  All of
them take their steps in any order.
-/

/-- The tasks of a tunnel, in the order in which they are spawned. -/
inductive TunnelTask where
  | device
  | engine
  deriving Repr, DecidableEq

/-- Where the device's task stands: at the flag, or waiting for a change. -/
inductive DevicePoint where
  | check
  | changed
  deriving Repr, DecidableEq

/-- Where the engine's task stands. -/
inductive EnginePoint where
  | start
  | recv
  | command
  deriving Repr, DecidableEq

/-- How the engine goes on with a command. -/
inductive CommandTurn where
  | pauses
  | replies
  | panics
  deriving Repr, DecidableEq

/-- Where the owner of a tunnel stands. -/
inductive OwnerPhase where
  | connecting
  | holding
  | lettingGo
  | signalled
  | closing (tasks : List TunnelTask)
  | joining (task : TunnelTask) (rest : List TunnelTask)
  | returned
  | dropped
  deriving Repr, DecidableEq

/--
A tunnel from the time its device's task is spawned, with the queues between the
device and the engine, and for the record whether a command has panicked.
-/
structure TunnelTasks
    (Channel Watched Task : Type → Type)
    (Packet : Type) where
  owner : OwnerPhase
  shutdown : Watched Bool
  commands : Recorded Channel NetCommand
  device : Task DevicePoint
  engine : Option (Task EnginePoint)
  panicked : Bool
  queues : PacketQueues Channel Packet

/-- What there is to know of a tunnel. -/
abbrev KnownTunnel (Packet : Type) :=
  TunnelTasks Contents Watch SpawnedTask Packet

/-- What the owner does. -/
inductive OwnerStep where
  | build
  | fail
  | call (command : NetCommand)
  | letGo
  | release
  | signal
  | closeCommands
  | next
  | join
  | abandon

/-- What happens in a tunnel. -/
inductive TasksStep where
  | owner (step : OwnerStep)
  | device
  | engine (turn : CommandTurn)
  | packet (step : QueueStep)

namespace TunnelTasks

variable {Channel Watched Task : Type → Type}
variable {Packet : Type}
variable [Mpsc Channel] [Watches Watched] [Tasks Task]

/-- The device's task has been spawned. -/
def spawned : TunnelTasks Channel Watched Task Packet where
  owner := .connecting
  shutdown := Watches.channel false
  commands := .of (Mpsc.channel commandCapacity)
  device := Tasks.spawn .check
  engine := none
  panicked := false
  queues := .new

/-- The task is over, if it was ever spawned. -/
def ended (state : TunnelTasks Channel Watched Task Packet) : TunnelTask → Bool
  | .device => (Tasks.contents state.device).isFinished
  | .engine =>
      state.engine.all fun engine => (Tasks.contents engine).isFinished

/-- The task was told to end. -/
def aborted
    (state : TunnelTasks Channel Watched Task Packet) : TunnelTask → Bool
  | .device => (Tasks.contents state.device).aborted
  | .engine =>
      state.engine.any fun engine => (Tasks.contents engine).aborted

/-- Abort a task. -/
def abort
    (task : TunnelTask)
    (state : TunnelTasks Channel Watched Task Packet) :
    TunnelTasks Channel Watched Task Packet :=
  match task with
  | .device => { state with device := Tasks.abort state.device }
  | .engine => { state with engine := state.engine.map Tasks.abort }

/--
A step of the owner: `TunnelClient::connect` from where it makes the engine, its
result's calls, its drop, and `TunnelClient::shutdown`, which may be dropped
itself where it waits for a task.
-/
def ownerStep?
    (state : TunnelTasks Channel Watched Task Packet)
    (step : OwnerStep) : Option (TunnelTasks Channel Watched Task Packet) :=
  match state.owner, step with
  | .connecting, .build =>
      some { state with
        owner := .holding
        engine := some (Tasks.spawn .start) }
  | .connecting, .fail =>
      some { state with
        owner := .dropped
        shutdown := Watches.dropSender state.shutdown
        commands := state.commands.dropSender.dropReceiver
        queues := state.queues.withoutEngine }
  | .holding, .call command =>
      match state.commands.send command with
      | (.full, _) => none
      | (_, commands) => some { state with commands := commands }
  -- the fields of the client are dropped in the order of their declaration
  | .holding, .letGo =>
      some { state with
        owner := .lettingGo
        commands := state.commands.dropSender }
  | .lettingGo, .release =>
      some { state with
        owner := .dropped
        shutdown := Watches.dropSender state.shutdown }
  | .holding, .signal =>
      some { state with
        owner := .signalled
        shutdown := (Watches.send true state.shutdown).2 }
  | .signalled, .closeCommands =>
      some { state with
        owner := .closing [.device, .engine]
        commands := state.commands.dropSender }
  | .closing [], .next =>
      some { state with
        owner := .returned
        shutdown := Watches.dropSender state.shutdown }
  | .closing (task :: rest), .next =>
      some { state.abort task with owner := .joining task rest }
  | .joining task rest, .join =>
      if state.ended task then
        some { state with owner := .closing rest }
      else
        none
  | .joining _ _, .abandon =>
      some { state with
        owner := .dropped
        shutdown := Watches.dropSender state.shutdown }
  | _, _ => none

/-- What the device's task does: `TunnelClient::connect`'s first `spawn`. -/
def deviceTurn (shutdown : Watched Bool) : DevicePoint → Turn DevicePoint
  | .check => if Watches.borrow shutdown then .finish else .goOn .changed
  | .changed =>
      match (Watches.changed shutdown).1 with
      | .changed => .goOn .check
      | .closed => .finish
      | .pending => .wait .changed

/-- The device's task is run at first, and then when its wait is over. -/
def deviceWoken (shutdown : Watched Bool) : DevicePoint → Bool
  | .check => true
  | .changed => (Watches.changed shutdown).1 ≠ .pending

/-- What the task sees of the flag. -/
def deviceSees
    (shutdown : Watched Bool) : Place DevicePoint → Watched Bool
  | .running .changed => (Watches.changed shutdown).2
  | _ => shutdown

/-- A step of the device's task, which drops the device where it ends. -/
def deviceStep?
    (state : TunnelTasks Channel Watched Task Packet) :
    Option (TunnelTasks Channel Watched Task Packet) :=
  (Tasks.poll?
      (deviceWoken state.shutdown) (deviceTurn state.shutdown)
      state.device).map
    fun device =>
      let shutdown :=
        deviceSees state.shutdown (Tasks.contents state.device).place
      if (Tasks.contents device).isFinished then
        { state with
          device := device
          shutdown := Watches.dropReceiver shutdown
          queues := state.queues.withoutDevice }
      else
        { state with device := device, shutdown := shutdown }

/-- What the engine's task does: `SmolEngine::run`. -/
def engineTurn
    (commands : Recorded Channel NetCommand)
    (turn : CommandTurn) : EnginePoint → Turn EnginePoint
  | .start => .goOn .recv
  | .recv =>
      match commands.recv.1 with
      | .value _ => .goOn .command
      | .empty => .wait .recv
      | .closed => .finish
  | .command =>
      match turn with
      | .pauses => .wait .command
      | .replies => .goOn .recv
      | .panics => .finish

/--
The engine's task is run at first, when a command has come or none can come any
more, and after every pause of a command, which is always timed.
-/
def engineWoken (commands : Recorded Channel NetCommand) : EnginePoint → Bool
  | .start => true
  | .recv =>
      match commands.recv.1 with
      | .empty => false
      | _ => true
  | .command => true

/-- What the engine leaves in the channel. -/
def engineTakes
    (commands : Recorded Channel NetCommand) :
    Place EnginePoint → Recorded Channel NetCommand
  | .running .recv => commands.recv.2
  | _ => commands

/-- A step of the engine's task, which drops the engine where it ends. -/
def engineStep?
    (state : TunnelTasks Channel Watched Task Packet)
    (turn : CommandTurn) :
    Option (TunnelTasks Channel Watched Task Packet) := do
  let engine ← state.engine
  let next ←
    Tasks.poll?
      (engineWoken state.commands) (engineTurn state.commands turn) engine
  let place := (Tasks.contents engine).place
  let commands := engineTakes state.commands place
  if (Tasks.contents next).isFinished then
    some { state with
      engine := some next
      commands := commands.dropReceiver
      panicked := state.panicked || place = .running .command
      queues := state.queues.withoutEngine }
  else
    some { state with engine := some next, commands := commands }

/-- The engine polls while it executes a command. -/
def isPolling (state : TunnelTasks Channel Watched Task Packet) : Bool :=
  match state.engine with
  | some engine => (Tasks.contents engine).place = .running .command
  | none => false

/-- Who may use the queues; their ends go with the tasks only. -/
def permits (state : TunnelTasks Channel Watched Task Packet) : QueueStep → Bool
  | .send _ => true
  | .recv => true
  | .receive => state.isPolling
  | .transmit _ _ => state.isPolling
  | .dropEngine => false
  | .dropDevice => false

/-- Take one step, unless it is not possible. -/
def step?
    (tryIntoIpvx : List UInt8 → Except String Packet)
    (state : TunnelTasks Channel Watched Task Packet) :
    TasksStep → Option (TunnelTasks Channel Watched Task Packet)
  | .owner step => state.ownerStep? step
  | .device => state.deviceStep?
  | .engine turn => state.engineStep? turn
  | .packet step =>
      if state.permits step then
        (state.queues.step? tryIntoIpvx step).map
          fun queues => { state with queues := queues }
      else
        none

/-- A tunnel with what there is to know of its channels and tasks. -/
def contents
    (state : TunnelTasks Channel Watched Task Packet) :
    KnownTunnel Packet where
  owner := state.owner
  shutdown := Watches.contents state.shutdown
  commands := state.commands.contents
  device := Tasks.contents state.device
  engine := state.engine.map Tasks.contents
  panicked := state.panicked
  queues := state.queues.contents

/-- A task is over where it is known to be. -/
theorem ended_contents
    (state : TunnelTasks Channel Watched Task Packet)
    (task : TunnelTask) :
    state.contents.ended task = state.ended task := by
  cases task with
  | device =>
      rfl
  | engine =>
      cases engine : state.engine <;>
        simp [ended, contents, engine]

/-- A task was told to end where that is known. -/
theorem aborted_contents
    (state : TunnelTasks Channel Watched Task Packet)
    (task : TunnelTask) :
    state.contents.aborted task = state.aborted task := by
  cases task with
  | device =>
      rfl
  | engine =>
      cases engine : state.engine <;> simp [aborted, contents, engine]

variable [LawfulMpsc Channel] [LawfulWatches Watched] [LawfulTasks Task]
variable {tryIntoIpvx : List UInt8 → Except String Packet}

/-- A tunnel whose device's task has been spawned is what is known of it. -/
theorem contents_spawned :
    (spawned : TunnelTasks Channel Watched Task Packet).contents = spawned := by
  simp [spawned, contents, PacketQueues.contents_new, LawfulWatches.channel,
    LawfulTasks.spawn, Recorded.of, Recorded.contents, LawfulMpsc.channel,
    Watches.channel, Tasks.spawn, Mpsc.channel]

/-- What the owner does to a tunnel it does to what is known of it. -/
theorem contents_ownerStep
    (state : TunnelTasks Channel Watched Task Packet)
    (step : OwnerStep) :
    state.contents.ownerStep? step =
      (state.ownerStep? step).map contents := by
  obtain ⟨owner, shutdown, commands, device, engine, panicked, queues⟩ := state
  cases owner with
  | connecting =>
      cases step <;>
        simp [ownerStep?, contents, contents_dropSender,
          Recorded.contents_dropSender, Recorded.contents_dropReceiver,
          PacketQueues.contents_withoutEngine, LawfulTasks.spawn, Tasks.spawn]
  | holding =>
      cases step with
      | call command =>
          have sent := commands.contents_send command
          rcases result : commands.send command with ⟨_ | _ | _, after⟩ <;>
            rw [result] at sent <;>
            simp [ownerStep?, contents, sent, result]
      | _ =>
          simp [ownerStep?, contents, contents_send,
            Recorded.contents_dropSender]
  | lettingGo =>
      cases step <;> simp [ownerStep?, contents, contents_dropSender]
  | signalled =>
      cases step <;>
        simp [ownerStep?, contents, Recorded.contents_dropSender]
  | closing tasks =>
      cases tasks with
      | nil =>
          cases step <;> simp [ownerStep?, contents, contents_dropSender]
      | cons task rest =>
          cases step with
          | next =>
              cases task <;> cases engine <;>
                simp [ownerStep?, contents, abort, LawfulTasks.abort,
                  Tasks.abort]
          | _ =>
              simp [ownerStep?, contents]
  | joining task rest =>
      cases step with
      | join =>
          have same :=
            ended_contents
              (⟨.joining task rest, shutdown, commands, device, engine,
                panicked, queues⟩ :
                TunnelTasks Channel Watched Task Packet) task
          simp only [contents] at same
          simp [ownerStep?, contents, same]
      | _ =>
          simp [ownerStep?, contents, contents_dropSender]
  | returned =>
      cases step <;> simp [ownerStep?, contents]
  | dropped =>
      cases step <;> simp [ownerStep?, contents]

/-- The flag tells the device's task what is known of it. -/
theorem deviceTurn_contents (shutdown : Watched Bool) :
    deviceTurn (Watches.contents shutdown) = deviceTurn shutdown := by
  funext point
  cases point with
  | check =>
      simp [deviceTurn, LawfulWatches.borrow, Watches.contents]
  | changed =>
      simp [deviceTurn, contents_changed]

/-- The flag wakes the device's task as what is known of it. -/
theorem deviceWoken_contents (shutdown : Watched Bool) :
    deviceWoken (Watches.contents shutdown) = deviceWoken shutdown := by
  funext point
  cases point <;> simp [deviceWoken, contents_changed]

/-- What the device's task sees of the flag is known. -/
theorem deviceSees_contents
    (shutdown : Watched Bool)
    (place : Place DevicePoint) :
    deviceSees (Watches.contents shutdown) place =
      Watches.contents (deviceSees shutdown place) := by
  unfold deviceSees
  split
  · rw [contents_changed]
  · rfl

/-- The device's task does what is known of it. -/
theorem contents_deviceStep
    (state : TunnelTasks Channel Watched Task Packet) :
    state.contents.deviceStep? = state.deviceStep?.map contents := by
  obtain ⟨owner, shutdown, commands, device, engine, panicked, queues⟩ := state
  have polled :=
    contents_poll (deviceWoken shutdown) (deviceTurn shutdown) device
  simp only [deviceStep?, contents, deviceWoken_contents,
    deviceTurn_contents, deviceSees_contents, polled]
  cases Tasks.poll? (deviceWoken shutdown) (deviceTurn shutdown) device with
  | none =>
      rfl
  | some next =>
      cases ends : (Tasks.contents next).isFinished with
      | false =>
          simp [Tasks.contents, ends]
          rfl
      | true =>
          simp [Tasks.contents, ends, contents_dropReceiver,
            PacketQueues.contents_withoutDevice]
          rfl

/-- The commands tell the engine's task what is known of them. -/
theorem engineTurn_contents
    (commands : Recorded Channel NetCommand)
    (turn : CommandTurn) :
    engineTurn commands.contents turn = engineTurn commands turn := by
  funext point
  cases point <;> simp [engineTurn, Recorded.contents_recv]

/-- The commands wake the engine's task as what is known of them. -/
theorem engineWoken_contents (commands : Recorded Channel NetCommand) :
    engineWoken commands.contents = engineWoken commands := by
  funext point
  cases point <;> simp [engineWoken, Recorded.contents_recv]

/-- What the engine leaves in the channel is known. -/
theorem engineTakes_contents
    (commands : Recorded Channel NetCommand)
    (place : Place EnginePoint) :
    engineTakes commands.contents place =
      (engineTakes commands place).contents := by
  unfold engineTakes
  split
  · rw [Recorded.contents_recv]
  · rfl

omit [LawfulWatches Watched] in
/-- The engine's task does what is known of it. -/
theorem contents_engineStep
    (state : TunnelTasks Channel Watched Task Packet)
    (turn : CommandTurn) :
    state.contents.engineStep? turn =
      (state.engineStep? turn).map contents := by
  obtain ⟨owner, shutdown, commands, device, engine, panicked, queues⟩ := state
  cases engine with
  | none =>
      rfl
  | some engine =>
      have polled :=
        contents_poll (engineWoken commands) (engineTurn commands turn) engine
      simp only [engineStep?, contents, engineWoken_contents,
        engineTurn_contents, engineTakes_contents, polled, Option.map_some,
        Option.bind_eq_bind, Option.bind_some]
      cases Tasks.poll? (engineWoken commands) (engineTurn commands turn)
        engine with
      | none =>
          rfl
      | some next =>
          cases ends : (Tasks.contents next).isFinished with
          | false =>
              simp [Tasks.contents, ends]
              rfl
          | true =>
              simp [Tasks.contents, ends, Recorded.contents_dropReceiver,
                PacketQueues.contents_withoutEngine]
              rfl

/-- Every step does to what is known of a tunnel what it does to the tunnel. -/
theorem contents_step
    (state : TunnelTasks Channel Watched Task Packet)
    (label : TasksStep) :
    state.contents.step? tryIntoIpvx label =
      (state.step? tryIntoIpvx label).map contents := by
  cases label with
  | owner step =>
      exact state.contents_ownerStep step
  | device =>
      exact state.contents_deviceStep
  | engine turn =>
      exact state.contents_engineStep turn
  | packet step =>
      have permits : state.contents.permits step = state.permits step := by
        cases engine : state.engine <;> cases step <;>
          simp [TunnelTasks.permits, isPolling, contents, engine,
            Tasks.contents]
      have stepped :
          state.contents.queues.step? tryIntoIpvx step =
            (state.queues.step? tryIntoIpvx step).map PacketQueues.contents :=
        PacketQueues.contents_step step
      simp only [step?, permits, stepped]
      cases state.permits step <;>
        cases state.queues.step? tryIntoIpvx step <;> rfl

end TunnelTasks

end Waker
