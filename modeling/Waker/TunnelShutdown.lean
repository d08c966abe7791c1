import Waker.TunnelTasks

namespace Waker

open AbortableTask FifoChannel WatchChannel

/-!
# Stopping a tunnel

While a tunnel is in use its device is kept, and its engine goes on unless a
command panics.  However the tunnel goes, the device's task learns of it and is
never stuck, an engine that is not aborted first executes what was accepted, and
a shutdown that returns has ended both.
-/

namespace OwnerPhase

/-- The flag is down, and its sender still there. -/
def keepsOpen : OwnerPhase → Bool
  | .connecting => true
  | .holding => true
  | .lettingGo => true
  | _ => false

/-- The sender of commands is still there. -/
def holdsCommands : OwnerPhase → Bool
  | .connecting => true
  | .holding => true
  | .signalled => true
  | _ => false

/-- `TunnelClient::shutdown` has begun and neither returned nor been dropped. -/
def isShuttingDown : OwnerPhase → Bool
  | .signalled => true
  | .closing _ => true
  | .joining _ _ => true
  | _ => false

/-- The tunnel is gone. -/
def isGone : OwnerPhase → Bool
  | .returned => true
  | .dropped => true
  | _ => false

/-- The shutdown has waited for the task's end. -/
def hasJoined (task : TunnelTask) : OwnerPhase → Bool
  | .closing tasks => task ∉ tasks
  | .joining current rest => task ∉ current :: rest
  | .returned => true
  | _ => false

end OwnerPhase

/-- The device's task waits for a change, or is about to. -/
def WaitsForChange (device : SpawnedTask DevicePoint) : Prop :=
  device.place = .suspended .changed ∨ device.place = .running .changed

/-- What the owner, the flag and the device's task say of each other. -/
structure FlagSound
    (owner : OwnerPhase)
    (shutdown : Watch Bool)
    (device : SpawnedTask DevicePoint) : Prop where
  receiver : shutdown.hasReceiver = !device.isFinished
  watching :
    WaitsForChange device →
    shutdown.value = true →
    shutdown.unseen = true
  keptOpen :
    owner.keepsOpen = true →
    shutdown.value = false ∧ shutdown.hasSender = true ∧
      device.aborted = false ∧ device.isFinished = false
  raised :
    owner.isShuttingDown = true →
    shutdown.value = true ∧ shutdown.hasSender = true
  gone : owner.isGone = true → shutdown.hasSender = false

/-- The engine has not ended, or not even been made. -/
def hasEngine
    (owner : OwnerPhase)
    (engine : Option (SpawnedTask EnginePoint)) : Bool :=
  owner = .connecting || !engine.all SpawnedTask.isFinished

/-- The engine was told to end. -/
def isAborted (engine : Option (SpawnedTask EnginePoint)) : Bool :=
  engine.any SpawnedTask.aborted

/-- What the owner, the commands and the engine's task say of each other. -/
structure EngineSound
    (owner : OwnerPhase)
    (commands : Recorded Contents NetCommand)
    (engine : Option (SpawnedTask EnginePoint))
    (panicked : Bool) : Prop where
  sender : commands.hasSender = owner.holdsCommands
  receiver : commands.hasReceiver = hasEngine owner engine
  order : commands.InOrder
  bounded : commands.channel.capacity = some commandCapacity
  room : commands.queue.length ≤ commandCapacity
  unmade : owner = .connecting → engine = none
  made : owner ≠ .connecting → owner ≠ .dropped → engine.isSome
  kept : owner.holdsCommands = true → isAborted engine = false
  early :
    owner.holdsCommands = true →
    hasEngine owner engine = false →
    panicked = true
  answered :
    engine.all SpawnedTask.isFinished = true →
    isAborted engine = true ∨ panicked = true ∨
      commands.taken = commands.accepted

section Device

variable {owner : OwnerPhase}
variable {shutdown : Watch Bool}
variable {device next : SpawnedTask DevicePoint}

open TunnelTasks

/-- Where the device's task has been told and waits, the sender is gone. -/
theorem FlagSound.seen_of_told
    (sound : FlagSound owner shutdown device)
    (told : owner.keepsOpen = false)
    (waits : WaitsForChange device)
    (seen : shutdown.unseen = false) :
    shutdown.hasSender = false := by
  cases shuts : owner.isShuttingDown with
  | true =>
      have unseen := sound.watching waits (sound.raised shuts).1
      cases seen.symm.trans unseen
  | false =>
      refine sound.gone ?_
      cases owner <;>
        simp_all [OwnerPhase.keepsOpen, OwnerPhase.isShuttingDown,
          OwnerPhase.isGone]

/-- What the flag is after a step of the device's task. -/
def watchAfter
    (shutdown : Watch Bool)
    (device next : SpawnedTask DevicePoint) : Watch Bool :=
  if next.isFinished then
    (deviceSees shutdown device.place).dropReceiver
  else
    deviceSees shutdown device.place

/-- The device's task sees the flag only where it has waited for it. -/
theorem deviceSees_eq
    (shutdown : Watch Bool)
    (place : Place DevicePoint) :
    deviceSees shutdown place = shutdown ∨
    deviceSees shutdown place =
      { shutdown with unseen := false } := by
  unfold deviceSees
  split
  · exact .inr Watch.changed_snd
  · exact .inl rfl

/-- A step of the device's task changes neither the flag nor its sender. -/
theorem watchAfter_same
    (shutdown : Watch Bool)
    (device next : SpawnedTask DevicePoint) :
    (watchAfter shutdown device next).value = shutdown.value ∧
    (watchAfter shutdown device next).hasSender = shutdown.hasSender := by
  unfold watchAfter
  rcases deviceSees_eq shutdown device.place with same | same <;>
    rw [same] <;> split <;> exact ⟨rfl, rfl⟩

/-- What a step of the device's task can be. -/
theorem deviceStep_cases
    (taken :
      device.step? (deviceWoken shutdown) (deviceTurn shutdown) =
        some next) :
    (∃ point,
      device.place = .suspended point ∧
      device.aborted = true ∧
      next = { device with place := .finished }) ∨
    (∃ point,
      device.place = .suspended point ∧
      device.aborted = false ∧
      deviceWoken shutdown point = true ∧
      next = { device with place := .running point }) ∨
    (device.place = .running .check ∧
      shutdown.value = true ∧
      next = { device with place := .finished }) ∨
    (device.place = .running .check ∧
      shutdown.value = false ∧
      next = { device with place := .running .changed }) ∨
    (device.place = .running .changed ∧
      shutdown.unseen = true ∧
      next = { device with place := .running .check }) ∨
    (device.place = .running .changed ∧
      shutdown.unseen = false ∧
      shutdown.hasSender = false ∧
      next = { device with place := .finished }) ∨
    (device.place = .running .changed ∧
      shutdown.unseen = false ∧
      shutdown.hasSender = true ∧
      next = { device with place := .suspended .changed }) := by
  rcases SpawnedTask.step?_eq_some_iff.mp taken with
    ends | woken | ⟨point, place, rfl⟩
  · exact .inl ends
  · exact .inr (.inl woken)
  · cases point with
    | check =>
        cases raised : shutdown.value <;>
          simp [deviceTurn, Watches.borrow, raised, Turn.place, place]
    | changed =>
        cases unseen : shutdown.unseen with
        | false =>
            cases alive : shutdown.hasSender <;>
              simp [deviceTurn, Watches.changed, Watch.changed, unseen, alive,
                Turn.place, place]
        | true =>
            simp [deviceTurn, Watches.changed, Watch.changed, unseen,
              Turn.place, place]

/-- A step of the device's task keeps what is said of it. -/
theorem FlagSound.deviceStep
    (sound : FlagSound owner shutdown device)
    (taken :
      device.step? (deviceWoken shutdown) (deviceTurn shutdown) =
        some next) :
    FlagSound owner (watchAfter shutdown device next) next := by
  obtain ⟨value, sender⟩ := watchAfter_same shutdown device next
  have unfinished := SpawnedTask.not_isFinished_of_step taken
  have sees :
      (watchAfter shutdown device next).unseen =
        (deviceSees shutdown device.place).unseen := by
    unfold watchAfter
    split <;> rfl
  have receives :
      (watchAfter shutdown device next).hasReceiver =
        !next.isFinished := by
    have before := sound.receiver
    rw [unfinished] at before
    unfold watchAfter
    cases next.isFinished with
    | true =>
        rfl
    | false =>
        rcases deviceSees_eq shutdown device.place with
          same | same <;>
          rw [same] <;> exact before
  refine {
    receiver := receives
    watching := fun waits raised => ?_
    keptOpen := fun isOpen => ?_
    raised := fun shuts => ?_
    gone := fun isGone => ?_
  }
  · rw [value] at raised
    rw [sees]
    rcases deviceStep_cases taken with
      ⟨point, place, _, rfl⟩ | ⟨point, place, _, _, rfl⟩ |
      ⟨place, _, rfl⟩ | ⟨place, down, rfl⟩ | ⟨place, _, rfl⟩ |
      ⟨place, _, _, rfl⟩ | ⟨place, seen, _, rfl⟩
    · simp [WaitsForChange] at waits
    · cases point with
      | check =>
          simp [WaitsForChange] at waits
      | changed =>
          rw [place]
          exact sound.watching (.inl place) raised
    · simp [WaitsForChange] at waits
    · cases raised.symm.trans down
    · simp [WaitsForChange] at waits
    · simp [WaitsForChange] at waits
    · cases seen.symm.trans (sound.watching (.inr place) raised)
  · obtain ⟨down, alive, unaborted, _⟩ := sound.keptOpen isOpen
    rw [value, sender]
    rcases deviceStep_cases taken with
      ⟨point, place, aborted, rfl⟩ | ⟨point, place, _, _, rfl⟩ |
      ⟨place, raised, rfl⟩ | ⟨place, _, rfl⟩ | ⟨place, _, rfl⟩ |
      ⟨place, _, closed, rfl⟩ | ⟨place, _, _, rfl⟩
    · cases unaborted.symm.trans aborted
    · exact ⟨down, alive, unaborted, rfl⟩
    · cases down.symm.trans raised
    · exact ⟨down, alive, unaborted, rfl⟩
    · exact ⟨down, alive, unaborted, rfl⟩
    · cases alive.symm.trans closed
    · exact ⟨down, alive, unaborted, rfl⟩
  · rw [value, sender]
    exact sound.raised shuts
  · rw [sender]
    exact sound.gone isGone

variable {after : OwnerPhase}

/-- The owner moves on without touching the flag. -/
theorem FlagSound.moves
    (sound : FlagSound owner shutdown device)
    (keepsOpen : after.keepsOpen = true → owner.keepsOpen = true)
    (shuts : after.isShuttingDown = true → owner.isShuttingDown = true)
    (isGone : after.isGone = true → owner.isGone = true) :
    FlagSound after shutdown device where
  receiver := sound.receiver
  watching := sound.watching
  keptOpen := fun isOpen => sound.keptOpen (keepsOpen isOpen)
  raised := fun isShutting => sound.raised (shuts isShutting)
  gone := fun finished => sound.gone (isGone finished)

/-- The owner drops the sender of the flag when it goes. -/
theorem FlagSound.dropSender
    (sound : FlagSound owner shutdown device)
    (isGone : after.isGone = true) :
    FlagSound after shutdown.dropSender device where
  receiver := sound.receiver
  watching := sound.watching
  keptOpen := fun isOpen => by
    cases after <;> simp [OwnerPhase.isGone, OwnerPhase.keepsOpen] at *
  raised := fun shuts => by
    cases after <;>
      simp [OwnerPhase.isGone, OwnerPhase.isShuttingDown] at *
  gone := fun _ => rfl

/-- The flag that is raised was seen by nobody. -/
theorem FlagSound.raise
    (sound : FlagSound owner shutdown device)
    (isOpen : owner.keepsOpen = true) :
    FlagSound .signalled (shutdown.send true).2 device := by
  obtain ⟨down, alive, -, unfinished⟩ := sound.keptOpen isOpen
  have receiver : shutdown.hasReceiver = true := by
    rw [sound.receiver, unfinished]
    rfl
  rw [Watch.send, if_pos receiver]
  exact {
    receiver := sound.receiver
    watching := fun _ _ => rfl
    keptOpen := fun open' => nomatch open'
    raised := fun _ => ⟨rfl, alive⟩
    gone := fun isGone => nomatch isGone
  }

/-- A task is aborted only where the flag is up. -/
theorem FlagSound.abort
    (sound : FlagSound owner shutdown device)
    (isClosed : owner.keepsOpen = false) :
    FlagSound owner shutdown device.abort where
  receiver := sound.receiver
  watching := sound.watching
  keptOpen := fun isOpen => by
    cases isClosed.symm.trans isOpen
  raised := sound.raised
  gone := sound.gone

end Device

section Engine

variable {owner : OwnerPhase}
variable {commands : Recorded Contents NetCommand}
variable {engine next : SpawnedTask EnginePoint}
variable {panicked : Bool}
variable {turn : CommandTurn}

open TunnelTasks

/-- What is left of the commands after a step of the engine's task. -/
def commandsAfter
    (commands : Recorded Contents NetCommand)
    (engine next : SpawnedTask EnginePoint) : Recorded Contents NetCommand :=
  if next.isFinished then
    (engineTakes commands engine.place).dropReceiver
  else
    engineTakes commands engine.place

/-- What a step of the engine's task can be. -/
theorem engineStep_cases
    (taken :
      engine.step? (engineWoken commands) (engineTurn commands turn) =
        some next) :
    (∃ point,
      engine.place = .suspended point ∧
      engine.aborted = true ∧
      next = { engine with place := .finished }) ∨
    (∃ point,
      engine.place = .suspended point ∧
      engine.aborted = false ∧
      engineWoken commands point = true ∧
      next = { engine with place := .running point }) ∨
    (engine.place = .running .start ∧
      next = { engine with place := .running .recv }) ∨
    (∃ command rest,
      engine.place = .running .recv ∧
      commands.queue = command :: rest ∧
      next = { engine with place := .running .command }) ∨
    (engine.place = .running .recv ∧
      commands.queue = [] ∧
      commands.hasSender = true ∧
      next = { engine with place := .suspended .recv }) ∨
    (engine.place = .running .recv ∧
      commands.queue = [] ∧
      commands.hasSender = false ∧
      next = { engine with place := .finished }) ∨
    (engine.place = .running .command ∧
      next = { engine with
        place := (engineTurn commands turn .command).place }) := by
  rcases SpawnedTask.step?_eq_some_iff.mp taken with
    ends | woken | ⟨point, place, rfl⟩
  · exact .inl ends
  · exact .inr (.inl woken)
  · cases point with
    | start =>
        simp [engineTurn, Turn.place, place]
    | recv =>
        cases queue : commands.queue with
        | nil =>
            cases alive : commands.hasSender <;>
              simp [engineTurn, Recorded.recv_eq, queue, alive, Turn.place,
                place]
        | cons command rest =>
            simp [engineTurn, Recorded.recv_eq, queue, Turn.place, place]
    | command =>
        simp [place]

/-- The engine takes one command or none. -/
theorem engineTakes_eq
    (commands : Recorded Contents NetCommand)
    (place : Place EnginePoint) :
    engineTakes commands place = commands ∨
    ∃ command rest,
      commands.queue = command :: rest ∧
      engineTakes commands place =
        { commands with
          channel := { commands.channel with queue := rest }
          taken := commands.taken ++ [command] } := by
  unfold engineTakes
  split
  · rw [Recorded.recv_eq]
    split
    · rename_i command rest queue
      exact .inr ⟨command, rest, queue, rfl⟩
    · exact .inl rfl
  · exact .inl rfl

/-- Taking a command changes neither end of the channel. -/
theorem engineTakes_ends
    (commands : Recorded Contents NetCommand)
    (place : Place EnginePoint) :
    (engineTakes commands place).hasSender = commands.hasSender ∧
    (engineTakes commands place).hasReceiver = commands.hasReceiver := by
  unfold engineTakes
  split
  · exact commands.recv_ends
  · exact ⟨rfl, rfl⟩

/-- Commands are taken in order. -/
theorem engineTakes_inOrder
    (order : commands.InOrder)
    (place : Place EnginePoint) :
    (engineTakes commands place).InOrder := by
  unfold engineTakes
  split
  · exact order.recv
  · exact order

/-- The channel does not fill up by what the engine does. -/
theorem commandsAfter_length :
    (commandsAfter commands engine next).queue.length ≤
      commands.queue.length := by
  unfold commandsAfter
  split
  · exact Nat.zero_le _
  · rcases engineTakes_eq commands engine.place with
      same | ⟨_, _, queue, same⟩
    · rw [same]
    · rw [same, queue]
      exact Nat.le_succ _

/-- The room of the channel stays the same. -/
theorem commandsAfter_capacity :
    (commandsAfter commands engine next).channel.capacity =
      commands.channel.capacity := by
  unfold commandsAfter
  rcases engineTakes_eq commands engine.place with
    same | ⟨_, _, _, same⟩ <;>
    rw [same] <;> split <;> rfl

/-- A step of the engine's task keeps what is said of it. -/
theorem EngineSound.engineStep
    (sound : EngineSound owner commands (some engine) panicked)
    (taken :
      engine.step? (engineWoken commands) (engineTurn commands turn) =
        some next) :
    EngineSound owner (commandsAfter commands engine next) (some next)
      (if next.isFinished then
        panicked || engine.place = .running .command
      else
        panicked) := by
  have aborted := SpawnedTask.aborted_of_step taken
  have unfinished := SpawnedTask.not_isFinished_of_step taken
  have isMade : owner ≠ .connecting :=
    fun connecting => nomatch sound.unmade connecting
  have alive : commands.hasReceiver = true := by
    rw [sound.receiver]
    simp [hasEngine, unfinished]
  obtain ⟨sender, receiver⟩ :=
    engineTakes_ends commands engine.place
  refine {
    sender := ?_
    receiver := ?_
    order := ?_
    bounded := commandsAfter_capacity.trans sound.bounded
    room := commandsAfter_length.trans sound.room
    unmade := fun connecting => absurd connecting isMade
    made := fun _ _ => rfl
    kept := fun holds => ?_
    early := fun holds endsNow => ?_
    answered := fun ends => ?_
  }
  · rw [← sound.sender, ← sender]
    unfold commandsAfter
    split <;> rfl
  · unfold commandsAfter
    cases ends : next.isFinished with
    | true =>
        simp [hasEngine, ends, isMade]
    | false =>
        simp [hasEngine, ends, receiver, alive]
  · unfold commandsAfter
    split
    · exact (engineTakes_inOrder sound.order _).dropReceiver
    · exact engineTakes_inOrder sound.order _
  · have before := sound.kept holds
    simpa [isAborted, aborted] using before
  · have finished : next.isFinished = true := by
      simpa [hasEngine, isMade] using endsNow
    rw [if_pos finished]
    have open' := sound.sender.trans holds
    have unaborted := sound.kept holds
    rcases engineStep_cases taken with
      ⟨_, _, told, rfl⟩ | ⟨_, _, _, _, rfl⟩ | ⟨_, rfl⟩ |
      ⟨_, _, _, _, rfl⟩ | ⟨_, _, _, rfl⟩ | ⟨_, _, closed, rfl⟩ |
      ⟨place, rfl⟩
    · simp [isAborted, told] at unaborted
    · cases finished
    · cases finished
    · cases finished
    · cases finished
    · cases open'.symm.trans closed
    · simp [place]
  · have finished : next.isFinished = true := by
      simpa using ends
    rw [if_pos finished]
    rcases engineStep_cases taken with
      ⟨_, _, told, rfl⟩ | ⟨_, _, _, _, rfl⟩ | ⟨_, rfl⟩ |
      ⟨_, _, _, _, rfl⟩ | ⟨_, _, _, rfl⟩ | ⟨place, empty, closed, rfl⟩ |
      ⟨place, rfl⟩
    · exact .inl (by simpa [isAborted] using told)
    · cases finished
    · cases finished
    · cases finished
    · cases finished
    · refine .inr (.inr ?_)
      have told : commands.recv.1 = .closed := by
        simp [Recorded.recv_eq, empty, closed]
      have all := sound.order.all_taken alive told
      unfold commandsAfter
      rw [if_pos finished, place]
      simpa [engineTakes, Recorded.recv_eq, Recorded.dropReceiver, empty]
        using all
    · exact .inr (.inl (by simp [place]))

variable {after : OwnerPhase}
variable {task : Option (SpawnedTask EnginePoint)}

/-- Only a tunnel that is being made has an engine that no task runs. -/
theorem hasEngine_congr
    (isMade : owner ≠ .connecting)
    (staysMade : after ≠ .connecting) :
    hasEngine after task = hasEngine owner task := by
  simp [hasEngine, isMade, staysMade]

/-- The owner moves on without touching the commands. -/
theorem EngineSound.moves
    (sound : EngineSound owner commands task panicked)
    (isMade : owner ≠ .connecting)
    (isKept : owner ≠ .dropped)
    (staysMade : after ≠ .connecting)
    (holds : after.holdsCommands = owner.holdsCommands) :
    EngineSound after commands task panicked where
  sender := sound.sender.trans holds.symm
  receiver := sound.receiver.trans (hasEngine_congr staysMade isMade)
  order := sound.order
  bounded := sound.bounded
  room := sound.room
  unmade := fun connecting => absurd connecting staysMade
  made := fun _ _ => sound.made isMade isKept
  kept := fun open' => sound.kept (holds ▸ open')
  early := fun open' ends =>
    sound.early (holds ▸ open')
      ((hasEngine_congr staysMade isMade).trans ends)
  answered := sound.answered

/-- The owner drops the sender of commands. -/
theorem EngineSound.dropSender
    (sound : EngineSound owner commands task panicked)
    (isMade : owner ≠ .connecting)
    (isKept : owner ≠ .dropped)
    (staysMade : after ≠ .connecting)
    (holds : after.holdsCommands = false) :
    EngineSound after commands.dropSender task panicked where
  sender := holds.symm
  receiver := sound.receiver.trans (hasEngine_congr staysMade isMade)
  order := sound.order.dropSender
  bounded := sound.bounded
  room := sound.room
  unmade := fun connecting => absurd connecting staysMade
  made := fun _ _ => sound.made isMade isKept
  kept := fun open' => by
    cases holds.symm.trans open'
  early := fun open' _ => by
    cases holds.symm.trans open'
  answered := sound.answered

/-- An engine is aborted only when no command can come any more. -/
theorem EngineSound.abort
    (sound : EngineSound owner commands task panicked)
    (holds : owner.holdsCommands = false) :
    EngineSound owner commands (task.map SpawnedTask.abort) panicked := by
  have finished :
      (task.map SpawnedTask.abort).all SpawnedTask.isFinished =
        task.all SpawnedTask.isFinished := by
    cases task <;> rfl
  exact {
    sender := sound.sender
    receiver := by
      rw [sound.receiver, hasEngine, hasEngine, finished]
    order := sound.order
    bounded := sound.bounded
    room := sound.room
    unmade := fun connecting => by
      rw [sound.unmade connecting]
      rfl
    made := fun isMade isKept => by
      rw [Option.isSome_map]
      exact sound.made isMade isKept
    kept := fun open' => by
      cases holds.symm.trans open'
    early := fun open' _ => by
      cases holds.symm.trans open'
    answered := fun ends => by
      cases task with
      | none =>
          exact sound.answered rfl
      | some engine =>
          exact .inl rfl
  }

/-- A command is sent to an engine, or refused by one that has ended. -/
theorem EngineSound.call
    (sound : EngineSound .holding commands task panicked)
    (command : NetCommand) :
    EngineSound .holding (commands.send command).2 task panicked := by
  obtain ⟨sender, receiver⟩ := commands.send_ends command
  exact {
    sender := sender.trans sound.sender
    receiver := receiver.trans sound.receiver
    order := sound.order.send command
    bounded := by
      rw [Recorded.send_eq]
      split
      · split <;> exact sound.bounded
      · exact sound.bounded
    room := by
      rw [Recorded.send_eq]
      split
      · split
        · rename_i room
          rw [Contents.hasRoom, sound.bounded] at room
          have short : commands.queue.length < commandCapacity :=
            of_decide_eq_true room
          simpa [Recorded.queue, Mpsc.contents] using Nat.succ_le_of_lt short
        · exact sound.room
      · exact sound.room
    unmade := fun connecting => nomatch connecting
    made := sound.made
    kept := sound.kept
    early := sound.early
    answered := fun ends => by
      have gone : commands.hasReceiver = false := by
        rw [sound.receiver]
        simp [hasEngine, ends]
      rw [Recorded.send_eq, if_neg (Bool.eq_false_iff.mp gone)]
      exact sound.answered ends
  }

end Engine

namespace TunnelTasks

variable {Packet : Type}
variable {tryIntoIpvx : List UInt8 → Except String Packet}
variable {state next : KnownTunnel Packet}

/-- The invariant of a tunnel's tasks. -/
structure Sound
    (tryIntoIpvx : List UInt8 → Except String Packet)
    (state : KnownTunnel Packet) : Prop where
  flag : FlagSound state.owner state.shutdown state.device
  engine :
    EngineSound state.owner state.commands state.engine state.panicked
  joined :
    ∀ task, state.owner.hasJoined task = true → state.ended task = true
  aborting :
    ∀ task rest,
      state.owner = .joining task rest →
      state.aborted task = true
  queues : state.queues.Coherent tryIntoIpvx
  deviceEnd : state.queues.hasDevice = !state.device.isFinished
  engineEnd : state.queues.hasEngine = hasEngine state.owner state.engine

/-- A tunnel whose device's task has just been spawned. -/
theorem sound_spawned :
    (spawned : KnownTunnel Packet).Sound tryIntoIpvx where
  flag := {
    receiver := rfl
    watching := fun waits => by
      simp [WaitsForChange, spawned, Tasks.spawn, SpawnedTask.spawned]
        at waits
    keptOpen := fun _ => ⟨rfl, rfl, rfl, rfl⟩
    raised := fun shuts => nomatch shuts
    gone := fun isGone => nomatch isGone
  }
  engine := {
    sender := rfl
    receiver := rfl
    order := Recorded.inOrder_new _
    bounded := rfl
    room := Nat.zero_le _
    unmade := fun _ => rfl
    made := fun isMade => absurd rfl isMade
    kept := fun _ => rfl
    early := fun _ ends => nomatch ends
    answered := fun _ => .inr (.inr rfl)
  }
  joined := fun _ joined => nomatch joined
  aborting := fun _ _ joining => nomatch joining
  queues := PacketQueues.coherent_new
  deviceEnd := rfl
  engineEnd := rfl

/-- The device goes with its task. -/
theorem coherent_withoutDevice
    {queues : PacketQueues Contents Packet}
    (coherent : queues.Coherent tryIntoIpvx)
    (alive : queues.hasDevice = true) :
    queues.withoutDevice.Coherent tryIntoIpvx := by
  have taken :
      queues.step? tryIntoIpvx .dropDevice = some queues.withoutDevice :=
    if_pos alive
  exact coherent.step taken

/-- The engine goes with its task. -/
theorem coherent_withoutEngine
    {queues : PacketQueues Contents Packet}
    (coherent : queues.Coherent tryIntoIpvx)
    (alive : queues.hasEngine = true) :
    queues.withoutEngine.Coherent tryIntoIpvx := by
  have taken :
      queues.step? tryIntoIpvx .dropEngine = some queues.withoutEngine :=
    if_pos alive
  exact coherent.step taken

/-- What a step of the device's task leaves behind. -/
theorem exists_of_deviceStep
    (taken : state.deviceStep? = some next) :
    ∃ device,
      state.device.step?
          (deviceWoken state.shutdown) (deviceTurn state.shutdown) =
        some device ∧
      next = { state with
        device := device
        shutdown := watchAfter state.shutdown state.device device
        queues :=
          if device.isFinished then
            state.queues.withoutDevice
          else
            state.queues } := by
  obtain ⟨device, stepped, same⟩ := Option.map_eq_some_iff.mp taken
  refine ⟨device, stepped, ?_⟩
  rw [← same]
  unfold watchAfter
  rw [contents_known, contents_known]
  cases device.isFinished <;> rfl

/-- What a step of the engine's task leaves behind. -/
theorem exists_of_engineStep
    {turn : CommandTurn}
    (taken : state.engineStep? turn = some next) :
    ∃ engine after,
      state.engine = some engine ∧
      engine.step?
          (engineWoken state.commands) (engineTurn state.commands turn) =
        some after ∧
      next = { state with
        engine := some after
        commands := commandsAfter state.commands engine after
        panicked :=
          if after.isFinished then
            state.panicked || engine.place = .running .command
          else
            state.panicked
        queues :=
          if after.isFinished then
            state.queues.withoutEngine
          else
            state.queues } := by
  obtain ⟨engine, present, rest⟩ := Option.bind_eq_some_iff.mp taken
  obtain ⟨after, stepped, same⟩ := Option.bind_eq_some_iff.mp rest
  refine ⟨engine, after, present, stepped, ?_⟩
  unfold commandsAfter
  simp only [contents_known] at same
  cases ends : after.isFinished with
  | true =>
      rw [ends] at same
      exact (Option.some.inj same).symm
  | false =>
      rw [ends] at same
      exact (Option.some.inj same).symm

/-- A step of the device's task keeps the invariant. -/
theorem Sound.deviceStep
    (sound : state.Sound tryIntoIpvx)
    (taken : state.deviceStep? = some next) :
    next.Sound tryIntoIpvx := by
  obtain ⟨device, stepped, rfl⟩ := exists_of_deviceStep taken
  have unfinished := SpawnedTask.not_isFinished_of_step stepped
  have aborted := SpawnedTask.aborted_of_step stepped
  have alive : state.queues.hasDevice = true := by
    rw [sound.deviceEnd, unfinished]
    rfl
  exact {
    flag := sound.flag.deviceStep stepped
    engine := sound.engine
    joined := fun task joined => by
      cases task with
      | device =>
          have finished := sound.joined .device joined
          cases unfinished.symm.trans finished
      | engine =>
          exact sound.joined .engine joined
    aborting := fun task rest joining => by
      cases task with
      | device =>
          exact aborted.trans (sound.aborting .device rest joining)
      | engine =>
          exact sound.aborting .engine rest joining
    queues := by
      cases device.isFinished with
      | true =>
          exact coherent_withoutDevice sound.queues alive
      | false =>
          exact sound.queues
    deviceEnd := by
      cases ends : device.isFinished with
      | true =>
          rfl
      | false =>
          exact alive
    engineEnd := by
      cases device.isFinished <;> exact sound.engineEnd
  }

/-- A step of the engine's task keeps the invariant. -/
theorem Sound.engineStep
    (sound : state.Sound tryIntoIpvx)
    {turn : CommandTurn}
    (taken : state.engineStep? turn = some next) :
    next.Sound tryIntoIpvx := by
  obtain ⟨engine, after, present, stepped, rfl⟩ := exists_of_engineStep taken
  have unfinished := SpawnedTask.not_isFinished_of_step stepped
  have aborted := SpawnedTask.aborted_of_step stepped
  have engineSound := sound.engine
  rw [present] at engineSound
  have isMade : state.owner ≠ .connecting :=
    fun connecting => nomatch engineSound.unmade connecting
  have alive : state.queues.hasEngine = true := by
    rw [sound.engineEnd, present]
    simp [hasEngine, unfinished]
  exact {
    flag := sound.flag
    engine := engineSound.engineStep stepped
    joined := fun task joined => by
      cases task with
      | device =>
          exact sound.joined .device joined
      | engine =>
          have finished := sound.joined .engine joined
          simp [TunnelTasks.ended, present, unfinished] at finished
    aborting := fun task rest joining => by
      cases task with
      | device =>
          exact sound.aborting .device rest joining
      | engine =>
          have told := sound.aborting .engine rest joining
          simpa [TunnelTasks.aborted, isAborted, present, aborted] using told
    queues := by
      cases after.isFinished with
      | true =>
          exact coherent_withoutEngine sound.queues alive
      | false =>
          exact sound.queues
    deviceEnd := by
      cases after.isFinished <;> exact sound.deviceEnd
    engineEnd := by
      cases ends : after.isFinished with
      | true =>
          simp [hasEngine, isMade, ends, PacketQueues.withoutEngine]
      | false =>
          simp [hasEngine, ends, alive]
  }

/-- A packet between the tasks takes neither end of the queues. -/
theorem ends_of_packet
    {step : QueueStep}
    {queues : PacketQueues Contents Packet}
    (permitted : state.permits step = true)
    (taken : state.queues.step? tryIntoIpvx step = some queues) :
    queues.hasDevice = state.queues.hasDevice ∧
    queues.hasEngine = state.queues.hasEngine := by
  cases step with
  | send packet =>
      obtain ⟨-, returned⟩ := Option.ite_none_right_eq_some.mp taken
      cases returned
      exact ⟨rfl, rfl⟩
  | recv =>
      obtain ⟨-, returned⟩ := Option.ite_none_right_eq_some.mp taken
      unfold PacketQueues.gotaIpRecv at returned
      split at returned <;> cases returned <;> exact ⟨rfl, rfl⟩
  | receive =>
      obtain ⟨-, returned⟩ := Option.ite_none_right_eq_some.mp taken
      obtain ⟨⟨buffer, after⟩, received, rfl⟩ :=
        Option.map_eq_some_iff.mp returned
      unfold PacketQueues.receive at received
      split at received <;> cases received
      exact ⟨rfl, rfl⟩
  | transmit length fill =>
      obtain ⟨-, returned⟩ := Option.ite_none_right_eq_some.mp taken
      cases returned
      exact ⟨rfl, rfl⟩
  | dropEngine =>
      cases permitted
  | dropDevice =>
      cases permitted

/-- A packet between the tasks keeps the invariant. -/
theorem Sound.packet
    (sound : state.Sound tryIntoIpvx)
    {step : QueueStep}
    {queues : PacketQueues Contents Packet}
    (permitted : state.permits step = true)
    (taken : state.queues.step? tryIntoIpvx step = some queues) :
    ({ state with queues := queues } : KnownTunnel Packet).Sound
      tryIntoIpvx := by
  have ends := ends_of_packet permitted taken
  exact {
    flag := sound.flag
    engine := sound.engine
    joined := sound.joined
    aborting := sound.aborting
    queues := sound.queues.step taken
    deviceEnd := ends.1.trans sound.deviceEnd
    engineEnd := ends.2.trans sound.engineEnd
  }

/-- The engine is made and its task spawned. -/
theorem Sound.build
    (sound : state.Sound tryIntoIpvx)
    (connecting : state.owner = .connecting) :
    ({ state with
      owner := .holding
      engine := some (.spawned .start) } : KnownTunnel Packet).Sound
      tryIntoIpvx where
  flag := sound.flag.moves
    (fun _ => by rw [connecting]; rfl)
    (fun shuts => nomatch shuts)
    (fun isGone => nomatch isGone)
  engine := {
    sender := by
      rw [sound.engine.sender, connecting]
      rfl
    receiver := by
      rw [sound.engine.receiver, connecting]
      rfl
    order := sound.engine.order
    bounded := sound.engine.bounded
    room := sound.engine.room
    unmade := fun isConnecting => nomatch isConnecting
    made := fun _ _ => rfl
    kept := fun _ => rfl
    early := fun _ ends => nomatch ends
    answered := fun ends => nomatch ends
  }
  joined := fun _ joined => nomatch joined
  aborting := fun _ _ joining => nomatch joining
  queues := sound.queues
  deviceEnd := sound.deviceEnd
  engineEnd := by
    rw [sound.engineEnd, connecting]
    rfl

/-- Making the engine panics. -/
theorem Sound.fail
    (sound : state.Sound tryIntoIpvx)
    (connecting : state.owner = .connecting) :
    ({ state with
      owner := .dropped
      shutdown := state.shutdown.dropSender
      commands := state.commands.dropSender.dropReceiver
      queues := state.queues.withoutEngine } : KnownTunnel Packet).Sound
      tryIntoIpvx := by
  have alive : state.queues.hasEngine = true := by
    rw [sound.engineEnd, connecting]
    rfl
  have unmade := sound.engine.unmade connecting
  exact {
    flag := sound.flag.dropSender rfl
    engine := {
      sender := rfl
      receiver := by
        rw [unmade]
        rfl
      order := sound.engine.order.dropSender.dropReceiver
      bounded := sound.engine.bounded
      room := Nat.zero_le _
      unmade := fun _ => unmade
      made := fun _ isKept => absurd rfl isKept
      kept := fun holds => nomatch holds
      early := fun holds _ => nomatch holds
      answered := sound.engine.answered
    }
    joined := fun _ joined => nomatch joined
    aborting := fun _ _ joining => nomatch joining
    queues := coherent_withoutEngine sound.queues alive
    deviceEnd := sound.deviceEnd
    engineEnd := by
      rw [unmade]
      rfl
  }

/-- The shutdown aborts the next task and waits for it. -/
theorem Sound.abort
    (sound : state.Sound tryIntoIpvx)
    {task : TunnelTask}
    {rest : List TunnelTask}
    (closing : state.owner = .closing (task :: rest)) :
    ({ state.abort task with owner := .joining task rest } :
      KnownTunnel Packet).Sound tryIntoIpvx := by
  have flag : FlagSound (.joining task rest) state.shutdown state.device :=
    sound.flag.moves
      (fun isOpen => nomatch isOpen)
      (fun _ => by rw [closing]; rfl)
      (fun isGone => nomatch isGone)
  have engine :
      EngineSound (.joining task rest) state.commands state.engine
        state.panicked :=
    sound.engine.moves
      (by rw [closing]; rintro ⟨⟩)
      (by rw [closing]; rintro ⟨⟩)
      (by rintro ⟨⟩)
      (by rw [closing]; rfl)
  have isMade : state.owner ≠ .connecting := by
    rw [closing]
    rintro ⟨⟩
  have joined :
      ∀ other,
        OwnerPhase.hasJoined other (.joining task rest) = true →
        state.ended other = true := by
    intro other isJoined
    refine sound.joined other ?_
    rw [closing]
    exact isJoined
  cases task with
  | device =>
      exact {
        flag := flag.abort rfl
        engine := engine
        joined := fun other isJoined => by
          cases other with
          | device =>
              exact joined .device isJoined
          | engine =>
              exact joined .engine isJoined
        aborting := fun other after joining => by
          cases joining
          rfl
        queues := sound.queues
        deviceEnd := sound.deviceEnd
        engineEnd := sound.engineEnd.trans
          (hasEngine_congr (by rintro ⟨⟩) isMade)
      }
  | engine =>
      have spawned := sound.engine.made isMade (by rw [closing]; rintro ⟨⟩)
      obtain ⟨running, present⟩ := Option.isSome_iff_exists.mp spawned
      exact {
        flag := flag
        engine := engine.abort rfl
        joined := fun other isJoined => by
          cases other with
          | device =>
              exact joined .device isJoined
          | engine =>
              simp [OwnerPhase.hasJoined] at isJoined
        aborting := fun other after joining => by
          cases joining
          simp [TunnelTasks.aborted, TunnelTasks.abort, present,
            SpawnedTask.abort]
        queues := sound.queues
        deviceEnd := sound.deviceEnd
        engineEnd := by
          rw [TunnelTasks.abort, sound.engineEnd, present]
          simp [hasEngine, isMade, SpawnedTask.isFinished,
            SpawnedTask.abort]
      }

/-- The owner of a tunnel that was made moves on without joining a task. -/
theorem Sound.follow
    (sound : state.Sound tryIntoIpvx)
    {owner : OwnerPhase}
    {shutdown : Watch Bool}
    {commands : Recorded Contents NetCommand}
    (isMade : state.owner ≠ .connecting)
    (staysMade : owner ≠ .connecting)
    (flag : FlagSound owner shutdown state.device)
    (engine : EngineSound owner commands state.engine state.panicked)
    (joined :
      ∀ task, owner.hasJoined task = true → state.ended task = true)
    (aborting : ∀ task rest, owner ≠ .joining task rest) :
    ({ state with
      owner := owner
      shutdown := shutdown
      commands := commands } : KnownTunnel Packet).Sound tryIntoIpvx where
  flag := flag
  engine := engine
  joined := joined
  aborting := fun task rest joining => absurd joining (aborting task rest)
  queues := sound.queues
  deviceEnd := sound.deviceEnd
  engineEnd := sound.engineEnd.trans (hasEngine_congr staysMade isMade)

/-- The owner of a tunnel moves on, but for the flag. -/
theorem Sound.goOn
    (sound : state.Sound tryIntoIpvx)
    {before after : OwnerPhase}
    {shutdown : Watch Bool}
    (was : state.owner = before)
    (isMade : before ≠ .connecting)
    (isKept : before ≠ .dropped)
    (staysMade : after ≠ .connecting)
    (holds : after.holdsCommands = before.holdsCommands)
    (flag : FlagSound after shutdown state.device)
    (joined :
      ∀ task, after.hasJoined task = true → state.ended task = true)
    (aborting : ∀ task rest, after ≠ .joining task rest) :
    ({ state with
      owner := after
      shutdown := shutdown } : KnownTunnel Packet).Sound tryIntoIpvx := by
  subst was
  exact sound.follow isMade staysMade flag
    (sound.engine.moves isMade isKept staysMade holds) joined aborting

/-- The owner of a tunnel moves on and drops the sender of commands. -/
theorem Sound.dropCommands
    (sound : state.Sound tryIntoIpvx)
    {before after : OwnerPhase}
    (was : state.owner = before)
    (isMade : before ≠ .connecting)
    (isKept : before ≠ .dropped)
    (staysMade : after ≠ .connecting)
    (holds : after.holdsCommands = false)
    (flag : FlagSound after state.shutdown state.device)
    (joined :
      ∀ task, after.hasJoined task = true → state.ended task = true)
    (aborting : ∀ task rest, after ≠ .joining task rest) :
    ({ state with
      owner := after
      commands := state.commands.dropSender } : KnownTunnel Packet).Sound
      tryIntoIpvx := by
  subst was
  exact sound.follow isMade staysMade flag
    (sound.engine.dropSender isMade isKept staysMade holds) joined aborting

/-- The shutdown goes on once the task that it waits for has ended. -/
theorem Sound.join
    (sound : state.Sound tryIntoIpvx)
    {task : TunnelTask}
    {rest : List TunnelTask}
    (joining : state.owner = .joining task rest)
    (finished : state.ended task = true) :
    ({ state with owner := .closing rest } : KnownTunnel Packet).Sound
      tryIntoIpvx := by
  refine sound.goOn joining nofun nofun nofun rfl ?_ ?_ nofun
  · exact sound.flag.moves
      (fun isOpen => nomatch isOpen)
      (fun _ => by rw [joining]; rfl)
      (fun isGone => nomatch isGone)
  · intro other isJoined
    by_cases same : other = task
    · rw [same]
      exact finished
    · refine sound.joined other ?_
      rw [joining]
      have outside : other ∉ rest := of_decide_eq_true isJoined
      simp [OwnerPhase.hasJoined, same, outside]

/-- A step of the owner keeps the invariant. -/
theorem Sound.ownerStep
    (sound : state.Sound tryIntoIpvx)
    {step : OwnerStep}
    (taken : state.ownerStep? step = some next) :
    next.Sound tryIntoIpvx := by
  unfold ownerStep? at taken
  split at taken
  · rename_i connecting
    cases taken
    exact sound.build connecting
  · rename_i connecting
    cases taken
    exact sound.fail connecting
  · rename_i command holding
    have engine := sound.engine
    rw [holding] at engine
    have called := engine.call command
    split at taken
    · cases taken
    rename_i sent
    cases taken
    rw [sent] at called
    exact {
      flag := sound.flag
      engine := by
        rw [holding]
        exact called
      joined := sound.joined
      aborting := sound.aborting
      queues := sound.queues
      deviceEnd := sound.deviceEnd
      engineEnd := sound.engineEnd
    }
  · rename_i holding
    cases taken
    exact sound.dropCommands holding nofun nofun nofun rfl
      (sound.flag.moves
        (fun _ => by rw [holding]; rfl)
        (fun shuts => nomatch shuts)
        (fun isGone => nomatch isGone))
      (fun _ joined => nomatch joined)
      nofun
  · rename_i lettingGo
    cases taken
    exact sound.goOn lettingGo nofun nofun nofun rfl
      (sound.flag.dropSender rfl)
      (fun _ joined => nomatch joined)
      nofun
  · rename_i holding
    cases taken
    exact sound.goOn holding nofun nofun nofun rfl
      (sound.flag.raise (by rw [holding]; rfl))
      (fun _ joined => nomatch joined)
      nofun
  · rename_i signalled
    cases taken
    exact sound.dropCommands signalled nofun nofun nofun rfl
      (sound.flag.moves
        (fun isOpen => nomatch isOpen)
        (fun _ => by rw [signalled]; rfl)
        (fun isGone => nomatch isGone))
      (fun task joined => by
        cases task <;> simp [OwnerPhase.hasJoined] at joined)
      nofun
  · rename_i closing
    cases taken
    exact sound.goOn closing nofun nofun nofun rfl
      (sound.flag.dropSender rfl)
      (fun task _ => sound.joined task (by
        rw [closing]
        simp [OwnerPhase.hasJoined]))
      nofun
  · rename_i task rest closing
    cases taken
    exact sound.abort closing
  · rename_i task rest joining
    obtain ⟨finished, same⟩ := Option.ite_none_right_eq_some.mp taken
    cases same
    exact sound.join joining finished
  · rename_i task rest joining
    cases taken
    exact sound.goOn joining nofun nofun nofun rfl
      (sound.flag.dropSender rfl)
      (fun _ joined => nomatch joined)
      nofun
  · cases taken

/-- Every step keeps the invariant. -/
theorem Sound.step
    (sound : state.Sound tryIntoIpvx)
    {label : TasksStep}
    (taken : step? tryIntoIpvx state label = some next) :
    next.Sound tryIntoIpvx := by
  cases label with
  | owner step =>
      exact sound.ownerStep taken
  | device =>
      exact sound.deviceStep taken
  | engine turn =>
      exact sound.engineStep taken
  | packet step =>
      obtain ⟨permitted, rest⟩ := Option.ite_none_right_eq_some.mp taken
      obtain ⟨queues, stepped, rfl⟩ := Option.map_eq_some_iff.mp rest
      exact sound.packet permitted stepped

/-- Once the owner has told it, the device's task is never stuck. -/
theorem Sound.exists_deviceStep
    (sound : state.Sound tryIntoIpvx)
    (told : state.owner.keepsOpen = false)
    (unfinished : state.ended .device = false) :
    ∃ next, step? tryIntoIpvx state .device = some next := by
  have awake :
      ∀ point,
        state.device.place = .suspended point →
        state.device.aborted = true ∨
          deviceWoken state.shutdown point = true := by
    intro point place
    refine .inr ?_
    cases point with
    | check =>
        rfl
    | changed =>
        refine decide_eq_true fun pending => ?_
        obtain ⟨seen, alive⟩ := Watch.changed_eq_pending_iff.mp pending
        have closed := sound.flag.seen_of_told told (.inl place) seen
        cases alive.symm.trans closed
  obtain ⟨device, stepped⟩ :=
    SpawnedTask.exists_step (deviceTurn state.shutdown) unfinished awake
  rw [contents_known] at stepped
  exact Option.isSome_iff_exists.mp (by simp [step?, deviceStep?, stepped])

/-- Once no command can come any more, the engine's task is never stuck. -/
theorem Sound.exists_engineStep
    (sound : state.Sound tryIntoIpvx)
    (closed : state.owner.holdsCommands = false)
    (unfinished : state.ended .engine = false)
    (turn : CommandTurn) :
    ∃ next, step? tryIntoIpvx state (.engine turn) = some next := by
  have sender := sound.engine.sender.trans closed
  cases present : state.engine with
  | none =>
      simp [ended, present] at unfinished
  | some engine =>
      have running : engine.isFinished = false := by
        simpa [ended, present] using unfinished
      have awake :
          ∀ point,
            engine.place = .suspended point →
            engine.aborted = true ∨
              engineWoken state.commands point = true := by
        intro point place
        refine .inr ?_
        cases point with
        | start =>
            rfl
        | recv =>
            cases queue : state.commands.queue <;>
              simp [engineWoken, Recorded.recv_eq, queue, sender]
        | command =>
            rfl
      obtain ⟨after, stepped⟩ :=
        SpawnedTask.exists_step (engineTurn state.commands turn) running awake
      refine Option.isSome_iff_exists.mp ?_
      simp only [step?, engineStep?, present, Option.bind_eq_bind,
        Option.bind_some, poll_known, stepped]
      split <;> rfl

end TunnelTasks

/--
What may be relied on while a tunnel is used and when it goes: the device and
the engine are there as long as the owner holds the tunnel, the end of each is
noticed at its end of the queues only, neither is ever stuck once it should end,
an engine that is not aborted executes all that was accepted, and both have
ended when a shutdown has returned.
-/
structure StopsInOrder
    {Channel Watched Task : Type → Type}
    {Packet : Type}
    [Mpsc Channel] [Watches Watched] [Tasks Task]
    (tryIntoIpvx : List UInt8 → Except String Packet)
    (state : TunnelTasks Channel Watched Task Packet) : Prop where
  kept : state.owner.keepsOpen = true → state.ended .device = false
  serving :
    state.owner = .holding →
    state.ended .engine = false ∨ state.panicked = true
  answered :
    state.ended .engine = true →
    state.aborted .engine = true ∨ state.panicked = true ∨
      state.commands.taken = state.commands.accepted
  deviceEnd : state.queues.hasDevice = !state.ended .device
  engineEnd :
    state.owner ≠ .connecting →
    state.queues.hasEngine = !state.ended .engine
  lossless : state.queues.Lossless tryIntoIpvx
  noticed :
    state.owner.keepsOpen = false →
    state.ended .device = false →
    ∃ next, TunnelTasks.step? tryIntoIpvx state .device = some next
  drained :
    state.owner.holdsCommands = false →
    state.ended .engine = false →
    ∀ turn,
      ∃ next, TunnelTasks.step? tryIntoIpvx state (.engine turn) = some next
  joined :
    ∀ task, state.owner.hasJoined task = true → state.ended task = true
  returned :
    state.owner = .returned →
    state.queues.hasDevice = false ∧ state.queues.hasEngine = false

section Runtime

variable {Channel Watched Task : Type → Type}
variable {Packet : Type}
variable [Mpsc Channel] [Watches Watched] [Tasks Task]
variable {tryIntoIpvx : List UInt8 → Except String Packet}

open TunnelTasks

/-- What is known of a tunnel says that it stops in order. -/
theorem stopsInOrder_of_sound
    {state : KnownTunnel Packet}
    (sound : state.Sound tryIntoIpvx) :
    StopsInOrder tryIntoIpvx state := by
  have engineEnd (isMade : state.owner ≠ .connecting) :
      state.queues.hasEngine = !state.ended .engine := by
    rw [sound.engineEnd]
    simp [hasEngine, isMade, ended]
  exact {
    kept := fun isOpen => (sound.flag.keptOpen isOpen).2.2.2
    serving := fun holding => by
      cases finished : state.ended .engine with
      | false =>
          exact .inl rfl
      | true =>
          refine .inr (sound.engine.early (by rw [holding]; rfl) ?_)
          have isMade : state.owner ≠ .connecting := by
            rw [holding]
            rintro ⟨⟩
          rw [← sound.engineEnd, engineEnd isMade, finished]
          rfl
    answered := sound.engine.answered
    deviceEnd := sound.deviceEnd
    engineEnd := engineEnd
    lossless := PacketQueues.Coherent.lossless sound.queues
    noticed := sound.exists_deviceStep
    drained := sound.exists_engineStep
    joined := sound.joined
    returned := fun returned => by
      have isMade : state.owner ≠ .connecting := by
        rw [returned]
        rintro ⟨⟩
      have finished (task : TunnelTask) : state.ended task = true :=
        sound.joined task (by rw [returned]; rfl)
      rw [sound.deviceEnd, engineEnd isMade, finished .engine]
      exact ⟨congrArg not (finished .device), rfl⟩
  }

variable [LawfulMpsc Channel] [LawfulWatches Watched] [LawfulTasks Task]

/-- A tunnel can take the steps that what is known of it can take. -/
theorem exists_step_of_contents
    {state : TunnelTasks Channel Watched Task Packet}
    {label : TasksStep}
    (possible :
      ∃ next, step? tryIntoIpvx state.contents label = some next) :
    ∃ next, step? tryIntoIpvx state label = some next := by
  obtain ⟨known, taken⟩ := possible
  rw [contents_step] at taken
  obtain ⟨next, stepped, -⟩ := Option.map_eq_some_iff.mp taken
  exact ⟨next, stepped⟩

/-- A tunnel stops in order if what is known of it does. -/
theorem stopsInOrder_of_contents
    {state : TunnelTasks Channel Watched Task Packet}
    (known : StopsInOrder tryIntoIpvx state.contents) :
    StopsInOrder tryIntoIpvx state where
  kept := fun isOpen => by
    rw [← ended_contents]
    exact known.kept isOpen
  serving := fun holding => by
    rw [← ended_contents]
    exact known.serving holding
  answered := fun finished => by
    rw [← ended_contents] at finished
    rw [← aborted_contents]
    exact known.answered finished
  deviceEnd := by
    rw [← ended_contents]
    exact known.deviceEnd
  engineEnd := fun isMade => by
    rw [← ended_contents]
    exact known.engineEnd isMade
  lossless := by
    have lossless := known.lossless
    exact ⟨lossless.arrived, lossless.arriving, lossless.broken,
      lossless.fetched, lossless.left, lossless.leaving, lossless.ended⟩
  noticed := fun told unfinished => by
    rw [← ended_contents] at unfinished
    exact exists_step_of_contents (known.noticed told unfinished)
  drained := fun closed unfinished turn => by
    rw [← ended_contents] at unfinished
    exact exists_step_of_contents (known.drained closed unfinished turn)
  joined := fun task isJoined => by
    rw [← ended_contents]
    exact known.joined task isJoined
  returned := known.returned

end Runtime

end Waker
