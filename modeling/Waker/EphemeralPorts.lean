import Mathlib.Data.List.Nodup
import Waker.Loopback

namespace Waker

/-!
# Ephemeral ports

The engine takes the local port of each connection from a counter that runs
through the ephemeral ports and begins anew behind the last one.  Nothing but
`open_socket` moves the counter, also when its `connect` fails, so a port comes
back only after all others.  The ports are those that reach the stack: they are
recorded where `connect` receives them.
-/

/-- The number of ephemeral ports. -/
def ephemeralPorts : Nat :=
  16384

/-- The port of a call of `open_socket`, counted from zero. -/
def portOf (call : Nat) : UInt16 :=
  UInt16.ofNat (49152 + call % ephemeralPorts)

/-- The ports of an engine whose `open_socket` has been called some times. -/
def portsOf (calls : Nat) : List UInt16 :=
  (List.range calls).map portOf

/-- The ports are numbers from 49152 to 65535. -/
theorem toNat_portOf
    (call : Nat) :
    (portOf call).toNat = 49152 + call % ephemeralPorts := by
  have below : call % ephemeralPorts < 16384 :=
    Nat.mod_lt call (by decide)
  rw [portOf, UInt16.toNat_ofNat_of_lt']
  exact Nat.lt_of_lt_of_le (Nat.add_lt_add_left below 49152) (by decide)

/-- The counter moves to the port of the next call. -/
theorem advancePort_portOf
    (call : Nat) :
    advancePort (portOf call) = portOf (call + 1) := by
  have isPort := toNat_portOf call
  have isNext := toNat_portOf (call + 1)
  unfold ephemeralPorts at isPort isNext
  unfold advancePort
  split
  · rename_i isLast
    rw [isLast] at isPort
    apply UInt16.toNat.inj
    rw [isNext]
    change 65535 = _ at isPort
    change 49152 = _
    omega
  · rename_i notLast
    have below : (portOf call).toNat ≠ 65535 :=
      fun same => notLast (UInt16.toNat.inj same)
    apply UInt16.toNat.inj
    rw [UInt16.toNat_add, isNext]
    change ((portOf call).toNat + 1) % 65536 = _
    omega

/-- Calls that are near to each other have different ports. -/
theorem portOf_ne
    {earlier later : Nat}
    (ordered : earlier < later)
    (near : later < earlier + ephemeralPorts) :
    portOf earlier ≠ portOf later := by
  intro same
  have numbers := congrArg UInt16.toNat same
  rw [toNat_portOf, toNat_portOf] at numbers
  unfold ephemeralPorts at near numbers
  omega

/-- Any ports in a row that are not too many differ from each other. -/
theorem nodup_portsOf
    (calls first : Nat) :
    (((portsOf calls).drop first).take ephemeralPorts).Nodup := by
  rw [List.nodup_iff_getElem?_ne_getElem?]
  intro earlier later ordered inside same
  rw [List.length_take, List.length_drop, Nat.lt_min] at inside
  have insideCalls : first + later < (portsOf calls).length := by
    omega
  rw [portsOf, List.length_map, List.length_range] at insideCalls
  have portAt
      {index : Nat}
      (below : index ≤ later) :
      (((portsOf calls).drop first).take ephemeralPorts)[index]? =
        some (portOf (first + index)) := by
    rw [List.getElem?_take_of_lt (by omega), List.getElem?_drop, portsOf,
      List.getElem?_map, List.getElem?_range (by omega)]
    rfl
  rw [portAt (Nat.le_of_lt ordered), portAt (Nat.le_refl later),
    Option.some.injEq] at same
  exact portOf_ne (by omega) (by omega) same

/-- A world with the local ports that `connect` has received. -/
structure PortRecord (World : Type) where
  world : World
  ports : List UInt16

/-- A stack that also records the local port of every call of `connect`. -/
def SmolStack.recording
    [Smoltcp]
    {World Tcp Icmp : Type}
    (stack : SmolStack World Tcp Icmp) :
    SmolStack (PortRecord World) Tcp Icmp :=
  { stack with
    now := fun recorded => stack.now recorded.world
    sleep := fun pause recorded =>
      { recorded with world := stack.sleep pause recorded.world }
    poll := fun iface recorded sockets =>
      let polled := stack.poll iface recorded.world sockets
      ({ recorded with world := polled.1 }, polled.2)
    connect := fun iface recorded socket remote localPort =>
      let connected :=
        stack.connect iface recorded.world socket remote localPort
      ({ world := connected.1, ports := recorded.ports ++ [localPort] },
        connected.2) }

/-- The state of an engine without the record. -/
def EngineState.forget
    [Smoltcp]
    {World Tcp Icmp : Type}
    (state : EngineState (PortRecord World) Tcp Icmp) :
    EngineState World Tcp Icmp where
  engine := state.engine
  world := state.world.world

section Histories

variable [Smoltcp]
variable {World Tcp Icmp : Type}

/-- Between two states, the counter stands and `connect` receives nothing. -/
def Unopened
    (state next : EngineState (PortRecord World) Tcp Icmp) : Prop :=
  next.engine.nextPort = state.engine.nextPort ∧
    next.world.ports = state.world.ports

/--
A history of the engine with the number of its calls of `open_socket`, and
anything else that the engine does in between.
-/
inductive Opens
    (stack : SmolStack World Tcp Icmp)
    (start : EngineState (PortRecord World) Tcp Icmp) :
    Nat → EngineState (PortRecord World) Tcp Icmp → Prop where
  | start : Opens stack start 0 start
  | openSocket
      {calls : Nat}
      {state : EngineState (PortRecord World) Tcp Icmp}
      (earlier : Opens stack start calls state)
      (target : SocketAddrV4) :
      Opens stack start (calls + 1)
        (Waker.openSocket stack.recording target state).2
  | other
      {calls : Nat}
      {state next : EngineState (PortRecord World) Tcp Icmp}
      (earlier : Opens stack start calls state)
      (unopened : Unopened state next) :
      Opens stack start calls next

/-- The counter and the ports that `connect` has received by any time. -/
structure PortsInOrder
    (state : EngineState (PortRecord World) Tcp Icmp) : Prop where
  counter :
    49152 ≤ state.engine.nextPort.toNat ∧ state.engine.nextPort.toNat ≤ 65535
  noOverflow :
    state.engine.nextPort ≠ 65535 →
    (state.engine.nextPort + 1).toNat = state.engine.nextPort.toNat + 1
  handedOver :
    ∀ port, port ∈ state.world.ports →
      49152 ≤ port.toNat ∧ port.toNat ≤ 65535
  distinct :
    ∀ first, ((state.world.ports.drop first).take 16384).Nodup

variable {stack : SmolStack World Tcp Icmp}
variable {start state : EngineState (PortRecord World) Tcp Icmp}
variable {calls : Nat}

/-- A new engine begins with the first port. -/
theorem nextPort_new
    {address : Ipv4Network}
    {engine : SmolEngine Tcp Icmp}
    (built : SmolEngine.new address = .ok engine) :
    engine.nextPort = 49152 := by
  simp only [SmolEngine.new] at built
  split at built
  · cases built
  · split at built
    · cases built
    · split at built <;> cases built
      rfl

/-- `open_socket` moves the counter, whether its `connect` succeeds or not. -/
theorem nextPort_openSocket
    (stack : SmolStack World Tcp Icmp)
    (target : SocketAddrV4)
    (state : EngineState World Tcp Icmp) :
    (openSocket stack target state).2.engine.nextPort =
      advancePort state.engine.nextPort := by
  unfold openSocket
  dsimp only
  split <;> rfl

/-- `open_socket` hands the port at the counter to `connect`, and no other. -/
theorem ports_openSocket
    (stack : SmolStack World Tcp Icmp)
    (target : SocketAddrV4)
    (state : EngineState (PortRecord World) Tcp Icmp) :
    (openSocket stack.recording target state).2.world.ports =
      state.world.ports ++ [state.engine.nextPort] := by
  unfold openSocket
  dsimp only
  split <;> rfl

/-- Recording changes nothing of what `open_socket` does. -/
theorem forget_openSocket
    (stack : SmolStack World Tcp Icmp)
    (target : SocketAddrV4)
    (state : EngineState (PortRecord World) Tcp Icmp) :
    (openSocket stack.recording target state).1 =
        (openSocket stack target state.forget).1 ∧
      (openSocket stack.recording target state).2.forget =
        (openSocket stack target state.forget).2 := by
  unfold openSocket
  dsimp only [SmolStack.recording, EngineState.forget]
  split <;> exact ⟨rfl, rfl⟩

/-- The ports of a history are those of its calls, one after the other. -/
theorem Opens.portsOf
    (opens : Opens stack start calls state)
    (fresh : start.engine.nextPort = 49152)
    (unrecorded : start.world.ports = []) :
    state.world.ports = Waker.portsOf calls ∧
      state.engine.nextPort = portOf calls := by
  induction opens with
  | start =>
      exact ⟨unrecorded, fresh⟩
  | openSocket earlier target inductionHypothesis =>
      obtain ⟨inOrder, counter⟩ := inductionHypothesis
      rw [nextPort_openSocket, ports_openSocket, counter, advancePort_portOf,
        inOrder]
      refine ⟨?_, rfl⟩
      unfold Waker.portsOf
      rw [List.range_succ, List.map_append]
      rfl
  | other earlier unopened inductionHypothesis =>
      rw [unopened.1, unopened.2]
      exact inductionHypothesis

/-- The loop of an HTTP exchange opens no socket. -/
theorem unopened_httpLoop
    {handle : Nat}
    {target : SocketAddrV4}
    {request response : List UInt8}
    {deadline : Instant}
    {fuel : Nat}
    {sent : Bool}
    {final : EngineState (PortRecord World) Tcp Icmp}
    {result : Except NetError (List UInt8)}
    (returned :
      httpLoop stack.recording handle target request deadline fuel sent
        response state = some (result, final)) :
    Unopened state final := by
  induction fuel generalizing sent response state with
  | zero =>
      cases returned
  | succ fuel inductionHypothesis =>
      simp only [httpLoop] at returned
      split at returned
      · cases returned
      · split at returned
        · cases returned
          exact ⟨rfl, rfl⟩
        · split at returned
          · cases returned
          · cases returned
            exact ⟨rfl, rfl⟩
          · split at returned
            · cases returned
              exact ⟨rfl, rfl⟩
            · split at returned
              · cases returned
                exact ⟨rfl, rfl⟩
              · split at returned
                · cases returned
                  exact ⟨rfl, rfl⟩
                · have later := inductionHypothesis returned
                  exact later

/-- The loop of a TCP probe opens no socket. -/
theorem unopened_connectLoop
    {handle : Nat}
    {deadline : Instant}
    {fuel : Nat}
    {final : EngineState (PortRecord World) Tcp Icmp}
    {result : Except NetError Bool}
    (returned :
      connectLoop stack.recording handle deadline fuel state =
        some (result, final)) :
    Unopened state final := by
  induction fuel generalizing state with
  | zero =>
      cases returned
  | succ fuel inductionHypothesis =>
      simp only [connectLoop] at returned
      split at returned
      · cases returned
      · split at returned
        · cases returned
          exact ⟨rfl, rfl⟩
        · split at returned
          · cases returned
            exact ⟨rfl, rfl⟩
          · split at returned
            · cases returned
              exact ⟨rfl, rfl⟩
            · have later := inductionHypothesis returned
              exact later

/-- The loop of a ping opens no socket. -/
theorem unopened_pingLoop
    {handle : Nat}
    {target : Ipv4Addr}
    {deadline : Instant}
    {fuel : Nat}
    {final : EngineState (PortRecord World) Tcp Icmp}
    {result : Except NetError Bool}
    (returned :
      pingLoop stack.recording handle target deadline fuel state =
        some (result, final)) :
    Unopened state final := by
  induction fuel generalizing state with
  | zero =>
      cases returned
  | succ fuel inductionHypothesis =>
      simp only [pingLoop] at returned
      split at returned
      · cases returned
      · split at returned
        · cases returned
        · cases returned
          exact ⟨rfl, rfl⟩
        · cases returned
          exact ⟨rfl, rfl⟩
        · split at returned
          · cases returned
            exact ⟨rfl, rfl⟩
          · have later := inductionHypothesis returned
            exact later

/-- A command continues the history, with a call if it opens a socket. -/
theorem Opens.execute
    {fuel : Nat}
    {command : NetCommand}
    {response : NetResponse}
    {final : EngineState (PortRecord World) Tcp Icmp}
    (opens : Opens stack start calls state)
    (executed :
      execute stack.recording fuel command state = some (response, final)) :
    ∃ more, Opens stack start (calls + more) final := by
  cases command with
  | http target request timeout =>
      obtain ⟨⟨result, after⟩, returned, same⟩ :=
        Option.map_eq_some_iff.mp executed
      cases same
      have opened := opens.openSocket target
      simp only [http] at returned
      split at returned
      · rename_i failed
        cases returned
        rw [failed] at opened
        exact ⟨1, opened⟩
      · rename_i started
        rw [started] at opened
        exact ⟨1, opened.other (unopened_httpLoop returned)⟩
  | probe target timeout =>
      obtain ⟨⟨result, after⟩, returned, same⟩ :=
        Option.map_eq_some_iff.mp executed
      cases same
      have opened := opens.openSocket target
      simp only [probe] at returned
      split at returned
      · rename_i failed
        cases returned
        rw [failed] at opened
        exact ⟨1, opened⟩
      · rename_i started
        rw [started] at opened
        exact ⟨1, opened.other (unopened_connectLoop returned)⟩
  | ping target timeout =>
      obtain ⟨⟨result, after⟩, returned, same⟩ :=
        Option.map_eq_some_iff.mp executed
      cases same
      refine ⟨0, ?_⟩
      simp only [ping] at returned
      split at returned
      · cases returned
        exact opens
      · split at returned
        · cases returned
          exact opens
        · have unopened := unopened_pingLoop returned
          exact opens.other unopened

/-- Whatever commands the engine has executed, its history is one of these. -/
theorem Opens.run
    {fuel : Nat}
    {commands : List NetCommand}
    {outcomes :
      List (NetResponse × EngineState (PortRecord World) Tcp Icmp)}
    (opens : Opens stack start calls state)
    (returned : run stack.recording fuel commands state = some outcomes) :
    ∀ outcome,
      outcome ∈ outcomes →
      ∃ more, Opens stack start (calls + more) outcome.2 := by
  induction commands generalizing state calls outcomes with
  | nil =>
      cases returned
      simp
  | cons command rest inductionHypothesis =>
      simp only [Waker.run] at returned
      split at returned
      · cases returned
      · rename_i response after executed
        obtain ⟨later, returnedLater, rfl⟩ :=
          Option.map_eq_some_iff.mp returned
        obtain ⟨first, opened⟩ := opens.execute executed
        intro outcome member
        rcases List.mem_cons.mp member with rfl | inLater
        · exact ⟨first, opened⟩
        · obtain ⟨others, opensLater⟩ :=
            inductionHypothesis opened returnedLater outcome inLater
          exact ⟨first + others, by rwa [← Nat.add_assoc]⟩

/--
From the construction of the engine on, the counter is an ephemeral port whose
increment does not overflow, each call of `open_socket` hands one port to
`connect`, every port that `connect` receives is an ephemeral port, and those
of any 16384 consecutive calls differ from each other.
-/
theorem Opens.portsInOrder
    {address : Ipv4Network}
    (built : SmolEngine.new address = .ok start.engine)
    (unrecorded : start.world.ports = [])
    (opens : Opens stack start calls state) :
    PortsInOrder state ∧ state.world.ports.length = calls := by
  obtain ⟨inOrder, counter⟩ :=
    opens.portsOf (nextPort_new built) unrecorded
  have isPort (call : Nat) :
      49152 ≤ (portOf call).toNat ∧ (portOf call).toNat ≤ 65535 := by
    have below : call % ephemeralPorts < 16384 :=
      Nat.mod_lt call (by decide)
    rw [toNat_portOf]
    omega
  refine ⟨⟨?_, ?_, ?_, ?_⟩, ?_⟩
  · rw [counter]
    exact isPort _
  · intro notLast
    have below : state.engine.nextPort.toNat ≠ 65535 :=
      fun same => notLast (UInt16.toNat.inj same)
    have bound := state.engine.nextPort.toNat_lt
    rw [UInt16.toNat_add]
    change (state.engine.nextPort.toNat + 1) % 65536 = _
    omega
  · intro port member
    rw [inOrder] at member
    obtain ⟨call, -, rfl⟩ := List.mem_map.mp member
    exact isPort call
  · intro first
    rw [inOrder]
    exact nodup_portsOf _ first
  · rw [inOrder, Waker.portsOf, List.length_map, List.length_range]

end Histories

/-- The loopback stack with a `connect` that refuses remote port 0. -/
def refusingStack : SmolStack Instant LoopTcp LoopIcmp :=
  { Loopback.stack with
    connect := fun iface clock socket remote port =>
      if remote.port = 0 then
        (clock, .error "Unaddressable")
      else
        Loopback.stack.connect iface clock socket remote port }

/-- A refused `connect` between two others takes a port of its own. -/
theorem Opens.portsInOrder_refused :
    ∃ start state,
      SmolEngine.new ⟨⟨10, 8, 0, 2⟩, 32, by decide⟩ =
        .ok start.engine ∧
      Opens refusingStack start 3 state ∧
      state.world.ports = [49152, 49153, 49154] ∧
      PortsInOrder state := by
  obtain ⟨start, built, unrecorded⟩ :
      ∃ start : EngineState (PortRecord Instant) LoopTcp LoopIcmp,
        SmolEngine.new ⟨⟨10, 8, 0, 2⟩, 32, by decide⟩ =
          .ok start.engine ∧
        start.world.ports = [] :=
    ⟨⟨_, ⟨0, []⟩⟩, rfl, rfl⟩
  have opens :=
    (((Opens.start : Opens refusingStack start 0 start).openSocket
      ⟨⟨192, 168, 178, 1⟩, 49000⟩).openSocket
      ⟨⟨192, 168, 178, 1⟩, 0⟩).openSocket ⟨⟨192, 168, 178, 1⟩, 49000⟩
  refine ⟨start, _, built, opens, ?_,
    (Opens.portsInOrder built unrecorded opens).1⟩
  simp only [ports_openSocket, nextPort_openSocket, nextPort_new built,
    unrecorded]
  decide

end Waker
