import Waker.EngineSockets

namespace Waker

/-!
# A stack on which every command completes

Connections are established by the first poll and closed by the poll after the
local side has closed; an echo request is answered at once.  On this stack a
request that does not fit leaves its connection open, which makes the condition
of `run_rested` necessary.
-/

/-- A connection that receives nothing. -/
structure LoopTcp where
  state : TcpState
  txFree : Nat
  deriving Repr, DecidableEq

/-- An ICMP socket holding at most one answer. -/
structure LoopIcmp where
  answer : Option (List UInt8 × IpAddress)
  deriving Repr, DecidableEq

namespace Loopback

/-- The answer to an echo request, whose first byte is its type. -/
def answerTo (bytes : List UInt8) : List UInt8 :=
  0 :: bytes.drop 1

/-- The bytes of an echo message without its checksum. -/
def emit : Icmpv4Repr → List UInt8
  | .echoRequest ident seqNo data =>
      8 :: (ident >>> 8).toUInt8 :: ident.toUInt8 ::
        (seqNo >>> 8).toUInt8 :: seqNo.toUInt8 :: data
  | .echoReply ident seqNo data =>
      0 :: (ident >>> 8).toUInt8 :: ident.toUInt8 ::
        (seqNo >>> 8).toUInt8 :: seqNo.toUInt8 :: data
  | .other => []

/-- Read an echo message. -/
def parse : List UInt8 → Option Icmpv4Repr
  | kind :: identHigh :: identLow :: seqHigh :: seqLow :: data =>
      let ident := (identHigh.toUInt16 <<< 8) ||| identLow.toUInt16
      let seqNo := (seqHigh.toUInt16 <<< 8) ||| seqLow.toUInt16
      if kind = 0 then
        some (.echoReply ident seqNo data)
      else if kind = 8 then
        some (.echoRequest ident seqNo data)
      else
        some .other
  | _ => none

/-- What one poll does to a connection. -/
def advanceTcp (socket : LoopTcp) : LoopTcp :=
  match socket.state with
  | .synSent => { socket with state := .established }
  | .finWait1 => { socket with state := .timeWait }
  | _ => socket

/-- What one poll does to a socket. -/
def advance : Socket LoopTcp LoopIcmp → Socket LoopTcp LoopIcmp
  | .tcp socket => .tcp (advanceTcp socket)
  | .icmp socket => .icmp socket

/-- The stack; its world is the clock. -/
def stack : SmolStack Instant LoopTcp LoopIcmp where
  now clock := clock
  sleep pause clock := clock + pause
  poll _ clock sockets := (clock, sockets.map (Option.map advance))
  tcpNew _ txBuffer := ⟨.closed, txBuffer⟩
  connect _ clock socket _ _ := (clock, .ok { socket with state := .synSent })
  state socket := socket.state
  maySend socket := socket.state = .established
  mayRecv socket := socket.state = .established || socket.state = .finWait1
  canRecv _ := false
  txFree socket := socket.txFree
  sendSlice socket data :=
    let count := min data.length socket.txFree
    .ok (count, { socket with txFree := socket.txFree - count })
  recv _ := .error "Finished"
  close socket := { socket with state := .finWait1 }
  abort socket := { socket with state := .closed }
  icmpNew _ _ _ _ := ⟨none⟩
  icmpBind socket _ := .ok socket
  icmpSend _ bytes destination := .ok ⟨some (answerTo bytes, destination)⟩
  icmpCanRecv socket := socket.answer.isSome
  icmpRecv socket :=
    match socket.answer with
    | some packet => .ok (packet, ⟨none⟩)
    | none => .error "Exhausted"
  icmpEmit := emit
  icmpNewChecked bytes := 5 ≤ bytes.length
  icmpParse := parse

/-- A poll keeps the kind of a socket. -/
theorem kind_advance (socket : Socket LoopTcp LoopIcmp) :
    (advance socket).kind = socket.kind := by
  cases socket <;> rfl

/-- A poll takes no transmit space. -/
theorem txFree_advanceTcp (socket : LoopTcp) :
    (advanceTcp socket).txFree = socket.txFree := by
  unfold advanceTcp
  split <;> rfl

/-- A poll advances the socket at every handle. -/
theorem get?_poll
    (iface : Interface)
    (clock : Instant)
    (sockets : SocketSet (Socket LoopTcp LoopIcmp))
    (handle : Nat) :
    SlotMaps.get? (stack.poll iface clock sockets).2 handle =
      (SlotMaps.get? sockets handle).map advance :=
  SlotTable.get?_map sockets advance handle

/-- A poll advances the connection at every handle. -/
theorem getTcp?_poll
    (iface : Interface)
    (clock : Instant)
    (sockets : SocketSet (Socket LoopTcp LoopIcmp))
    (handle : Nat) :
    (stack.poll iface clock sockets).2.getTcp? handle =
      (sockets.getTcp? handle).map advanceTcp := by
  simp only [SocketSet.getTcp?, get?_poll]
  cases SlotMaps.get? sockets handle with
  | none =>
      rfl
  | some socket =>
      cases socket <;> rfl

/-- The stack satisfies what the engine relies on. -/
theorem lawful : stack.Lawful where
  poll_kind iface clock sockets handle := by
    rw [get?_poll, Option.map_map]
    exact congrArg (fun kind => (SlotMaps.get? sockets handle).map kind)
      (funext kind_advance)
  txFree_new _ _ := rfl
  txFree_connect _ _ _ _ _ _ connected := by
    cases connected
    exact Nat.le_refl _
  txFree_poll iface clock sockets handle socket polled found polledThere := by
    rw [getTcp?_poll, found] at polledThere
    cases polledThere
    exact Nat.le_of_eq (txFree_advanceTcp socket).symm
  txFree_recv _ _ _ received := by
    cases received
  sendSlice_ok _ _ _ := ⟨_, rfl⟩
  recv_ok _ canRecv := by
    cases canRecv
  icmpRecv_ok socket canRecv := by
    obtain ⟨packet, held⟩ := Option.isSome_iff_exists.mp canRecv
    exact ⟨packet, ⟨none⟩, by simp [stack, held]⟩

/-- The engine's state on this stack. -/
abbrev LoopState :=
  EngineState Instant LoopTcp LoopIcmp

/-- Opening a connection always succeeds. -/
theorem openSocket_loop
    (target : SocketAddrV4)
    (state : LoopState) :
    ∃ handle opened,
      openSocket stack target state = (.ok handle, opened) ∧
      opened.engine.sockets.getTcp? handle =
        some ⟨.synSent, TCP_TX_BUFFER⟩ :=
  ⟨_, _, rfl,
    EngineState.getTcp?_eq_some_iff.mpr
      (LawfulSlotMaps.get?_put
        (LawfulSlotMaps.get?_add state.engine.sockets _) _)⟩

/-- The first poll establishes a new connection. -/
theorem getTcp?_poll_synSent
    {handle : Nat}
    {state : LoopState}
    (opened :
      state.engine.sockets.getTcp? handle =
        some ⟨.synSent, TCP_TX_BUFFER⟩) :
    (state.poll stack).engine.sockets.getTcp? handle =
      some ⟨.established, TCP_TX_BUFFER⟩ := by
  simp only [EngineState.poll, getTcp?_poll, opened]
  rfl

/-- Once the request is sent, the next poll completes the exchange. -/
theorem exists_httpLoop_finWait1
    {handle : Nat}
    {target : SocketAddrV4}
    {request : List UInt8}
    {deadline : Instant}
    {free : Nat}
    {state : LoopState}
    (closing :
      state.engine.sockets.getTcp? handle = some ⟨.finWait1, free⟩) :
    ∃ outcome,
      httpLoop stack handle target request deadline 2 true [] state =
        some outcome := by
  have polled :
      (state.poll stack).engine.sockets.getTcp? handle =
        some ⟨.timeWait, free⟩ := by
    simp only [EngineState.poll, getTcp?_poll, closing]
    rfl
  rw [httpLoop, polled]
  exact ⟨_, rfl⟩

/-- A request that fits is sent, and the exchange ends by itself. -/
theorem exists_http_of_fits
    (target : SocketAddrV4)
    {request : List UInt8}
    (timeout : Duration)
    (fits : request.length ≤ TCP_TX_BUFFER)
    (state : LoopState) :
    ∃ outcome, http stack 3 target request timeout state = some outcome := by
  obtain ⟨handle, opened, started, present⟩ := openSocket_loop target state
  have established := getTcp?_poll_synSent present
  have handed :
      sendRequest stack request false ⟨.established, TCP_TX_BUFFER⟩ =
        (.ok true, ⟨.finWait1, TCP_TX_BUFFER - request.length⟩) := by
    simp [sendRequest, stack, Nat.min_eq_left fits]
  simp only [http, started]
  rw [httpLoop, established]
  have received (socket : LoopTcp) :
      receiveAll stack 2 [] socket = some (.ok [], socket) :=
    rfl
  simp only [handed, received]
  split
  · exact ⟨_, rfl⟩
  · split
    · exact ⟨_, rfl⟩
    · split
      · exact ⟨_, rfl⟩
      · exact exists_httpLoop_finWait1
          (EngineState.getTcp?_put established _)

/-- A request that does not fit fails and leaves its connection in the set. -/
theorem exists_http_of_not_fits
    (target : SocketAddrV4)
    {request : List UInt8}
    (timeout : Duration)
    (oversized : TCP_TX_BUFFER < request.length)
    (state : LoopState) :
    ∃ result final,
      http stack 3 target request timeout state = some (result, final) ∧
      ¬ final.Rested := by
  obtain ⟨handle, opened, started, present⟩ := openSocket_loop target state
  have established := getTcp?_poll_synSent present
  have partly : min request.length TCP_TX_BUFFER = TCP_TX_BUFFER :=
    Nat.min_eq_right (Nat.le_of_lt oversized)
  have refused :
      sendRequest stack request false ⟨.established, TCP_TX_BUFFER⟩ =
        (.error (.network
          "HTTP request did not fit in the smoltcp transmit buffer"),
          ⟨.established, 0⟩) := by
    simp [sendRequest, stack, partly, Nat.ne_of_lt oversized]
  simp only [http, started]
  rw [httpLoop, established]
  simp only [refused]
  refine ⟨_, _, rfl, fun rested => ?_⟩
  have left :=
    EngineState.getTcp?_eq_some_iff.mp
      (EngineState.getTcp?_put established ⟨.established, 0⟩)
  rw [show SlotMaps.get? _ handle = none from rested handle] at left
  cases left

/-- A probe succeeds after its first poll. -/
theorem exists_probe
    (target : SocketAddrV4)
    (timeout : Duration)
    (state : LoopState) :
    ∃ outcome, probe stack 3 target timeout state = some outcome := by
  obtain ⟨handle, opened, started, present⟩ := openSocket_loop target state
  have established := getTcp?_poll_synSent present
  simp only [probe, started]
  rw [connectLoop, established]
  exact ⟨_, rfl⟩

/-- The answer to the engine's echo request is recognised. -/
theorem isEchoReply_answerTo (target : Ipv4Addr) :
    isEchoReply stack target
      (answerTo
        (emit (.echoRequest ICMP_IDENT ICMP_SEQUENCE ICMP_PAYLOAD)))
      (.ipv4 target) = true := by
  have parsed :
      parse
        (answerTo
          (emit (.echoRequest ICMP_IDENT ICMP_SEQUENCE ICMP_PAYLOAD))) =
        some (.echoReply ICMP_IDENT ICMP_SEQUENCE ICMP_PAYLOAD) := by
    decide
  simp only [isEchoReply, stack, parsed]
  simp [answerTo, emit]

/-- The first poll after the answer has arrived ends the ping. -/
theorem exists_pingLoop
    {handle : Nat}
    {target : Ipv4Addr}
    {deadline : Instant}
    {answer : List UInt8}
    {state : LoopState}
    (recognised : isEchoReply stack target answer (.ipv4 target) = true)
    (waiting :
      SlotMaps.get? state.engine.sockets handle =
        some (.icmp ⟨some (answer, .ipv4 target)⟩)) :
    ∃ outcome,
      pingLoop stack handle target deadline 3 state = some outcome := by
  have polled :
      (state.poll stack).engine.sockets.getIcmp? handle =
        some ⟨some (answer, .ipv4 target)⟩ := by
    simp only [EngineState.poll, SocketSet.getIcmp?, get?_poll, waiting]
    rfl
  have answered :
      receiveReply stack target 2 ⟨some (answer, .ipv4 target)⟩ =
        some (.ok true, ⟨none⟩) := by
    have received :
        stack.icmpRecv ⟨some (answer, .ipv4 target)⟩ =
          .ok ((answer, .ipv4 target), ⟨none⟩) :=
      rfl
    simp only [receiveReply, received, recognised]
    rfl
  rw [pingLoop, polled]
  simp only [answered]
  exact ⟨_, rfl⟩

/-- A ping is answered at once. -/
theorem exists_ping
    (target : Ipv4Addr)
    (timeout : Duration)
    (state : LoopState) :
    ∃ outcome, ping stack 3 target timeout state = some outcome :=
  exists_pingLoop (isEchoReply_answerTo target)
    (LawfulSlotMaps.get?_add state.engine.sockets _)

/-- Every command completes. -/
theorem exists_execute
    (command : NetCommand)
    (state : LoopState) :
    ∃ response after,
      execute stack 3 command state = some (response, after) ∧
      (¬ command.Fits → ¬ after.Rested) := by
  cases command with
  | http target request timeout =>
      by_cases fits : request.length ≤ TCP_TX_BUFFER
      · obtain ⟨⟨result, after⟩, returned⟩ :=
          exists_http_of_fits target timeout fits state
        exact ⟨.http result, after, by simp [execute, returned],
          fun misfit => (misfit fits).elim⟩
      · obtain ⟨result, after, returned, left⟩ :=
          exists_http_of_not_fits target timeout
            (Nat.lt_of_not_le fits) state
        exact ⟨.http result, after, by simp [execute, returned],
          fun _ => left⟩
  | probe target timeout =>
      obtain ⟨⟨result, after⟩, returned⟩ :=
        exists_probe target timeout state
      exact ⟨.probe result, after, by simp [execute, returned],
        fun misfit => (misfit trivial).elim⟩
  | ping target timeout =>
      obtain ⟨⟨result, after⟩, returned⟩ :=
        exists_ping target timeout state
      exact ⟨.ping result, after, by simp [execute, returned],
        fun misfit => (misfit trivial).elim⟩

/-- A run with an oversized request is seen to leave a socket behind. -/
theorem exists_run
    (commands : List NetCommand)
    (state : LoopState) :
    ∃ trace,
      run stack 3 commands state = some trace ∧
      ((∀ entry, entry ∈ trace → entry.2.Rested) →
        ∀ command, command ∈ commands → command.Fits) := by
  induction commands generalizing state with
  | nil =>
      exact ⟨[], rfl, by simp⟩
  | cons command rest inductionHypothesis =>
      obtain ⟨response, after, executed, left⟩ :=
        exists_execute command state
      obtain ⟨trace, returned, fits⟩ := inductionHypothesis after
      refine ⟨(response, after) :: trace,
        by simp [run, executed, returned], ?_⟩
      rw [List.forall_mem_cons, List.forall_mem_cons]
      exact fun rested =>
        ⟨not_imp_not.mp left rested.1, fits rested.2⟩

end Loopback

/-- After each command of a run the engine holds no socket. -/
def LeavesNoSocket (commands : List NetCommand) : Prop :=
  ∀ [Smoltcp] [LawfulSmoltcp]
    (World Tcp Icmp : Type) (stack : SmolStack World Tcp Icmp),
    stack.Lawful →
    ∀ address engine world,
      SmolEngine.new address = .ok engine →
      ∀ fuel trace,
        run stack fuel commands ⟨engine, world⟩ = some trace →
        ∀ entry, entry ∈ trace → entry.2.Rested

/-- Some network behaviour reveals every oversized request. -/
theorem fits_of_leavesNoSocket
    {commands : List NetCommand}
    (leavesNone : LeavesNoSocket commands) :
    ∀ command, command ∈ commands → command.Fits := by
  let address : Ipv4Network := ⟨⟨10, 0, 0, 2⟩, 24, by decide⟩
  obtain ⟨engine, built⟩ :
      ∃ engine : SmolEngine LoopTcp LoopIcmp,
        SmolEngine.new address = .ok engine :=
    exists_new_ok_iff.mpr (by decide)
  obtain ⟨trace, returned, fits⟩ :=
    Loopback.exists_run commands ⟨engine, 0⟩
  exact fits
    (leavesNone _ _ _ Loopback.stack Loopback.lawful address
      engine _ built _ _ returned)

/--
No network behaviour makes a sequence of commands leave a socket behind
exactly when all its HTTP requests fit in the transmit buffer.
-/
theorem leavesNoSocket_iff (commands : List NetCommand) :
    LeavesNoSocket commands ↔
      ∀ command, command ∈ commands → command.Fits := by
  constructor
  · exact fits_of_leavesNoSocket
  · intro fit _ _ World Tcp Icmp stack lawful address engine world
      built fuel trace returned
    have rested :
        (⟨engine, world⟩ : EngineState World Tcp Icmp).Rested := by
      rw [EngineState.Rested, sockets_new built]
      exact SlotMaps.free_empty
    exact run_rested lawful fit rested returned

/-- A request one byte longer than the transmit buffer. -/
def oversizedCommand : NetCommand :=
  .http ⟨⟨192, 168, 178, 1⟩, 49000⟩
    (List.replicate (TCP_TX_BUFFER + 1) 0) (Duration.fromSecs 5)

/-- Not every sequence of commands leaves the socket set empty. -/
theorem oversizedCommand_leavesSocket :
    ¬ ∀ commands, LeavesNoSocket commands := by
  intro leavesNone
  have fits :=
    fits_of_leavesNoSocket (leavesNone [oversizedCommand])
      oversizedCommand (by simp)
  simp only [NetCommand.Fits, oversizedCommand, List.length_replicate]
    at fits
  exact Nat.not_succ_le_self _ fits

end Waker
