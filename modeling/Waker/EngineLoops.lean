import Waker.EchoReplies
import Waker.PollingLoop

namespace Waker

open PollingLoop

/-!
# The loops of the engine

The loops of the engine are polling loops with a deadline.  Within an iteration
the sockets are drained by loops that end because every transfer takes something
from a buffer.  Neither argument depends on what the network sends.
-/

namespace SmolStack

variable [Smoltcp]
variable {World Tcp Icmp : Type}

/--
A poll keeps the sockets in place, and a transfer from a buffer that is not
empty takes at least one byte or packet.
-/
structure Drains
    (stack : SmolStack World Tcp Icmp)
    (bytes : Tcp → Nat)
    (packets : Icmp → Nat) : Prop where
  poll_kind :
    ∀ iface world sockets handle,
      (SlotMaps.get? (stack.poll iface world sockets).2 handle).map
          Socket.kind =
        (SlotMaps.get? sockets handle).map Socket.kind
  recv :
    ∀ socket data received,
      stack.canRecv socket →
      stack.recv socket = .ok (data, received) →
      bytes received < bytes socket
  icmpRecv :
    ∀ socket packet received,
      stack.icmpCanRecv socket →
      stack.icmpRecv socket = .ok (packet, received) →
      packets received < packets socket

/-- Bounds on how long a connect, a pause and a poll may last. -/
structure PaceBounded
    (stack : SmolStack World Tcp Icmp)
    (opening pausing polling : Duration) : Prop where
  connect :
    ∀ iface world socket remote port,
      stack.now (stack.connect iface world socket remote port).1 ≤
        stack.now world + opening
  sleep :
    ∀ world,
      stack.now (stack.sleep pollPause world) ≤ stack.now world + pausing
  poll :
    ∀ iface world sockets,
      stack.now (stack.poll iface world sockets).1 ≤
        stack.now world + polling

end SmolStack

section Receiving

variable [Smoltcp]
variable {World Tcp Icmp : Type}

/-- One round of the loop that receives bytes. -/
def receiveRound
    (stack : SmolStack World Tcp Icmp)
    (entry : List UInt8 × Tcp) :
    Outcome (List UInt8 × Tcp) (Except NetError (List UInt8) × Tcp) :=
  if stack.canRecv entry.2 then
    match stack.recv entry.2 with
    | .error error =>
        .done (.error (.network ("TCP receive failed: " ++ error)), entry.2)
    | .ok (bytes, socket) => .again (entry.1 ++ bytes, socket)
  else
    .done (.ok entry.1, entry.2)

/-- One round of the loop that takes packets. -/
def replyRound
    (stack : SmolStack World Tcp Icmp)
    (target : Ipv4Addr)
    (socket : Icmp) : Outcome Icmp (Except NetError Bool × Icmp) :=
  if stack.icmpCanRecv socket then
    match stack.icmpRecv socket with
    | .error error =>
        .done (.error (.network ("ICMP receive failed: " ++ error)), socket)
    | .ok ((bytes, source), socket) =>
        if isEchoReply stack target bytes source then
          .done (.ok true, socket)
        else
          .again socket
  else
    .done (.ok false, socket)

variable {stack : SmolStack World Tcp Icmp}

/-- Receiving bytes is a loop without pauses. -/
theorem receiveAll_eq_loop
    (fuel : Nat)
    (response : List UInt8)
    (socket : Tcp) :
    receiveAll stack fuel response socket =
      loop (fun _ entry => some (receiveRound stack entry)) id fuel
        (response, socket) := by
  induction fuel generalizing response socket with
  | zero =>
      rfl
  | succ fuel inductionHypothesis =>
      by_cases canRecv : stack.canRecv socket = true
      · cases received : stack.recv socket with
        | error error =>
            simp [receiveAll, loop, receiveRound, canRecv, received]
        | ok transfer =>
            simp [receiveAll, loop, receiveRound, canRecv, received,
              inductionHypothesis]
      · simp [receiveAll, loop, receiveRound, canRecv]

/-- Taking packets is a loop without pauses. -/
theorem receiveReply_eq_loop
    (target : Ipv4Addr)
    (fuel : Nat)
    (socket : Icmp) :
    receiveReply stack target fuel socket =
      loop (fun _ socket => some (replyRound stack target socket)) id fuel
        socket := by
  induction fuel generalizing socket with
  | zero =>
      rfl
  | succ fuel inductionHypothesis =>
      by_cases canRecv : stack.icmpCanRecv socket = true
      · cases received : stack.icmpRecv socket with
        | error error =>
            simp [receiveReply, loop, replyRound, canRecv, received]
        | ok transfer =>
            obtain ⟨⟨bytes, source⟩, after⟩ := transfer
            by_cases isReply :
                isEchoReply stack target bytes source = true
            · simp [receiveReply, loop, replyRound, canRecv, received,
                isReply]
            · simp [receiveReply, loop, replyRound, canRecv, received,
                isReply, inductionHypothesis]
      · simp [receiveReply, loop, replyRound, canRecv]

variable {bytes : Tcp → Nat}
variable {packets : Icmp → Nat}

/-- A round of receiving that is not the last one takes a byte. -/
theorem SmolStack.Drains.receiveRound_lowers
    (drains : stack.Drains bytes packets)
    {entry after : List UInt8 × Tcp}
    (again : receiveRound stack entry = .again after) :
    bytes after.2 < bytes entry.2 := by
  simp only [receiveRound] at again
  split at again
  · rename_i canRecv
    split at again
    · cases again
    · rename_i received
      cases again
      exact drains.recv _ _ _ canRecv received
  · cases again

/-- A round of taking packets that is not the last one takes a packet. -/
theorem SmolStack.Drains.replyRound_lowers
    (drains : stack.Drains bytes packets)
    {target : Ipv4Addr}
    {socket after : Icmp}
    (again : replyRound stack target socket = .again after) :
    packets after < packets socket := by
  simp only [replyRound] at again
  split at again
  · rename_i canRecv
    split at again
    · cases again
    · rename_i received
      split at again
      · cases again
      · cases again
        exact drains.icmpRecv _ _ _ canRecv received
  · cases again

/-- Receiving ends, whatever has been buffered. -/
theorem SmolStack.Drains.exists_receiveAll
    (drains : stack.Drains bytes packets)
    (response : List UInt8)
    (socket : Tcp) :
    ∃ result,
      ∀ fuel,
        bytes socket < fuel →
        receiveAll stack fuel response socket = some result := by
  obtain ⟨result, returns⟩ :=
    exists_loop_of_measure (receiveRound stack) id
      (fun entry => bytes entry.2)
      (fun _ _ again => drains.receiveRound_lowers again)
      (response, socket)
  exact ⟨result, fun fuel more =>
    (receiveAll_eq_loop fuel response socket).trans (returns fuel more)⟩

/-- Taking packets ends, whatever they contain. -/
theorem SmolStack.Drains.exists_receiveReply
    (drains : stack.Drains bytes packets)
    (target : Ipv4Addr)
    (socket : Icmp) :
    ∃ result,
      ∀ fuel,
        packets socket < fuel →
        receiveReply stack target fuel socket = some result := by
  obtain ⟨result, returns⟩ :=
    exists_loop_of_measure (replyRound stack target) id packets
      (fun _ _ again => drains.replyRound_lowers again)
      socket
  exact ⟨result, fun fuel more =>
    (receiveReply_eq_loop target fuel socket).trans (returns fuel more)⟩

end Receiving

section Iterations

variable [Smoltcp]
variable {World Tcp Icmp : Type}

/-- The set holds a socket of this kind at the handle. -/
def EngineState.Holds
    (kind : SocketKind)
    (handle : Nat)
    (state : EngineState World Tcp Icmp) : Prop :=
  (SlotMaps.get? state.engine.sockets handle).map Socket.kind = some kind

/--
What an iteration that goes on has done: it has polled once, read the clock
before the deadline and kept its socket.
-/
structure Continues
    (stack : SmolStack World Tcp Icmp)
    (kind : SocketKind)
    (handle : Nat)
    (deadline : Instant)
    (before after : EngineState World Tcp Icmp) : Prop where
  polled : after.world = (before.poll stack).world
  early : stack.now after.world < deadline
  holds : after.Holds kind handle

/-- What the last iteration has done: it has polled once or twice. -/
inductive Ends
    (stack : SmolStack World Tcp Icmp)
    (before after : EngineState World Tcp Icmp) : Prop where
  | once (polled : after.world = (before.poll stack).world)
  | twice
      (iface : Interface)
      (sockets : SocketSet (Socket Tcp Icmp))
      (polled :
        after.world =
          (stack.poll iface (before.poll stack).world sockets).1)

/-- The body and the pause of one of the loops of the engine. -/
structure EngineLoop
    {Entry Answer : Type}
    (stack : SmolStack World Tcp Icmp)
    (kind : SocketKind)
    (handle : Nat)
    (deadline : Instant)
    (engine : Entry → EngineState World Tcp Icmp)
    (body :
      Nat → Entry →
      Option (Outcome Entry (Answer × EngineState World Tcp Icmp)))
    (pause : Entry → Entry) : Prop where
  pauses : ∀ entry, engine (pause entry) = (engine entry).sleep stack
  settles :
    ∀ entry,
      (engine entry).Holds kind handle →
      ∃ outcome, Settles body entry outcome
  again :
    ∀ fuel entry after,
      body fuel entry = some (.again after) →
      Continues stack kind handle deadline (engine entry) (engine after)
  done :
    ∀ fuel entry result,
      body fuel entry = some (.done result) →
      Ends stack (engine entry) result.2

variable {stack : SmolStack World Tcp Icmp}
variable {handle : Nat}

/-- A TCP socket can be borrowed from where the set holds one. -/
theorem EngineState.Holds.exists_getTcp?
    {state : EngineState World Tcp Icmp}
    (holds : state.Holds .tcp handle) :
    ∃ socket, state.engine.sockets.getTcp? handle = some socket :=
  Option.isSome_iff_exists.mp (EngineState.getTcp?_isSome_iff.mpr holds)

/-- An ICMP socket can be borrowed from where the set holds one. -/
theorem EngineState.Holds.exists_getIcmp?
    {state : EngineState World Tcp Icmp}
    (holds : state.Holds .icmp handle) :
    ∃ socket, state.engine.sockets.getIcmp? handle = some socket := by
  obtain ⟨held, present, isIcmp⟩ := Option.map_eq_some_iff.mp holds
  cases held with
  | tcp socket =>
      cases isIcmp
  | icmp socket =>
      exact ⟨socket, by rw [SocketSet.getIcmp?, present]⟩

/-- Where a TCP socket is found, the set holds one. -/
theorem EngineState.holds_of_getTcp?
    {state : EngineState World Tcp Icmp}
    {socket : Tcp}
    (present : state.engine.sockets.getTcp? handle = some socket) :
    state.Holds .tcp handle :=
  EngineState.getTcp?_isSome_iff.mp
    (Option.isSome_iff_exists.mpr ⟨socket, present⟩)

/-- Where an ICMP socket is found, the set holds one. -/
theorem EngineState.holds_of_getIcmp?
    {state : EngineState World Tcp Icmp}
    {socket : Icmp}
    (present : state.engine.sockets.getIcmp? handle = some socket) :
    state.Holds .icmp handle :=
  congrArg (Option.map Socket.kind) (getIcmp?_eq_some present)

/-- A poll keeps the socket of the loop. -/
theorem EngineState.Holds.poll
    {bytes : Tcp → Nat}
    {packets : Icmp → Nat}
    (drains : stack.Drains bytes packets)
    {kind : SocketKind}
    {state : EngineState World Tcp Icmp}
    (holds : state.Holds kind handle) :
    (state.poll stack).Holds kind handle :=
  (drains.poll_kind state.engine.iface state.world state.engine.sockets
    handle).trans holds

section Paces

variable {Entry Answer : Type}
variable {kind : SocketKind}
variable {deadline : Instant}
variable {engine : Entry → EngineState World Tcp Icmp}
variable {body :
  Nat → Entry →
  Option (Outcome Entry (Answer × EngineState World Tcp Icmp))}
variable {pause : Entry → Entry}

/-- The loops of the engine have a deadline, and their pauses last 5 ms. -/
theorem EngineLoop.paced
    (isLoop : EngineLoop stack kind handle deadline engine body pause)
    (passes : stack.TimePasses) :
    Paced body pause
      (fun entry => (engine entry).Holds kind handle)
      (fun entry => stack.now (engine entry).world)
      pollPause deadline where
  settles := isLoop.settles
  keeps entry after _ settles := by
    obtain ⟨enough, ends⟩ := settles
    have continues :=
      isLoop.again enough entry after (ends enough (Nat.le_refl enough))
    rw [isLoop.pauses]
    exact continues.holds
  forward entry after _ settles := by
    obtain ⟨enough, ends⟩ := settles
    have continues :=
      isLoop.again enough entry after (ends enough (Nat.le_refl enough))
    rw [continues.polled]
    exact passes.poll _ _ _
  early entry after _ settles := by
    obtain ⟨enough, ends⟩ := settles
    exact
      (isLoop.again enough entry after
        (ends enough (Nat.le_refl enough))).early
  passes entry := by
    rw [isLoop.pauses]
    exact passes.sleep pollPause (engine entry).world

/-- The last iteration lasts at most two polls. -/
theorem Ends.now_le
    {before after : EngineState World Tcp Icmp}
    {opening pausing polling : Duration}
    (ends : Ends stack before after)
    (bounded : stack.PaceBounded opening pausing polling) :
    stack.now after.world ≤ stack.now before.world + 2 * polling := by
  have first :
      stack.now (before.poll stack).world ≤
        stack.now before.world + polling :=
    bounded.poll _ _ _
  cases ends with
  | once polled =>
      rw [polled]
      exact Nat.le_trans first
        (Nat.add_le_add_left (Nat.le_mul_of_pos_left polling Nat.two_pos) _)
  | twice iface sockets polled =>
      have second := bounded.poll iface (before.poll stack).world sockets
      rw [polled, Nat.two_mul, ← Nat.add_assoc]
      exact Nat.le_trans second (Nat.add_le_add_right first polling)

/-- The loop ends, one iteration after its deadline at the latest. -/
theorem EngineLoop.finishes
    {entry : Entry}
    {timeout : Duration}
    (isLoop :
      EngineLoop stack kind handle
        (stack.now (engine entry).world + timeout) engine body pause)
    (passes : stack.TimePasses)
    (holds : (engine entry).Holds kind handle) :
    ∃ iterations result,
      Iterates body pause iterations entry result ∧
        iterations ≤ (timeout + pollPause - 1) / pollPause + 1 ∧
        ∀ opening pausing polling,
          stack.PaceBounded opening pausing polling →
          stack.now result.2.world ≤
            stack.now (engine entry).world + timeout +
              (pausing + 2 * polling) := by
  have paced := isLoop.paced passes
  obtain ⟨iterations, result, iterates, few⟩ :=
    paced.iterates (by decide) holds
  rw [Nat.add_sub_cancel_left] at few
  refine ⟨iterations, result, iterates, few, ?_⟩
  intro opening pausing polling bounded
  rw [← Nat.add_assoc]
  refine Iterates.inTime (fun result => stack.now result.2.world) iterates
    paced holds ?_ ?_ ?_
  · intro entry
    rw [isLoop.pauses]
    exact bounded.sleep (engine entry).world
  · intro entry result _ settles
    obtain ⟨enough, ends⟩ := settles
    exact
      (isLoop.done enough entry result
        (ends enough (Nat.le_refl enough))).now_le bounded
  · exact Nat.le_trans (Nat.le_add_right _ timeout)
      (Nat.le_add_right _ pausing)

end Paces

end Iterations

section Http

variable [Smoltcp]
variable {World Tcp Icmp : Type}

/-- What an HTTP exchange carries from one iteration to the next. -/
structure HttpEntry (World Tcp Icmp : Type) where
  sent : Bool
  response : List UInt8
  state : EngineState World Tcp Icmp

/-- The pause of an HTTP exchange. -/
def HttpEntry.sleep
    (stack : SmolStack World Tcp Icmp)
    (entry : HttpEntry World Tcp Icmp) : HttpEntry World Tcp Icmp :=
  { entry with state := entry.state.sleep stack }

/-- How an iteration of an HTTP exchange ends once it has received. -/
def httpExit
    (stack : SmolStack World Tcp Icmp)
    (handle : Nat)
    (target : SocketAddrV4)
    (deadline : Instant)
    (polled : EngineState World Tcp Icmp)
    (failed sent : Bool) :
    Except NetError (List UInt8) × Tcp →
    Outcome (HttpEntry World Tcp Icmp)
      (Except NetError (List UInt8) × EngineState World Tcp Icmp)
  | (.error error, socket) =>
      .done (.error error, polled.put handle (.tcp socket))
  | (.ok response, socket) =>
      let complete := sent && !stack.mayRecv socket
      let after := polled.put handle (.tcp socket)
      if failed then
        .done (.error (.network
          ("TCP connection to " ++ target.display ++ " failed")),
          after.remove handle)
      else if complete then
        .done (.ok response, after.remove handle)
      else if deadline ≤ stack.now after.world then
        .done (.error .timeout, after.remove handle)
      else
        .again ⟨sent, response, after⟩

/-- One iteration of an HTTP exchange. -/
def httpBody
    (stack : SmolStack World Tcp Icmp)
    (handle : Nat)
    (target : SocketAddrV4)
    (request : List UInt8)
    (deadline : Instant)
    (fuel : Nat)
    (entry : HttpEntry World Tcp Icmp) :
    Option
      (Outcome (HttpEntry World Tcp Icmp)
        (Except NetError (List UInt8) × EngineState World Tcp Icmp)) :=
  let polled := entry.state.poll stack
  match polled.engine.sockets.getTcp? handle with
  | none => none
  | some socket =>
      let failed := stack.state socket = .closed && !entry.sent
      match sendRequest stack request entry.sent socket with
      | (.error error, socket) =>
          some (.done (.error error, polled.put handle (.tcp socket)))
      | (.ok sent, socket) =>
          (receiveAll stack fuel entry.response socket).map
            (httpExit stack handle target deadline polled failed sent)

variable {stack : SmolStack World Tcp Icmp}
variable {handle : Nat}
variable {target : SocketAddrV4}
variable {deadline : Instant}

/-- The HTTP loop iterates this body. -/
theorem httpLoop_eq_loop
    (request : List UInt8)
    (fuel : Nat)
    (sent : Bool)
    (response : List UInt8)
    (state : EngineState World Tcp Icmp) :
    httpLoop stack handle target request deadline fuel sent response
        state =
      loop (httpBody stack handle target request deadline)
        (HttpEntry.sleep stack) fuel ⟨sent, response, state⟩ := by
  induction fuel generalizing sent response state with
  | zero =>
      rfl
  | succ fuel inductionHypothesis =>
      simp only [httpLoop, loop, httpBody]
      cases (state.poll stack).engine.sockets.getTcp? handle with
      | none =>
          rfl
      | some socket =>
          simp only
          obtain ⟨handed, sending⟩ := sendRequest stack request sent socket
          cases handed with
          | error error =>
              rfl
          | ok nowSent =>
              simp only
              cases receiveAll stack fuel response sending with
              | none =>
                  rfl
              | some outcome =>
                  obtain ⟨result, after⟩ := outcome
                  cases result with
                  | error error =>
                      rfl
                  | ok bytes =>
                      simp only [Option.map_some, httpExit]
                      split
                      · rfl
                      · split
                        · rfl
                        · split
                          · rfl
                          · exact inductionHypothesis _ _ _

/-- An exchange goes on only before its deadline, with its socket in place. -/
theorem httpExit_again
    {polled : EngineState World Tcp Icmp}
    {failed sent : Bool}
    {received : Except NetError (List UInt8) × Tcp}
    {after : HttpEntry World Tcp Icmp}
    (again :
      httpExit stack handle target deadline polled failed sent received =
        .again after) :
    after.state = polled.put handle (.tcp received.2) ∧
      stack.now polled.world < deadline := by
  obtain ⟨result, socket⟩ := received
  cases result with
  | error error =>
      cases again
  | ok response =>
      simp only [httpExit] at again
      split at again
      · cases again
      · split at again
        · cases again
        · split at again
          · cases again
          · rename_i early
            cases again
            exact ⟨rfl, Nat.lt_of_not_le early⟩

/-- The last iteration of an exchange polls no more. -/
theorem httpExit_done
    {polled : EngineState World Tcp Icmp}
    {failed sent : Bool}
    {received : Except NetError (List UInt8) × Tcp}
    {result : Except NetError (List UInt8) × EngineState World Tcp Icmp}
    (done :
      httpExit stack handle target deadline polled failed sent received =
        .done result) :
    result.2.world = polled.world := by
  obtain ⟨outcome, socket⟩ := received
  cases outcome with
  | error error =>
      cases done
      rfl
  | ok response =>
      simp only [httpExit] at done
      split at done
      · cases done
        rfl
      · split at done
        · cases done
          rfl
        · split at done
          · cases done
            rfl
          · cases done

/-- The HTTP loop is one of the loops of the engine. -/
theorem engineLoop_http
    [LawfulSmoltcp]
    {bytes : Tcp → Nat}
    {packets : Icmp → Nat}
    (drains : stack.Drains bytes packets)
    (request : List UInt8) :
    EngineLoop stack .tcp handle deadline HttpEntry.state
      (httpBody stack handle target request deadline)
      (HttpEntry.sleep stack) where
  pauses _ := rfl
  settles entry holds := by
    obtain ⟨socket, found⟩ := (holds.poll drains).exists_getTcp?
    cases sends : sendRequest stack request entry.sent socket with
    | mk handed sending =>
        cases handed with
        | error error =>
            refine ⟨.done (.error error,
              (entry.state.poll stack).put handle (.tcp sending)), 0,
              fun fuel _ => ?_⟩
            simp only [httpBody, found, sends]
        | ok sent =>
            obtain ⟨received, returns⟩ :=
              drains.exists_receiveAll entry.response sending
            refine ⟨httpExit stack handle target deadline
              (entry.state.poll stack)
              (stack.state socket = .closed && !entry.sent) sent received,
              bytes sending + 1, fun fuel more => ?_⟩
            simp only [httpBody, found, sends, returns fuel more,
              Option.map_some]
  again fuel entry after again := by
    simp only [httpBody] at again
    split at again
    · cases again
    · rename_i socket found
      split at again
      · cases again
      · obtain ⟨received, -, exits⟩ := Option.map_eq_some_iff.mp again
        obtain ⟨put, early⟩ := httpExit_again exits
        refine ⟨?_, ?_, ?_⟩
        · rw [put]
          rfl
        · rw [put]
          exact early
        · rw [put]
          exact EngineState.holds_of_getTcp?
            (EngineState.getTcp?_put found received.2)
  done fuel entry result done := by
    simp only [httpBody] at done
    split at done
    · cases done
    · split at done
      · cases done
        exact .once rfl
      · obtain ⟨received, -, exits⟩ := Option.map_eq_some_iff.mp done
        exact .once (httpExit_done exits)

end Http

section Probe

variable [Smoltcp]
variable {World Tcp Icmp : Type}

/-- One iteration of a TCP probe. -/
def connectBody
    (stack : SmolStack World Tcp Icmp)
    (handle : Nat)
    (deadline : Instant)
    (state : EngineState World Tcp Icmp) :
    Option
      (Outcome (EngineState World Tcp Icmp)
        (Except NetError Bool × EngineState World Tcp Icmp)) :=
  let polled := state.poll stack
  match polled.engine.sockets.getTcp? handle with
  | none => none
  | some socket =>
      if stack.state socket = .established then
        let aborted :=
          (polled.put handle (.tcp (stack.abort socket))).poll stack
        some (.done (.ok true, aborted.remove handle))
      else if stack.state socket = .closed then
        some (.done (.ok false, polled.remove handle))
      else if deadline ≤ stack.now polled.world then
        some (.done (.ok false, polled.remove handle))
      else
        some (.again polled)

variable {stack : SmolStack World Tcp Icmp}
variable {handle : Nat}
variable {deadline : Instant}

/-- The loop of a TCP probe iterates this body. -/
theorem connectLoop_eq_loop
    (fuel : Nat)
    (state : EngineState World Tcp Icmp) :
    connectLoop stack handle deadline fuel state =
      loop (fun _ => connectBody stack handle deadline)
        (EngineState.sleep stack) fuel state := by
  induction fuel generalizing state with
  | zero =>
      rfl
  | succ fuel inductionHypothesis =>
      simp only [connectLoop, loop, connectBody]
      cases (state.poll stack).engine.sockets.getTcp? handle with
      | none =>
          rfl
      | some socket =>
          simp only
          split
          · rfl
          · split
            · rfl
            · split
              · rfl
              · exact inductionHypothesis _

/-- The loop of a TCP probe is one of the loops of the engine. -/
theorem engineLoop_connect
    {bytes : Tcp → Nat}
    {packets : Icmp → Nat}
    (drains : stack.Drains bytes packets) :
    EngineLoop stack .tcp handle deadline id
      (fun _ => connectBody stack handle deadline)
      (EngineState.sleep stack) where
  pauses _ := rfl
  settles state holds := by
    have polledHolds := EngineState.Holds.poll drains holds
    obtain ⟨socket, found⟩ := polledHolds.exists_getTcp?
    have exists_body :
        ∃ outcome,
          connectBody stack handle deadline state = some outcome := by
      simp only [id_eq] at found
      simp only [connectBody, found]
      split
      · exact ⟨_, rfl⟩
      · split
        · exact ⟨_, rfl⟩
        · split <;> exact ⟨_, rfl⟩
    obtain ⟨outcome, ends⟩ := exists_body
    exact ⟨outcome, 0, fun _ _ => ends⟩
  again _ state after again := by
    simp only [connectBody] at again
    split at again
    · cases again
    · rename_i socket found
      split at again
      · cases again
      · split at again
        · cases again
        · split at again
          · cases again
          · rename_i early
            cases again
            exact ⟨rfl, Nat.lt_of_not_le early,
              EngineState.holds_of_getTcp? found⟩
  done _ state result done := by
    simp only [connectBody] at done
    split at done
    · cases done
    · split at done
      · cases done
        exact .twice _ _ rfl
      · split at done
        · cases done
          exact .once rfl
        · split at done
          · cases done
            exact .once rfl
          · cases done

end Probe

section Ping

variable [Smoltcp]
variable {World Tcp Icmp : Type}

/-- How an iteration of a ping ends once it has taken the packets. -/
def pingExit
    (stack : SmolStack World Tcp Icmp)
    (handle : Nat)
    (deadline : Instant)
    (polled : EngineState World Tcp Icmp) :
    Except NetError Bool × Icmp →
    Outcome (EngineState World Tcp Icmp)
      (Except NetError Bool × EngineState World Tcp Icmp)
  | (.error error, socket) =>
      .done (.error error, polled.put handle (.icmp socket))
  | (.ok true, socket) =>
      .done (.ok true, (polled.put handle (.icmp socket)).remove handle)
  | (.ok false, socket) =>
      let after := polled.put handle (.icmp socket)
      if deadline ≤ stack.now after.world then
        .done (.ok false, after.remove handle)
      else
        .again after

/-- One iteration of a ping. -/
def pingBody
    (stack : SmolStack World Tcp Icmp)
    (handle : Nat)
    (target : Ipv4Addr)
    (deadline : Instant)
    (fuel : Nat)
    (state : EngineState World Tcp Icmp) :
    Option
      (Outcome (EngineState World Tcp Icmp)
        (Except NetError Bool × EngineState World Tcp Icmp)) :=
  let polled := state.poll stack
  match polled.engine.sockets.getIcmp? handle with
  | none => none
  | some socket =>
      (receiveReply stack target fuel socket).map
        (pingExit stack handle deadline polled)

variable {stack : SmolStack World Tcp Icmp}
variable {handle : Nat}
variable {target : Ipv4Addr}
variable {deadline : Instant}

/-- The loop of a ping iterates this body. -/
theorem pingLoop_eq_loop
    (fuel : Nat)
    (state : EngineState World Tcp Icmp) :
    pingLoop stack handle target deadline fuel state =
      loop (pingBody stack handle target deadline)
        (EngineState.sleep stack) fuel state := by
  induction fuel generalizing state with
  | zero =>
      rfl
  | succ fuel inductionHypothesis =>
      simp only [pingLoop, loop, pingBody]
      cases (state.poll stack).engine.sockets.getIcmp? handle with
      | none =>
          rfl
      | some socket =>
          simp only
          cases receiveReply stack target fuel socket with
          | none =>
              rfl
          | some outcome =>
              obtain ⟨result, after⟩ := outcome
              cases result with
              | error error =>
                  rfl
              | ok answered =>
                  cases answered with
                  | true =>
                      rfl
                  | false =>
                      simp only [Option.map_some, pingExit]
                      split
                      · rfl
                      · exact inductionHypothesis _

/-- A ping goes on only before its deadline, with its socket in place. -/
theorem pingExit_again
    {polled after : EngineState World Tcp Icmp}
    {received : Except NetError Bool × Icmp}
    (again : pingExit stack handle deadline polled received = .again after) :
    after = polled.put handle (.icmp received.2) ∧
      stack.now polled.world < deadline := by
  obtain ⟨result, socket⟩ := received
  cases result with
  | error error =>
      cases again
  | ok answered =>
      cases answered with
      | true =>
          cases again
      | false =>
          simp only [pingExit] at again
          split at again
          · cases again
          · rename_i early
            cases again
            exact ⟨rfl, Nat.lt_of_not_le early⟩

/-- The last iteration of a ping polls no more. -/
theorem pingExit_done
    {polled : EngineState World Tcp Icmp}
    {received : Except NetError Bool × Icmp}
    {result : Except NetError Bool × EngineState World Tcp Icmp}
    (done : pingExit stack handle deadline polled received = .done result) :
    result.2.world = polled.world := by
  obtain ⟨outcome, socket⟩ := received
  cases outcome with
  | error error =>
      cases done
      rfl
  | ok answered =>
      cases answered with
      | true =>
          cases done
          rfl
      | false =>
          simp only [pingExit] at done
          split at done
          · cases done
            rfl
          · cases done

/-- The loop of a ping is one of the loops of the engine. -/
theorem engineLoop_ping
    [LawfulSmoltcp]
    {bytes : Tcp → Nat}
    {packets : Icmp → Nat}
    (drains : stack.Drains bytes packets) :
    EngineLoop stack .icmp handle deadline id
      (pingBody stack handle target deadline)
      (EngineState.sleep stack) where
  pauses _ := rfl
  settles state holds := by
    have polledHolds := EngineState.Holds.poll drains holds
    obtain ⟨socket, found⟩ := polledHolds.exists_getIcmp?
    simp only [id_eq] at found
    obtain ⟨received, returns⟩ := drains.exists_receiveReply target socket
    refine ⟨pingExit stack handle deadline (state.poll stack) received,
      packets socket + 1, fun fuel more => ?_⟩
    simp only [pingBody, found, returns fuel more, Option.map_some]
  again fuel state after again := by
    simp only [pingBody] at again
    split at again
    · cases again
    · rename_i socket found
      obtain ⟨received, -, exits⟩ := Option.map_eq_some_iff.mp again
      obtain ⟨rfl, early⟩ := pingExit_again exits
      exact ⟨rfl, early,
        EngineState.holds_of_getIcmp? (getIcmp?_put found received.2)⟩
  done fuel state result done := by
    simp only [pingBody] at done
    split at done
    · cases done
    · obtain ⟨received, -, exits⟩ := Option.map_eq_some_iff.mp done
      exact .once (pingExit_done exits)

end Ping

end Waker
