import Waker.EngineStart

namespace Waker

/-!
# The sockets of a finished command

A command adds one socket and removes it on every exit, except where the
request does not fit in the transmit buffer.  Below, the socket of the command
is the only one in the set, and as long as nothing was sent its transmit buffer
has room for the whole request.
-/

/-- A request fits in the transmit buffer of a fresh connection. -/
def NetCommand.Fits : NetCommand → Prop
  | .http _ request _ => request.length ≤ TCP_TX_BUFFER
  | .probe _ _ | .ping _ _ => True

section Exits

variable [Smoltcp]
variable {World Tcp Icmp : Type}
variable {stack : SmolStack World Tcp Icmp}

/-- No socket is left in the engine's set. -/
def EngineState.Rested (state : EngineState World Tcp Icmp) : Prop :=
  SlotMaps.Free state.engine.sockets

/-- The engine's set holds at most the socket of the current command. -/
def EngineState.Serving
    (handle : Nat)
    (state : EngineState World Tcp Icmp) : Prop :=
  SlotMaps.OnlyAt handle state.engine.sockets

namespace EngineState

variable {state : EngineState World Tcp Icmp} {handle : Nat}

/-- A poll adds no sockets. -/
theorem Serving.poll
    (lawful : stack.Lawful)
    (serving : state.Serving handle) :
    (state.poll stack).Serving handle := by
  intro other different
  have sameKind :=
    lawful.poll_kind state.engine.iface state.world state.engine.sockets
      other
  rw [serving other different] at sameKind
  exact Option.map_eq_none_iff.mp sameKind

/-- A pause does not touch the sockets. -/
theorem Serving.sleep
    (serving : state.Serving handle) :
    (state.sleep stack).Serving handle :=
  serving

/-- Until the request is sent, the transmit buffer has room for it. -/
def Room
    (stack : SmolStack World Tcp Icmp)
    (handle : Nat)
    (request : List UInt8)
    (sent : Bool)
    (state : EngineState World Tcp Icmp) : Prop :=
  ∀ socket,
    state.engine.sockets.getTcp? handle = some socket →
    sent = false →
    request.length ≤ stack.txFree socket

/-- A TCP socket at a handle is the value stored there. -/
theorem getTcp?_eq_some_iff
    {sockets : SocketSet (Socket Tcp Icmp)}
    {socket : Tcp} :
    sockets.getTcp? handle = some socket ↔
      SlotMaps.get? sockets handle = some (.tcp socket) := by
  unfold SocketSet.getTcp?
  cases SlotMaps.get? sockets handle with
  | none =>
      simp
  | some held =>
      cases held <;> simp

/-- There is a TCP socket exactly where the kind says so. -/
theorem getTcp?_isSome_iff
    {sockets : SocketSet (Socket Tcp Icmp)} :
    (sockets.getTcp? handle).isSome ↔
      (SlotMaps.get? sockets handle).map Socket.kind = some .tcp := by
  unfold SocketSet.getTcp?
  cases SlotMaps.get? sockets handle with
  | none =>
      simp
  | some held =>
      cases held <;> simp [Socket.kind]

/-- A poll neither adds nor drops a TCP socket. -/
theorem getTcp?_poll_isSome_iff
    (lawful : stack.Lawful) :
    ((state.poll stack).engine.sockets.getTcp? handle).isSome ↔
      (state.engine.sockets.getTcp? handle).isSome := by
  rw [getTcp?_isSome_iff, getTcp?_isSome_iff]
  exact Eq.congr_left
    (lawful.poll_kind state.engine.iface state.world
      state.engine.sockets handle)

/-- A poll keeps the room for the request. -/
theorem Room.poll
    (lawful : stack.Lawful)
    {request : List UInt8}
    {sent : Bool}
    (room : Room stack handle request sent state) :
    Room stack handle request sent (state.poll stack) := by
  intro polled found notSent
  obtain ⟨socket, present⟩ :=
    Option.isSome_iff_exists.mp
      ((getTcp?_poll_isSome_iff lawful).mp
        (Option.isSome_iff_exists.mpr ⟨polled, found⟩))
  exact Nat.le_trans (room socket present notSent)
    (lawful.txFree_poll _ _ _ _ _ _ present found)

variable [LawfulSmoltcp]

/-- Writing a socket back adds no other sockets. -/
theorem Serving.put
    (serving : state.Serving handle)
    (socket : Socket Tcp Icmp) :
    (state.put handle socket).Serving handle :=
  SlotMaps.OnlyAt.put serving socket

/-- Removing the socket of the command leaves the engine at rest. -/
theorem Serving.rested_remove
    (serving : state.Serving handle) :
    (state.remove handle).Rested :=
  SlotMaps.OnlyAt.free_remove serving

/-- A TCP socket that was written back is found again. -/
theorem getTcp?_put
    {socket : Tcp}
    (present : state.engine.sockets.getTcp? handle = some socket)
    (after : Tcp) :
    (state.put handle (.tcp after)).engine.sockets.getTcp? handle =
      some after :=
  getTcp?_eq_some_iff.mpr
    (LawfulSlotMaps.get?_put (getTcp?_eq_some_iff.mp present) (.tcp after))

end EngineState

open EngineState

/-- With room for the request, handing it over cannot fail. -/
theorem sendRequest_ok
    (lawful : stack.Lawful)
    {request : List UInt8}
    {sent : Bool}
    {socket : Tcp}
    (room : sent = false → request.length ≤ stack.txFree socket) :
    ∃ nowSent after,
      sendRequest stack request sent socket = (.ok nowSent, after) ∧
      (nowSent = false → sent = false ∧ after = socket) := by
  unfold sendRequest
  by_cases sends : (!sent && stack.maySend socket) = true
  · obtain ⟨notSent, maySend⟩ : sent = false ∧ stack.maySend socket := by
      simpa using sends
    obtain ⟨accepted, handed⟩ := lawful.sendSlice_ok socket request maySend
    have whole :
        min request.length (stack.txFree socket) = request.length :=
      Nat.min_eq_left (room notSent)
    rw [if_pos sends, handed, whole]
    exact ⟨true, stack.close accepted, by simp, by simp⟩
  · rw [if_neg sends]
    exact ⟨sent, socket, rfl, fun notSent => ⟨notSent, rfl⟩⟩

/-- Receiving cannot fail and never takes transmit space. -/
theorem receiveAll_ok
    (lawful : stack.Lawful)
    {fuel : Nat}
    {response : List UInt8}
    {socket after : Tcp}
    {result : Except NetError (List UInt8)}
    (received :
      receiveAll stack fuel response socket = some (result, after)) :
    (∃ bytes, result = .ok bytes) ∧
      stack.txFree socket ≤ stack.txFree after := by
  induction fuel generalizing response socket with
  | zero =>
      cases received
  | succ fuel inductionHypothesis =>
      simp only [receiveAll] at received
      split at received
      · rename_i canRecv
        obtain ⟨bytes, next, got⟩ := lawful.recv_ok socket canRecv
        rw [got] at received
        have later := inductionHypothesis received
        exact ⟨later.1,
          Nat.le_trans (lawful.txFree_recv _ _ _ got) later.2⟩
      · cases received
        exact ⟨⟨response, rfl⟩, Nat.le_refl _⟩

/-- Taking buffered packets cannot fail. -/
theorem receiveReply_ok
    (lawful : stack.Lawful)
    {target : Ipv4Addr}
    {fuel : Nat}
    {socket after : Icmp}
    {result : Except NetError Bool}
    (received :
      receiveReply stack target fuel socket = some (result, after)) :
    ∃ answered, result = .ok answered := by
  induction fuel generalizing socket with
  | zero =>
      cases received
  | succ fuel inductionHypothesis =>
      simp only [receiveReply] at received
      split at received
      · rename_i canRecv
        obtain ⟨⟨bytes, source⟩, next, got⟩ :=
          lawful.icmpRecv_ok socket canRecv
        rw [got] at received
        simp only at received
        split at received
        · cases received
          exact ⟨true, rfl⟩
        · exact inductionHypothesis received
      · cases received
        exact ⟨false, rfl⟩

variable [LawfulSmoltcp]

/-- Every exit of the HTTP loop removes its socket. -/
theorem httpLoop_rested
    (lawful : stack.Lawful)
    {handle : Nat}
    {target : SocketAddrV4}
    {request response : List UInt8}
    {deadline : Instant}
    {fuel : Nat}
    {sent : Bool}
    {state final : EngineState World Tcp Icmp}
    {result : Except NetError (List UInt8)}
    (serving : state.Serving handle)
    (room : Room stack handle request sent state)
    (returned :
      httpLoop stack handle target request deadline fuel sent response
        state = some (result, final)) :
    final.Rested := by
  induction fuel generalizing sent response state with
  | zero =>
      cases returned
  | succ fuel inductionHypothesis =>
      have pollServing := serving.poll lawful
      have pollRoom := room.poll lawful
      simp only [httpLoop] at returned
      cases found :
          (state.poll stack).engine.sockets.getTcp? handle with
      | none =>
          rw [found] at returned
          cases returned
      | some socket =>
          obtain ⟨nowSent, handed, sentOk, unchanged⟩ :=
            sendRequest_ok lawful (pollRoom socket found)
          simp only [found, sentOk] at returned
          cases received :
              receiveAll stack fuel response handed with
          | none =>
              rw [received] at returned
              cases returned
          | some outcome =>
              obtain ⟨outcome, after⟩ := outcome
              obtain ⟨⟨bytes, rfl⟩, grown⟩ :=
                receiveAll_ok lawful received
              simp only [received] at returned
              have afterServing :=
                pollServing.put (.tcp after)
              split at returned
              · cases returned
                exact afterServing.rested_remove
              · split at returned
                · cases returned
                  exact afterServing.rested_remove
                · split at returned
                  · cases returned
                    exact afterServing.rested_remove
                  · refine inductionHypothesis afterServing.sleep ?_
                      returned
                    intro stored storedThere notSent
                    have same : some after = some stored :=
                      (getTcp?_put found after).symm.trans storedThere
                    cases same
                    obtain ⟨before, same⟩ := unchanged notSent
                    rw [same] at grown
                    exact Nat.le_trans (pollRoom socket found before) grown

/-- Every exit of the probe loop removes its socket. -/
theorem connectLoop_rested
    (lawful : stack.Lawful)
    {handle : Nat}
    {deadline : Instant}
    {fuel : Nat}
    {state final : EngineState World Tcp Icmp}
    {result : Except NetError Bool}
    (serving : state.Serving handle)
    (returned :
      connectLoop stack handle deadline fuel state =
        some (result, final)) :
    final.Rested := by
  induction fuel generalizing state with
  | zero =>
      cases returned
  | succ fuel inductionHypothesis =>
      have pollServing := serving.poll lawful
      simp only [connectLoop] at returned
      split at returned
      · cases returned
      · split at returned
        · cases returned
          exact ((pollServing.put _).poll lawful).rested_remove
        · split at returned
          · cases returned
            exact pollServing.rested_remove
          · split at returned
            · cases returned
              exact pollServing.rested_remove
            · exact inductionHypothesis pollServing.sleep returned

/-- Every exit of the ping loop removes its socket. -/
theorem pingLoop_rested
    (lawful : stack.Lawful)
    {handle : Nat}
    {target : Ipv4Addr}
    {deadline : Instant}
    {fuel : Nat}
    {state final : EngineState World Tcp Icmp}
    {result : Except NetError Bool}
    (serving : state.Serving handle)
    (returned :
      pingLoop stack handle target deadline fuel state =
        some (result, final)) :
    final.Rested := by
  induction fuel generalizing state with
  | zero =>
      cases returned
  | succ fuel inductionHypothesis =>
      have pollServing := serving.poll lawful
      simp only [pingLoop] at returned
      split at returned
      · cases returned
      · rename_i socket found
        cases received : receiveReply stack target fuel socket with
        | none =>
            rw [received] at returned
            cases returned
        | some outcome =>
            obtain ⟨outcome, after⟩ := outcome
            obtain ⟨answered, rfl⟩ := receiveReply_ok lawful received
            rw [received] at returned
            have afterServing := pollServing.put (.icmp after)
            cases answered with
            | true =>
                cases returned
                exact afterServing.rested_remove
            | false =>
                simp only at returned
                split at returned
                · cases returned
                  exact afterServing.rested_remove
                · exact inductionHypothesis afterServing.sleep returned

/-- A failed connect removes the socket it added. -/
theorem openSocket_rested
    {target : SocketAddrV4}
    {error : NetError}
    {state opened : EngineState World Tcp Icmp}
    (rested : state.Rested)
    (failed : openSocket stack target state = (.error error, opened)) :
    opened.Rested := by
  simp only [openSocket] at failed
  split at failed
  · cases failed
    exact SlotMaps.OnlyAt.free_remove (SlotMaps.Free.onlyAt_add rested _)
  · cases failed

/-- A started connection is alone and has a whole free buffer. -/
theorem openSocket_serving
    (lawful : stack.Lawful)
    {target : SocketAddrV4}
    {handle : Nat}
    {state opened : EngineState World Tcp Icmp}
    (rested : state.Rested)
    (started : openSocket stack target state = (.ok handle, opened)) :
    opened.Serving handle ∧
      ∀ socket,
        opened.engine.sockets.getTcp? handle = some socket →
        TCP_TX_BUFFER ≤ stack.txFree socket := by
  simp only [openSocket] at started
  split at started
  · cases started
  · rename_i connected succeeded
    cases started
    constructor
    · exact SlotMaps.OnlyAt.put (SlotMaps.Free.onlyAt_add rested _) _
    · intro socket found
      have stored :=
        LawfulSlotMaps.get?_put
          (LawfulSlotMaps.get?_add state.engine.sockets
            (.tcp (stack.tcpNew TCP_RX_BUFFER TCP_TX_BUFFER)))
          (.tcp connected)
      have same := stored.symm.trans (getTcp?_eq_some_iff.mp found)
      cases same
      rw [← lawful.txFree_new TCP_RX_BUFFER TCP_TX_BUFFER]
      exact lawful.txFree_connect _ _ _ _ _ _ succeeded

/-- A command whose request fits leaves the engine at rest. -/
theorem execute_rested
    (lawful : stack.Lawful)
    {fuel : Nat}
    {command : NetCommand}
    {state final : EngineState World Tcp Icmp}
    {response : NetResponse}
    (fits : command.Fits)
    (rested : state.Rested)
    (executed :
      execute stack fuel command state = some (response, final)) :
    final.Rested := by
  cases command with
  | http target request timeout =>
      obtain ⟨⟨result, after⟩, returned, same⟩ :=
        Option.map_eq_some_iff.mp executed
      cases same
      simp only [http] at returned
      split at returned
      · rename_i failed
        cases returned
        exact openSocket_rested rested failed
      · rename_i started
        obtain ⟨serving, whole⟩ := openSocket_serving lawful rested started
        exact httpLoop_rested lawful serving
          (fun socket found _ => Nat.le_trans fits (whole socket found))
          returned
  | probe target timeout =>
      obtain ⟨⟨result, after⟩, returned, same⟩ :=
        Option.map_eq_some_iff.mp executed
      cases same
      simp only [probe] at returned
      split at returned
      · rename_i failed
        cases returned
        exact openSocket_rested rested failed
      · rename_i started
        exact connectLoop_rested lawful
          (openSocket_serving lawful rested started).1 returned
  | ping target timeout =>
      obtain ⟨⟨result, after⟩, returned, same⟩ :=
        Option.map_eq_some_iff.mp executed
      cases same
      simp only [ping] at returned
      split at returned
      · cases returned
        exact rested
      · split at returned
        · cases returned
          exact rested
        · refine pingLoop_rested lawful ?_ returned
          exact SlotMaps.Free.onlyAt_add rested _

/-- Commands whose requests fit leave the engine at rest after each of them. -/
theorem run_rested
    (lawful : stack.Lawful)
    {fuel : Nat}
    {commands : List NetCommand}
    {state : EngineState World Tcp Icmp}
    {trace : List (NetResponse × EngineState World Tcp Icmp)}
    (fit : ∀ command, command ∈ commands → command.Fits)
    (rested : state.Rested)
    (returned : run stack fuel commands state = some trace) :
    ∀ entry, entry ∈ trace → entry.2.Rested := by
  induction commands generalizing state trace with
  | nil =>
      cases returned
      simp
  | cons command rest inductionHypothesis =>
      simp only [run] at returned
      split at returned
      · cases returned
      · rename_i response after executed
        obtain ⟨later, continued, rfl⟩ :=
          Option.map_eq_some_iff.mp returned
        have afterRested :=
          execute_rested lawful (fit command (by simp)) rested executed
        rw [List.forall_mem_cons]
        exact ⟨afterRested,
          inductionHypothesis
            (fun other member => fit other (by simp [member]))
            afterRested continued⟩

end Exits

end Waker
