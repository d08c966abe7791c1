import Waker.SmolStack

namespace Waker

/-!
# What a TCP connection receives

Segments take effect in the order of the byte stream, so an event stands for
what the connection takes from its peer, whatever was lost, repeated or
reordered on the way.  Beside its state a connection remembers what it has
taken: the ghost of the stream that its peer has sent.
-/

/-- What a poll can bring to a connection: segments of the peer or a timer. -/
inductive TcpEvent where
  | syn
  | synAck
  | ack
  | data (bytes : List UInt8)
  | fin
  | rst
  | waitOver
  deriving Repr, DecidableEq

namespace TcpState

/-- The connection is being established. -/
def opens : TcpState → Bool
  | .synSent | .synReceived => true
  | _ => false

/-- The peer may still send. -/
def receives : TcpState → Bool
  | .established | .finWait1 | .finWait2 => true
  | _ => false

/-- The local side may still send. -/
def sends : TcpState → Bool
  | .established | .closeWait => true
  | _ => false

/-- The peer has closed its sending side. -/
def peerClosed : TcpState → Bool
  | .closeWait | .closing | .lastAck | .timeWait => true
  | _ => false

/-- The local side has closed. -/
def localClosed : TcpState → Bool
  | .finWait1 | .finWait2 | .closing | .lastAck | .timeWait | .closed => true
  | _ => false

/-- The state after an event; in other states the event is dropped. -/
def receive : TcpState → TcpEvent → TcpState
  | _, .rst => .closed
  | .synSent, .syn => .synReceived
  | .synSent, .synAck => .established
  | .synReceived, .ack => .established
  | .finWait1, .ack => .finWait2
  | .closing, .ack => .timeWait
  | .lastAck, .ack => .closed
  | .established, .fin => .closeWait
  | .finWait1, .fin => .closing
  | .finWait2, .fin => .timeWait
  | .timeWait, .waitOver => .closed
  | state, _ => state

/-- The state after closing the local sending side. -/
def close : TcpState → TcpState
  | .listen | .synSent => .closed
  | .synReceived | .established => .finWait1
  | .closeWait => .lastAck
  | state => state

/-- The data that is taken in a state. -/
def takes (state : TcpState) : TcpEvent → List UInt8
  | .data bytes => if state.receives then bytes else []
  | _ => []

/-- The peer's FIN is taken in a state. -/
def takesFin (state : TcpState) (event : TcpEvent) : Bool :=
  event = .fin && state.receives

/-- Only a reset closes a connection whose peer has not closed. -/
theorem peerClosed_of_receive_closed
    {state : TcpState}
    {event : TcpEvent}
    (closes : state.receive event = .closed)
    (noReset : event ≠ .rst) :
    state = .closed ∨ state.peerClosed = true := by
  cases state <;> cases event <;> simp_all [receive, peerClosed]

/-- A closed connection stays closed. -/
@[simp] theorem receive_closed (event : TcpEvent) :
    receive .closed event = .closed := by
  cases event <;> rfl

/-- Closing a side that can still send closes it. -/
theorem localClosed_close
    {state : TcpState}
    (sends : state.sends = true) :
    state.close.localClosed = true ∧ state.close ≠ .closed := by
  cases state <;> simp_all [TcpState.sends, close, localClosed]

/-- A closed local side stays closed. -/
theorem localClosed_receive
    {state : TcpState}
    (closed : state.localClosed = true)
    (event : TcpEvent) :
    (state.receive event).localClosed = true := by
  cases state <;> cases event <;> simp_all [localClosed, receive]

/-- When both sides may no longer send, the peer has closed or all is closed. -/
theorem peerClosed_or_closed
    {state : TcpState}
    (closed : state.localClosed = true)
    (silent : state.receives = false) :
    state.peerClosed = true ∨ state = .closed := by
  cases state <;> simp_all [localClosed, receives, peerClosed]

/-- A connection that can send or receive has been established. -/
theorem not_opens_of_active
    {state : TcpState}
    (active : state.receives = true ∨ state.sends = true) :
    state.opens = false ∧ state ≠ .closed := by
  cases state <;> simp_all [receives, TcpState.sends, opens]

end TcpState

/-- A connection, with the ghost of what its peer has sent. -/
structure Connection where
  state : TcpState
  buffered : List UInt8
  written : List UInt8
  established : Bool
  stream : List UInt8
  finished : Bool
  deriving Repr, DecidableEq

namespace Connection

/-- A connection that has just been opened. -/
def opening : Connection where
  state := .synSent
  buffered := []
  written := []
  established := false
  stream := []
  finished := false

/-- What an event does to a connection. -/
def receive (connection : Connection) (event : TcpEvent) : Connection where
  state := connection.state.receive event
  buffered := connection.buffered ++ connection.state.takes event
  written := connection.written
  established :=
    connection.established ||
      connection.state.receive event = .established
  stream := connection.stream ++ connection.state.takes event
  finished := connection.finished || connection.state.takesFin event

/-- What a batch of events does to a connection. -/
def receiveAll
    (connection : Connection)
    (events : List TcpEvent) : Connection :=
  events.foldl receive connection

/-- Hand the request over and close the local sending side. -/
def handOver
    (connection : Connection)
    (request : List UInt8) : Connection :=
  { connection with
    state := connection.state.close
    written := connection.written ++ request }

/-- Take everything out of the receive buffer. -/
def drain (connection : Connection) : Connection :=
  { connection with buffered := [] }

/-- A reset arrives before the peer's FIN has been taken. -/
def ResetUnfinished
    (connection : Connection)
    (events : List TcpEvent) : Prop :=
  ∃ before later,
    events = before ++ .rst :: later ∧
      (connection.receiveAll before).finished = false

/-- What the state of a connection says about its past. -/
structure Consistent (connection : Connection) : Prop where
  established :
    connection.established = false →
    connection.state.opens = true ∨ connection.state = .closed
  finished :
    connection.state.peerClosed = true → connection.finished = true
  unfinished :
    connection.state.opens = true ∨ connection.state.receives = true →
    connection.finished = false

/-- A new connection is consistent. -/
theorem consistent_opening : opening.Consistent where
  established _ := .inl rfl
  finished closed := by cases closed
  unfinished _ := rfl

/-- Every event keeps a connection consistent. -/
theorem Consistent.receive
    {connection : Connection}
    (consistent : connection.Consistent)
    (event : TcpEvent) :
    (connection.receive event).Consistent := by
  obtain ⟨state, buffered, written, established, stream, finished⟩ :=
    connection
  obtain ⟨opened, closed, receiving⟩ := consistent
  constructor <;>
    cases state <;> cases event <;>
    simp_all [Connection.receive, TcpState.receive, TcpState.opens,
      TcpState.receives, TcpState.peerClosed, TcpState.takesFin]

/-- A batch keeps a connection consistent. -/
theorem Consistent.receiveAll
    {connection : Connection}
    (consistent : connection.Consistent)
    (events : List TcpEvent) :
    (connection.receiveAll events).Consistent := by
  induction events generalizing connection with
  | nil =>
      exact consistent
  | cons event rest inductionHypothesis =>
      exact inductionHypothesis (consistent.receive event)

/-- Handing the request over keeps a connection consistent. -/
theorem Consistent.handOver
    {connection : Connection}
    (consistent : connection.Consistent)
    (sends : connection.state.sends = true)
    (request : List UInt8) :
    (connection.handOver request).Consistent := by
  obtain ⟨state, buffered, written, established, stream, finished⟩ :=
    connection
  obtain ⟨opened, closed, receiving⟩ := consistent
  constructor <;>
    cases state <;>
    simp_all [Connection.handOver, TcpState.close, TcpState.sends,
      TcpState.opens, TcpState.receives, TcpState.peerClosed]

/-- Emptying the buffer keeps a connection consistent. -/
theorem Consistent.drain
    {connection : Connection}
    (consistent : connection.Consistent) :
    connection.drain.Consistent :=
  ⟨consistent.established, consistent.finished, consistent.unfinished⟩

/-- A FIN that has been taken stays taken. -/
theorem finished_receiveAll
    {connection : Connection}
    (finished : connection.finished = true)
    (events : List TcpEvent) :
    (connection.receiveAll events).finished = true := by
  induction events generalizing connection with
  | nil =>
      exact finished
  | cons event rest inductionHypothesis =>
      exact inductionHypothesis (by simp [receive, finished])

/-- A closed connection takes nothing more. -/
theorem receiveAll_of_closed
    {connection : Connection}
    (closed : connection.state = .closed)
    (events : List TcpEvent) :
    (connection.receiveAll events).state = .closed ∧
      (connection.receiveAll events).finished = connection.finished := by
  induction events generalizing connection with
  | nil =>
      exact ⟨closed, rfl⟩
  | cons event rest inductionHypothesis =>
      obtain ⟨stays, same⟩ :=
        @inductionHypothesis (connection.receive event)
          (by simp [receive, closed])
      refine ⟨stays, same.trans ?_⟩
      simp [receive, closed, TcpState.takesFin, TcpState.receives]

/-- The bytes buffered and the bytes of the stream grow together. -/
theorem receiveAll_taken
    (connection : Connection)
    (events : List TcpEvent) :
    ∃ taken,
      (connection.receiveAll events).buffered = connection.buffered ++ taken ∧
        (connection.receiveAll events).stream = connection.stream ++ taken := by
  induction events generalizing connection with
  | nil =>
      exact ⟨[], by simp [receiveAll]⟩
  | cons event rest inductionHypothesis =>
      obtain ⟨taken, buffered, stream⟩ :=
        inductionHypothesis (connection.receive event)
      refine ⟨connection.state.takes event ++ taken, ?_, ?_⟩
      · exact buffered.trans (List.append_assoc _ _ _)
      · exact stream.trans (List.append_assoc _ _ _)

/-- What a connection receives depends on its state and buffer alone. -/
theorem receiveAll_congr
    {connection other : Connection}
    (sameState : connection.state = other.state)
    (sameBuffer : connection.buffered = other.buffered)
    (events : List TcpEvent) :
    (connection.receiveAll events).state = (other.receiveAll events).state ∧
      (connection.receiveAll events).buffered =
        (other.receiveAll events).buffered := by
  induction events generalizing connection other with
  | nil =>
      exact ⟨sameState, sameBuffer⟩
  | cons event rest inductionHypothesis =>
      exact inductionHypothesis
        (by simp only [receive, sameState])
        (by simp only [receive, sameState, sameBuffer])

/-- A local side that has closed stays closed. -/
theorem localClosed_receiveAll
    {connection : Connection}
    (closed : connection.state.localClosed = true)
    (events : List TcpEvent) :
    (connection.receiveAll events).state.localClosed = true := by
  induction events generalizing connection with
  | nil =>
      exact closed
  | cons event rest inductionHypothesis =>
      exact inductionHypothesis (TcpState.localClosed_receive closed event)

/-- An established connection has been established for good. -/
theorem established_receiveAll
    {connection : Connection}
    (established : connection.established = true)
    (events : List TcpEvent) :
    (connection.receiveAll events).established = true := by
  induction events generalizing connection with
  | nil =>
      exact established
  | cons event rest inductionHypothesis =>
      exact inductionHypothesis (by simp [receive, established])

/-- A connection that can send or receive has been established. -/
theorem Consistent.established_of_active
    {connection : Connection}
    (consistent : connection.Consistent)
    (active :
      connection.state.receives = true ∨ connection.state.sends = true) :
    connection.established = true := by
  obtain ⟨notOpening, notClosed⟩ := TcpState.not_opens_of_active active
  by_contra never
  rcases consistent.established (by simpa using never) with
    opening | closed
  · exact absurd (notOpening.symm.trans opening) (by decide)
  · exact notClosed closed

/-- No event writes. -/
theorem written_receiveAll
    (connection : Connection)
    (events : List TcpEvent) :
    (connection.receiveAll events).written = connection.written := by
  induction events generalizing connection with
  | nil =>
      rfl
  | cons event rest inductionHypothesis =>
      exact inductionHypothesis (connection.receive event)

/--
A batch closes a connection before its peer's FIN has been taken exactly when a
reset arrives before that FIN.
-/
theorem resetUnfinished_iff
    {connection : Connection}
    (consistent : connection.Consistent)
    (opened : connection.state ≠ .closed)
    (events : List TcpEvent) :
    connection.ResetUnfinished events ↔
      (connection.receiveAll events).state = .closed ∧
        (connection.receiveAll events).finished = false := by
  constructor
  · rintro ⟨before, later, rfl, unfinished⟩
    have split :
        connection.receiveAll (before ++ .rst :: later) =
          ((connection.receiveAll before).receive .rst).receiveAll later := by
      simp [receiveAll]
    obtain ⟨closed, same⟩ :=
      @receiveAll_of_closed ((connection.receiveAll before).receive .rst) rfl
        later
    rw [split]
    refine ⟨closed, same.trans ?_⟩
    simp [receive, unfinished, TcpState.takesFin]
  · rintro ⟨closed, unfinished⟩
    induction events generalizing connection with
    | nil =>
        exact (opened closed).elim
    | cons event rest inductionHypothesis =>
        by_cases isReset : event = .rst
        · refine ⟨[], rest, by rw [isReset]; rfl, ?_⟩
          by_contra finished
          have taken : connection.finished = true := by
            simpa [receiveAll] using finished
          have finished := finished_receiveAll taken (event :: rest)
          exact absurd (finished.symm.trans unfinished) (by decide)
        · have stillOpen : (connection.receive event).state ≠ .closed := by
            intro closes
            rcases TcpState.peerClosed_of_receive_closed closes isReset with
              wasClosed | peerClosed
            · exact opened wasClosed
            · have finished :=
                finished_receiveAll (consistent.finished peerClosed)
                  (event :: rest)
              exact absurd (finished.symm.trans unfinished) (by decide)
          obtain ⟨before, later, rfl, early⟩ :=
            inductionHypothesis (consistent.receive event) stillOpen closed
              unfinished
          exact ⟨event :: before, later, rfl, early⟩

end Connection

end Waker
