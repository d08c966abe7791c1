import Waker.EngineSockets
import Waker.TcpConnection

namespace Waker

/-!
# What an HTTP exchange makes of the peer's stream

An exchange is replayed from the batches of events that its polls have brought.
The loop follows this replay round by round, so that its result can be compared
with everything that the peer has sent.
-/

/-- The progress of an exchange. -/
structure HttpProgress where
  sent : Bool
  connection : Connection
  deriving Repr, DecidableEq

namespace HttpProgress

/-- An exchange over a connection that has just been opened. -/
def start : HttpProgress where
  sent := false
  connection := .opening

/-- The connection after the request has been handed over, if it can be. -/
def asked
    (request : List UInt8)
    (sent : Bool)
    (connection : Connection) : Connection :=
  if !sent && connection.state.sends then
    connection.handOver request
  else
    connection

/-- One round: a poll, the request when it can be sent, and all data. -/
def round
    (request : List UInt8)
    (progress : HttpProgress)
    (batch : List TcpEvent) : HttpProgress :=
  let received := progress.connection.receiveAll batch
  { sent := progress.sent || received.state.sends
    connection := (asked request progress.sent received).drain }

/-- The progress after some rounds. -/
def replay
    (request : List UInt8)
    (progress : HttpProgress)
    (batches : List (List TcpEvent)) : HttpProgress :=
  batches.foldl (round request) progress

/--
Some poll brings a reset after the request has been handed over and before the
peer has closed its sending side.
-/
def CutShort
    (request : List UInt8) :
    HttpProgress → List (List TcpEvent) → Prop
  | _, [] => False
  | progress, batch :: rest =>
      (progress.sent = true ∧ progress.connection.ResetUnfinished batch) ∨
        CutShort request (progress.round request batch) rest

/-- The result is the whole stream of a peer that has closed it. -/
structure WholeStream
    (request : List UInt8)
    (progress : HttpProgress)
    (bytes : List UInt8) : Prop where
  established : progress.connection.established = true
  handedOver : progress.connection.written = request
  finished : progress.connection.finished = true
  stream : bytes = progress.connection.stream

/--
A success is the whole stream of the peer, and an exchange that is cut short
fails.
-/
structure Sound
    (request : List UInt8)
    (progress : HttpProgress)
    (batches : List (List TcpEvent))
    (result : Except NetError (List UInt8)) : Prop where
  whole :
    ∀ bytes,
      result = .ok bytes →
      WholeStream request (progress.replay request batches) bytes
  cutShort :
    CutShort request progress batches → ∃ error, result = .error error

end HttpProgress

/--
The TCP sockets of a stack behave as connections do; what a poll brings to a
socket is recorded by the world.
-/
structure SmolStack.FollowsTcp
    [Smoltcp]
    {World Tcp Icmp : Type}
    (stack : SmolStack World Tcp Icmp)
    (buffered written : Tcp → List UInt8)
    (arrivals : World → Nat → List TcpEvent)
    (record : World → Nat → List (List TcpEvent)) : Prop where
  connect : ∀ iface world rxBuffer txBuffer remote port connected,
    (stack.connect iface world (stack.tcpNew rxBuffer txBuffer) remote
      port).2 = .ok connected →
    stack.state connected = .synSent ∧ buffered connected = [] ∧
      written connected = []
  poll : ∀ iface world sockets handle socket (connection : Connection),
    sockets.getTcp? handle = some socket →
    stack.state socket = connection.state →
    buffered socket = connection.buffered →
    ∃ polled,
      (stack.poll iface world sockets).2.getTcp? handle = some polled ∧
        stack.state polled =
          (connection.receiveAll (arrivals world handle)).state ∧
        buffered polled =
          (connection.receiveAll (arrivals world handle)).buffered ∧
        written polled = written socket
  record_poll : ∀ iface world sockets handle,
    record (stack.poll iface world sockets).1 handle =
      record world handle ++ [arrivals world handle]
  record_sleep : ∀ pause world handle,
    record (stack.sleep pause world) handle = record world handle
  maySend : ∀ socket, stack.maySend socket = (stack.state socket).sends
  mayRecv : ∀ socket,
    stack.mayRecv socket =
      ((stack.state socket).receives || !(buffered socket).isEmpty)
  canRecv : ∀ socket, stack.canRecv socket = !(buffered socket).isEmpty
  sendSlice : ∀ socket data count sent,
    stack.sendSlice socket data = .ok (count, sent) →
    stack.state sent = stack.state socket ∧
      buffered sent = buffered socket ∧
      written sent = written socket ++ data.take count
  recv : ∀ socket,
    buffered socket ≠ [] →
    ∃ bytes received,
      stack.recv socket = .ok (bytes, received) ∧ bytes ≠ [] ∧
        buffered socket = bytes ++ buffered received ∧
        stack.state received = stack.state socket ∧
        written received = written socket
  close : ∀ socket,
    stack.state (stack.close socket) = (stack.state socket).close ∧
      buffered (stack.close socket) = buffered socket ∧
      written (stack.close socket) = written socket

namespace HttpProgress

/-- What is known of an exchange when the body of a round has run. -/
structure Settled
    (request : List UInt8)
    (progress : HttpProgress)
    (response : List UInt8) : Prop where
  consistent : progress.connection.Consistent
  drained : progress.connection.buffered = []
  response : response = progress.connection.stream
  unsent : progress.sent = false → progress.connection.written = []
  handedOver :
    progress.sent = true →
    progress.connection.established = true ∧
      progress.connection.state.localClosed = true ∧
      progress.connection.written = request

/-- What is known when a round begins: after the request the peer may send. -/
structure Follows
    (request : List UInt8)
    (progress : HttpProgress)
    (response : List UInt8) : Prop
    extends Settled request progress response where
  waiting :
    progress.sent = true → progress.connection.state.receives = true

variable {request response : List UInt8}
variable {progress : HttpProgress}

/-- A new exchange has received nothing. -/
theorem follows_start : start.Follows request [] where
  consistent := Connection.consistent_opening
  drained := rfl
  response := rfl
  unsent _ := rfl
  handedOver sent := by cases sent
  waiting sent := by cases sent

/-- Once the request has been handed over, a round only receives. -/
theorem asked_of_sent
    (sent : progress.sent = true)
    (connection : Connection) :
    asked request progress.sent connection = connection := by
  simp [asked, sent]

/-- Handing the request over buffers nothing. -/
theorem asked_received
    (sent : Bool)
    (connection : Connection) :
    (asked request sent connection).buffered = connection.buffered ∧
      (asked request sent connection).stream = connection.stream := by
  unfold asked
  split <;> exact ⟨rfl, rfl⟩

/-- The body of a round keeps what is known. -/
theorem Follows.settled_round
    (known : progress.Follows request response)
    (batch : List TcpEvent) :
    (progress.round request batch).Settled request
      (response ++ (progress.connection.receiveAll batch).buffered) := by
  have received := known.consistent.receiveAll batch
  have unwritten := progress.connection.written_receiveAll batch
  obtain ⟨taken, buffered, stream⟩ :=
    progress.connection.receiveAll_taken batch
  rw [known.drained, List.nil_append] at buffered
  have sameStream :
      (progress.round request batch).connection.stream =
        progress.connection.stream ++ taken :=
    (asked_received _ _).2.trans stream
  have whole :
      response ++ (progress.connection.receiveAll batch).buffered =
        (progress.round request batch).connection.stream := by
    rw [sameStream, buffered, known.response]
  by_cases sends :
      (!progress.sent &&
        (progress.connection.receiveAll batch).state.sends) = true
  · obtain ⟨unsent, maySend⟩ :
        progress.sent = false ∧
          (progress.connection.receiveAll batch).state.sends = true := by
      simpa using sends
    have shape :
        (progress.round request batch).connection =
          ((progress.connection.receiveAll batch).handOver
            request).drain := by
      simp [round, asked, sends]
    refine ⟨?_, rfl, whole, ?_, fun _ => ⟨?_, ?_, ?_⟩⟩
    · rw [shape]
      exact (received.handOver maySend request).drain
    · simp [round, maySend]
    · rw [shape]
      exact received.established_of_active (.inr maySend)
    · rw [shape]
      exact (TcpState.localClosed_close maySend).1
    · rw [shape]
      simp [Connection.drain, Connection.handOver, unwritten,
        known.unsent unsent]
  · have shape :
        (progress.round request batch).connection =
          (progress.connection.receiveAll batch).drain := by
      simp [round, asked, sends]
    have sameSent :
        (progress.round request batch).sent = progress.sent := by
      cases sent : progress.sent <;> simp_all [round]
    refine ⟨?_, rfl, whole, ?_, ?_⟩
    · rw [shape]
      exact received.drain
    · rw [sameSent, shape]
      exact fun unsent => unwritten.trans (known.unsent unsent)
    · rw [sameSent, shape]
      intro sent
      obtain ⟨established, closed, handed⟩ := known.handedOver sent
      exact ⟨Connection.established_receiveAll established batch,
        Connection.localClosed_receiveAll closed batch,
        unwritten.trans handed⟩

/-- A reset cuts an exchange short when it closes the unfinished connection. -/
theorem Follows.resetUnfinished_iff
    (known : progress.Follows request response)
    (sent : progress.sent = true)
    (batch : List TcpEvent) :
    progress.connection.ResetUnfinished batch ↔
      (progress.round request batch).connection.state = .closed ∧
        (progress.round request batch).connection.finished = false := by
  have opened :=
    (TcpState.not_opens_of_active (.inl (known.waiting sent))).2
  rw [Connection.resetUnfinished_iff known.consistent opened, round,
    asked_of_sent sent]
  rfl

/-- While the peer may still send, nothing has been cut short. -/
theorem Follows.not_resetUnfinished
    (known : progress.Follows request response)
    {batch : List TcpEvent}
    (waiting :
      (progress.round request batch).sent = true →
      (progress.round request batch).connection.state.receives = true) :
    ¬ (progress.sent = true ∧
      progress.connection.ResetUnfinished batch) := by
  rintro ⟨sent, reset⟩
  have receives := waiting (by simp [round, sent])
  rw [((known.resetUnfinished_iff sent batch).mp reset).1] at receives
  cases receives

/-- When the peer may no longer send, it has closed unless it was cut short. -/
theorem Follows.finished_iff
    (known : progress.Follows request response)
    {batch : List TcpEvent}
    (sent : (progress.round request batch).sent = true)
    (silent :
      (progress.round request batch).connection.state.receives = false) :
    (progress.round request batch).connection.finished = true ↔
      ¬ (progress.sent = true ∧
        progress.connection.ResetUnfinished batch) := by
  have settled := known.settled_round batch
  constructor
  · rintro finished ⟨before, reset⟩
    have unfinished := ((known.resetUnfinished_iff before batch).mp reset).2
    exact absurd (finished.symm.trans unfinished) (by decide)
  · intro whole
    rcases TcpState.peerClosed_or_closed
        (settled.handedOver sent).2.1 silent with peerClosed | closed
    · exact settled.consistent.finished peerClosed
    · by_cases before : progress.sent = true
      · by_contra unfinished
        exact whole ⟨before,
          (known.resetUnfinished_iff before batch).mpr
            ⟨closed, by simpa using unfinished⟩⟩
      · have maySend :
            (progress.connection.receiveAll batch).state.sends = true := by
          simpa [round, before] using sent
        have shape :
            (progress.round request batch).connection.state =
              (progress.connection.receiveAll batch).state.close := by
          simp [round, asked, before, maySend, Connection.drain,
            Connection.handOver]
        exact ((TcpState.localClosed_close maySend).2
          (shape.symm.trans closed)).elim

/-- A round that is not cut short leaves the soundness to the rounds after it. -/
theorem sound_cons_iff
    {batch : List TcpEvent}
    (whole :
      ¬ (progress.sent = true ∧
        progress.connection.ResetUnfinished batch))
    (rest : List (List TcpEvent))
    (result : Except NetError (List UInt8)) :
    (Sound request progress (batch :: rest) result ↔
        ¬ CutShort request progress (batch :: rest)) ↔
      (Sound request (progress.round request batch) rest result ↔
        ¬ CutShort request (progress.round request batch) rest) := by
  have sameCut :
      CutShort request progress (batch :: rest) ↔
        CutShort request (progress.round request batch) rest :=
    or_iff_right whole
  have sameSound :
      Sound request progress (batch :: rest) result ↔
        Sound request (progress.round request batch) rest result :=
    ⟨fun sound => ⟨sound.whole, fun cut =>
        sound.cutShort (sameCut.mpr cut)⟩,
      fun sound => ⟨sound.whole, fun cut =>
        sound.cutShort (sameCut.mp cut)⟩⟩
  rw [sameCut, sameSound]

/-- An exchange that fails in its last round has not been cut short by it. -/
theorem sound_error_iff
    {batch : List TcpEvent}
    (whole :
      ¬ (progress.sent = true ∧
        progress.connection.ResetUnfinished batch))
    (error : NetError) :
    Sound request progress [batch] (.error error) ↔
      ¬ CutShort request progress [batch] := by
  refine iff_of_true ⟨fun bytes isOk => ?_, fun _ => ⟨error, rfl⟩⟩ ?_
  · cases isOk
  · exact fun cut => cut.elim whole id

/-- An exchange that succeeds has the whole stream unless it was cut short. -/
theorem Follows.sound_ok_iff
    (known : progress.Follows request response)
    {batch : List TcpEvent}
    (sent : (progress.round request batch).sent = true)
    (silent :
      (progress.round request batch).connection.state.receives = false) :
    Sound request progress [batch]
        (.ok (response ++ (progress.connection.receiveAll batch).buffered)) ↔
      ¬ CutShort request progress [batch] := by
  have settled := known.settled_round batch
  have cutShort :
      CutShort request progress [batch] ↔
        (progress.sent = true ∧
          progress.connection.ResetUnfinished batch) :=
    or_iff_left id
  rw [cutShort, ← known.finished_iff sent silent]
  constructor
  · exact fun sound => (sound.whole _ rfl).finished
  · intro finished
    constructor
    · rintro bytes ⟨⟩
      exact ⟨(settled.handedOver sent).1, (settled.handedOver sent).2.2,
        finished, settled.response⟩
    · intro cut
      exact ((known.finished_iff sent silent).mp finished
        (cutShort.mp cut)).elim

end HttpProgress

section

variable [Smoltcp]
variable {World Tcp Icmp : Type}
variable {stack : SmolStack World Tcp Icmp}
variable {buffered written : Tcp → List UInt8}
variable {arrivals : World → Nat → List TcpEvent}
variable {record : World → Nat → List (List TcpEvent)}

/-- A socket of the stack that behaves as a connection. -/
structure BehavesAs
    (stack : SmolStack World Tcp Icmp)
    (buffered written : Tcp → List UInt8)
    (connection : Connection)
    (socket : Tcp) : Prop where
  state : stack.state socket = connection.state
  buffered : buffered socket = connection.buffered
  written : written socket = connection.written

/-- Receiving ends with an empty buffer. -/
theorem receiveAll_drains
    (follows : stack.FollowsTcp buffered written arrivals record)
    {connection : Connection}
    {socket : Tcp}
    (describes : BehavesAs stack buffered written connection socket)
    (response : List UInt8) :
    ∃ after,
      BehavesAs stack buffered written connection.drain after ∧
        ∀ fuel,
          connection.buffered.length < fuel →
          receiveAll stack fuel response socket =
            some (.ok (response ++ connection.buffered), after) := by
  generalize bound : connection.buffered.length = size
  induction size using Nat.strong_induction_on
    generalizing connection socket response with
  | _ size inductionHypothesis =>
      by_cases empty : connection.buffered = []
      · refine ⟨socket,
          ⟨describes.state, describes.buffered.trans empty,
            describes.written⟩, fun fuel enough => ?_⟩
        obtain ⟨fuel, rfl⟩ :=
          Nat.exists_eq_add_one.mpr (Nat.zero_lt_of_lt enough)
        simp [receiveAll, follows.canRecv, describes.buffered, empty]
      · have held : buffered socket ≠ [] := by
          rwa [describes.buffered]
        obtain ⟨bytes, received, got, some, split, sameState, sameWritten⟩ :=
          follows.recv socket held
        have shorter : (buffered received).length < size := by
          rw [← bound, ← describes.buffered, split, List.length_append]
          exact Nat.lt_add_of_pos_left (List.length_pos_iff.mpr some)
        have describesReceived :
            BehavesAs stack buffered written
              { connection with buffered := buffered received } received :=
          ⟨sameState.trans describes.state, rfl,
            sameWritten.trans describes.written⟩
        obtain ⟨after, drained, returns⟩ :=
          inductionHypothesis _ shorter describesReceived (response ++ bytes)
            rfl
        refine ⟨after, drained, fun fuel enough => ?_⟩
        obtain ⟨fuel, rfl⟩ :=
          Nat.exists_eq_add_one.mpr (Nat.zero_lt_of_lt enough)
        have canRecv : stack.canRecv socket = true := by
          simpa [follows.canRecv] using held
        simp only [receiveAll, canRecv, if_true, got]
        rw [returns fuel (by omega), ← describes.buffered, split,
          List.append_assoc]

/-- Handing the request over fails, or does what the replay does. -/
theorem sendRequest_describes
    (follows : stack.FollowsTcp buffered written arrivals record)
    {connection : Connection}
    {socket : Tcp}
    (describes : BehavesAs stack buffered written connection socket)
    (request : List UInt8)
    (sent : Bool) :
    (sent = false ∧
      ∃ error after,
        sendRequest stack request sent socket = (.error error, after)) ∨
    ∃ after,
      sendRequest stack request sent socket =
        (.ok (sent || connection.state.sends), after) ∧
      BehavesAs stack buffered written
        (HttpProgress.asked request sent connection) after := by
  have maySend : stack.maySend socket = connection.state.sends := by
    rw [follows.maySend, describes.state]
  unfold sendRequest HttpProgress.asked
  rw [maySend]
  by_cases sends : (!sent && connection.state.sends) = true
  · obtain ⟨unsent, canSend⟩ :
        sent = false ∧ connection.state.sends = true := by
      simpa using sends
    rw [if_pos sends, if_pos sends]
    cases handed : stack.sendSlice socket request with
    | error error =>
        exact .inl ⟨unsent, _, _, rfl⟩
    | ok outcome =>
        obtain ⟨count, after⟩ := outcome
        by_cases partly : count ≠ request.length
        · exact .inl ⟨unsent, _, _, by simp only [if_pos partly]; rfl⟩
        · have sameCount : count = request.length :=
            Decidable.not_not.mp partly
          subst sameCount
          obtain ⟨state, sameBuffer, wrote⟩ :=
            follows.sendSlice _ _ _ _ handed
          obtain ⟨closed, closedBuffer, closedWrite⟩ := follows.close after
          refine .inr ⟨stack.close after, by simp [canSend], ?_, ?_, ?_⟩
          · rw [closed, state, describes.state]
            rfl
          · exact closedBuffer.trans (sameBuffer.trans describes.buffered)
          · rw [closedWrite, wrote, List.take_length, describes.written]
            rfl
  · rw [if_neg sends, if_neg sends]
    refine .inr ⟨socket, ?_, describes⟩
    cases sent <;> simp_all

/-- The socket of an exchange and what is known of it when a round begins. -/
structure AtRound
    (stack : SmolStack World Tcp Icmp)
    (buffered written : Tcp → List UInt8)
    (handle : Nat)
    (request : List UInt8)
    (progress : HttpProgress)
    (response : List UInt8)
    (state : EngineState World Tcp Icmp) : Prop where
  known : progress.Follows request response
  described :
    ∃ socket,
      state.engine.sockets.getTcp? handle = some socket ∧
        BehavesAs stack buffered written progress.connection socket

/-- How an exchange ends that has made some rounds before. -/
def EndsSoundly
    (record : World → Nat → List (List TcpEvent))
    (handle : Nat)
    (request : List UInt8)
    (progress : HttpProgress)
    (state : EngineState World Tcp Icmp)
    (outcome : Except NetError (List UInt8) × EngineState World Tcp Icmp) :
    Prop :=
  ∃ batches,
    record outcome.2.world handle = record state.world handle ++ batches ∧
      (HttpProgress.Sound request progress batches outcome.1 ↔
        ¬ HttpProgress.CutShort request progress batches)

/--
A round is the last one and ends soundly, or it begins before the deadline and
the loop goes on as the replay does.
-/
theorem httpLoop_round
    [LawfulSmoltcp]
    (follows : stack.FollowsTcp buffered written arrivals record)
    (passes : stack.TimePasses)
    {handle : Nat}
    {request response : List UInt8}
    {progress : HttpProgress}
    {state : EngineState World Tcp Icmp}
    (begun :
      AtRound stack buffered written handle request progress response state)
    (target : SocketAddrV4)
    (deadline : Instant) :
    (∃ enough outcome,
      EndsSoundly record handle request progress state outcome ∧
        ∀ fuel,
          enough ≤ fuel →
          httpLoop stack handle target request deadline (fuel + 1)
              progress.sent response state =
            some outcome) ∨
    ∃ enough batch response' later,
      AtRound stack buffered written handle request
          (progress.round request batch) response' later ∧
        (∀ outcome,
          EndsSoundly record handle request (progress.round request batch)
              later outcome →
          EndsSoundly record handle request progress state outcome) ∧
        ¬ deadline ≤ stack.now state.world ∧
        stack.now state.world + pollPause ≤ stack.now later.world ∧
        ∀ fuel,
          enough ≤ fuel →
          httpLoop stack handle target request deadline (fuel + 1)
              progress.sent response state =
            httpLoop stack handle target request deadline fuel
              (progress.round request batch).sent response' later := by
  obtain ⟨known, socket, present, describes⟩ := begun
  obtain ⟨polledSocket, polledThere, polledState, polledBuffer, unwritten⟩ :=
    follows.poll state.engine.iface state.world _ _ _ _ present
      describes.state describes.buffered
  generalize arrived : arrivals state.world handle = batch at *
  have recorded :
      record (state.poll stack).world handle =
        record state.world handle ++ [batch] := by
    rw [← arrived]
    exact follows.record_poll _ _ _ _
  have found :
      (state.poll stack).engine.sockets.getTcp? handle =
        some polledSocket :=
    polledThere
  have polled :
      BehavesAs stack buffered written
        (progress.connection.receiveAll batch) polledSocket :=
    ⟨polledState, polledBuffer,
      (unwritten.trans describes.written).trans
        (progress.connection.written_receiveAll batch).symm⟩
  rcases sendRequest_describes follows polled request progress.sent with
    ⟨unsent, error, after, refused⟩ | ⟨asked, handed, askedDescribes⟩
  · refine .inl ⟨0, _, ⟨[batch], recorded, ?_⟩, fun fuel _ => by
      simp only [httpLoop, found, refused]; rfl⟩
    exact HttpProgress.sound_error_iff
      (fun cut => absurd (unsent.symm.trans cut.1) (by decide)) error
  · have settled := known.settled_round batch
    obtain ⟨after, afterDescribes, returns⟩ :=
      receiveAll_drains follows askedDescribes response
    rw [(HttpProgress.asked_received _ _).1] at returns
    have afterState :
        stack.state after =
          (progress.round request batch).connection.state :=
      afterDescribes.state
    have mayRecv :
        stack.mayRecv after =
          (progress.round request batch).connection.state.receives := by
      rw [follows.mayRecv, afterState, afterDescribes.buffered]
      simp [Connection.drain]
    have body (fuel : Nat)
        (enough :
          (progress.connection.receiveAll batch).buffered.length + 1 ≤
            fuel) :
        httpLoop stack handle target request deadline (fuel + 1)
            progress.sent response state =
          if stack.state polledSocket = .closed && !progress.sent then
            some (.error (.network
              ("TCP connection to " ++ target.display ++ " failed")),
              ((state.poll stack).put handle (.tcp after)).remove handle)
          else if (progress.round request batch).sent &&
              !stack.mayRecv after then
            some (.ok (response ++
                (progress.connection.receiveAll batch).buffered),
              ((state.poll stack).put handle (.tcp after)).remove handle)
          else if deadline ≤
              stack.now ((state.poll stack).put handle (.tcp after)).world then
            some (.error .timeout,
              ((state.poll stack).put handle (.tcp after)).remove handle)
          else
            httpLoop stack handle target request deadline fuel
              (progress.round request batch).sent
              (response ++
                (progress.connection.receiveAll batch).buffered)
              (((state.poll stack).put handle (.tcp after)).sleep stack) := by
      rw [httpLoop]
      simp only [found, handed, returns fuel enough]
      rfl
    have removed :
        record (((state.poll stack).put handle (.tcp after)).remove
            handle).world handle =
          record state.world handle ++ [batch] :=
      recorded
    by_cases failed :
        (stack.state polledSocket = .closed && !progress.sent) = true
    · refine .inl ⟨_, _, ⟨[batch], removed, ?_⟩, fun fuel enough =>
        (body fuel enough).trans (if_pos failed)⟩
      have unsent : progress.sent = false := by
        simpa using (Bool.and_eq_true_iff.mp failed).2
      exact HttpProgress.sound_error_iff
        (fun cut => absurd (unsent.symm.trans cut.1) (by decide)) _
    · by_cases complete :
          ((progress.round request batch).sent &&
            !stack.mayRecv after) = true
      · obtain ⟨sent, silent⟩ := Bool.and_eq_true_iff.mp complete
        rw [mayRecv] at silent
        refine .inl ⟨_, _, ⟨[batch], removed, ?_⟩, fun fuel enough =>
          (body fuel enough).trans
            ((if_neg failed).trans (if_pos complete))⟩
        exact known.sound_ok_iff sent (by simpa using silent)
      · have waiting :
            (progress.round request batch).sent = true →
            (progress.round request batch).connection.state.receives =
              true := by
          intro sent
          rw [← mayRecv]
          simpa [sent] using complete
        have whole := known.not_resetUnfinished waiting
        by_cases passed :
            deadline ≤
              stack.now ((state.poll stack).put handle (.tcp after)).world
        · refine .inl ⟨_, _, ⟨[batch], removed, ?_⟩, fun fuel enough =>
            (body fuel enough).trans
              ((if_neg failed).trans
                ((if_neg complete).trans (if_pos passed)))⟩
          exact HttpProgress.sound_error_iff whole _
        · have pausedRecord :
              record (((state.poll stack).put handle
                  (.tcp after)).sleep stack).world handle =
                record state.world handle ++ [batch] :=
            (follows.record_sleep _ _ _).trans recorded
          refine .inr ⟨_, batch,
            response ++ (progress.connection.receiveAll batch).buffered,
            ((state.poll stack).put handle (.tcp after)).sleep stack,
            ⟨⟨settled, waiting⟩, after,
              EngineState.getTcp?_put found after, afterDescribes⟩,
            ?_, ?_, ?_, fun fuel enough =>
              (body fuel enough).trans
                ((if_neg failed).trans
                  ((if_neg complete).trans (if_neg passed)))⟩
          · rintro outcome ⟨batches, heard, ends⟩
            refine ⟨batch :: batches, ?_,
              (HttpProgress.sound_cons_iff whole batches _).mpr ends⟩
            rw [heard, pausedRecord, List.append_assoc]
            rfl
          · intro early
            exact passed (Nat.le_trans early (passes.poll _ _ _))
          · exact Nat.le_trans
              (Nat.add_le_add_right (passes.poll _ _ _) pollPause)
              (passes.sleep _ _)

/--
The loop returns and ends soundly: the pauses that are left cover the time to
the deadline.
-/
theorem exists_httpLoop
    [LawfulSmoltcp]
    (follows : stack.FollowsTcp buffered written arrivals record)
    (passes : stack.TimePasses)
    {handle left : Nat}
    {request response : List UInt8}
    {progress : HttpProgress}
    {state : EngineState World Tcp Icmp}
    (begun :
      AtRound stack buffered written handle request progress response state)
    (target : SocketAddrV4)
    {deadline : Nat}
    (reached : stack.now state.world + left * pollPause ≥ deadline) :
    ∃ enough outcome,
      EndsSoundly record handle request progress state outcome ∧
        ∀ fuel,
          enough ≤ fuel →
          httpLoop stack handle target request deadline fuel progress.sent
              response state =
            some outcome := by
  induction left generalizing progress response state with
  | zero =>
      rcases httpLoop_round follows passes begun target deadline with
        ⟨enough, outcome, ends, returns⟩ | ⟨_, _, _, _, _, _, early, _⟩
      · refine ⟨enough + 1, outcome, ends, fun fuel more => ?_⟩
        obtain ⟨fuel, rfl⟩ :=
          Nat.exists_eq_add_one.mpr (Nat.zero_lt_of_lt more)
        exact returns fuel (Nat.le_of_succ_le_succ more)
      · rw [Nat.zero_mul] at reached
        exact (early reached).elim
  | succ left inductionHypothesis =>
      rcases httpLoop_round follows passes begun target deadline with
        ⟨enough, outcome, ends, returns⟩ |
        ⟨enough, batch, response', later, begunLater, lift, -, paused,
          continues⟩
      · refine ⟨enough + 1, outcome, ends, fun fuel more => ?_⟩
        obtain ⟨fuel, rfl⟩ :=
          Nat.exists_eq_add_one.mpr (Nat.zero_lt_of_lt more)
        exact returns fuel (Nat.le_of_succ_le_succ more)
      · have reachedLater :
            stack.now later.world + left * pollPause ≥ deadline := by
          rw [Nat.succ_mul, Nat.add_comm (left * pollPause),
            ← Nat.add_assoc] at reached
          exact Nat.le_trans reached (Nat.add_le_add_right paused _)
        obtain ⟨enoughLater, outcome, ends, returns⟩ :=
          inductionHypothesis begunLater reachedLater
        refine ⟨max enough enoughLater + 1, outcome, lift outcome ends,
          fun fuel more => ?_⟩
        obtain ⟨fuel, rfl⟩ :=
          Nat.exists_eq_add_one.mpr (Nat.zero_lt_of_lt more)
        have both := Nat.max_le.mp (Nat.le_of_succ_le_succ more)
        exact (continues fuel both.1).trans (returns fuel both.2)

/-- The batches that the polls of an exchange have brought to its connection. -/
def exchangeBatches
    (stack : SmolStack World Tcp Icmp)
    (record : World → Nat → List (List TcpEvent))
    (target : SocketAddrV4)
    (state after : EngineState World Tcp Icmp) : List (List TcpEvent) :=
  match openSocket stack target state with
  | (.error _, _) => []
  | (.ok handle, opened) =>
      (record after.world handle).drop (record opened.world handle).length

/-- A socket that has been opened begins the first round. -/
theorem atRound_openSocket
    [LawfulSmoltcp]
    (follows : stack.FollowsTcp buffered written arrivals record)
    {target : SocketAddrV4}
    {handle : Nat}
    {state opened : EngineState World Tcp Icmp}
    (started : openSocket stack target state = (.ok handle, opened))
    (request : List UInt8) :
    AtRound stack buffered written handle request .start [] opened := by
  simp only [openSocket] at started
  split at started
  · cases started
  · rename_i connected succeeded
    cases started
    obtain ⟨isOpening, empty, nothing⟩ :=
      follows.connect _ _ _ _ _ _ _ succeeded
    exact ⟨HttpProgress.follows_start, connected,
      EngineState.getTcp?_eq_some_iff.mpr
        (LawfulSlotMaps.get?_put (LawfulSlotMaps.get?_add _ _) _),
      isOpening, empty, nothing⟩

/--
An HTTP exchange returns.  Its success is the peer's whole stream, and it fails
when it is cut short, exactly when no reset reaches the connection after the
request and before the peer's FIN.
-/
theorem http_sound_iff_notCutShort
    [LawfulSmoltcp]
    (follows : stack.FollowsTcp buffered written arrivals record)
    (passes : stack.TimePasses)
    (target : SocketAddrV4)
    (request : List UInt8)
    (timeout : Duration)
    (state : EngineState World Tcp Icmp) :
    ∃ enough result after,
      (∀ fuel,
        enough ≤ fuel →
        http stack fuel target request timeout state =
          some (result, after)) ∧
      (HttpProgress.Sound request .start
          (exchangeBatches stack record target state after) result ↔
        ¬ HttpProgress.CutShort request .start
          (exchangeBatches stack record target state after)) := by
  unfold http exchangeBatches
  cases started : openSocket stack target state with
  | mk opening opened =>
      cases opening with
      | error error =>
          refine ⟨0, .error error, opened, fun fuel _ => rfl,
            iff_of_true ⟨fun bytes isOk => ?_, fun _ => ⟨error, rfl⟩⟩ id⟩
          cases isOk
      | ok handle =>
          have covered :
              stack.now opened.world + timeout * pollPause ≥
                stack.now opened.world + timeout :=
            Nat.add_le_add_left
              (Nat.le_mul_of_pos_right timeout (by decide)) _
          obtain ⟨enough, ⟨result, after⟩, ⟨batches, heard, sound⟩,
            returns⟩ :=
            exists_httpLoop follows passes
              (atRound_openSocket follows started request) target covered
          refine ⟨enough, result, after, returns, ?_⟩
          simp only [heard, List.drop_left]
          exact sound

end

end Waker
