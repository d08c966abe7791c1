import Waker.EngineSockets

namespace Waker

/-!
# Which echo replies a ping sees

The receive buffer of a ping holds one packet.  Of the packets that a poll
brings it keeps the first one that it accepts, and the others of the batch are
dropped before the loop can look at them.
-/

/-- An inbound ICMPv4 packet. -/
structure IcmpPacket where
  source : IpAddress
  bytes : List UInt8
  deriving Repr, DecidableEq

namespace Icmpv4Repr

/-- The identifier of an echo message. -/
def ident? : Icmpv4Repr → Option UInt16
  | .echoRequest ident _ _ | .echoReply ident _ _ => some ident
  | .other => none

/-- The length of an echo message, its header included. -/
def bufferLen : Icmpv4Repr → Nat
  | .echoRequest _ _ data | .echoReply _ _ data => 8 + data.length
  | .other => 0

/-- A message is a reply to the engine's echo request. -/
def isReply : Icmpv4Repr → Bool
  | .echoReply ident seqNo _ => ident = ICMP_IDENT && seqNo = ICMP_SEQUENCE
  | _ => false

end Icmpv4Repr

/-- The size of the receive buffer of a ping. -/
def ICMP_RX_BUFFER : Nat :=
  64

section

variable [Smoltcp]
variable {World Tcp Icmp : Type}

namespace SmolStack

variable (stack : SmolStack World Tcp Icmp)

/-- The message of a packet that is well formed. -/
def message (bytes : List UInt8) : Option Icmpv4Repr :=
  if stack.icmpNewChecked bytes then stack.icmpParse bytes else none

/-- What a socket bound to an identifier takes from a packet that fits. -/
def accepts
    (ident : UInt16)
    (packet : IcmpPacket) : Option (Icmpv4Repr × IpAddress) :=
  (stack.message packet.bytes).bind fun message =>
    if message.ident? = some ident && message.bufferLen ≤ ICMP_RX_BUFFER then
      some (message, packet.source)
    else
      none

/--
The ICMP sockets of a stack behave as documented: a bound socket has one slot,
which a poll fills with the first packet that the socket accepts.
-/
structure FollowsIcmp
    (bound : Icmp → Option UInt16)
    (held : Icmp → Option (Icmpv4Repr × IpAddress))
    (arrivals : World → List IcmpPacket)
    (record : World → List (List IcmpPacket)) : Prop where
  bind : ∀ ident,
    ∃ socket,
      stack.icmpBind (stack.icmpNew 1 ICMP_RX_BUFFER 1 64) ident =
          .ok socket ∧
        bound socket = some ident ∧ held socket = none
  send : ∀ socket bytes destination sent,
    stack.icmpSend socket bytes destination = .ok sent →
    bound sent = bound socket ∧ held sent = held socket
  send_ok : ∀ socket ident seqNo data target,
    stack.icmpBind (stack.icmpNew 1 ICMP_RX_BUFFER 1 64) ident =
      .ok socket →
    8 + data.length ≤ 64 →
    ((∃ sent,
        stack.icmpSend socket
            (stack.icmpEmit (.echoRequest ident seqNo data))
            (.ipv4 target) = .ok sent) ↔
      target.isUnspecified = false)
  poll : ∀ iface world sockets handle socket ident,
    sockets.getIcmp? handle = some socket →
    bound socket = some ident →
    held socket = none →
    ∃ polled,
      (stack.poll iface world sockets).2.getIcmp? handle = some polled ∧
        bound polled = some ident ∧
        held polled = (arrivals world).findSome? (stack.accepts ident)
  record_poll : ∀ iface world sockets,
    record (stack.poll iface world sockets).1 =
      record world ++ [arrivals world]
  record_sleep : ∀ pause world,
    record (stack.sleep pause world) = record world
  canRecv : ∀ socket, stack.icmpCanRecv socket = (held socket).isSome
  recv : ∀ socket message source,
    held socket = some (message, source) →
    ∃ bytes received,
      stack.icmpRecv socket = .ok ((bytes, source), received) ∧
        stack.message bytes = some message ∧
        bound received = bound socket ∧ held received = none

end SmolStack

/-- A packet that the socket of a ping has accepted answers the ping. -/
def answers
    (target : Ipv4Addr)
    (held : Icmpv4Repr × IpAddress) : Bool :=
  held.1.isReply && held.2 = .ipv4 target

/-- A batch contains a reply of the target that fits the receive buffer. -/
def HasReply
    (stack : SmolStack World Tcp Icmp)
    (target : Ipv4Addr)
    (batch : List IcmpPacket) : Prop :=
  ∃ packet, packet ∈ batch ∧
    (stack.accepts ICMP_IDENT packet).any (answers target) = true

/-- A batch begins with a reply, but for packets that are not accepted. -/
def LeadsWithReply
    (stack : SmolStack World Tcp Icmp)
    (target : Ipv4Addr)
    (batch : List IcmpPacket) : Prop :=
  (batch.findSome? (stack.accepts ICMP_IDENT)).any (answers target) = true

/-- Only a batch that contains a reply leads with one. -/
theorem LeadsWithReply.hasReply
    {stack : SmolStack World Tcp Icmp}
    {target : Ipv4Addr}
    {batch : List IcmpPacket}
    (leads : LeadsWithReply stack target batch) :
    HasReply stack target batch := by
  unfold LeadsWithReply at leads
  cases first : batch.findSome? (stack.accepts ICMP_IDENT) with
  | none =>
      rw [first] at leads
      cases leads
  | some held =>
      obtain ⟨packet, member, accepted⟩ :=
        List.exists_of_findSome?_eq_some first
      rw [first] at leads
      exact ⟨packet, member, by rw [accepted]; exact leads⟩

/-- A ping answers whether a reply of the target is among the packets. -/
structure PingSound
    (stack : SmolStack World Tcp Icmp)
    (target : Ipv4Addr)
    (batches : List (List IcmpPacket))
    (result : Except NetError Bool) : Prop where
  replied :
    result = .ok true ↔
      ∃ batch, batch ∈ batches ∧ HasReply stack target batch
  silent :
    result = .ok false ↔
      ¬ ∃ batch, batch ∈ batches ∧ HasReply stack target batch

/-- If there is a reply at all, some batch leads with one. -/
def NoReplyMasked
    (stack : SmolStack World Tcp Icmp)
    (target : Ipv4Addr)
    (batches : List (List IcmpPacket)) : Prop :=
  (∃ batch, batch ∈ batches ∧ HasReply stack target batch) →
    ∃ batch, batch ∈ batches ∧ LeadsWithReply stack target batch

variable {stack : SmolStack World Tcp Icmp}
variable {bound : Icmp → Option UInt16}
variable {held : Icmp → Option (Icmpv4Repr × IpAddress)}
variable {arrivals : World → List IcmpPacket}
variable {record : World → List (List IcmpPacket)}

/-- The engine recognises exactly the packets that answer its ping. -/
theorem isEchoReply_eq_answers
    {target : Ipv4Addr}
    {bytes : List UInt8}
    {message : Icmpv4Repr}
    (parsed : stack.message bytes = some message)
    (source : IpAddress) :
    isEchoReply stack target bytes source =
      answers target (message, source) := by
  unfold SmolStack.message at parsed
  split at parsed
  · rename_i checked
    rw [isEchoReply, if_pos checked, parsed]
    cases message <;>
      simp [answers, Icmpv4Repr.isReply, Bool.and_assoc, Bool.and_comm,
        Bool.and_left_comm]
  · cases parsed

/-- Looking at the slot empties it and finds out whether it answers. -/
theorem receiveReply_slot
    (follows : stack.FollowsIcmp bound held arrivals record)
    (target : Ipv4Addr)
    (socket : Icmp) :
    ∃ after,
      bound after = bound socket ∧
        ((held socket).any (answers target) = false → held after = none) ∧
        ∀ fuel,
          2 ≤ fuel →
          receiveReply stack target fuel socket =
            some (.ok ((held socket).any (answers target)), after) := by
  cases slot : held socket with
  | none =>
      refine ⟨socket, rfl, fun _ => slot, fun fuel enough => ?_⟩
      obtain ⟨fuel, rfl⟩ :=
        Nat.exists_eq_add_one.mpr (Nat.zero_lt_of_lt enough)
      simp [receiveReply, follows.canRecv, slot]
  | some packet =>
      obtain ⟨message, source⟩ := packet
      obtain ⟨bytes, after, received, parsed, sameBound, emptied⟩ :=
        follows.recv socket message source slot
      refine ⟨after, sameBound, fun _ => emptied, fun fuel enough => ?_⟩
      obtain ⟨fuel, rfl⟩ := Nat.exists_eq_add_of_le' enough
      have canRecv : stack.icmpCanRecv socket = true := by
        rw [follows.canRecv, slot]
        rfl
      have exhausted : stack.icmpCanRecv after = false := by
        rw [follows.canRecv, emptied]
        rfl
      simp only [receiveReply, canRecv, if_true, received,
        isEchoReply_eq_answers parsed, exhausted, Option.any_some]
      cases answers target (message, source) <;> rfl

/-- An ICMP socket that was added is found at its handle. -/
theorem getIcmp?_add
    [LawfulSmoltcp]
    (sockets : SocketSet (Socket Tcp Icmp))
    (socket : Icmp) :
    SocketSet.getIcmp? (SlotMaps.add sockets (.icmp socket)).2
        (SlotMaps.add sockets (.icmp socket)).1 =
      some socket := by
  rw [SocketSet.getIcmp?, LawfulSlotMaps.get?_add]

/-- An ICMP socket at a handle is the value stored there. -/
theorem getIcmp?_eq_some
    {handle : Nat}
    {sockets : SocketSet (Socket Tcp Icmp)}
    {socket : Icmp}
    (present : sockets.getIcmp? handle = some socket) :
    SlotMaps.get? sockets handle = some (.icmp socket) := by
  unfold SocketSet.getIcmp? at present
  cases stored : SlotMaps.get? sockets handle with
  | none =>
      rw [stored] at present
      cases present
  | some held =>
      rw [stored] at present
      cases held with
      | tcp other =>
          cases present
      | icmp other =>
          cases present
          rfl

/-- An ICMP socket that was written back is found again. -/
theorem getIcmp?_put
    [LawfulSmoltcp]
    {handle : Nat}
    {socket : Icmp}
    {state : EngineState World Tcp Icmp}
    (present : state.engine.sockets.getIcmp? handle = some socket)
    (after : Icmp) :
    (state.put handle (.icmp after)).engine.sockets.getIcmp? handle =
      some after := by
  rw [SocketSet.getIcmp?, EngineState.put,
    LawfulSlotMaps.get?_put (getIcmp?_eq_some present)]

/-- The socket of a ping at the beginning of a round. -/
def WaitsForReply
    (bound : Icmp → Option UInt16)
    (held : Icmp → Option (Icmpv4Repr × IpAddress))
    (handle : Nat)
    (state : EngineState World Tcp Icmp) : Prop :=
  ∃ socket,
    state.engine.sockets.getIcmp? handle = some socket ∧
      bound socket = some ICMP_IDENT ∧ held socket = none

/-- How a ping ends that has made some rounds before. -/
structure AnswersLeading
    (stack : SmolStack World Tcp Icmp)
    (record : World → List (List IcmpPacket))
    (target : Ipv4Addr)
    (deadline : Nat)
    (state : EngineState World Tcp Icmp)
    (batches : List (List IcmpPacket))
    (outcome : Except NetError Bool × EngineState World Tcp Icmp) :
    Prop where
  heard : record outcome.2.world = record state.world ++ batches
  answered :
    (∃ batch, batch ∈ batches ∧ LeadsWithReply stack target batch) →
    outcome.1 = .ok true
  unanswered :
    (¬ ∃ batch, batch ∈ batches ∧ LeadsWithReply stack target batch) →
    outcome.1 = .ok false ∧ deadline ≤ stack.now outcome.2.world

/--
A round is the last one, or its batch does not lead with a reply and the loop
goes on.
-/
theorem pingLoop_round
    [LawfulSmoltcp]
    (follows : stack.FollowsIcmp bound held arrivals record)
    (passes : stack.TimePasses)
    {handle : Nat}
    {state : EngineState World Tcp Icmp}
    (waits : WaitsForReply bound held handle state)
    (target : Ipv4Addr)
    (deadline : Nat) :
    (∃ batches outcome,
      AnswersLeading stack record target deadline state batches outcome ∧
        ∀ fuel,
          2 ≤ fuel →
          pingLoop stack handle target deadline (fuel + 1) state =
            some outcome) ∨
    ∃ later,
      WaitsForReply bound held handle later ∧
        (∀ batches outcome,
          AnswersLeading stack record target deadline later batches
            outcome →
          ∃ all,
            AnswersLeading stack record target deadline state all outcome) ∧
        ¬ deadline ≤ stack.now state.world ∧
        stack.now state.world + pollPause ≤ stack.now later.world ∧
        ∀ fuel,
          2 ≤ fuel →
          pingLoop stack handle target deadline (fuel + 1) state =
            pingLoop stack handle target deadline fuel later := by
  obtain ⟨socket, present, isBound, empty⟩ := waits
  obtain ⟨polledSocket, polledThere, polledBound, slot⟩ :=
    follows.poll state.engine.iface state.world _ _ _ _ present isBound empty
  have recorded :
      record (state.poll stack).world =
        record state.world ++ [arrivals state.world] :=
    follows.record_poll _ _ _
  have found :
      (state.poll stack).engine.sockets.getIcmp? handle =
        some polledSocket :=
    polledThere
  obtain ⟨after, sameBound, emptied, looks⟩ :=
    receiveReply_slot follows target polledSocket
  rw [slot] at looks emptied
  cases leads :
      ((arrivals state.world).findSome? (stack.accepts ICMP_IDENT)).any
        (answers target) with
  | true =>
      rw [leads] at looks
      refine .inl ⟨[arrivals state.world], _, ⟨recorded, fun _ => rfl, ?_⟩,
        fun fuel enough => by
          simp only [pingLoop, found, looks fuel enough]; rfl⟩
      exact fun none => (none ⟨_, by simp, leads⟩).elim
  | false =>
      rw [leads] at looks
      have masked : ¬ LeadsWithReply stack target (arrivals state.world) := by
        simp [LeadsWithReply, leads]
      by_cases passed :
          deadline ≤
            stack.now ((state.poll stack).put handle (.icmp after)).world
      · refine .inl ⟨[arrivals state.world], _, ⟨recorded, ?_, ?_⟩,
          fun fuel enough => by
            simp only [pingLoop, found, looks fuel enough, if_pos passed]
            rfl⟩
        · rintro ⟨batch, member, answered⟩
          rw [List.mem_singleton.mp member] at answered
          exact (masked answered).elim
        · exact fun _ => ⟨rfl, passed⟩
      · have pausedRecord :
            record (((state.poll stack).put handle
                (.icmp after)).sleep stack).world =
              record state.world ++ [arrivals state.world] :=
          (follows.record_sleep _ _).trans recorded
        have stored :
            (((state.poll stack).put handle (.icmp after)).sleep
              stack).engine.sockets.getIcmp? handle = some after :=
          getIcmp?_put found after
        refine .inr
          ⟨((state.poll stack).put handle (.icmp after)).sleep stack,
            ⟨after, stored, sameBound.trans polledBound, emptied leads⟩,
            ?_, ?_, ?_, fun fuel enough => by
              simp only [pingLoop, found, looks fuel enough,
                if_neg passed]⟩
        · rintro batches outcome ends
          have sameLeads :
              (∃ batch, batch ∈ arrivals state.world :: batches ∧
                  LeadsWithReply stack target batch) ↔
                ∃ batch, batch ∈ batches ∧
                  LeadsWithReply stack target batch := by
            simp [masked]
          refine ⟨arrivals state.world :: batches, ?_, ?_, ?_⟩
          · rw [ends.heard, pausedRecord, List.append_assoc]
            rfl
          · rw [sameLeads]
            exact ends.answered
          · rw [sameLeads]
            exact ends.unanswered
        · intro early
          exact passed (Nat.le_trans early (passes.poll _ _ _))
        · exact Nat.le_trans
            (Nat.add_le_add_right (passes.poll _ _ _) pollPause)
            (passes.sleep _ _)

/--
The loop returns and answers whether some batch leads with a reply: the pauses
that are left cover the time to the deadline.
-/
theorem exists_pingLoop
    [LawfulSmoltcp]
    (follows : stack.FollowsIcmp bound held arrivals record)
    (passes : stack.TimePasses)
    {handle left : Nat}
    {state : EngineState World Tcp Icmp}
    (waits : WaitsForReply bound held handle state)
    (target : Ipv4Addr)
    {deadline : Nat}
    (reached : stack.now state.world + left * pollPause ≥ deadline) :
    ∃ enough batches outcome,
      AnswersLeading stack record target deadline state batches outcome ∧
        ∀ fuel,
          enough ≤ fuel →
          pingLoop stack handle target deadline fuel state =
            some outcome := by
  induction left generalizing state with
  | zero =>
      rcases pingLoop_round follows passes waits target deadline with
        ⟨batches, outcome, ends, returns⟩ | ⟨_, _, _, early, _⟩
      · refine ⟨3, batches, outcome, ends, fun fuel more => ?_⟩
        obtain ⟨fuel, rfl⟩ :=
          Nat.exists_eq_add_one.mpr (Nat.zero_lt_of_lt more)
        exact returns fuel (Nat.le_of_succ_le_succ more)
      · rw [Nat.zero_mul] at reached
        exact (early reached).elim
  | succ left inductionHypothesis =>
      rcases pingLoop_round follows passes waits target deadline with
        ⟨batches, outcome, ends, returns⟩ |
        ⟨later, waitsLater, lift, -, paused, continues⟩
      · refine ⟨3, batches, outcome, ends, fun fuel more => ?_⟩
        obtain ⟨fuel, rfl⟩ :=
          Nat.exists_eq_add_one.mpr (Nat.zero_lt_of_lt more)
        exact returns fuel (Nat.le_of_succ_le_succ more)
      · have reachedLater :
            stack.now later.world + left * pollPause ≥ deadline := by
          rw [Nat.succ_mul, Nat.add_comm (left * pollPause),
            ← Nat.add_assoc] at reached
          exact Nat.le_trans reached (Nat.add_le_add_right paused _)
        obtain ⟨enough, batches, outcome, ends, returns⟩ :=
          inductionHypothesis waitsLater reachedLater
        obtain ⟨all, allEnds⟩ := lift batches outcome ends
        refine ⟨max 3 (enough + 1), all, outcome, allEnds,
          fun fuel more => ?_⟩
        have both := Nat.max_le.mp more
        obtain ⟨fuel, rfl⟩ :=
          Nat.exists_eq_add_one.mpr (Nat.zero_lt_of_lt both.1)
        exact (continues fuel (Nat.le_of_succ_le_succ both.1)).trans
          (returns fuel (Nat.le_of_succ_le_succ both.2))

/-- The batches that the polls of a ping have brought. -/
def pingBatches
    (record : World → List (List IcmpPacket))
    (state after : EngineState World Tcp Icmp) : List (List IcmpPacket) :=
  (record after.world).drop (record state.world).length

/-- Answering whether a batch leads with a reply is right unless it is masked. -/
theorem AnswersLeading.sound_iff
    {target : Ipv4Addr}
    {deadline : Nat}
    {state : EngineState World Tcp Icmp}
    {batches : List (List IcmpPacket)}
    {outcome : Except NetError Bool × EngineState World Tcp Icmp}
    (ends :
      AnswersLeading stack record target deadline state batches outcome) :
    PingSound stack target batches outcome.1 ↔
      NoReplyMasked stack target batches := by
  by_cases leads :
      ∃ batch, batch ∈ batches ∧ LeadsWithReply stack target batch
  · have answered := ends.answered leads
    obtain ⟨batch, member, isLeading⟩ := leads
    have replied :
        ∃ batch, batch ∈ batches ∧ HasReply stack target batch :=
      ⟨batch, member, isLeading.hasReply⟩
    refine iff_of_true ⟨?_, ?_⟩ fun _ => ⟨batch, member, isLeading⟩
    · exact iff_of_true answered replied
    · rw [answered]
      exact iff_of_false (by simp) fun silent => silent replied
  · have unanswered := (ends.unanswered leads).1
    constructor
    · intro sound replied
      exact (sound.silent.mp unanswered replied).elim
    · intro unmasked
      have silent := fun replied => leads (unmasked replied)
      exact ⟨iff_of_false (by rw [unanswered]; simp) silent,
        iff_of_true unanswered silent⟩

/--
A ping returns.  It answers whether a reply of the target that fits was among
the packets polled until the deadline was observed, exactly when the target is
specified and, if there was such a reply, it led the accepted packets of some
batch.
-/
theorem ping_sound_iff_noReplyMasked
    [LawfulSmoltcp]
    (follows : stack.FollowsIcmp bound held arrivals record)
    (passes : stack.TimePasses)
    (target : Ipv4Addr)
    (timeout : Duration)
    (state : EngineState World Tcp Icmp) :
    ∃ enough result after,
      (∀ fuel,
        enough ≤ fuel →
        ping stack fuel target timeout state = some (result, after)) ∧
      (result = .ok false →
        stack.now after.world ≥ stack.now state.world + timeout) ∧
      (PingSound stack target (pingBatches record state after) result ↔
        target.isUnspecified = false ∧
          NoReplyMasked stack target (pingBatches record state after)) := by
  obtain ⟨socket, binds, isBound, empty⟩ := follows.bind ICMP_IDENT
  have built :
      stack.icmpBind (stack.icmpNew 1 64 1 64) ICMP_IDENT = .ok socket :=
    binds
  have addressable :=
    follows.send_ok socket ICMP_IDENT ICMP_SEQUENCE ICMP_PAYLOAD target
      binds (by decide)
  cases sends :
      stack.icmpSend socket
        (stack.icmpEmit (.echoRequest ICMP_IDENT ICMP_SEQUENCE ICMP_PAYLOAD))
        (.ipv4 target) with
  | error error =>
      have unspecified : ¬ target.isUnspecified = false := by
        rw [← addressable, sends]
        simp
      refine ⟨0, .error (.network ("ICMP send failed: " ++ error)), state,
        fun fuel _ => by simp only [ping, built, sends], fun isOk => ?_,
        iff_of_false ?_ fun both => unspecified both.1⟩
      · cases isOk
      · intro sound
        have nothing :
            ¬ ∃ batch, batch ∈ pingBatches record state state ∧
              HasReply stack target batch := by
          simp [pingBatches]
        exact absurd (sound.silent.mpr nothing) (by simp)
  | ok sent =>
      have specified : target.isUnspecified = false := by
        rw [← addressable]
        exact ⟨sent, sends⟩
      obtain ⟨sameBound, sameHeld⟩ := follows.send _ _ _ _ sends
      have waits :
          WaitsForReply bound held
            (SlotMaps.add state.engine.sockets (.icmp sent)).1
            { state with
              engine := { state.engine with
                sockets :=
                  (SlotMaps.add state.engine.sockets (.icmp sent)).2 } } :=
        ⟨sent, getIcmp?_add _ _, sameBound.trans isBound,
          sameHeld.trans empty⟩
      have covered :
          stack.now state.world + timeout * pollPause ≥
            stack.now state.world + timeout :=
        Nat.add_le_add_left
          (Nat.le_mul_of_pos_right timeout (by decide)) _
      obtain ⟨enough, batches, ⟨result, after⟩, ends, returns⟩ :=
        exists_pingLoop follows passes waits target covered
      have heard : pingBatches record state after = batches := by
        rw [pingBatches, ends.heard, List.drop_left]
      refine ⟨enough, result, after, fun fuel more => ?_, ?_, ?_⟩
      · simp only [ping, built, sends]
        exact returns fuel more
      · intro isFalse
        refine (ends.unanswered fun leads => ?_).2
        exact absurd ((ends.answered leads).symm.trans isFalse) (by simp)
      · rw [heard, ends.sound_iff]
        exact (and_iff_right specified).symm

end

end Waker
