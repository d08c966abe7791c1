import Mathlib.Data.List.Infix
import Mathlib.Data.List.Nodup
import Waker.RequestServer

namespace RequestServer

/-!
# The record of a request server

Whatever the calls do, every request is served at most once and in the order in
which it was accepted, and every call stands where the record says.
-/

variable {Call Effort Request Reply Memory : Type*}

/-- Serving these requests one after the other changes the memory like this. -/
inductive ServedFrom
    (serve? : Effort → Request → Memory → Option (Reply × Memory))
    (initial : Memory) :
    List (Served Call Request Reply) → Memory → Prop where
  | nil : ServedFrom serve? initial [] initial
  | concat
      {served : List (Served Call Request Reply)}
      {before after : Memory}
      {job : Job Call Request}
      {reply : Reply}
      (earlier : ServedFrom serve? initial served before)
      (effort : Effort)
      (serves : serve? effort job.request before = some (reply, after)) :
      ServedFrom serve? initial (served ++ [⟨job, reply⟩]) after

/-- Where a call stands agrees with the record. -/
def Agrees
    (state : State Call Request Reply Memory)
    (call : Call) : Phase Request Reply → Prop
  | .idle | .sending _ => call ∉ state.accepted.map Job.call
  | .waiting request =>
      ⟨call, request⟩ ∈ state.accepted ∧
        ∀ served, served ∈ state.served → served.job.call ≠ call
  | .answered request reply
  | .returned request (.replied reply) =>
      ⟨⟨call, request⟩, reply⟩ ∈ state.served
  | .returned _ .stopped =>
      state.running = false ∧
        ∀ served, served ∈ state.served → served.job.call ≠ call
  | .abandoned => True

/--
Every call has at most one request, these are served in the order in which they
were accepted, and every call stands where the record says.
-/
structure Coherent
    (serve? : Effort → Request → Memory → Option (Reply × Memory))
    (capacity : Nat)
    (initial : Memory)
    (state : State Call Request Reply Memory) : Prop where
  once : (state.accepted.map Job.call).Nodup
  ordered : state.served.map Served.job ++ state.pending <+: state.accepted
  kept :
    state.running = true →
    state.served.map Served.job ++ state.pending = state.accepted
  dropped : state.running = false → state.pending = []
  bounded : state.queue.length ≤ capacity
  computed : ServedFrom serve? initial state.served state.memory
  phases : ∀ call, Agrees state call (state.phase call)

variable {serve? : Effort → Request → Memory → Option (Reply × Memory)}
variable {capacity : Nat}
variable {initial : Memory}

/-- In the beginning nothing has been accepted. -/
theorem coherent_start
    (initial : Memory) :
    Coherent serve? capacity initial
      (.start initial : State Call Request Reply Memory) where
  once := List.nodup_nil
  ordered := List.nil_prefix
  kept := fun _ => rfl
  dropped := fun stopped => nomatch stopped
  bounded := Nat.zero_le capacity
  computed := .nil
  phases := fun _ => List.not_mem_nil

section

variable {state next : State Call Request Reply Memory}

/-- A served request was accepted. -/
theorem Coherent.job_mem
    (coherent : Coherent serve? capacity initial state)
    {entry : Served Call Request Reply}
    (member : entry ∈ state.served) :
    entry.job ∈ state.accepted :=
  coherent.ordered.subset
    (List.mem_append_left _ (List.mem_map_of_mem member))

/-- A call that has not been accepted has not been served. -/
theorem Coherent.not_served
    (coherent : Coherent serve? capacity initial state)
    {call : Call}
    (fresh : call ∉ state.accepted.map Job.call)
    (entry : Served Call Request Reply)
    (member : entry ∈ state.served) :
    entry.job.call ≠ call := by
  intro same
  exact fresh (same ▸ List.mem_map_of_mem (coherent.job_mem member))

/-- A request that waits to be served was accepted. -/
theorem Coherent.pending_subset
    (coherent : Coherent serve? capacity initial state) :
    state.pending ⊆ state.accepted :=
  fun _ member =>
    coherent.ordered.subset (List.mem_append_right _ member)

/-- The call of the current request has been accepted. -/
theorem Coherent.current_accepted
    (coherent : Coherent serve? capacity initial state)
    {job : Job Call Request}
    (current : state.current = some job) :
    job ∈ state.accepted :=
  coherent.pending_subset (by simp [State.pending, current])

/-- A server with a request in hand is running. -/
theorem Coherent.running_of_current
    (coherent : Coherent serve? capacity initial state)
    {job : Job Call Request}
    (current : state.current = some job) :
    state.running = true := by
  by_contra stopped
  have none := coherent.dropped (Bool.eq_false_iff.mpr stopped)
  simp [State.pending, current] at none

/-- The call of the current request has not been served. -/
theorem Coherent.current_unserved
    (coherent : Coherent serve? capacity initial state)
    {job : Job Call Request}
    (current : state.current = some job)
    (entry : Served Call Request Reply)
    (member : entry ∈ state.served) :
    entry.job.call ≠ job.call := by
  have calls := coherent.once.sublist (coherent.ordered.map Job.call).sublist
  rw [List.map_append, List.nodup_append] at calls
  refine calls.2.2 _ ?_ _ ?_
  · exact List.mem_map_of_mem (List.mem_map_of_mem member)
  · exact List.mem_map_of_mem (by simp [State.pending, current])

/-- A call has only one request. -/
theorem Coherent.request_unique
    (coherent : Coherent serve? capacity initial state)
    {call : Call}
    {first second : Request}
    (left : ⟨call, first⟩ ∈ state.accepted)
    (right : ⟨call, second⟩ ∈ state.accepted) :
    first = second := by
  have same := List.inj_on_of_nodup_map coherent.once left right rfl
  exact congrArg Job.request same

/-- A call has only one reply. -/
theorem Coherent.reply_unique
    (coherent : Coherent serve? capacity initial state)
    {left right : Served Call Request Reply}
    (leftServed : left ∈ state.served)
    (rightServed : right ∈ state.served)
    (same : left.job.call = right.job.call) :
    left = right := by
  have calls :
      (state.served.map fun entry => entry.job.call).Nodup := by
    have front :=
      ((List.prefix_append _ _).trans coherent.ordered).map Job.call
    rw [List.map_map] at front
    exact coherent.once.sublist front.sublist
  exact List.inj_on_of_nodup_map calls leftServed rightServed same

/-- A call whose request was served has the reply. -/
theorem Coherent.has_of_served
    (coherent : Coherent serve? capacity initial state)
    {call : Call}
    {request : Request}
    {reply : Reply}
    (follows : (state.phase call).Follows request)
    (served : ⟨⟨call, request⟩, reply⟩ ∈ state.served) :
    (state.phase call).Has request reply := by
  have agrees := coherent.phases call
  have alike
      {own : Request}
      {result : Reply}
      (known : ⟨⟨call, own⟩, result⟩ ∈ state.served) :
      own = request ∧ result = reply := by
    cases coherent.reply_unique known served rfl
    exact ⟨rfl, rfl⟩
  cases place : state.phase call with
  | waiting own =>
      rw [place] at agrees
      exact absurd rfl (agrees.2 _ served)
  | answered own result =>
      rw [place] at agrees
      exact alike agrees
  | returned own answer =>
      rw [place] at agrees
      cases answer with
      | replied result =>
          exact alike agrees
      | stopped =>
          exact absurd rfl (agrees.2 _ served)
  | abandoned =>
      trivial
  | _ =>
      rw [place] at follows
      cases follows

/-- A waiting call has a place in the queue, behind at most its capacity. -/
theorem Coherent.exists_ahead
    (coherent : Coherent serve? capacity initial state)
    (running : state.running = true)
    (waiting : state.phase call = .waiting request) :
    ∃ ahead behind,
      state.pending = ahead ++ ⟨call, request⟩ :: behind ∧
        ahead.length ≤ capacity := by
  have agrees := coherent.phases call
  rw [waiting] at agrees
  have member : ⟨call, request⟩ ∈ state.pending := by
    have accepted := agrees.1
    rw [← coherent.kept running] at accepted
    rcases List.mem_append.mp accepted with before | here
    · obtain ⟨entry, served, same⟩ := List.mem_map.mp before
      exact absurd (congrArg Job.call same) (agrees.2 entry served)
    · exact here
  obtain ⟨ahead, behind, split⟩ := List.append_of_mem member
  refine ⟨ahead, behind, split, ?_⟩
  have total : state.pending.length ≤ capacity + 1 := by
    have bounded := coherent.bounded
    cases current : state.current with
    | none =>
        simp [State.pending, current]
        omega
    | some job =>
        simp [State.pending, current]
        omega
  rw [split, List.length_append, List.length_cons] at total
  omega

/-- From one state to the next the record says nothing new about a call. -/
structure Untouched
    (state next : State Call Request Reply Memory)
    (call : Call) : Prop where
  accepted : state.accepted ⊆ next.accepted
  others :
    ∀ job,
      job ∈ next.accepted →
      job ∈ state.accepted ∨ job.call ≠ call
  served : state.served ⊆ next.served
  otherReplies :
    ∀ entry,
      entry ∈ next.served →
      entry ∈ state.served ∨ entry.job.call ≠ call
  ended : state.running = false → next.running = false

/-- An untouched call agrees with the record as before. -/
theorem Agrees.carry
    {call : Call}
    {phase : Phase Request Reply}
    (agrees : Agrees state call phase)
    (untouched : Untouched state next call) :
    Agrees next call phase := by
  have fresh
      (absent : call ∉ state.accepted.map Job.call) :
      call ∉ next.accepted.map Job.call := by
    intro present
    obtain ⟨job, member, same⟩ := List.mem_map.mp present
    rcases untouched.others job member with before | different
    · exact absent (same ▸ List.mem_map_of_mem before)
    · exact different same
  have unserved
      (absent :
        ∀ entry, entry ∈ state.served → entry.job.call ≠ call)
      (entry : Served Call Request Reply)
      (member : entry ∈ next.served) :
      entry.job.call ≠ call :=
    (untouched.otherReplies entry member).elim (absent entry) id
  cases phase with
  | idle =>
      exact fresh agrees
  | sending request =>
      exact fresh agrees
  | waiting request =>
      exact ⟨untouched.accepted agrees.1, unserved agrees.2⟩
  | answered request reply =>
      exact untouched.served agrees
  | returned request answer =>
      cases answer with
      | replied reply =>
          exact untouched.served agrees
      | stopped =>
          exact ⟨untouched.ended agrees.1, unserved agrees.2⟩
  | abandoned =>
      trivial

/-- Taking the first request of the queue does not reorder anything. -/
theorem Coherent.taken
    (coherent : Coherent serve? capacity initial state)
    {job : Job Call Request}
    {rest : List (Job Call Request)}
    (free : state.current = none)
    (first : state.queue = job :: rest) :
    Coherent serve? capacity initial
      { state with queue := rest, current := some job } := by
  have same :
      state.pending =
        State.pending { state with queue := rest, current := some job } := by
    simp [State.pending, free, first]
  have shorter : rest.length ≤ capacity := by
    have bounded := coherent.bounded
    rw [first, List.length_cons] at bounded
    exact Nat.le_of_succ_le bounded
  exact {
    once := coherent.once
    ordered := same ▸ coherent.ordered
    kept := same ▸ coherent.kept
    dropped := same ▸ coherent.dropped
    bounded := shorter
    computed := coherent.computed
    phases := coherent.phases }

/-- A server that stops leaves its record as it is. -/
theorem Coherent.stopped
    (coherent : Coherent serve? capacity initial state) :
    Coherent serve? capacity initial
      { state with running := false, queue := [], current := none } where
  once := coherent.once
  ordered := by
    have front := (List.prefix_append _ _).trans coherent.ordered
    simpa [State.pending] using front
  kept := nofun
  dropped := fun _ => rfl
  bounded := Nat.zero_le capacity
  computed := coherent.computed
  phases := fun call => Agrees.carry (coherent.phases call) {
    accepted := List.Subset.refl _
    others := fun _ member => .inl member
    served := List.Subset.refl _
    otherReplies := fun _ member => .inl member
    ended := fun _ => rfl
  }

end

section

variable [DecidableEq Call]
variable {state next : State Call Request Reply Memory}

/-- Where one call moves, the others stand as before. -/
theorem Coherent.setPhase
    (coherent : Coherent serve? capacity initial state)
    {call : Call}
    {phase : Phase Request Reply}
    (agrees : Agrees state call phase) :
    Coherent serve? capacity initial (state.setPhase call phase) where
  once := coherent.once
  ordered := coherent.ordered
  kept := coherent.kept
  dropped := coherent.dropped
  bounded := coherent.bounded
  computed := coherent.computed
  phases := by
    intro other
    by_cases same : other = call
    · subst same
      rw [State.phase_setPhase_self]
      exact agrees
    · rw [State.phase_setPhase_of_ne state same]
      exact coherent.phases other

/-- Accepting a request keeps the record in order. -/
theorem Coherent.sent
    (coherent : Coherent serve? capacity initial state)
    {call : Call}
    {request : Request}
    (sending : state.phase call = .sending request)
    (running : state.running = true)
    (room : state.queue.length < capacity) :
    Coherent serve? capacity initial
      { state.setPhase call (.waiting request) with
        queue := state.queue ++ [⟨call, request⟩]
        accepted := state.accepted ++ [⟨call, request⟩] } := by
  have fresh : call ∉ state.accepted.map Job.call := by
    have agrees := coherent.phases call
    rw [sending] at agrees
    exact agrees
  have whole :
      state.served.map Served.job ++
          (state.current.toList ++ (state.queue ++ [⟨call, request⟩])) =
        state.accepted ++ [⟨call, request⟩] := by
    rw [← coherent.kept running, State.pending]
    simp only [List.append_assoc]
  exact {
    once := by
      rw [List.map_append, List.map_singleton]
      exact (List.perm_append_singleton _ _).nodup_iff.mpr
        (List.nodup_cons.mpr ⟨fresh, coherent.once⟩)
    ordered := ⟨[], by rw [List.append_nil]; exact whole⟩
    kept := fun _ => whole
    dropped := fun stopped => nomatch running.symm.trans stopped
    bounded := by
      rw [List.length_append, List.length_singleton]
      exact room
    computed := coherent.computed
    phases := by
      intro other
      by_cases same : other = call
      · subst same
        rw [State.phase_setPhase_self]
        exact ⟨List.mem_append_right _ List.mem_cons_self,
          coherent.not_served fresh⟩
      · rw [State.phase_setPhase_of_ne state same]
        exact Agrees.carry (coherent.phases other) {
          accepted := List.subset_append_left ..
          others := fun job member => by
            rcases List.mem_append.mp member with before | isNew
            · exact .inl before
            · rw [List.mem_singleton.mp isNew]
              exact .inr (Ne.symm same)
          served := List.Subset.refl _
          otherReplies := fun _ member => .inl member
          ended := id
        } }

/-- Serving the current request keeps the record in order. -/
theorem Coherent.served_next
    (coherent : Coherent serve? capacity initial state)
    {effort : Effort}
    {job : Job Call Request}
    {reply : Reply}
    {memory : Memory}
    (current : state.current = some job)
    (serves : serve? effort job.request state.memory = some (reply, memory)) :
    Coherent serve? capacity initial
      { state.setPhase job.call
          ((state.phase job.call).answer job.request reply) with
        memory := memory
        current := none
        served := state.served ++ [⟨job, reply⟩] } := by
  have running := coherent.running_of_current current
  let answered : State Call Request Reply Memory :=
    { state.setPhase job.call
        ((state.phase job.call).answer job.request reply) with
      memory := memory
      current := none
      served := state.served ++ [⟨job, reply⟩] }
  have whole :
      answered.served.map Served.job ++ answered.pending =
        answered.accepted := by
    have before := coherent.kept running
    rw [State.pending, current] at before
    simpa [answered, State.setPhase, State.pending] using before
  have untouched
      {other : Call}
      (different : job.call ≠ other) :
      Untouched state answered other := {
    accepted := List.Subset.refl _
    others := fun _ member => .inl member
    served := List.subset_append_left ..
    otherReplies := fun entry member => by
      rcases List.mem_append.mp member with before | isNew
      · exact .inl before
      · rw [List.mem_singleton.mp isNew]
        exact .inr different
    ended := id
  }
  have own : Agrees answered job.call (answered.phase job.call) := by
    have agrees := coherent.phases job.call
    have accepted : job.call ∈ state.accepted.map Job.call :=
      List.mem_map_of_mem (coherent.current_accepted current)
    rw [State.phase_setPhase_self]
    cases place : state.phase job.call with
    | idle =>
        rw [place] at agrees
        exact absurd accepted agrees
    | sending request =>
        rw [place] at agrees
        exact absurd accepted agrees
    | waiting request =>
        exact List.mem_append_right _ List.mem_cons_self
    | answered request reply =>
        rw [place] at agrees
        exact List.mem_append_left _ agrees
    | returned request answer =>
        rw [place] at agrees
        cases answer with
        | replied reply =>
            exact List.mem_append_left _ agrees
        | stopped =>
            cases running.symm.trans agrees.1
    | abandoned =>
        trivial
  exact {
    once := coherent.once
    ordered := ⟨[], by rw [List.append_nil]; exact whole⟩
    kept := fun _ => whole
    dropped := fun stopped => nomatch running.symm.trans stopped
    bounded := coherent.bounded
    computed := coherent.computed.concat effort serves
    phases := by
      intro other
      by_cases same : other = job.call
      · subst same
        exact own
      · rw [State.phase_setPhase_of_ne state same]
        exact Agrees.carry (coherent.phases other) (untouched (Ne.symm same)) }

/-- Every step keeps the record in order. -/
theorem Coherent.step
    (coherent : Coherent serve? capacity initial state)
    {label : Step Call Effort Request}
    (taken : step? serve? capacity state label = some next) :
    Coherent serve? capacity initial next := by
  cases moves_of_step taken with
  | @called call request idle =>
      have agrees := coherent.phases call
      rw [idle] at agrees
      exact coherent.setPhase agrees
  | sent sending running room =>
      exact coherent.sent sending running room
  | @refused call request sending ended =>
      have agrees := coherent.phases call
      rw [sending] at agrees
      exact coherent.setPhase ⟨ended, coherent.not_served agrees⟩
  | taken free first =>
      exact coherent.taken free first
  | served current serves =>
      exact coherent.served_next current serves
  | @received call request reply answered =>
      have agrees := coherent.phases call
      rw [answered] at agrees
      exact coherent.setPhase agrees
  | @dropped call request waiting ended =>
      have agrees := coherent.phases call
      rw [waiting] at agrees
      exact coherent.setPhase ⟨ended, agrees.2⟩
  | abandoned isOpen =>
      exact coherent.setPhase trivial
  | stopped running =>
      exact coherent.stopped

end

end RequestServer
