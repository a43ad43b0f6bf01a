import EdgeSession.Proofs.ControlPlane.Queue

/-!
How the worker of a cache gets on. What is queued before the mark is answered within three steps of
the worker for each request, whatever else goes on. Calls that do not overlap come to what handling
their keys by plain calls comes to.
-/
namespace EdgeSession.ControlPlane

def Move.isWork : Move κ → Bool
  | .work => true
  | _ => false

namespace Actor

variable {σ κ ρ : Type} {service : Service σ κ ρ} {start : σ} {a b : Actor σ κ ρ} {move : Move κ}

/-- How many steps for requests the worker has taken, three for each that is answered. -/
def worked (a : Actor σ κ ρ) : Nat := 3 * a.replied.length + a.worker.pace

/-- A step of the worker gets on, unless all requests before the mark are answered. -/
theorem Sound.work_on (h : Sound service start a) :
    (a.work service).worked = a.worked + 1 ∨
      (a.work service).worked = a.worked ∧ (Item.unmarked a.queued).length ≤ a.replied.length := by
  have unmarked := h.paced.unmarked
  have single := h.paced.stands.single
  cases worker : a.worker with
  | idle =>
    rw [worker] at unmarked single
    cases queue : a.queue with
    | nil =>
      right
      rw [queue] at unmarked
      refine ⟨by simp only [work, worker, queue], ?_⟩
      simp [unmarked, Worker.taken, Item.unmarked, single, Worker.pace]
    | cons item rest =>
      cases item with
      | request caller key =>
        left
        simp only [work, worker, queue, worked, Worker.pace]
      | stop =>
        right
        rw [queue] at unmarked
        refine ⟨by simp only [work, worker, queue, worked, Worker.pace], ?_⟩
        simp [unmarked, Worker.taken, Item.unmarked, single, Worker.pace]
  | handling caller key =>
    left
    simp only [work, worker, worked, Worker.pace]
  | replying caller result =>
    left
    have empty : a.slots caller = none := congrArg Account.slot (h.balanced.open h.paced worker).1
    simp only [work, worker, empty, worked, Worker.pace, List.length_append, List.length_singleton]
    omega
  | gone =>
    right
    rw [worker] at unmarked single
    refine ⟨by simp only [work, worker], ?_⟩
    simp [unmarked, Worker.taken, Item.unmarked, single, Worker.pace]

theorem Effect.worked (effect : Effect service a move b) (other : move.isWork = false) :
    b.worked = a.worked := by
  cases effect with
  | begins | goes | handles | replies => cases other
  | waits | admits | refuses | enqueues | returns | closes | marks => rfl

theorem Effect.queued (effect : Effect service a move b) : a.queued <+: b.queued := by
  cases effect with
  | enqueues | marks => exact List.prefix_append ..
  | waits | admits | refuses | returns | begins | goes | handles | replies | closes =>
    exact List.prefix_rfl

theorem queued_run (service : Service σ κ ρ) (a : Actor σ κ ρ) (moves : List (Move κ)) :
    a.queued <+: (a.run service moves).queued := by
  induction moves generalizing a with
  | nil => exact List.prefix_rfl
  | cons move rest ih => exact (effect service a move).queued.trans (ih (a.step service move))

/-- A caller that was let in with a key is still about to queue it, or has done so. -/
def Entered (caller : Nat) (key : κ) (a : Actor σ κ ρ) : Prop :=
  a.callers caller = .admitted key ∨ .request caller key ∈ a.queued

theorem Entered.step {caller : Nat} {key : κ} (h : Entered caller key a)
    (effect : Effect service a move b) : Entered caller key b := by
  obtain admitted | queued := h
  · cases effect with
    | waits | begins | goes | handles | replies | closes | marks => exact .inl admitted
    | @admits other _ away | @refuses other _ away =>
      -- another caller: this one is not away
      refine .inl ((Function.update_of_ne (fun same => ?_) _ _).trans admitted)
      cases away.symm.trans (same ▸ admitted)
    | @returns other _ waiting =>
      refine .inl ((Function.update_of_ne (fun same => ?_) _ _).trans admitted)
      cases waiting.symm.trans (same ▸ admitted)
    | @enqueues other other' admitted' =>
      by_cases same : caller = other
      · subst same
        cases admitted.symm.trans admitted'
        exact .inr (List.mem_append_right _ (List.mem_singleton_self _))
      · exact .inl ((Function.update_of_ne same _ _).trans admitted)
  · exact .inr (effect.queued.subset queued)

/-- Its own step brings its request into the queue, whatever happens before and behind it. -/
theorem Entered.queued {caller : Nat} {key : κ} (h : Entered caller key a)
    (service : Service σ κ ρ) {moves : List (Move κ)} (enters : .enqueue caller ∈ moves) :
    .request caller key ∈ (a.run service moves).queued := by
  induction moves generalizing a with
  | nil => cases enters
  | cons move rest ih =>
    obtain rfl | later := List.mem_cons.1 enters
    · refine (queued_run service (a.enqueue caller) rest).subset ?_
      obtain admitted | queued := h
      · simp [enqueue, admitted, put]
      · exact (effect service a (.enqueue caller)).queued.subset queued
    · exact ih (h.step (effect service a move)) later

/-- A caller that finds the cache open is let in. -/
theorem ask_enters {caller : Nat} (away : a.callers caller = .away) (opened : a.closing = .no)
    (key : κ) : Entered caller key (a.ask caller key) :=
  .inl (by simp [ask, away, opened])

theorem unmarked_step (service : Service σ κ ρ) (a : Actor σ κ ρ) (move : Move κ) :
    Item.unmarked a.queued <+: Item.unmarked (a.step service move).queued := by
  obtain ⟨later, queued⟩ := (effect service a move).queued
  rw [← queued]
  exact Item.unmarked_prefix _ _

theorem unmarked_run (service : Service σ κ ρ) (a : Actor σ κ ρ) (moves : List (Move κ)) :
    Item.unmarked a.queued <+: Item.unmarked (a.run service moves).queued := by
  induction moves generalizing a with
  | nil => exact List.prefix_rfl
  | cons move rest ih => exact (unmarked_step service a move).trans (ih (a.step service move))

/-- Every step of the worker counts towards the requests before the mark, until they are done. -/
theorem Sound.worked_run (h : Sound service start a) (moves : List (Move κ)) {goal : Nat}
    (due : goal ≤ (Item.unmarked a.queued).length) :
    min (3 * goal) (a.worked + moves.countP Move.isWork) ≤ (a.run service moves).worked := by
  induction moves generalizing a with
  | nil => exact Nat.min_le_right _ _
  | cons move rest ih =>
    have grows := (unmarked_step service a move).length_le
    have later := ih (h.step move) (Nat.le_trans due grows)
    show _ ≤ ((a.step service move).run service rest).worked
    rw [List.countP_cons]
    cases isWork : move.isWork with
    | false =>
      rw [(effect service a move).worked isWork] at later
      simpa using later
    | true =>
      obtain rfl : move = .work := by cases move <;> first | rfl | cases isWork
      have stepped : a.step service .work = a.work service := rfl
      rw [stepped] at later ⊢
      rw [if_pos rfl]
      obtain gone | ⟨same, done⟩ := h.work_on
      · omega
      · have ahead : 3 * goal ≤ a.worked := by
          have : 3 * a.replied.length ≤ a.worked := Nat.le_add_right _ _
          omega
        omega

/-- Three steps of the worker for each request queued before the mark, whatever else goes on
between them, and all of these are answered. -/
theorem Sound.answers (h : Sound service start a) (moves : List (Move κ))
    (enough : 3 * (Item.unmarked a.queued).length ≤ moves.countP Move.isWork) :
    (service.serve (Item.unmarked a.queued) start).1 <+: (a.run service moves).replied := by
  have later := h.run moves
  have worked := h.worked_run moves (Nat.le_refl _)
  have pace : (a.run service moves).worker.pace ≤ 2 := by
    cases (a.run service moves).worker <;> simp [Worker.pace]
  have long : (Item.unmarked a.queued).length ≤ (a.run service moves).replied.length := by
    simp only [Actor.worked] at worked
    omega
  have replied := later.serves.sequential.trans (service.serve_prefix later.serves.fifo start)
  have due := service.serve_prefix (unmarked_run service a moves) start
  refine List.prefix_of_prefix_length_le due replied ?_
  rwa [service.serve_length]

/-! ## Calls that do not overlap -/

/-- A call that meets no other: the caller's steps, and the worker's between them. -/
def alone (request : Nat × κ) : List (Move κ) :=
  [.ask request.1 request.2, .enqueue request.1, .work, .work, .work, .await request.1]

/-- The cache is open, and the worker has nothing to do. -/
structure AtRest (a : Actor σ κ ρ) : Prop where
  opened : a.closing = .no
  idle : a.worker = .idle
  empty : a.queue = []

/-- Such a call is answered with what handling its key gives. -/
theorem AtRest.alone (rest : a.AtRest) (service : Service σ κ ρ) {request : Nat × κ}
    (away : a.callers request.1 = .away) (free : a.slots request.1 = none) :
    let b := a.run service (alone request)
    let handled := service.handle request.2 a.state
    b.AtRest ∧ b.state = handled.2 ∧
      b.callers = Function.update a.callers request.1 (.answered handled.1) := by
  obtain ⟨opened, idle, empty⟩ := rest
  simp only [Actor.alone, run, List.foldl_cons, List.foldl_nil, step, ask, away, opened, if_true,
    enqueue, Function.update_self, put, empty, List.nil_append, work, idle, free, await,
    Function.update_idem]
  exact ⟨⟨rfl, rfl, rfl⟩, trivial, trivial⟩

/-- Calls that do not overlap are plain calls, one after another. -/
theorem Sound.apart (h : Sound service start a) (rest : a.AtRest) (requests : List (Nat × κ))
    (away : ∀ request ∈ requests, a.callers request.1 = .away)
    (nodup : (requests.map Prod.fst).Nodup) :
    let b := a.run service (requests.flatMap alone)
    b.AtRest ∧ b.state = (service.serve requests a.state).2 ∧
      (∀ caller, caller ∉ requests.map Prod.fst → b.callers caller = a.callers caller) ∧
      ∀ caller result, (caller, result) ∈ (service.serve requests a.state).1 →
        b.callers caller = .answered result := by
  induction requests generalizing a with
  | nil => exact ⟨rest, rfl, fun _ _ => rfl, nofun⟩
  | cons request later ih =>
    obtain ⟨first, away⟩ := List.forall_mem_cons.1 away
    obtain ⟨single, nodup⟩ := List.nodup_cons.1 nodup
    have free : a.slots request.1 = none :=
      ((h.balanced request.1).unqueued (by rw [account, first]; exact id)).1
    obtain ⟨rest', state, callers⟩ := rest.alone service first free
    have away' : ∀ other ∈ later, (a.run service (alone request)).callers other.1 = .away := by
      intro other member
      have apart : other.1 ≠ request.1 := fun same =>
        single (same ▸ List.mem_map_of_mem member)
      rw [callers, Function.update_of_ne apart]
      exact away other member
    obtain ⟨last, states, others, answers⟩ := ih (h.run _) rest' away' nodup
    have whole : a.run service ((request :: later).flatMap alone) =
        (a.run service (alone request)).run service (later.flatMap alone) := List.foldl_append
    intro b
    rw [show b = _ from whole]
    rw [state] at states answers
    refine ⟨last, states, fun caller unasked => ?_, fun caller result answered => ?_⟩
    · obtain ⟨apart, unasked⟩ := not_or.1 (mt List.mem_cons.2 unasked)
      rw [others caller unasked, callers, Function.update_of_ne apart]
    · rcases List.mem_cons.1 answered with own | answered
      · cases own
        rw [others request.1 single, callers, Function.update_self]
      · exact answers caller result answered

end Actor
end EdgeSession.ControlPlane
