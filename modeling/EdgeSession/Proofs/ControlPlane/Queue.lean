import EdgeSession.Proofs.ControlPlane.Requests
import Mathlib.Data.List.Nodup

/-!
The worker of a cache over every schedule of its threads. What it has done is at any time what
handling the requests one after another in the order of the queue does, and each caller whose
request it took has at most one reply, in its own slot.
-/
namespace EdgeSession.ControlPlane

variable {σ κ ρ : Type}

def Worker.taken : Worker κ ρ → List (Item κ)
  | .gone => [.stop]
  | _ => []

/-- How many of the three steps for a request the worker has taken. -/
def Worker.pace : Worker κ ρ → Nat
  | .handling _ _ => 1
  | .replying _ _ => 2
  | _ => 0

/-- What the worker has come to, with the requests that it began and the replies that it gave. -/
inductive Stands (service : Service σ κ ρ) (start : σ) :
    Worker κ ρ → List (Nat × κ) → List (Nat × ρ) → σ → Prop
  | idle (done : List (Nat × κ)) :
      Stands service start .idle done (service.serve done start).1 (service.serve done start).2
  | handling (done : List (Nat × κ)) (caller : Nat) (key : κ) :
      Stands service start (.handling caller key) (done ++ [(caller, key)])
        (service.serve done start).1 (service.serve done start).2
  | replying (done : List (Nat × κ)) (caller : Nat) (key : κ) :
      Stands service start
        (.replying caller (service.handle key (service.serve done start).2).1)
        (done ++ [(caller, key)]) (service.serve done start).1
        (service.handle key (service.serve done start).2).2
  | gone (done : List (Nat × κ)) :
      Stands service start .gone done (service.serve done start).1
        (service.shutdown (service.serve done start).2)

namespace Actor

/-- What a step does, if it can be taken. -/
inductive Effect (service : Service σ κ ρ) (a : Actor σ κ ρ) : Move κ → Actor σ κ ρ → Prop
  | waits (move : Move κ) : Effect service a move a
  | admits {caller : Nat} {key : κ} (away : a.callers caller = .away) (opened : a.closing = .no) :
      Effect service a (.ask caller key)
        { a with callers := Function.update a.callers caller (.admitted key) }
  | refuses {caller : Nat} {key : κ} (away : a.callers caller = .away) (closed : a.closing ≠ .no) :
      Effect service a (.ask caller key)
        { a with callers := Function.update a.callers caller .refused }
  | enqueues {caller : Nat} {key : κ} (admitted : a.callers caller = .admitted key) :
      Effect service a (.enqueue caller)
        { a.put (.request caller key) with callers := Function.update a.callers caller .waiting }
  | returns {caller : Nat} {result : ρ} (waiting : a.callers caller = .waiting)
      (filled : a.slots caller = some result) :
      Effect service a (.await caller)
        { a with
          callers := Function.update a.callers caller (.answered result)
          slots := Function.update a.slots caller none }
  | begins {caller : Nat} {key : κ} {queue : List (Item κ)} (idle : a.worker = .idle)
      (next : a.queue = .request caller key :: queue) :
      Effect service a .work
        { a with queue, worker := .handling caller key, begun := a.begun ++ [(caller, key)] }
  | goes {queue : List (Item κ)} (idle : a.worker = .idle) (next : a.queue = .stop :: queue) :
      Effect service a .work
        { a with queue, worker := .gone, state := service.shutdown a.state }
  | handles {caller : Nat} {key : κ} (handling : a.worker = .handling caller key) :
      Effect service a .work
        { a with
          state := (service.handle key a.state).2
          worker := .replying caller (service.handle key a.state).1 }
  | replies {caller : Nat} {result : ρ} (replying : a.worker = .replying caller result)
      (empty : a.slots caller = none) :
      Effect service a .work
        { a with
          worker := .idle
          slots := Function.update a.slots caller (some result)
          replied := a.replied ++ [(caller, result)] }
  | closes (opened : a.closing = .no) : Effect service a .close { a with closing := .closed }
  | marks (closed : a.closing = .closed) :
      Effect service a .mark { a.put .stop with closing := .marked }

theorem effect (service : Service σ κ ρ) (a : Actor σ κ ρ) (move : Move κ) :
    Effect service a move (a.step service move) := by
  cases move with
  | ask caller key =>
    show Effect service a _ (a.ask caller key)
    unfold ask
    split
    · rename_i away
      by_cases opened : a.closing = .no
      · simp only [if_pos opened]
        exact .admits away opened
      · simp only [if_neg opened]
        exact .refuses away opened
    · exact .waits _
  | enqueue caller =>
    show Effect service a _ (a.enqueue caller)
    unfold enqueue
    split
    · rename_i key admitted
      exact .enqueues admitted
    · exact .waits _
  | await caller =>
    show Effect service a _ (a.await caller)
    unfold await
    split
    · rename_i result waiting filled
      exact .returns waiting filled
    · exact .waits _
  | work =>
    show Effect service a _ (a.work service)
    unfold work
    split
    · rename_i idle
      split
      · exact .waits _
      · rename_i queue next
        exact .goes idle next
      · rename_i caller key queue next
        exact .begins idle next
    · rename_i caller key handling
      exact .handles handling
    · rename_i caller result replying
      split
      · exact .waits _
      · rename_i empty
        exact .replies replying empty
    · exact .waits _
  | close =>
    show Effect service a _ a.close
    unfold close
    split
    · rename_i opened
      exact .closes opened
    · exact .waits _
  | mark =>
    show Effect service a _ a.mark
    unfold mark
    split
    · rename_i closed
      exact .marks closed
    · exact .waits _

/-- The worker is where its requests have brought it, and the queue holds what it has not taken. -/
structure Paced (service : Service σ κ ρ) (start : σ) (a : Actor σ κ ρ) : Prop where
  stands : Stands service start a.worker a.begun a.replied a.state
  left : a.queued = a.begun.map Item.ofRequest ++ (a.worker.taken ++ a.queue)

/-- What is between a caller and the worker. -/
def account (a : Actor σ κ ρ) (caller : Nat) : Account κ ρ :=
  ⟨a.callers caller, a.slots caller, entries caller (Item.requests a.queued),
    entries caller a.replied⟩

/-- Every caller's account is balanced. -/
def Balanced (a : Actor σ κ ρ) : Prop := ∀ caller, (a.account caller).Balanced

end Actor

section
variable {service : Service σ κ ρ} {start : σ} {a b : Actor σ κ ρ} {move : Move κ}

/-! ## The worker -/

namespace Stands

variable {worker : Worker κ ρ} {begun : List (Nat × κ)} {replied : List (Nat × ρ)} {state : σ}

theorem results (h : Stands service start worker begun replied state) :
    replied <+: (service.serve begun start).1 := by
  cases h with
  | idle | gone => exact List.prefix_rfl
  | handling | replying => exact service.serve_prefix (List.prefix_append ..) start

theorem replying_eq {caller : Nat} {result : ρ}
    (h : Stands service start (.replying caller result) begun replied state) :
    replied ++ [(caller, result)] = (service.serve begun start).1 ∧
      state = (service.serve begun start).2 := by
  cases h with
  | replying done =>
    rw [service.serve_append]
    exact ⟨rfl, rfl⟩

theorem begins (h : Stands service start .idle begun replied state) (caller : Nat) (key : κ) :
    Stands service start (.handling caller key) (begun ++ [(caller, key)]) replied state := by
  cases h
  exact .handling begun caller key

theorem goes (h : Stands service start .idle begun replied state) :
    Stands service start .gone begun replied (service.shutdown state) := by
  cases h
  exact .gone begun

theorem handles {caller : Nat} {key : κ}
    (h : Stands service start (.handling caller key) begun replied state) :
    Stands service start (.replying caller (service.handle key state).1) begun replied
      (service.handle key state).2 := by
  cases h with
  | handling done => exact .replying done caller key

theorem replies {caller : Nat} {result : ρ}
    (h : Stands service start (.replying caller result) begun replied state) :
    Stands service start .idle begun (replied ++ [(caller, result)]) state := by
  have idle : Stands service start .idle begun _ _ := .idle begun
  rwa [← h.replying_eq.1, ← h.replying_eq.2] at idle

theorem single (h : Stands service start worker begun replied state) :
    begun.length = replied.length + (if worker.pace = 0 then 0 else 1) := by
  cases h <;> simp [service.serve_length, Worker.pace]

end Stands

namespace Actor

theorem Paced.requests (h : Paced service start a) :
    Item.requests a.queued = a.begun ++ Item.requests a.queue := by
  have taken : Item.requests a.worker.taken = [] := by cases a.worker <;> rfl
  rw [h.left, Item.requests_append, Item.requests_append, Item.requests_ofRequest, taken,
    List.nil_append]

theorem Paced.entries_le (h : Paced service start a) (caller : Nat) :
    (entries caller a.begun).length ≤ (entries caller (Item.requests a.queued)).length := by
  rw [h.requests, entries_append, List.length_append]
  exact Nat.le_add_right _ _

theorem Paced.unmarked (h : Paced service start a) :
    Item.unmarked a.queued = a.begun ++ Item.unmarked (a.worker.taken ++ a.queue) := by
  rw [h.left, Item.unmarked_ofRequest]

theorem Paced.put (h : Paced service start a) (item : Item κ) :
    Paced service start (a.put item) := by
  refine ⟨h.stands, ?_⟩
  show a.queued ++ [item] =
    a.begun.map Item.ofRequest ++ (a.worker.taken ++ (a.queue ++ [item]))
  rw [h.left]
  simp only [List.append_assoc]

theorem Paced.step (h : Paced service start a) (effect : Effect service a move b) :
    Paced service start b := by
  obtain ⟨stands, left⟩ := h
  cases effect with
  | waits | admits | refuses | returns | closes => exact ⟨stands, left⟩
  | @enqueues caller key =>
    have put := Paced.put ⟨stands, left⟩ (.request caller key)
    exact ⟨put.stands, put.left⟩
  | marks =>
    have put := Paced.put ⟨stands, left⟩ .stop
    exact ⟨put.stands, put.left⟩
  | @begins caller key queue idle next =>
    rw [idle] at stands left
    refine ⟨stands.begins caller key, ?_⟩
    show a.queued = _
    rw [left, next]
    simp [Item.ofRequest, Worker.taken]
  | goes idle next =>
    rw [idle] at stands left
    refine ⟨stands.goes, ?_⟩
    show a.queued = _
    rw [left, next]
    rfl
  | handles handling =>
    rw [handling] at stands left
    exact ⟨stands.handles, left⟩
  | replies replying =>
    rw [replying] at stands left
    exact ⟨stands.replies, left⟩

/-! ## The callers -/

/-- The caller that the worker is to reply to waits, and nothing is in its slot. -/
theorem Balanced.open (h : Balanced a) (paced : Paced service start a) {caller : Nat} {result : ρ}
    (replying : a.worker = .replying caller result) :
    a.account caller = ⟨.waiting, none, entries caller (Item.requests a.queued), []⟩ ∧
      ∃ key, entries caller (Item.requests a.queued) = [key] := by
  have stands := paced.stands
  rw [replying] at stands
  -- as many replies as requests begun under the number, this one counted
  have count : (entries caller a.replied).length + 1 = (entries caller a.begun).length := by
    have replies := congrArg (entries caller) stands.replying_eq.1
    rw [entries_append, entries_self] at replies
    have length := congrArg List.length replies
    rw [entries_length caller (service.serve _ _).1, service.serve_callers, ← entries_length]
      at length
    simpa using length
  have begun := paced.entries_le caller
  have balanced := h caller
  unfold account at balanced ⊢
  generalize a.callers caller = c at *
  generalize a.slots caller = slot at *
  generalize entries caller (Item.requests a.queued) = keys at *
  generalize entries caller a.replied = replies at *
  cases balanced with
  | waiting key => exact ⟨rfl, key, rfl⟩
  | away | admitted | refused | filled | answered =>
    simp only [List.length_nil, List.length_cons] at count begun
    omega

theorem Balanced.step (h : Balanced a) (paced : Paced service start a)
    (effect : Effect service a move b) : Balanced b := by
  intro other
  have before := h other
  cases effect with
  | waits | begins | goes | handles | closes => exact before
  | @admits caller key away | @refuses caller key away =>
    by_cases same : other = caller
    · subst same
      obtain ⟨slot, keys, replies⟩ := before.unqueued (by rw [account, away]; exact id)
      dsimp only [account] at slot keys replies
      simp only [account, Function.update_self, slot, keys, replies]
      constructor
    · simp only [account, Function.update_of_ne same]
      exact before
  | @enqueues caller key admitted =>
    have queued : entries other (Item.requests (a.queued ++ [.request caller key])) =
        entries other (Item.requests a.queued) ++ entries other [(caller, key)] := by
      rw [Item.requests_append, entries_append]
      rfl
    by_cases same : other = caller
    · subst same
      obtain ⟨slot, keys, replies⟩ := before.unqueued (by rw [account, admitted]; exact id)
      dsimp only [account] at slot keys replies
      simp only [account, put, Function.update_self, queued, slot, keys, replies, entries_self]
      exact .waiting key
    · simp only [account, put, Function.update_of_ne same, queued, entries_other same,
        List.append_nil]
      exact before
  | @returns caller result waiting filled =>
    by_cases same : other = caller
    · subst same
      obtain ⟨key, keys, replies⟩ := before.of_filled waiting filled
      dsimp only [account] at keys replies
      simp only [account, Function.update_self, keys, replies]
      exact .answered key result
    · simp only [account, Function.update_of_ne same]
      exact before
  | @replies caller result replying =>
    by_cases same : other = caller
    · subst same
      obtain ⟨waits, key, keys⟩ := h.open paced replying
      have waiting : a.callers other = .waiting := congrArg Account.caller waits
      have replies : entries other a.replied = [] := congrArg Account.replies waits
      simp only [account, Function.update_self, waiting, keys, entries_append, replies,
        entries_self, List.nil_append]
      exact .filled key result
    · simp only [account, Function.update_of_ne same, entries_append, entries_other same,
        List.append_nil]
      exact before
  | marks =>
    have queued : Item.requests (a.queued ++ [.stop]) = Item.requests a.queued := by
      rw [Item.requests_append]
      exact List.append_nil _
    simp only [account, put, queued]
    exact before

/-! ## Runs -/

/-- What holds in every state of a worker and its callers. -/
structure Sound (service : Service σ κ ρ) (start : σ) (a : Actor σ κ ρ) : Prop where
  paced : Paced service start a
  balanced : Balanced a

theorem Sound.step (h : Sound service start a) (move : Move κ) :
    Sound service start (a.step service move) :=
  ⟨h.paced.step (effect ..), h.balanced.step h.paced (effect ..)⟩

theorem Sound.run (h : Sound service start a) (moves : List (Move κ)) :
    Sound service start (a.run service moves) :=
  List.foldlRecOn moves _ h fun _ sound move _ => sound.step move

theorem Sound.initial (service : Service σ κ ρ) (start : σ) :
    Sound service start ({ state := start } : Actor σ κ ρ) :=
  ⟨⟨.idle [], rfl⟩, fun _ => .away⟩

/-- A worker that serves its callers in the order of the queue. -/
structure Serves (service : Service σ κ ρ) (start : σ) (a : Actor σ κ ρ) : Prop where
  /-- At most one request is begun and not answered. -/
  single : a.replied.length ≤ a.begun.length ∧ a.begun.length ≤ a.replied.length + 1
  fifo : a.begun <+: Item.unmarked a.queued
  /-- Results are those of handling the requests one after another. -/
  sequential : a.replied <+: (service.serve a.begun start).1
  balanced : Balanced a
  /-- The worker does not go before it has answered all that was queued before the mark. -/
  drained : a.worker = .gone → a.replied = (service.serve (Item.unmarked a.queued) start).1

theorem Sound.serves (h : Sound service start a) : Serves service start a where
  single := by
    have single := h.paced.stands.single
    split at single <;> omega
  fifo := by
    rw [h.paced.unmarked]
    exact List.prefix_append ..
  sequential := h.paced.stands.results
  balanced := h.balanced
  drained gone := by
    have unmarked := h.paced.unmarked
    have stands := h.paced.stands
    rw [gone] at unmarked stands
    rw [unmarked]
    generalize a.begun = begun at *
    generalize a.replied = replied at *
    generalize a.state = state at *
    cases stands with
    | gone => exact congrArg (fun begun => (service.serve begun start).1) (List.append_nil _).symm

/-- A number stands for one request. -/
theorem Sound.begun_nodup (h : Sound service start a) : (a.begun.map Prod.fst).Nodup := by
  refine List.nodup_iff_count_le_one.2 fun caller => ?_
  rw [← entries_length]
  exact Nat.le_trans (h.paced.entries_le caller) (h.balanced caller).keys_le

/-- A reply is what handling the request gives, behind all that were queued before it. -/
theorem Sound.reply_eq (h : Sound service start a) {before rest : List (Nat × κ)} {caller : Nat}
    {key : κ} {result : ρ} (begun : a.begun = before ++ (caller, key) :: rest)
    (replied : (caller, result) ∈ a.replied) :
    result = (service.handle key (service.serve before start).2).1 := by
  have served := h.paced.stands.results.subset replied
  have nodup := h.begun_nodup
  rw [← service.serve_callers _ start] at nodup
  rw [begun] at nodup served
  have own : (caller, (service.handle key (service.serve before start).2).1) ∈
      (service.serve (before ++ (caller, key) :: rest) start).1 := by
    rw [service.serve_append]
    exact List.mem_append_right _ List.mem_cons_self
  exact congrArg Prod.snd (List.inj_on_of_nodup_map nodup served own rfl)

end Actor
end
end EdgeSession.ControlPlane
