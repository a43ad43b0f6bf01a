import EdgeSession.Proofs.ControlPlane.Queue

/-!
What becomes of the callers of a cache that is closed. A caller looks whether the cache is closed
before it puts its request into the queue, and `close` may come in between. The request then stands
behind the mark, where the worker, which goes at the mark, never comes to it.
-/
namespace EdgeSession.ControlPlane

namespace Item

def isStop {κ : Type} : Item κ → Bool
  | .stop => true
  | .request _ _ => false

end Item

namespace Actor

variable {σ κ ρ : Type} {service : Service σ κ ρ} {start : σ} {a b : Actor σ κ ρ} {move : Move κ}
variable {caller : Nat}

/-- There is one mark in the queue, from when `close` has left it. -/
def Marked (a : Actor σ κ ρ) : Prop :=
  a.queued.countP Item.isStop = if a.closing = .marked then 1 else 0

theorem Marked.step (h : Marked a) (effect : Effect service a move b) : Marked b := by
  unfold Marked at h ⊢
  cases effect with
  | waits | admits | refuses | returns | begins | goes | handles | replies => exact h
  | enqueues =>
    show (a.queued ++ [_]).countP Item.isStop = _
    rw [List.countP_append, h]
    rfl
  | closes opened =>
    rw [opened] at h
    exact h
  | marks closed =>
    rw [closed] at h
    show (a.queued ++ [_]).countP Item.isStop = _
    rw [List.countP_append, h]
    rfl

theorem Marked.initial (start : σ) : Marked ({ state := start } : Actor σ κ ρ) := rfl

theorem Marked.run (h : Marked a) (service : Service σ κ ρ) (moves : List (Move κ)) :
    Marked (a.run service moves) := by
  induction moves generalizing a with
  | nil => exact h
  | cons move rest ih => exact ih (h.step (effect service a move))

/-- A worker that is gone stays so, and takes nothing more from the queue. -/
theorem Effect.gone (effect : Effect service a move b) (gone : a.worker = .gone) :
    b.worker = .gone ∧ a.queue <+: b.queue := by
  cases effect with
  | waits | admits | refuses | returns | closes => exact ⟨gone, List.prefix_rfl⟩
  | enqueues | marks => exact ⟨gone, List.prefix_append ..⟩
  | begins idle | goes idle =>
    rw [gone] at idle
    cases idle
  | handles busy | replies busy =>
    rw [gone] at busy
    cases busy

theorem gone_run (gone : a.worker = .gone) (service : Service σ κ ρ) (moves : List (Move κ)) :
    (a.run service moves).worker = .gone ∧ a.queue <+: (a.run service moves).queue := by
  induction moves generalizing a with
  | nil => exact ⟨gone, List.prefix_rfl⟩
  | cons move rest ih =>
    obtain ⟨stays, first⟩ := (effect service a move).gone gone
    obtain ⟨later, others⟩ := ih stays
    exact ⟨later, first.trans others⟩

/-- Once the worker is gone, the callers that wait without a reply are those whose requests are
left in the queue. -/
theorem Sound.left_iff (h : Sound service start a) (gone : a.worker = .gone) (caller : Nat) :
    (∃ key, .request caller key ∈ a.queue) ↔
      a.callers caller = .waiting ∧ a.slots caller = none := by
  have left : (∃ key, .request caller key ∈ a.queue) ↔
      0 < (entries caller (Item.requests a.queue)).length := by
    simp only [List.length_pos_iff_exists_mem, mem_entries, Item.mem_requests]
  have replies : (entries caller a.replied).length = (entries caller a.begun).length := by
    rw [h.serves.drained gone, h.paced.unmarked, gone, entries_length, service.serve_callers]
    simp [Worker.taken, Item.unmarked, entries_length]
  have keys : entries caller (Item.requests a.queued) =
      entries caller a.begun ++ entries caller (Item.requests a.queue) := by
    rw [h.paced.requests, entries_append]
  have balanced := h.balanced caller
  rw [left]
  unfold account at balanced
  rw [keys] at balanced
  generalize a.callers caller = c at *
  generalize a.slots caller = slot at *
  generalize entries caller a.begun = begun at *
  generalize entries caller (Item.requests a.queue) = waiting at *
  generalize entries caller a.replied = replied at *
  generalize together : begun ++ waiting = keys at balanced
  have length := congrArg List.length together
  rw [List.length_append] at length
  -- one request at most is under the number, and the replies tell whether it was begun
  cases balanced with
  | away | admitted | refused =>
    simp only [List.length_nil] at length
    exact iff_of_false (by omega) (by simp)
  | waiting =>
    simp only [List.length_nil, List.length_singleton] at length replies
    exact iff_of_true (by omega) ⟨rfl, rfl⟩
  | filled | answered =>
    simp only [List.length_singleton] at length replies
    exact iff_of_false (by omega) (by simp)

/-- Nobody will answer a caller whose request is left in the queue. -/
theorem Sound.left_waits (h : Sound service start a) (gone : a.worker = .gone) {key : κ}
    (left : .request caller key ∈ a.queue) (later : List (Move κ)) :
    (a.run service later).callers caller = .waiting := by
  obtain ⟨stays, queue⟩ := gone_run gone service later
  exact (((h.run later).left_iff stays caller).1 ⟨key, queue.subset left⟩).1

theorem Sound.forever_iff (h : Sound service start a) (gone : a.worker = .gone) :
    (∃ key, .request caller key ∈ a.queue) ↔
      ∀ later, (a.run service later).callers caller = .waiting := by
  constructor
  · rintro ⟨key, left⟩ later
    exact h.left_waits gone left later
  · intro forever
    have waiting : a.callers caller = .waiting := forever []
    refine (h.left_iff gone caller).2 ⟨waiting, ?_⟩
    cases slot : a.slots caller with
    | none => rfl
    | some result =>
      -- a caller that finds its reply goes on
      have next : (a.await caller).callers caller = .waiting := forever [.await caller]
      simp only [await, waiting, slot, Function.update_self] at next
      cases next

end Actor

open Actor

/-- **Who is stranded by `close`.** Once the worker is gone, what is left in the queue are the
requests that came in behind the mark. Their callers were let in before the cache was closed, and
wait for ever; every other caller whose request was queued has its reply. -/
theorem stranded_iff {σ κ ρ : Type} (service : Service σ κ ρ) (start : σ) {moves : List (Move κ)}
    (gone : (Actor.run service moves { state := start }).worker = .gone) :
    let a := Actor.run service moves { state := start }
    (a.queued = a.begun.map Item.ofRequest ++ .stop :: a.queue ∧ .stop ∉ a.queue) ∧
      ∀ caller, (a.callers caller).Queued →
        ((∃ key, .request caller key ∈ a.queue) ↔
          ∀ later, (a.run service later).callers caller = .waiting) ∧
        ((∀ key, .request caller key ∉ a.queue) ↔
          ∃ result, a.slots caller = some result ∨ a.callers caller = .answered result) := by
  intro a
  have sound : Sound service start a := (Sound.initial service start).run moves
  have marked : Marked a := (Marked.initial start).run service moves
  have order : a.queued = a.begun.map Item.ofRequest ++ .stop :: a.queue := by
    have left := sound.paced.left
    rwa [show a.worker = .gone from gone] at left
  refine ⟨⟨order, fun second => ?_⟩, fun caller queued => ⟨sound.forever_iff gone, ?_⟩⟩
  · have one : 0 < a.queue.countP Item.isStop := List.countP_pos_iff.2 ⟨_, second, rfl⟩
    unfold Marked at marked
    rw [order, List.countP_append, List.countP_cons_of_pos (by rfl)] at marked
    split at marked <;> omega
  · rw [← not_exists, sound.left_iff gone]
    cases c : a.callers caller with
    | away | admitted | refused =>
      rw [c] at queued
      exact queued.elim
    | waiting => cases slot : a.slots caller <;> simp
    | answered result => simp

/-- A caller that is let in before the cache is closed and whose request comes in behind the mark:
it is told nothing, and waits for ever. -/
theorem stranded_by_close :
    let service := Caches.clientService (.answering fun _ _ => .answer 200 "")
    let start : Caches := { store := { namespaces := [] }, file := none }
    let a := Actor.run service [.ask 0 "edge", .close, .mark, .work, .enqueue 0] { state := start }
    a.worker = .gone ∧ a.queue = [.request 0 "edge"] ∧
      ∀ later, (a.run service later).callers 0 = .waiting := by
  intro service start a
  have sound : Sound service start a := (Sound.initial service start).run _
  have left : a.queue = [.request 0 "edge"] := rfl
  exact ⟨rfl, left, sound.left_waits rfl (left ▸ List.mem_singleton_self _)⟩

/-- Two callers are let in before the cache is closed, and one request is queued in time. -/
theorem stranded_iff_late :
    let service : Service Unit String String := ⟨fun key s => (key, s), id⟩
    let moves : List (Move String) := [.ask 0 "a", .ask 1 "b", .enqueue 0, .close, .mark,
      .work, .work, .work, .work, .enqueue 1]
    let a := Actor.run service moves { state := () }
    (∃ result, a.slots 0 = some result ∨ a.callers 0 = .answered result) ∧
      ∀ later, (a.run service later).callers 1 = .waiting := by
  intro service moves a
  have left : a.queue = [.request 1 "b"] := rfl
  have begun : ∀ key, .request 0 key ∉ a.queue := by simp [left]
  have late : .request 1 "b" ∈ a.queue := by simp [left]
  obtain ⟨-, callers⟩ := @stranded_iff _ _ _ service () moves rfl
  exact ⟨(callers 0 trivial).2.1 begun, (callers 1 trivial).1.1 ⟨"b", late⟩⟩

end EdgeSession.ControlPlane
