import EdgeSession.ControlPlane.Actor

/-!
Requests as the worker of a cache has to do with them: handled one after another, standing in a
queue up to the mark, and each under the number of its caller.
-/
namespace EdgeSession.ControlPlane

variable {σ κ ρ : Type}

/-- Handles requests one after another, each under the number of its caller. -/
def Service.serve (service : Service σ κ ρ) : List (Nat × κ) → σ → List (Nat × ρ) × σ
  | [], s => ([], s)
  | (caller, key) :: rest, s =>
    let handled := service.handle key s
    let served := service.serve rest handled.2
    ((caller, handled.1) :: served.1, served.2)

namespace Item

def ofRequest (request : Nat × κ) : Item κ := .request request.1 request.2

/-- The requests in a queue. -/
def requests : List (Item κ) → List (Nat × κ)
  | [] => []
  | .request caller key :: rest => (caller, key) :: requests rest
  | .stop :: rest => requests rest

/-- The requests before the first mark. -/
def unmarked : List (Item κ) → List (Nat × κ)
  | [] => []
  | .request caller key :: rest => (caller, key) :: unmarked rest
  | .stop :: _ => []

end Item

/-- A caller whose request was queued. -/
def Caller.Queued : Caller κ ρ → Prop
  | .waiting => True
  | .answered _ => True
  | _ => False

/-- What a list has under a caller's number. -/
def entries {β : Type} (caller : Nat) (l : List (Nat × β)) : List β :=
  (l.filter fun entry => entry.1 = caller).map Prod.snd

/-- A caller, its slot, the keys that were queued under its number and the replies given to it. -/
structure Account (κ ρ : Type) where
  caller : Caller κ ρ
  slot : Option ρ
  keys : List κ
  replies : List ρ

/-- A caller's request is queued once, and answered once, in its own slot. -/
inductive Account.Balanced : Account κ ρ → Prop
  | away : Balanced ⟨.away, none, [], []⟩
  | admitted (key : κ) : Balanced ⟨.admitted key, none, [], []⟩
  | refused : Balanced ⟨.refused, none, [], []⟩
  | waiting (key : κ) : Balanced ⟨.waiting, none, [key], []⟩
  | filled (key : κ) (result : ρ) : Balanced ⟨.waiting, some result, [key], [result]⟩
  | answered (key : κ) (result : ρ) : Balanced ⟨.answered result, none, [key], [result]⟩

/-! ## Handling in order -/

theorem Service.serve_append (service : Service σ κ ρ) (before after : List (Nat × κ)) (s : σ) :
    service.serve (before ++ after) s =
      ((service.serve before s).1 ++ (service.serve after (service.serve before s).2).1,
        (service.serve after (service.serve before s).2).2) := by
  induction before generalizing s with
  | nil => rfl
  | cons request rest ih => simp only [List.cons_append, serve, ih]

/-- What is handled later changes no earlier result. -/
theorem Service.serve_prefix (service : Service σ κ ρ) {before after : List (Nat × κ)}
    (h : before <+: after) (s : σ) : (service.serve before s).1 <+: (service.serve after s).1 := by
  obtain ⟨rest, rfl⟩ := h
  rw [service.serve_append]
  exact List.prefix_append ..

theorem Service.serve_callers (service : Service σ κ ρ) (requests : List (Nat × κ)) (s : σ) :
    (service.serve requests s).1.map Prod.fst = requests.map Prod.fst := by
  induction requests generalizing s with
  | nil => rfl
  | cons request rest ih => simp only [serve, List.map_cons, ih]

theorem Service.serve_length (service : Service σ κ ρ) (requests : List (Nat × κ)) (s : σ) :
    (service.serve requests s).1.length = requests.length := by
  have callers := congrArg List.length (service.serve_callers requests s)
  simpa only [List.length_map] using callers

/-! ## Queues -/

namespace Item

theorem requests_append (before after : List (Item κ)) :
    requests (before ++ after) = requests before ++ requests after := by
  induction before with
  | nil => rfl
  | cons item rest ih =>
    cases item with
    | request caller key => simp only [List.cons_append, requests, ih]
    | stop => exact ih

theorem mem_requests {caller : Nat} {key : κ} {items : List (Item κ)} :
    (caller, key) ∈ requests items ↔ .request caller key ∈ items := by
  induction items with
  | nil => simp [requests]
  | cons item rest ih => cases item <;> simp [requests, ih]

theorem requests_ofRequest (begun : List (Nat × κ)) : requests (begun.map ofRequest) = begun := by
  induction begun with
  | nil => rfl
  | cons request rest ih => simp only [List.map_cons, ofRequest, requests, ih]

theorem unmarked_ofRequest (begun : List (Nat × κ)) (after : List (Item κ)) :
    unmarked (begun.map ofRequest ++ after) = begun ++ unmarked after := by
  induction begun with
  | nil => rfl
  | cons request rest ih => simp only [List.map_cons, List.cons_append, ofRequest, unmarked, ih]

/-- What stands before the mark stays so, whatever is queued later. -/
theorem unmarked_prefix (before after : List (Item κ)) :
    unmarked before <+: unmarked (before ++ after) := by
  induction before with
  | nil => exact List.nil_prefix
  | cons item rest ih =>
    cases item with
    | request caller key => exact (List.prefix_cons_inj _).2 ih
    | stop => exact List.nil_prefix

end Item

/-! ## Accounts -/

theorem mem_entries {β : Type} {caller : Nat} {entry : β} {l : List (Nat × β)} :
    entry ∈ entries caller l ↔ (caller, entry) ∈ l := by
  simp [entries]

theorem entries_append {β : Type} (caller : Nat) (before after : List (Nat × β)) :
    entries caller (before ++ after) = entries caller before ++ entries caller after := by
  simp only [entries, List.filter_append, List.map_append]

theorem entries_self {β : Type} (caller : Nat) (entry : β) :
    entries caller [(caller, entry)] = [entry] := by
  simp [entries]

theorem entries_other {β : Type} {caller other : Nat} (apart : other ≠ caller) (entry : β) :
    entries other [(caller, entry)] = [] := by
  simp [entries, Ne.symm apart]

theorem entries_length {β : Type} (caller : Nat) (l : List (Nat × β)) :
    (entries caller l).length = (l.map Prod.fst).count caller := by
  rw [entries, List.length_map, List.count_eq_countP, List.countP_map, List.countP_eq_length_filter]
  congr

theorem Account.Balanced.unqueued {account : Account κ ρ} (h : account.Balanced)
    (unqueued : ¬account.caller.Queued) :
    account.slot = none ∧ account.keys = [] ∧ account.replies = [] := by
  cases h with
  | away | admitted | refused => exact ⟨rfl, rfl, rfl⟩
  | waiting | filled | answered => exact absurd trivial unqueued

theorem Account.Balanced.keys_le {account : Account κ ρ} (h : account.Balanced) :
    account.keys.length ≤ 1 := by
  cases h <;> simp

theorem Account.Balanced.of_filled {account : Account κ ρ} {result : ρ} (h : account.Balanced)
    (waiting : account.caller = .waiting) (slot : account.slot = some result) :
    ∃ key, account.keys = [key] ∧ account.replies = [result] := by
  cases h with
  | filled key => cases slot; exact ⟨key, rfl, rfl⟩
  | waiting => cases slot
  | away | admitted | refused | answered => cases waiting

end EdgeSession.ControlPlane
