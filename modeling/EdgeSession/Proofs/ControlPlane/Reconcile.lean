import EdgeSession.ControlPlane.Reconcile
import EdgeSession.Proofs.Config.Shape

/-!
What a reconciliation leaves of agents that can be worked with, and what the list of the control
plane has to be like for it to fail.
-/
namespace EdgeSession.Reconcile

open Config

/-- Whether an entry of the list is to blame for a fault: it is no object, or its name is one that
nothing can be looked up by. -/
inductive Blamed (backend : List Json) : ShapeFault → Prop
  | entry {v : Json} (mem : v ∈ backend) (unfit : ∀ members, v ≠ .obj members) :
      Blamed backend .notObject
  | name {members : List (String × Json)} {name : Json} (mem : .obj members ∈ backend)
      (held : Json.lookup "name" members = some name) (unfit : isPlain name = false) :
      Blamed backend .notPlain

/-- What comes of agents that can be worked with. -/
structure Merged (backend : List Json) (result : Except ShapeFault (List Agent))
    (stored : List Agent) : Prop where
  made : ∀ agents, result = .ok agents → ∀ a ∈ agents, a.Regular
  blamed : ∀ fault, result = .error fault → Blamed backend fault
  stored : ∀ a ∈ stored, a.Regular

variable {stored : List Agent} {backend : List Json}

theorem Merged.ok {agents : List Agent} (made : ∀ a ∈ agents, a.Regular)
    (h : ∀ a ∈ stored, a.Regular) : Merged backend (.ok agents) stored where
  made _ same := by
    cases same
    exact made
  blamed _ same := by cases same
  stored := h

theorem Merged.error {fault : ShapeFault} (blamed : Blamed backend fault)
    (h : ∀ a ∈ stored, a.Regular) : Merged backend (.error fault) stored where
  made _ same := by cases same
  blamed _ same := by
    cases same
    exact blamed
  stored := h

theorem Blamed.later {v : Json} {fault : ShapeFault} (h : Blamed backend fault) :
    Blamed (v :: backend) fault := by
  cases h with
  | entry mem unfit => exact .entry (List.mem_cons_of_mem _ mem) unfit
  | name mem held unfit => exact .name (List.mem_cons_of_mem _ mem) held unfit

theorem setLocalUuid_regular (uuid : Json) (h : ∀ a ∈ stored, a.Regular) :
    ∀ a ∈ setLocalUuid uuid stored, a.Regular := by
  induction stored with
  | nil => exact h
  | cons first rest ih =>
    have regular := h first List.mem_cons_self
    have others := fun a mem => h a (List.mem_cons_of_mem _ mem)
    unfold setLocalUuid
    split
    · rintro a (_ | ⟨_, mem⟩)
      · exact ⟨regular.name, regular.ssh⟩
      · exact others a mem
    · rintro a (_ | ⟨_, mem⟩)
      · exact regular
      · exact ih others a mem

theorem listed_name {v : Json} {info : Listed} (h : listed v = .ok info) :
    ∃ members, v = .obj members ∧ info.name = memberOr members "name" (.str "") := by
  cases v with
  | obj members =>
    cases h
    exact ⟨members, rfl, rfl⟩
  | _ => cases h

theorem listed_fault {v : Json} {fault : ShapeFault} (h : listed v = .error fault) :
    fault = .notObject ∧ ∀ members, v ≠ .obj members := by
  cases v with
  | obj members => cases h
  | _ =>
    cases h
    exact ⟨rfl, by simp⟩

/-- A copy of what is known of an agent that can be worked with. -/
theorem record_regular (h : ∀ a ∈ stored, a.Regular) {info : Listed}
    (plain : isPlain info.name = true) : ∃ made, record stored info = .ok made ∧ made.Regular := by
  unfold record
  rw [plain]
  cases known : known? stored info.name with
  | none => exact ⟨_, rfl, plain, [], rfl⟩
  | some a =>
    have mem := List.mem_reverse.mp (List.mem_of_find?_eq_some known)
    obtain ⟨members, object⟩ := (h a mem).ssh
    simp only [object]
    exact ⟨_, rfl, plain, members, rfl⟩

theorem go_merged (backend : List Json) (h : ∀ a ∈ stored, a.Regular) :
    Merged backend (go stored backend).1 (go stored backend).2 := by
  induction backend generalizing stored with
  | nil => exact .ok (fun a mem => by cases mem) h
  | cons v rest ih =>
    unfold go
    cases read : listed v with
    | error fault =>
      obtain ⟨rfl, unfit⟩ := listed_fault read
      exact .error (.entry List.mem_cons_self unfit) h
    | ok info =>
      simp only []
      split
      · have merged := ih (setLocalUuid_regular info.uuid h)
        exact ⟨merged.made, fun fault same => (merged.blamed fault same).later, merged.stored⟩
      · by_cases plain : isPlain info.name = true
        · obtain ⟨made, written, regular⟩ := record_regular h plain
          have merged := ih h
          rw [written]
          simp only []
          cases others : go stored rest with
          | mk result stored' =>
            rw [others] at merged
            cases result with
            | error fault => exact .error (merged.blamed fault rfl).later merged.stored
            | ok agents =>
              refine .ok ?_ merged.stored
              rintro a (_ | ⟨_, mem⟩)
              · exact regular
              · exact merged.made agents rfl a mem
        · obtain ⟨members, rfl, name⟩ := listed_name read
          have unfit : record stored info = .error .notPlain := by
            unfold record
            rw [if_pos (by simpa using plain)]
          rw [unfit]
          unfold memberOr at name
          cases held : Json.lookup "name" members with
          | none =>
            rw [name, held] at plain
            exact absurd rfl plain
          | some found =>
            rw [name, held] at plain
            exact .error (.name List.mem_cons_self held (by simpa using plain)) h

theorem merge_merged (backend : List Json) (h : ∀ a ∈ stored, a.Regular) :
    Merged backend (merge stored backend).1 (merge stored backend).2 := by
  have plain : (stored.any fun a => !a.isLocal && !isPlain a.name) = false := by
    rw [List.any_eq_false]
    intro a mem
    simp [(h a mem).name]
  have merged := go_merged backend h
  unfold merge
  rw [plain, if_neg Bool.false_ne_true]
  cases gone : go stored backend with
  | mk result stored' =>
    rw [gone] at merged
    cases result with
    | error fault => exact merged
    | ok made =>
      refine .ok (fun a mem => ?_) merged.stored
      rcases List.mem_append.mp mem with mem | mem
      · exact merged.made made rfl a mem
      · exact merged.stored a (List.mem_of_find?_eq_some (Option.mem_toList.mp mem))

/-! ## The local agent's id -/

/-- The same agents, but that the local one may have got another id. -/
def Adopted (stored agents : List Agent) : Prop :=
  agents = stored ∨ ∃ uuid, agents = setLocalUuid uuid stored

theorem setLocalUuid_again (uuid other : Json) (stored : List Agent) :
    setLocalUuid uuid (setLocalUuid other stored) = setLocalUuid uuid stored := by
  induction stored with
  | nil => rfl
  | cons first rest ih =>
    cases isLocal : first.isLocal with
    | true =>
      have renamed : { first with uuid := other }.isLocal = true := isLocal
      simp only [setLocalUuid, isLocal, renamed, if_true]
    | false => simp only [setLocalUuid, isLocal, Bool.false_eq_true, if_false, ih]

theorem go_adopted (stored : List Agent) (backend : List Json) :
    Adopted stored (go stored backend).2 := by
  induction backend generalizing stored with
  | nil => exact .inl rfl
  | cons v rest ih =>
    unfold go
    cases listed v with
    | error fault => exact .inl rfl
    | ok info =>
      simp only []
      split
      · rcases ih (setLocalUuid info.uuid stored) with same | ⟨uuid, adopted⟩
        · exact .inr ⟨info.uuid, same⟩
        · exact .inr ⟨uuid, adopted.trans (setLocalUuid_again ..)⟩
      · cases record stored info with
        | error fault => exact .inl rfl
        | ok made =>
          have adopted := ih stored
          generalize go stored rest = gone at adopted
          obtain ⟨_ | _, _⟩ := gone <;> exact adopted

/-- Whatever comes of it, of the stored agents only the local one's id may be another. -/
theorem merge_adopted (stored : List Agent) (backend : List Json) :
    Adopted stored (merge stored backend).2 := by
  unfold merge
  split
  · exact .inl rfl
  · have adopted := go_adopted stored backend
    generalize go stored backend = gone at adopted
    obtain ⟨_ | _, _⟩ := gone <;> exact adopted

end EdgeSession.Reconcile
