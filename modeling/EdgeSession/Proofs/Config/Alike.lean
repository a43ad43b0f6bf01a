import EdgeSession.Proofs.Config.Tokens

/-!
Stores that differ in tokens alone, and what is found in them under a name.
-/
namespace EdgeSession.Config

/-- A namespace without its tokens. -/
def Namespace.bare (n : Namespace) : Namespace :=
  { n with user := { n.user with accessToken := .null, refreshToken := .null } }

namespace Store

/-- The agents that are stored for a namespace. -/
def agents? (s : Store) (key : String) : Option (List Agent) := (s.find? key).map (·.agents)

/-- The second store is the first one, but for tokens. -/
structure Alike (s t : Store) : Prop where
  default : t.defaultNamespace = s.defaultNamespace
  namespaces : t.namespaces.map Namespace.bare = s.namespaces.map Namespace.bare

variable {s t u : Store} {name : Json} {n : Namespace} {f g : Namespace → Namespace}

/-! ## Names -/

theorem get_eq_ok :
    s.get name = .ok n ↔ ∃ key, s.nameOr name = .str key ∧ s.find? key = some n := by
  unfold get
  constructor
  · intro found
    split at found
    · rename_i key named
      refine ⟨key, named, ?_⟩
      split at found
      · rename_i n' known
        cases found
        exact known
      · cases found
    all_goals cases found
  · rintro ⟨key, named, known⟩
    rw [named]
    simp only [known]

/-- What is changed about the namespace that is found can be found again. -/
theorem get_modify (found : s.get name = .ok n) (kept : ∀ n, (f n).name = n.name) :
    (s.modify n.name f).get name = .ok (f n) := by
  obtain ⟨key, named, known⟩ := get_eq_ok.1 found
  refine get_eq_ok.2 ⟨key, named, ?_⟩
  rw [find?_name known, find?_modify s key key kept, known]
  exact congrArg some (if_pos rfl)

theorem modify_modify (key : String) (kept : ∀ n, (f n).name = n.name) :
    (s.modify key f).modify key g = s.modify key (g ∘ f) := by
  simp only [modify, List.map_map, Store.mk.injEq, true_and]
  refine List.map_congr_left fun n _ => ?_
  simp only [Function.comp]
  by_cases same : n.name = key
  · rw [if_pos same, if_pos ((kept n).trans same), if_pos same]
  · rw [if_neg same, if_neg same, if_neg same]

theorem replaceAgents_eq_ok {agents : List Agent} :
    s.replaceAgents name agents = .ok t ↔
      ∃ n, s.get name = .ok n ∧ t = s.modify n.name fun n => { n with agents } := by
  unfold replaceAgents update
  cases found : s.get name with
  | error fault => simp
  | ok n => simp [eq_comm]

/-- Of two replacements the latter counts. -/
theorem replaceAgents_again {first : List Agent} (replaced : s.replaceAgents name first = .ok t)
    (agents : List Agent) : t.replaceAgents name agents = s.replaceAgents name agents := by
  obtain ⟨n, found, rfl⟩ := replaceAgents_eq_ok.1 replaced
  have again : (s.modify n.name fun n => { n with agents := first }).get name =
      .ok { n with agents := first } := get_modify found fun _ => rfl
  simp only [replaceAgents, update, again, found]
  exact congrArg Except.ok (modify_modify n.name fun _ => rfl)

theorem tokens?_replaceAgents {agents : List Agent} (replaced : s.replaceAgents name agents = .ok t)
    (key : String) : t.tokens? key = s.tokens? key := by
  obtain ⟨n, -, rfl⟩ := replaceAgents_eq_ok.1 replaced
  have found := find?_modify s n.name key (f := fun n => { n with agents }) fun _ => rfl
  unfold tokens?
  rw [found, Option.map_map]
  refine Option.map_congr fun m _ => ?_
  simp only [Function.comp]
  split <;> rfl

/-- The agents go to the namespace that is found, and to no other. -/
theorem agents?_replaceAgents {agents : List Agent} (found : s.get name = .ok n)
    (replaced : s.replaceAgents name agents = .ok t) (key : String) :
    t.agents? key = if key = n.name then some agents else s.agents? key := by
  obtain ⟨m, found', rfl⟩ := replaceAgents_eq_ok.1 replaced
  rw [found] at found'
  cases found'
  obtain ⟨other, -, known⟩ := get_eq_ok.1 found
  rw [agents?, find?_modify s n.name key (f := fun n => { n with agents }) fun _ => rfl,
    Option.map_map]
  by_cases same : key = n.name
  · rw [if_pos same, same, find?_name known, known]
    simp
  · simp only [if_neg same]
    rfl

/-! ## Tokens apart -/

theorem Alike.refl (s : Store) : s.Alike s := ⟨rfl, rfl⟩

theorem Alike.trans (first : s.Alike t) (second : t.Alike u) : s.Alike u :=
  ⟨second.default.trans first.default, second.namespaces.trans first.namespaces⟩

theorem Alike.updateUser {access refresh : Json}
    (updated : s.updateUser name access refresh = .ok t) : s.Alike t := by
  unfold Store.updateUser update at updated
  split at updated
  · cases updated
  · cases updated
    refine ⟨rfl, ?_⟩
    simp only [modify, List.map_map]
    refine List.map_congr_left fun n _ => ?_
    simp only [Function.comp]
    split <;> rfl

theorem Alike.find? (h : s.Alike t) (key : String) :
    (t.find? key).map Namespace.bare = (s.find? key).map Namespace.bare := by
  have bare (s : Store) : (s.find? key).map Namespace.bare =
      (s.namespaces.map Namespace.bare).find? (·.name = key) := by
    rw [List.find?_map]
    rfl
  rw [bare, bare, h.namespaces]

/-- The same namespace is found, but for tokens. -/
theorem Alike.get (h : s.Alike t) (found : s.get name = .ok n) :
    ∃ m, t.get name = .ok m ∧ m.bare = n.bare := by
  obtain ⟨key, named, known⟩ := get_eq_ok.1 found
  have same := h.find? key
  rw [known, Option.map_some] at same
  obtain ⟨m, known', bare⟩ := Option.map_eq_some_iff.1 same
  have named' : t.nameOr name = .str key := by
    rw [← named, nameOr, nameOr, h.default]
  exact ⟨m, get_eq_ok.2 ⟨key, named', known'⟩, bare⟩

theorem agents_of_bare {m : Namespace} (same : m.bare = n.bare) : m.agents = n.agents := by
  have agents : m.bare.agents = n.bare.agents := congrArg Namespace.agents same
  exact agents

theorem Alike.agents? (h : s.Alike t) (key : String) : t.agents? key = s.agents? key := by
  have agents (s : Store) : s.agents? key = ((s.find? key).map Namespace.bare).map (·.agents) := by
    rw [Option.map_map]
    rfl
  rw [agents, agents, h.find?]

end Store
end EdgeSession.Config
