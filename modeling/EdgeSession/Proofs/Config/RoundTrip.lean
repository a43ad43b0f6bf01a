import EdgeSession.Config.Store
import EdgeSession.Proofs.Except
import EdgeSession.Proofs.Json.Names
import EdgeSession.Proofs.Json.RoundTrip

/-!
The configuration file: a store that was loaded and changed is read back from the text that is
written for it.
-/
namespace EdgeSession.Config

open Json

/-! ## Records and the objects they are written as -/

theorem Agent.ofJson_toJson (a : Agent) : Agent.ofJson a.toJson = .ok a := rfl

/-- No agents are written as an empty list, which is passed over as if it were missing. -/
theorem agentsOf_present (agents : List Agent) {data : List (String × Json)}
    (written : Json.lookup "agents" data = some (.arr (agents.map Agent.toJson))) :
    agentsOf (presentOr data "agents" (.arr [])) = .ok agents := by
  rw [presentOr, written]
  cases agents with
  | nil => rfl
  | cons a agents => exact mapM_written Agent.ofJson_toJson (a :: agents)

theorem Namespace.ofJson_toJson (n : Namespace) : ofJson n.name n.toJson = .ok n := by
  unfold ofJson toJson members
  simp only [bind, Except.bind]
  rw [agentsOf_present n.agents rfl]
  rfl

theorem Store.ofJson_toJson {s : Store} (named : s.defaultNamespace.isTruthy = true) :
    ofJson s.toJson = .ok s := by
  let written := s.namespaces.map fun n => (n.name, n.toJson)
  have present : members (presentOr [("default_namespace", s.defaultNamespace),
      ("namespaces", .obj written)] "namespaces" (.obj [])) = .ok written := by
    unfold written
    cases s.namespaces with
    | _ => rfl
  have default : presentOr [("default_namespace", s.defaultNamespace),
      ("namespaces", .obj written)] "default_namespace" defaultName = s.defaultNamespace :=
    if_pos named
  refine bind_eq_ok.mpr ⟨_, rfl, bind_eq_ok.mpr ⟨written, present, bind_eq_ok.mpr
    ⟨s.namespaces, mapM_written Namespace.ofJson_toJson s.namespaces, ?_⟩⟩⟩
  rw [default]
  rfl

/-! ## Names apart -/

/-- In no object, however deep, a name stands twice. -/
abbrev Proper (v : Json) : Prop := v.every namesApart = true

theorem Credentials.proper_iff (c : Credentials) : Proper c.toJson ↔
    Proper c.email ∧ Proper c.password ∧ Proper c.accessToken ∧ Proper c.refreshToken := by
  simp [Proper, Credentials.toJson, namesApart]

theorem Agent.proper_iff (a : Agent) : Proper a.toJson ↔
    Proper a.name ∧ Proper a.uuid ∧ Proper a.host ∧ Proper a.created ∧ Proper a.ssh ∧
      Proper a.localFlag := by
  simp [Proper, Agent.toJson, namesApart]

theorem Namespace.proper_iff (n : Namespace) : Proper n.toJson ↔
    Proper n.endpoint ∧ Proper n.user.toJson ∧ (∀ a ∈ n.agents, Proper a.toJson) ∧
      Proper n.localControlPlane ∧ Proper n.useHttps := by
  simp [Proper, Namespace.toJson, namesApart]

/-- A namespace as a member of the object that a file has for all of them. -/
def Namespace.member (n : Namespace) : String × Json := (n.name, n.toJson)

/-- A store of proper values that holds each namespace once. -/
structure Store.Sound (s : Store) : Prop where
  default : Proper s.defaultNamespace
  namespaces : Apart (s.namespaces.map Namespace.member)

theorem Store.Sound.toJson {s : Store} (h : s.Sound) : Proper s.toJson := by
  refine every_obj.mpr ⟨rfl, ?_⟩
  intro m mem
  simp only [List.mem_cons, List.not_mem_nil, or_false] at mem
  rcases mem with rfl | rfl
  · exact h.default
  · exact h.namespaces.obj

/-! ## What is loaded -/

section
variable {data : List (String × Json)} {default : Json}

theorem proper_lookup (h : Proper (.obj data)) {name : String} {v : Json}
    (found : Json.lookup name data = some v) : Proper v := by
  obtain ⟨m, member, rfl⟩ := Option.map_eq_some_iff.mp found
  exact (every_obj.mp h).2 m (List.mem_of_find?_eq_some member)

theorem proper_memberOr (h : Proper (.obj data)) (other : Proper default) (name : String) :
    Proper (memberOr data name default) := by
  unfold memberOr
  cases found : Json.lookup name data with
  | none => exact other
  | some v => exact proper_lookup h found

theorem proper_presentOr (h : Proper (.obj data)) (other : Proper default) (name : String) :
    Proper (presentOr data name default) := by
  unfold presentOr
  split
  · split
    · exact proper_lookup h ‹_›
    · exact other
  · exact other

theorem members_eq_ok {v : Json} (h : members v = .ok data) : v = .obj data := by
  unfold members at h
  split at h
  · cases h
    rfl
  · cases h

theorem Credentials.ofMembers_proper (h : Proper (.obj data)) : Proper (ofMembers data).toJson :=
  (proper_iff _).mpr ⟨proper_memberOr h rfl _, proper_memberOr h rfl _, proper_memberOr h rfl _,
    proper_memberOr h rfl _⟩

theorem Agent.ofJson_proper {v : Json} {a : Agent} (h : Proper v) (read : ofJson v = .ok a) :
    Proper a.toJson := by
  obtain ⟨data, object, made⟩ := bind_eq_ok.mp read
  obtain rfl := members_eq_ok object
  split at made
  · cases made
  · cases made
    exact (proper_iff _).mpr ⟨proper_lookup h ‹_›, proper_memberOr h rfl _,
      proper_memberOr h rfl _, proper_memberOr h rfl _, proper_memberOr h rfl _,
      proper_memberOr h rfl _⟩

theorem agentsOf_proper {v : Json} {agents : List Agent} (h : Proper v)
    (read : agentsOf v = .ok agents) : ∀ a ∈ agents, Proper a.toJson := by
  unfold agentsOf at read
  split at read
  · intro a mem
    obtain ⟨item, known, read⟩ := mem_of_mapM read mem
    exact Agent.ofJson_proper ((every_arr.mp h).2 item known) read
  all_goals cases read

theorem Namespace.ofJson_proper {name : String} {v : Json} {n : Namespace} (h : Proper v)
    (read : ofJson name v = .ok n) : Proper n.toJson := by
  obtain ⟨data, object, rest⟩ := bind_eq_ok.mp read
  obtain rfl := members_eq_ok object
  obtain ⟨user, credentials, rest⟩ := bind_eq_ok.mp rest
  obtain ⟨agents, listed, made⟩ := bind_eq_ok.mp rest
  cases made
  have known : Proper (.obj user) := members_eq_ok credentials ▸ proper_presentOr h rfl _
  exact (proper_iff _).mpr ⟨proper_memberOr h rfl _, Credentials.ofMembers_proper known,
    agentsOf_proper (proper_presentOr h rfl _) listed, proper_memberOr h rfl _,
    proper_memberOr h rfl _⟩

theorem Namespace.ofJson_name {name : String} {v : Json} {n : Namespace}
    (read : ofJson name v = .ok n) : n.name = name := by
  obtain ⟨data, -, rest⟩ := bind_eq_ok.mp read
  obtain ⟨user, -, rest⟩ := bind_eq_ok.mp rest
  obtain ⟨agents, -, made⟩ := bind_eq_ok.mp rest
  cases made
  rfl

theorem Store.ofJson_sound {v : Json} {s : Store} (h : Proper v) (read : ofJson v = .ok s) :
    s.Sound := by
  obtain ⟨data, object, rest⟩ := bind_eq_ok.mp read
  obtain rfl := members_eq_ok object
  obtain ⟨entries, named, rest⟩ := bind_eq_ok.mp rest
  obtain ⟨namespaces, listed, made⟩ := bind_eq_ok.mp rest
  cases made
  have apart : Proper (.obj entries) := members_eq_ok named ▸ proper_presentOr h rfl _
  refine ⟨proper_presentOr h rfl _, ?_, ?_⟩
  · have names : (namespaces.map Namespace.member).map (·.1) = entries.map (·.1) := by
      rw [List.map_map]
      exact map_of_mapM Namespace.ofJson_name listed
    rw [names]
    exact of_decide_eq_true (every_self apart)
  · intro m mem
    obtain ⟨n, known, rfl⟩ := List.mem_map.mp mem
    obtain ⟨entry, source, read⟩ := mem_of_mapM listed known
    exact Namespace.ofJson_proper ((every_obj.mp apart).2 entry source) read

theorem Store.load_sound {file : Option String} {s : Store} (read : load file = .ok s) :
    s.Sound := by
  unfold load at read
  split at read
  · cases read
    exact ⟨rfl, .nil⟩
  · split at read
    · cases read
    · split at read
      · cases read
      · cases read
        exact ofJson_sound (parse_apart ‹_›) ‹_›

end

/-! ## Changes -/

/-- What is done to a store in memory. -/
inductive Change
  | setDefault (name : Json)
  | add (n : Namespace)
  | updateUser (name access refresh : Json)
  | replaceAgents (name : Json) (agents : List Agent)

/-- The values that a change brings in are such as a file can hold. -/
def Change.Proper : Change → Prop
  | .setDefault name => Config.Proper name
  | .add n => Config.Proper n.toJson
  | .updateUser _ access refresh => Config.Proper access ∧ Config.Proper refresh
  | .replaceAgents _ agents => ∀ a ∈ agents, Config.Proper a.toJson

namespace Store

/-- A change for a namespace that is not found changes nothing. -/
def apply (s : Store) : Change → Store
  | .setDefault name => { s with defaultNamespace := name }
  | .add n => s.add n
  | .updateUser name access refresh => (s.updateUser name access refresh).toOption.getD s
  | .replaceAgents name agents => (s.replaceAgents name agents).toOption.getD s

def applyAll (s : Store) (changes : List Change) : Store := changes.foldl apply s

section
variable {s t : Store}

theorem member_insert (n : Namespace) (l : List Namespace) :
    (insert n l).map Namespace.member = Json.insert n.name n.toJson (l.map Namespace.member) := by
  induction l with
  | nil => rfl
  | cons m l ih =>
    by_cases same : m.name = n.name
    · simp [insert, Json.insert, Namespace.member, same]
    · simp only [insert, if_neg same, List.map_cons, ih]
      simp [Json.insert, Namespace.member, same]

theorem Sound.add (h : s.Sound) {n : Namespace} (proper : Proper n.toJson) : (s.add n).Sound := by
  refine ⟨h.default, ?_⟩
  rw [Store.add, member_insert]
  exact h.namespaces.insert n.name proper

theorem Sound.modify (h : s.Sound) (name : String) {f : Namespace → Namespace}
    (kept : ∀ n, (f n).name = n.name) (proper : ∀ n, Proper n.toJson → Proper (f n).toJson) :
    (s.modify name f).Sound := by
  refine ⟨h.default, ?_, ?_⟩
  · have names : ((s.modify name f).namespaces.map Namespace.member).map (·.1) =
        (s.namespaces.map Namespace.member).map (·.1) := by
      simp only [Store.modify, List.map_map]
      refine List.map_congr_left fun n _ => ?_
      simp only [Function.comp, Namespace.member]
      split
      · exact kept n
      · rfl
    rw [names]
    exact h.namespaces.names
  · intro m mem
    obtain ⟨n, known, rfl⟩ := List.mem_map.mp mem
    obtain ⟨old, source, rfl⟩ := List.mem_map.mp known
    have before := h.namespaces.values _ (List.mem_map_of_mem source)
    simp only [Namespace.member]
    split
    · exact proper old before
    · exact before

theorem Sound.update (h : s.Sound) {name : Json} {f : Namespace → Namespace}
    (kept : ∀ n, (f n).name = n.name) (proper : ∀ n, Proper n.toJson → Proper (f n).toJson) :
    ((s.update name f).toOption.getD s).Sound := by
  unfold Store.update
  cases s.get name with
  | error fault => exact h
  | ok n => exact h.modify n.name kept proper

/-- A store stays sound under every change. -/
theorem Sound.apply (h : s.Sound) {c : Change} (proper : c.Proper) : (s.apply c).Sound := by
  cases c with
  | setDefault name => exact ⟨proper, h.namespaces⟩
  | add n => exact h.add proper
  | updateUser name access refresh =>
    refine h.update (fun _ => rfl) fun n known => ?_
    obtain ⟨endpoint, user, rest⟩ := (Namespace.proper_iff n).mp known
    obtain ⟨email, password, -⟩ := (Credentials.proper_iff _).mp user
    have renewed := (Credentials.proper_iff
      { n.user with accessToken := access, refreshToken := refresh }).mpr
        ⟨email, password, proper⟩
    exact (Namespace.proper_iff _).mpr ⟨endpoint, renewed, rest⟩
  | replaceAgents name agents =>
    refine h.update (fun _ => rfl) fun n known => ?_
    obtain ⟨endpoint, user, -, rest⟩ := (Namespace.proper_iff n).mp known
    exact (Namespace.proper_iff _).mpr ⟨endpoint, user, proper, rest⟩

theorem Sound.applyAll (h : s.Sound) {changes : List Change} (proper : ∀ c ∈ changes, c.Proper) :
    (s.applyAll changes).Sound := by
  induction changes generalizing s with
  | nil => exact h
  | cons c changes ih =>
    obtain ⟨first, others⟩ := List.forall_mem_cons.mp proper
    exact ih (h.apply first) others

end

/-! ## The file -/

theorem load_written {s : Store} (sound : s.Sound) (named : s.defaultNamespace.isTruthy = true)
    (whole : s.toJson.every isWhole = true) (short : s.toJson.every isShort = true) :
    load (some s.toJson.pretty) = .ok s := by
  have parsed := parse_pretty (every_isLegible.mpr ⟨whole, short, sound.toJson⟩)
  simp only [load, parsed, ofJson_toJson named]

/-- Whatever was loaded and changed, unless an integer has too many digits a text is written, in
plain ASCII; what is read from it are the same namespaces in the same order under the same default,
for which the same text is written again. -/
theorem flush_load {file : Option String} {start : Store} (loaded : load file = .ok start)
    {changes : List Change} (proper : ∀ c ∈ changes, c.Proper)
    (named : (start.applyAll changes).defaultNamespace.isTruthy = true)
    (whole : (start.applyAll changes).toJson.every isWhole = true) :
    (start.applyAll changes).flush?.isSome = (start.applyAll changes).toJson.every isShort ∧
      ∀ text, (start.applyAll changes).flush? = some text → IsAscii text.toList ∧
        ∃ again, load (some text) = .ok again ∧
          again.defaultNamespace = (start.applyAll changes).defaultNamespace ∧
          again.namespaces = (start.applyAll changes).namespaces ∧ again.flush? = some text := by
  have sound := (load_sound loaded).applyAll proper
  generalize start.applyAll changes = s at named whole sound ⊢
  unfold flush? pretty?
  cases short : s.toJson.every isShort with
  | false => exact ⟨rfl, fun text written => by cases written⟩
  | true =>
    refine ⟨rfl, fun text written => ?_⟩
    cases written
    refine ⟨?_, s, load_written sound named whole short, rfl, rfl, if_pos short⟩
    rw [pretty, String.toList_ofList]
    exact isAscii_pretty whole 0

/-- A file with a member that is passed over; then a default, tokens and an agent are set. -/
theorem flush_load_renewed :
    let file := "\x7b\"namespaces\": \x7b\"prod\": \x7b\"kube\": 1\x7d\x7d\x7d"
    let start : Store := { namespaces := [{ name := "prod" }] }
    let changes : List Change := [.setDefault (.str "prod"),
      .updateUser (.str "") (.str "a\n") (.str "𝄞"),
      .replaceAgents (.str "prod") [{ name := .str "edge", ssh := .obj [("port", .int 22)] }]]
    let s := start.applyAll changes
    load (some file) = .ok start ∧ (∀ c ∈ changes, c.Proper) ∧
      s.defaultNamespace.isTruthy = true ∧ s.toJson.every isWhole = true ∧
      ∃ text again, s.flush? = some text ∧ load (some text) = .ok again ∧
        again.defaultNamespace = s.defaultNamespace ∧ again.namespaces = s.namespaces ∧
        again.flush? = some text := by
  intro file start changes s
  have loaded : load (some file) = .ok start := toOption_eq_some.mp (by decide +kernel)
  have proper : ∀ c ∈ changes, c.Proper := by
    intro c mem
    simp only [changes, List.mem_cons, List.not_mem_nil, or_false] at mem
    rcases mem with rfl | rfl | rfl
    · rfl
    · exact ⟨rfl, rfl⟩
    · exact List.forall_mem_singleton.mpr rfl
  have named : s.defaultNamespace.isTruthy = true := by decide +kernel
  have whole : s.toJson.every isWhole = true := by decide +kernel
  have short : s.toJson.every isShort = true := by decide +kernel
  obtain ⟨writable, read⟩ := flush_load loaded proper named whole
  obtain ⟨text, written⟩ := Option.isSome_iff_exists.mp (writable.trans short)
  exact ⟨loaded, proper, named, whole, text,
    (read text written).2.imp fun again kept => ⟨written, kept⟩⟩

end Store

end EdgeSession.Config
