import EdgeSession.Proofs.ControlPlane.Again
import Mathlib.Data.List.Basic

/-!
What a merge makes of a list as it is documented: the records it is to have, in their order, each
with the setup of the last stored agent of its name, and behind them the first local agent. The
other local agents are not among them.
-/
namespace EdgeSession.Reconcile

open Config

/-- What an entry says of an agent. A member that is not there is an empty text. -/
def said (member : String) (v : Json) : Json := (v.get? member).getD (.str "")

/-- Whether an entry is one as they are documented: what it says of an agent are texts. -/
def isDocumented : Json → Bool :=
  Shape.isObjectOf fun m => Shape.fits Shape.isText m ["name", "uuid", "host"]

/-- The last stored agent of a name, local ones apart. -/
def lastOf? (stored : List Agent) (name : Json) : Option Agent :=
  (stored.filter fun a => !a.isLocal && a.name = name).getLast?

/-- When the last stored agent of a name was created, and the way to reach it; empty without one. -/
def lastSetup (stored : List Agent) (name : Json) : Json × Json :=
  match lastOf? stored name with
  | some a => (a.created, a.ssh)
  | none => (.str "", .obj [])

/-- The record that an entry is to have. -/
def lined (stored : List Agent) (v : Json) : Agent :=
  let (created, ssh) := lastSetup stored (said "name" v)
  { name := said "name" v, uuid := said "uuid" v, host := said "host" v, created, ssh }

/-- Whether an entry bears the name of the first local agent. -/
def isOwn (stored : List Agent) (v : Json) : Bool :=
  (local? stored).any fun l => said "name" v = l.name

/-- The agents that a merge is to give. -/
def linedUp (stored : List Agent) (backend : List Json) : List Agent :=
  let own := backend.filter (isOwn stored)
  let others := backend.filter fun v => !isOwn stored v
  others.map (lined stored) ++ (local? stored).toList.map fun l =>
    { l with uuid := (own.getLast?.map (said "uuid")).getD l.uuid }

variable {stored agents : List Agent} {backend : List Json} {v : Json} {a : Agent}

/-! ## Names that are texts -/

theorem same_text {s : String} : (Json.str s).same v = true ↔ v = .str s := by
  cases v with
  | str t => rw [Json.same, beq_iff_eq, Json.str.injEq, eq_comm]
  | _ => simp [Json.same, Json.number?]

theorem sameKey_text {s : String} : v.sameKey (.str s) = true ↔ v = .str s := by
  cases v <;> simp [Json.sameKey, Json.isUndefined, Json.same, Json.number?]

theorem known?_text (stored : List Agent) (s : String) :
    known? stored (.str s) = lastOf? stored (.str s) := by
  rw [known?, lastOf?, ← List.head?_reverse, ← List.filter_reverse, ← List.head?_filter]
  congr 2
  funext a
  rw [Bool.eq_iff_iff, Bool.and_eq_true, Bool.and_eq_true, sameKey_text, decide_eq_true_eq]

theorem documented_listed (documented : isDocumented v = true) :
    listed v = .ok ⟨said "name" v, said "uuid" v, said "host" v⟩ ∧ ∃ s, said "name" v = .str s := by
  obtain ⟨m, rfl, texts⟩ := Shape.obj_of_isObjectOf documented
  exact ⟨rfl, Shape.text_of_isText (Shape.memberOr_fits texts (by simp) (.str "") rfl)⟩

theorem ours_documented (documented : isDocumented v = true) (stored : List Agent) :
    ours stored ⟨said "name" v, said "uuid" v, said "host" v⟩ = isOwn stored v := by
  obtain ⟨-, s, text⟩ := documented_listed documented
  rw [ours, isOwn]
  congr 1
  funext l
  rw [Bool.eq_iff_iff, decide_eq_true_eq, text, same_text, eq_comm]

theorem setup_text (known : ∀ a ∈ stored, a.isLocal = false → a.Regular) (s : String) :
    setup stored (.str s) = .ok (lastSetup stored (.str s)) := by
  rw [setup, lastSetup, known?_text]
  cases found : lastOf? stored (.str s) with
  | none => rfl
  | some a =>
    have mem := List.mem_filter.1 (List.mem_of_getLast? found)
    have remote : a.isLocal = false := by simpa using (Bool.and_eq_true_iff.1 mem.2).1
    obtain ⟨members, object⟩ := (known a mem.1 remote).ssh
    simp only [object]
    rfl

/-- What a documented entry comes to. -/
theorem entry_documented (known : ∀ a ∈ stored, a.isLocal = false → a.Regular)
    (documented : isDocumented v = true) :
    entry stored v = .ok (if isOwn stored v then none else some (lined stored v)) := by
  obtain ⟨read, s, text⟩ := documented_listed documented
  have recorded : record stored ⟨said "name" v, said "uuid" v, said "host" v⟩ =
      .ok (lined stored v) := by
    refine record_eq_ok.2 ⟨?_, lastSetup stored (said "name" v), ?_, rfl⟩
    · simp only [text, isPlain]
    · simp only [text]
      exact setup_text known s
  simp only [entry, read, recorded, ours_documented documented]
  cases isOwn stored v <;> rfl

theorem localId?_documented (documented : isDocumented v = true) (stored : List Agent) :
    localId? stored v = if isOwn stored v then some (said "uuid" v) else none := by
  simp only [localId?, (documented_listed documented).1, ours_documented documented]

/-! ## The whole list -/

theorem filterMap_ite {α β : Type} (p : α → Bool) (f : α → β) (l : List α) :
    (l.filterMap fun a => if p a then some (f a) else none) = (l.filter p).map f := by
  rw [← List.filterMap_eq_map, List.filterMap_filter]
  rfl

theorem merge_linedUp (known : ∀ a ∈ stored, a.isLocal = false → a.Regular)
    (documented : ∀ v ∈ backend, isDocumented v = true) :
    (merge stored backend).1 = .ok (linedUp stored backend) := by
  have named : Named stored := fun a mem remote => (known a mem remote).name
  let made (v : Json) : Option Agent := if isOwn stored v then none else some (lined stored v)
  have came : backend.mapM (entry stored) = .ok (backend.map made) := by
    rw [mapM_congr fun v mem => entry_documented known (documented v mem)]
    exact List.mapM_pure
  have records : (backend.map made).filterMap id =
      (backend.filter fun v => !isOwn stored v).map (lined stored) := by
    rw [List.filterMap_map, ← filterMap_ite]
    apply List.filterMap_congr
    intro v _
    simp only [Function.comp, made]
    cases isOwn stored v <;> rfl
  have ids : backend.filterMap (localId? stored) =
      (backend.filter (isOwn stored)).map (said "uuid") := by
    rw [← filterMap_ite]
    exact List.filterMap_congr fun v mem => localId?_documented (documented v mem) stored
  rw [merge_eq_ok.2 ⟨named, _, came, rfl, rfl⟩, records, local?_identified, ids,
    List.getLast?_map, Option.toList_map]
  rfl

/-- Every entry that is not the local agent's has its record, once and in its place; no agent stays
that is not listed; and what is known here of the setup of one that stays is kept. -/
structure InLine (stored : List Agent) (backend : List Json) (agents : List Agent) : Prop where
  listed : (agents.filter fun a => !a.isLocal).map (·.name) =
    (backend.filter fun v => !isOwn stored v).map (said "name")
  kept : ∀ a ∈ agents, a.isLocal = false → ∀ known, lastOf? stored a.name = some known →
    a.created = known.created ∧ a.ssh = known.ssh

theorem linedUp_others (stored : List Agent) (backend : List Json) :
    (linedUp stored backend).filter (fun a => !a.isLocal) =
      (backend.filter fun v => !isOwn stored v).map (lined stored) := by
  have records (l : List Json) :
      (l.map (lined stored)).filter (fun a => !a.isLocal) = l.map (lined stored) := by
    rw [List.filter_eq_self]
    intro a mem
    obtain ⟨v, -, rfl⟩ := List.mem_map.1 mem
    rfl
  have none (f : Agent → Json) : ((local? stored).toList.map fun l =>
      { l with uuid := f l }).filter (fun a => !a.isLocal) = [] := by
    rw [List.filter_eq_nil_iff]
    intro a mem
    obtain ⟨l, found, rfl⟩ := List.mem_map.1 mem
    have isLocal := isLocal_of_local? (Option.mem_toList.1 found)
    simpa [Agent.isLocal] using isLocal
  rw [linedUp, List.filter_append, records, none, List.append_nil]

theorem linedUp_inLine (stored : List Agent) (backend : List Json) :
    InLine stored backend (linedUp stored backend) where
  listed := by
    rw [linedUp_others, List.map_map]
    rfl
  kept a mem remote known found := by
    have made : a ∈ (linedUp stored backend).filter fun a => !a.isLocal :=
      List.mem_filter.2 ⟨mem, by simp [remote]⟩
    rw [linedUp_others, List.mem_map] at made
    obtain ⟨v, -, rfl⟩ := made
    have set : lastSetup stored (said "name" v) = (known.created, known.ssh) := by
      rw [lastSetup, show lastOf? stored (said "name" v) = some known from found]
    simp [lined, set]

/-- **A merge gives the agents it is to give**, of any stored agents that can be worked with and any
list that is as documented. -/
theorem merge_lines_up (known : ∀ a ∈ stored, a.isLocal = false → a.Regular)
    (documented : ∀ v ∈ backend, isDocumented v = true) :
    (merge stored backend).1 = .ok (linedUp stored backend) ∧
      InLine stored backend (linedUp stored backend) :=
  ⟨merge_linedUp known documented, linedUp_inLine stored backend⟩

/-- Names that come twice on both sides, a listed agent that bears the local one's name, and a
second local one. -/
theorem merge_lines_up_doubled :
    let stored : List Agent := [
      { name := .str "a", created := .str "first" },
      { name := .str "here", uuid := .str "old", host := .str "h", localFlag := .bool true },
      { name := .str "a", created := .str "last", ssh := .obj [("user", .str "root")] },
      { name := .str "gone" }]
    let backend : List Json := [
      .obj [("name", .str "a"), ("uuid", .str "1")],
      .obj [("name", .str "here"), ("uuid", .str "2")],
      .obj [("uuid", .str "3")],
      .obj [("name", .str "a"), ("host", .str "x")]]
    ((∀ a ∈ stored, a.isLocal = false → a.Regular) ∧ (∀ v ∈ backend, isDocumented v = true) ∧
      (linedUp stored backend).map (fun a => (a.name, a.uuid, a.created)) = [
        (.str "a", .str "1", .str "last"), (.str "", .str "3", .str ""),
        (.str "a", .str "", .str "last"), (.str "here", .str "2", .str "")]) ∧
      (merge stored backend).1 = .ok (linedUp stored backend) ∧
      InLine stored backend (linedUp stored backend) := by
  intro stored backend
  have known : ∀ a ∈ stored, a.isLocal = false → a.Regular := by
    intro a mem _
    simp only [stored, List.mem_cons, List.not_mem_nil, or_false] at mem
    rcases mem with rfl | rfl | rfl | rfl <;> exact ⟨rfl, _, rfl⟩
  have documented : ∀ v ∈ backend, isDocumented v = true := by decide +kernel
  exact ⟨⟨known, documented, by decide +kernel⟩, merge_lines_up known documented⟩

/-! ## Local agents -/

/-- Whether an agent is still there, with an id that may be another. -/
def Remains (a : Agent) (agents : List Agent) : Prop := ∃ b ∈ agents, b = { a with uuid := b.uuid }

theorem locals_merged (merged : (merge stored backend).1 = .ok agents) :
    agents.filter (·.isLocal) = (local? stored).toList.map fun l =>
      { l with uuid := (backend.filterMap (localId? stored)).getLast?.getD l.uuid } := by
  have ended : merge stored backend = (.ok agents, (merge stored backend).2) := Prod.ext merged rfl
  obtain ⟨-, outs, came, after, rfl⟩ := merge_eq_ok.1 ended
  have none : (outs.filterMap id).filter (·.isLocal) = [] := by
    rw [List.filter_eq_nil_iff]
    intro a mem
    rw [records_remote came mem]
    exact Bool.false_ne_true
  rw [List.filter_append, none, List.nil_append, after, List.filter_eq_self.2, local?_identified,
    Option.toList_map]
  intro a mem
  exact isLocal_of_local? (Option.mem_toList.1 mem)

/-- **A merge keeps one local agent**: the first, with nothing new but the last id that the list has
for its name. Any other stays only if it is the same agent but for the id. -/
theorem merge_keeps_first_local (merged : (merge stored backend).1 = .ok agents) :
    (agents.filter (·.isLocal) = (local? stored).toList.map fun l =>
      { l with uuid := (backend.filterMap (localId? stored)).getLast?.getD l.uuid }) ∧
    ∀ a ∈ stored, a.isLocal = true →
      (Remains a agents ↔ ∃ l, local? stored = some l ∧ a = { l with uuid := a.uuid }) := by
  have locals := locals_merged merged
  refine ⟨locals, fun a mem isLocal => ⟨?_, ?_⟩⟩
  · rintro ⟨b, held, same⟩
    have still : b.isLocal = true := by
      rw [same]
      exact isLocal
    have first : b ∈ agents.filter (·.isLocal) := List.mem_filter.2 ⟨held, still⟩
    rw [locals, List.mem_map] at first
    obtain ⟨l, found, rfl⟩ := first
    refine ⟨l, Option.mem_toList.1 found, ?_⟩
    cases a
    cases l
    simp_all
  · rintro ⟨l, found, same⟩
    have first : { l with uuid := (backend.filterMap (localId? stored)).getLast?.getD l.uuid } ∈
        agents.filter (·.isLocal) := by
      rw [locals, found]
      exact List.mem_singleton_self _
    refine ⟨_, (List.mem_filter.1 first).1, ?_⟩
    rw [same]

/-- The first local agent takes over an id; the second one, which is listed as well, is gone. -/
theorem merge_keeps_first_local_of_two :
    let here : Agent := { name := .str "here", uuid := .str "old", localFlag := .bool true }
    let spare : Agent := { name := .str "spare", localFlag := .bool true }
    let backend : List Json := [
      .obj [("name", .str "here"), ("uuid", .str "new")], .obj [("name", .str "spare")]]
    let agents : List Agent := [{ name := .str "spare" }, { here with uuid := .str "new" }]
    (merge [here, spare] backend).1 = .ok agents ∧
      (agents.filter (·.isLocal) = (local? [here, spare]).toList.map fun l =>
        { l with uuid := (backend.filterMap (localId? [here, spare])).getLast?.getD l.uuid }) ∧
      ∀ a ∈ [here, spare], a.isLocal = true → (Remains a agents ↔
        ∃ l, local? [here, spare] = some l ∧ a = { l with uuid := a.uuid }) := by
  intro here spare backend agents
  have merged : (merge [here, spare] backend).1 = .ok agents := by decide +kernel
  exact ⟨merged, merge_keeps_first_local merged⟩

/-- Of two local agents the second is dropped, even if nothing is listed. -/
theorem second_local_dropped :
    let here : Agent := { name := .str "here", localFlag := .bool true }
    let spare : Agent := { name := .str "spare", localFlag := .bool true }
    (merge [here, spare] []).1 = .ok [here] ∧ spare.isLocal = true ∧ ¬Remains spare [here] := by
  refine ⟨by decide +kernel, rfl, ?_⟩
  rintro ⟨b, mem, same⟩
  cases List.mem_singleton.1 mem
  simp at same

end EdgeSession.Reconcile
