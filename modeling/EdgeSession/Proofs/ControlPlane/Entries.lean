import EdgeSession.ControlPlane.Reconcile
import EdgeSession.Proofs.ControlPlane.Reconcile
import EdgeSession.Proofs.Except
import Mathlib.Data.List.TakeWhile

/-!
A merge entry by entry. What an entry comes to does not depend on the entries before it: the local
agent may have another id by then, but nothing is looked up by that. So a merge makes the record of
each entry on its own, up to the first that does not fit, and the local agent gets the id of the
last of its entries before that one.
-/
namespace EdgeSession.Reconcile

open Config

/-- Whether an entry is about the local agent. -/
def ours (stored : List Agent) (info : Listed) : Bool :=
  (local? stored).any fun a => info.name.same a.name

/-- What an entry comes to: a record, or none of its own if it is about the local agent. -/
def entry (stored : List Agent) (v : Json) : Except ShapeFault (Option Agent) :=
  match listed v with
  | .error fault => .error fault
  | .ok info => if ours stored info then .ok none else (record stored info).map some

def fits (stored : List Agent) (v : Json) : Bool := (entry stored v).isOk

/-- The id that an entry has for the local agent. -/
def localId? (stored : List Agent) (v : Json) : Option Json :=
  match listed v with
  | .error _ => none
  | .ok info => if ours stored info then some info.uuid else none

/-- The stored agents once some entries were gone through. The last id for the local one counts. -/
def identified (stored : List Agent) (entries : List Json) : List Agent :=
  match (entries.filterMap (localId? stored)).getLast? with
  | some uuid => setLocalUuid uuid stored
  | none => stored

variable {stored agents after : List Agent} {backend : List Json} {outs : List (Option Agent)}
  {uuid v : Json} {info : Listed} {a : Agent} {fault : ShapeFault}

/-! ## Another id for the local agent -/

theorem setLocalUuid_local {a : Agent} (isLocal : a.isLocal = true) (rest : List Agent) :
    setLocalUuid uuid (a :: rest) = { a with uuid } :: rest := if_pos isLocal

theorem setLocalUuid_other {a : Agent} (other : ¬a.isLocal = true) (rest : List Agent) :
    setLocalUuid uuid (a :: rest) = a :: setLocalUuid uuid rest := if_neg other

theorem local?_setLocalUuid (uuid : Json) (stored : List Agent) :
    local? (setLocalUuid uuid stored) = (local? stored).map fun a => { a with uuid } := by
  unfold local?
  induction stored with
  | nil => rfl
  | cons first rest ih =>
    by_cases isLocal : first.isLocal = true
    · have renamed : { first with uuid }.isLocal = true := isLocal
      rw [setLocalUuid_local isLocal, List.find?_cons_of_pos renamed,
        List.find?_cons_of_pos isLocal, Option.map_some]
    · rw [setLocalUuid_other isLocal, List.find?_cons_of_neg isLocal,
        List.find?_cons_of_neg isLocal, ih]

theorem others_setLocalUuid (uuid : Json) (stored : List Agent) :
    (setLocalUuid uuid stored).filter (fun a => !a.isLocal) =
      stored.filter fun a => !a.isLocal := by
  induction stored with
  | nil => rfl
  | cons first rest ih =>
    by_cases isLocal : first.isLocal = true
    · have renamed : { first with uuid }.isLocal = true := isLocal
      rw [setLocalUuid_local isLocal, List.filter_cons_of_neg (by simp [renamed]),
        List.filter_cons_of_neg (by simp [isLocal])]
    · rw [setLocalUuid_other isLocal, List.filter_cons_of_pos (by simp [isLocal]),
        List.filter_cons_of_pos (by simp [isLocal]), ih]

theorem setLocalUuid_self {uuid : Json} (same : ∀ a, local? agents = some a → a.uuid = uuid) :
    setLocalUuid uuid agents = agents := by
  unfold local? at same
  induction agents with
  | nil => rfl
  | cons first rest ih =>
    by_cases isLocal : first.isLocal = true
    · have id := same first (List.find?_cons_of_pos isLocal)
      rw [setLocalUuid_local isLocal, ← id]
    · rw [List.find?_cons_of_neg isLocal] at same
      rw [setLocalUuid_other isLocal, ih same]

/-- Only the agents that are not local are looked up by name. -/
theorem known?_eq (stored : List Agent) (name : Json) :
    known? stored name =
      (stored.filter fun a => !a.isLocal).reverse.find? fun a => a.name.sameKey name := by
  rw [known?, ← List.filter_reverse, List.find?_filter]
  simp only [Bool.decide_and, Bool.decide_eq_true]

theorem ours_setLocalUuid (uuid : Json) (stored : List Agent) (info : Listed) :
    ours (setLocalUuid uuid stored) info = ours stored info := by
  unfold ours
  rw [local?_setLocalUuid, Option.any_map]

theorem entry_setLocalUuid (uuid : Json) (stored : List Agent) :
    entry (setLocalUuid uuid stored) = entry stored := by
  funext v
  have known (name : Json) : known? (setLocalUuid uuid stored) name = known? stored name := by
    rw [known?_eq, known?_eq, others_setLocalUuid]
  simp only [entry, ours_setLocalUuid, record, known]

theorem fits_setLocalUuid (uuid : Json) (stored : List Agent) :
    fits (setLocalUuid uuid stored) = fits stored := by
  funext v
  rw [fits, fits, entry_setLocalUuid]

theorem localId?_setLocalUuid (uuid : Json) (stored : List Agent) :
    localId? (setLocalUuid uuid stored) = localId? stored := by
  funext v
  simp only [localId?, ours_setLocalUuid]

theorem local?_identified (stored : List Agent) (entries : List Json) :
    local? (identified stored entries) = (local? stored).map fun a =>
      { a with uuid := (entries.filterMap (localId? stored)).getLast?.getD a.uuid } := by
  unfold identified
  cases (entries.filterMap (localId? stored)).getLast? with
  | none => simp
  | some uuid => exact local?_setLocalUuid uuid stored

/-! ## One record -/

/-- How an agent of that name was set up, as far as it is known here: when it was created, and the
way to reach it. -/
def setup (stored : List Agent) (name : Json) : Except ShapeFault (Json × Json) :=
  match known? stored name with
  | none => .ok (.str "", .obj [])
  | some known => (copyObject known.ssh).map fun ssh => (known.created, ssh)

def Listed.recorded (info : Listed) (set : Json × Json) : Agent :=
  { name := info.name, uuid := info.uuid, host := info.host, created := set.1, ssh := set.2 }

theorem record_eq_ok {a : Agent} :
    record stored info = .ok a ↔ isPlain info.name = true ∧
      ∃ set, setup stored info.name = .ok set ∧ a = info.recorded set := by
  unfold record setup
  by_cases plain : isPlain info.name = true
  · rw [plain, and_iff_right rfl]
    cases known? stored info.name with
    | none => simp [Listed.recorded, eq_comm]
    | some known =>
      cases copied : copyObject known.ssh with
      | error fault => simp [Except.map, copied, bind, Except.bind]
      | ok ssh =>
        simp [Except.map, copied, bind, Except.bind, pure, Except.pure, Listed.recorded, eq_comm]
  · simp [plain]

theorem obj_of_copyObject {w : Json} (copied : copyObject v = .ok w) :
    ∃ members, w = .obj members := by
  cases v with
  | obj members =>
    cases copied
    exact ⟨members, rfl⟩
  | arr | str =>
    obtain ⟨pairs, -, same⟩ := bind_eq_ok.1 copied
    cases same
    exact ⟨_, rfl⟩
  | _ => cases copied

/-- What was copied once is copied as it is. -/
theorem copyObject_again {w : Json} (copied : copyObject v = .ok w) : copyObject w = .ok w := by
  obtain ⟨members, rfl⟩ := obj_of_copyObject copied
  rfl

theorem setup_copied {name : Json} {set : Json × Json} (h : setup stored name = .ok set) :
    copyObject set.2 = .ok set.2 := by
  unfold setup at h
  cases found : known? stored name with
  | none =>
    rw [found] at h
    cases h
    rfl
  | some known =>
    rw [found] at h
    obtain ⟨ssh, copied, rfl⟩ := map_eq_ok.1 h
    exact copyObject_again copied

/-! ## One entry -/

/-- How an entry comes to a fault, to an id for the local agent, or to a record. -/
inductive Comes (stored : List Agent) (v : Json) : Except ShapeFault (Option Agent) → Prop
  | unread {fault : ShapeFault} (read : listed v = .error fault) : Comes stored v (.error fault)
  | ours {info : Listed} (read : listed v = .ok info) (mine : ours stored info = true) :
      Comes stored v (.ok none)
  | unrecorded {info : Listed} {fault : ShapeFault} (read : listed v = .ok info)
      (other : ¬ours stored info = true) (recorded : record stored info = .error fault) :
      Comes stored v (.error fault)
  | made {info : Listed} {a : Agent} (read : listed v = .ok info)
      (other : ¬ours stored info = true) (recorded : record stored info = .ok a) :
      Comes stored v (.ok (some a))

theorem entry_comes (stored : List Agent) (v : Json) : Comes stored v (entry stored v) := by
  unfold entry
  cases read : listed v with
  | error fault => exact .unread read
  | ok info =>
    simp only []
    by_cases mine : ours stored info = true
    · rw [if_pos mine]
      exact .ours read mine
    · rw [if_neg mine]
      cases recorded : record stored info with
      | error fault => exact .unrecorded read mine recorded
      | ok a => exact .made read mine recorded

theorem localId?_ours (read : listed v = .ok info) (mine : ours stored info = true) :
    localId? stored v = some info.uuid := by
  rw [localId?, read]
  exact if_pos mine

theorem localId?_other (read : listed v = .ok info) (other : ¬ours stored info = true) :
    localId? stored v = none := by
  rw [localId?, read]
  exact if_neg other

theorem go_unread (read : listed v = .error fault) (rest : List Json) :
    go stored (v :: rest) = (.error fault, stored) := by
  rw [go, read]

theorem go_ours (read : listed v = .ok info) (mine : ours stored info = true) (rest : List Json) :
    go stored (v :: rest) = go (setLocalUuid info.uuid stored) rest := by
  rw [go, read]
  exact if_pos mine

theorem go_unrecorded (read : listed v = .ok info) (other : ¬ours stored info = true)
    (recorded : record stored info = .error fault) (rest : List Json) :
    go stored (v :: rest) = (.error fault, stored) := by
  rw [go, read]
  exact (if_neg other).trans (by rw [recorded])

theorem go_made {a : Agent} (read : listed v = .ok info) (other : ¬ours stored info = true)
    (recorded : record stored info = .ok a) (rest : List Json) :
    go stored (v :: rest) = ((go stored rest).1.map (a :: ·), (go stored rest).2) := by
  rw [go, read]
  refine (if_neg other).trans ?_
  rw [recorded]
  obtain ⟨_ | _, _⟩ := go stored rest <;> rfl

/-! ## Going through the entries -/

theorem identified_other (other : localId? stored v = none) (entries : List Json) :
    identified stored (v :: entries) = identified stored entries := by
  unfold identified
  rw [List.filterMap_cons_none other]

theorem identified_ours (id : localId? stored v = some uuid) (entries : List Json) :
    identified stored (v :: entries) = identified (setLocalUuid uuid stored) entries := by
  unfold identified
  rw [List.filterMap_cons_some id, localId?_setLocalUuid, List.getLast?_cons]
  cases (entries.filterMap (localId? stored)).getLast? with
  | none => rfl
  | some later => exact (setLocalUuid_again later uuid stored).symm

/-- The records are those of the entries one by one, and an entry that does not fit ends it. -/
theorem go_eq (stored : List Agent) (backend : List Json) :
    go stored backend = ((backend.mapM (entry stored)).map (List.filterMap id),
      identified stored (backend.takeWhile (fits stored))) := by
  induction backend generalizing stored with
  | nil => rfl
  | cons v rest ih =>
    rw [List.mapM_cons, List.takeWhile_cons, fits]
    have comes := entry_comes stored v
    generalize entry stored v = came at comes
    cases comes with
    | unread read =>
      rw [go_unread read]
      rfl
    | unrecorded read other recorded =>
      rw [go_unrecorded read other recorded]
      rfl
    | ours read mine =>
      rw [go_ours read mine, ih, entry_setLocalUuid, fits_setLocalUuid,
        ← identified_ours (localId?_ours read mine)]
      cases rest.mapM (entry stored) <;> rfl
    | made read other recorded =>
      have kept (entries : List Json) := identified_other (localId?_other read other) entries
      rw [go_made read other recorded, ih, ← kept]
      cases rest.mapM (entry stored) <;> rfl

/-! ## The whole list -/

/-- Whether the agents that are not local have names to be looked up by. -/
def Named (stored : List Agent) : Prop := ∀ a ∈ stored, a.isLocal = false → isPlain a.name = true

theorem named_iff :
    Named stored ↔ ¬(stored.any fun a => !a.isLocal && !isPlain a.name) = true := by
  simp [Named]

theorem merge_unnamed (h : ¬Named stored) (backend : List Json) :
    merge stored backend = (.error .notPlain, stored) := by
  rw [named_iff, Decidable.not_not] at h
  rw [merge, if_pos h]

theorem merge_named (h : Named stored) (backend : List Json) :
    merge stored backend =
      ((go stored backend).1.map (· ++ (local? (go stored backend).2).toList),
        (go stored backend).2) := by
  rw [merge, if_neg (named_iff.1 h)]
  obtain ⟨_ | _, _⟩ := go stored backend <;> rfl

theorem fits_iff : fits stored v = true ↔ ∃ out, entry stored v = .ok out := by
  unfold fits
  cases entry stored v <;> simp [Except.isOk, Except.toBool]

/-- A merge that comes to its end made a record of every entry that is not the local agent's. -/
theorem merge_eq_ok :
    merge stored backend = (.ok agents, after) ↔
      Named stored ∧ ∃ outs, backend.mapM (entry stored) = .ok outs ∧
        after = identified stored backend ∧
        agents = outs.filterMap id ++ (local? after).toList := by
  by_cases named : Named stored
  · rw [merge_named named, go_eq, and_iff_right named]
    cases came : backend.mapM (entry stored) with
    | error fault => simp [Except.map]
    | ok outs =>
      have all : backend.takeWhile (fits stored) = backend := by
        rw [List.takeWhile_eq_self_iff]
        intro w mem
        obtain ⟨out, -, fit⟩ := ok_of_mapM came mem
        exact fits_iff.2 ⟨out, fit⟩
      rw [all]
      constructor
      · intro merged
        cases merged
        exact ⟨outs, rfl, rfl, rfl⟩
      · rintro ⟨outs, same, rfl, rfl⟩
        cases same
        rfl
  · rw [merge_unnamed named]
    simp [named]

/-- A merge fails for a stored name, or at the first entry that does not fit. -/
theorem merge_eq_error :
    merge stored backend = (.error fault, after) ↔
      ¬Named stored ∧ fault = .notPlain ∧ after = stored ∨
      Named stored ∧ ∃ before v later, backend = before ++ v :: later ∧
        (∀ w ∈ before, ∃ out, entry stored w = .ok out) ∧ entry stored v = .error fault ∧
        after = identified stored before := by
  by_cases named : Named stored
  · rw [merge_named named, go_eq]
    have reached {before later : List Json} {v : Json} {fault : ShapeFault}
        (fit : ∀ w ∈ before, ∃ out, entry stored w = .ok out)
        (unfit : entry stored v = .error fault) :
        (before ++ v :: later).takeWhile (fits stored) = before := by
      rw [List.takeWhile_append_of_pos fun w mem => fits_iff.2 (fit w mem),
        List.takeWhile_cons_of_neg (by simp [fits_iff, unfit]), List.append_nil]
    constructor
    · intro merged
      cases came : backend.mapM (entry stored) with
      | ok outs => rw [came] at merged; cases merged
      | error other =>
        rw [came] at merged
        cases merged
        obtain ⟨before, v, later, rfl, fit, unfit⟩ := mapM_eq_error.1 came
        exact .inr ⟨named, before, v, later, rfl, fit, unfit, by rw [reached fit unfit]⟩
    · rintro (⟨unnamed, -⟩ | ⟨-, before, v, later, rfl, fit, unfit, rfl⟩)
      · exact absurd named unnamed
      · rw [mapM_eq_error.2 ⟨before, v, later, rfl, fit, unfit⟩, reached fit unfit]
        rfl
  · rw [merge_unnamed named]
    simp [named, eq_comm]

/-! ## The records of a merge -/

theorem entry_eq_record (h : entry stored v = .ok (some a)) :
    ∃ info, listed v = .ok info ∧ ¬ours stored info = true ∧ record stored info = .ok a := by
  have comes := entry_comes stored v
  rw [h] at comes
  cases comes with
  | made read other recorded => exact ⟨_, read, other, recorded⟩

theorem mem_records (came : backend.mapM (entry stored) = .ok outs) :
    a ∈ outs.filterMap id ↔ ∃ v ∈ backend, entry stored v = .ok (some a) := by
  rw [List.mem_filterMap]
  constructor
  · rintro ⟨out, mem, rfl⟩
    exact mem_of_mapM came mem
  · rintro ⟨v, mem, made⟩
    obtain ⟨out, mem', made'⟩ := ok_of_mapM came mem
    rw [made] at made'
    cases made'
    exact ⟨some a, mem', rfl⟩

theorem records_remote (came : backend.mapM (entry stored) = .ok outs)
    (mem : a ∈ outs.filterMap id) : a.isLocal = false := by
  obtain ⟨v, -, made⟩ := (mem_records came).1 mem
  obtain ⟨info, -, -, recorded⟩ := entry_eq_record made
  obtain ⟨-, set, -, rfl⟩ := record_eq_ok.1 recorded
  rfl

theorem isLocal_of_local? (found : local? stored = some a) : a.isLocal = true :=
  List.find?_some (p := Agent.isLocal) found

/-- Behind the records stands the local agent, and no other is local. -/
theorem local?_merged (came : backend.mapM (entry stored) = .ok outs) (after : List Agent) :
    local? (outs.filterMap id ++ (local? after).toList) = local? after := by
  have none : (outs.filterMap id).find? (·.isLocal) = none := by
    rw [List.find?_eq_none]
    intro a mem
    rw [records_remote came mem]
    exact Bool.false_ne_true
  rw [local?, List.find?_append, none, Option.none_or]
  cases found : local? after with
  | none => rfl
  | some a => exact List.find?_cons_of_pos (isLocal_of_local? found)

theorem others_merged (came : backend.mapM (entry stored) = .ok outs) (after : List Agent) :
    (outs.filterMap id ++ (local? after).toList).filter (fun a => !a.isLocal) =
      outs.filterMap id := by
  have none : (local? after).toList.filter (fun a => !a.isLocal) = [] := by
    rw [List.filter_eq_nil_iff]
    intro a mem
    rw [isLocal_of_local? (Option.mem_toList.1 mem)]
    exact Bool.false_ne_true
  rw [List.filter_append, none, List.append_nil, List.filter_eq_self]
  intro a mem
  rw [records_remote came mem]
  rfl

end EdgeSession.Reconcile
