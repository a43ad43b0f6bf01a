import EdgeSession.Proofs.ControlPlane.Entries
import EdgeSession.Proofs.Json.Keys

/-!
A merge made once more. The agents that a merge gives have the setup that the stored ones had, under
every name that the list has; so with the same list they are merged to what they are.
-/
namespace EdgeSession.Reconcile

open Config

variable {stored agents : List Agent} {backend : List Json} {outs : List (Option Agent)} {v : Json}
  {info : Listed} {a : Agent}

theorem isPlain_iff : isPlain v = true ↔ v.key? ≠ none := by
  cases v <;> simp [isPlain, Json.key?, Json.number?]

/-- Names that are the same find the same agent. -/
theorem known?_congr {name other : Json} (plain : isPlain name = true)
    (same : name.key? = other.key?) (stored : List Agent) :
    known? stored name = known? stored other := by
  have plain' : other.key? ≠ none := same ▸ isPlain_iff.1 plain
  rw [known?_eq, known?_eq]
  congr 1
  funext a
  rw [Bool.eq_iff_iff, Json.sameKey_iff (isPlain_iff.1 plain), Json.sameKey_iff plain', same]

theorem setup_congr {name other : Json} (plain : isPlain name = true)
    (same : name.key? = other.key?) (stored : List Agent) :
    setup stored name = setup stored other := by
  rw [setup, setup, known?_congr plain same]

/-- Whatever name an entry gave to a record, the setup found under it is found again. -/
theorem setup_again (came : backend.mapM (entry stored) = .ok outs) (after : List Agent)
    (mem : v ∈ backend) (made : entry stored v = .ok (some a)) :
    setup (outs.filterMap id ++ (local? after).toList) a.name = setup stored a.name := by
  obtain ⟨info, -, -, recorded⟩ := entry_eq_record made
  obtain ⟨plain, set, known, rfl⟩ := record_eq_ok.1 recorded
  have key : ∀ b : Agent, b.name.sameKey info.name = true ↔ b.name.key? = info.name.key? :=
    fun b => Json.sameKey_iff (isPlain_iff.1 plain)
  -- the record itself is one that can be found, but the last of its name counts
  have found : ((outs.filterMap id).reverse.find? fun b => b.name.sameKey info.name).isSome := by
    rw [List.find?_isSome]
    refine ⟨info.recorded set, ?_, (key _).2 rfl⟩
    exact List.mem_reverse.2 ((mem_records came).2 ⟨v, mem, made⟩)
  obtain ⟨last, found⟩ := Option.isSome_iff_exists.1 found
  have mem_last := List.mem_reverse.1 (List.mem_of_find?_eq_some found)
  have same : last.name.key? = info.name.key? :=
    (key last).1 (List.find?_some (p := fun b : Agent => b.name.sameKey info.name) found)
  obtain ⟨w, -, made'⟩ := (mem_records came).1 mem_last
  obtain ⟨info', -, -, recorded'⟩ := entry_eq_record made'
  obtain ⟨plain', set', known', rfl⟩ := record_eq_ok.1 recorded'
  calc setup (outs.filterMap id ++ (local? after).toList) info.name
      = (copyObject set'.2).map fun ssh => (set'.1, ssh) := by
        rw [setup, known?_eq, others_merged came, found]
        rfl
    _ = .ok set' := by rw [setup_copied known']; rfl
    _ = setup stored info'.name := known'.symm
    _ = setup stored info.name := setup_congr plain' same stored

theorem ours_congr (same : (local? agents).map (·.name) = (local? stored).map (·.name)) :
    ours agents = ours stored := by
  funext info
  have named (l : List Agent) :
      ours l info = ((local? l).map (·.name)).any fun name => info.name.same name := by
    rw [ours, Option.any_map]
  rw [named, named, same]

theorem named_merged (came : backend.mapM (entry stored) = .ok outs) (after : List Agent) :
    Named (outs.filterMap id ++ (local? after).toList) := by
  intro a mem remote
  have made : a ∈ outs.filterMap id := by
    rw [← others_merged came after, List.mem_filter, remote]
    exact ⟨mem, rfl⟩
  obtain ⟨v, -, made⟩ := (mem_records came).1 made
  obtain ⟨info, -, -, recorded⟩ := entry_eq_record made
  obtain ⟨plain, set, -, rfl⟩ := record_eq_ok.1 recorded
  exact plain

theorem entry_again (came : backend.mapM (entry stored) = .ok outs) (after : List Agent)
    (mine : ours (outs.filterMap id ++ (local? after).toList) = ours stored) (mem : v ∈ backend) :
    entry (outs.filterMap id ++ (local? after).toList) v = entry stored v := by
  obtain ⟨out, -, fit⟩ := ok_of_mapM came mem
  have comes := entry_comes stored v
  rw [fit] at comes
  cases comes with
  | ours read ours => rw [fit, entry, read]; exact if_pos (by rw [mine, ours])
  | made read other recorded =>
    obtain ⟨plain, set, known, rfl⟩ := record_eq_ok.1 recorded
    have known' := (setup_again came after mem fit).trans known
    rw [fit, entry, read]
    refine (if_neg (by rw [mine]; exact other)).trans ?_
    rw [record_eq_ok.2 ⟨plain, set, known', rfl⟩]
    rfl

/-- Agents that a merge gave are merged to what they are. -/
theorem merge_again (h : (merge stored backend).1 = .ok agents) :
    merge agents backend = (.ok agents, agents) := by
  have merged : merge stored backend = (.ok agents, (merge stored backend).2) := Prod.ext h rfl
  obtain ⟨-, outs, came, after, made⟩ := merge_eq_ok.1 merged
  rw [after] at made
  have first : local? agents = local? (identified stored backend) := by
    rw [made]
    exact local?_merged came _
  have mine : ours agents = ours stored := by
    apply ours_congr
    rw [first, local?_identified, Option.map_map]
    rfl
  have ids : localId? agents = localId? stored := by
    funext v
    rw [localId?, localId?, mine]
  have entries : ∀ v ∈ backend, entry agents v = entry stored v := by
    intro v mem
    rw [made] at mine ⊢
    exact entry_again came _ mine mem
  have unchanged : identified agents backend = agents := by
    rw [identified, ids]
    cases last : (backend.filterMap (localId? stored)).getLast? with
    | none => rfl
    | some uuid =>
      apply setLocalUuid_self
      intro a found
      rw [first, local?_identified, last, Option.map_eq_some_iff] at found
      obtain ⟨l, -, rfl⟩ := found
      rfl
  refine merge_eq_ok.2 ⟨made ▸ named_merged came _, outs, ?_, unchanged.symm, by rw [first, made]⟩
  rw [mapM_congr entries]
  exact came

end EdgeSession.Reconcile
