import EdgeSession.Json.Reader
import EdgeSession.Proofs.Json.Structure

/-!
In what is read no object has a name twice: of two members of one name the later value counts.
-/
namespace EdgeSession.Json

theorem names_insert (name : String) (v : Json) (members : List (String × Json)) :
    (insert name v members).map (·.1) =
      if name ∈ members.map (·.1) then members.map (·.1) else members.map (·.1) ++ [name] := by
  induction members with
  | nil => rfl
  | cons m members ih =>
    obtain ⟨other, w⟩ := m
    by_cases same : other = name
    · simp [insert, same]
    · rw [insert, if_neg (by simpa using same), List.map_cons, ih, List.map_cons]
      by_cases known : name ∈ members.map (·.1)
      · rw [if_pos known, if_pos (List.mem_cons_of_mem _ known)]
      · have new : name ∉ other :: members.map (·.1) := by
          rw [List.mem_cons, not_or]
          exact ⟨Ne.symm same, known⟩
        rw [if_neg known, if_neg new, List.cons_append]

theorem mem_insert {name : String} {v : Json} {members : List (String × Json)}
    {m : String × Json} (h : m ∈ insert name v members) : m = (name, v) ∨ m ∈ members := by
  induction members with
  | nil => exact .inl (List.mem_singleton.mp h)
  | cons head members ih =>
    obtain ⟨other, w⟩ := head
    by_cases same : other = name
    · rw [insert, if_pos (by simpa using same), same] at h
      exact (List.mem_cons.mp h).imp_right (List.mem_cons_of_mem _)
    · rw [insert, if_neg (by simpa using same)] at h
      rcases List.mem_cons.mp h with rfl | later
      · exact .inr List.mem_cons_self
      · exact (ih later).imp_right (List.mem_cons_of_mem _)

/-- Members with their names apart, throughout. -/
structure Apart (members : List (String × Json)) : Prop where
  names : (members.map (·.1)).Nodup
  values : ∀ m ∈ members, m.2.every namesApart = true

theorem Apart.nil : Apart [] := ⟨List.Pairwise.nil, List.forall_mem_nil _⟩

theorem Apart.obj {members : List (String × Json)} (h : Apart members) :
    (obj members).every namesApart = true :=
  every_obj.mpr ⟨decide_eq_true h.names, h.values⟩

theorem Apart.insert {members : List (String × Json)} (h : Apart members) (name : String) {v : Json}
    (value : v.every namesApart = true) : Apart (insert name v members) where
  names := by
    rw [names_insert]
    split
    · exact h.names
    · rename_i new
      rw [List.nodup_append]
      refine ⟨h.names, List.pairwise_singleton _ _, fun a mem b single same => new ?_⟩
      rw [← List.mem_singleton.mp single, ← same]
      exact mem
  values m mem := by
    rcases mem_insert mem with rfl | old
    · exact value
    · exact h.values m old

/-! ## The readers -/

theorem apart_of_readWord? {c after : Cursor} {v : Json} (h : readWord? c = some (v, after)) :
    v.every namesApart = true := by
  obtain ⟨word, found, same⟩ := Option.map_eq_some_iff.mp h
  have words : ∀ w ∈ wordValues, w.2.every namesApart = true := by decide
  cases same
  exact words _ (List.mem_of_find?_eq_some found)

theorem apart_of_readNumber {c after : Cursor} {v : Json} (h : readNumber c = .ok (v, after)) :
    v.every namesApart = true := by
  simp only [readNumber] at h
  split at h
  · cases h
  · split at h
    · split at h
      · cases h
      · cases h
        rfl
    · cases h
      rfl

/-- What the readers give within some number of calls. -/
structure ReadsApart (fuel : Nat) : Prop where
  value : ∀ {c v after}, readValue fuel c = .ok (v, after) → v.every namesApart = true
  items : ∀ {c acc v after}, (∀ w ∈ acc, every namesApart w = true) →
    readItems fuel acc c = .ok (v, after) → v.every namesApart = true
  members : ∀ {c acc v after}, Apart acc →
    readMembers fuel acc c = .ok (v, after) → v.every namesApart = true

section
variable {fuel : Nat} {c after : Cursor} {v : Json}

theorem ReadsApart.readValue (h : ReadsApart fuel)
    (read : readValue (fuel + 1) c = .ok (v, after)) : v.every namesApart = true := by
  rw [Json.readValue] at read
  split at read
  · split at read
    · cases read
    · cases read
      rfl
  · simp only at read
    split at read
    · cases read
      rfl
    · exact h.members .nil read
  · simp only at read
    split at read
    · cases read
      rfl
    · exact h.items (List.forall_mem_nil _) read
  · split at read
    · cases read
      exact apart_of_readWord? ‹_›
    · exact apart_of_readNumber read

theorem ReadsApart.readItems (h : ReadsApart fuel) {acc : List Json}
    (before : ∀ w ∈ acc, every namesApart w = true)
    (read : readItems (fuel + 1) acc c = .ok (v, after)) : v.every namesApart = true := by
  rw [Json.readItems] at read
  split at read
  · cases read
  · rename_i item next item_read
    have all : ∀ w ∈ item :: acc, every namesApart w = true :=
      List.forall_mem_cons.mpr ⟨h.value item_read, before⟩
    simp only at read
    split at read
    · cases read
      exact every_arr.mpr ⟨rfl, fun w mem => all w (List.mem_reverse.mp mem)⟩
    · exact h.items all read
    · cases read

theorem ReadsApart.readMembers (h : ReadsApart fuel) {acc : List (String × Json)}
    (before : Apart acc) (read : readMembers (fuel + 1) acc c = .ok (v, after)) :
    v.every namesApart = true := by
  rw [Json.readMembers] at read
  split at read
  · split at read
    · cases read
    · simp only at read
      split at read
      · split at read
        · cases read
        · rename_i value _ value_read
          have all := before.insert ‹String› (h.value value_read)
          split at read
          · cases read
            exact all.obj
          · exact h.members all read
          · cases read
      · cases read
  · cases read

end

theorem readsApart (fuel : Nat) : ReadsApart fuel := by
  induction fuel with
  | zero =>
    constructor
    · intro c v after read
      cases read
    · intro c acc v after _ read
      cases read
    · intro c acc v after _ read
      cases read
  | succ fuel ih => exact ⟨ih.readValue, ih.readItems, ih.readMembers⟩

/-- No object in a value that is read has a name twice. -/
theorem parse_apart {text : List Char} {v : Json} (h : parse text = .ok v) :
    v.every namesApart = true := by
  unfold parse parseValue at h
  split at h
  · cases h
  · split at h
    · cases h
    · rename_i read
      simp only at h
      split at h
      · cases h
        exact (readsApart _).value read
      · cases h

end EdgeSession.Json
