/-!
Calls one after another, of which the first that fails ends them all.
-/
namespace EdgeSession

variable {ε α β γ : Type}

theorem bind_eq_ok {x : Except ε α} {f : α → Except ε β} {b : β} :
    x >>= f = .ok b ↔ ∃ a, x = .ok a ∧ f a = .ok b := by
  cases x <;> simp [bind, Except.bind]

theorem bind_eq_error {x : Except ε α} {f : α → Except ε β} {e : ε} :
    x >>= f = .error e ↔ x = .error e ∨ ∃ a, x = .ok a ∧ f a = .error e := by
  cases x <;> simp [bind, Except.bind]

theorem map_eq_ok {x : Except ε α} {f : α → β} {b : β} :
    x.map f = .ok b ↔ ∃ a, x = .ok a ∧ f a = b := by
  cases x <;> simp [Except.map]

theorem toOption_eq_some {x : Except ε α} {a : α} : x.toOption = some a ↔ x = .ok a := by
  cases x <;> simp [Except.toOption]

/-- A list that is written item by item is read item by item. -/
theorem mapM_written {read : β → Except ε α} {write : α → β}
    (each : ∀ a, read (write a) = .ok a) (l : List α) : (l.map write).mapM read = .ok l := by
  induction l with
  | nil => rfl
  | cons a l ih =>
    rw [List.map_cons, List.mapM_cons, each, ih]
    rfl

theorem exists_mapM {read : α → Except ε β} {P : β → Prop} {l : List α}
    (each : ∀ a ∈ l, ∃ b, read a = .ok b ∧ P b) :
    ∃ out, l.mapM read = .ok out ∧ ∀ b ∈ out, P b := by
  induction l with
  | nil => exact ⟨[], rfl, fun b mem => by cases mem⟩
  | cons a l ih =>
    obtain ⟨first, one, fits⟩ := each a List.mem_cons_self
    obtain ⟨others, all, fit⟩ := ih fun b mem => each b (List.mem_cons_of_mem _ mem)
    refine ⟨first :: others, ?_, ?_⟩
    · rw [List.mapM_cons, one, all]
      rfl
    · rintro b (_ | ⟨_, mem⟩)
      · exact fits
      · exact fit b mem

theorem mem_of_mapM {read : α → Except ε β} {l : List α} {out : List β} (h : l.mapM read = .ok out)
    {b : β} (mem : b ∈ out) : ∃ a ∈ l, read a = .ok b := by
  induction l generalizing out with
  | nil =>
    cases h
    cases mem
  | cons a l ih =>
    simp only [List.mapM_cons, bind_eq_ok] at h
    obtain ⟨first, one, others, all, same⟩ := h
    cases same
    rcases List.mem_cons.mp mem with rfl | later
    · exact ⟨a, List.mem_cons_self, one⟩
    · obtain ⟨source, known, read⟩ := ih all later
      exact ⟨source, List.mem_cons_of_mem _ known, read⟩

/-- The first call that fails decides. -/
theorem mapM_eq_error {read : α → Except ε β} {l : List α} {fault : ε} :
    l.mapM read = .error fault ↔ ∃ before a later, l = before ++ a :: later ∧
      (∀ b ∈ before, ∃ out, read b = .ok out) ∧ read a = .error fault := by
  induction l with
  | nil =>
    rw [List.mapM_nil]
    constructor
    · intro h
      cases h
    · rintro ⟨before, a, later, empty, -, -⟩
      simp at empty
  | cons a l ih =>
    rw [List.mapM_cons]
    cases one : read a with
    | error first =>
      constructor
      · intro h
        cases h
        exact ⟨[], a, l, rfl, nofun, one⟩
      · rintro ⟨before, b, later, split, fit, failed⟩
        cases before with
        | nil =>
          cases split
          rw [failed] at one
          cases one
          rfl
        | cons first before =>
          cases split
          obtain ⟨out, fine⟩ := fit _ List.mem_cons_self
          rw [fine] at one
          cases one
    | ok first =>
      have rest : (do let later ← l.mapM read; pure (first :: later) : Except ε (List β)) =
          .error fault ↔ l.mapM read = .error fault := by
        cases l.mapM read <;> simp [bind, Except.bind, pure, Except.pure]
      refine rest.trans (ih.trans ?_)
      constructor
      · rintro ⟨before, b, later, rfl, fit, failed⟩
        refine ⟨a :: before, b, later, rfl, ?_, failed⟩
        rintro c (_ | ⟨_, mem⟩)
        · exact ⟨first, one⟩
        · exact fit c mem
      · rintro ⟨before, b, later, split, fit, failed⟩
        cases before with
        | nil =>
          cases split
          rw [failed] at one
          cases one
        | cons c before =>
          cases split
          exact ⟨before, b, later, rfl, fun d mem => fit d (List.mem_cons_of_mem _ mem), failed⟩

theorem ok_of_mapM {read : α → Except ε β} {l : List α} {out : List β} (h : l.mapM read = .ok out)
    {a : α} (mem : a ∈ l) : ∃ b ∈ out, read a = .ok b := by
  induction l generalizing out with
  | nil => cases mem
  | cons first l ih =>
    simp only [List.mapM_cons, bind_eq_ok] at h
    obtain ⟨b, one, others, all, same⟩ := h
    cases same
    rcases List.mem_cons.mp mem with rfl | later
    · exact ⟨b, List.mem_cons_self, one⟩
    · obtain ⟨c, known, read⟩ := ih all later
      exact ⟨c, List.mem_cons_of_mem _ known, read⟩

/-- What each call keeps of its item is kept of the list. -/
theorem map_of_mapM {read : α → Except ε β} {before : α → γ} {after : β → γ}
    (kept : ∀ {a b}, read a = .ok b → after b = before a) {l : List α} {out : List β}
    (h : l.mapM read = .ok out) : out.map after = l.map before := by
  induction l generalizing out with
  | nil =>
    cases h
    rfl
  | cons a l ih =>
    simp only [List.mapM_cons, bind_eq_ok] at h
    obtain ⟨first, one, others, all, same⟩ := h
    cases same
    rw [List.map_cons, List.map_cons, kept one, ih all]

theorem mapM_congr {read other : α → Except ε β} {l : List α}
    (same : ∀ a ∈ l, read a = other a) : l.mapM read = l.mapM other := by
  induction l with
  | nil => rfl
  | cons a l ih =>
    rw [List.mapM_cons, List.mapM_cons, same a List.mem_cons_self,
      ih fun b mem => same b (List.mem_cons_of_mem _ mem)]

end EdgeSession
