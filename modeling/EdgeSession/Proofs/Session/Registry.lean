import EdgeSession.Session.Registry
import Mathlib.Data.List.Basic

/-!
The records that a registry holds, and what each operation makes of them: which record a session id
stands for, and in which order the ids are listed. A record that is registered under an id of its
own, and dropped again, leaves no trace.
-/
namespace EdgeSession.Registry

/-- Whatever is registered is a record that was made. -/
def Sound (r : Registry) : Prop := ∀ n ∈ r.live, n < r.records.length

/-- The records that are registered, in order. -/
def held (r : Registry) : List Record := r.live.filterMap r.record?

def session? (r : Registry) (number : Nat) : Option String := (r.record? number).map (·.session)

/-- The ids that are registered, in order. -/
def ids (r : Registry) : List String := r.live.filterMap r.session?

/-- The session id stands for the record. -/
def StandsFor (r : Registry) (session : String) (number : Nat) : Prop :=
  number ∈ r.live ∧ r.session? number = some session

/-- No session that is registered has the id. -/
def Fresh (r : Registry) (session : String) : Prop := ∀ record ∈ r.held, record.session ≠ session

variable {r : Registry} {record : Record} {session : String} {n number : Nat}

theorem names_iff : r.names session n = true ↔ r.session? n = some session := by
  unfold names session?
  cases r.record? n <;> simp

theorem session?_made (made : r.record? n = some record) : r.session? n = some record.session := by
  rw [session?, made]
  rfl

theorem mem_ids : session ∈ r.ids ↔ ∃ n, r.StandsFor session n := List.mem_filterMap

/-- A record that is made is put behind all that were made, which it leaves alone. -/
theorem record?_make (other : n ≠ r.records.length) (record : Record) :
    (r.make record).record? n = r.record? n := by
  unfold record? make
  rcases Nat.lt_or_gt_of_ne other with below | above
  · exact List.getElem?_append_left below
  · have past : (r.records ++ [record]).length ≤ n := by
      rw [List.length_append]
      exact above
    rw [List.getElem?_eq_none past, List.getElem?_eq_none (Nat.le_of_lt above)]

theorem record?_make_new (r : Registry) (record : Record) :
    (r.make record).record? r.records.length = some record :=
  List.getElem?_concat_length

@[simp] theorem records_enter (r : Registry) (number : Nat) :
    (r.enter number).records = r.records := by
  unfold enter
  split <;> rfl

@[simp] theorem record?_enter (r : Registry) (number : Nat) :
    (r.enter number).record? n = r.record? n := by
  simp only [record?, records_enter]

@[simp] theorem session?_enter (r : Registry) (number : Nat) :
    (r.enter number).session? n = r.session? n := by
  simp only [session?, record?_enter]

@[simp] theorem names_enter (r : Registry) (number : Nat) :
    (r.enter number).names session n = r.names session n := by
  simp only [names, record?_enter]

/-- Who holds a record keeps it active. -/
theorem record?_touch (r : Registry) (number : Nat) (now : Float) :
    (r.touch number now).record? n =
      (r.record? n).map fun record =>
        if number = n then { record with lastActivity := now } else record := by
  unfold record? touch
  rw [List.getElem?_modify]
  rfl

@[simp] theorem session?_touch (r : Registry) (number : Nat) (now : Float) :
    (r.touch number now).session? n = r.session? n := by
  unfold session?
  rw [record?_touch, Option.map_map]
  congr 1
  funext record
  simp only [Function.comp]
  split <;> rfl

/-- A record that is registered takes the place of the one with its session id, or the last. -/
theorem live_enter (made : r.record? number = some record) :
    (r.enter number).live =
      if r.live.any (r.names record.session) then
        r.live.map fun n => if r.names record.session n then number else n
      else r.live ++ [number] := by
  simp only [enter, made]

/-- Registered are then that record, and those with another session id. -/
theorem mem_enter (made : r.record? number = some record) :
    n ∈ (r.enter number).live ↔ n = number ∨ n ∈ r.live ∧ r.names record.session n = false := by
  rw [live_enter made]
  split
  next taken =>
    obtain ⟨old, live, named⟩ := List.any_eq_true.1 taken
    simp only [List.mem_map]
    constructor
    · rintro ⟨m, live, rfl⟩
      cases named : r.names record.session m with
      | true => exact .inl (if_pos rfl)
      | false => exact .inr ⟨live, named⟩
    · rintro (rfl | ⟨live, unnamed⟩)
      · exact ⟨old, live, if_pos named⟩
      · exact ⟨n, live, by simp [unnamed]⟩
  next free =>
    have unnamed : ∀ m ∈ r.live, r.names record.session m = false := by simpa using free
    rw [List.mem_append, List.mem_singleton, or_comm]
    exact or_congr_right (and_iff_left_of_imp (unnamed n)).symm

theorem Sound.session?_make (sound : r.Sound) (live : n ∈ r.live) (record : Record) :
    (r.make record).session? n = r.session? n := by
  unfold session?
  rw [record?_make (Nat.ne_of_lt (sound n live))]

theorem Sound.names_make (sound : r.Sound) (live : n ∈ r.live) (record : Record) :
    (r.make record).names session n = r.names session n := by
  unfold names
  rw [record?_make (Nat.ne_of_lt (sound n live))]

theorem Sound.standsFor_make (sound : r.Sound) (record : Record) :
    (r.make record).StandsFor session n ↔ r.StandsFor session n :=
  and_congr_right fun live => by rw [sound.session?_make live]

/-- The id of a record that is registered stands for it, whatever it stood for before. -/
theorem standsFor_enter (made : r.record? number = some record) :
    (r.enter number).StandsFor session n ↔
      if record.session = session then n = number else r.StandsFor session n := by
  have own : r.session? number = some record.session := session?_made made
  unfold StandsFor
  rw [mem_enter made, session?_enter, ← Bool.not_eq_true, names_iff]
  split
  next same =>
    subst same
    constructor
    · rintro ⟨rfl | ⟨-, other⟩, named⟩
      · rfl
      · exact absurd named other
    · rintro rfl
      exact ⟨.inl rfl, own⟩
  next other =>
    constructor
    · rintro ⟨rfl | ⟨live, -⟩, named⟩
      · exact absurd (Option.some.inj (own.symm.trans named)) other
      · exact ⟨live, named⟩
    · rintro ⟨live, named⟩
      exact ⟨.inr ⟨live, by simpa [named] using Ne.symm other⟩, named⟩

theorem standsFor_remove {other : String} :
    (r.remove session).StandsFor other n ↔ session ≠ other ∧ r.StandsFor other n := by
  have left : n ∈ (r.remove session).live ↔ n ∈ r.live ∧ ¬r.session? n = some session := by
    simp only [remove, List.mem_filter, Bool.not_eq_true', ← Bool.not_eq_true, names_iff]
  have same : (r.remove session).session? n = r.session? n := rfl
  rw [StandsFor, StandsFor, left, same]
  constructor
  · rintro ⟨⟨live, other⟩, named⟩
    exact ⟨fun same => other (same ▸ named), live, named⟩
  · rintro ⟨other, live, named⟩
    exact ⟨⟨live, by simpa [named] using Ne.symm other⟩, named⟩

theorem standsFor_touch {now : Float} :
    (r.touch number now).StandsFor session n ↔ r.StandsFor session n := by
  simp only [StandsFor, session?_touch]
  rfl

theorem standsFor_sweep {timeout now : Float} :
    (r.sweep timeout now).2.StandsFor session n ↔
      r.isIdle timeout now n = false ∧ r.StandsFor session n := by
  have left : n ∈ (r.sweep timeout now).2.live ↔ n ∈ r.live ∧ r.isIdle timeout now n = false := by
    simp only [sweep, List.mem_filter, Bool.not_eq_true']
  have same : (r.sweep timeout now).2.session? n = r.session? n := rfl
  rw [StandsFor, StandsFor, left, same, and_assoc]
  exact and_left_comm

/-- Swept are the ids of the idle. -/
theorem mem_sweep {timeout now : Float} :
    session ∈ (r.sweep timeout now).1 ↔
      ∃ n, r.isIdle timeout now n = true ∧ r.StandsFor session n := by
  simp only [sweep, List.mem_filterMap, List.mem_filter, StandsFor, and_assoc]
  exact exists_congr fun n => and_left_comm

/-- Whoever is left by a sweep is not idle. -/
theorem sweep_again (r : Registry) (timeout now : Float) :
    (r.sweep timeout now).2.sweep timeout now = ([], (r.sweep timeout now).2) := by
  have same : (r.sweep timeout now).2.isIdle = r.isIdle := rfl
  have busy : ∀ n ∈ (r.sweep timeout now).2.live, r.isIdle timeout now n = false := by
    intro n left
    simpa using (List.mem_filter.1 left).2
  have none : (r.sweep timeout now).2.live.filter (r.isIdle timeout now) = [] :=
    List.filter_eq_nil_iff.2 fun n left => by simp [busy n left]
  have all : (r.sweep timeout now).2.live.filter (fun n => !r.isIdle timeout now n) =
      (r.sweep timeout now).2.live :=
    List.filter_eq_self.2 fun n left => by simp [busy n left]
  generalize (r.sweep timeout now).2 = left at same none all
  unfold sweep
  rw [same, none, all]
  rfl

/-- An id that is registered again keeps its place. -/
theorem ids_enter (made : r.record? number = some record) :
    (r.enter number).ids =
      if record.session ∈ r.ids then r.ids else r.ids ++ [record.session] := by
  have own : r.session? number = some record.session := session?_made made
  have same : (r.enter number).session? = r.session? := funext fun n => session?_enter r number
  have any : r.live.any (r.names record.session) = true ↔ record.session ∈ r.ids := by
    simp only [List.any_eq_true, names_iff, mem_ids, StandsFor]
  have listed : (r.enter number).ids = (r.enter number).live.filterMap r.session? := by
    rw [ids, same]
  rw [listed, live_enter made]
  simp only [any]
  split
  · rw [List.filterMap_map]
    refine List.filterMap_congr fun n _ => ?_
    simp only [Function.comp]
    split
    next named => rw [own, names_iff.1 named]
    next => rfl
  · rw [List.filterMap_append]
    simp [own, ids]

/-- Where some go, the others keep their order. -/
theorem ids_sublist {r' : Registry} (records : r'.records = r.records)
    (live : r'.live.Sublist r.live) : r'.ids.Sublist r.ids := by
  have same : r'.session? = r.session? := by
    unfold session? record?
    rw [records]
  unfold ids
  rw [same]
  exact live.filterMap _

theorem Sound.make (h : r.Sound) (record : Record) : (r.make record).Sound := by
  intro n live
  show n < (r.records ++ [record]).length
  rw [List.length_append]
  exact Nat.lt_add_right _ (h n live)

theorem Sound.enter (h : r.Sound) (number : Nat) : (r.enter number).Sound := by
  cases made : r.record? number with
  | none =>
    have same : r.enter number = r := by simp only [Registry.enter, made]
    rwa [same]
  | some record =>
    intro n live
    rw [records_enter]
    rcases (mem_enter made).1 live with rfl | ⟨live, -⟩
    · exact (List.getElem?_eq_some_iff.1 made).1
    · exact h n live

theorem Sound.add (h : r.Sound) (record : Record) : (r.add record).Sound :=
  (h.make record).enter _

theorem Sound.session? (h : r.Sound) (live : n ∈ r.live) :
    ∃ session, r.session? n = some session :=
  ⟨_, by rw [Registry.session?, record?, List.getElem?_eq_getElem (h n live)]; rfl⟩

theorem Sound.remove (h : r.Sound) (session : String) : (r.remove session).Sound :=
  fun n live => h n (List.mem_filter.1 live).1

theorem Sound.touch (h : r.Sound) (number : Nat) (now : Float) : (r.touch number now).Sound := by
  intro n live
  show n < (r.records.modify number _).length
  rw [List.length_modify]
  exact h n live

theorem Sound.sweep (h : r.Sound) (timeout now : Float) : (r.sweep timeout now).2.Sound :=
  fun n live => h n (List.mem_filter.1 live).1

theorem record?_add (below : n < r.records.length) (record : Record) :
    (r.add record).record? n = r.record? n := by
  rw [Registry.add, record?_enter, record?_make (Nat.ne_of_lt below)]

theorem record?_add_new (r : Registry) (record : Record) :
    (r.add record).record? r.records.length = some record := by
  rw [Registry.add, record?_enter, record?_make_new]

theorem Fresh.names (fresh : r.Fresh session) (live : n ∈ r.live) : r.names session n = false := by
  unfold Registry.names
  cases made : r.record? n with
  | none => rfl
  | some other =>
    have held : other ∈ r.held := List.mem_filterMap.2 ⟨n, live, made⟩
    simpa using fresh other held

theorem Fresh.add_live (record : Record) (fresh : r.Fresh record.session) (sound : r.Sound) :
    (r.add record).live = r.live ++ [r.records.length] := by
  have unnamed : ((r.make record).live.any ((r.make record).names record.session)) = false :=
    List.any_eq_false.2 fun n live => by simp [sound.names_make live, fresh.names live]
  rw [Registry.add, live_enter (record?_make_new r record), unnamed]
  rfl

/-- Who registers under an id of its own and goes again leaves the registry as it was. -/
theorem remove_add (record : Record) (sound : r.Sound) (fresh : r.Fresh record.session) :
    ((r.add record).remove record.session).live = r.live ∧
      ((r.add record).remove record.session).held = r.held := by
  have others : ∀ n ∈ r.live, (!(r.add record).names record.session n) = true := by
    intro n live
    rw [Registry.add, names_enter, sound.names_make live, fresh.names live]
    rfl
  have own : (r.add record).names record.session r.records.length = true := by
    unfold names
    rw [record?_add_new]
    exact beq_self_eq_true _
  have live : ((r.add record).remove record.session).live = r.live := by
    unfold remove
    simp only [fresh.add_live record sound, List.filter_append, List.filter_eq_self.2 others]
    simp [own]
  refine ⟨live, ?_⟩
  unfold held
  rw [live]
  exact List.filterMap_congr fun n mem => record?_add (sound n mem) record

end EdgeSession.Registry
