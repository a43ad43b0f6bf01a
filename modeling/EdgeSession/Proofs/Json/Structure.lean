import EdgeSession.Json.Printer

/-!
Induction over values, and what holds of a value together with everything in it.
-/
namespace EdgeSession.Json

/-- Arrays and objects from what they hold, however deep. -/
@[elab_as_elim]
theorem induct {motive : Json → Prop} (null : motive .null) (bool : ∀ b, motive (.bool b))
    (int : ∀ n, motive (.int n)) (real : ∀ x, motive (.real x)) (str : ∀ s, motive (.str s))
    (arr : ∀ items, (∀ v ∈ items, motive v) → motive (.arr items))
    (obj : ∀ members, (∀ m ∈ members, motive m.2) → motive (.obj members)) (v : Json) :
    motive v :=
  @Json.rec motive (fun items => ∀ v ∈ items, motive v) (fun members => ∀ m ∈ members, motive m.2)
    (fun m => motive m.2) null bool int real str arr obj (List.forall_mem_nil _)
    (fun _ _ first others => List.forall_mem_cons.mpr ⟨first, others⟩) (List.forall_mem_nil _)
    (fun _ _ first others => List.forall_mem_cons.mpr ⟨first, others⟩) (fun _ _ value => value) v

/-- No number with a fraction or an exponent. -/
def isWhole : Json → Bool
  | real _ => false
  | _ => true

/-- The names in an object are apart. -/
def namesApart : Json → Bool
  | obj members => (members.map (·.1)).Nodup
  | _ => true

variable {test other : Json → Bool} {items : List Json} {members : List (String × Json)}

theorem everyItem_iff : everyItem test items = true ↔ ∀ v ∈ items, v.every test = true := by
  induction items with
  | nil => simp [everyItem]
  | cons v items ih => simp [everyItem, ih]

theorem everyMember_iff :
    everyMember test members = true ↔ ∀ m ∈ members, m.2.every test = true := by
  induction members with
  | nil => simp [everyMember]
  | cons m members ih =>
    obtain ⟨name, v⟩ := m
    simp [everyMember, ih]

@[simp]
theorem every_arr : (arr items).every test = true ↔
    test (arr items) = true ∧ ∀ v ∈ items, v.every test = true := by
  rw [every, Bool.and_eq_true, everyItem_iff]

@[simp]
theorem every_obj : (obj members).every test = true ↔
    test (obj members) = true ∧ ∀ m ∈ members, m.2.every test = true := by
  rw [every, Bool.and_eq_true, everyMember_iff]

theorem every_self {v : Json} (h : v.every test = true) : test v = true := by
  cases v with
  | arr items => exact (every_arr.mp h).1
  | obj members => exact (every_obj.mp h).1
  | _ => exact h

/-- Two tests hold throughout a value when each of them does. -/
theorem every_and (v : Json) : v.every (fun v => test v && other v) = true ↔
    v.every test = true ∧ v.every other = true := by
  induction v using induct with
  | arr items ih =>
    simp only [every_arr, Bool.and_eq_true]
    constructor
    · intro ⟨⟨here, there⟩, each⟩
      exact ⟨⟨here, fun v mem => ((ih v mem).mp (each v mem)).1⟩,
        there, fun v mem => ((ih v mem).mp (each v mem)).2⟩
    · intro ⟨⟨here, each⟩, there, each'⟩
      exact ⟨⟨here, there⟩, fun v mem => (ih v mem).mpr ⟨each v mem, each' v mem⟩⟩
  | obj members ih =>
    simp only [every_obj, Bool.and_eq_true]
    constructor
    · intro ⟨⟨here, there⟩, each⟩
      exact ⟨⟨here, fun m mem => ((ih m mem).mp (each m mem)).1⟩,
        there, fun m mem => ((ih m mem).mp (each m mem)).2⟩
    · intro ⟨⟨here, each⟩, there, each'⟩
      exact ⟨⟨here, there⟩, fun m mem => (ih m mem).mpr ⟨each m mem, each' m mem⟩⟩
  | _ => simp [every]

end EdgeSession.Json
