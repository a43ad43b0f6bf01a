import EdgeSession.Proofs.Pack.Written

/-!
What a map says of a key when pairs with that key stand in it more than once, and where the values
of a map come from.
-/
namespace EdgeSession.Pack

/-- The value that counts for a key: that of the last pair with it. -/
def lastValue? (key : Value) (pairs : List (Value × Value)) : Option Value :=
  Value.lookup key pairs.reverse

theorem lookup_cons (key k v : Value) (pairs : List (Value × Value)) :
    Value.lookup key ((k, v) :: pairs) = if k = key then some v else Value.lookup key pairs := by
  by_cases h : k = key <;> simp [Value.lookup, h]

theorem lookup_insert (key k v : Value) (pairs : List (Value × Value)) :
    Value.lookup key (Value.insert k v pairs) =
      if k = key then some v else Value.lookup key pairs := by
  induction pairs with
  | nil => exact lookup_cons key k v []
  | cons pair rest ih =>
    obtain ⟨l, w⟩ := pair
    simp only [Value.insert]
    split
    · rename_i same
      subst same
      rw [lookup_cons, lookup_cons]
      split <;> rfl
    · rename_i other
      rw [lookup_cons, lookup_cons, ih]
      split
      · rename_i here
        subst here
        rw [if_neg (Ne.symm other)]
      · rfl

theorem lookup_append (key : Value) (a b : List (Value × Value)) :
    Value.lookup key (a ++ b) = (Value.lookup key a).or (Value.lookup key b) := by
  simp only [Value.lookup, List.find?_append, Option.map_or]

/-- The pairs of a map as the reader keeps them, each key once. -/
def merged (pairs : List (Value × Value)) : List (Value × Value) :=
  pairs.foldl (fun acc (k, v) => Value.insert k v acc) []

theorem mapOf_eq (pairs : List (Value × Value)) : mapOf pairs = .map (merged pairs) := rfl

/-- **Of pairs with one key the last one counts.** -/
theorem lookup_merged (key : Value) (pairs : List (Value × Value)) :
    Value.lookup key (merged pairs) = lastValue? key pairs := by
  have run : ∀ (pairs acc : List (Value × Value)),
      Value.lookup key (pairs.foldl (fun acc (k, v) => Value.insert k v acc) acc) =
        (lastValue? key pairs).or (Value.lookup key acc) := by
    intro pairs
    induction pairs with
    | nil => intro acc; rfl
    | cons pair rest ih =>
      intro acc
      obtain ⟨k, v⟩ := pair
      rw [List.foldl_cons, ih, lookup_insert, lastValue?, lastValue?, List.reverse_cons,
        lookup_append, lookup_cons, Option.or_assoc]
      split <;> rfl
  have := run pairs []
  rwa [show Value.lookup key [] = none from rfl, Option.or_none] at this

theorem mem_of_lastValue? {key value : Value} {pairs : List (Value × Value)}
    (h : lastValue? key pairs = some value) : (key, value) ∈ pairs := by
  simp only [lastValue?, Value.lookup, Option.map_eq_some_iff] at h
  obtain ⟨⟨k, v⟩, found, rfl⟩ := h
  have same := List.find?_some found
  simp only [beq_iff_eq] at same
  subst same
  exact List.mem_reverse.1 (List.mem_of_find?_eq_some found)

theorem Chain.part {α : Type} {P : α → Bytes → Prop} {xs : List α} {body : Bytes}
    (h : Chain P xs body) {x : α} (hx : x ∈ xs) :
    ∃ front, P x front ∧ front.length ≤ body.length := by
  induction h with
  | nil => cases hx
  | @cons y ys front rest head tail ih =>
    rcases List.mem_cons.1 hx with rfl | hx
    · exact ⟨front, head, by simp⟩
    · obtain ⟨part, hp, hl⟩ := ih hx
      exact ⟨part, hp, by simp only [List.length_append]; omega⟩

/-- What counts for a key is written somewhere in the map. -/
theorem MapText.value_written {pairs : List (Value × Value)} {bytes : Bytes}
    (h : MapText pairs bytes) {key value : Value} (hv : lastValue? key pairs = some value) :
    ∃ front, Written (maxNesting - 1) value front ∧ front.length ≤ bytes.length := by
  cases h with
  | intro announced listed =>
    obtain ⟨part, entry, hl⟩ := listed.part (mem_of_lastValue? hv)
    cases entry with
    | @intro _ _ front rest isKey hk written =>
      simp only [List.length_append] at hl
      exact ⟨rest, written, by simp only [List.length_append]; omega⟩

end EdgeSession.Pack
