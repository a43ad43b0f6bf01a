import EdgeSession.Proofs.Text.Form
import EdgeSession.Session.Address
import Std.Data.String.ToInt

/-!
Log options in the query of an address, read back from it.
-/
namespace EdgeSession.LogTail

/-- What a query tells of options: each that has a value, in the order of the names. -/
def Options.told (o : Options) : List (String × String) :=
  [("follow", if o.follow then "true" else "false"), ("since", o.since), ("tail", toString o.tail),
    ("until", o.upTo)].filter fun pair => pair.2 ≠ ""

theorem repr_ne_empty (n : Int) : n.repr ≠ "" := by
  rw [Int.repr_eq_if]
  split
  · exact Nat.repr_ne_empty
  · simp

theorem pairs_eq_told (o : Options) : o.pairs = o.told := by
  have follow : (if o.follow then "true" else "false") ≠ "" := by
    split <;> decide
  by_cases since : o.since = "" <;> by_cases upTo : o.upTo = "" <;>
    simp [Options.pairs, Options.told, follow, repr_ne_empty, since, upTo]

theorem pairs_ne_nil (o : Options) : o.pairs ≠ [] := List.cons_ne_nil _ _

theorem query?_isSome (o : Options) :
    o.query?.isSome = true ↔ o.tail.natAbs < Nat.pow 10 Text.digitLimit := by
  unfold Options.query?
  split <;> simp_all

theorem query?_eq_some {o : Options} {query : String} (h : o.query? = some query) :
    query = o.query := by
  unfold Options.query? at h
  split at h
  · exact (Option.some.inj h).symm
  · cases h

theorem query?_vast {n : Nat} (vast : Nat.pow 10 Text.digitLimit ≤ n) :
    ({ tail := .ofNat n } : Options).query? = none :=
  if_neg (Nat.not_lt.mpr vast)

/-- Options that hold up have a query. -/
theorem query?_of_check {o : Options} (ok : o.check = .ok ()) : o.query? = some o.query := by
  refine if_pos (Nat.lt_of_le_of_lt (m := 10000) ?_ ?_)
  · unfold Options.check at ok
    split at ok
    · cases ok
    · rename_i inside
      have low : minTail = 1 := rfl
      have high : maxTail = 10000 := rfl
      simp only [Bool.or_eq_true, not_or, decide_eq_true_iff] at inside
      omega
  · exact Nat.lt_of_lt_of_le (by decide : 10000 < Nat.pow 10 5)
      (Nat.pow_le_pow_right (by decide) (by decide))

/-- A query that carries these options. Split and decoded it gives them back, in their order and
with their values, and it is written with nothing that could end it or start another part of the
address that it is put behind. -/
structure Carries (o : Options) (query : String) : Prop where
  appended : ∀ url, Address.withOptions url (some o) = url ++ "?" ++ query
  decoded : Form.decodePairs? query.toList = some o.told
  tail : (toString o.tail).toInt? = some o.tail
  plain : ∀ c ∈ query.toList, c.isAlphanum = true ∨
    c ∈ ['_', '.', '-', '~', '+', '%', '&', '=']

theorem query_carries (o : Options) : Carries o o.query := by
  have query : o.query.toList = Form.encodePairs o.pairs := String.toList_ofList
  refine ⟨fun _ => rfl, ?_, Int.toInt?_repr o.tail, fun c mem => ?_⟩
  · rw [query, Form.decodePairs?_encodePairs (pairs_ne_nil o), pairs_eq_told]
  · rw [query] at mem
    simp only [List.mem_cons, List.not_mem_nil, or_false]
    obtain (carried | rfl | rfl) | rfl | rfl := Form.encodePairs_chars o.pairs c mem
    · have kind := Form.isUnreserved_iff.1 carried
      simp only [List.mem_cons, List.not_mem_nil, or_false] at kind
      grind
    all_goals simp

/-- **A query carries its options.** There is one for each tail that has at most the 4300 digits
that are written, and for no other, and it is read back as what it was made of. -/
theorem query_carries_options (o : Options) :
    (o.query?.isSome = true ↔ o.tail.natAbs < Nat.pow 10 Text.digitLimit) ∧
      ∀ query ∈ o.query?, Carries o query :=
  ⟨query?_isSome o, fun _ held => query?_eq_some held ▸ query_carries o⟩

/-- A tail of 4301 digits has no query that could carry it. -/
theorem query_of_vast_tail :
    let o : Options := { tail := .ofNat (Nat.pow 10 Text.digitLimit) }
    ¬∃ query, o.query? = some query ∧ Form.decodePairs? query.toList = some o.told := by
  rintro o ⟨query, held, -⟩
  rw [query?_vast (Nat.le_refl _)] at held
  cases held

end EdgeSession.LogTail
