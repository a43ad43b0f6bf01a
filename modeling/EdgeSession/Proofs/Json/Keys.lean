import EdgeSession.Json.Value
import Mathlib.Tactic.Ring

/-!
What plain values stand for when something is looked up by them. Numbers that are worth the same are
the same key, however they are written; so to look up by the one is to look up by the other.
-/
namespace EdgeSession

namespace Binary64

variable {x y : Binary64}

/-- The number without its sign, in units of the smallest double. -/
def magnitude (x : Binary64) : Nat := x.significand * Nat.pow 2 x.scale

theorem two_pow_pos (k : Nat) : 0 < Nat.pow 2 k := Nat.pow_pos (by decide)

theorem fractionField_lt (x : Binary64) : x.fractionField < Nat.pow 2 52 :=
  Nat.mod_lt _ (by decide)

theorem significand_lt (x : Binary64) : x.significand < 2 * Nat.pow 2 52 := by
  have fraction := x.fractionField_lt
  unfold significand
  split <;> omega

theorem le_significand (normal : x.exponentField ≠ 0) : Nat.pow 2 52 ≤ x.significand := by
  unfold significand
  rw [if_neg normal]
  omega

/-- A number of a higher scale is at least twice any significand of a lower one. -/
theorem scale_le (h : x.magnitude = y.magnitude) : y.scale ≤ x.scale := by
  by_contra above
  have normal : y.exponentField ≠ 0 := by
    intro zero
    unfold scale at above
    omega
  obtain ⟨d, apart⟩ : ∃ d, y.scale = x.scale + 1 + d := ⟨y.scale - x.scale - 1, by omega⟩
  have split : Nat.pow 2 y.scale = 2 * Nat.pow 2 d * Nat.pow 2 x.scale := by
    rw [apart]
    simp only [Nat.pow_eq]
    ring
  have positive := two_pow_pos x.scale
  have same : x.significand = y.significand * (2 * Nat.pow 2 d) := by
    apply Nat.eq_of_mul_eq_mul_right positive
    rw [Nat.mul_assoc, ← split]
    exact h
  have twice : y.significand * 2 ≤ x.significand := by
    rw [same]
    exact Nat.mul_le_mul_left _ (Nat.le_mul_of_pos_right 2 (two_pow_pos d))
  have small := x.significand_lt
  have large := le_significand normal
  omega

theorem magnitude_injective (h : x.magnitude = y.magnitude) :
    x.exponentField = y.exponentField ∧ x.fractionField = y.fractionField := by
  have scale : x.scale = y.scale := Nat.le_antisymm (scale_le h.symm) (scale_le h)
  have positive := two_pow_pos y.scale
  have significand : x.significand = y.significand := by
    apply Nat.eq_of_mul_eq_mul_right positive
    rw [← scale]
    exact h.trans (by rw [magnitude, scale])
  have first := x.fractionField_lt
  have second := y.fractionField_lt
  unfold Binary64.significand at significand
  unfold Binary64.scale at scale
  split at significand <;> split at significand <;> omega

theorem ext_fields (sign : x.isNegative = y.isNegative)
    (exponent : x.exponentField = y.exponentField)
    (fraction : x.fractionField = y.fractionField) : x = y := by
  obtain ⟨a⟩ := x
  obtain ⟨b⟩ := y
  have la := a.toNat_lt
  have lb := b.toNat_lt
  simp only [isNegative, exponentField, fractionField, Nat.pow_eq, decide_eq_decide] at *
  have same : a.toNat = b.toNat := by omega
  rw [UInt64.toNat_inj.1 same]

theorem isZero_iff : x.isZero = true ↔ x.isFinite = true ∧ x.magnitude = 0 := by
  have positive : Nat.pow 2 x.scale ≠ 0 := Nat.pos_iff_ne_zero.1 (two_pow_pos x.scale)
  unfold isZero magnitude
  rw [Bool.and_eq_true, beq_iff_eq, Nat.mul_eq_zero, or_iff_left positive]

end Binary64

namespace Json

/-! ## What numbers are worth -/

/-- What a number is worth: a whole multiple of the smallest double, if it is finite. -/
inductive Worth
  | undefined
  | infinite (negative : Bool)
  | units (n : Int)

/-- How many of the smallest doubles make one. -/
def unit : Nat := Nat.pow 2 1074

theorem unit_eq : unit = Nat.pow 2 1074 := by
  delta unit
  exact Eq.refl _

theorem unit_pos : 0 < unit := by
  rw [unit_eq]
  apply Binary64.two_pow_pos

def signed (negative : Bool) (n : Nat) : Int := if negative then -n else n

theorem signed_eq_iff {a b : Bool} {m n : Nat} :
    signed a m = signed b n ↔ m = n ∧ (a = b ∨ m = 0) := by
  cases a <;> cases b <;> simp [signed] <;> omega

def Number.worth : Number → Worth
  | .whole n => .units (signed (decide (n < 0)) (n.natAbs * unit))
  | .real x =>
    if x.isNaN then .undefined
    else if x.isFinite then .units (signed x.isNegative x.magnitude)
    else .infinite x.isNegative

variable {x y : Binary64}

theorem worth_nan (nan : x.isNaN = true) : (Number.real x).worth = .undefined := if_pos nan

theorem worth_finite (finite : x.isFinite = true) :
    (Number.real x).worth = .units (signed x.isNegative x.magnitude) := by
  have defined : x.isNaN = false := by simp [Binary64.isNaN, finite]
  simp only [Number.worth, defined, finite, Bool.false_eq_true, if_false, if_true]

theorem worth_infinite (defined : x.isNaN = false) (infinite : x.isFinite = false) :
    (Number.real x).worth = .infinite x.isNegative := by
  simp only [Number.worth, defined, infinite, Bool.false_eq_true, if_false]

theorem worth_undefined : (Number.real x).worth = .undefined ↔ x.isNaN = true := by
  unfold Number.worth
  split <;> simp_all
  split <;> simp

/-- Doubles that are worth the same are the same, but for the sign of zero. -/
theorem eq_of_worth (defined : x.isNaN = false)
    (h : (Number.real x).worth = (Number.real y).worth) :
    x = y ∨ x.isZero = true ∧ y.isZero = true := by
  have defined' : y.isNaN = false := by
    rw [← Bool.not_eq_true, ← worth_undefined, ← h, worth_undefined, Bool.not_eq_true]
    exact defined
  cases finite : x.isFinite with
  | true =>
    rw [worth_finite finite] at h
    cases finite' : y.isFinite with
    | true =>
      rw [worth_finite finite', Worth.units.injEq, signed_eq_iff] at h
      obtain ⟨magnitude, sign | zero⟩ := h
      · obtain ⟨exponent, fraction⟩ := Binary64.magnitude_injective magnitude
        exact .inl (Binary64.ext_fields sign exponent fraction)
      · exact .inr ⟨Binary64.isZero_iff.2 ⟨finite, zero⟩,
          Binary64.isZero_iff.2 ⟨finite', magnitude ▸ zero⟩⟩
    | false => rw [worth_infinite defined' finite'] at h; cases h
  | false =>
    rw [worth_infinite defined finite] at h
    cases finite' : y.isFinite with
    | true => rw [worth_finite finite'] at h; cases h
    | false =>
      rw [worth_infinite defined' finite', Worth.infinite.injEq] at h
      simp only [Binary64.isFinite, bne_eq_false_iff_eq] at finite finite'
      simp only [Binary64.isNaN, Binary64.isFinite, finite, finite', bne_self_eq_false,
        Bool.not_false, Bool.true_and, bne_eq_false_iff_eq] at defined defined'
      exact .inl (Binary64.ext_fields h (finite.trans finite'.symm) (defined.trans defined'.symm))

theorem whole_zero {n : Int} : n.natAbs * unit = 0 ↔ n = 0 := by
  rw [Nat.mul_eq_zero, or_iff_left (Nat.pos_iff_ne_zero.1 unit_pos), Int.natAbs_eq_zero]

theorem same_whole_real (n : Int) (x : Binary64) :
    (Number.whole n).same (.real x) = true ↔ (Number.whole n).worth = (Number.real x).worth := by
  cases finite : x.isFinite with
  | true =>
    rw [worth_finite finite, Number.worth, Worth.units.injEq, signed_eq_iff, whole_zero,
      Number.same, ← unit_eq, finite, Bool.true_and, Bool.and_eq_true, Bool.or_eq_true, beq_iff_eq,
      beq_iff_eq, beq_iff_eq]
    constructor
    · rintro ⟨magnitude, zero | sign⟩
      · exact ⟨magnitude.symm, .inr zero⟩
      · exact ⟨magnitude.symm, .inl sign.symm⟩
    · rintro ⟨magnitude, sign | zero⟩
      · exact ⟨magnitude.symm, .inr sign.symm⟩
      · exact ⟨magnitude.symm, .inl zero⟩
  | false =>
    have differ : (Number.whole n).worth ≠ (Number.real x).worth := by
      intro h
      cases nan : x.isNaN with
      | true => rw [worth_nan nan] at h; cases h
      | false => rw [worth_infinite nan finite] at h; cases h
    rw [Number.same, finite, Bool.false_and, Bool.false_and]
    exact iff_of_false Bool.false_ne_true differ

theorem same_real_whole (n : Int) (x : Binary64) :
    (Number.real x).same (.whole n) = (Number.whole n).same (.real x) := rfl

theorem same_real_real (defined : x.isNaN = false) :
    (Number.real x).same (.real y) = true ↔ (Number.real x).worth = (Number.real y).worth := by
  have same : (Number.real x).same (.real y) = true ↔
      y.isNaN = false ∧ (x = y ∨ x.isZero = true ∧ y.isZero = true) := by
    simp only [Number.same, defined, Bool.false_or]
    cases y.isNaN with
    | true => simp
    | false =>
      by_cases zero : x.isZero = true ∧ y.isZero = true
      · simp [zero]
      · simp [zero]
  rw [same]
  constructor
  · rintro ⟨-, rfl | ⟨zero, zero'⟩⟩
    · rfl
    · obtain ⟨finite, magnitude⟩ := Binary64.isZero_iff.1 zero
      obtain ⟨finite', magnitude'⟩ := Binary64.isZero_iff.1 zero'
      rw [worth_finite finite, worth_finite finite', Worth.units.injEq, signed_eq_iff]
      exact ⟨magnitude.trans magnitude'.symm, .inr magnitude⟩
  · intro h
    refine ⟨?_, eq_of_worth defined h⟩
    rw [← Bool.not_eq_true, ← worth_undefined, ← h, worth_undefined, Bool.not_eq_true]
    exact defined

/-- Numbers are the same exactly if they are worth the same, and that is something. -/
theorem same_iff_worth {m n : Number} :
    m.same n = true ↔ m.worth = n.worth ∧ m.worth ≠ .undefined := by
  cases m with
  | whole a =>
    have something : (Number.whole a).worth ≠ .undefined := by simp [Number.worth]
    rw [and_iff_left something]
    cases n with
    | whole b =>
      rw [Number.same, beq_iff_eq, Number.worth, Number.worth, Worth.units.injEq, signed_eq_iff,
        Nat.mul_left_inj (Nat.pos_iff_ne_zero.1 unit_pos), decide_eq_decide, whole_zero]
      omega
    | real y => exact same_whole_real a y
  | real x =>
    cases n with
    | whole b =>
      have something : (Number.whole b).worth ≠ .undefined := by simp [Number.worth]
      rw [same_real_whole, same_whole_real, eq_comm]
      exact ⟨fun h => ⟨h, h ▸ something⟩, And.left⟩
    | real y =>
      cases nan : x.isNaN with
      | true => simp [Number.same, nan, worth_nan nan]
      | false =>
        have something : (Number.real x).worth ≠ .undefined := by
          rw [Ne, worth_undefined, nan]
          exact Bool.false_ne_true
        rw [and_iff_left something]
        exact same_real_real nan

/-! ## What plain values stand for -/

/-- What a plain value stands for when something is looked up by it. -/
inductive Key
  | null
  | text (s : String)
  | number (worth : Worth)

def key? : Json → Option Key
  | .null => some .null
  | .str s => some (.text s)
  | .arr _ => none
  | .obj _ => none
  | v => v.number?.map fun n => .number n.worth

theorem key?_number {v : Json} {n : Number} (h : v.number? = some n) :
    v.key? = some (.number n.worth) := by
  cases v with
  | bool | int | real => simp [key?, h]
  | null | str | arr | obj => simp [number?] at h

theorem isUndefined_iff {v : Json} {n : Number} (h : v.number? = some n) :
    v.isUndefined = true ↔ n.worth = .undefined := by
  cases v with
  | bool | int => cases h; simp [isUndefined, Number.worth]
  | real x => cases h; exact worth_undefined.symm
  | null | str | arr | obj => simp [number?] at h

theorem same_number {a b : Json} {m n : Number} (first : a.number? = some m)
    (second : b.number? = some n) : a.same b = m.same n := by
  cases a with
  | bool | int | real =>
    cases b with
    | bool | int | real => simp only [same, first, second]
    | null | str | arr | obj => simp [number?] at second
  | null | str | arr | obj => simp [number?] at first

theorem sameKey_number {a b : Json} {m n : Number} (first : a.number? = some m)
    (second : b.number? = some n) : a.sameKey b = true ↔ a.key? = b.key? := by
  rw [sameKey, Bool.or_eq_true, Bool.and_eq_true, isUndefined_iff first, isUndefined_iff second,
    same_number first second, same_iff_worth, key?_number first, key?_number second,
    Option.some.injEq, Key.number.injEq]
  constructor
  · rintro (⟨undefined, undefined'⟩ | ⟨worth, -⟩)
    · rw [undefined, undefined']
    · exact worth
  · intro worth
    by_cases undefined : m.worth = .undefined
    · exact .inl ⟨undefined, worth ▸ undefined⟩
    · exact .inr ⟨worth, undefined⟩

/-- To look up by a plain value is to look for what it stands for. -/
theorem sameKey_iff {a b : Json} (plain : b.key? ≠ none) :
    a.sameKey b = true ↔ a.key? = b.key? := by
  cases first : a.number? with
  | some m =>
    cases second : b.number? with
    | some n => exact sameKey_number first second
    | none =>
      cases a with
      | bool | int | real => cases b <;> simp_all [sameKey, isUndefined, same, key?, number?]
      | null | str | arr | obj => simp [number?] at first
  | none =>
    cases a with
    | bool | int | real => simp [number?] at first
    | null | str | arr | obj => cases b <;> simp_all [sameKey, isUndefined, same, key?, number?]

end Json
end EdgeSession
