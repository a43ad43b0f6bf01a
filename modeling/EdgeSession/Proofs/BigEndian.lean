import Mathlib.Algebra.Group.Nat.Defs
import Mathlib.Data.List.Induction
import EdgeSession.Bytes

/-!
Big-endian numbers: a width of bytes holds every number below its power of 256 exactly once.
-/
namespace EdgeSession.Bytes

@[simp] theorem toNat_nil : toNat [] = 0 := rfl

theorem toNat_concat (bytes : Bytes) (b : UInt8) :
    toNat (bytes ++ [b]) = toNat bytes * 256 + b.toNat := by
  simp [toNat]

@[simp] theorem toNat_singleton (b : UInt8) : toNat [b] = b.toNat := by
  simp [toNat]

theorem toNat_lt (bytes : Bytes) : toNat bytes < 256 ^ bytes.length := by
  induction bytes using List.reverseRecOn with
  | nil => exact Nat.one_pos
  | append_singleton bytes b ih =>
    have hb := b.toNat_lt
    rw [toNat_concat, List.length_append, List.length_singleton, Nat.pow_succ]
    omega

theorem toNat_ofNat {width n : Nat} (h : n < 256 ^ width) : toNat (ofNat width n) = n := by
  induction width generalizing n with
  | zero =>
    rw [Nat.pow_zero] at h
    simp only [ofNat, toNat_nil]
    omega
  | succ width ih =>
    have hd : n / 256 < 256 ^ width := by
      rw [Nat.pow_succ] at h
      omega
    rw [ofNat, toNat_concat, ih hd, UInt8.toNat_ofNat']
    omega

theorem ofNat_toNat (bytes : Bytes) : ofNat bytes.length (toNat bytes) = bytes := by
  induction bytes using List.reverseRecOn with
  | nil => rfl
  | append_singleton bytes b ih =>
    have last := b.toNat_lt
    have front : (toNat bytes * 256 + b.toNat) / 256 = toNat bytes := by omega
    have low : UInt8.ofNat (toNat bytes * 256 + b.toNat) = b := by
      rw [← UInt8.toNat_inj, UInt8.toNat_ofNat']
      omega
    rw [List.length_append, List.length_singleton, toNat_concat, ofNat, front, ih, low]

/-- The range of numbers that `width` bytes hold in two's complement. -/
def HoldsSigned (width : Nat) (n : Int) : Prop :=
  -((256 ^ width : Nat) : Int) ≤ 2 * n ∧ 2 * n < ((256 ^ width : Nat) : Int)

theorem toInt_range (bytes : Bytes) : HoldsSigned bytes.length (toInt bytes) := by
  have h := toNat_lt bytes
  simp only [HoldsSigned, toInt, Nat.pow_eq]
  split <;> omega

/-- A negative number is written as what it leaves of the power of 256 above it. -/
theorem toInt_ofNat_add {width : Nat} {n : Int} (h : HoldsSigned width n) (neg : n < 0) :
    toInt (ofNat width (n + (256 ^ width : Nat)).toNat) = n := by
  obtain ⟨lo, hi⟩ := h
  have bound : (n + (256 ^ width : Nat)).toNat < 256 ^ width := by omega
  simp only [toInt, ofNat_length, toNat_ofNat bound, Nat.pow_eq]
  split <;> omega

theorem split?_eq_some {n : Nat} {bytes a b : Bytes} :
    split? n bytes = some (a, b) ↔ a.length = n ∧ bytes = a ++ b := by
  constructor
  · intro h
    simp only [split?] at h
    split at h
    · rename_i hl
      obtain ⟨rfl, rfl⟩ := Prod.mk.inj (Option.some.inj h)
      exact ⟨hl, (List.take_append_drop n bytes).symm⟩
    · cases h
  · rintro ⟨rfl, rfl⟩
    exact split?_append a b

end EdgeSession.Bytes
