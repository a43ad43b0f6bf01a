/-!
Byte strings and the big-endian numbers inside them.
-/
namespace EdgeSession

abbrev Bytes := List UInt8

namespace Bytes

/-- The number whose base-256 digits, most significant first, are the bytes. -/
def toNat (bytes : Bytes) : Nat :=
  bytes.foldl (fun n b => n * 256 + b.toNat) 0

/-- The low `width` base-256 digits of a number, most significant first. -/
def ofNat : (width : Nat) → Nat → Bytes
  | 0, _ => []
  | width + 1, n => ofNat width (n / 256) ++ [UInt8.ofNat n]

/-- Two's complement reading of `bytes`. -/
def toInt (bytes : Bytes) : Int :=
  let n := toNat bytes
  if 2 * n < Nat.pow 256 bytes.length then n else (n : Int) - (Nat.pow 256 bytes.length : Nat)

/-- The first `n` bytes and the rest, when there are that many. -/
def split? (n : Nat) (bytes : Bytes) : Option (Bytes × Bytes) :=
  let front := bytes.take n
  if front.length = n then some (front, bytes.drop n) else none

@[simp] theorem ofNat_length (width n : Nat) : (ofNat width n).length = width := by
  induction width generalizing n with
  | zero => rfl
  | succ width ih => simp [ofNat, ih]

theorem split?_append (a b : Bytes) : split? a.length (a ++ b) = some (a, b) := by
  simp [split?]

end Bytes
end EdgeSession
