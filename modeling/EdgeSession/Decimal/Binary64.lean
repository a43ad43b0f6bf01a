import EdgeSession.Bytes

/-!
Double-precision numbers by their bits, and the double nearest to a ratio of naturals. All
arithmetic is exact, on naturals.
-/
namespace EdgeSession

/-- A double-precision number: sign, eleven bits of exponent, fifty-two bits of fraction. -/
structure Binary64 where
  bits : UInt64
  deriving DecidableEq, Repr

namespace Binary64

def isNegative (x : Binary64) : Bool := Nat.pow 2 63 ≤ x.bits.toNat
def exponentField (x : Binary64) : Nat := x.bits.toNat / Nat.pow 2 52 % 2048
def fractionField (x : Binary64) : Nat := x.bits.toNat % Nat.pow 2 52

def isFinite (x : Binary64) : Bool := x.exponentField != 2047
def isNaN (x : Binary64) : Bool := !x.isFinite && x.fractionField != 0

/-- A finite number is `significand · 2 ^ (scale - 1074)`, up to its sign. -/
def significand (x : Binary64) : Nat :=
  if x.exponentField = 0 then x.fractionField else x.fractionField + Nat.pow 2 52

def scale (x : Binary64) : Nat := x.exponentField - 1

def isZero (x : Binary64) : Bool := x.isFinite && x.significand == 0

def ofFields (negative : Bool) (exponent fraction : Nat) : Binary64 :=
  ⟨UInt64.ofNat ((if negative then Nat.pow 2 63 else 0) + exponent * Nat.pow 2 52 + fraction)⟩

def infinity (negative : Bool) : Binary64 := ofFields negative 2047 0
def nan : Binary64 := ofFields false 2047 (Nat.pow 2 51)

/-- The nearest natural to `num / den`; a half goes to the even neighbour. -/
def roundDiv (num den : Nat) : Nat :=
  let q := num / den
  let twice := 2 * (num % den)
  if twice > den || (twice == den && q % 2 == 1) then q + 1 else q

/-- The double nearest to `num / den`, a tie going to the even significand. -/
def ofRatio (negative : Bool) (num den : Nat) : Binary64 :=
  if num = 0 then ofFields negative 0 0
  else
    -- the quotient by `2 ^ e` lies between `2 ^ 51` and `2 ^ 53`
    let e : Int := (num.log2 : Int) - den.log2 - 52
    let atScale (e : Int) : Nat × Nat := (num * Nat.pow 2 (-e).toNat, den * Nat.pow 2 e.toNat)
    let e := if (atScale e).1 < Nat.pow 2 52 * (atScale e).2 then e - 1 else e
    let e := max e (-1074)
    let m := roundDiv (atScale e).1 (atScale e).2
    let (m, e) := if m = Nat.pow 2 53 then (Nat.pow 2 52, e + 1) else (m, e)
    if m < Nat.pow 2 52 then ofFields negative 0 m
    else if e > 971 then infinity negative
    else ofFields negative (e + 1075).toNat (m - Nat.pow 2 52)

/-- The double nearest to `digits · 10 ^ exponent`. Outside of 10^±400 the answer is clear without
the power, for as many digits as there are. -/
def ofDecimal (negative : Bool) (digits : Nat) (exponent : Int) : Binary64 :=
  let magnitude : Int := exponent + (Nat.repr digits).length
  if digits = 0 || magnitude < -400 then ofFields negative 0 0
  else if magnitude > 400 then infinity negative
  else if exponent < 0 then ofRatio negative digits (Nat.pow 10 (-exponent).toNat)
  else ofRatio negative (digits * Nat.pow 10 exponent.toNat) 1

/-- A single-precision number by its 32 bits, as the same number in double precision. -/
def ofSingle (bits : Nat) : Binary64 :=
  let negative := Nat.pow 2 31 ≤ bits
  let exponent := bits / Nat.pow 2 23 % 256
  let fraction := bits % Nat.pow 2 23
  if exponent = 255 then ofFields negative 2047 (fraction * Nat.pow 2 29)
  else
    let m := if exponent = 0 then fraction else fraction + Nat.pow 2 23
    ofRatio negative (m * Nat.pow 2 (exponent - 1)) (Nat.pow 2 149)

def ofBytes (bytes : Bytes) : Binary64 := ⟨UInt64.ofNat (Bytes.toNat bytes)⟩

def toFloat (x : Binary64) : Float := Float.ofBits x.bits
def ofFloat (x : Float) : Binary64 := ⟨x.toBits⟩

end Binary64
end EdgeSession
