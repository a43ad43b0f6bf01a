import EdgeSession.Decimal.Binary64

/-!
The shortest decimal text that reads back as a given double: of all decimals inside the interval of
reals that round to it, one with the fewest digits, and of those the nearest.
-/
namespace EdgeSession.Binary64

/-- `digits · 10 ^ exponent`. -/
structure Decimal where
  digits : Nat
  exponent : Int
  deriving DecidableEq, Repr

/-- The reals that round to a positive finite double, and the double itself, as numerators over
one denominator. The ends belong to it when the significand is even. -/
structure Interval where
  low : Nat
  value : Nat
  high : Nat
  denominator : Nat
  closed : Bool

/-- Below a power of two the neighbour is only half as far away. -/
def interval (x : Binary64) : Interval :=
  let m := x.significand
  let below := if x.fractionField = 0 && x.exponentField > 1 then 4 * m - 1 else 4 * m - 2
  let unit := Nat.pow 2 x.scale
  { low := below * unit
    value := 4 * m * unit
    high := (4 * m + 2) * unit
    denominator := 4 * Nat.pow 2 1074
    closed := m % 2 == 0 }

/-- The exponent of the leading decimal digit. -/
def leadingExponent (num den : Nat) : Int :=
  if den ≤ num then ((Nat.repr (num / den)).length : Int) - 1
  else
    -- the least `j` with `den ≤ num · 10 ^ j`
    Int.negOfNat (Nat.repr ((den + num - 1) / num - 1)).length

/-- Whether `candidate · 10 ^ exponent` lies in the interval. -/
def Interval.holds (i : Interval) (candidate : Nat) (exponent : Int) : Bool :=
  let up := Nat.pow 10 exponent.toNat
  let down := Nat.pow 10 (-exponent).toNat
  let scaled := candidate * up * i.denominator
  if i.closed then i.low * down ≤ scaled && scaled ≤ i.high * down
  else i.low * down < scaled && scaled < i.high * down

/-- The neighbours of the value on the grid of multiples of `10 ^ exponent` that lie in the
interval, the nearer one if both do; a tie goes to the even one. -/
def Interval.onGrid (i : Interval) (exponent : Int) : Option Nat :=
  let up := Nat.pow 10 exponent.toNat
  let down := Nat.pow 10 (-exponent).toNat
  let num := i.value * down
  let den := i.denominator * up
  let floor := num / den
  let nearest := roundDiv num den
  if i.holds nearest exponent then some nearest
  else if i.holds floor exponent then some floor
  else if i.holds (floor + 1) exponent then some (floor + 1)
  else none

/-- Grids from one digit to seventeen; the last always has a point in the interval. -/
def shortest (x : Binary64) : Decimal :=
  let i := x.interval
  let lead := leadingExponent i.value i.denominator
  let found := (List.range 17).findSome? fun (n : Nat) =>
    let exponent := lead - n
    (i.onGrid exponent).map (⟨·, exponent⟩)
  found.getD ⟨0, 0⟩

def zeros (n : Nat) : List Char := List.replicate n '0'

/-- The digits without trailing zeros, and the place of the point counted from their start. -/
def Decimal.digitsAndPoint (d : Decimal) : List Char × Int :=
  let text := (Nat.repr d.digits).toList
  let bare := (text.reverse.dropWhile (· == '0')).reverse
  (bare, text.length + d.exponent)

/-- Decimals are written positionally from 10^-4 up to 10^16, with at least one place after the
point, and in scientific form with an exponent of at least two digits elsewhere. -/
def Decimal.render (d : Decimal) : List Char :=
  let (digits, point) := d.digitsAndPoint
  if -4 < point && point ≤ 16 then
    if point ≤ 0 then '0' :: '.' :: zeros (-point).toNat ++ digits
    else if digits.length ≤ point.toNat then
      digits ++ zeros (point.toNat - digits.length) ++ ['.', '0']
    else digits.take point.toNat ++ '.' :: digits.drop point.toNat
  else
    let e := point - 1
    let exponent := (Nat.repr e.natAbs).toList
    let mantissa := match digits with
      | [] => ['0']
      | [d] => [d]
      | d :: rest => d :: '.' :: rest
    mantissa ++ 'e' :: (if e < 0 then '-' else '+') ::
      (if exponent.length < 2 then '0' :: exponent else exponent)

/-- The text of a double; `infinite` and `undefined` are the words for what is not a number. -/
def render (infinite undefined : String) (x : Binary64) : String :=
  let sign := if x.isNegative then "-" else ""
  if x.isNaN then undefined
  else if !x.isFinite then sign ++ infinite
  else if x.isZero then sign ++ "0.0"
  else sign ++ String.ofList x.shortest.render

end EdgeSession.Binary64
