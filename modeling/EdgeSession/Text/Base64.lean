import EdgeSession.Bytes

/-!
Base64. Writing pads to groups of four. Reading is lenient: characters outside the alphabet count
for nothing, and the text ends where padding completes a group.
-/
namespace EdgeSession.Base64

/-- The letter of a number below 64. -/
def letter (n : Nat) : Char :=
  if n < 26 then Char.ofNat (0x41 + n)
  else if n < 52 then Char.ofNat (0x61 + (n - 26))
  else if n < 62 then Char.ofNat (0x30 + (n - 52))
  else if n = 62 then '+'
  else '/'

def value? (c : Char) : Option Nat :=
  let n := c.toNat
  if 0x41 ≤ n && n ≤ 0x5A then some (n - 0x41)
  else if 0x61 ≤ n && n ≤ 0x7A then some (n - 0x61 + 26)
  else if 0x30 ≤ n && n ≤ 0x39 then some (n - 0x30 + 52)
  else if n = 0x2B then some 62
  else if n = 0x2F then some 63
  else none

/-- Three bytes to a group of four letters. -/
def encode : Bytes → List Char
  | [] => []
  | [a] =>
    let n := a.toNat * 16
    [letter (n / 64), letter (n % 64), '=', '=']
  | [a, b] =>
    let n := (a.toNat * 256 + b.toNat) * 4
    [letter (n / 4096), letter (n / 64 % 64), letter (n % 64), '=']
  | a :: b :: c :: rest =>
    let n := (a.toNat * 256 + b.toNat) * 256 + c.toNat
    letter (n / 262144) :: letter (n / 4096 % 64) :: letter (n / 64 % 64) :: letter (n % 64) ::
      encode rest

/-- How far reading has come: the bytes so far, last first, the letters of the group under way and
the padding seen since the last of them. -/
structure Progress where
  bytes : Bytes := []
  group : List Nat := []
  padding : Nat := 0
  deriving DecidableEq, Repr

/-- The bytes that a full or a padded group stands for, last first. -/
def groupBytes : List Nat → Bytes
  | [a, b] => [UInt8.ofNat (a * 4 + b / 16)]
  | [a, b, c] => [UInt8.ofNat (b * 16 + c / 4), UInt8.ofNat (a * 4 + b / 16)]
  | [a, b, c, d] =>
    [UInt8.ofNat (c * 64 + d), UInt8.ofNat (b * 16 + c / 4), UInt8.ofNat (a * 4 + b / 16)]
  | _ => []

/-- One letter of data: the fourth completes the group. -/
def Progress.take (p : Progress) (n : Nat) : Progress :=
  if p.group.length = 3 then ⟨groupBytes (p.group ++ [n]) ++ p.bytes, [], 0⟩
  else ⟨p.bytes, p.group ++ [n], 0⟩

def decodeFrom (p : Progress) : List Char → Option Bytes
  | [] => if p.group.isEmpty then some p.bytes.reverse else none
  | c :: rest =>
    if c = '=' then
      if p.group.length < 2 then decodeFrom p rest
      else if p.group.length + p.padding + 1 < 4 then
        decodeFrom { p with padding := p.padding + 1 } rest
      else some (groupBytes p.group ++ p.bytes).reverse
    else match value? c with
      | some n => decodeFrom (p.take n) rest
      | none => decodeFrom p rest

/-- The bytes that a text stands for; none when it ends inside a group. -/
def decode? (text : List Char) : Option Bytes := decodeFrom {} text

end EdgeSession.Base64
