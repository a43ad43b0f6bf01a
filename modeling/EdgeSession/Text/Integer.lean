import EdgeSession.Text.Blank
import EdgeSession.Text.Digit

/-!
Whole numbers as people write them: with a sign or without, in the digits of any script, with single
low lines between digits and blanks around.
-/
namespace EdgeSession.Text

def isAsciiBlank (c : Char) : Bool := c == ' ' || (9 ≤ c.toNat && c.toNat ≤ 13)

def digitChar (value : Nat) : Char := Char.ofNat (0x30 + value)

/-- A character outside ASCII as the one that stands for it in a number. -/
def plainChar (c : Char) : Char :=
  if c.toNat < 0x7F then c
  else if isBlank c then ' '
  else ((digitValue? c).map digitChar).getD '?'

/-- Digits and blanks of other scripts become those of ASCII, which stays as it is. -/
def plain (s : List Char) : List Char := s.map plainChar

def asciiDigit? (c : Char) : Option Nat :=
  if isAsciiDigit c then some (c.toNat - 0x30) else none

/-- The values of the digits; there is at least one. -/
def digitValues? : List Char → Option (List Nat)
  | [] => none
  | [c] => (asciiDigit? c).map ([·])
  | c :: '_' :: rest => do return (← asciiDigit? c) :: (← digitValues? rest)
  | c :: rest => do return (← asciiDigit? c) :: (← digitValues? rest)

/-- No number is read that has more digits. -/
def digitLimit : Nat := 4300

def natural? (s : List Char) : Option Nat :=
  match digitValues? s with
  | some digits =>
    if digits.length ≤ digitLimit then some (digits.foldl (fun n d => n * 10 + d) 0) else none
  | none => none

def signed? : List Char → Option Int
  | '-' :: s => (natural? s).map fun n => -(n : Int)
  | '+' :: s => (natural? s).map Int.ofNat
  | s => (natural? s).map Int.ofNat

def integer? (s : List Char) : Option Int :=
  signed? (dropEndWhile isAsciiBlank ((plain s).dropWhile isAsciiBlank))

end EdgeSession.Text
