import EdgeSession.Json.Value
import EdgeSession.Text.Hex
import EdgeSession.Text.Utf8

/-!
Reading the members of a script. What is missing, or of another kind than it should be, counts as
the default.
-/
namespace EdgeSession.Script

def member (j : Json) (name : String) : Json := (j.get? name).getD .null

def memberOr (j : Json) (name : String) (default : Json) : Json := (j.get? name).getD default

def text? (j : Json) (name : String) : Option String :=
  match j.get? name with
  | some (.str s) => some s
  | _ => none

def textOr (j : Json) (name default : String) : String := (text? j name).getD default

def integer? (j : Json) (name : String) : Option Int :=
  match j.get? name with
  | some (.int n) => some n
  | _ => none

def integerOr (j : Json) (name : String) (default : Int) : Int := (integer? j name).getD default

def boolOr (j : Json) (name : String) (default : Bool) : Bool :=
  match j.get? name with
  | some (.bool b) => b
  | _ => default

def textOf : Json → String
  | .str s => s
  | _ => ""

def integerOf : Json → Int
  | .int n => n
  | _ => 0

def timeOf : Json → Float
  | .int n => Float.ofInt n
  | .real x => x.toFloat
  | _ => 0.0

def items : Json → List Json
  | .arr items => items
  | _ => []

def unhexOnto (read : Bytes) : List Char → Bytes
  | a :: b :: rest => unhexOnto (UInt8.ofNat ((Text.ofHex? [a, b]).getD 0) :: read) rest
  | _ => read.reverse

/-- The bytes that pairs of hexadecimal digits stand for. -/
def unhex (s : List Char) : Bytes := unhexOnto [] s

def repeated (n : Nat) (bytes : Bytes) : Bytes := (List.replicate n bytes).flatten

/-- A part of some bytes: hexadecimal digits or a text, maybe several times. -/
def bytesOfPart (part : Json) : Bytes :=
  match part with
  | .str s => unhex s.toList
  | _ =>
    repeated (integerOr part "times" 1).toNat
      (match text? part "hex" with
        | some s => unhex s.toList
        | none => Utf8.encode (textOr part "text" ""))

def bytesOf : Json → Bytes
  | .str s => unhex s.toList
  | .arr parts => parts.flatMap bytesOfPart
  | _ => []

end EdgeSession.Script
