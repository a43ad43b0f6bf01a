import EdgeSession.Json.Value
import EdgeSession.Pack.Writer

/-!
Writing values of JSON as MessagePack. Every kind of value has a kind of the format to go into, but
a number may be out of its range, a text or a container too long, and containers may nest too deep.
-/
namespace EdgeSession.Pack

/-- What nests deeper than this is not written; a value that holds no others counts, too. -/
def maxWritten : Nat := 512

inductive WriteFault
  | outOfRange
  | tooLong
  | tooDeep
  deriving DecidableEq, Repr

/-- A length that the format can announce. -/
def isLength (n : Nat) : Bool := n < 0x100000000

def arrHeader (count : Nat) : Bytes :=
  if count < 0x10 then [UInt8.ofNat (0x90 + count)]
  else if count < 0x10000 then 0xDC :: Bytes.ofNat 2 count
  else 0xDD :: Bytes.ofNat 4 count

def mapHeader (count : Nat) : Bytes :=
  if count < 0x10 then [UInt8.ofNat (0x80 + count)]
  else if count < 0x10000 then 0xDE :: Bytes.ofNat 2 count
  else 0xDF :: Bytes.ofNat 4 count

def writeText (s : String) : Except WriteFault Bytes :=
  if isLength (Utf8.encode s).length then .ok (packStr s.toList) else .error .tooLong

def writeInt (n : Int) : Except WriteFault Bytes :=
  if Encodable n then .ok (packInt n) else .error .outOfRange

/-- Puts a header before what it announces. -/
def writeCounted (header : Nat → Bytes) (count : Nat) (body : Except WriteFault Bytes) :
    Except WriteFault Bytes :=
  if isLength count then body.map (header count ++ ·) else .error .tooLong

mutual
/-- Writes a value; values may still nest `room` deep. -/
def writeJson : Json → (room : Nat) → Except WriteFault Bytes
  | _, 0 => .error .tooDeep
  | .null, _ + 1 => .ok [0xC0]
  | .bool b, _ + 1 => .ok [if b then 0xC3 else 0xC2]
  | .int n, _ + 1 => writeInt n
  | .real x, _ + 1 => .ok (0xCB :: Bytes.ofNat 8 x.bits.toNat)
  | .str s, _ + 1 => writeText s
  | .arr items, room + 1 => writeCounted arrHeader items.length (writeItems items room)
  | .obj members, room + 1 => writeCounted mapHeader members.length (writeMembers members room)

def writeItems : List Json → (room : Nat) → Except WriteFault Bytes
  | [], _ => .ok []
  | item :: rest, room => do return (← writeJson item room) ++ (← writeItems rest room)

def writeMembers : List (String × Json) → (room : Nat) → Except WriteFault Bytes
  | [], _ => .ok []
  | (name, value) :: rest, room => do
    let key ← writeText name
    return key ++ (← writeJson value room) ++ (← writeMembers rest room)
end

end EdgeSession.Pack
