import EdgeSession.Bytes

/-!
The line that the operator is typing, as far as it can be told from the keys. It only serves to see
whether the line is empty; the remote side does the editing.
-/
namespace EdgeSession.Terminal

/-- A line is tracked up to this many bytes. -/
def lineLimit : Nat := 1024

def escapeKey : UInt8 := 0x1B

structure Line where
  /-- The bytes typed, last first. -/
  typed : Bytes := []
  cursor : Nat := 0
  /-- Whether an escape sequence is under way. -/
  inEscape : Bool := false
  deriving DecidableEq, Repr

namespace Line

def bytes (l : Line) : Bytes := l.typed.reverse

def isEmpty (l : Line) : Bool := l.typed.isEmpty

/-- Drops the last byte, if there is one. -/
def erase (l : Line) : Line := { l with typed := l.typed.tail, cursor := l.typed.tail.length }

/-- A byte ends an escape sequence unless it introduces one. -/
def endsEscape (b : UInt8) : Bool := b != 0x5B && b != 0x4F && 0x40 ≤ b && b ≤ 0x7E

/-- Follows one byte of the operator's. -/
def track (l : Line) (b : UInt8) : Line :=
  if l.inEscape then { l with inEscape := !endsEscape b }
  else if b = escapeKey then { l with inEscape := true }
  else if b = 0x0A || b = 0x0D then { l with typed := [], cursor := 0 }
  else if b = 0x08 || b = 0x7F then l.erase
  else if 0x20 ≤ b && l.cursor < lineLimit then
    { l with typed := b :: l.typed, cursor := l.cursor + 1 }
  else l

def trackAll (l : Line) (data : Bytes) : Line := data.foldl track l

def cleared : Line := {}

end Line
end EdgeSession.Terminal
