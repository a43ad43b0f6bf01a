import EdgeSession.Text.Utf8

/-!
Form encoding of names and values in a query: a blank is a plus sign, and every byte of what is not
unreserved a percent escape.
-/
namespace EdgeSession.Form

def isUnreserved (c : Char) : Bool :=
  let n := c.toNat
  (0x41 ≤ n && n ≤ 0x5A) || (0x61 ≤ n && n ≤ 0x7A) || (0x30 ≤ n && n ≤ 0x39) ||
    c == '_' || c == '.' || c == '-' || c == '~'

def upperHexDigit (n : Nat) : Char :=
  if n < 10 then Char.ofNat (0x30 + n) else Char.ofNat (0x41 + (n - 10))

def percent (b : UInt8) : List Char :=
  ['%', upperHexDigit (b.toNat / 16), upperHexDigit (b.toNat % 16)]

def encodeChar (c : Char) : List Char :=
  if isUnreserved c then [c]
  else if c = ' ' then ['+']
  else (Utf8.encodeChar c).flatMap percent

def encode (s : String) : List Char := s.toList.flatMap encodeChar

/-- Pairs of names and values, in the order given. -/
def encodePairs : List (String × String) → List Char
  | [] => []
  | [(name, value)] => encode name ++ '=' :: encode value
  | (name, value) :: rest => encode name ++ '=' :: encode value ++ '&' :: encodePairs rest

end EdgeSession.Form
