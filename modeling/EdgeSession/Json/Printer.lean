import EdgeSession.Json.Value

/-!
Writing JSON: indented and in ASCII for files, compact for requests.
-/
namespace EdgeSession.Json

/-- The escape of a character, where the format has one of its own. -/
def shortEscape (c : Char) : Option (List Char) :=
  if c == '\x22' then some ['\x5c', '\x22']
  else if c == '\x5c' then some ['\x5c', '\x5c']
  else if c == '\n' then some ['\x5c', 'n']
  else if c == '\r' then some ['\x5c', 'r']
  else if c == '\t' then some ['\x5c', 't']
  else if c == '\x08' then some ['\x5c', 'b']
  else if c == '\x0c' then some ['\x5c', 'f']
  else none

def unitEscape (n : Nat) : List Char := '\x5c' :: 'u' :: Text.hex 4 n

/-- Above the first plane a character is written as its two UTF-16 units. -/
def escapeAscii (c : Char) : List Char :=
  match shortEscape c with
  | some escape => escape
  | none =>
    let n := c.toNat
    if 0x20 ≤ n && n < 0x7F then [c]
    else if n < 0x10000 then unitEscape n
    else unitEscape (0xD800 + (n - 0x10000) / 0x400) ++ unitEscape (0xDC00 + (n - 0x10000) % 0x400)

/-- Only controls are escaped. -/
def escapeControl (c : Char) : List Char :=
  match shortEscape c with
  | some escape => escape
  | none => if c.toNat < 0x20 then unitEscape c.toNat else [c]

def quoted (escape : Char → List Char) (s : String) : List Char :=
  '\x22' :: s.toList.flatMap escape ++ ['\x22']

def renderReal (x : Binary64) : List Char := (x.render "Infinity" "NaN").toList

def indent (depth : Nat) : List Char := '\n' :: List.replicate (2 * depth) ' '

mutual
/-- One member or item to a line, two blanks deeper than what holds it; strings in ASCII. -/
def prettyAt (depth : Nat) : Json → List Char
  | null => "null".toList
  | bool b => (if b then "true" else "false").toList
  | int n => (toString n).toList
  | real x => renderReal x
  | str s => quoted escapeAscii s
  | arr [] => ['[', ']']
  | arr (v :: rest) =>
    '[' :: indent (depth + 1) ++ prettyAt (depth + 1) v ++
      prettyItems (depth + 1) rest ++ indent depth ++ [']']
  | obj [] => ['\x7b', '\x7d']
  | obj ((k, v) :: rest) =>
    '\x7b' :: indent (depth + 1) ++ quoted escapeAscii k ++ [':', ' '] ++ prettyAt (depth + 1) v ++
      prettyMembers (depth + 1) rest ++ indent depth ++ ['\x7d']

def prettyItems (depth : Nat) : List Json → List Char
  | [] => []
  | v :: rest => ',' :: indent depth ++ prettyAt depth v ++ prettyItems depth rest

def prettyMembers (depth : Nat) : List (String × Json) → List Char
  | [] => []
  | (k, v) :: rest =>
    ',' :: indent depth ++ quoted escapeAscii k ++ [':', ' '] ++ prettyAt depth v ++
      prettyMembers depth rest
end

def pretty (v : Json) : String := String.ofList (prettyAt 0 v)

/-- An integer of too many digits is not written. -/
def isShort : Json → Bool
  | int n => n.natAbs < Nat.pow 10 maxDigits
  | _ => true

/-- The text of a value; none when an integer in it is not written. -/
def pretty? (v : Json) : Option String := if v.every isShort then some v.pretty else none

mutual
/-- No blanks; only controls escaped. -/
def compactChars : Json → List Char
  | null => "null".toList
  | bool b => (if b then "true" else "false").toList
  | int n => (toString n).toList
  | real x => renderReal x
  | str s => quoted escapeControl s
  | arr [] => ['[', ']']
  | arr (v :: rest) => '[' :: compactChars v ++ compactItems rest ++ [']']
  | obj [] => ['\x7b', '\x7d']
  | obj ((k, v) :: rest) =>
    '\x7b' :: quoted escapeControl k ++ ':' :: compactChars v ++ compactMembers rest ++ ['\x7d']

def compactItems : List Json → List Char
  | [] => []
  | v :: rest => ',' :: compactChars v ++ compactItems rest

def compactMembers : List (String × Json) → List Char
  | [] => []
  | (k, v) :: rest =>
    ',' :: quoted escapeControl k ++ ':' :: compactChars v ++ compactMembers rest
end

def compact (v : Json) : String := String.ofList (compactChars v)

mutual
/-- Whether every number is finite, so that the standard has a spelling for it. -/
def isStandard : Json → Bool
  | real x => x.isFinite
  | arr items => areStandard items
  | obj members => membersStandard members
  | _ => true

def areStandard : List Json → Bool
  | [] => true
  | v :: rest => isStandard v && areStandard rest

def membersStandard : List (String × Json) → Bool
  | [] => true
  | (_, v) :: rest => isStandard v && membersStandard rest
end

end EdgeSession.Json
