/-!
Looking for one text inside another.
-/
namespace EdgeSession.Text

/-- What follows `front` at the start of a text. -/
def afterPrefix? (front : List Char) (s : List Char) : Option (List Char) :=
  if front.isPrefixOf s then some (s.drop front.length) else none

def splitAtFrom (part : List Char) (before : List Char) :
    List Char → Option (List Char × List Char)
  | [] => if part = [] then some (before.reverse, []) else none
  | c :: rest =>
    match afterPrefix? part (c :: rest) with
    | some after => some (before.reverse, after)
    | none => splitAtFrom part (c :: before) rest

/-- The parts before and after the first place where `part` stands. -/
def splitAt? (part : List Char) (s : List Char) : Option (List Char × List Char) :=
  splitAtFrom part [] s

/-- What follows the first place where `part` stands. -/
def after? (part : List Char) (s : List Char) : Option (List Char) :=
  (splitAt? part s).map (·.2)

def contains (part : List Char) (s : List Char) : Bool := (splitAt? part s).isSome

/-- The piece under way and the pieces before it, all backwards, after one more character. -/
def splitNext (separator : Char) (state : List Char × List (List Char)) (c : Char) :
    List Char × List (List Char) :=
  if c == separator then ([], state.1.reverse :: state.2) else (c :: state.1, state.2)

/-- The pieces between the separators, one more than there are separators. -/
def splitOn (separator : Char) (s : List Char) : List (List Char) :=
  let (last, pieces) := s.foldl (splitNext separator) ([], [])
  (last.reverse :: pieces).reverse

/-- Without one `tail` at the end. -/
def dropSuffix (tail : List Char) (s : List Char) : List Char :=
  if tail.isSuffixOf s then s.take (s.length - tail.length) else s

/-- Without one `front` at the start. -/
def dropPrefix (front : List Char) (s : List Char) : List Char :=
  (afterPrefix? front s).getD s

/-- The lower-case form of a character as far as ASCII goes: U+212A is a `k` and U+0130 an `i`
with a dot; no other character has an ASCII letter in its lower-case form. -/
def foldCase (c : Char) : List Char :=
  if c.toNat = 0x212A then ['k']
  else if c.toNat = 0x130 then ['i', '\u0307']
  else [c.toLower]

/-- Whether an ASCII phrase stands in a text, both in lower case. -/
def containsFolded (phrase : List Char) (s : List Char) : Bool :=
  contains (phrase.flatMap foldCase) (s.flatMap foldCase)

end EdgeSession.Text
