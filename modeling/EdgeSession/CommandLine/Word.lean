import EdgeSession.Text.Digit
import EdgeSession.Text.Quoted
import EdgeSession.Text.Search

/-!
The words of a command line and what they are taken for. An option may be shortened as long as it
stays unambiguous, short options may be written together behind one hyphen, and behind `--` nothing
is an option.
-/
namespace EdgeSession.CommandLine

open Text

/-- An option: the ways to write it, and whether a value goes with it. -/
structure Flag where
  names : List String
  hasValue : Bool := false
  deriving DecidableEq, Repr

def Flag.label (f : Flag) : String := "/".intercalate f.names

/-- Why a command line is turned down. -/
inductive UsageFault
  | ambiguous (word : String) (names : List String)
  /-- A value for an option that takes none. -/
  | unwantedValue (label value : String)
  | valueMissing (label : String)
  | notInteger (label text : String)
  | unknownChoice (label text : String) (choices : List String)
  | missing (labels : List String)
  | unrecognized (words : List String)
  deriving DecidableEq, Repr

def listed (texts : List String) : String := ", ".intercalate texts

def UsageFault.message : UsageFault → String
  | .ambiguous word names => s!"ambiguous option: {word} could match " ++ listed names
  | .unwantedValue label value =>
    s!"argument {label}: ignored explicit argument " ++ quote value
  | .valueMissing label => s!"argument {label}: expected one argument"
  | .notInteger label text => s!"argument {label}: invalid int value: " ++ quote text
  | .unknownChoice label text choices =>
    s!"argument {label}: invalid choice: " ++ quote text ++
      " (choose from " ++ listed (choices.map quote) ++ ")"
  | .missing labels => "the following arguments are required: " ++ listed labels
  | .unrecognized words => "unrecognized arguments: " ++ " ".intercalate words

/-- What a word is taken for. -/
inductive Token
  | word (s : String)
  /-- The first `--`. -/
  | separator
  /-- An option under its full name, with the value that the word itself carries. -/
  | option (flag : Flag) (name : String) (value : Option (List Char)) (text : String)
  /-- It looks like an option but is none. -/
  | unknown (s : String)
  deriving DecidableEq, Repr

/-- The word as it was written. -/
def Token.text : Token → String
  | word s => s
  | separator => "--"
  | option _ _ _ text => text
  | unknown s => s

namespace Token

/-- Every option under each of its names. -/
def named (flags : List Flag) : List (String × Flag) :=
  flags.flatMap fun f => f.names.map (·, f)

def find? (flags : List Flag) (name : String) : Option Flag := (named flags).lookup name

/-- A hyphen and digits, as a whole number or as a fraction; one line feed may follow. -/
def isNegative (s : List Char) : Bool :=
  match dropSuffix ['\n'] s with
  | '-' :: rest =>
    match splitAt? ['.'] rest with
    | none => !rest.isEmpty && rest.all isDigit
    | some (whole, fraction) => whole.all isDigit && !fraction.isEmpty && fraction.all isDigit
  | _ => false

/-- The options that a word may stand for when it is not the full name of one. -/
def candidates (flags : List Flag) (s : String) : List Token :=
  match s.toList with
  | '-' :: '-' :: _ =>
    let (front, value) := match splitAt? ['='] s.toList with
      | some (front, value) => (front, some value)
      | none => (s.toList, none)
    ((named flags).filter fun (name, _) => front.isPrefixOf name.toList).map fun (name, f) =>
      option f name value s
  | a :: b :: value =>
    ((named flags).filter fun (name, _) => name.toList == [a, b]).map fun (name, f) =>
      option f name (some value) s
  | _ => []

def nameOf : Token → String
  | option _ name _ _ => name
  | t => t.text

/-- What a word that starts with a hyphen, and has more to it, is taken for. -/
def ofHyphened (flags : List Flag) (s : String) : Except UsageFault Token :=
  match candidates flags s with
  | [t] => .ok t
  | [] => .ok (if isNegative s.toList || s.toList.contains ' ' then word s else unknown s)
  | several => .error (.ambiguous s (several.map nameOf))

/-- The option before the first equals sign, and the value behind it. -/
def ofAssignment? (flags : List Flag) (s : String) : Option Token :=
  match splitAt? ['='] s.toList with
  | some (front, value) =>
    let name := String.ofList front
    (find? flags name).map fun f => option f name (some value) s
  | none => none

def ofWord (flags : List Flag) (s : String) : Except UsageFault Token :=
  if s.toList.head? ≠ some '-' then .ok (word s)
  else match find? flags s with
    | some f => .ok (option f s none s)
    | none =>
      if s = "-" then .ok (word s)
      else match ofAssignment? flags s with
        | some t => .ok t
        | none => ofHyphened flags s

/-- What the words of a line are taken for. -/
def ofWords (flags : List Flag) : List String → Except UsageFault (List Token)
  | [] => .ok []
  | "--" :: rest => .ok (separator :: rest.map word)
  | s :: rest => do return (← ofWord flags s) :: (← ofWords flags rest)

end Token
end EdgeSession.CommandLine
