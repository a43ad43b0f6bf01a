import EdgeSession.Text.Quoted
import EdgeSession.Text.Search

/-!
Names of microservices: a name alone, or an application and a name behind a slash.
-/
namespace EdgeSession.Attach

open Text

def isNameChar (c : Char) : Bool :=
  let n := c.toNat
  (0x61 ≤ n && n ≤ 0x7A) || (0x30 ≤ n && n ≤ 0x39)

/-- Lower-case letters, digits and hyphens, with a letter or digit at both ends; one line feed may
follow. -/
def isName (s : List Char) : Bool :=
  let s := dropSuffix ['\n'] s
  match s with
  | [] => false
  | first :: _ =>
    isNameChar first && (s.getLast?.any isNameChar) && s.all fun c => isNameChar c || c == '-'

inductive NameFault
  /-- Nothing, or more than two parts. -/
  | parts (resource name : String)
  | part (label : String) (text : List Char)
  deriving DecidableEq, Repr

def NameFault.message : NameFault → String
  | .parts resource name => s!"Invalid {resource} name {name}"
  | .part label text =>
    s!"Invalid {label} name " ++ String.ofList (quoteChars text) ++
      ": use lowercase letters, digits and '-'"

def checkPart (label : String) (part : List Char) : Except NameFault Unit :=
  if isName part then .ok () else .error (.part label part)

/-- The application, empty if there is none, and the name. -/
def parseName (name resource : String) : Except NameFault (String × String) :=
  match if name = "" then [] else splitOn '/' name.toList with
  | [part] => do
    checkPart resource part
    return ("", String.ofList part)
  | [app, part] => do
    checkPart "application" app
    checkPart resource part
    return (String.ofList app, String.ofList part)
  | _ => .error (.parts resource name)

end EdgeSession.Attach
