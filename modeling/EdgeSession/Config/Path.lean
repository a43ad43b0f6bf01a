import EdgeSession.Text.Search

/-!
Where the configuration file is: the path given, else that of the environment, else a file below
the home directory.
-/
namespace EdgeSession.Config

open Text

/-- A path as its root and the parts below it. -/
structure Path where
  root : List Char
  parts : List (List Char)
  deriving DecidableEq, Repr

namespace Path

/-- Reads a path: empty parts and single dots go. Exactly two slashes at the start are a root of
their own. -/
def ofChars (s : List Char) : Path :=
  let slashes := (s.takeWhile (· == '/')).length
  let root := if slashes = 0 then [] else if slashes = 2 then ['/', '/'] else ['/']
  ⟨root, (splitOn '/' s).filter fun part => part != [] && part != ['.']⟩

def render (p : Path) : List Char :=
  if p.root.isEmpty && p.parts.isEmpty then ['.']
  else p.root ++ ['/'].intercalate p.parts

end Path

/-- Home directories: the user's own, and those of others by name. -/
structure Homes where
  own : String
  of? : String → Option String

def Homes.lookup? (homes : Homes) (mark : List Char) : Option String :=
  match mark with
  | ['~'] => some homes.own
  | _ :: user => homes.of? (String.ofList user)
  | [] => none

/-- The user and the home directory on a line of a table of users. -/
def homeOnLine? (line : List Char) : Option (String × String) :=
  match splitOn ':' line with
  | user :: _ :: _ :: _ :: _ :: home :: _ => some (String.ofList user, String.ofList home)
  | _ => none

/-- The home directories that a table of users lists. -/
def Homes.ofTable (own table : String) : Homes :=
  let entries := (splitOn '\n' table.toList).filterMap homeOnLine?
  { own, of? := fun user => entries.lookup user }

/-- Replaces a first part that starts with a tilde by the home directory it names; none when there
is no such user. -/
def Path.expand? (homes : Homes) (p : Path) : Option Path :=
  match p.root, p.parts with
  | [], ('~' :: user) :: rest =>
    (homes.lookup? ('~' :: user)).map fun home =>
      let base := Path.ofChars home.toList
      ⟨base.root, base.parts ++ rest⟩
  | _, _ => some p

/-- The file's place below the home directory. -/
def defaultPath (homes : Homes) : Path :=
  let base := Path.ofChars homes.own.toList
  ⟨base.root, base.parts ++ [".edgeattach".toList, "config.json".toList]⟩

/-- An empty path is none. -/
def given? (path : Option String) : Option String := path.filter (· ≠ "")

/-- The path of the configuration file, none when a home directory cannot be found. -/
def resolve? (homes : Homes) (explicit environment : Option String) : Option String :=
  let path := match given? explicit, given? environment with
    | some path, _ => Path.expand? homes (Path.ofChars path.toList)
    | none, some path => Path.expand? homes (Path.ofChars path.toList)
    | none, none => some (defaultPath homes)
  path.map fun p => String.ofList p.render

end EdgeSession.Config
