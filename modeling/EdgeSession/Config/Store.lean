import EdgeSession.Config.Namespace
import EdgeSession.Json.Printer
import EdgeSession.Json.Reader

/-!
The store of namespaces: read from the text of the configuration file and written back to it.
-/
namespace EdgeSession.Config

def defaultName : Json := .str "default"

/-- Namespaces in the order in which they first came, each under its own name. -/
structure Store where
  defaultNamespace : Json := defaultName
  namespaces : List Namespace := []
  deriving DecidableEq, Repr

inductive LoadFault
  /-- The text is not JSON. -/
  | malformed (fault : Json.Fault)
  | shape (fault : ShapeFault)
  deriving DecidableEq, Repr

/-- Why a namespace is not found. -/
inductive LookupFault
  | unknown (name : Json)
  | notPlain
  deriving DecidableEq, Repr

def LookupFault.message : LookupFault → String
  | .unknown name => "namespace " ++ name.display ++ " not found"
  | .notPlain => "a namespace has a plain name"

namespace Store

/-- Sets a namespace: in the place of the one of its name, else at the end. -/
def insert (n : Namespace) : List Namespace → List Namespace
  | [] => [n]
  | m :: rest => if m.name = n.name then n :: rest else m :: insert n rest

def add (n : Namespace) (s : Store) : Store := { s with namespaces := insert n s.namespaces }

def ofJson (v : Json) : Except ShapeFault Store := do
  let data ← members v
  let namespaces ← members (presentOr data "namespaces" (.obj []))
  let namespaces ← namespaces.mapM fun (name, v) => Namespace.ofJson name v
  return { defaultNamespace := presentOr data "default_namespace" defaultName, namespaces }

/-- The store that a file's text holds; without a file it is empty. -/
def load (file : Option String) : Except LoadFault Store :=
  match file with
  | none => .ok {}
  | some text =>
    match Json.parse text.toList with
    | .error fault => .error (.malformed fault)
    | .ok v =>
      match ofJson v with
      | .error fault => .error (.shape fault)
      | .ok store => .ok store

def toJson (s : Store) : Json :=
  .obj [("default_namespace", s.defaultNamespace),
    ("namespaces", .obj (s.namespaces.map fun n => (n.name, n.toJson)))]

/-- The text of the file for this store. -/
def fileText (s : Store) : String := s.toJson.pretty

/-- The text that is written for this store, if it can be written. -/
def flush? (s : Store) : Option String := s.toJson.pretty?

/-- The names, sorted. -/
def names (s : Store) : List String :=
  (s.namespaces.map (·.name)).mergeSort fun a b => decide (a ≤ b)

/-- A name, or the default one for what counts as none. -/
def nameOr (s : Store) (name : Json) : Json := if name.isTruthy then name else s.defaultNamespace

def find? (s : Store) (name : String) : Option Namespace := s.namespaces.find? (·.name = name)

/-- The namespace of that name, or the default one for an empty name. -/
def get (s : Store) (name : Json) : Except LookupFault Namespace :=
  match s.nameOr name with
  | .str n =>
    match s.find? n with
    | some found => .ok found
    | none => .error (.unknown (.str n))
  | .arr _ => .error .notPlain
  | .obj _ => .error .notPlain
  | v => .error (.unknown v)

def modify (name : String) (f : Namespace → Namespace) (s : Store) : Store :=
  { s with namespaces := s.namespaces.map fun n => if n.name = name then f n else n }

/-- Changes the namespace that `get` finds. -/
def update (name : Json) (f : Namespace → Namespace) (s : Store) : Except LookupFault Store :=
  match s.get name with
  | .error fault => .error fault
  | .ok n => .ok (s.modify n.name f)

def updateUser (name access refresh : Json) (s : Store) : Except LookupFault Store :=
  s.update name fun n =>
    { n with user := { n.user with accessToken := access, refreshToken := refresh } }

def replaceAgents (name : Json) (agents : List Agent) (s : Store) : Except LookupFault Store :=
  s.update name fun n => { n with agents }

end Store
end EdgeSession.Config
