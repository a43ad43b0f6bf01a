import EdgeSession.Config.Namespace
import EdgeSession.Json.Printer

/-!
Agents of a namespace, brought into line with the list of the control plane. What the control plane
says of an agent counts; how an agent was set up is known here alone and stays. An agent of the
operator's own machine stays as it is, but for the id that the control plane gives it.
-/
namespace EdgeSession.Reconcile

open Config

/-- Values that can be looked up by. -/
def isPlain : Json → Bool
  | .arr _ => false
  | .obj _ => false
  | _ => true

/-- The name of a member that a plain value gives: a text is the name, all else as it is spelt. -/
def memberName : Json → String
  | .str s => s
  | v => v.compact

/-- The name and value that an item of a list of pairs stands for. -/
def pair (index : Nat) (v : Json) : Except ShapeFault (String × Json) :=
  let made (parts : List Json) : Except ShapeFault (String × Json) :=
    match parts with
    | [name, value] => if isPlain name then .ok (memberName name, value) else .error .notPlain
    | _ => .error (.notPair index parts.length)
  match v with
  | .arr items => made items
  | .obj fields => made (fields.map fun (name, _) => .str name)
  | .str s => made (s.toList.map fun c => .str (String.ofList [c]))
  | _ => .error .notList

def pairs (index : Nat) : List Json → Except ShapeFault (List (String × Json))
  | [] => .ok []
  | v :: rest => do
    let head ← pair index v
    let tail ← pairs (index + 1) rest
    return head :: tail

/-- A copy of an object; a list of pairs will do for one. -/
def copyObject (v : Json) : Except ShapeFault Json :=
  let ofPairs (items : List Json) : Except ShapeFault Json := do
    let pairs ← pairs 0 items
    return .obj (pairs.foldl (fun acc (name, value) => Json.insert name value acc) [])
  match v with
  | .obj _ => .ok v
  | .arr items => ofPairs items
  | .str s => ofPairs (s.toList.map fun c => .str (String.ofList [c]))
  | _ => .error .notList

/-- The first agent of the operator's own machine. -/
def local? (stored : List Agent) : Option Agent := stored.find? (·.isLocal)

/-- Gives an id to the first local agent of a list. -/
def setLocalUuid (uuid : Json) : List Agent → List Agent
  | [] => []
  | a :: rest => if a.isLocal then { a with uuid } :: rest else a :: setLocalUuid uuid rest

/-- The last stored agent of that name that is not local. -/
def known? (stored : List Agent) (name : Json) : Option Agent :=
  (stored.reverse.find? fun a => !a.isLocal && a.name.sameKey name)

/-- What the control plane says of one agent. -/
structure Listed where
  name : Json
  uuid : Json
  host : Json
  deriving DecidableEq, Repr

def listed (v : Json) : Except ShapeFault Listed := do
  let info ← members v
  return { name := memberOr info "name" (.str "")
           uuid := memberOr info "uuid" (.str "")
           host := memberOr info "host" (.str "") }

/-- The record of a listed agent, with what is known here of an agent of its name. -/
def record (stored : List Agent) (info : Listed) : Except ShapeFault Agent :=
  if !isPlain info.name then .error .notPlain
  else match known? stored info.name with
    | none => .ok { name := info.name, uuid := info.uuid, host := info.host }
    | some known => do
      let ssh ← copyObject known.ssh
      return { name := info.name, uuid := info.uuid, host := info.host, created := known.created,
               ssh }

/-- Goes through the list; the records made and the stored agents, whose local one may have got its
id by the time a fault ends it. -/
def go (stored : List Agent) : List Json → Except ShapeFault (List Agent) × List Agent
  | [] => (.ok [], stored)
  | v :: rest =>
    match listed v with
    | .error fault => (.error fault, stored)
    | .ok info =>
      if (local? stored).any fun a => info.name.same a.name then
        go (setLocalUuid info.uuid stored) rest
      else match record stored info with
        | .error fault => (.error fault, stored)
        | .ok made =>
          match go stored rest with
          | (.error fault, stored) => (.error fault, stored)
          | (.ok others, stored) => (.ok (made :: others), stored)

/-- The agents in line with the list, the local one last, and the stored agents as they are now. -/
def merge (stored : List Agent) (backend : List Json) :
    Except ShapeFault (List Agent) × List Agent :=
  if stored.any fun a => !a.isLocal && !isPlain a.name then (.error .notPlain, stored)
  else match go stored backend with
    | (.error fault, stored) => (.error fault, stored)
    | (.ok made, stored) => (.ok (made ++ (local? stored).toList), stored)

end EdgeSession.Reconcile
