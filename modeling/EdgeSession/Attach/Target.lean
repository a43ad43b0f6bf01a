import EdgeSession.Attach.Fault
import EdgeSession.Session.Address

/-!
Finding what to attach to. A name is looked up at the control plane, with the session renewed, and
what is found becomes an address, the id of the remote side and a token. Nothing is dialled here.
-/
namespace EdgeSession.Attach

open ControlPlane Text

/-- Where a session goes, and the token that lets it in. -/
structure Target where
  url : String
  id : Json
  token : Json
  deriving DecidableEq, Repr

namespace Target

/-- The id of a record of the control plane. -/
def idOf (record : Json) : Search Json :=
  match record.get? "uuid" with
  | some id => pure id
  | none => throw .noId

/-- Log options, as far as they hold up. -/
def checked (options : LogTail.Options) : Search Unit :=
  Search.ofExcept (fun fault => .refused fault.message) options.check

/-- The application and name that a microservice's name stands for. -/
def nameOf (name : String) : Search (String × String) :=
  Search.ofExcept (fun fault => .refused fault.message) (parseName name "microservice")

def login (server : Http.Server) (ns : String) : Search Client :=
  Search.ofTask do return (← Caches.client server ns).client

def noApplicationText : String := "Invalid application id"

/-- Whether a microservice that was not found may be one of the system's. -/
def mayBeSystem (kind : FailureKind) (text : String) : Bool :=
  kind == .notFound || contains noApplicationText.toList text.toList

/-- A microservice by its application and name, and whether it is one of the system's. These are
looked at second. -/
def microservice (server : Http.Server) (client : Client) (app name : String) :
    Search (Json × Bool) :=
  tryCatch (Search.ofTask do
      return (← Caches.query client (Client.microserviceNamed server app name), false)) fun
    | .control (.failure kind text) =>
      if mayBeSystem kind text then
        Search.telling "" do
          return (← Caches.query client (Client.systemMicroserviceNamed server app name), true)
      else throw (.refused text)
    | fault => throw fault

/-- The agent of that name. -/
def agent (server : Http.Server) (client : Client) (introduction name : String) : Search Json :=
  Search.telling introduction (Caches.query client (Client.agentNamed server name))

def isRunning (status : Json) : Bool := status == .str "RUNNING"

/-- The status word of a microservice; empty when none is known. -/
def statusOf (record : Json) : Except Config.ShapeFault Json :=
  let status := (record.get? "status").getD .null
  if status.isTruthy then
    match status with
    | .obj members => .ok ((Json.lookup "status" members).getD (.str ""))
    | _ => .error .notObject
  else .ok (.str "")

/-- A shell in a microservice. -/
def shell (server : Http.Server) (client : Client) (app name : String) : Search Target := do
  let (record, _) ← microservice server client app name
  let id ← idOf record
  return { url := Address.exec client.baseUrl id.asText, id, token := client.access }

def microserviceShell (server : Http.Server) (ns name : String) : Search Target := do
  let (app, name) ← nameOf name
  let client ← login server ns
  shell server client app name

/-- A shell on an agent, by way of its debug microservice. -/
def agentShell (server : Http.Server) (ns name : String) : Search Target := do
  let client ← login server ns
  let record ← agent server client "Failed to get Agent by name: " name
  let id := (← idOf record).asText
  shell server client ("system-" ++ id) ("debug-" ++ id)

/-- The last of the stored agents of that name. All stored names have to be plain. -/
def storedAgent (agents : List Config.Agent) (name : String) :
    Except Config.ShapeFault (Option Config.Agent) :=
  if agents.any fun a => a.name matches .arr _ | .obj _ then .error .notPlain
  else .ok (agents.reverse.find? fun a => a.name == .str name)

/-- The log of an agent. It has to be known in the store, and not be local. -/
def agentLog (server : Http.Server) (ns name : String) (options : LogTail.Options) :
    Search Target := do
  checked options
  Search.ofTask (Caches.sync server ns)
  let n ← Search.ofExcept (fun fault => .control (.lookup fault)) ((← get).store.get (.str ns))
  match ← Search.ofExcept (fun fault => .control (.shape fault)) (storedAgent n.agents name) with
  | none => throw (.refused s!"Agent {name} not found in namespace {ns}")
  | some stored =>
    if stored.isLocal then
      throw (.refused s!"Agent {name} is local; read its container logs directly")
    let client ← login server ns
    let record ← agent server client "failed to get Agent by name: " name
    let id ← idOf record
    return {
      url := Address.agentLogs client.baseUrl id.asText (some options)
      id
      token := client.access }

/-- The log of a microservice, which has to be running. -/
def microserviceLog (server : Http.Server) (ns name : String) (options : LogTail.Options) :
    Search Target := do
  checked options
  let (app, name) ← nameOf name
  let client ← login server ns
  let (record, system) ← microservice server client app name
  let status ← Search.ofExcept (fun fault => .control (.shape fault)) (statusOf record)
  if !isRunning status then throw (.refused "The microservice is not currently running")
  let id ← idOf record
  return {
    url := Address.microserviceLogs client.baseUrl id.asText (some options) system
    id
    token := client.access }

end Target
end EdgeSession.Attach
