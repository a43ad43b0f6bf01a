import EdgeSession.ControlPlane.Client
import EdgeSession.ControlPlane.Reconcile

/-!
Caches between the commands and the control plane: a logged-in client for each namespace, the list
of agents for each namespace, and a reconciliation of the stored agents that happens once. Each
serves one request at a time, so a request is one step on the state they share.
-/
namespace EdgeSession.ControlPlane

open Config

/-- A client, and the number under which it was logged in. -/
structure Login where
  number : Nat
  client : Client
  deriving DecidableEq, Repr

structure Caches where
  store : Store
  /-- The text of the configuration file. -/
  file : Option String
  log : List Http.Request := []
  clients : List (String × Login) := []
  logins : Nat := 0
  lists : List (String × List Json) := []
  synced : Bool := false
  closed : Bool := false
  deriving DecidableEq, Repr

namespace Caches

/-- A map with one entry for each namespace. -/
def put (name : String) (value : α) : List (String × α) → List (String × α)
  | [] => [(name, value)]
  | (k, v) :: rest => if k = name then (k, value) :: rest else (k, v) :: put name value rest

/-- Lets a client talk to the control plane; the client as it is then goes with the result. -/
def talk (client : Client) (task : Task Talk α) : Task Caches (Except Fault α × Client) := do
  let s ← get
  let (result, t) := task.exec ⟨client, s.log⟩
  set { s with log := t.log }
  return (result, t.client)

/-- Has a client ask something that leaves it as it is. -/
def query (client : Client) (task : Task Talk α) : Task Caches α := do
  let (result, _) ← talk client task
  Task.ofExcept id result

/-- Writes the store to the file. -/
def flush : Task Caches Unit := modify fun s => { s with file := some s.store.fileText }

def remember (name : String) (login : Login) : Task Caches Unit :=
  modify fun s => { s with clients := put name login s.clients }

/-- The base address of a namespace. -/
def baseUrl (n : Namespace) : Except Fault String :=
  match n.endpoint with
  | .str endpoint =>
    match BaseUrl.normalize endpoint.toList n.useHttps.isTruthy with
    | .ok url => .ok (String.ofList url)
    | .error fault => .error (.endpoint fault)
  | _ => .error .endpointNotText

/-- A client for the credentials of a namespace, not yet logged in. -/
def clientOf (n : Namespace) : Except Fault Client := do
  let url ← baseUrl n
  let password ← n.user.rawPassword.mapError .password
  return .make url (.str "") n.user.refreshToken n.user.email (.str password)

/-- Logs in to a namespace. -/
def logIn (server : Http.Server) (name : String) : Task Caches Login := do
  let n ← Task.ofExcept .lookup ((← get).store.get (.str name))
  let client ← Task.ofExcept id (clientOf n)
  let (result, client) ← talk client (Client.renew server)
  Task.ofExcept id result
  let s ← get
  let login : Login := ⟨s.logins, client⟩
  set { s with logins := s.logins + 1 }
  remember name login
  return login

/-- Renews the session of a client that is there already. -/
def renew (server : Http.Server) (name : String) (login : Login) : Task Caches Login := do
  let (result, client) ← talk login.client (Client.renew server)
  let login := { login with client }
  remember name login
  Task.ofExcept id result
  return login

/-- The client of a namespace, its session renewed. Its tokens go into the store and the file, which
`write` writes. -/
def client (server : Http.Server) (name : String) (write : Task Caches Unit := flush) :
    Task Caches Login := do
  if name = "" then throw .emptyNamespace
  if (← get).closed then throw (.closed "client-cache")
  let login ← match (← get).clients.lookup name with
    | some login => renew server name login
    | none => logIn server name
  let s ← get
  let store ← Task.ofExcept .lookup
    (s.store.updateUser (.str name) login.client.access login.client.refresh)
  set { s with store }
  write
  return login

/-- The agents of a namespace as the control plane lists them. A list that is turned down is asked
for once more with a new session. -/
def agents (server : Http.Server) (name : String) (write : Task Caches Unit := flush) :
    Task Caches (List Json) := do
  if name = "" then throw .emptyNamespace
  if (← get).closed then throw (.closed "agent-cache")
  match (← get).lists.lookup name with
  | some agents => return agents
  | none =>
    let login ← client server name write
    let agents ← tryCatch (query login.client (Client.listAgents server)) fun
      | .failure .unauthorized _ => do
        let login ← client server name write
        query login.client (Client.listAgents server)
      | fault => throw fault
    modify fun s => { s with lists := put name agents s.lists }
    return agents

/-- Sets the agents of a namespace in the store. -/
def replaceAgents (name : Json) (agents : List Agent) : Task Caches Unit := do
  let s ← get
  let store ← Task.ofExcept .lookup (s.store.replaceAgents name agents)
  set { s with store }

/-- Brings the stored agents of a namespace into line with a list. -/
def reconcile (name : String) (n : Namespace) (backend : List Json)
    (write : Task Caches Unit := flush) : Task Caches Unit := do
  let (merged, stored) := Reconcile.merge n.agents backend
  replaceAgents (.str name) stored
  replaceAgents (.str name) (← Task.ofExcept .shape merged)
  write

/-- Reconciles the stored agents, once for all namespaces. A local control plane has no list. -/
def sync (server : Http.Server) (name : String) (write : Task Caches Unit := flush) :
    Task Caches Unit := do
  if (← get).closed then throw (.closed "agent-sync")
  if (← get).synced then return
  let n ← Task.ofExcept .lookup ((← get).store.get (.str name))
  if !n.localControlPlane.isTruthy then
    let backend ← agents server name write
    let n ← Task.ofExcept .lookup ((← get).store.get (.str name))
    reconcile name n backend write
  modify fun s => { s with synced := true }

def forgetClients : Task Caches Unit := do
  if (← get).closed then throw (.closed "client-cache")
  modify fun s => { s with clients := [] }

def forgetAgents : Task Caches Unit := do
  if (← get).closed then throw (.closed "agent-cache")
  modify fun s => { s with lists := [] }

/-- Forgets the clients and the lists. -/
def invalidate : Task Caches Unit := do
  forgetClients
  forgetAgents

def close : Task Caches Unit := modify fun s => { s with closed := true }

/-- Caches over the store that a file holds. -/
def load (file : Option String) : Except LoadFault Caches := do
  return { store := ← Store.load file, file }

end Caches
end EdgeSession.ControlPlane
