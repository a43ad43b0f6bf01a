import EdgeSession.ControlPlane.Fault

/-!
A client of the control plane's REST interface: it holds a session's tokens, renews them, and looks
up agents and microservices. Tokens are kept as they came, whatever their kind.
-/
namespace EdgeSession.ControlPlane

open Config

structure Client where
  baseUrl : String
  access : Json := .str ""
  refresh : Json := .str ""
  email : Json := .str ""
  password : Json := .str ""
  deriving DecidableEq, Repr

/-- A client and the requests that were made so far. -/
structure Talk where
  client : Client
  log : List Http.Request
  deriving DecidableEq, Repr

namespace Client

def make (baseUrl : String) (access refresh email password : Json) : Client :=
  { baseUrl := String.ofList (Text.dropSlashes baseUrl.toList), access, refresh, email, password }

/-- What to ask: a path with a query, and the body to send. -/
structure Question where
  method : String
  path : String
  query : Option (String × String) := none
  body : Option Json := none
  /-- Whether the access token goes along. -/
  authorized : Bool := true
  deriving DecidableEq, Repr

/-- The bearer token that goes along with a question. -/
def bearer? (c : Client) (q : Question) : Option String :=
  if q.authorized && c.access.isTruthy then some ("Bearer " ++ c.access.asText) else none

def isAscii (s : String) : Bool := s.toList.all fun c => c.toNat < 0x80

def bodyText : Option Json → String
  | some v => v.compact
  | none => ""

/-- The request for a question. A name in the address takes the place of the token. -/
def request (server : Http.Server) (c : Client) (q : Question) : Except Fault Http.Request := do
  let query := q.query.map fun pair => Form.encodePairs [pair]
  let target ← (server.spell (c.baseUrl ++ q.path).toList query).mapError .address
  let bearer := c.bearer? q
  if !(bearer.all isAscii) then .error .notAscii
  else if !(q.body.all Json.isStandard) then .error .notStandard
  else return {
    method := q.method
    url := String.ofList target.url
    path := String.ofList target.path
    authorization :=
      if target.user.isEmpty && target.password.isEmpty then bearer
      else some (Http.basicAuthorization target.user target.password)
    contentType := "application/json"
    body := bodyText q.body }

/-- A byte order mark in front of an answer counts for nothing. -/
def answerText (body : String) : List Char :=
  match body.toList with
  | '\uFEFF' :: rest => rest
  | s => s

/-- What an answer holds. An empty one holds nothing. -/
def readAnswer (path : String) (status : Nat) (body : String) : Except Fault Json :=
  if status = 401 || status = 403 then
    .error (.failure .unauthorized s!"control plane returned {status} for {path}")
  else if status = 404 then .error (.failure .notFound s!"{path} not found")
  else if 400 ≤ status && status ≤ 599 then
    .error (.failure .general s!"control plane returned {status} for {path}: {body}")
  else if body = "" then .ok (.obj [])
  else
    let text := answerText body
    match Json.parseValue text with
    | .ok v => .ok v
    | .error fault =>
      .error (.failure .general (s!"invalid JSON from {path}: " ++ fault.message text))

def readReply (c : Client) (path : String) : Http.Reply → Except Fault Json
  | .answer status body => readAnswer path status body
  | .unreachable text =>
    .error (.failure .unreachable s!"Cannot reach control plane at {c.baseUrl}{path}: {text}")
  | .broken text => .error (.broken text)

/-- Asks the control plane. -/
def ask (server : Http.Server) (q : Question) : Task Talk Json := do
  let s ← get
  let request ← Task.ofExcept id (s.client.request server q)
  let reply := server s.log request
  set { s with log := s.log ++ [request] }
  Task.ofExcept id (s.client.readReply q.path reply)

/-- The access token in an answer to a login, which has to be there. -/
def accessToken? (tokens : Json) : Option Json :=
  (tokens.get? "accessToken").filter Json.isTruthy

/-- Takes over the tokens of an answer. The refresh token stays if there is no new one. -/
def keepTokens (tokens : Json) : Task Talk Unit :=
  match accessToken? tokens with
  | none => throw (.failure .unauthorized "login response carried no access token")
  | some access =>
    modify fun s =>
      { s with client :=
          { s.client with access, refresh := (tokens.get? "refreshToken").getD s.client.refresh } }

def refreshQuestion (c : Client) : Question :=
  { method := "POST", path := "/user/refresh", body := some (.obj [("refreshToken", c.refresh)]),
    authorized := false }

def loginQuestion (c : Client) : Question :=
  { method := "POST", path := "/user/login",
    body := some (.obj [("email", c.email), ("password", c.password)]), authorized := false }

def useRefreshToken (server : Http.Server) : Task Talk Unit := do
  keepTokens (← ask server (refreshQuestion (← get).client))

def useLogin (server : Http.Server) : Task Talk Unit := do
  keepTokens (← ask server (loginQuestion (← get).client))

/-- Renews the session: by the refresh token if there is one, and by a login if there is none or
it was turned down. -/
def renew (server : Http.Server) : Task Talk Unit := do
  if (← get).client.refresh.isTruthy then
    tryCatch (useRefreshToken server) fun
      | .failure .unauthorized _ => useLogin server
      | fault => throw fault
  else useLogin server

/-- Every agent that the user may see. -/
def listAgents (server : Http.Server) : Task Talk (List Json) := do
  let answer ← ask server { method := "GET", path := "/iofog-list" }
  return match answer.get? "fogs" with
    | some (.arr agents) => agents
    | _ => []

/-- The first of some objects that has a name; all before it have to be objects. -/
def findNamed (name : String) : List Json → Except ShapeFault (Option Json)
  | [] => .ok none
  | .obj members :: rest =>
    if Json.lookup "name" members = some (.str name) then .ok (some (.obj members))
    else findNamed name rest
  | _ :: _ => .error .notObject

def agentNamed (server : Http.Server) (name : String) : Task Talk Json := do
  match ← Task.ofExcept .shape (findNamed name (← listAgents server)) with
  | some agent => return agent
  | none => throw (.failure .notFound ("agent " ++ Text.quote name ++ " not found"))

/-- The items of what should be a list, if it counts as present at all. -/
def itemsOf (v : Option Json) : Except ShapeFault (List Json) :=
  match v with
  | none => .ok []
  | some (.arr items) => .ok items
  | some v =>
    if !v.isTruthy then .ok []
    else match v with
      | .obj _ => .error .notObject
      | .str _ => .error .notObject
      | _ => .error .notList

/-- Looks a microservice up by its application and name. -/
def microserviceAt (server : Http.Server) (path app name : String) : Task Talk Json := do
  let answer ← ask server { method := "GET", path, query := some ("application", app) }
  let items ← Task.ofExcept .shape (itemsOf (answer.get? "microservices"))
  match ← Task.ofExcept .shape (findNamed name items) with
  | some microservice => return microservice
  | none => throw (.failure .notFound s!"microservice {app}/{name} not found")

def microserviceNamed (server : Http.Server) (app name : String) : Task Talk Json :=
  microserviceAt server "/microservices" app name

def systemMicroserviceNamed (server : Http.Server) (app name : String) : Task Talk Json :=
  microserviceAt server "/microservices/system" app name

end Client
end EdgeSession.ControlPlane
