import EdgeSession.Config.Password
import EdgeSession.Json.Value

/-!
Namespaces: the control planes that are known, each with the user's credentials and the agents
behind it. Field values are kept as they were read, whatever their kind.
-/
namespace EdgeSession.Config

/-- Why a value has not the shape that is asked of it. -/
inductive ShapeFault
  | notObject
  | notList
  /-- An agent without a name. -/
  | nameless
  /-- A list or an object where only plain values can stand, as a name under which to look. -/
  | notPlain
  | notPair (index length : Nat)
  deriving DecidableEq, Repr

structure Credentials where
  email : Json := .str ""
  /-- In Base64. -/
  password : Json := .str ""
  accessToken : Json := .str ""
  refreshToken : Json := .str ""
  deriving DecidableEq, Repr

structure Agent where
  name : Json
  uuid : Json := .str ""
  host : Json := .str ""
  created : Json := .str ""
  ssh : Json := .obj []
  localFlag : Json := .bool false
  deriving DecidableEq, Repr

structure Namespace where
  name : String
  endpoint : Json := .str ""
  user : Credentials := {}
  agents : List Agent := []
  localControlPlane : Json := .bool false
  useHttps : Json := .bool false
  deriving DecidableEq, Repr

def Agent.isLocal (a : Agent) : Bool := a.localFlag.isTruthy

/-- A member, or the default for one that is missing. -/
def memberOr (members : List (String × Json)) (name : String) (default : Json) : Json :=
  (Json.lookup name members).getD default

/-- A member, or the default for one that is missing or counts as absent. -/
def presentOr (members : List (String × Json)) (name : String) (default : Json) : Json :=
  match Json.lookup name members with
  | some value => if value.isTruthy then value else default
  | none => default

def members (v : Json) : Except ShapeFault (List (String × Json)) :=
  match v with
  | .obj members => .ok members
  | _ => .error .notObject

namespace Credentials

def ofMembers (user : List (String × Json)) : Credentials :=
  { email := memberOr user "email" (.str "")
    password := memberOr user "password" (.str "")
    accessToken := memberOr user "access_token" (.str "")
    refreshToken := memberOr user "refresh_token" (.str "") }

def toJson (c : Credentials) : Json :=
  .obj [("email", c.email), ("password", c.password), ("access_token", c.accessToken),
    ("refresh_token", c.refreshToken)]

/-- Credentials of a password in the clear. -/
def withPassword (email password : String) : Credentials :=
  { email := .str email, password := .str (encodePassword password) }

inductive PasswordFault
  | notAscii
  | notText
  deriving DecidableEq, Repr

/-- The password in the clear. -/
def rawPassword (c : Credentials) : Except PasswordFault String :=
  match c.password with
  | .str s =>
    match rawPassword? s with
    | some password => .ok password
    | none => .error .notAscii
  | v => if v.isTruthy then .error .notText else .ok ""

end Credentials

namespace Agent

def ofJson (v : Json) : Except ShapeFault Agent := do
  let agent ← members v
  match Json.lookup "name" agent with
  | none => .error .nameless
  | some name =>
    return { name
             uuid := memberOr agent "uuid" (.str "")
             host := memberOr agent "host" (.str "")
             created := memberOr agent "created" (.str "")
             ssh := memberOr agent "ssh" (.obj [])
             localFlag := memberOr agent "local" (.bool false) }

def toJson (a : Agent) : Json :=
  .obj [("name", a.name), ("uuid", a.uuid), ("host", a.host), ("created", a.created),
    ("ssh", a.ssh), ("local", a.localFlag)]

end Agent

/-- The items of what should be a list; texts and objects have items that are no objects, but only
when they are not empty. -/
def agentsOf (v : Json) : Except ShapeFault (List Agent) :=
  match v with
  | .arr items => items.mapM Agent.ofJson
  | .obj _ => .error .notObject
  | .str _ => .error .notObject
  | _ => .error .notList

namespace Namespace

/-- Reads a namespace. Members that are not known are passed over. -/
def ofJson (name : String) (v : Json) : Except ShapeFault Namespace := do
  let data ← members v
  let user ← members (presentOr data "user" (.obj []))
  let agents ← agentsOf (presentOr data "agents" (.arr []))
  return { name
           endpoint := memberOr data "endpoint" (.str "")
           user := .ofMembers user
           agents
           localControlPlane := memberOr data "local_control_plane" (.bool false)
           useHttps := memberOr data "use_https" (.bool false) }

/-- The members of a namespace; its name stands outside. -/
def toJson (n : Namespace) : Json :=
  .obj [("endpoint", n.endpoint), ("user", n.user.toJson),
    ("agents", .arr (n.agents.map Agent.toJson)),
    ("local_control_plane", n.localControlPlane), ("use_https", n.useHttps)]

end Namespace
end EdgeSession.Config
