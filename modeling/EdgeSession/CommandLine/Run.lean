import EdgeSession.Attach.Session
import EdgeSession.CommandLine.Invocation
import EdgeSession.Config.Path

/-!
Running a command: the configuration is read, what is named is looked up, and one session is led to
its end. What the user has to know is one line of text.
-/
namespace EdgeSession.CommandLine

open Attach ControlPlane

/-- The world that a command runs in, and who leads its session. -/
structure Surroundings (σ : Type) where
  homes : Config.Homes
  /-- The path of the configuration that the environment names. -/
  configured : Option String := none
  files : String → Option String
  server : Http.Server
  session : String
  world : World
  terminal : Leader σ
  log : Leader σ

/-- Faults that no message is made of. -/
inductive Escape
  /-- There is no home directory to look in. -/
  | noHome
  | load (fault : Config.LoadFault)
  | attach (fault : Attach.Fault)
  deriving DecidableEq, Repr

def Escape.text : Escape → String
  | .noHome => "there is no home directory"
  | .load _ => "the configuration cannot be read"
  | .attach _ => "the control plane or the connection failed in an unforeseen way"

inductive Ending
  | done
  | told (text : String)
  | interrupted
  | escaped (escape : Escape)
  /-- The session has no end, so the command has none. -/
  | unending
  deriving DecidableEq, Repr

namespace Ending

def ofFault (fault : Attach.Fault) : Ending :=
  match fault.told? with
  | some text => .told text
  | none => if fault.isInterrupt then .interrupted else .escaped (.attach fault)

def ofResult : Except Attach.Fault Unit → Ending
  | .ok _ => .done
  | .error fault => .ofFault fault

/-- What is written for the user's eyes when a command fails in a way that was foreseen. -/
def errorText : Ending → String
  | .told text => "✘ " ++ text ++ "\n"
  | .interrupted => "\nInterrupted.\n"
  | _ => ""

def isFailure (e : Ending) : Bool := e != .done

end Ending

/-- What came of a command: how it ended, what it wrote, the caches as it left them and the session
that it led, to its end or without one. -/
structure Report (σ : Type) where
  ending : Ending
  out : String := ""
  path : Option String := none
  caches : Option Caches := none
  ended : Option (Ended σ) := none
  endless : Option (Endless σ) := none

/-- The namespace asked for, or the default one; it has to be there. -/
def namespaceOf (ns : String) : Search String := do
  let store := (← get).store
  let found ← Search.ofExcept (fun fault => .control (.lookup fault))
    (store.get (store.nameOr (.str ns)))
  return found.name

/-- Nothing in place of a name, as it is shown. -/
def noName : String := "[]"

def noMicroservice : Attach.Fault := .refused (NameFault.parts "microservice" noName).message

/-- Looks for an agent without a name, which no agent is. -/
def findNameless (server : Http.Server) (ns : String) : Search Target := do
  let client ← Target.login server ns
  let agents ← Search.telling "Failed to get Agent by name: "
    (Caches.query client (Client.listAgents server))
  if agents.all (· matches .obj _) then
    throw (.refused s!"Failed to get Agent by name: agent {noName} not found")
  else throw (.control (.shape .notObject))

def findShell (server : Http.Server) (ns : String) (r : ExecRequest) : Search Target :=
  match r.resource, r.name with
  | .agent, some name => Target.agentShell server ns name
  | .agent, none => findNameless server ns
  | .microservice, some name => Target.microserviceShell server ns name
  | .microservice, none => throw noMicroservice

def findLog (server : Http.Server) (ns : String) (r : LogsRequest) : Search Target := do
  let some tail := r.tail | throw .noTail
  let options : LogTail.Options :=
    { tail, follow := r.follow, since := r.since, upTo := r.upTo }
  match r.resource, r.name with
  | .agent, some name => Target.agentLog server ns name options
  | .agent, none =>
    Target.checked options
    Search.ofTask (Caches.sync server ns)
    throw (.control (.shape .notPlain))
  | .microservice, some name => Target.microserviceLog server ns name options
  | .microservice, none =>
    Target.checked options
    throw noMicroservice

/-- Finds what a command is about. -/
def find (server : Http.Server) (ns : String) (command : Command) : Search Target := do
  let ns ← namespaceOf ns
  match command with
  | .exec r => findShell server ns r
  | .logs r => findLog server ns r

/-- The line that a command ends with when all went well. -/
def closingLine : Command → String
  | .exec { resource := .agent, name } =>
    "✓ Successfully closed Agent " ++ name.getD noName ++ " Exec Session\n"
  | .exec { resource := .microservice, name } =>
    "✓ Successfully closed Microservice " ++ name.getD noName ++ " Exec Session\n"
  | .logs _ => ""

/-- Who leads the session of a command. -/
def Surroundings.leader (s : Surroundings σ) : Command → Leader σ
  | .exec _ => s.terminal
  | .logs _ => s.log

/-- What a command comes to whose session comes to this. -/
def Report.ofOutcome (command : Command) (caches : Caches) : Outcome σ → Report σ
  | .ended e =>
    { ending := .ofResult e.result
      out := if e.result matches .ok _ then closingLine command else ""
      caches := some caches
      ended := some e }
  | .endless e => { ending := .unending, caches := some caches, endless := some e }

/-- Runs a command on the caches over a configuration that has been read. -/
def runOn (s : Surroundings σ) (ns : String) (command : Command) (caches : Caches) : Report σ :=
  match (find s.server ns command).exec caches with
  | (.error fault, caches) => { ending := .ofFault fault, caches := some caches }
  | (.ok target, caches) =>
    .ofOutcome command caches (undertake s.world (s.leader command) s.session {} target)

def run (s : Surroundings σ) (i : Invocation) (command : Command) : Report σ :=
  match Config.resolve? s.homes i.config s.configured with
  | none => { ending := .escaped .noHome }
  | some path =>
    match Caches.load (s.files path) with
    | .error fault => { ending := .escaped (.load fault), path := some path }
    | .ok caches => { runOn s i.ns command caches with path := some path }

end EdgeSession.CommandLine
