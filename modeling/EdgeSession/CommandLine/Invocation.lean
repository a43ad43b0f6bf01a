import EdgeSession.CommandLine.Grammar
import EdgeSession.LogTail.Options
import EdgeSession.Text.Integer

/-!
What the program is asked to do: open a shell or show a log, on an agent or a microservice. The name
is missing where nothing stands in its place but a second separator.
-/
namespace EdgeSession.CommandLine

inductive Resource
  | agent
  | microservice
  deriving DecidableEq, Repr

structure ExecRequest where
  resource : Resource := .microservice
  name : Option String := none
  deriving DecidableEq, Repr

/-- A history length is missing where nothing was attached to its option. -/
structure LogsRequest where
  resource : Resource := .microservice
  name : Option String := none
  tail : Option Int := some LogTail.defaultTail
  follow : Bool := true
  since : String := ""
  upTo : String := ""
  deriving DecidableEq, Repr

inductive Command
  | exec (request : ExecRequest)
  | logs (request : LogsRequest)
  deriving DecidableEq, Repr

structure Invocation where
  /-- Empty for the default namespace. -/
  ns : String := ""
  config : Option String := none
  debug : Bool := false
  command : Option Command := none
  deriving DecidableEq, Repr

def refuse (fault : UsageFault) : Except Stop α := .error (.fault fault)

def helpFlag : Flag := { names := ["-h", "--help"] }

def resources : List String := ["agent", "microservice"]

def readResource : Option String → Except Stop Resource
  | some "agent" => .ok .agent
  | some "microservice" => .ok .microservice
  | some text => refuse (.unknownChoice "resource" text resources)
  | none => .ok .microservice

def readTail (flag : Flag) : Option String → Except Stop (Option Int)
  | some text =>
    match Text.integer? text.toList with
    | some n => .ok (some n)
    | none => refuse (.notInteger flag.label text)
  | none => .ok none

namespace ExecRequest

def grammar : Grammar ExecRequest where
  flags := [helpFlag]
  give _ _ := .error .help
  operands := [
    .one "resource" fun word r => do return { r with resource := ← readResource word },
    .one "name" fun word r => .ok { r with name := word }]

end ExecRequest

namespace LogsRequest

def tailFlag : Flag := { names := ["--tail"], hasValue := true }
def followFlag : Flag := { names := ["--follow", "--no-follow"] }
def sinceFlag : Flag := { names := ["--since"], hasValue := true }
def untilFlag : Flag := { names := ["--until"], hasValue := true }

def give (given : Given) (r : LogsRequest) : Except Stop LogsRequest :=
  match given.name with
  | "--tail" => do return { r with tail := ← readTail given.flag given.value }
  | "--follow" => .ok { r with follow := true }
  | "--no-follow" => .ok { r with follow := false }
  | "--since" => .ok { r with since := given.value.getD "" }
  | "--until" => .ok { r with upTo := given.value.getD "" }
  | _ => .error .help

def grammar : Grammar LogsRequest where
  flags := [helpFlag, tailFlag, followFlag, sinceFlag, untilFlag]
  give := give
  operands := [
    .one "resource" fun word r => do return { r with resource := ← readResource word },
    .one "name" fun word r => .ok { r with name := word }]

end LogsRequest

namespace Invocation

def commands : List String := ["exec", "logs"]

/-- Reads a command and what it takes. -/
def readCommand : List String → Invocation → Except Stop (Invocation × List String)
  | "exec" :: line, i => do
    let (request, extra) ← ExecRequest.grammar.read {} line
    return ({ i with command := some (.exec request) }, extra)
  | "logs" :: line, i => do
    let (request, extra) ← LogsRequest.grammar.read {} line
    return ({ i with command := some (.logs request) }, extra)
  | line, _ => refuse (.unknownChoice "command" (line.headD "") commands)

def namespaceFlag : Flag := { names := ["--namespace", "-n"], hasValue := true }
def configFlag : Flag := { names := ["--config"], hasValue := true }
def debugFlag : Flag := { names := ["--debug"] }

def give (given : Given) (i : Invocation) : Except Stop Invocation :=
  match given.name with
  | "--namespace" => .ok { i with ns := given.value.getD "" }
  | "-n" => .ok { i with ns := given.value.getD "" }
  | "--config" => .ok { i with config := given.value }
  | "--debug" => .ok { i with debug := true }
  | _ => .error .help

def grammar : Grammar Invocation where
  flags := [helpFlag, namespaceFlag, configFlag, debugFlag]
  give := give
  operands := [.rest "command" readCommand]

/-- Reads the words behind the program's name. -/
def ofWords (line : List String) : Except Stop (Invocation × Command) := do
  let (i, extra) ← grammar.read {} line
  if !extra.isEmpty then refuse (.unrecognized extra)
  match i.command with
  | some command => return (i, command)
  | none => refuse (.missing ["command"])

end Invocation
end EdgeSession.CommandLine
