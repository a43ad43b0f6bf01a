import EdgeSession.Json.Reader
import EdgeSession.Script.Scene

/-!
The command line. The outside world of a session comes from a script, a JSON file that the
environment names; the configuration is a file of its own.
-/
namespace EdgeSession.Main

open CommandLine

def usage : String :=
  "usage: edge-session [-h] [--namespace NAMESPACE] [--config PATH] [--debug] COMMAND\n\n" ++
    "  exec agent NAME | exec microservice APP/NAME\n" ++
    "  logs agent NAME | logs microservice APP/NAME\n" ++
    "    [--tail N] [--follow | --no-follow] [--since TIME] [--until TIME]\n"

def readText? (path : String) : IO (Option String) := do
  try return some (← IO.FS.readFile path)
  catch _ => return none

/-- Writes a file so that a reader finds the old text or the new one. -/
def replaceText (path text : String) : IO Unit := do
  let draft := path ++ ".tmp"
  IO.FS.writeFile draft text
  IO.FS.rename draft path

def readScript : IO Json := do
  let some path ← IO.getEnv "EDGE_SESSION_SCRIPT" | return .obj []
  let some text ← readText? path | return .obj []
  match Json.parse text.toList with
  | .ok script => return script
  | .error _ => return .obj []

def exitCode (ending : Ending) : UInt32 := if ending.isFailure then 1 else 0

/-- Writes what a command came to. -/
def write (before : Option String) (report : Report (List Bytes)) : IO Unit := do
  let out ← IO.getStdout
  out.write ⟨(Script.shownOf report).toArray⟩
  out.putStr report.out
  out.flush
  match report.path, Script.written? before report with
  | some path, some text => replaceText path text
  | _, _ => pure ()
  match report.ending with
  | .escaped escape => IO.eprintln escape.text
  | .unending => IO.eprintln "the session waits for ever"
  | ending => IO.eprint ending.errorText

def runCommand (i : Invocation) (command : Command) : IO UInt32 := do
  let own := (← IO.getEnv "HOME").getD "/"
  let homes := Config.Homes.ofTable own ((← readText? "/etc/passwd").getD "")
  let configured ← IO.getEnv "EDGEATTACH_CONFIG"
  let path := Config.resolve? homes i.config configured
  let file ← match path with
    | some path => readText? path
    | none => pure none
  let files : String → Option String := fun p => if some p == path then file else none
  let report := run (Script.surroundings (← readScript) homes configured files) i command
  write file report
  return exitCode report.ending

end EdgeSession.Main

open EdgeSession CommandLine in
def main (args : List String) : IO UInt32 := do
  match Invocation.ofWords args with
  | .error .help =>
    IO.print EdgeSession.Main.usage
    return 0
  | .error (.fault fault) =>
    IO.eprint EdgeSession.Main.usage
    IO.eprintln ("edge-session: error: " ++ fault.message)
    return 2
  | .ok (i, command) => EdgeSession.Main.runCommand i command
