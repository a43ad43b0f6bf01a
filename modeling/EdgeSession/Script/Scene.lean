import EdgeSession.CommandLine.Run
import EdgeSession.Script.Play

/-!
Running a whole command by a script, which says how the dial ends, what the control plane answers
and what happens in the session.
-/
namespace EdgeSession.Script

open CommandLine

/-- Leads a terminal session by the events of a script; what it has to show is what it put on the
screen. A session that goes on behind the end of the stream goes on for ever. -/
def leadTerminal (s : Setting) (events : List Json) : Attach.Leader (List Bytes) :=
  fun transport =>
    let t : Terminal.Shell := { transport }
    let last := (playTerminal s none t events).final t
    (last.outcome, last.transport, last.shown)

def leadLog (s : Setting) (events : List Json) : Attach.Leader (List Bytes) :=
  fun transport =>
    let t : LogTail.Stream := { transport }
    let last := (playStream s t events).final t
    (last.outcome, last.transport, last.shown)

def surroundings (script : Json) (homes : Config.Homes) (configured : Option String)
    (files : String → Option String) : Surroundings (List Bytes) :=
  let s : Setting := { now := integerOr script "now" 0 }
  let events := items (member script "events")
  { homes
    configured
    files
    server := serverOf (member script "http")
    session := textOr script "session" "session"
    world := { dialFault := fault? (member script "connect_error"), outside := s.outside }
    terminal := leadTerminal s events
    log := leadLog s events }

/-- What the session put on the screen. -/
def shownOf (report : Report (List Bytes)) : Bytes :=
  match report.endless, report.ended.bind (·.led) with
  | some e, _ => e.shown.flatten
  | none, some (_, shown) => shown.flatten
  | none, none => []

/-- The configuration as it is to be written, if it changed. -/
def written? (before : Option String) (report : Report (List Bytes)) : Option String :=
  match report.caches.bind (·.file) with
  | some text => if before == some text then none else some text
  | none => none

end EdgeSession.Script
