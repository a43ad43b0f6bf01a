import EdgeSession.Attach.Name
import EdgeSession.ControlPlane.Caches
import EdgeSession.Session.Diagnosis
import EdgeSession.Session.Network

/-!
Why nothing is attached, or no longer. A refusal carries a sentence for the user; all else is a
fault of a layer below.
-/
namespace EdgeSession.Attach

inductive Fault
  /-- A sentence that is ready to print. -/
  | refused (text : String)
  | control (fault : ControlPlane.Fault)
  /-- A record of the control plane without an id. -/
  | noId
  /-- A history length that is no number. -/
  | noTail
  /-- Trouble with the connection that is none of a session's failures. -/
  | trouble (trouble : Trouble)
  deriving DecidableEq, Repr

namespace Fault

/-- A failure of the session, in the words for the user. -/
def ofFailure (failure : Failure) : Fault := .refused (Diagnosis.explain (.session failure))

def ofTrouble : Trouble → Fault
  | .session failure => ofFailure failure
  | other => .trouble other

/-- What the user is told, for the faults that are the user's to know about. -/
def told? : Fault → Option String
  | .refused text => some text
  | .control (.failure _ text) => some text
  | .control (.lookup (.unknown name)) => some (Config.LookupFault.unknown name).message
  | _ => none

/-- Whether it stands for the user's interrupt. -/
def isInterrupt (fault : Fault) : Bool := fault == .trouble (.network .interrupted)

end Fault

/-- Steps on the caches that may end in a refusal. -/
abbrev Search (α : Type) := ExceptT Fault (StateM ControlPlane.Caches) α

namespace Search

def ofTask (task : ControlPlane.Task ControlPlane.Caches α) : Search α :=
  ExceptT.adapt .control task

/-- Has a failure of the control plane told to the user, behind some words of introduction. -/
def telling (introduction : String) (task : ControlPlane.Task ControlPlane.Caches α) : Search α :=
  ExceptT.adapt (fun
    | .failure _ text => .refused (introduction ++ text)
    | fault => .control fault) task

def ofExcept (f : ε → Fault) : Except ε α → Search α
  | .ok a => pure a
  | .error e => throw (f e)

/-- Runs a search; the result and the caches it leaves. -/
def exec (search : Search α) (caches : ControlPlane.Caches) :
    Except Fault α × ControlPlane.Caches :=
  (ExceptT.run search).run caches

end Search
end EdgeSession.Attach
