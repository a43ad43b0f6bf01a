import EdgeSession.Config.Store
import EdgeSession.ControlPlane.BaseUrl
import EdgeSession.ControlPlane.Http

/-!
What can go wrong between the store, the control plane and the caches in between.
-/
namespace EdgeSession.ControlPlane

/-- How failures of the control plane are told apart. -/
inductive FailureKind
  | general
  | unreachable
  | unauthorized
  | notFound
  deriving DecidableEq, Repr

inductive Fault
  /-- A failure that the control plane or the way to it is to blame for. -/
  | failure (kind : FailureKind) (text : String)
  /-- The server broke the rules of HTTP. -/
  | broken (text : String)
  | address (fault : Http.UrlFault)
  /-- A token that no header can carry. -/
  | notAscii
  /-- A number that JSON has no spelling for. -/
  | notStandard
  | shape (fault : Config.ShapeFault)
  | endpoint (fault : BaseUrl.Fault)
  /-- An endpoint that is no text. -/
  | endpointNotText
  | password (fault : Config.Credentials.PasswordFault)
  | lookup (fault : Config.LookupFault)
  | emptyNamespace
  /-- A cache that is asked after it was closed. -/
  | closed (cache : String)
  deriving DecidableEq, Repr

/-- Steps on a state, which is kept when they end in a fault. -/
abbrev Task (σ α : Type) := ExceptT Fault (StateM σ) α

def Task.ofExcept (f : ε → Fault) : Except ε α → Task σ α
  | .ok a => pure a
  | .error e => throw (f e)

/-- Runs a task; the result and the state it leaves. -/
def Task.exec (task : Task σ α) (s : σ) : Except Fault α × σ := (ExceptT.run task).run s

end EdgeSession.ControlPlane
