import EdgeSession.Attach.Session

/-!
The four things to attach to. Each is looked up first, and what is found is dialled in one session.
-/
namespace EdgeSession.Attach

open ControlPlane

inductive Request
  | microserviceShell (name : String)
  | agentShell (name : String)
  | agentLog (name : String) (options : LogTail.Options)
  | microserviceLog (name : String) (options : LogTail.Options)
  deriving DecidableEq, Repr

/-- Finds what is asked for. -/
def Request.search (server : Http.Server) (ns : String) : Request → Search Target
  | .microserviceShell name => Target.microserviceShell server ns name
  | .agentShell name => Target.agentShell server ns name
  | .agentLog name options => Target.agentLog server ns name options
  | .microserviceLog name options => Target.microserviceLog server ns name options

/-- What came of a request: the fault that the search ended in, or a session. -/
structure Executed (σ : Type) where
  outcome : Except Fault (Outcome σ)
  caches : Caches
  registry : Registry

namespace Executed

/-- The session that came to its end. -/
def ended? (e : Executed σ) : Option (Ended σ) := e.outcome.toOption.bind (·.ended?)

/-- What the call comes to, unless it never comes back. -/
def result? (e : Executed σ) : Option (Except Fault Unit) :=
  match e.outcome with
  | .error fault => some (.error fault)
  | .ok outcome => outcome.ended?.map (·.result)

/-- The connections that were dialled. -/
def dials (e : Executed σ) : List Dial :=
  match e.outcome with
  | .error _ => []
  | .ok outcome => outcome.transport.dials

end Executed

/-- Looks up what is asked for, and leads one session with it. -/
def execute (server : Http.Server) (world : World) (leader : Leader σ) (session : String)
    (registry : Registry) (ns : String) (request : Request) (caches : Caches) : Executed σ :=
  match (request.search server ns).exec caches with
  | (.error fault, caches) => { outcome := .error fault, caches, registry }
  | (.ok target, caches) =>
    let outcome := undertake world leader session registry target
    { outcome := .ok outcome, caches, registry := outcome.registry }

end EdgeSession.Attach
