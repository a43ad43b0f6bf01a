import EdgeSession.CommandLine.Run
import EdgeSession.Proofs.Attach.Concluded
import EdgeSession.Proofs.Attach.Dials
import EdgeSession.Proofs.Attach.Lookups

/-!
What the executors dial: nothing but what they resolved, under the latest session of the namespace,
and once.
-/
namespace EdgeSession

namespace Attach

open ControlPlane ControlPlane.Caches

/-- The session of a namespace was renewed and nothing but lookups was asked since. Its tokens are
those that are kept. -/
structure Latest (server : Http.Server) (ns : String) (login : Login) (t : Caches) : Prop where
  renewed : ∃ r u lookups, Turn server ns r (.ok login) u ∧
    (∀ request ∈ lookups, login.client.LooksUp server request) ∧ t = u.asking lookups
  kept : t.clients.lookup ns = some login
  stored : t.store.tokens? ns = some (login.client.access, login.client.refresh)

/-- The dial of a target. -/
def Target.dial (target : Target) : Dial :=
  { url := target.url, headers := bearer target.token, secure := Transport.isSecure target.url }

/-- What comes of a request: nothing was dialled and nobody was registered; or what was resolved
was dialled, once. -/
inductive Comes {σ : Type} (server : Http.Server) (registry : Registry) (ns : String)
    (request : Request) (s : Caches) (e : Executed σ) : Prop
  | unresolved {fault : Fault}
      (search : (request.search server ns).exec s = (.error fault, e.caches))
      (unled : e.outcome = .error fault) (registered : e.registry = registry)
      (undialled : e.dials = [])
  | dialled {login : Login} {target : Target}
      (search : (request.search server ns).exec s = (.ok target, e.caches))
      (resolved : Resolved server ns s request login target e.caches)
      (latest : Latest server ns login e.caches)
      (dialled : e.dials = [{
        url := target.url
        headers := [("Authorization", "Bearer " ++ login.client.access.asText)]
        secure := Transport.isSecure target.url }])

section
variable {σ : Type} {server : Http.Server} {world : World} {leader : Leader σ}
  {session ns : String} {registry : Registry} {request : Request} {s t : Caches} {login : Login}
  {target : Target}

theorem Latest.of_turn {r u : Caches} {lookups : List Http.Request}
    (turn : Turn server ns r (.ok login) u) (ready : (u.asking lookups).Ready)
    (sent : ∀ request ∈ lookups, login.client.LooksUp server request) :
    Latest server ns login (u.asking lookups) := by
  have kept : (u.asking lookups).clients.lookup ns = some login :=
    (turn.lookup_ok ns).trans (if_pos rfl)
  exact ⟨⟨r, u, lookups, turn, sent, rfl⟩, kept, ready.inStep ns login kept⟩

theorem Resolved.latest (h : Resolved server ns s request login target t) (ready : t.Ready) :
    Latest server ns login t := by
  cases h with
  | microserviceShell _ renewed looked => exact .of_turn renewed ready looked.sent
  | agentShell renewed found _ looked =>
    refine .of_turn renewed ready fun request mem => ?_
    rcases List.mem_append.1 mem with mem | mem
    · exact .inl (found.sent request mem)
    · exact looked.sent request mem
  | agentLog _ _ _ _ _ renewed found =>
    exact .of_turn renewed ready fun request mem => .inl (found.sent request mem)
  | microserviceLog _ _ renewed looked => exact .of_turn renewed ready looked.sent

theorem Resolved.token (h : Resolved server ns s request login target t) :
    target.token = login.client.access := by
  cases h <;> rfl

end

end Attach

/-! ## Commands -/

namespace CommandLine

open Attach ControlPlane

/-- What a command asks for, if it leaves nothing out. -/
def Command.request? : Command → Option Request
  | .exec { resource := .agent, name } => name.map .agentShell
  | .exec { resource := .microservice, name } => name.map .microserviceShell
  | .logs { resource, name, tail, follow, since, upTo } => do
    let options : LogTail.Options := { tail := ← tail, follow, since, upTo }
    let name ← name
    return match resource with
      | .agent => .agentLog name options
      | .microservice => .microserviceLog name options

theorem find_request {command : Command} {request : Request}
    (asks : command.request? = some request) (server : Http.Server) (ns : String) :
    find server ns command = namespaceOf ns >>= fun name => request.search server name := by
  refine congrArg (namespaceOf ns >>= ·) (funext fun name => ?_)
  rcases command with ⟨_ | _, _ | _⟩ | ⟨_ | _, _ | _, _ | _, _, _, _⟩ <;> cases asks <;> rfl

/-- A command that leaves nothing out runs its executor, in the namespace that it names. -/
theorem runOn_execute {σ : Type} (s : Surroundings σ) {ns name : String} {command : Command}
    {request : Request} {caches : Caches} (asks : command.request? = some request)
    (named : (namespaceOf ns).exec caches = (.ok name, caches)) :
    runOn s ns command caches =
      let e := execute s.server s.world (s.leader command) s.session {} name request caches
      match e.outcome with
      | .error fault => { ending := .ofFault fault, caches := some e.caches }
      | .ok outcome => .ofOutcome command e.caches outcome := by
  have found : (find s.server ns command).exec caches =
      (request.search s.server name).exec caches := by
    rw [find_request asks]
    simp only [Search.exec, ExceptT.run, StateT.run, bind, ExceptT.bind, ExceptT.mk,
      StateT.bind] at named ⊢
    rw [named]
    rfl
  unfold runOn execute
  dsimp only
  rw [found]
  rcases (request.search s.server name).exec caches with ⟨fault | target, after⟩ <;> rfl

end CommandLine
end EdgeSession
