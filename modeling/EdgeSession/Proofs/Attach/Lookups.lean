import EdgeSession.Attach.Executor
import EdgeSession.Proofs.Attach.Causes
import EdgeSession.Proofs.ControlPlane.Lookups
import EdgeSession.Proofs.ControlPlane.Reconciled
import EdgeSession.Proofs.Session.Address
import EdgeSession.Proofs.Text.Pieces

/-!
What has to be found out before anything is dialled: for each kind of request, what was accepted,
renewed and found, and in which order.
-/
namespace EdgeSession

namespace ControlPlane.Caches

variable {server : Http.Server} {name : String} {s : Caches}

theorem Ready.asking (ready : s.Ready) (made : List Http.Request) : (s.asking made).Ready :=
  ⟨ready.opened, ready.inStep⟩

end ControlPlane.Caches

namespace Attach

open ControlPlane ControlPlane.Caches
open ControlPlane.Client (Lookup AgentLookup LooksUp)

/-! ## Microservices -/

/-- Whether it is left open that the microservice is one of the system's: it was not found, or the
control plane has no such application. -/
def LeavesOpen (fault : ControlPlane.Fault) : Prop :=
  ∃ kind text, fault = .failure kind text ∧
    (kind = .notFound ∨ "Invalid application id".toList <:+: text.toList)

/-- A fault of the control plane as it is told to the user, behind some words. -/
def told (introduction : String) : ControlPlane.Fault → Fault
  | .failure _ text => .refused (introduction ++ text)
  | fault => .control fault

/-- How a microservice is looked up: among all, and then among the system's if that left it open.
What comes of it says whether it is one of the system's. -/
inductive Looked (server : Http.Server) (log : List Http.Request) (c : Client)
    (app name : String) : Except Fault (Json × Bool) → List Http.Request → Prop
  | ordinary {record : Json} {made : List Http.Request}
      (lookup : Lookup server log c "/microservices" app name (.ok record) made) :
      Looked server log c app name (.ok (record, false)) made
  | settled {fault : ControlPlane.Fault} {made : List Http.Request}
      (lookup : Lookup server log c "/microservices" app name (.error fault) made)
      (settles : ¬LeavesOpen fault) : Looked server log c app name (.error (told "" fault)) made
  | system {fault : ControlPlane.Fault} {record : Json} {made more : List Http.Request}
      (lookup : Lookup server log c "/microservices" app name (.error fault) made)
      (leavesOpen : LeavesOpen fault)
      (again : Lookup server (log ++ made) c "/microservices/system" app name (.ok record) more) :
      Looked server log c app name (.ok (record, true)) (made ++ more)
  | neither {first fault : ControlPlane.Fault} {made more : List Http.Request}
      (lookup : Lookup server log c "/microservices" app name (.error first) made)
      (leavesOpen : LeavesOpen first)
      (again : Lookup server (log ++ made) c "/microservices/system" app name (.error fault) more) :
      Looked server log c app name (.error (told "" fault)) (made ++ more)

section
variable {server : Http.Server} {log made : List Http.Request} {c : Client} {app name : String}
  {s t : Caches}

theorem Looked.sent {result : Except Fault (Json × Bool)}
    (h : Looked server log c app name result made) :
    ∀ request ∈ made, c.LooksUp server request := by
  have first {result : Except ControlPlane.Fault Json} {made : List Http.Request}
      (lookup : Lookup server log c "/microservices" app name result made) :
      ∀ request ∈ made, c.LooksUp server request :=
    fun request mem => .inr ⟨_, app, by simp, lookup.sent request mem⟩
  have both {fault : ControlPlane.Fault} {result : Except ControlPlane.Fault Json}
      {made more : List Http.Request}
      (lookup : Lookup server log c "/microservices" app name (.error fault) made)
      (again : Lookup server (log ++ made) c "/microservices/system" app name result more) :
      ∀ request ∈ made ++ more, c.LooksUp server request := by
    intro request mem
    rcases List.mem_append.1 mem with mem | mem
    · exact first lookup request mem
    · exact .inr ⟨_, app, by simp, again.sent request mem⟩
  cases h with
  | ordinary lookup | settled lookup => exact first lookup
  | system lookup _ again | neither lookup _ again => exact both lookup again

end

/-! ## Requests -/

/-- What has been found out for a request when its target is known, from caches `s` to caches `t`:
the name and the options were accepted, the session of the namespace was renewed, and the records
were found by which the target goes. Its address is told as it is spelt: it carries the id of the
record, and the system's place just when the record came from there. -/
inductive Resolved (server : Http.Server) (ns : String) (s : Caches) :
    Request → Login → Target → Caches → Prop
  | microserviceShell {name app part : String} {login : Login} {t : Caches} {record id : Json}
      {system : Bool} {made : List Http.Request}
      (accepted : parseName name "microservice" = .ok (app, part))
      (renewed : Turn server ns s (.ok login) t)
      (looked : Looked server t.log login.client app part (.ok (record, system)) made)
      (held : record.get? "uuid" = some id) :
      Resolved server ns s (.microserviceShell name) login
        { url := Address.websocket login.client.baseUrl ++ "/microservices/exec/" ++ id.asText
          id
          token := login.client.access }
        (asking t made)
  | agentShell {name : String} {login : Login} {t : Caches} {agent agentId record id : Json}
      {system : Bool} {made more : List Http.Request}
      (renewed : Turn server ns s (.ok login) t)
      (found : AgentLookup server t.log login.client name (.ok agent) made)
      (known : agent.get? "uuid" = some agentId)
      (looked : Looked server (t.log ++ made) login.client ("system-" ++ agentId.asText)
        ("debug-" ++ agentId.asText) (.ok (record, system)) more)
      (held : record.get? "uuid" = some id) :
      Resolved server ns s (.agentShell name) login
        { url := Address.websocket login.client.baseUrl ++ "/microservices/exec/" ++ id.asText
          id
          token := login.client.access }
        (asking t (made ++ more))
  | agentLog {name : String} {options : LogTail.Options} {r t : Caches} {n : Config.Namespace}
      {stored : Config.Agent} {login : Login} {agent id : Json} {made : List Http.Request}
      (accepted : options.check = .ok ())
      (synced : (sync server ns).exec s = (.ok (), r))
      (known : r.store.get (.str ns) = .ok n)
      (isStored : Target.storedAgent n.agents name = .ok (some stored))
      (remote : stored.isLocal = false)
      (renewed : Turn server ns r (.ok login) t)
      (found : AgentLookup server t.log login.client name (.ok agent) made)
      (held : agent.get? "uuid" = some id) :
      Resolved server ns s (.agentLog name options) login
        { url := Address.websocket login.client.baseUrl ++ "/iofog/" ++ id.asText ++ "/logs?" ++
            options.query
          id
          token := login.client.access }
        (asking t made)
  | microserviceLog {name app part : String} {options : LogTail.Options} {login : Login}
      {t : Caches} {record id : Json} {system : Bool} {made : List Http.Request}
      (accepted : options.check = .ok ())
      (named : parseName name "microservice" = .ok (app, part))
      (renewed : Turn server ns s (.ok login) t)
      (looked : Looked server t.log login.client app part (.ok (record, system)) made)
      (running : Target.statusOf record = .ok (.str "RUNNING"))
      (held : record.get? "uuid" = some id) :
      Resolved server ns s (.microserviceLog name options) login
        { url := Address.websocket login.client.baseUrl ++
            (if system then "/microservices/system/" else "/microservices/") ++ id.asText ++
            "/logs?" ++ options.query
          id
          token := login.client.access }
        (asking t made)

section
variable {server : Http.Server} {ns : String} {s t : Caches} {request : Request} {target : Target}

end
end Attach
end EdgeSession
