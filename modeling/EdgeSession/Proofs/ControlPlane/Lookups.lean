import EdgeSession.Proofs.ControlPlane.Renewal

/-!
What looking up agents and microservices comes to: what is asked, what is found in the answer, and
when a name counts as not found.
-/
namespace EdgeSession.ControlPlane.Client

open ControlPlane.Task

/-- The question for the microservices of an application, at one of the places where they are. -/
def microservicesAt (path app : String) : Question :=
  { method := "GET", path, query := some ("application", app) }

/-- The question for all agents. -/
def allAgents : Question := { method := "GET", path := "/iofog-list" }

/-- The agents in an answer. -/
def agentsIn (answer : Json) : List Json :=
  match answer.get? "fogs" with
  | some (.arr agents) => agents
  | _ => []

/-- What comes of a question after the requests in `log`, and what is sent for it. -/
inductive Reply (server : Http.Server) (log : List Http.Request) (c : Client) (q : Question) :
    Except Fault Json → List Http.Request → Prop
  | unsent {fault : Fault} (unspelt : c.request server q = .error fault) :
      Reply server log c q (.error fault) []
  | refused {request : Http.Request} {fault : Fault} (sent : c.request server q = .ok request)
      (refusal : c.readReply q.path (server log request) = .error fault) :
      Reply server log c q (.error fault) [request]
  | answered {request : Http.Request} {answer : Json} (sent : c.request server q = .ok request)
      (reply : c.readReply q.path (server log request) = .ok answer) :
      Reply server log c q (.ok answer) [request]

/-- What comes of looking a microservice up at a place. It is not found if the place is not, or if
the answer has no entry of its name. -/
inductive Lookup (server : Http.Server) (log : List Http.Request) (c : Client)
    (path app name : String) : Except Fault Json → List Http.Request → Prop
  | failed {fault : Fault} {made : List Http.Request}
      (reply : Reply server log c (microservicesAt path app) (.error fault) made)
      (other : ∀ text, fault ≠ .failure .notFound text) :
      Lookup server log c path app name (.error fault) made
  | missing {request : Http.Request} {body : String}
      (sent : c.request server (microservicesAt path app) = .ok request)
      (reply : server log request = .answer 404 body) :
      Lookup server log c path app name (.error (.failure .notFound s!"{path} not found")) [request]
  | unfit {answer : Json} {made : List Http.Request} {fault : Config.ShapeFault}
      (reply : Reply server log c (microservicesAt path app) (.ok answer) made)
      (unfit : (itemsOf (answer.get? "microservices") >>= findNamed name) = .error fault) :
      Lookup server log c path app name (.error (.shape fault)) made
  | absent {answer : Json} {made : List Http.Request}
      (reply : Reply server log c (microservicesAt path app) (.ok answer) made)
      (absent : (itemsOf (answer.get? "microservices") >>= findNamed name) = .ok none) :
      Lookup server log c path app name
        (.error (.failure .notFound s!"microservice {app}/{name} not found")) made
  | found {answer record : Json} {made : List Http.Request}
      (reply : Reply server log c (microservicesAt path app) (.ok answer) made)
      (found : (itemsOf (answer.get? "microservices") >>= findNamed name) = .ok (some record)) :
      Lookup server log c path app name (.ok record) made

/-- What comes of looking an agent up. -/
inductive AgentLookup (server : Http.Server) (log : List Http.Request) (c : Client)
    (name : String) : Except Fault Json → List Http.Request → Prop
  | failed {fault : Fault} {made : List Http.Request}
      (reply : Reply server log c allAgents (.error fault) made) :
      AgentLookup server log c name (.error fault) made
  | unfit {answer : Json} {made : List Http.Request} {fault : Config.ShapeFault}
      (reply : Reply server log c allAgents (.ok answer) made)
      (unfit : findNamed name (agentsIn answer) = .error fault) :
      AgentLookup server log c name (.error (.shape fault)) made
  | absent {answer : Json} {made : List Http.Request}
      (reply : Reply server log c allAgents (.ok answer) made)
      (absent : findNamed name (agentsIn answer) = .ok none) :
      AgentLookup server log c name
        (.error (.failure .notFound ("agent " ++ Text.quote name ++ " not found"))) made
  | found {answer record : Json} {made : List Http.Request}
      (reply : Reply server log c allAgents (.ok answer) made)
      (found : findNamed name (agentsIn answer) = .ok (some record)) :
      AgentLookup server log c name (.ok record) made

variable {server : Http.Server} {log made : List Http.Request} {c : Client} {q : Question}
  {path app name : String} {result : Except Fault Json} {fault : Fault}

/-! ## Faults -/

/-- What cannot be asked is no failure of the control plane. -/
theorem request_unspelt (h : c.request server q = .error fault) (kind : FailureKind)
    (text : String) :
    fault ≠ .failure kind text := by
  rintro rfl
  simp only [Client.request, bind, Except.bind] at h
  split at h
  · rename_i unfit
    cases target : server.spell (c.baseUrl ++ q.path).toList
        (q.query.map fun pair => Form.encodePairs [pair]) with
    | error other =>
      rw [target] at unfit
      cases unfit
      cases h
    | ok target' =>
      rw [target] at unfit
      cases unfit
  · split at h
    · cases h
    · split at h <;> cases h

theorem ask_reply (server : Http.Server) (log : List Http.Request) (c : Client) (q : Question) :
    ∃ result made, Reply server log c q result made ∧
      (ask server q).exec ⟨c, log⟩ = (result, ⟨c, log ++ made⟩) := by
  cases request : c.request server q with
  | error fault =>
    refine ⟨_, _, .unsent request, ?_⟩
    rw [ask_unsent request, List.append_nil]
  | ok sent =>
    cases reply : c.readReply q.path (server log sent) with
    | error fault => exact ⟨_, _, .refused request reply, (ask_sent request).trans (by rw [reply])⟩
    | ok answer => exact ⟨_, _, .answered request reply, (ask_sent request).trans (by rw [reply])⟩

/-- All that is sent for a question is that question. -/
theorem Reply.sent (h : Reply server log c q result made) :
    ∀ request ∈ made, c.request server q = .ok request := by
  intro request mem
  cases h with
  | unsent => cases mem
  | refused sent | answered sent => rwa [List.mem_singleton.1 mem]

/-- A question, and what is made of its answer. -/
theorem ask_then {α : Type} (ran : (ask server q).exec ⟨c, log⟩ = (result, ⟨c, log ++ made⟩))
    (read : Json → Except Fault α) :
    exec (ask server q >>= fun answer => Task.ofExcept id (read answer)) ⟨c, log⟩ =
      (result >>= read, ⟨c, log ++ made⟩) := by
  cases result with
  | error fault => exact exec_bind_error ran
  | ok answer =>
    rw [exec_bind_ok ran]
    show _ = (read answer, _)
    cases read answer <;> rfl

/-- Whether a request looks something up: it asks for all agents, or for the microservices of an
application. -/
def LooksUp (server : Http.Server) (c : Client) (request : Http.Request) : Prop :=
  c.request server allAgents = .ok request ∨
    ∃ path app, path ∈ ["/microservices", "/microservices/system"] ∧
      c.request server (microservicesAt path app) = .ok request

theorem Lookup.sent (h : Lookup server log c path app name result made) :
    ∀ request ∈ made, c.request server (microservicesAt path app) = .ok request := by
  intro request mem
  cases h with
  | missing sent => rwa [List.mem_singleton.1 mem]
  | failed reply | unfit reply | absent reply | found reply => exact reply.sent request mem

theorem AgentLookup.sent (h : AgentLookup server log c name result made) :
    ∀ request ∈ made, c.request server allAgents = .ok request := by
  intro request mem
  cases h with
  | failed reply | unfit reply | absent reply | found reply => exact reply.sent request mem

end EdgeSession.ControlPlane.Client
