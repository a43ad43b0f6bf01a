import EdgeSession.Proofs.ControlPlane.Lookups
import EdgeSession.Proofs.ControlPlane.Tokens
import EdgeSession.Proofs.ControlPlane.Unfinished

/-!
The lists of agents that are kept, over any sequence of requests. A list that is given is the one
of the latest listing that came out well, and the control plane is asked for it only if there is
none since the lists were last forgotten: once, or twice if the first time was turned down.
-/
namespace EdgeSession.ControlPlane

namespace Client

/-- Whether a request asks for a list; tokens are asked for by POST. -/
def isListing (request : Http.Request) : Bool := request.method == "GET"

variable {server : Http.Server} {log made : List Http.Request} {c : Client} {q : Question}

theorem request_method {request : Http.Request} (h : c.request server q = .ok request) :
    request.method = q.method := by
  unfold Client.request at h
  simp only [bind_eq_ok] at h
  obtain ⟨target, -, h⟩ := h
  split at h
  · cases h
  · split at h
    · cases h
    · cases h
      rfl

theorem Renewal.no_listing {result : Except Fault Client} (h : Renewal server log c result made) :
    made.countP isListing = 0 := by
  refine List.countP_eq_zero.2 fun request mem => ?_
  rcases h.asks request mem with ⟨sent, -⟩ | sent <;>
    simp [isListing, request_method sent, refreshQuestion, loginQuestion]

theorem Reply.one_listing {result : Except Fault Json}
    (h : Reply server log c allAgents result made) : made.countP isListing = made.length := by
  refine List.countP_eq_length.2 fun request mem => ?_
  simp [isListing, request_method (h.sent request mem), allAgents]

theorem Reply.length_le {result : Except Fault Json} (h : Reply server log c q result made) :
    made.length ≤ 1 := by
  cases h <;> simp

theorem Reply.length_ok {answer : Json} (h : Reply server log c q (.ok answer) made) :
    made.length = 1 := by
  cases h
  rfl

/-- Asking for all agents, and what is made of the answer. -/
theorem listAgents_reply (server : Http.Server) (log : List Http.Request) (c : Client) :
    ∃ result made, Reply server log c allAgents result made ∧
      (listAgents server).exec ⟨c, log⟩ = (result.map agentsIn, ⟨c, log ++ made⟩) := by
  obtain ⟨result, made, reply, ran⟩ := ask_reply server log c allAgents
  refine ⟨result, made, reply, ?_⟩
  have exec := ask_then ran fun answer => .ok (agentsIn answer)
  cases result <;> exact exec

end Client

namespace Caches

open Config ControlPlane.Task
open Client (Reply allAgents agentsIn isListing)

variable {server : Http.Server} {write : Task Caches Unit} {name : String} {s t u : Caches}
  {made more : List Http.Request}

/-! ## The client that asks -/

/-- What comes of a request for the client of a namespace, when the file may fail to be written. -/
inductive Provided (server : Http.Server) (write : Task Caches Unit) (name : String) (s : Caches) :
    Except Fault Login → Caches → Prop
  | unrenewed {fault : Fault} {t : Caches} (session : Session server name s (.error fault) t) :
      Provided server write name s (.error fault) t
  | unstored {login : Login} {t : Caches} {fault : LookupFault}
      (session : Session server name s (.ok login) t)
      (unknown : t.store.updateUser (.str name) login.client.access login.client.refresh =
        .error fault) :
      Provided server write name s (.error (.lookup fault)) t
  | stored {login : Login} {t u : Caches} {store : Store} {result : Except Fault Unit}
      (session : Session server name s (.ok login) t)
      (stored : t.store.updateUser (.str name) login.client.access login.client.refresh =
        .ok store)
      (wrote : write.exec { t with store } = (result, u)) :
      Provided server write name s (result.map fun _ => login) u

theorem client_provided (server : Http.Server) (write : Task Caches Unit) (named : name ≠ "")
    (opened : s.closed = false) :
    ∃ result t, (client server name write).exec s = (result, t) ∧
      Provided server write name s result t := by
  rw [client_exec named opened]
  obtain ⟨result, t, ran, session⟩ := session_cases server name s
  cases result with
  | error fault =>
    rw [exec_bind_error ran]
    exact ⟨_, _, rfl, .unrenewed session⟩
  | ok login =>
    rw [exec_bind_ok ran]
    unfold keepLogin
    rw [exec_bind_ok (exec_get _)]
    cases stored : t.store.updateUser (.str name) login.client.access login.client.refresh with
    | error fault => exact ⟨_, _, rfl, .unstored session stored⟩
    | ok store =>
      rw [exec_bind_ok (exec_ofExcept_ok _ _ _), exec_bind_ok (exec_set _ _)]
      cases wrote : write.exec { t with store } with
      | mk result u =>
        have provided := Provided.stored session stored wrote
        cases result with
        | error fault => exact ⟨_, _, exec_bind_error wrote, provided⟩
        | ok => exact ⟨_, _, exec_bind_ok wrote, provided⟩

/-- What a request for a client leaves as it was: the lists. No list is asked for. -/
structure Unlisted (s t : Caches) : Prop where
  lists : t.lists = s.lists
  closed : t.closed = s.closed
  sent : ∃ made, t.log = s.log ++ made ∧ made.countP isListing = 0

theorem Session.unlisted {result : Except Fault Login} (h : Session server name s result t) :
    Unlisted s t := by
  cases h with
  | refused => exact ⟨rfl, rfl, [], (List.append_nil _).symm, rfl⟩
  | failed _ renewal => exact ⟨rfl, rfl, _, rfl, renewal.no_listing⟩
  | renewed _ _ renewal => exact ⟨rfl, rfl, _, rfl, renewal.no_listing⟩

theorem Provided.unlisted {result : Except Fault Login}
    (h : Provided server write name s result t) (files : WritesFile write) : Unlisted s t := by
  cases h with
  | unrenewed session => exact session.unlisted
  | unstored session => exact session.unlisted
  | @stored _ u _ store _ session _ wrote =>
    obtain ⟨file, left⟩ := files { u with store }
    obtain rfl : t = { u with store, file } := (congrArg Prod.snd wrote).symm.trans left
    exact ⟨session.unlisted.lists, session.unlisted.closed, session.unlisted.sent⟩

/-! ## Fetching a list -/

/-- One try to fetch a list, with the requests for it that were sent: a session is renewed, and
then the list is asked for. -/
inductive Try (server : Http.Server) (write : Task Caches Unit) (name : String) (s : Caches) :
    Except Fault (List Json) → List Http.Request → Caches → Prop
  | unprovided {fault : Fault} {t : Caches}
      (provided : Provided server write name s (.error fault) t) :
      Try server write name s (.error fault) [] t
  | asked {login : Login} {t : Caches} {result : Except Fault Json} {made : List Http.Request}
      (provided : Provided server write name s (.ok login) t)
      (reply : Reply server t.log login.client allAgents result made) :
      Try server write name s (result.map agentsIn) made (t.asking made)

/-- Keeps a list that was fetched. -/
def keepList (name : String) (result : Except Fault (List Json)) (s : Caches) : Caches :=
  match result with
  | .ok list => { s with lists := put name list s.lists }
  | .error _ => s

/-- Fetching a list, with the number of times it was asked for. There is a second try exactly if
the list was asked for and that was turned down; whatever comes of that counts. -/
inductive Fetch (server : Http.Server) (write : Task Caches Unit) (name : String) (s : Caches) :
    Except Fault (List Json) → Nat → Caches → Prop
  | settled {result : Except Fault (List Json)} {made : List Http.Request} {t : Caches}
      (only : Try server write name s result made t)
      (settles : made = [] ∨ ∀ text, result ≠ .error (.failure .unauthorized text)) :
      Fetch server write name s result made.length (keepList name result t)
  | again {text : String} {request : Http.Request} {result : Except Fault (List Json)}
      {made : List Http.Request} {t u : Caches}
      (first : Try server write name s (.error (.failure .unauthorized text)) [request] t)
      (second : Try server write name t result made u) :
      Fetch server write name s result (1 + made.length) (keepList name result u)

/-- The client of a namespace asks for the list. -/
def tryList (server : Http.Server) (write : Task Caches Unit) (name : String) :
    Task Caches (List Json) := do
  let login ← client server name write
  query login.client (Client.listAgents server)

theorem query_reply (server : Http.Server) (login : Login) (t : Caches) :
    ∃ result made, Reply server t.log login.client allAgents result made ∧
      (query login.client (Client.listAgents server)).exec t =
        (result.map agentsIn, t.asking made) := by
  obtain ⟨result, made, reply, ran⟩ := Client.listAgents_reply server t.log login.client
  exact ⟨result, made, reply, query_exec ran⟩

theorem tryList_try (server : Http.Server) (write : Task Caches Unit) (named : name ≠ "")
    (opened : s.closed = false) :
    ∃ result made t, (tryList server write name).exec s = (result, t) ∧
      Try server write name s result made t := by
  obtain ⟨result, t, ran, provided⟩ := client_provided server write named opened
  unfold tryList
  cases result with
  | error fault => exact ⟨_, _, _, exec_bind_error ran, .unprovided provided⟩
  | ok login =>
    obtain ⟨result, made, reply, asked⟩ := query_reply server login t
    exact ⟨_, _, _, (exec_bind_ok ran).trans asked, .asked provided reply⟩

/-- What one try sends: no request for a list but those it is given with. -/
structure Tried (s : Caches) (result : Except Fault (List Json)) (made : List Http.Request)
    (t : Caches) : Prop where
  lists : t.lists = s.lists
  closed : t.closed = s.closed
  sent : ∃ all, t.log = s.log ++ all ∧ all.countP isListing = made.length
  once : made.length ≤ 1
  listed : ∀ list, result = .ok list → made.length = 1

theorem Try.tried {result : Except Fault (List Json)} (h : Try server write name s result made t)
    (files : WritesFile write) : Tried s result made t := by
  cases h with
  | unprovided provided =>
    have kept := provided.unlisted files
    exact ⟨kept.lists, kept.closed, kept.sent, by decide, nofun⟩
  | @asked _ u answer _ provided reply =>
    have kept := provided.unlisted files
    obtain ⟨renewing, log, none⟩ := kept.sent
    refine ⟨kept.lists, kept.closed, ⟨renewing ++ made, ?_, ?_⟩, reply.length_le, ?_⟩
    · rw [asking, log, List.append_assoc]
    · rw [List.countP_append, none, reply.one_listing, Nat.zero_add]
    · intro list came
      obtain ⟨answer, rfl, -⟩ := map_eq_ok.1 came
      exact reply.length_ok

/-- What is fetched is kept. -/
theorem keepList_exec {task : Task Caches (List Json)} {result : Except Fault (List Json)}
    (ran : task.exec s = (result, t)) :
    exec (do
      let agents ← task
      modify fun s => { s with lists := put name agents s.lists }
      return agents) s = (result, keepList name result t) := by
  cases result with
  | error fault => exact exec_bind_error ran
  | ok list => exact exec_bind_ok ran

theorem agents_fetch (server : Http.Server) (named : name ≠ "") (opened : s.closed = false)
    (files : WritesFile write) (unknown : s.lists.lookup name = none) :
    ∃ result asked t, (agents server name write).exec s = (result, t) ∧
      Fetch server write name s result asked t := by
  unfold agents
  rw [if_neg named, exec_bind_ok (exec_get _), opened]
  simp only [Bool.false_eq_true, if_false]
  rw [exec_bind_ok (exec_get _), unknown]
  obtain ⟨result, t, ran, provided⟩ := client_provided server write named opened
  cases result with
  | error fault => exact ⟨_, _, _, exec_bind_error ran, .settled (.unprovided provided) (.inl rfl)⟩
  | ok login =>
    obtain ⟨result, made, reply, queried⟩ := query_reply server login t
    have first := Try.asked provided reply
    dsimp only
    rw [exec_bind_ok ran]
    rcases result with fault | answer
    · by_cases turned : ∃ text, fault = .failure .unauthorized text
      · obtain ⟨text, rfl⟩ := turned
        obtain ⟨result, more, u, retried, second⟩ :=
          tryList_try server write named ((first.tried files).closed.trans opened)
        -- only a question that was sent can be turned down
        cases reply with
        | unsent unspelt => exact absurd rfl (Client.request_unspelt unspelt _ _)
        | refused =>
          refine ⟨_, _, _, keepList_exec ?_, .again first second⟩
          rw [exec_tryCatch, queried]
          exact retried
      · refine ⟨_, _, _, keepList_exec ?_,
          .settled first (.inr fun text same => turned ⟨text, Except.error.inj same⟩)⟩
        rw [exec_tryCatch, queried]
        simp only [Except.map]
        split
        · rename_i text
          exact absurd ⟨text, rfl⟩ turned
        · rfl
    · refine ⟨_, _, _, keepList_exec ?_, .settled first (.inr nofun)⟩
      rw [exec_tryCatch, queried]
      rfl

/-- What a fetch sends and what it leaves of the lists. -/
structure Fetched (name : String) (s : Caches) (result : Except Fault (List Json)) (asked : Nat)
    (t : Caches) : Prop where
  sent : ∃ made, t.log = s.log ++ made ∧ made.countP isListing = asked
  twice : asked ≤ 2
  failed : ∀ fault, result = .error fault → t.lists = s.lists
  listed : ∀ list, result = .ok list → 1 ≤ asked ∧ t.lists = put name list s.lists
  closed : t.closed = s.closed

theorem Tried.fetched {result : Except Fault (List Json)} (h : Tried s result made t) :
    Fetched name s result made.length (keepList name result t) := by
  cases result with
  | error fault => exact ⟨h.sent, h.once.trans (by decide), fun _ _ => h.lists, nofun, h.closed⟩
  | ok list =>
    refine ⟨h.sent, h.once.trans (by decide), nofun, ?_, h.closed⟩
    intro _ same
    cases same
    exact ⟨(h.listed list rfl).ge, congrArg (put name list) h.lists⟩

theorem Fetch.fetched {result : Except Fault (List Json)} {asked : Nat}
    (h : Fetch server write name s result asked t) (files : WritesFile write) :
    Fetched name s result asked t := by
  cases h with
  | settled only => exact (only.tried files).fetched
  | again first second =>
    have before := first.tried files
    have after := second.tried files
    have kept : Fetched name _ result _ (keepList name result _) := after.fetched
    obtain ⟨made, log, one⟩ := before.sent
    obtain ⟨more, log', count⟩ := kept.sent
    refine ⟨⟨made ++ more, ?_, ?_⟩, Nat.add_le_add_left after.once 1, ?_, ?_, ?_⟩
    · rw [log', log, List.append_assoc]
    · rw [List.countP_append, one, count]
      rfl
    · exact fun fault failed => (kept.failed fault failed).trans before.lists
    · exact fun list listed => ⟨by omega, by rw [(kept.listed list listed).2, before.lists]⟩
    · exact kept.closed.trans before.closed

/-! ## Any sequence of requests -/

/-- What is asked of the caches: the list of a namespace, or that the lists be forgotten. Other
commands ask for clients in between, have them forgotten, and change the store. -/
inductive Demand
  | agents (name : String)
  | forgetAgents
  | client (name : String)
  | forgetClients
  | edit (store : Store) (file : Option String)

/-- What became of the lists: one was asked for, with what came of it and what was sent; or they
were forgotten. -/
inductive Event
  | got (name : String) (result : Except Fault (List Json)) (sent : List Http.Request)
  | forgot

/-- The events so far, the latest first, and the caches as they are now. -/
structure Watched where
  events : List Event := []
  state : Caches

def Watched.next (server : Http.Server) (write : Task Caches Unit) (w : Watched) :
    Demand → Watched
  | .agents name =>
    let (result, state) := (agents server name write).exec w.state
    ⟨.got name result (state.log.drop w.state.log.length) :: w.events, state⟩
  | .forgetAgents => ⟨.forgot :: w.events, (forgetAgents.exec w.state).2⟩
  | .client name => { w with state := ((client server name write).exec w.state).2 }
  | .forgetClients => { w with state := (forgetClients.exec w.state).2 }
  | .edit store file => { w with state := { w.state with store, file } }

/-- Demands one after the other on new caches over a store and its file. -/
def watch (server : Http.Server) (write : Task Caches Unit) (store : Store) (file : Option String)
    (demands : List Demand) : Watched :=
  demands.foldl (Watched.next server write) { state := { store, file } }

/-- The list of the latest listing of a namespace that came out well, unless the lists were
forgotten since. -/
def latest? (name : String) : List Event → Option (List Json)
  | .got other (.ok list) sent :: earlier =>
    if other = name ∧ sent.any isListing then some list else latest? name earlier
  | .got _ (.error _) _ :: earlier => latest? name earlier
  | .forgot :: _ => none
  | [] => none

/-- What a request for the list of a namespace comes to, with the one that is known of it. -/
inductive Served (server : Http.Server) (write : Task Caches Unit) (name : String) (s : Caches)
    (known : Option (List Json)) : Except Fault (List Json) → Caches → Prop
  | unnamed (unnamed : name = "") : Served server write name s known (.error .emptyNamespace) s
  | kept {list : List Json} (named : name ≠ "") (kept : known = some list) :
      Served server write name s known (.ok list) s
  | fetched {result : Except Fault (List Json)} {asked : Nat} {t : Caches} (named : name ≠ "")
      (unknown : known = none) (fetch : Fetch server write name s result asked t)
      (fetched : Fetched name s result asked t) : Served server write name s known result t

theorem agents_served (server : Http.Server) (name : String) (opened : s.closed = false)
    (files : WritesFile write) :
    ∃ result t, (agents server name write).exec s = (result, t) ∧
      Served server write name s (s.lists.lookup name) result t := by
  by_cases named : name = ""
  · subst named
    exact ⟨_, _, rfl, .unnamed rfl⟩
  cases known : s.lists.lookup name with
  | none =>
    obtain ⟨result, asked, t, ran, fetch⟩ := agents_fetch server named opened files known
    exact ⟨_, _, ran, .fetched named rfl fetch (fetch.fetched files)⟩
  | some list =>
    refine ⟨.ok list, s, ?_, .kept named rfl⟩
    unfold agents
    rw [if_neg named, exec_bind_ok (exec_get _), opened]
    simp only [Bool.false_eq_true, if_false]
    rw [exec_bind_ok (exec_get _), known]
    rfl

/-- What holds between demands: a list is kept exactly if it is the latest. -/
structure Latest (w : Watched) : Prop where
  opened : w.state.closed = false
  lists : ∀ name, name ≠ "" → w.state.lists.lookup name = latest? name w.events

theorem Latest.unlisted {w : Watched} (h : Latest w) (unlisted : Unlisted w.state t) :
    Latest { w with state := t } :=
  ⟨unlisted.closed.trans h.opened, fun name named => by rw [unlisted.lists, h.lists name named]⟩

theorem countP_pos_iff_any {l : List Http.Request} : 1 ≤ l.countP isListing ↔ l.any isListing := by
  rw [Nat.one_le_iff_ne_zero, Nat.ne_zero_iff_zero_lt, List.countP_pos_iff, List.any_eq_true]

theorem Served.latest {w : Watched} {result : Except Fault (List Json)} (h : Latest w)
    (served : Served server write name w.state (w.state.lists.lookup name) result t) :
    Latest ⟨.got name result (t.log.drop w.state.log.length) :: w.events, t⟩ := by
  cases served with
  | unnamed => exact ⟨h.opened, h.lists⟩
  | kept named known =>
    refine ⟨h.opened, fun other other_named => ?_⟩
    rw [List.drop_length, latest?, if_neg (by simp), h.lists other other_named]
  | fetched named unknown fetch fetched =>
    refine ⟨fetched.closed.trans h.opened, fun other other_named => ?_⟩
    cases result with
    | error fault => rw [fetched.failed fault rfl, h.lists other other_named, latest?]
    | ok list =>
      obtain ⟨made, log, count⟩ := fetched.sent
      obtain ⟨asked, lists⟩ := fetched.listed list rfl
      rw [lists, lookup_put, log, List.drop_left, latest?, h.lists other other_named]
      have listing : made.any isListing := countP_pos_iff_any.1 (count ▸ asked)
      simp only [listing, and_true, eq_comm]

theorem client_unlisted (server : Http.Server) (name : String) (opened : s.closed = false)
    (files : WritesFile write) : Unlisted s ((client server name write).exec s).2 := by
  by_cases named : name = ""
  · subst named
    exact ⟨rfl, rfl, [], (List.append_nil _).symm, rfl⟩
  obtain ⟨result, t, ran, provided⟩ := client_provided server write named opened
  rw [ran]
  exact provided.unlisted files

theorem forgetAgents_exec (opened : s.closed = false) :
    forgetAgents.exec s = (.ok (), { s with lists := [] }) := by
  unfold forgetAgents
  rw [exec_bind_ok (exec_get _), if_neg (by rw [opened]; exact Bool.false_ne_true)]
  rfl

theorem next_latest {w : Watched} (h : Latest w) (files : WritesFile write) (demand : Demand) :
    Latest (w.next server write demand) := by
  cases demand with
  | agents name =>
    obtain ⟨result, t, ran, served⟩ := agents_served server name h.opened files
    simp only [Watched.next, ran]
    exact served.latest h
  | forgetAgents =>
    simp only [Watched.next, forgetAgents_exec h.opened]
    exact ⟨h.opened, fun name _ => rfl⟩
  | client name => exact h.unlisted (client_unlisted server name h.opened files)
  | forgetClients =>
    simp only [Watched.next, forgetClients_exec h.opened]
    exact ⟨h.opened, h.lists⟩
  | edit store file => exact ⟨h.opened, h.lists⟩

theorem watch_latest (server : Http.Server) (files : WritesFile write) (store : Store)
    (file : Option String) (demands : List Demand) :
    Latest (watch server write store file demands) :=
  List.foldlRecOn demands _ ⟨rfl, fun _ _ => rfl⟩ fun _ h demand _ => next_latest h files demand

/-- **Lists are fresh.** Whatever was asked for before and whatever the control plane answers, the
list of a namespace is the one of the latest listing since the lists were forgotten; and if there is
none it is fetched. -/
theorem lists_fresh (server : Http.Server) {write : Task Caches Unit} (files : WritesFile write)
    (store : Store) (file : Option String) (demands : List Demand) (name : String) :
    let watched := watch server write store file demands
    let turn := (agents server name write).exec watched.state
    Served server write name watched.state (latest? name watched.events) turn.1 turn.2 := by
  have latest := watch_latest server files store file demands
  obtain ⟨result, t, ran, served⟩ := agents_served server name latest.opened files
  simp only [ran]
  by_cases named : name = ""
  · subst named
    cases ran
    exact .unnamed rfl
  · rwa [latest.lists name named] at served

/-- A list that is turned down at first is asked for again, and then kept for the namespace until
the lists are forgotten; a session that is renewed for another command changes nothing about it. -/
theorem lists_fresh_turned_down :
    let server : Http.Server := .answering fun log request =>
      if request.method = "POST" then .answer 200 (Json.obj [("accessToken", .str "a")]).compact
      else if log.length = 1 then .answer 401 "expired"
      else .answer 200 (Json.obj [("fogs", .arr [.str "edge-1"])]).compact
    let store : Store := { namespaces := [{ name := "edge", endpoint := .str "host" }] }
    let demands := [.agents "edge", .client "edge"]
    let watched := watch server flush store none demands
    WritesFile flush ∧
      watched.state.log.map (·.method) = ["POST", "GET", "POST", "GET", "POST"] ∧
      latest? "edge" watched.events = some [.str "edge-1"] ∧
      Served server flush "edge" watched.state (latest? "edge" watched.events)
        ((agents server "edge").exec watched.state).1
        ((agents server "edge").exec watched.state).2 :=
  ⟨flush_writesFile, by decide +kernel, by decide +kernel,
    lists_fresh _ flush_writesFile _ none _ "edge"⟩

end Caches
end EdgeSession.ControlPlane
