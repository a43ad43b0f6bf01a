import EdgeSession.Proofs.ControlPlane.Progress
import EdgeSession.Proofs.ControlPlane.Tokens

/-!
The cache of clients behind its worker. One request for a namespace logs in, and whoever asks for it
later is given that client, however many ask at the same time.
-/
namespace EdgeSession.ControlPlane

namespace Caches

open ControlPlane.Task

/-- How many of some requests find no client for a namespace, and log in to it. -/
def logIns (server : Http.Server) (name : String) : List (Nat × String) → Caches → Nat
  | [], _ => 0
  | (_, key) :: rest, s =>
    (if key = name ∧ (s.clients.lookup name).isNone then 1 else 0) +
      logIns server name rest ((clientService server).handle key s).2

/-- The cache is open, and its clients are in step with the store. -/
structure Ready (s : Caches) : Prop where
  opened : s.closed = false
  inStep : s.InStep

/-- The cache has a client for a namespace, of the login with a number. -/
structure Holds (name : String) (number : Nat) (s : Caches) : Prop extends Ready s where
  kept : ∃ login, s.clients.lookup name = some login ∧ login.number = number

variable {server : Http.Server} {name key : String} {number : Nat} {s s' : Caches}
variable {result : Except Fault Login} {login login' : Login}

/-! ## One request -/

theorem Turn.closed (h : Turn server name s result s') : s'.closed = s.closed := by
  cases h with
  | unnamed => rfl
  | unrenewed _ session => cases session <;> rfl
  | renewed _ session => cases session; rfl

theorem Turn.ready (h : Turn server name s result s') (ready : s.Ready) : s'.Ready :=
  ⟨h.closed.trans ready.opened, h.inStep ready.inStep⟩

/-- A request puts the client that it returns into the cache, and touches no other. -/
theorem Turn.lookup_ok (h : Turn server name s (.ok login) s') (other : String) :
    s'.clients.lookup other = if other = name then some login else s.clients.lookup other := by
  cases h with
  | renewed _ session =>
    cases session
    exact lookup_put ..

theorem Turn.lookup_error {fault : Fault} (h : Turn server name s (.error fault) s')
    (other : String) : s'.clients.lookup other = s.clients.lookup other := by
  cases h with
  | unnamed => rfl
  | unrenewed _ session => cases session <;> rfl

theorem renew_number (ran : ((renew server name login).exec s).1 = .ok login') :
    login'.number = login.number := by
  unfold renew at ran
  rw [exec_bind_ok (talk_exec _ _ s)] at ran
  generalize (exec (Client.renew server) ⟨login.client, s.log⟩).1 = answer at ran
  cases answer with
  | ok _ =>
    cases ran
    rfl
  | error fault => cases ran

theorem keepLogin_login (ran : ((keepLogin flush name login).exec s).1 = .ok login') :
    login' = login := by
  unfold keepLogin at ran
  rw [exec_bind_ok (exec_get _)] at ran
  cases stored : s.store.updateUser (.str name) login.client.access login.client.refresh with
  | ok store =>
    rw [stored] at ran
    cases ran
    rfl
  | error fault =>
    rw [stored] at ran
    cases ran

/-- A client that is there is renewed, not replaced by one of another login. -/
theorem client_number (named : name ≠ "") (opened : s.closed = false)
    (kept : s.clients.lookup name = some login)
    (ran : ((client server name).exec s).1 = .ok login') : login'.number = login.number := by
  rw [client_exec named opened, exec_bind] at ran
  have renews : session server name s = renew server name login := by
    unfold session
    rw [kept]
  rw [renews] at ran
  cases renewed : (renew server name login).exec s with
  | mk answer t =>
    rw [renewed] at ran
    cases answer with
    | error fault => cases ran
    | ok renewal =>
      rw [keepLogin_login ran]
      exact renew_number (congrArg Prod.fst renewed)

theorem handle_unnamed (ready : s.Ready) :
    (clientService server).handle "" s = (.ok none, { s with clients := [] }) := by
  simp only [clientService, if_true]
  rw [exec_bind_ok (forgetClients_exec ready.opened)]
  rfl

theorem handle_named (server : Http.Server) (named : key ≠ "") (ready : s.Ready) :
    ∃ result s', (clientService server).handle key s = (result.map some, s') ∧
      Turn server key s result s' ∧
      ∀ login login', s.clients.lookup key = some login → result = .ok login' →
        login'.number = login.number := by
  obtain ⟨result, s', ran, turn⟩ := client_turn server key ready.opened ready.inStep
  refine ⟨result, s', ?_, turn, fun login login' kept ok => ?_⟩
  · simp only [clientService, named, if_false]
    rw [exec_bind, ran]
    cases result <;> rfl
  · exact client_number named ready.opened kept ((congrArg Prod.fst ran).trans ok)

theorem Ready.handle (ready : s.Ready) (server : Http.Server) (key : String) :
    ((clientService server).handle key s).2.Ready := by
  by_cases named : key = ""
  · subst named
    rw [handle_unnamed ready]
    exact ⟨ready.opened, nofun⟩
  · obtain ⟨result, s', ran, turn, -⟩ := handle_named server named ready
    rw [ran]
    exact turn.ready ready

/-- What is asked of other namespaces brings no client for this one. -/
theorem Ready.lookup_none (ready : s.Ready) (apart : key ≠ name)
    (fresh : s.clients.lookup name = none) (server : Http.Server) :
    ((clientService server).handle key s).2.clients.lookup name = none := by
  by_cases named : key = ""
  · subst named
    rw [handle_unnamed ready]
    rfl
  · obtain ⟨result, s', ran, turn, -⟩ := handle_named server named ready
    rw [ran]
    cases result with
    | error fault => exact (turn.lookup_error name).trans fresh
    | ok login => exact (turn.lookup_ok name).trans ((if_neg (Ne.symm apart)).trans fresh)

/-- A client that is there stays, until all are forgotten, and goes to all who ask for it. -/
theorem Holds.handle (holds : Holds name number s) (named : key ≠ "") (server : Http.Server) :
    Holds name number ((clientService server).handle key s).2 ∧
      (key = name → ∀ login, ((clientService server).handle key s).1 = .ok (some login) →
        login.number = number) := by
  obtain ⟨login, kept, numbered⟩ := holds.kept
  obtain ⟨result, s', ran, turn, renewed⟩ := handle_named server named holds.toReady
  rw [ran]
  refine ⟨⟨turn.ready holds.toReady, ?_⟩, ?_⟩
  · cases result with
    | error fault => exact ⟨login, (turn.lookup_error name).trans kept, numbered⟩
    | ok login' =>
      have lookup := turn.lookup_ok name
      split at lookup
      · rename_i same
        subst same
        exact ⟨login', lookup, (renewed login login' kept rfl).trans numbered⟩
      · exact ⟨login, lookup.trans kept, numbered⟩
  · rintro rfl login' ok
    cases result with
    | error fault => cases ok
    | ok login'' =>
      cases ok
      exact (renewed login login' kept rfl).trans numbered

/-- The first request for a namespace that is answered leaves a client there. -/
theorem Ready.holds (ready : s.Ready) (named : name ≠ "")
    (ok : ((clientService server).handle name s).1 = .ok (some login)) :
    Holds name login.number ((clientService server).handle name s).2 := by
  obtain ⟨result, s', ran, turn, -⟩ := handle_named server named ready
  rw [ran] at ok ⊢
  cases result with
  | error fault => cases ok
  | ok login' =>
    cases ok
    exact ⟨turn.ready ready, login, (turn.lookup_ok name).trans (if_pos rfl), rfl⟩

/-! ## Requests one after another -/

theorem logIns_append (server : Http.Server) (name : String)
    (before after : List (Nat × String)) (s : Caches) :
    logIns server name (before ++ after) s =
      logIns server name before s +
        logIns server name after ((clientService server).serve before s).2 := by
  induction before generalizing s with
  | nil => exact (Nat.zero_add _).symm
  | cons request rest ih =>
    simp only [List.cons_append, logIns, Service.serve, ih, Nat.add_assoc]

theorem Ready.serve (ready : s.Ready) (server : Http.Server) (requests : List (Nat × String)) :
    ((clientService server).serve requests s).2.Ready := by
  induction requests generalizing s with
  | nil => exact ready
  | cons request rest ih => exact ih (ready.handle server request.2)

theorem Ready.serve_others (ready : s.Ready) (server : Http.Server)
    {requests : List (Nat × String)} (others : ∀ request ∈ requests, request.2 ≠ name)
    (fresh : s.clients.lookup name = none) :
    logIns server name requests s = 0 ∧
      ((clientService server).serve requests s).2.clients.lookup name = none := by
  induction requests generalizing s with
  | nil => exact ⟨rfl, fresh⟩
  | cons request rest ih =>
    obtain ⟨first, rest⟩ := List.forall_mem_cons.1 others
    obtain ⟨none, still⟩ :=
      ih (ready.handle server request.2) rest (ready.lookup_none first fresh server)
    exact ⟨by simp only [logIns, first, false_and, if_false, none], still⟩

theorem Holds.serve (holds : Holds name number s) (server : Http.Server)
    {requests : List (Nat × String)} (named : ∀ request ∈ requests, request.2 ≠ "") :
    logIns server name requests s = 0 ∧
      Holds name number ((clientService server).serve requests s).2 := by
  induction requests generalizing s with
  | nil => exact ⟨rfl, holds⟩
  | cons request rest ih =>
    obtain ⟨first, rest⟩ := List.forall_mem_cons.1 named
    obtain ⟨none, still⟩ := ih (holds.handle first server).1 rest
    obtain ⟨login, kept, -⟩ := holds.kept
    refine ⟨?_, still⟩
    simp only [logIns, kept, none, Option.isNone_some, Bool.false_eq_true, and_false, if_false]

end Caches

open Actor Caches

/-- **The worker of a cache serves its callers in order.** Whatever the schedule of its threads and
whatever comes of the requests, it handles one at a time, in the order of the queue, and answers
each once, in the caller's own slot, with the result of handling them one after another. An error is
such a result, and the worker goes on behind it. A caller that finds the cache open comes into the
queue by its next step. All that was queued before the mark is answered, three steps of the worker
for each request at the most. So of the callers who ask the cache of
clients for a namespace one logs in, and the others are given its client. -/
theorem served_in_order :
    (∀ {σ κ ρ : Type} (service : Service σ κ ρ) (start : σ) (moves : List (Move κ)),
      let a := ({ state := start } : Actor σ κ ρ).run service moves
      Serves service start a ∧
        (∀ caller key, a.callers caller = .away → a.closing = .no →
          ∀ later, .enqueue caller ∈ later →
            .request caller key ∈ (a.run service (.ask caller key :: later)).queued) ∧
        ∀ later, 3 * (Item.unmarked a.queued).length ≤ later.countP Move.isWork →
          (service.serve (Item.unmarked a.queued) start).1 <+: (a.run service later).replied) ∧
    ∀ (server : Http.Server) (store : Config.Store) (file : Option String) (moves),
      let start : Caches := { store, file }
      let a := Actor.run (clientService server) moves { state := start }
      ∀ before caller name rest login, a.begun = before ++ (caller, name) :: rest → name ≠ "" →
        (∀ request ∈ before, request.2 ≠ name) → (∀ request ∈ rest, request.2 ≠ "") →
        (caller, .ok (some login)) ∈ a.replied →
          logIns server name a.begun start = 1 ∧
            ∀ other login', (other, name) ∈ rest → (other, .ok (some login')) ∈ a.replied →
              login'.number = login.number := by
  refine ⟨fun service start moves => ?_, fun server store file moves => ?_⟩
  · have sound := (Sound.initial service start).run moves
    exact ⟨sound.serves, fun _ key away opened _ enters =>
      (ask_enters away opened key).queued service enters, fun _ enough => sound.answers _ enough⟩
  intro start a before caller name rest login begun named others unforgotten replied
  have sound : Sound (clientService server) start a := (Sound.initial _ start).run moves
  have new : start.Ready := ⟨rfl, nofun⟩
  obtain ⟨none, fresh⟩ := new.serve_others server others rfl
  have ready := new.serve server before
  have first := sound.reply_eq begun replied
  have holds := ready.holds named first.symm
  refine ⟨?_, fun other login' later replied' => ?_⟩
  · rw [begun, logIns_append, none, logIns, (holds.serve server unforgotten).1]
    simp [fresh]
  · obtain ⟨between, after, rfl⟩ := List.append_of_mem later
    have begun' : a.begun = (before ++ (caller, name) :: between) ++ (other, name) :: after := by
      rw [begun, List.append_assoc, List.cons_append]
    have answer := sound.reply_eq begun' replied'
    rw [Service.serve_append] at answer
    have kept := (holds.serve server fun request member =>
      unforgotten request (List.mem_append_left _ member)).2
    exact (kept.handle named server).2 rfl login' answer.symm

/-- Two callers ask for a namespace at once: one login, and the same client for both. -/
theorem served_in_order_pair :
    let server : Http.Server := .answering fun log _ =>
      .answer 200 (Json.obj [("accessToken", .str s!"a{log.length}"),
        ("refreshToken", .str s!"r{log.length}")]).compact
    let store : Config.Store := { namespaces := [{ name := "edge", endpoint := .str "host" }] }
    let start : Caches := { store, file := none }
    let moves : List (Move String) := [.ask 0 "edge", .ask 1 "edge", .enqueue 1, .work, .enqueue 0,
      .work, .work, .await 1, .work, .work, .close, .work, .await 0]
    let a := Actor.run (clientService server) moves { state := start }
    a.begun = [(1, "edge"), (0, "edge")] ∧ logIns server "edge" a.begun start = 1 ∧
      ∃ first second, a.replied = [(1, .ok (some first)), (0, .ok (some second))] ∧
        second.number = first.number := by
  intro server store start moves a
  have begun : a.begun = [] ++ (1, "edge") :: [(0, "edge")] := by decide +kernel
  have answered : a.replied.map (fun reply => (reply.1, reply.2.toOption.join.isSome)) =
      [(1, true), (0, true)] := by decide +kernel
  obtain ⟨first, second, replied⟩ :
      ∃ first second, a.replied = [(1, .ok (some first)), (0, .ok (some second))] := by
    generalize a.replied = replied at answered
    match replied with
    | [(_, .ok (some first)), (_, .ok (some second))] =>
      cases answered
      exact ⟨first, second, rfl⟩
  obtain ⟨once, shared⟩ := served_in_order.2 server store none moves [] 1 "edge" [(0, "edge")] first
    begun (by decide) (by simp) (by simp) (by rw [replied]; simp)
  exact ⟨begun, once, first, second, replied, shared 0 second (by simp) (by rw [replied]; simp)⟩

end EdgeSession.ControlPlane
