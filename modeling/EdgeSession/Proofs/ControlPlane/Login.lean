import EdgeSession.ControlPlane.Caches
import EdgeSession.Proofs.Config.Tokens
import EdgeSession.Proofs.ControlPlane.Renewal

/-!
One request for the client of a namespace: who asks for the renewal, and where its tokens go.
-/
namespace EdgeSession.ControlPlane.Caches

open Config ControlPlane.Task
open Client (Renewal renewal)

theorem lookup_cons {α : Type} (name k : String) (v : α) (l : List (String × α)) :
    ((k, v) :: l).lookup name = if name = k then some v else l.lookup name := by
  rw [List.lookup_cons]
  by_cases h : name = k
  · simp [h]
  · rw [beq_false_of_ne h, if_neg h]

theorem lookup_put {α : Type} (name other : String) (value : α) (l : List (String × α)) :
    (put name value l).lookup other = if other = name then some value else l.lookup other := by
  induction l with
  | nil => exact lookup_cons other name value []
  | cons head rest ih =>
    obtain ⟨k, v⟩ := head
    unfold put
    split
    · rename_i same
      subst same
      rw [lookup_cons, lookup_cons]
      split <;> rfl
    · rename_i apart
      rw [lookup_cons, lookup_cons, ih]
      by_cases h : other = k
      · subst h
        simp [apart]
      · simp [h]

theorem put_lookup {α : Type} {name : String} {value : α} {l : List (String × α)}
    (h : l.lookup name = some value) : put name value l = l := by
  induction l with
  | nil => cases h
  | cons head rest ih =>
    obtain ⟨k, v⟩ := head
    rw [lookup_cons] at h
    unfold put
    by_cases same : k = name
    · subst same
      simp_all
    · rw [if_neg (Ne.symm same)] at h
      rw [if_neg same, ih h]

/-- The client that is to renew the session of a namespace: the one that is kept, or a new one for
the stored credentials. -/
def asker (s : Caches) (name : String) : Except Fault Client :=
  match s.clients.lookup name with
  | some login => .ok login.client
  | none =>
    match s.store.get (.str name) with
    | .ok n => clientOf n
    | .error fault => .error (.lookup fault)

theorem clientOf_refresh {n : Namespace} {c : Client} (h : clientOf n = .ok c) :
    c.refresh = n.user.refreshToken := by
  unfold clientOf at h
  cases url : baseUrl n with
  | error fault => rw [url] at h; cases h
  | ok url' =>
    cases password : n.user.rawPassword with
    | error fault => rw [url, password] at h; cases h
    | ok password' => rw [url, password] at h; cases h; rfl

/-- The tokens of every client that is kept are those that the store holds for its namespace. -/
def InStep (s : Caches) : Prop :=
  ∀ name login, s.clients.lookup name = some login →
    s.store.tokens? name = some (login.client.access, login.client.refresh)

/-- Whoever asks for a namespace holds the refresh token that the store has for it. -/
theorem InStep.asker {s : Caches} (h : s.InStep) {name : String} (named : name ≠ "") {c : Client}
    (asks : s.asker name = .ok c) : ∃ access, s.store.tokens? name = some (access, c.refresh) := by
  unfold Caches.asker at asks
  cases kept : s.clients.lookup name with
  | some login =>
    simp only [kept, Except.ok.injEq] at asks
    subst asks
    exact ⟨_, h name login kept⟩
  | none =>
    rw [kept, Store.get_name named] at asks
    unfold Store.tokens?
    cases found : s.store.find? name with
    | none => simp [found] at asks
    | some n =>
      simp only [found] at asks
      exact ⟨n.user.accessToken, by rw [clientOf_refresh asks]; rfl⟩

/-- What comes of a request for the client of a namespace, before its tokens are stored. -/
inductive Session (server : Http.Server) (name : String) (s : Caches) :
    Except Fault Login → Caches → Prop
  | refused {fault : Fault} (asks : s.asker name = .error fault) :
      Session server name s (.error fault) s
  | failed {c : Client} {fault : Fault} {made : List Http.Request} (asks : s.asker name = .ok c)
      (renewal : Renewal server s.log c (.error fault) made) :
      Session server name s (.error fault) { s with log := s.log ++ made }
  | renewed {c : Client} (login : Login) {made : List Http.Request} (asks : s.asker name = .ok c)
      (renewal : Renewal server s.log c (.ok login.client) made) (logins : Nat) :
      Session server name s (.ok login)
        { s with log := s.log ++ made, clients := put name login s.clients, logins }

/-- What comes of a request for the client of a namespace. Its tokens go into the store and the
file. -/
inductive Turn (server : Http.Server) (name : String) (s : Caches) :
    Except Fault Login → Caches → Prop
  | unnamed (unnamed : name = "") : Turn server name s (.error .emptyNamespace) s
  | unrenewed {fault : Fault} {s' : Caches} (named : name ≠ "")
      (session : Session server name s (.error fault) s') : Turn server name s (.error fault) s'
  | renewed {login : Login} {s' : Caches} {store : Store} (named : name ≠ "")
      (session : Session server name s (.ok login) s')
      (stored : s.store.updateUser (.str name) login.client.access login.client.refresh =
        .ok store) :
      Turn server name s (.ok login) { s' with store, file := some store.fileText }

variable {server : Http.Server} {name : String} {s : Caches}

theorem Session.asks {login : Login} {s' : Caches} (h : Session server name s (.ok login) s') :
    ∃ c, s.asker name = .ok c ∧ s'.store = s.store := by
  cases h with
  | renewed _ asks => exact ⟨_, asks, rfl⟩

theorem talk_exec {α : Type} (c : Client) (task : Task Talk α) (s : Caches) :
    (talk c task).exec s =
      (.ok ((task.exec ⟨c, s.log⟩).1, (task.exec ⟨c, s.log⟩).2.client),
        { s with log := (task.exec ⟨c, s.log⟩).2.log }) := rfl

/-- The caches once some requests were sent and nothing else was done. -/
def asking (s : Caches) (made : List Http.Request) : Caches := { s with log := s.log ++ made }

/-- A question puts what it sends into the log, and changes nothing else. -/
theorem query_exec {α : Type} {c : Client} {task : Task Talk α} {result : Except Fault α}
    {made : List Http.Request} (ran : task.exec ⟨c, s.log⟩ = (result, ⟨c, s.log ++ made⟩)) :
    (query c task).exec s = (result, s.asking made) := by
  unfold query
  rw [Task.exec_bind_ok (talk_exec c task s), ran]
  cases result <;> rfl

theorem renew_session {login : Login} (kept : s.clients.lookup name = some login) :
    ∃ result s', (renew server name login).exec s = (result, s') ∧
      Session server name s result s' := by
  have asks : s.asker name = .ok login.client := by
    unfold asker
    rw [kept]
  obtain ⟨result, made, renewed, ran⟩ := renewal server s.log login.client
  unfold renew
  rw [exec_bind_ok (talk_exec _ _ s), ran]
  cases result with
  | ok c =>
    exact ⟨_, _, rfl, .renewed { login with client := c } asks renewed s.logins⟩
  | error fault =>
    -- the client goes back as it was, so nothing is different but the log
    have same : put name { login with client := login.client } s.clients = s.clients :=
      put_lookup kept
    refine ⟨_, _, rfl, ?_⟩
    simp only [Client.settled, same]
    exact .failed asks renewed

theorem logIn_session (fresh : s.clients.lookup name = none) :
    ∃ result s', (logIn server name).exec s = (result, s') ∧
      Session server name s result s' := by
  unfold logIn
  rw [exec_bind_ok (exec_get _)]
  have asks : s.asker name =
      match s.store.get (.str name) with
      | .ok n => clientOf n
      | .error fault => .error (.lookup fault) := by
    unfold asker
    rw [fresh]
  cases found : s.store.get (.str name) with
  | error fault =>
    rw [found] at asks
    exact ⟨_, _, rfl, .refused asks⟩
  | ok n =>
    rw [found] at asks
    rw [exec_bind_ok (exec_ofExcept_ok _ _ _)]
    cases made : clientOf n with
    | error fault => exact ⟨_, _, rfl, .refused (asks.trans made)⟩
    | ok c =>
      replace asks := asks.trans made
      obtain ⟨result, made, renewed, ran⟩ := renewal server s.log c
      rw [exec_bind_ok (exec_ofExcept_ok _ _ _), exec_bind_ok (talk_exec _ _ s), ran]
      cases result with
      | ok c' => exact ⟨_, _, rfl, .renewed ⟨s.logins, c'⟩ asks renewed _⟩
      | error fault => exact ⟨_, _, rfl, .failed asks renewed⟩

/-- The client of a namespace, its session renewed. -/
def session (server : Http.Server) (name : String) (s : Caches) : Task Caches Login :=
  match s.clients.lookup name with
  | some login => renew server name login
  | none => logIn server name

/-- The tokens go into the store and the file. -/
def keepLogin (write : Task Caches Unit) (name : String) (login : Login) : Task Caches Login := do
  let s ← get
  let store ← Task.ofExcept .lookup
    (s.store.updateUser (.str name) login.client.access login.client.refresh)
  set { s with store }
  write
  return login

theorem client_exec {write : Task Caches Unit} (named : name ≠ "") (opened : s.closed = false) :
    (client server name write).exec s =
      exec (session server name s >>= keepLogin write name) s := by
  unfold client session
  rw [if_neg named, exec_bind_ok (exec_get _)]
  simp only [opened, Bool.false_eq_true, if_false]
  rw [exec_bind_ok (exec_get _)]
  cases s.clients.lookup name <;> rfl

theorem session_cases (server : Http.Server) (name : String) (s : Caches) :
    ∃ result s', (session server name s).exec s = (result, s') ∧
      Session server name s result s' := by
  unfold session
  cases kept : s.clients.lookup name with
  | some login => exact renew_session kept
  | none => exact logIn_session kept

/-- A request for the client of a namespace is a turn. -/
theorem client_turn (server : Http.Server) (name : String) {s : Caches}
    (opened : s.closed = false) (h : s.InStep) :
    ∃ result s', (client server name).exec s = (result, s') ∧ Turn server name s result s' := by
  by_cases named : name = ""
  · subst named
    exact ⟨_, _, rfl, .unnamed rfl⟩
  rw [client_exec named opened]
  obtain ⟨result, s', ran, session⟩ := session_cases server name s
  cases result with
  | error fault =>
    rw [exec_bind_error ran]
    exact ⟨_, _, rfl, .unrenewed named session⟩
  | ok login =>
    obtain ⟨c, asks, kept⟩ := session.asks
    obtain ⟨access, known⟩ := h.asker named asks
    obtain ⟨store, stored⟩ :=
      Store.updateUser_known named known login.client.access login.client.refresh
    rw [exec_bind_ok ran]
    unfold keepLogin
    rw [exec_bind_ok (exec_get _)]
    simp only [kept, stored]
    exact ⟨_, { s' with store, file := some store.fileText }, rfl,
      .renewed named session stored⟩

end EdgeSession.ControlPlane.Caches
