import EdgeSession.Proofs.ControlPlane.Login
import EdgeSession.Proofs.Json.RoundTrip

/-!
Tokens over any sequence of requests for clients. They are in three places, the client, the store
and the file, and a refresh token is presented once at most to a control plane that gives out new
ones: so the one that is presented has to be the one that the latest renewal brought.
-/
namespace EdgeSession.ControlPlane.Caches

open Config ControlPlane.Task
open Client (Renewal)

/-- What the callers of the client cache ask for. -/
inductive Call
  | get (name : String)
  | invalidate
  deriving DecidableEq, Repr

/-- The clients that calls have returned, the latest first, and the caches as they are now. -/
structure Played where
  returned : List (String × Login)
  state : Caches

def Played.got (p : Played) (name : String) : Except Fault Login × Caches → Played
  | (.ok login, s) => ⟨(name, login) :: p.returned, s⟩
  | (.error _, s) => { p with state := s }

def Played.next (server : Http.Server) (p : Played) : Call → Played
  | .get name => p.got name ((client server name).exec p.state)
  | .invalidate => { p with state := (forgetClients.exec p.state).2 }

/-- Calls one after the other on new caches over a store and its file. -/
def play (server : Http.Server) (store : Store) (file : Option String) (calls : List Call) :
    Played :=
  calls.foldl (Played.next server) ⟨[], { store, file }⟩

/-- The refresh token that the latest renewal of a namespace brought, or the loaded one. -/
def Played.due? (loaded : Store) (p : Played) (name : String) : Option Json :=
  match p.returned.lookup name with
  | some login => some login.client.refresh
  | none => (loaded.tokens? name).map (·.2)

/-- What a request for the client of a namespace does, if `due` is the refresh token that is to be
presented for it. -/
structure Chained (server : Http.Server) (name : String) (due : Option Json)
    (before after : Caches) (result : Except Fault Login) : Prop where
  failed : ∀ fault, result = .error fault →
    after.store = before.store ∧ after.file = before.file
  stored : ∀ login, result = .ok login →
    after.store.tokens? name = some (login.client.access, login.client.refresh)
  /-- The file is the text of a document that holds the same tokens, and is read as that document
  if nothing in it is out of reach of a reader. -/
  written : ∀ login, result = .ok login →
    let document := after.store.toJson
    after.file = some document.pretty ∧
      Store.tokensIn? document name = some (login.client.access, login.client.refresh) ∧
      (∀ other, Store.tokensIn? document other = after.store.tokens? other) ∧
      (document.every Json.isLegible = true → Json.parse document.pretty.toList = .ok document)
  others : ∀ other, other ≠ name → after.store.tokens? other = before.store.tokens? other
  /-- Nothing is sent but to ask for tokens, with the refresh token that is due. -/
  sent : ∃ made, after.log = before.log ++ made ∧
    ∀ request ∈ made, ∃ c, before.asker name = .ok c ∧ due = some c.refresh ∧
      c.AsksForTokens server request
  /-- The tokens of a client that is returned are those of a renewal. -/
  renewed : ∀ login, result = .ok login → ∃ c made,
    before.asker name = .ok c ∧ due = some c.refresh ∧
      after.log = before.log ++ made ∧ Renewal server before.log c (.ok login.client) made
  /-- Without a client returned there was nobody to ask, or the renewal failed. -/
  unrenewed : ∀ fault, result = .error fault →
    ((name = "" ∨ before.asker name = .error fault) ∧ after.log = before.log) ∨
    ∃ c made, before.asker name = .ok c ∧ due = some c.refresh ∧
      after.log = before.log ++ made ∧ Renewal server before.log c (.error fault) made

variable {server : Http.Server} {name : String} {s s' : Caches} {result : Except Fault Login}

/-- What holds between calls: the copies are in step, and the store has the tokens that are due. -/
structure Linked (loaded : Store) (p : Played) : Prop where
  opened : p.state.closed = false
  inStep : p.state.InStep
  due : ∀ name, (p.state.store.tokens? name).map (·.2) = p.due? loaded name

theorem Turn.inStep (h : Turn server name s result s') (inStep : s.InStep) : s'.InStep := by
  cases h with
  | unnamed => exact inStep
  | unrenewed _ session => cases session <;> exact inStep
  | renewed named session stored =>
    cases session
    intro other kept found
    rw [Store.tokens?_updateUser named stored]
    rw [lookup_put] at found
    split at found
    · rename_i same
      cases found
      rw [if_pos same]
    · rename_i apart
      rw [if_neg apart]
      exact inStep other kept found

theorem Turn.linked {loaded : Store} {p : Played} (h : Turn server name p.state result s')
    (linked : Linked loaded p) :
    Linked loaded (p.got name (result, s')) := by
  have inStep := h.inStep linked.inStep
  cases h with
  | unnamed => exact linked
  | unrenewed _ session => cases session <;> exact ⟨linked.opened, inStep, linked.due⟩
  | renewed named session stored =>
    cases session
    refine ⟨linked.opened, inStep, fun other => ?_⟩
    -- what is due changes for this namespace alone, and so does what is stored
    simp only [Played.got, Played.due?]
    rw [Store.tokens?_updateUser named stored, lookup_cons]
    split
    · rfl
    · exact linked.due other

/-- Forgetting the clients touches neither the store nor the file, and sends nothing. -/
theorem forgetClients_exec (opened : s.closed = false) :
    forgetClients.exec s = (.ok (), { s with clients := [] }) := by
  unfold forgetClients
  rw [exec_bind_ok (exec_get _), if_neg (by rw [opened]; exact Bool.false_ne_true)]
  rfl

theorem next_linked {loaded : Store} {p : Played} (linked : Linked loaded p) (call : Call) :
    Linked loaded (p.next server call) := by
  cases call with
  | get name =>
    obtain ⟨result, s', ran, turn⟩ := client_turn server name linked.opened linked.inStep
    simp only [Played.next, ran]
    exact turn.linked linked
  | invalidate =>
    simp only [Played.next, forgetClients_exec linked.opened]
    exact ⟨linked.opened, fun name login kept => (nomatch kept), linked.due⟩

theorem play_linked (server : Http.Server) (store : Store) (file : Option String)
    (calls : List Call) : Linked store (play server store file calls) := by
  have start : Linked store ⟨[], { store, file }⟩ :=
    ⟨rfl, fun name login kept => (nomatch kept), fun name => rfl⟩
  exact List.foldlRecOn calls _ start fun p linked call _ => next_linked linked call

theorem Chained.of_unasked {due : Option Json} {fault : Fault}
    (unasked : name = "" ∨ s.asker name = .error fault) :
    Chained server name due s s (.error fault) where
  failed _ _ := ⟨rfl, rfl⟩
  stored := nofun
  written := nofun
  others _ _ := rfl
  sent := ⟨[], (List.append_nil _).symm, nofun⟩
  renewed := nofun
  unrenewed fault eq := by
    cases eq
    exact .inl ⟨unasked, rfl⟩

theorem Turn.chained {due : Option Json} (h : Turn server name s result s') (inStep : s.InStep)
    (isDue : (s.store.tokens? name).map (·.2) = due) :
    Chained server name due s s' result := by
  have presents {c : Client} (named : name ≠ "") (asks : s.asker name = .ok c) :
      due = some c.refresh := by
    obtain ⟨access, known⟩ := inStep.asker named asks
    rw [← isDue, known]
    rfl
  cases h with
  | unnamed unnamed => exact .of_unasked (.inl unnamed)
  | unrenewed named session =>
    cases session with
    | refused asks => exact .of_unasked (.inr asks)
    | @failed c _ made asks renewal =>
      exact {
        failed := fun _ _ => ⟨rfl, rfl⟩
        stored := nofun
        written := nofun
        others := fun _ _ => rfl
        sent := ⟨made, rfl, fun request mem =>
          ⟨c, asks, presents named asks, renewal.asks request mem⟩⟩
        renewed := nofun
        unrenewed := fun fault eq => by
          cases eq
          exact .inr ⟨c, made, asks, presents named asks, rfl, renewal⟩ }
  | renewed named session stored =>
    have tokens := Store.tokens?_updateUser named stored
    cases session with
    | @renewed c _ made asks renewal =>
      exact {
        failed := nofun
        stored := fun login eq => by
          cases eq
          rw [tokens, if_pos rfl]
        written := fun login eq => by
          cases eq
          refine ⟨rfl, ?_, fun other => Store.tokensIn?_toJson _ other, Json.parse_pretty⟩
          rw [Store.tokensIn?_toJson, tokens, if_pos rfl]
        others := fun other apart => by rw [tokens, if_neg apart]
        sent := ⟨made, rfl, fun request mem =>
          ⟨c, asks, presents named asks, renewal.asks request mem⟩⟩
        renewed := fun login eq => by
          cases eq
          exact ⟨c, made, asks, presents named asks, rfl, renewal⟩
        unrenewed := nofun }

/-- **The chain of tokens.** Whatever was asked for before and whatever the control plane answers,
a request for the client of a namespace keeps its tokens together and presents none but the refresh
token that is due. -/
theorem tokens_chained (server : Http.Server) (store : Store) (file : Option String)
    (calls : List Call) (name : String) :
    let played := play server store file calls
    let turn := (client server name).exec played.state
    Chained server name (played.due? store name) played.state turn.2 turn.1 := by
  have linked := play_linked server store file calls
  obtain ⟨result, s', ran, turn⟩ := client_turn server name linked.opened linked.inStep
  simp only [ran]
  exact turn.chained linked.inStep (linked.due name)

/-- A control plane that numbers its tokens is shown each refresh token once. -/
example :
    let server : Http.Server := .answering fun log _ =>
      .answer 200 (Json.obj [("accessToken", .str s!"a{log.length}"),
        ("refreshToken", .str s!"r{log.length}")]).compact
    let store : Store := { namespaces := [{ name := "edge", endpoint := .str "host" }] }
    let calls := [.get "edge", .get "edge", .invalidate, .get "edge"]
    (play server store none calls).state.log.map (fun request => (request.path, request.body)) =
      [("/api/v3/user/login", (Json.obj [("email", .str ""), ("password", .str "")]).compact),
        ("/api/v3/user/refresh", (Json.obj [("refreshToken", .str "r0")]).compact),
        ("/api/v3/user/refresh", (Json.obj [("refreshToken", .str "r1")]).compact)] := by
  decide +kernel

end EdgeSession.ControlPlane.Caches
