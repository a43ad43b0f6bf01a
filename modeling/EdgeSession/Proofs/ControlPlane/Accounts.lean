import EdgeSession.Proofs.ControlPlane.Causes
import EdgeSession.Proofs.ControlPlane.Reconcile

/-!
Steps on the caches while a command is about one namespace. They change nothing that is stored for
it but tokens and agents, and every fault they end in is accounted for.
-/
namespace EdgeSession.ControlPlane

open Config ControlPlane.Task

variable {server : Http.Server} {n : Namespace} {log more : List Http.Request} {c : Client}
  {fault : Fault} {α β : Type}

@[simp] theorem wp_ofExcept_ok {ε σ : Type} {Q : α → σ → Prop} {E : Fault → σ → Prop} {s : σ}
    (f : ε → Fault) (a : α) : wp (Task.ofExcept f (.ok a)) Q E s = Q a s := rfl

@[simp] theorem wp_ofExcept_error {ε σ : Type} {Q : α → σ → Prop} {E : Fault → σ → Prop} {s : σ}
    (f : ε → Fault) (e : ε) : wp (Task.ofExcept f (.error e)) Q E s = E (f e) s := rfl

/-! ## What a client asks -/

/-- Whether what a client comes to know by asking is so, or its fault is accounted for. -/
def Asks (server : Http.Server) (n : Namespace) (c : Client) (task : Task Talk α)
    (Q : List Http.Request → α → Prop) : Prop :=
  ∀ log, Kept server n log c →
    wp task (fun a t => log <+: t.log ∧ Q t.log a)
      (fun fault t => log <+: t.log ∧ Accounted server n t.log fault) ⟨c, log⟩

namespace Client

theorem ask_asks {q : Question} (asked : q.path ∈ places) (bare : q.body = none) :
    Asks server n c (ask server q) fun log v => Answered server log v := by
  intro log kept
  cases sent : c.request server q with
  | error fault =>
    rw [wp_error (ask_unsent sent)]
    refine ⟨List.prefix_rfl, .inr (request_cause kept ⟨asked, fun unfit => ?_⟩ sent)⟩
    rw [bare] at unfit
    cases unfit
  | ok request =>
    have grown := List.prefix_append log [request]
    cases read : c.readReply q.path (server log request) with
    | error fault =>
      rw [wp_error ((ask_sent sent).trans (by rw [read]))]
      exact ⟨grown, readReply_cause (replied_last log request) read⟩
    | ok v =>
      rw [wp_ok ((ask_sent sent).trans (by rw [read]))]
      exact ⟨grown, readReply_answered (replied_last log request) read⟩

theorem listAgents_asks :
    Asks server n c (listAgents server) fun log entries =>
      ∀ entry ∈ entries, Listed server log entry := by
  intro log kept
  have asked : "/iofog-list" ∈ places := by simp [places]
  unfold listAgents
  rw [wp_bind]
  refine wp_mono (ask_asks asked rfl log kept) (fun answer t h => ?_) (fun _ _ h => h)
  obtain ⟨grown, answered⟩ := h
  rw [wp_pure]
  refine ⟨grown, fun entry mem => ?_⟩
  split at mem
  · rename_i entries held
    exact ⟨answer, "fogs", entries, answered, by simp, held, mem⟩
  · cases mem

theorem findNamed_mem {name : String} {entries : List Json} {found : Json}
    (h : findNamed name entries = .ok (some found)) : found ∈ entries := by
  induction entries with
  | nil => cases h
  | cons v rest ih =>
    cases v with
    | obj members =>
      unfold findNamed at h
      split at h
      · cases h
        exact List.mem_cons_self
      · exact List.mem_cons_of_mem _ (ih h)
    | _ => cases h

theorem findNamed_fault {name : String} {entries : List Json} {fault : ShapeFault}
    (h : findNamed name entries = .error fault) :
    fault = .notObject ∧ ∃ v ∈ entries, ∀ members, v ≠ .obj members := by
  induction entries with
  | nil => cases h
  | cons v rest ih =>
    cases v with
    | obj members =>
      unfold findNamed at h
      split at h
      · cases h
      · obtain ⟨same, v, mem, unfit⟩ := ih h
        exact ⟨same, v, List.mem_cons_of_mem _ mem, unfit⟩
    | _ =>
      cases h
      exact ⟨rfl, _, List.mem_cons_self, by simp⟩

/-- Looking a name up in a list that was answered. -/
theorem lookUp_accounted {name : String} {entries : List Json} {fault : ShapeFault}
    (listed : ∀ entry ∈ entries, Listed server log entry)
    (h : findNamed name entries = .error fault) : Accounted server n log (.shape fault) := by
  obtain ⟨rfl, v, mem, unfit⟩ := findNamed_fault h
  exact .inr (.entry (listed v mem) unfit)

theorem agentNamed_asks (name : String) :
    Asks server n c (agentNamed server name) fun log entry => Listed server log entry := by
  intro log kept
  unfold agentNamed
  rw [wp_bind]
  refine wp_mono (listAgents_asks log kept) (fun entries t h => ?_) (fun _ _ h => h)
  obtain ⟨grown, listed⟩ := h
  rw [wp_bind]
  cases found : findNamed name entries with
  | error fault => exact ⟨grown, lookUp_accounted listed found⟩
  | ok entry =>
    cases entry with
    | none => exact ⟨grown, .inl ⟨_, _, rfl⟩⟩
    | some entry => exact ⟨grown, listed entry (findNamed_mem found)⟩

theorem itemsOf_listed {answer : Json} {entries : List Json} (answered : Answered server log answer)
    (h : itemsOf (answer.get? "microservices") = .ok entries) :
    ∀ entry ∈ entries, Listed server log entry := by
  intro entry mem
  cases held : answer.get? "microservices" with
  | none =>
    rw [held] at h
    cases h
    cases mem
  | some v =>
    rw [held] at h
    unfold itemsOf at h
    cases v with
    | arr items =>
      cases h
      exact ⟨answer, "microservices", entries, answered, by simp, held, mem⟩
    | _ =>
      simp only [] at h
      split at h
      · cases h
        cases mem
      · cases h

theorem microserviceAt_asks {path : String} (asked : path ∈ places) (app name : String) :
    Asks server n c (microserviceAt server path app name) fun log entry =>
      Listed server log entry := by
  intro log kept
  unfold microserviceAt
  rw [wp_bind]
  refine wp_mono (ask_asks asked rfl log kept) (fun answer t h => ?_) (fun _ _ h => h)
  obtain ⟨grown, answered⟩ := h
  rw [wp_bind]
  cases items : itemsOf (answer.get? "microservices") with
  | error fault => exact ⟨grown, .inr (.unlisted answered items)⟩
  | ok entries =>
    have listed := itemsOf_listed answered items
    rw [wp_ofExcept_ok, wp_bind]
    cases found : findNamed name entries with
    | error fault => exact ⟨grown, lookUp_accounted listed found⟩
    | ok entry =>
      cases entry with
      | none => exact ⟨grown, .inl ⟨_, _, rfl⟩⟩
      | some entry => exact ⟨grown, listed entry (findNamed_mem found)⟩

end Client

/-! ## Caches under way -/

/-- A namespace as it was loaded, but for tokens and agents. -/
def renewed (n : Namespace) (access refresh : Json) (agents : List Agent) : Namespace :=
  { n with user := { n.user with accessToken := access, refreshToken := refresh }, agents }

/-- What holds of the caches while they serve one namespace. -/
structure Going (server : Http.Server) (n : Namespace) (s : Caches) : Prop where
  opened : s.closed = false
  stored : ∃ access refresh agents, s.store.find? n.name = some (renewed n access refresh agents) ∧
    Refreshing server s.log refresh ∧ ∀ a ∈ agents, a.Regular
  client : ∀ login, s.clients.lookup n.name = some login → Kept server n s.log login.client
  list : ∀ entries, s.lists.lookup n.name = some entries →
    ∀ entry ∈ entries, Listed server s.log entry

/-- Whether steps from such caches, after the requests in `log`, come to what is described by `Q`,
or to a fault that `E` accounts for. -/
def Runs {ε : Type} (server : Http.Server) (n : Namespace) (E : List Http.Request → ε → Prop)
    (log : List Http.Request) (task : ExceptT ε (StateM Caches) α)
    (Q : List Http.Request → α → Prop) : Prop :=
  ∀ s, Going server n s → log <+: s.log →
    wp task (fun a t => Going server n t ∧ s.log <+: t.log ∧ Q t.log a)
      (fun fault t => Going server n t ∧ s.log <+: t.log ∧ E t.log fault) s

variable {ε φ : Type} {E : List Http.Request → ε → Prop} {F : List Http.Request → φ → Prop}
  {Q : List Http.Request → α → Prop} {R : List Http.Request → β → Prop}

/-- Steps that follow on others: what the first ones asked still counts. -/
theorem Runs.onwards {task : ExceptT ε (StateM Caches) α} {s t : Caches}
    (h : Runs server n E t.log task Q) (going : Going server n t) (grown : s.log <+: t.log) :
    wp task (fun a u => Going server n u ∧ s.log <+: u.log ∧ Q u.log a)
      (fun fault u => Going server n u ∧ s.log <+: u.log ∧ E u.log fault) t :=
  wp_mono (h t going List.prefix_rfl)
    (fun _ _ later => ⟨later.1, grown.trans later.2.1, later.2.2⟩)
    (fun _ _ later => ⟨later.1, grown.trans later.2.1, later.2.2⟩)

theorem runs_pure {a : α} (h : ∀ more, log <+: more → Q more a) :
    Runs server n E log (pure a) Q :=
  fun s going grown => ⟨going, List.prefix_rfl, h s.log grown⟩

theorem runs_throw {fault : ε} (h : ∀ more, log <+: more → E more fault) :
    Runs server n E log (throw fault) Q :=
  fun s going grown => ⟨going, List.prefix_rfl, h s.log grown⟩

theorem runs_bind {task : ExceptT ε (StateM Caches) α} {next : α → ExceptT ε (StateM Caches) β}
    (first : Runs server n E log task Q)
    (rest : ∀ a more, log <+: more → Q more a → Runs server n E more (next a) R) :
    Runs server n E log (task >>= next) R := by
  intro s going grown
  rw [wp_bind]
  refine wp_mono (first s going grown) (fun a t h => ?_) (fun _ _ h => h)
  obtain ⟨going', grown', holds⟩ := h
  exact (rest a t.log (grown.trans grown') holds).onwards going' grown'

theorem runs_ofExcept {x : Except ε α} {f : ε → Fault} {E : List Http.Request → Fault → Prop}
    (ok : ∀ a, x = .ok a → ∀ more, log <+: more → Q more a)
    (error : ∀ e, x = .error e → ∀ more, log <+: more → E more (f e)) :
    Runs server n E log (Task.ofExcept f x) Q := by
  cases x with
  | ok a => exact runs_pure (ok a rfl)
  | error e => exact runs_throw (error e rfl)

theorem runs_ofOk {f : ε → Fault} {a : α} {next : α → Task Caches β}
    {E : List Http.Request → Fault → Prop} (h : Runs server n E log (next a) R) :
    Runs server n E log (Task.ofExcept f (.ok a) >>= next) R := by
  intro s going grown
  rw [wp_bind]
  exact h s going grown

/-- A handler may be in for other faults than those that are left in the end. -/
theorem runs_tryCatch {D : List Http.Request → ε → Prop} {task : ExceptT ε (StateM Caches) α}
    {handler : ε → ExceptT ε (StateM Caches) α} (body : Runs server n D log task Q)
    (handles : ∀ fault more, log <+: more → D more fault →
      Runs server n E more (handler fault) Q) :
    Runs server n E log (tryCatch task handler) Q := by
  intro s going grown
  rw [wp_tryCatch]
  refine wp_mono (body s going grown) (fun _ _ h => h) (fun fault t h => ?_)
  obtain ⟨going', grown', holds⟩ := h
  exact (handles fault t.log (grown.trans grown') holds).onwards going' grown'

theorem runs_adapt {f : ε → φ} {task : ExceptT ε (StateM Caches) α} (h : Runs server n E log task Q)
    (named : ∀ fault more, E more fault → F more (f fault)) :
    Runs server n F log (ExceptT.adapt f task) Q := by
  intro s going grown
  rw [wp_adapt]
  exact wp_mono (h s going grown) (fun _ _ h => h) fun fault t h => ⟨h.1, h.2.1, named _ _ h.2.2⟩

/-- What is read off the caches is only known for the moment, but for what holds while they go. -/
theorem runs_get {next : Caches → ExceptT ε (StateM Caches) α}
    (h : ∀ s, Going server n s → log <+: s.log → Runs server n E s.log (next s) Q) :
    Runs server n E log (get >>= next) Q := by
  intro s going grown
  rw [wp_bind]
  exact h s going grown s going List.prefix_rfl

theorem runs_modify {f : Caches → Caches} {Q : List Http.Request → PUnit → Prop}
    (h : ∀ s, Going server n s → log <+: s.log →
      Going server n (f s) ∧ (f s).log = s.log ∧ Q s.log ⟨⟩) :
    Runs server n E log (modify f) Q := by
  intro s going grown
  obtain ⟨going', same, holds⟩ := h s going grown
  rw [wp_modify]
  exact ⟨going', same ▸ List.prefix_rfl, same ▸ holds⟩

/-! ## Clients -/

theorem Going.asked {s : Caches} (h : Going server n s) (grown : s.log <+: more) :
    Going server n { s with log := more } where
  opened := h.opened
  stored := by
    obtain ⟨access, refresh, agents, found, refreshing, regular⟩ := h.stored
    exact ⟨access, refresh, agents, found, refreshing.mono grown, regular⟩
  client login kept := (h.client login kept).mono grown
  list entries kept entry mem := (h.list entries kept entry mem).mono grown

namespace Caches

theorem clientOf_renewed (access refresh : Json) (agents : List Agent) :
    clientOf (renewed n access refresh agents) =
      (clientOf n).map fun c => { c with refresh } := by
  have url : baseUrl (renewed n access refresh agents) = baseUrl n := by
    simp only [baseUrl, renewed]
  have password : (renewed n access refresh agents).user.rawPassword = n.user.rawPassword := by
    simp only [Credentials.rawPassword, renewed]
  unfold clientOf
  rw [url, password]
  cases baseUrl n with
  | error fault => rfl
  | ok url => cases n.user.rawPassword <;> rfl

theorem clientOf_kept (regular : n.Regular) (h : clientOf n = .ok c) : Kept server n log c := by
  obtain ⟨url, base, h⟩ := bind_eq_ok.mp h
  obtain ⟨password, -, h⟩ := bind_eq_ok.mp h
  cases h
  exact ⟨⟨url, base, rfl⟩, regular.email, ⟨password, rfl⟩, .inl rfl, .inl regular.refresh⟩

/-- What is stored for a namespace that has no client. -/
theorem clientOf_cause (regular : n.Regular) (h : clientOf n = .error fault) :
    Cause server n log fault := by
  obtain ⟨endpoint, isEndpoint⟩ := regular.endpoint
  obtain ⟨password, isPassword⟩ := regular.password
  rcases bind_eq_error.mp h with h | ⟨url, -, h⟩
  · unfold baseUrl at h
    rw [isEndpoint] at h
    cases made : BaseUrl.normalize endpoint.toList n.useHttps.isTruthy with
    | ok url => simp [made] at h
    | error unfit =>
      simp only [made] at h
      cases h
      exact .endpoint isEndpoint made
  · rcases bind_eq_error.mp h with h | ⟨clear, -, h⟩
    · unfold Credentials.rawPassword at h
      rw [isPassword] at h
      cases made : rawPassword? password with
      | some clear =>
        simp only [made] at h
        cases h
      | none =>
        simp only [made] at h
        cases h
        exact .password isPassword made
    · cases h

variable {s : Caches}

theorem asker_renewed (named : n.name ≠ "") (fresh : s.clients.lookup n.name = none)
    {access refresh : Json} {agents : List Agent}
    (found : s.store.find? n.name = some (renewed n access refresh agents)) :
    s.asker n.name = (clientOf n).map fun c => { c with refresh } := by
  unfold asker
  rw [fresh, Store.get_name named, found]
  exact clientOf_renewed access refresh agents

theorem asker_kept (regular : n.Regular) (named : n.name ≠ "") (going : Going server n s)
    (asks : s.asker n.name = .ok c) : Kept server n s.log c := by
  obtain ⟨access, refresh, agents, found, refreshing, -⟩ := going.stored
  cases kept : s.clients.lookup n.name with
  | some login =>
    unfold asker at asks
    rw [kept] at asks
    cases asks
    exact going.client login kept
  | none =>
    rw [asker_renewed named kept found, map_eq_ok] at asks
    obtain ⟨made, fits, rfl⟩ := asks
    exact { clientOf_kept regular fits with refresh := refreshing }

theorem asker_cause (regular : n.Regular) (named : n.name ≠ "") (going : Going server n s)
    (asks : s.asker n.name = .error fault) : Cause server n s.log fault := by
  obtain ⟨access, refresh, agents, found, -, -⟩ := going.stored
  cases kept : s.clients.lookup n.name with
  | some login =>
    unfold asker at asks
    rw [kept] at asks
    cases asks
  | none =>
    rw [asker_renewed named kept found] at asks
    cases made : clientOf n with
    | ok c =>
      rw [made] at asks
      cases asks
    | error unfit =>
      rw [made] at asks
      cases asks
      exact clientOf_cause regular made

/-- New tokens in the store. -/
theorem updateUser_going (named : n.name ≠ "") (going : Going server n s) (access : Json)
    {refresh : Json} (refreshing : Refreshing server s.log refresh) :
    ∃ store, s.store.updateUser (.str n.name) access refresh = .ok store ∧
      ∀ file, Going server n { s with store, file } := by
  obtain ⟨_, _, agents, found, -, regular⟩ := going.stored
  unfold Store.updateUser Store.update
  rw [Store.get_name named, found]
  refine ⟨_, rfl, fun file => ⟨going.opened, ?_, going.client, going.list⟩⟩
  refine ⟨access, refresh, agents, ?_, refreshing, regular⟩
  show (s.store.modify n.name _).find? n.name = _
  rw [Store.find?_modify, found]
  · simp [renewed]
  · exact fun _ => rfl

/-- The client of the namespace, or a fault that is accounted for. -/
theorem client_runs (regular : n.Regular) (named : n.name ≠ "") :
    Runs server n (Accounted server n) log (client server n.name) fun log login =>
      Kept server n log login.client := by
  intro s going grown
  obtain ⟨result, s', ran, outcome⟩ := session_cases server n.name s
  rw [wp_congr (client_exec named going.opened), wp_bind]
  cases outcome with
  | refused asks =>
    rw [wp_error ran]
    exact ⟨going, List.prefix_rfl, .inr (asker_cause regular named going asks)⟩
  | @failed c fault made asks renewal =>
    have kept := asker_kept regular named going asks
    have later := List.prefix_append s.log made
    rw [wp_error ran]
    exact ⟨going.asked later, later, renewal.accounted kept⟩
  | @renewed c login made asks renewal logins =>
    have kept := renewal.kept (asker_kept regular named going asks)
    have later := List.prefix_append s.log made
    have going' : Going server n
        { s with log := s.log ++ made, clients := put n.name login s.clients, logins } := by
      refine { going.asked later with client := fun other held => ?_ }
      rw [lookup_put, if_pos rfl] at held
      cases held
      exact kept
    obtain ⟨store, stored, going''⟩ :=
      updateUser_going named going' login.client.access kept.refresh
    rw [wp_ok ran]
    unfold keepLogin flush
    simp only [wp_bind, wp_get, stored, wp_ofExcept_ok, wp_set, wp_modify, wp_pure]
    exact ⟨going'' _, later, kept⟩

theorem wp_query {Q : α → Caches → Prop} {E : Fault → Caches → Prop} (c : Client)
    (task : Task Talk α) (s : Caches) :
    wp (query c task) Q E s =
      wp task (fun a t => Q a { s with log := t.log })
        (fun fault t => E fault { s with log := t.log }) ⟨c, s.log⟩ := by
  unfold query
  rw [wp_bind, wp_ok (talk_exec c task s)]
  cases ran : task.exec ⟨c, s.log⟩ with
  | mk result t =>
    cases result with
    | ok a => rw [wp_ok ran]; rfl
    | error fault => rw [wp_error ran]; rfl

theorem query_runs {task : Task Talk α} {Q : List Http.Request → α → Prop}
    (asks : Asks server n c task Q) (kept : Kept server n log c) :
    Runs server n (Accounted server n) log (query c task) Q := by
  intro s going grown
  rw [wp_query]
  refine wp_mono (asks s.log (kept.mono grown)) (fun a t h => ?_) (fun fault t h => ?_)
  · exact ⟨going.asked h.1, h.1, h.2⟩
  · exact ⟨going.asked h.1, h.1, h.2⟩

/-- The list of agents. What comes of the second try, after a new session, counts as well. -/
theorem agents_runs (regular : n.Regular) (named : n.name ≠ "") :
    Runs server n (Accounted server n) log (agents server n.name) fun log entries =>
      ∀ entry ∈ entries, Listed server log entry := by
  unfold agents
  rw [if_neg named]
  refine runs_get fun s going _ => ?_
  rw [going.opened, if_neg Bool.false_ne_true]
  refine runs_get fun s going _ => ?_
  cases held : s.lists.lookup n.name with
  | some entries =>
    exact runs_pure fun more later entry mem => (going.list entries held entry mem).mono later
  | none =>
    refine runs_bind (client_runs regular named) fun login log _ kept => ?_
    have tried := query_runs Client.listAgents_asks kept
    refine runs_bind (runs_tryCatch tried fun fault log _ h => ?_) fun entries log _ listed => ?_
    · split
      · refine runs_bind (client_runs regular named) fun login log _ kept => ?_
        exact query_runs Client.listAgents_asks kept
      · exact runs_throw fun more later => h.mono later
    · refine runs_bind (runs_modify (Q := fun _ _ => True) fun s going grown => ?_)
        fun _ more later _ => runs_pure fun more' later' entry mem =>
          (listed entry mem).mono (later.trans later')
      refine ⟨{ going with list := fun other held => ?_ }, rfl, trivial⟩
      rw [lookup_put, if_pos rfl] at held
      cases held
      exact fun entry mem => (listed entry mem).mono grown

theorem replaceAgents_runs (named : n.name ≠ "") {agents : List Agent}
    (regular : ∀ a ∈ agents, a.Regular) {E : List Http.Request → Fault → Prop} :
    Runs server n E log (replaceAgents (.str n.name) agents) fun _ _ => True := by
  intro s going grown
  obtain ⟨access, refresh, _, found, refreshing, -⟩ := going.stored
  unfold replaceAgents Store.replaceAgents Store.update
  rw [wp_bind, wp_get, Store.get_name named, found]
  simp only [wp_bind, wp_ofExcept_ok, wp_set]
  refine ⟨⟨going.opened, ?_, going.client, going.list⟩, List.prefix_rfl, trivial⟩
  refine ⟨access, refresh, agents, ?_, refreshing, regular⟩
  show (s.store.modify n.name _).find? n.name = _
  rw [Store.find?_modify, found]
  · simp [renewed]
  · exact fun _ => rfl

/-- Bringing the stored agents into line with a list that was answered. -/
theorem reconcile_runs (named : n.name ≠ "") {m : Namespace} (regular : ∀ a ∈ m.agents, a.Regular)
    {backend : List Json} (listed : ∀ entry ∈ backend, Listed server log entry) :
    Runs server n (Accounted server n) log (reconcile n.name m backend) fun _ _ => True := by
  have merged := Reconcile.merge_merged backend regular
  unfold reconcile
  generalize Reconcile.merge m.agents backend = result at merged
  refine runs_bind (replaceAgents_runs named merged.stored) fun _ more later _ => ?_
  refine runs_bind (runs_ofExcept (Q := fun _ agents => ∀ a ∈ agents, a.Regular)
    (fun agents made _ _ => merged.made agents made) (fun fault made more later' => .inr ?_))
    fun agents _ _ regular => ?_
  · have grown := later.trans later'
    cases merged.blamed fault made with
    | entry mem unfit => exact .entry ((listed _ mem).mono grown) unfit
    | name mem held unfit => exact .name ((listed _ mem).mono grown) held unfit
  · refine runs_bind (replaceAgents_runs named regular) fun _ _ _ _ => ?_
    refine runs_modify fun s going _ => ?_
    exact ⟨⟨going.opened, going.stored, going.client, going.list⟩, rfl, trivial⟩

/-- What the store has of the namespace. -/
theorem get_going (named : n.name ≠ "") {s : Caches} (going : Going server n s) :
    ∃ access refresh agents, s.store.get (.str n.name) = .ok (renewed n access refresh agents) ∧
      ∀ a ∈ agents, a.Regular := by
  obtain ⟨access, refresh, agents, found, -, regular⟩ := going.stored
  exact ⟨access, refresh, agents, by rw [Store.get_name named, found], regular⟩

theorem sync_runs (regular : n.Regular) (named : n.name ≠ "") :
    Runs server n (Accounted server n) log (sync server n.name) fun _ _ => True := by
  have marked {log : List Http.Request} : Runs server n (Accounted server n) log
      (modify fun s : Caches => { s with synced := true }) fun _ _ => True :=
    runs_modify fun s going _ =>
      ⟨⟨going.opened, going.stored, going.client, going.list⟩, rfl, trivial⟩
  unfold sync
  refine runs_get fun s going _ => ?_
  rw [going.opened, if_neg Bool.false_ne_true]
  refine runs_get fun s going _ => ?_
  split
  · exact runs_pure fun _ _ => trivial
  refine runs_get fun s going _ => ?_
  obtain ⟨access, refresh, agents, found, -⟩ := get_going named going
  rw [found]
  refine runs_ofOk ?_
  simp only []
  split
  · refine runs_bind (agents_runs regular named) fun backend log _ listed => ?_
    refine runs_get fun s going grown => ?_
    obtain ⟨access, refresh, agents, found, regular⟩ := get_going named going
    rw [found]
    refine runs_ofOk (runs_bind (reconcile_runs named regular fun entry mem => ?_) ?_)
    · exact (listed entry mem).mono grown
    · exact fun _ _ _ _ => marked
  · exact marked

end Caches
end EdgeSession.ControlPlane
