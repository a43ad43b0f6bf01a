import EdgeSession.Proofs.Config.Alike
import EdgeSession.Proofs.ControlPlane.Accounts
import EdgeSession.Proofs.ControlPlane.SharedLogin

/-!
What is left of the caches when the control plane was asked for clients and agents. Sessions were
renewed, and nothing is different in the store but their tokens.
-/
namespace EdgeSession.ControlPlane.Caches

open Config

/-- What asking the control plane changes: the sessions that were renewed, and the lists kept. -/
structure Asked (s t : Caches) : Prop where
  ready : t.Ready
  synced : t.synced = s.synced
  sent : s.log <+: t.log
  store : s.store.Alike t.store
  /-- The file is written whenever tokens are stored. -/
  file : t.store = s.store ∧ t.file = s.file ∨ t.file = some t.store.fileText

variable {server : Http.Server} {name : String} {s t u : Caches}

theorem Asked.refl (ready : s.Ready) : Asked s s :=
  ⟨ready, rfl, List.prefix_rfl, .refl _, .inl ⟨rfl, rfl⟩⟩

theorem Asked.trans (first : Asked s t) (second : Asked t u) : Asked s u where
  ready := second.ready
  synced := second.synced.trans first.synced
  sent := first.sent.trans second.sent
  store := first.store.trans second.store
  file := by
    rcases second.file with ⟨store, file⟩ | written
    · rcases first.file with ⟨store', file'⟩ | written
      · exact .inl ⟨store.trans store', file.trans file'⟩
      · exact .inr (by rw [file, store, written])
    · exact .inr written

/-- Requests that leave the caches as they are. -/
theorem Asked.later (h : Asked s t) {log : List Http.Request} (grown : t.log <+: log) :
    Asked s { t with log } where
  ready := ⟨h.ready.opened, h.ready.inStep⟩
  synced := h.synced
  sent := h.sent.trans grown
  store := h.store
  file := h.file

theorem Asked.list (h : Asked s t) (lists : List (String × List Json)) :
    Asked s { t with lists } :=
  ⟨⟨h.ready.opened, h.ready.inStep⟩, h.synced, h.sent, h.store, h.file⟩

theorem Turn.asked {result : Except Fault Login} (h : Turn server name s result t)
    (ready : s.Ready) : Asked s t := by
  have ready' := h.ready ready
  cases h with
  | unnamed => exact .refl ready
  | unrenewed _ session =>
    cases session with
    | refused => exact .refl ready
    | failed => exact (Asked.refl ready).later (List.prefix_append ..)
  | renewed _ session stored =>
    cases session
    exact ⟨ready', rfl, List.prefix_append .., .updateUser stored, .inr rfl⟩

/-- A request for a client, by the turn that it is. -/
theorem wp_client {Q : Login → Caches → Prop} {E : Fault → Caches → Prop} (ready : s.Ready)
    (renewed : ∀ login t, Turn server name s (.ok login) t → Q login t)
    (unrenewed : ∀ fault t, Turn server name s (.error fault) t → E fault t) :
    wp (client server name) Q E s := by
  obtain ⟨result, t, ran, turn⟩ := client_turn server name ready.opened ready.inStep
  cases result with
  | ok login =>
    rw [wp_ok ran]
    exact renewed login t turn
  | error fault =>
    rw [wp_error ran]
    exact unrenewed fault t turn

theorem client_asked (asked : Asked s t) :
    wp (client server name) (fun _ u => Asked s u) (fun _ u => Asked s u) t :=
  wp_client asked.ready (fun _ _ turn => asked.trans (turn.asked asked.ready))
    fun _ _ turn => asked.trans (turn.asked asked.ready)

theorem listAgents_sent (c : Client) (log : List Http.Request) :
    wp (Client.listAgents server) (fun _ t => log <+: t.log) (fun _ t => log <+: t.log)
      ⟨c, log⟩ := by
  unfold Client.listAgents
  rw [wp_bind]
  cases request : c.request server { method := "GET", path := "/iofog-list" } with
  | error fault =>
    exact (wp_error (Client.ask_unsent request)).mpr List.prefix_rfl
  | ok sent =>
    have ran : (Client.ask server _).exec ⟨c, log⟩ = _ := Client.ask_sent request
    cases reply : c.readReply "/iofog-list" (server log sent) with
    | error fault =>
      rw [wp_error (ran.trans (by rw [reply]))]
      exact List.prefix_append ..
    | ok answer =>
      rw [wp_ok (ran.trans (by rw [reply]))]
      exact List.prefix_append ..

/-- What requests for clients keep, and answers and lists, is kept when agents are asked for. The
list that is given is among the lists then. -/
theorem agents_keeps {P : Caches → Prop} {write : Task Caches Unit}
    (client : ∀ t, P t → wp (client server name write) (fun _ => P) (fun _ => P) t)
    (later : ∀ t log, P t → t.log <+: log → P { t with log })
    (list : ∀ t lists, P t → P { t with lists }) (holds : P s) :
    wp (agents server name write) (fun backend t => P t ∧ t.lists.lookup name = some backend)
      (fun _ => P) s := by
  have listing (c : Client) {t : Caches} (holds : P t) :
      wp (query c (Client.listAgents server)) (fun _ => P) (fun _ => P) t := by
    rw [wp_query]
    exact wp_mono (listAgents_sent c t.log) (fun _ _ => later _ _ holds) fun _ _ => later _ _ holds
  have keeps (backend : List Json) {t : Caches} (holds : P t) :
      P { t with lists := put name backend t.lists } ∧
        (put name backend t.lists).lookup name = some backend :=
    ⟨list _ _ holds, by rw [lookup_put, if_pos rfl]⟩
  unfold agents
  by_cases unnamed : name = ""
  · rw [if_pos unnamed]
    exact holds
  rw [if_neg unnamed, wp_bind, wp_get]
  by_cases closed : s.closed = true
  · rw [if_pos closed]
    exact holds
  rw [if_neg closed, wp_bind, wp_get]
  cases kept : s.lists.lookup name with
  | some backend => exact ⟨holds, kept⟩
  | none =>
    simp only [wp_bind]
    refine wp_mono (client s holds) (fun login t holds => ?_) fun _ _ holds => holds
    rw [wp_bind, wp_tryCatch]
    -- a list that was turned down is asked for again, with a new session
    refine wp_mono (listing login.client holds) (fun backend t holds => keeps backend holds)
      fun fault t holds => ?_
    split
    · rw [wp_bind]
      refine wp_mono (client t holds) (fun login t holds => ?_) fun _ _ holds => holds
      exact wp_mono (listing login.client holds) (fun backend t holds => keeps backend holds)
        fun _ _ holds => holds
    · exact holds

theorem agents_asked (ready : s.Ready) :
    wp (agents server name) (fun backend t => Asked s t ∧ t.lists.lookup name = some backend)
      (fun _ t => Asked s t) s :=
  agents_keeps (fun _ => client_asked) (fun _ _ asked grown => asked.later grown)
    (fun _ lists asked => asked.list lists) (.refl ready)

end EdgeSession.ControlPlane.Caches
