import EdgeSession.Proofs.ControlPlane.Asking

/-!
The reconciliation of the stored agents over any sequence of calls. Until one of them succeeds each
tries it again, and leaves the stored agents as they are if it fails; behind that one nothing is
done any more.
-/
namespace EdgeSession.ControlPlane.Caches

open Config

/-- Nothing is new in the store and the file but what renewing sessions brings there, and an id that
the local agent of the namespace may have got. -/
def Spared (name : String) (s t : Caches) : Prop :=
  ∃ kept : Store, s.store.Alike kept ∧ (t.file = s.file ∨ t.file = some kept.fileText) ∧
    (t.store = kept ∨ ∃ n agents, s.store.get (.str name) = .ok n ∧
      Reconcile.Adopted n.agents agents ∧ kept.replaceAgents (.str name) agents = .ok t.store)

/-- The agents of a namespace were replaced by what the list of the control plane makes of them, and
the file was written. -/
def BroughtIntoLine (name : String) (n : Namespace) (s t : Caches) : Prop :=
  ∃ (kept : Store) (backend : List Json) (agents : List Agent), s.store.Alike kept ∧
    t.lists.lookup name = some backend ∧ (Reconcile.merge n.agents backend).1 = .ok agents ∧
    kept.replaceAgents (.str name) agents = .ok t.store ∧ t.file = some t.store.fileText

/-- What a call comes to that tries to reconcile. -/
inductive Attempt (name : String) (s : Caches) : Except Fault Unit → Caches → Prop
  | fails {fault : Fault} {t : Caches} (unsynced : t.synced = false) (spared : Spared name s t) :
      Attempt name s (.error fault) t
  | skips {n : Namespace} (found : s.store.get (.str name) = .ok n)
      (isLocal : n.localControlPlane.isTruthy = true) :
      Attempt name s (.ok ()) { s with synced := true }
  | reconciles {n : Namespace} {t : Caches} (found : s.store.get (.str name) = .ok n)
      (remote : n.localControlPlane.isTruthy = false) (synced : t.synced = true)
      (brought : BroughtIntoLine name n s t) : Attempt name s (.ok ()) t

variable {server : Http.Server} {name : String} {names : List String} {s t : Caches}

/-! ## One call -/

theorem Spared.refl (name : String) (s : Caches) : Spared name s s :=
  ⟨s.store, .refl _, .inl rfl, .inl rfl⟩

theorem Asked.written (h : Asked s t) : t.file = s.file ∨ t.file = some t.store.fileText :=
  h.file.imp_left And.right

theorem Asked.spared (h : Asked s t) (name : String) : Spared name s t :=
  ⟨t.store, h.store, h.written, .inl rfl⟩

theorem Ready.replaceAgents {agents : List Agent} {store : Store} (ready : s.Ready)
    (replaced : s.store.replaceAgents (.str name) agents = .ok store) (file : Option String) :
    { s with store, file }.Ready where
  opened := ready.opened
  inStep other login kept :=
    (Store.tokens?_replaceAgents replaced other).trans (ready.inStep other login kept)

theorem Ready.complete (ready : s.Ready) : { s with synced := true }.Ready :=
  ⟨ready.opened, ready.inStep⟩

/-- A merge that breaks off leaves the agents that it has stored by then; behind one that comes to
its end stand those that it gives. -/
theorem wp_reconcile {m : Namespace} {backend : List Json} {write : Task Caches Unit}
    {Q : Unit → Caches → Prop} {E : Fault → Caches → Prop} (found : t.store.get (.str name) = .ok m)
    (breaks : ∀ fault stored store, Reconcile.merge m.agents backend = (.error fault, stored) →
      t.store.replaceAgents (.str name) stored = .ok store → E (.shape fault) { t with store })
    (comes : ∀ agents store, (Reconcile.merge m.agents backend).1 = .ok agents →
      t.store.replaceAgents (.str name) agents = .ok store → wp write Q E { t with store }) :
    wp (reconcile name m backend write) Q E t := by
  have replaced (agents : List Agent) :
      ∃ store, t.store.replaceAgents (.str name) agents = .ok store :=
    ⟨_, Store.replaceAgents_eq_ok.2 ⟨m, found, rfl⟩⟩
  unfold reconcile Caches.replaceAgents
  cases merge : Reconcile.merge m.agents backend with
  | mk result stored =>
    obtain ⟨store, first⟩ := replaced stored
    simp only [wp_bind, wp_get, first, wp_ofExcept_ok, wp_set]
    cases result with
    | error fault => exact breaks fault stored store merge first
    | ok agents =>
      -- both replacements are made for the same namespace, so the latter counts
      obtain ⟨store', latter⟩ := replaced agents
      have second := (Store.replaceAgents_again first agents).trans latter
      simp only [wp_bind, wp_get, second, wp_ofExcept_ok, wp_set]
      exact comes agents store' (by rw [merge]) latter

/-- The agents that are stored first, and those that take their place if the merge succeeds. -/
theorem reconcile_ends {n m : Namespace} {backend : List Json} (asked : Asked s t)
    (unsynced : s.synced = false) (listed : t.lists.lookup name = some backend)
    (found : s.store.get (.str name) = .ok n) (found' : t.store.get (.str name) = .ok m)
    (bare : m.bare = n.bare) :
    wp (reconcile name m backend) (fun _ u => BroughtIntoLine name n s u ∧ u.Ready)
      (fun _ u => u.synced = false ∧ Spared name s u ∧ u.Ready) t := by
  have agents := Store.agents_of_bare bare
  have adopted := Reconcile.merge_adopted n.agents backend
  refine wp_reconcile found' (fun fault stored store merge replaced => ?_)
    fun merged store merge replaced => ?_
  · rw [agents] at merge
    rw [merge] at adopted
    refine ⟨asked.synced.trans unsynced, ?_, asked.ready.replaceAgents replaced _⟩
    exact ⟨t.store, asked.store, asked.written, .inr ⟨n, stored, found, adopted, replaced⟩⟩
  · rw [agents] at merge
    refine ⟨⟨t.store, backend, merged, asked.store, listed, merge, replaced, rfl⟩, ?_⟩
    exact asked.ready.replaceAgents replaced _

/-- What a call does in turn. What it stores goes to the namespace as it is by then. -/
theorem wp_sync {write : Task Caches Unit} {Q : Unit → Caches → Prop} {E : Fault → Caches → Prop}
    (closed : s.closed = true → E (.closed "agent-sync") s) (rests : s.synced = true → Q () s)
    (missing : ∀ fault, s.store.get (.str name) = .error fault → E (.lookup fault) s)
    (skips : ∀ n, s.store.get (.str name) = .ok n → n.localControlPlane.isTruthy = true →
      Q () { s with synced := true })
    (asks : s.closed = false → s.synced = false → ∀ n, s.store.get (.str name) = .ok n →
      n.localControlPlane.isTruthy = false →
        wp (agents server name write) (fun backend t => ∃ m, t.store.get (.str name) = .ok m ∧
          wp (reconcile name m backend write) (fun _ u => Q () { u with synced := true }) E t) E s) :
    wp (sync server name write) Q E s := by
  unfold sync
  rw [wp_bind, wp_get]
  by_cases isClosed : s.closed = true
  · rw [if_pos isClosed]
    exact closed isClosed
  rw [if_neg isClosed, wp_bind, wp_get]
  by_cases synced : s.synced = true
  · rw [if_pos synced]
    exact rests synced
  rw [if_neg synced, wp_bind, wp_get, wp_bind]
  cases found : s.store.get (.str name) with
  | error fault => exact missing fault found
  | ok n =>
    rw [wp_ofExcept_ok]
    cases isLocal : n.localControlPlane.isTruthy with
    | true => exact skips n found isLocal
    | false =>
      simp only [Bool.not_false, if_true, wp_bind]
      have opened := Bool.eq_false_iff.2 isClosed
      have unsynced := Bool.eq_false_iff.2 synced
      refine wp_mono (asks opened unsynced n found isLocal) (fun backend t h => ?_) fun _ _ h => h
      obtain ⟨m, found', reconciles⟩ := h
      rw [wp_bind, wp_get, wp_bind, found', wp_ofExcept_ok, wp_bind]
      exact reconciles

theorem sync_attempt (server : Http.Server) (name : String) (ready : s.Ready)
    (unsynced : s.synced = false) :
    wp (sync server name) (fun _ t => Attempt name s (.ok ()) t ∧ t.Ready)
      (fun fault t => Attempt name s (.error fault) t ∧ t.Ready) s := by
  apply wp_sync
  case closed =>
    intro closed
    rw [ready.opened] at closed
    cases closed
  case rests =>
    intro synced
    rw [unsynced] at synced
    cases synced
  case missing => exact fun _ _ => ⟨.fails unsynced (.refl name s), ready⟩
  case skips => exact fun n found isLocal => ⟨.skips found isLocal, ready.complete⟩
  case asks =>
    intro _ _ n found remote
    refine wp_mono (agents_asked ready) (fun backend t h => ?_) fun fault t asked =>
      ⟨.fails (asked.synced.trans unsynced) (asked.spared name), asked.ready⟩
    obtain ⟨asked, listed⟩ := h
    obtain ⟨m, found', bare⟩ := asked.store.get found
    have ends := reconcile_ends asked unsynced listed found found' bare
    refine ⟨m, found', wp_mono ends (fun _ u h => ?_) fun fault u h => ⟨.fails h.1 h.2.1, h.2.2⟩⟩
    exact ⟨.reconciles found remote rfl h.1, h.2.complete⟩

/-- Nothing is left to do. -/
theorem sync_rests (server : Http.Server) (name : String) (ready : s.Ready)
    (synced : s.synced = true) :
    (sync server name).exec s = (.ok (), s) := by
  unfold sync
  rw [Task.exec_bind_ok (Task.exec_get s)]
  simp only [ready.opened, Bool.false_eq_true, if_false]
  rw [Task.exec_bind_ok (Task.exec_get s)]
  simp only [synced, if_true]
  rfl

/-! ## Calls one after another -/

/-- A call of `sync`: the caches before it, what it came to, and the caches behind it. -/
structure Visit where
  name : String
  before : Caches
  result : Except Fault Unit
  after : Caches

def visit (server : Http.Server) (name : String) (s : Caches) : Visit :=
  ⟨name, s, ((sync server name).exec s).1, ((sync server name).exec s).2⟩

def visits (server : Http.Server) : List String → Caches → List Visit
  | [], _ => []
  | name :: names, s => visit server name s :: visits server names (visit server name s).after

/-- Whether a call did anything to what is stored but what renewing sessions does. -/
def Visit.Rewrites (v : Visit) : Prop := ¬Spared v.name v.before v.after

/-- What a call comes to behind earlier ones. -/
structure Once (earlier : List Visit) (v : Visit) : Prop where
  complete : v.after.synced = true ↔ ∃ w ∈ earlier ++ [v], w.result = .ok ()
  tries : (∀ w ∈ earlier, w.result ≠ .ok ()) → Attempt v.name v.before v.result v.after
  rests : (∃ w ∈ earlier, w.result = .ok ()) → v.result = .ok () ∧ v.after = v.before

theorem Attempt.complete {result : Except Fault Unit} (h : Attempt name s result t) :
    t.synced = true ↔ result = .ok () := by
  cases h with
  | fails unsynced => simp [unsynced]
  | skips => simp
  | reconciles _ _ synced => simp [synced]

/-- Nothing but a call that succeeds rewrites anything. -/
theorem Attempt.spared {fault : Fault} (h : Attempt name s (.error fault) t) : Spared name s t := by
  cases h with
  | fails _ spared => exact spared

theorem visit_attempt (server : Http.Server) (name : String) (ready : s.Ready)
    (unsynced : s.synced = false) :
    Attempt name s (visit server name s).result (visit server name s).after ∧
      (visit server name s).after.Ready := by
  have h := sync_attempt server name ready unsynced
  unfold visit Task.exec
  unfold wp at h
  split at h <;> rename_i ran <;> simp only [ran] <;> exact h

theorem visits_rest (server : Http.Server) (names : List String) (ready : s.Ready)
    (synced : s.synced = true) :
    ∀ v ∈ visits server names s, v.result = .ok () ∧ v.before = s ∧ v.after = s := by
  induction names with
  | nil => simp [visits]
  | cons name names ih =>
    have ran := sync_rests server name ready synced
    have first : visit server name s = ⟨name, s, .ok (), s⟩ := by
      unfold visit
      rw [ran]
    unfold visits
    rw [first]
    rintro v (_ | ⟨_, mem⟩)
    · exact ⟨rfl, rfl, rfl⟩
    · exact ih v mem

theorem Once.later {earlier : List Visit} {v w : Visit} (h : Once earlier w)
    (failed : v.result ≠ .ok ()) : Once (v :: earlier) w where
  complete := h.complete.trans (by simp [failed])
  tries none := h.tries fun w mem => none w (List.mem_cons_of_mem _ mem)
  rests some := h.rests (by simpa [failed] using some)

theorem visits_once (ready : s.Ready) (unsynced : s.synced = false) (earlier : List Visit)
    (v : Visit) (later : List Visit) (run : visits server names s = earlier ++ v :: later) :
    Once earlier v := by
  induction names generalizing s earlier with
  | nil => simp [visits] at run
  | cons name names ih =>
    obtain ⟨attempt, ready'⟩ := visit_attempt server name ready unsynced
    unfold visits at run
    cases earlier with
    | nil =>
      obtain ⟨rfl, -⟩ := List.cons.inj run
      exact ⟨attempt.complete.trans (by simp), fun _ => attempt, by simp⟩
    | cons first earlier =>
      obtain ⟨rfl, rest⟩ := List.cons.inj run
      by_cases succeeded : (visit server name s).result = .ok ()
      · have synced := attempt.complete.2 succeeded
        obtain ⟨result, before, after⟩ :=
          visits_rest server names ready' synced v (by rw [rest]; simp)
        refine ⟨?_, fun none => absurd succeeded (none _ List.mem_cons_self), fun _ => ?_⟩
        · rw [after, synced]
          exact ⟨fun _ => ⟨_, List.mem_cons_self, succeeded⟩, fun _ => rfl⟩
        · exact ⟨result, after.trans before.symm⟩
      · have unsynced' := Bool.eq_false_iff.2 (succeeded ∘ attempt.complete.1)
        exact (ih ready' unsynced' earlier rest).later succeeded

theorem visits_apart (ready : s.Ready) (unsynced : s.synced = false) :
    (visits server names s).Pairwise fun v w => ¬(v.Rewrites ∧ w.Rewrites) := by
  induction names generalizing s with
  | nil => exact .nil
  | cons name names ih =>
    obtain ⟨attempt, ready'⟩ := visit_attempt server name ready unsynced
    unfold visits
    cases result : (visit server name s).result with
    | ok =>
      have rest := visits_rest server names ready'
        (attempt.complete.2 result)
      have still : ∀ w ∈ visits server names (visit server name s).after, ¬w.Rewrites := by
        intro w mem rewrites
        obtain ⟨-, before, after⟩ := rest w mem
        exact rewrites (by rw [before, after]; exact .refl _ _)
      exact .cons (fun w mem both => still w mem both.2)
        (List.pairwise_of_forall_mem_list fun v mem _ _ both => still v mem both.1)
    | error fault =>
      rw [result] at attempt
      have unsynced' := Bool.eq_false_iff.2 fun synced => nomatch attempt.complete.1 synced
      exact .cons (fun w _ both => both.1 attempt.spared) (ih ready' unsynced')

/-- **The stored agents are reconciled once**, over any sequence of calls, whatever comes back from
the control plane. -/
theorem reconciled_once (server : Http.Server) (names : List String) (ready : s.Ready)
    (unsynced : s.synced = false) :
    (visits server names s).Pairwise (fun v w => ¬(v.Rewrites ∧ w.Rewrites)) ∧
      ∀ earlier v later, visits server names s = earlier ++ v :: later → Once earlier v :=
  ⟨visits_apart ready unsynced, visits_once ready unsynced⟩

/-- A namespace that is not known, a control plane that is down at first, and what it lists then. -/
theorem reconciled_once_retried :
    let server : Http.Server := .answering fun log request =>
      if log = [] then .unreachable "down"
      else if request.path = "/api/v3/iofog-list" then
        .answer 200 (Json.obj
          [("fogs", .arr [.obj [("name", .str "a"), ("uuid", .str "u")]])]).compact
      else .answer 200 (Json.obj [("accessToken", .str "t")]).compact
    let start : Caches :=
      { store := { namespaces := [{ name := "edge", endpoint := .str "host" }] }, file := none }
    let run := visits server ["gone", "edge", "edge", "gone"] start
    (start.Ready ∧ start.synced = false ∧
      run.map (fun v => (v.after.synced, v.after.log.length,
          v.after.store.namespaces.map fun n => n.agents.map (·.name))) =
        [(false, 0, [[]]), (false, 1, [[]]), (true, 3, [[.str "a"]]), (true, 3, [[.str "a"]])]) ∧
      run.Pairwise (fun v w => ¬(v.Rewrites ∧ w.Rewrites)) ∧
      ∀ earlier v later, run = earlier ++ v :: later → Once earlier v := by
  intro server start
  have ready : start.Ready := ⟨rfl, nofun⟩
  exact ⟨⟨ready, rfl, by decide +kernel⟩, reconciled_once server _ ready rfl⟩

end EdgeSession.ControlPlane.Caches
