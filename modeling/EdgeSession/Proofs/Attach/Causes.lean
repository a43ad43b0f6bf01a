import EdgeSession.Attach.Target
import EdgeSession.Proofs.ControlPlane.Accounts

/-!
Finding what to attach to: whatever is asked, what is not found is said in words, or there is a
cause in what is stored for the namespace or in what the control plane replied.
-/
namespace EdgeSession.Attach

open Config ControlPlane
open ControlPlane.Caches

/-- Where a fault comes from that the user is not told of. -/
inductive Cause (server : Http.Server) (n : Namespace) (log : List Http.Request) : Fault → Prop
  | control {fault : ControlPlane.Fault} (cause : ControlPlane.Cause server n log fault) :
      Cause server n log (.control fault)
  | status {record : Json} {fault : ShapeFault} (listed : Listed server log record)
      (unfit : Target.statusOf record = .error fault) : Cause server n log (.control (.shape fault))
  | noId {record : Json} (listed : Listed server log record) (lacks : record.get? "uuid" = none) :
      Cause server n log .noId

/-- A fault that the user is told of, or one with its cause. -/
def Accounted (server : Http.Server) (n : Namespace) (log : List Http.Request) (fault : Fault) :
    Prop :=
  (∃ text, fault.told? = some text) ∨ Cause server n log fault

/-- Whether an id stands in a record that the control plane listed. -/
def Identified (server : Http.Server) (log : List Http.Request) (id : Json) : Prop :=
  ∃ record, Listed server log record ∧ record.get? "uuid" = some id

variable {server : Http.Server} {n : Namespace} {log more : List Http.Request} {c : Client}
  {α β : Type} {Q : List Http.Request → α → Prop}

theorem Accounted.of_control {fault : ControlPlane.Fault}
    (h : ControlPlane.Accounted server n log fault) : Accounted server n log (.control fault) := by
  rcases h with ⟨kind, text, rfl⟩ | cause
  · exact .inl ⟨text, rfl⟩
  · exact .inr (.control cause)

theorem Cause.mono {fault : Fault} (h : Cause server n log fault) (grown : log <+: more) :
    Cause server n more fault := by
  cases h with
  | control cause => exact .control (cause.mono grown)
  | status listed unfit => exact .status (listed.mono grown) unfit
  | noId listed lacks => exact .noId (listed.mono grown) lacks

theorem Accounted.mono {fault : Fault} (h : Accounted server n log fault) (grown : log <+: more) :
    Accounted server n more fault :=
  h.imp_right fun cause => cause.mono grown

theorem Identified.mono {id : Json} (h : Identified server log id) (grown : log <+: more) :
    Identified server more id :=
  h.imp fun _ held => held.imp_left fun listed => listed.mono grown

namespace Search

@[simp] theorem wp_searchOk {ε : Type} {Q : α → Caches → Prop} {E : Fault → Caches → Prop}
    {s : Caches} (f : ε → Fault) (a : α) : wp (ofExcept f (.ok a)) Q E s = Q a s := rfl

@[simp] theorem wp_searchError {ε : Type} {Q : α → Caches → Prop} {E : Fault → Caches → Prop}
    {s : Caches} (f : ε → Fault) (e : ε) : wp (ofExcept f (.error e)) Q E s = E (f e) s := rfl

theorem ofTask_runs {task : Task Caches α}
    (h : Runs server n (ControlPlane.Accounted server n) log task Q) :
    Runs server n (Accounted server n) log (ofTask task) Q :=
  runs_adapt h fun _ _ => .of_control

theorem telling_runs (introduction : String) {task : Task Caches α}
    (h : Runs server n (ControlPlane.Accounted server n) log task Q) :
    Runs server n (Accounted server n) log (telling introduction task) Q := by
  refine runs_adapt h fun fault more accounted => ?_
  rcases accounted with ⟨kind, text, rfl⟩ | cause
  · exact .inl ⟨_, rfl⟩
  · have kept := cause
    cases cause <;> exact .inr (.control kept)

/-- A refusal in words. -/
theorem refused_runs {text : String} : Runs server n (Accounted server n) log
    (throw (.refused text) : Search α) Q :=
  runs_throw fun _ _ => .inl ⟨text, rfl⟩

theorem ofExcept_runs {ε : Type} {x : Except ε α} {f : ε → Fault}
    (ok : ∀ a, x = .ok a → ∀ more, log <+: more → Q more a)
    (error : ∀ e, x = .error e → ∀ more, log <+: more → Accounted server n more (f e)) :
    Runs server n (Accounted server n) log (ofExcept f x) Q := by
  cases x with
  | ok a => exact runs_pure (ok a rfl)
  | error e => exact runs_throw (error e rfl)

theorem ofOk_runs {ε : Type} {f : ε → Fault} {a : α} {next : α → Search β}
    {R : List Http.Request → β → Prop} (h : Runs server n (Accounted server n) log (next a) R) :
    Runs server n (Accounted server n) log (ofExcept f (.ok a) >>= next) R := by
  intro s going grown
  rw [wp_bind]
  exact h s going grown

end Search

namespace Target

open Search

theorem checked_runs (options : LogTail.Options) :
    Runs server n (Accounted server n) log (checked options) fun _ _ => True :=
  ofExcept_runs (fun _ _ _ _ => trivial) fun _ _ _ _ => .inl ⟨_, rfl⟩

theorem nameOf_runs (name : String) :
    Runs server n (Accounted server n) log (nameOf name) fun _ _ => True :=
  ofExcept_runs (fun _ _ _ _ => trivial) fun _ _ _ _ => .inl ⟨_, rfl⟩

theorem login_runs (regular : n.Regular) (named : n.name ≠ "") :
    Runs server n (Accounted server n) log (login server n.name) fun log c => Kept server n log c :=
  ofTask_runs (runs_bind (client_runs regular named) fun _ _ _ kept =>
    runs_pure fun _ later => kept.mono later)

theorem idOf_runs {record : Json} (listed : Listed server log record) :
    Runs server n (Accounted server n) log (idOf record)
      fun log id => Identified server log id := by
  unfold idOf
  cases held : record.get? "uuid" with
  | some id => exact runs_pure fun _ later => ⟨record, listed.mono later, held⟩
  | none => exact runs_throw fun _ later => .inr (.noId (listed.mono later) held)

theorem microservice_runs (kept : Kept server n log c) (app name : String) :
    Runs server n (Accounted server n) log (microservice server c app name) fun log found =>
      Listed server log found.1 := by
  have looked {path : String} (asked : path ∈ places) (system : Bool) {log : List Http.Request}
      (kept : Kept server n log c) :
      Runs server n (ControlPlane.Accounted server n) log
        (do return (← query c (Client.microserviceAt server path app name), system))
        fun log found => Listed server log found.1 :=
    runs_bind (query_runs (Client.microserviceAt_asks asked app name) kept) fun _ _ _ listed =>
      runs_pure fun _ later => listed.mono later
  refine runs_tryCatch (ofTask_runs (looked (by simp [places]) _ kept))
    fun fault more later accounted => ?_
  split
  · split
    · exact telling_runs _ (looked (by simp [places]) _ (kept.mono later))
    · exact refused_runs
  · exact runs_throw fun _ later => accounted.mono later

theorem agent_runs (kept : Kept server n log c) (introduction name : String) :
    Runs server n (Accounted server n) log (agent server c introduction name) fun log record =>
      Listed server log record :=
  telling_runs introduction (query_runs (Client.agentNamed_asks name) kept)

theorem shell_runs (kept : Kept server n log c) (app name : String) :
    Runs server n (Accounted server n) log (shell server c app name) fun log target =>
      Identified server log target.id :=
  runs_bind (microservice_runs kept app name) fun _ _ _ listed =>
    runs_bind (idOf_runs listed) fun _ _ _ identified =>
      runs_pure fun _ later => identified.mono later

theorem microserviceShell_runs (regular : n.Regular) (named : n.name ≠ "") (name : String) :
    Runs server n (Accounted server n) log (microserviceShell server n.name name)
      fun log target => Identified server log target.id :=
  runs_bind (nameOf_runs name) fun parts _ _ _ =>
    runs_bind (login_runs regular named) fun _ _ _ kept => shell_runs kept parts.1 parts.2

theorem agentShell_runs (regular : n.Regular) (named : n.name ≠ "") (name : String) :
    Runs server n (Accounted server n) log (agentShell server n.name name)
      fun log target => Identified server log target.id := by
  refine runs_bind (login_runs regular named) fun c log _ kept => ?_
  refine runs_bind (agent_runs kept _ name) fun record log later listed => ?_
  exact runs_bind (idOf_runs listed) fun _ _ later' _ =>
    shell_runs (kept.mono (later.trans later')) _ _

/-- Stored agents that can be worked with can be looked up. -/
theorem storedAgent_regular {agents : List Config.Agent} (h : ∀ a ∈ agents, a.Regular)
    (name : String) : ∃ found, storedAgent agents name = .ok found := by
  unfold storedAgent
  split
  · rename_i unfit
    obtain ⟨a, mem, shape⟩ := List.any_eq_true.mp unfit
    have plain := (h a mem).name
    cases name : a.name <;> simp [name, Reconcile.isPlain] at plain shape
  · exact ⟨_, rfl⟩

theorem agentLog_runs (regular : n.Regular) (named : n.name ≠ "") (name : String)
    (options : LogTail.Options) :
    Runs server n (Accounted server n) log (agentLog server n.name name options)
      fun log target => Identified server log target.id := by
  unfold agentLog
  refine runs_bind (checked_runs options) fun _ log _ _ => ?_
  refine runs_bind (ofTask_runs (sync_runs regular named)) fun _ log _ _ => ?_
  refine runs_get fun s going _ => ?_
  obtain ⟨access, refresh, agents, held, regular'⟩ := get_going named going
  obtain ⟨found, stored⟩ := storedAgent_regular regular' name
  rw [held]
  refine ofOk_runs ?_
  rw [renewed, stored]
  refine ofOk_runs ?_
  cases found with
  | none => exact refused_runs
  | some agent =>
    simp only []
    split
    · exact runs_bind (Q := fun _ _ => False) refused_runs fun _ _ _ h => h.elim
    · refine runs_bind (login_runs regular named) fun c log _ kept => ?_
      refine runs_bind (agent_runs kept _ name) fun record log _ listed => ?_
      exact runs_bind (idOf_runs listed) fun _ _ _ identified =>
        runs_pure fun _ later => identified.mono later

/-- A status that is no object is the only fault of a record's status. -/
theorem status_runs {record : Json} (listed : Listed server log record) :
    Runs server n (Accounted server n) log
      (Search.ofExcept (fun fault => .control (.shape fault)) (statusOf record)) fun _ _ => True :=
  ofExcept_runs (fun _ _ _ _ => trivial) fun _ unfit _ later =>
    .inr (.status (listed.mono later) unfit)

theorem microserviceLog_runs (regular : n.Regular) (named : n.name ≠ "") (name : String)
    (options : LogTail.Options) :
    Runs server n (Accounted server n) log (microserviceLog server n.name name options)
      fun log target => Identified server log target.id := by
  unfold microserviceLog
  refine runs_bind (checked_runs options) fun _ log _ _ => ?_
  refine runs_bind (nameOf_runs name) fun parts log _ _ => ?_
  refine runs_bind (login_runs regular named) fun c log _ kept => ?_
  refine runs_bind (microservice_runs kept parts.1 parts.2) fun record log _ listed => ?_
  refine runs_bind (status_runs listed) fun status log later _ => ?_
  split
  · exact refused_runs
  · exact runs_bind (idOf_runs (listed.mono later)) fun _ _ _ identified =>
      runs_pure fun _ later => identified.mono later

end Target
end EdgeSession.Attach
