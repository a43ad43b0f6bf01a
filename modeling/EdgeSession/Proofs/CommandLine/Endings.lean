import EdgeSession.Proofs.Attach.Barred
import EdgeSession.Proofs.Attach.Endless
import EdgeSession.Proofs.Json.Atoms

/-!
How a command ends. Under a configuration of the documented shape it is done, or says in one line
what failed, or was interrupted; or a fault escapes that nobody put into words, and then its cause
stands in the command, in what is stored, in a reply of the control plane or in the connection; or
it never ends, and then the connection of its session could not be closed.
-/
namespace EdgeSession.CommandLine

open Config ControlPlane Attach

variable {σ : Type}

/-- Whether the configuration of a command, where there is one, has the documented shape, and
neither it nor an answer of the control plane holds half a surrogate pair. -/
structure Documented (s : Surroundings σ) (i : Invocation) : Prop where
  shaped : ∀ path text, resolve? s.homes i.config s.configured = some path →
    s.files path = some text →
    Json.isPaired text.toList = true ∧
      ∃ v, Json.parse text.toList = .ok v ∧ Shape.isConfiguration v = true
  answers : ∀ log request status body, s.server log request = .answer status body →
    Json.isPaired body.toList = true

/-- Whether a command is about this namespace of the configuration. -/
def About (s : Surroundings σ) (i : Invocation) (n : Namespace) : Prop :=
  ∃ path store, resolve? s.homes i.config s.configured = some path ∧
    Store.load (s.files path) = .ok store ∧ store.get (store.nameOr (.str i.ns)) = .ok n

/-- The requests that were made. -/
def Report.requests (r : Report σ) : List Http.Request := (r.caches.map (·.log)).getD []

/-- Whether the user is told what there is to know, and of nothing but a success without a sign of
failure. -/
def Reported (ending : Ending) : Prop :=
  (ending = .done ∧ ending.isFailure = false) ∨
  (∃ text, ending = .told text ∧ ending.errorText = "✘ " ++ text ++ "\n" ∧
    ending.isFailure = true) ∨
  (ending = .interrupted ∧ ending.errorText = "\nInterrupted.\n" ∧ ending.isFailure = true)

/-- What is wrong with a command that its grammar lets pass. -/
inductive Misread (command : Command) : Attach.Fault → Prop
  | noTail {r : LogsRequest} (same : command = .logs r) (lacks : r.tail = none) :
      Misread command .noTail
  | nameless {r : LogsRequest} (same : command = .logs r) (agent : r.resource = .agent)
      (lacks : r.name = none) : Misread command (.control (.shape .notPlain))

/-- Where a fault comes from that escapes, if these are the outsides that a session may meet. -/
inductive Cause (s : Surroundings σ) (seen : Outside → Prop) (i : Invocation) (command : Command)
    (log : List Http.Request) : Escape → Prop
  | noHome (lost : resolve? s.homes i.config s.configured = none) :
      Cause s seen i command log .noHome
  | misread {fault : Attach.Fault} (misread : Misread command fault) :
      Cause s seen i command log (.attach fault)
  | search {n : Namespace} {fault : Attach.Fault} (about : About s i n)
      (cause : Attach.Cause s.server n log fault) : Cause s seen i command log (.attach fault)
  | session {id : Json} {trouble : Trouble} (identified : Identified s.server log id)
      (breach : Breach s.world id seen trouble) (uninterrupted : trouble ≠ .network .interrupted) :
      Cause s seen i command log (.attach (.trouble trouble))

/-- Whether a command gets as far as to ask the control plane of a namespace. -/
def Command.asks (n : Namespace) : Command → Bool
  | .exec r =>
    match r.resource, r.name with
    | .agent, _ => true
    | .microservice, some name => (parseName name "microservice").isOk
    | .microservice, none => false
  | .logs r =>
    match r.tail with
    | none => false
    | some tail =>
      let options : LogTail.Options :=
        { tail, follow := r.follow, since := r.since, upTo := r.upTo }
      options.check.isOk &&
        match r.resource, r.name with
        | .agent, some name =>
          !n.localControlPlane.isTruthy ||
            (n.agents.reverse.find? fun a => a.name == .str name).any fun a => !a.isLocal
        | .agent, none => !n.localControlPlane.isTruthy
        | .microservice, some name => (parseName name "microservice").isOk
        | .microservice, none => false

variable {server : Http.Server} {n : Namespace} {log : List Http.Request} {command : Command}

/-! ## What a command looks for -/

/-- A fault that the user is told of, or that has its cause in the command or further down. -/
def Traced (server : Http.Server) (n : Namespace) (command : Command) (log : List Http.Request)
    (fault : Attach.Fault) : Prop :=
  Misread command fault ∨ Attach.Accounted server n log fault

theorem traced_runs {α : Type} {task : Search α} {Q : List Http.Request → α → Prop}
    (h : Runs server n (Attach.Accounted server n) log task Q) :
    Runs server n (Traced server n command) log task Q := by
  intro s going grown
  exact wp_mono (h s going grown) (fun _ _ h => h) fun _ _ h => ⟨h.1, h.2.1, .inr h.2.2⟩

theorem findNameless_runs (regular : n.Regular) (named : n.name ≠ "") :
    Runs server n (Attach.Accounted server n) log (findNameless server n.name)
      fun log target => Identified server log target.id := by
  unfold findNameless
  refine runs_bind (Target.login_runs regular named) fun c log _ kept => ?_
  refine runs_bind (Search.telling_runs _ (Caches.query_runs Client.listAgents_asks kept))
    fun entries log _ listed => ?_
  split
  · exact Search.refused_runs
  · rename_i mixed
    rw [Bool.not_eq_true, List.all_eq_false] at mixed
    obtain ⟨v, mem, unfit⟩ := mixed
    refine runs_throw fun _ later => .inr (.control (.entry ((listed v mem).mono later) ?_))
    rintro members rfl
    exact unfit rfl

theorem findShell_runs (regular : n.Regular) (named : n.name ≠ "") (r : ExecRequest) :
    Runs server n (Attach.Accounted server n) log (findShell server n.name r)
      fun log target => Identified server log target.id := by
  unfold findShell
  split
  · exact Target.agentShell_runs regular named _
  · exact findNameless_runs regular named
  · exact Target.microserviceShell_runs regular named _
  · exact Search.refused_runs

theorem findLog_runs (regular : n.Regular) (named : n.name ≠ "") (r : LogsRequest) :
    Runs server n (Traced server n (.logs r)) log (findLog server n.name r)
      fun log target => Identified server log target.id := by
  unfold findLog
  cases tail : r.tail with
  | none => exact runs_throw fun _ _ => .inl (.noTail rfl tail)
  | some tail =>
    simp only []
    split
    · exact traced_runs (Target.agentLog_runs regular named _ _)
    · rename_i agent nameless
      refine runs_bind (traced_runs (Target.checked_runs _)) fun _ _ _ _ => ?_
      refine runs_bind (traced_runs (Search.ofTask_runs (Caches.sync_runs regular named)))
        fun _ _ _ _ => ?_
      exact runs_throw fun _ _ => .inl (.nameless rfl agent nameless)
    · exact traced_runs (Target.microserviceLog_runs regular named _ _)
    · exact runs_bind (traced_runs (Target.checked_runs _)) fun _ _ _ _ =>
        traced_runs Search.refused_runs

/-! ## The namespace of a command -/

/-- A name that is looked up, which is the default one for an empty one. -/
theorem nameOr_regular {store : Store} (h : store.Regular) (ns : String) :
    ∃ name, store.nameOr (.str ns) = .str name ∧ name ≠ "" := by
  unfold Store.nameOr
  split
  · rename_i given
    exact ⟨ns, rfl, by simpa [Json.isTruthy] using given⟩
  · exact h.default

/-- What is found is a namespace that can be worked with, under its own name. -/
theorem get_regular {store : Store} (h : store.Regular) {ns : String}
    (found : store.get (store.nameOr (.str ns)) = .ok n) :
    n.Regular ∧ n.name ≠ "" ∧ store.find? n.name = some n := by
  obtain ⟨name, same, filled⟩ := nameOr_regular h ns
  rw [same, Store.get_name filled] at found
  cases held : store.find? name with
  | none => simp [held] at found
  | some m =>
    simp only [held, Except.ok.injEq] at found
    subst found
    have named := Store.find?_name held
    exact ⟨h.namespaces m (List.mem_of_find?_eq_some held), named ▸ filled, named.symm ▸ held⟩

theorem get_refused {store : Store} (h : store.Regular) {ns : String} {fault : LookupFault}
    (missing : store.get (store.nameOr (.str ns)) = .error fault) :
    ∃ name, fault = .unknown (.str name) := by
  obtain ⟨name, same, filled⟩ := nameOr_regular h ns
  rw [same, Store.get_name filled] at missing
  cases held : store.find? name with
  | none =>
    rw [held] at missing
    cases missing
    exact ⟨name, rfl⟩
  | some m => simp [held] at missing

theorem fresh_going {s : Caches} (regular : n.Regular) (fresh : Fresh n s)
    (found : s.store.find? n.name = some n) : Going server n s where
  opened := fresh.opened
  stored := ⟨n.user.accessToken, n.user.refreshToken, n.agents, found, .inl regular.refresh,
    regular.agents⟩
  client _ kept := by
    rw [fresh.clients] at kept
    cases kept
  list _ kept := by
    rw [fresh.lists] at kept
    cases kept

theorem find_found {ns : String} {s : Caches}
    {Q : Target → Caches → Prop} {E : Attach.Fault → Caches → Prop}
    (found : s.store.get (s.store.nameOr (.str ns)) = .ok n) :
    wp (find server ns command) Q E s =
      match command with
      | .exec r => wp (findShell server n.name r) Q E s
      | .logs r => wp (findLog server n.name r) Q E s := by
  unfold find namespaceOf
  simp only [wp_bind, wp_get, found, Search.wp_searchOk, wp_pure]
  cases command <;> rfl

theorem find_traced (regular : n.Regular) (named : n.name ≠ "") {ns : String} {s : Caches}
    (going : Going server n s) (found : s.store.get (s.store.nameOr (.str ns)) = .ok n) :
    wp (find server ns command) (fun target t => Identified server t.log target.id)
      (fun fault t => Traced server n command t.log fault) s := by
  rw [find_found found]
  cases command with
  | exec r =>
    exact wp_mono (traced_runs (findShell_runs regular named r) s going List.prefix_rfl)
      (fun _ _ h => h.2.2) fun _ _ h => h.2.2
  | logs r =>
    exact wp_mono (findLog_runs regular named r s going List.prefix_rfl)
      (fun _ _ h => h.2.2) fun _ _ h => h.2.2

theorem findShell_barred {fault : ControlPlane.Fault} (named : n.name ≠ "")
    (unfit : Caches.clientOf n = .error fault) {r : ExecRequest}
    (asks : (Command.exec r).asks n = true) :
    Barred n (findShell server n.name r) (.control fault) := by
  obtain ⟨resource, name⟩ := r
  cases resource with
  | agent =>
    cases name with
    | none => exact barred_bind (Target.login_barred named unfit) _
    | some name => exact Target.agentShell_barred named unfit name
  | microservice =>
    cases name with
    | none => cases asks
    | some name => exact Target.microserviceShell_barred named unfit asks

theorem findLog_barred {fault : ControlPlane.Fault} (regular : n.Regular) (named : n.name ≠ "")
    (unfit : Caches.clientOf n = .error fault) {r : LogsRequest}
    (asks : (Command.logs r).asks n = true) {s : Caches} (fresh : Fresh n s)
    (unsynced : s.synced = false) :
    wp (findLog server n.name r) (fun _ _ => False)
      (fun other t => other = .control fault ∧ t.log = s.log) s := by
  obtain ⟨resource, name, tail, follow, since, upTo⟩ := r
  cases tail with
  | none => cases asks
  | some tail =>
    obtain ⟨checks, asks⟩ := Bool.and_eq_true_iff.mp asks
    cases resource with
    | agent =>
      cases name with
      | none =>
        unfold findLog
        simp only []
        rw [Target.checked_ok checks, pure_bind, wp_bind]
        unfold Search.ofTask
        rw [wp_adapt]
        refine wp_mono (sync_barred named unfit (by simpa using asks) fresh unsynced)
          (fun _ _ none => none.elim) fun _ _ h => ⟨congrArg _ h.1, h.2⟩
      | some name =>
        exact Target.agentLog_barred named unfit checks regular.agents asks fresh unsynced
    | microservice =>
      cases name with
      | none => cases asks
      | some name => exact Target.microserviceLog_barred named unfit checks asks s fresh

/-- A command that has to ask does not get past a client that cannot be made. -/
theorem find_barred (regular : n.Regular) (named : n.name ≠ "") {ns : String} {s : Caches}
    (fresh : Fresh n s) (unsynced : s.synced = false)
    (found : s.store.get (s.store.nameOr (.str ns)) = .ok n) {fault : ControlPlane.Fault}
    (unfit : Caches.clientOf n = .error fault) (asks : command.asks n = true) :
    wp (find server ns command) (fun _ _ => False)
      (fun other t => other = .control fault ∧ t.log = s.log) s := by
  rw [find_found found]
  cases command with
  | exec r => exact findShell_barred named unfit asks s fresh
  | logs r => exact findLog_barred regular named unfit asks fresh unsynced

/-! ## Whole runs -/

/-- A configuration of the documented shape is loaded, and one that is missing is empty. -/
theorem load_documented {s : Surroundings σ} {i : Invocation} (documented : Documented s i)
    {path : String} (resolved : resolve? s.homes i.config s.configured = some path) :
    ∃ store, Store.load (s.files path) = .ok store ∧ store.Regular := by
  cases held : s.files path with
  | none =>
    exact ⟨{}, rfl, ⟨"default", rfl, by decide⟩, fun n mem => by cases mem⟩
  | some text =>
    obtain ⟨-, v, parsed, shaped⟩ := documented.shaped path text resolved held
    exact Store.load_regular parsed shaped

theorem reported_told (text : String) : Reported (.told text) :=
  .inr (.inl ⟨text, rfl, rfl, rfl⟩)

theorem reported_interrupted : Reported .interrupted := .inr (.inr ⟨rfl, rfl, rfl⟩)

/-- A fault is told, or is the user's interrupt, or escapes. -/
theorem ofFault_cases (fault : Attach.Fault) :
    Reported (.ofFault fault) ∨
      fault.told? = none ∧ fault.isInterrupt = false ∧
        Ending.ofFault fault = .escaped (.attach fault) := by
  unfold Ending.ofFault
  cases told : fault.told? with
  | some text => exact .inl (reported_told text)
  | none =>
    cases interrupt : fault.isInterrupt with
    | true => exact .inl reported_interrupted
    | false => exact .inr ⟨rfl, rfl, rfl⟩

/-- Surroundings in which sessions meet these outsides, and the controllers nothing else. -/
structure Surroundings.Orderly (s : Surroundings σ) (seen : Outside → Prop) : Prop where
  leads : ∀ command id, Leads id seen (s.leader command)
  closes : seen s.world.outside

/-- How a command ends whose session meets these outsides: it is reported; or a fault escapes, which
has its cause; or it never ends, as the connection to what was found cannot be closed. -/
inductive Ends (s : Surroundings σ) (seen : Outside → Prop) (i : Invocation) (command : Command)
    (report : Report σ) : Prop
  | reported (reported : Reported report.ending)
  | escaped {escape : Escape} (ending : report.ending = .escaped escape)
      (cause : Cause s seen i command report.requests escape)
  | unending {e : Endless σ} {id : Json} (ending : report.ending = .unending)
      (led : report.endless = some e) (identified : Identified s.server report.requests id)
      (stuck : Stuck id seen)

theorem runOn_found {s : Surroundings σ} {seen : Outside → Prop} (orderly : s.Orderly seen)
    {i : Invocation} (about : About s i n) (regular : n.Regular)
    (named : n.name ≠ "") {caches : Caches} (going : Going s.server n caches)
    (found : caches.store.get (caches.store.nameOr (.str i.ns)) = .ok n) :
    Ends s seen i command (runOn s i.ns command caches) := by
  have traced : wp (find s.server i.ns command) _ _ caches :=
    find_traced regular named going found
  unfold runOn
  cases ran : (find s.server i.ns command).exec caches with
  | mk result t =>
    cases result with
    | error fault =>
      rw [wp_error ran] at traced
      rcases ofFault_cases fault with reported | ⟨untold, -, escaped⟩
      · exact .reported reported
      · refine .escaped escaped ?_
        rcases traced with misread | ⟨text, told⟩ | cause
        · exact .misread misread
        · cases untold.symm.trans told
        · exact .search about cause
    | ok target =>
      rw [wp_ok ran] at traced
      simp only []
      obtain ⟨e, ended, settled⟩ | ⟨e, endless, stuck⟩ := undertake_settled s.session {}
        (orderly.leads command target.id) orderly.closes
      · rw [ended]
        cases result : e.result with
        | ok => exact .reported (.inl (by simp [Report.ofOutcome, result, Ending.ofResult,
            Ending.isFailure]))
        | error fault =>
          have ending : (Report.ofOutcome command t (.ended e)).ending = .ofFault fault := by
            simp [Report.ofOutcome, result, Ending.ofResult]
          rcases ofFault_cases fault with reported | ⟨untold, uninterrupted, escaped⟩
          · exact .reported (ending ▸ reported)
          · refine .escaped (ending.trans escaped) ?_
            cases settled fault result with
            | refused text => cases untold
            | interrupted => cases uninterrupted
            | breach breach =>
              refine .session traced breach fun interrupted => ?_
              rw [interrupted] at uninterrupted
              cases uninterrupted
      · rw [endless]
        exact .unending rfl rfl traced stuck

theorem runOn_barred {s : Surroundings σ} {ns : String} (regular : n.Regular) (named : n.name ≠ "")
    {caches : Caches} (fresh : Fresh n caches) (unsynced : caches.synced = false)
    (found : caches.store.get (caches.store.nameOr (.str ns)) = .ok n)
    {fault : ControlPlane.Fault} (unfit : Caches.clientOf n = .error fault)
    (asks : command.asks n = true) :
    let report := runOn s ns command caches
    report.ending = .ofFault (.control fault) ∧ report.requests = caches.log := by
  have barred : wp (find s.server ns command) _ _ caches :=
    find_barred regular named fresh unsynced found unfit asks
  unfold runOn
  cases ran : (find s.server ns command).exec caches with
  | mk result t =>
    cases result with
    | error other =>
      rw [wp_error ran] at barred
      obtain ⟨rfl, unsent⟩ := barred
      exact ⟨rfl, unsent⟩
    | ok target =>
      rw [wp_ok ran] at barred
      exact barred.elim

/-- A namespace that is not there is said to be missing. -/
theorem runOn_missing {s : Surroundings σ} {ns : String} {caches : Caches} {name : String}
    (missing : caches.store.get (caches.store.nameOr (.str ns)) = .error (.unknown (.str name))) :
    Reported (runOn s ns command caches).ending := by
  have lost : wp (find s.server ns command) (fun _ _ => False)
      (fun fault _ => fault = .control (.lookup (.unknown (.str name)))) caches := by
    unfold find namespaceOf
    simp only [wp_bind, wp_get, missing, Search.wp_searchError]
  unfold runOn
  cases ran : (find s.server ns command).exec caches with
  | mk result t =>
    cases result with
    | error fault =>
      rw [wp_error ran] at lost
      subst lost
      exact reported_told _
    | ok target =>
      rw [wp_ok ran] at lost
      exact lost.elim

theorem cause_escapes {fault : ControlPlane.Fault} (cause : ControlPlane.Cause server n log fault) :
    Ending.ofFault (.control fault) = .escaped (.attach (.control fault)) := by
  cases cause <;> rfl

theorem run_homeless {s : Surroundings σ} {i : Invocation}
    (lost : resolve? s.homes i.config s.configured = none) :
    run s i command = { ending := .escaped .noHome } := by
  unfold run
  rw [lost]

theorem run_loaded {s : Surroundings σ} {i : Invocation} {path : String} {store : Store}
    (resolved : resolve? s.homes i.config s.configured = some path)
    (loaded : Store.load (s.files path) = .ok store) :
    run s i command =
      { runOn s i.ns command { store, file := s.files path } with path := some path } := by
  unfold run Caches.load
  rw [resolved]
  simp only [loaded]
  rfl

theorem loaded_fresh {store : Store} (file : Option String) (named : n.name ≠ "")
    (held : store.find? n.name = some n) : Fresh n { store, file } where
  opened := rfl
  clients := rfl
  lists := rfl
  stored := by rw [Store.get_name named, held]

theorem run_accounted {s : Surroundings σ} {seen : Outside → Prop} (orderly : s.Orderly seen)
    {i : Invocation} (command : Command) (documented : Documented s i) :
    Ends s seen i command (run s i command) := by
  cases resolved : resolve? s.homes i.config s.configured with
  | none =>
    rw [run_homeless resolved]
    exact .escaped rfl (.noHome resolved)
  | some path =>
    obtain ⟨store, loaded, regular⟩ := load_documented documented resolved
    rw [run_loaded resolved loaded]
    cases found : store.get (store.nameOr (.str i.ns)) with
    | error fault =>
      obtain ⟨name, rfl⟩ := get_refused regular found
      exact .reported (runOn_missing (s := s) found)
    | ok n =>
      obtain ⟨usable, named, held⟩ := get_regular regular found
      have ends : Ends s seen i command (runOn s i.ns command _) :=
        runOn_found orderly ⟨path, store, resolved, loaded, found⟩ usable named
          (fresh_going usable (loaded_fresh (s.files path) named held) held) found
      cases ends with
      | reported reported => exact .reported reported
      | escaped ending cause => exact .escaped ending cause
      | unending ending led identified stuck => exact .unending ending led identified stuck

/-- Nobody is told that a client cannot be made, and nothing is sent. -/
theorem run_barred {s : Surroundings σ} {i : Invocation} (documented : Documented s i)
    {fault : ControlPlane.Fault} (about : About s i n) (unfit : Caches.clientOf n = .error fault)
    (asks : command.asks n = true) :
    let report := run s i command
    report.ending = .escaped (.attach (.control fault)) ∧ report.requests = [] := by
  obtain ⟨path, store, resolved, loaded, found⟩ := about
  obtain ⟨store', loaded', regular⟩ := load_documented documented resolved
  cases loaded.symm.trans loaded'
  obtain ⟨usable, named, held⟩ := get_regular regular found
  have cause : ControlPlane.Cause s.server n [] fault := Caches.clientOf_cause usable unfit
  obtain ⟨ending, unsent⟩ := runOn_barred (s := s) usable named (loaded_fresh _ named held) rfl
    found unfit asks
  rw [run_loaded resolved loaded]
  exact ⟨ending.trans (cause_escapes cause), unsent⟩

/-- The outsides that the session of a script may meet. -/
def stands (script : Json) : Outside → Prop :=
  Script.Stands { now := Script.integerOr script "now" 0 }
    (Script.items (Script.member script "events") ++ [Script.ending])

theorem surroundings_orderly (script : Json) (server : Http.Server) (homes : Homes)
    (configured : Option String) (files : String → Option String) :
    { Script.surroundings script homes configured files with server }.Orderly (stands script) where
  leads command id := by
    cases command with
    | exec => exact Script.leadTerminal_leads _ _ id
    | logs => exact Script.leadLog_leads _ _ id
  closes := Script.stands_first _ _

/-- **How a command ends.** Whatever the control plane replies and whatever events are played to the
session, it is reported, or a fault escapes and has its cause, or the command never ends because the
connection to what was found cannot be closed. A command that has to ask the control plane of a
namespace that no client can be made for always ends in the second way, before anything is sent. -/
theorem endings_accounted (script : Json) (server : Http.Server) (homes : Homes)
    (configured : Option String) (files : String → Option String) (i : Invocation)
    (command : Command) :
    let s := { Script.surroundings script homes configured files with server }
    let report := run s i command
    Documented s i →
    Ends s (stands script) i command report ∧
    ∀ n fault, About s i n → Caches.clientOf n = .error fault → command.asks n = true →
      report.ending = .escaped (.attach (.control fault)) ∧ report.requests = [] := by
  intro s report documented
  have orderly : s.Orderly (stands script) := surroundings_orderly ..
  exact ⟨run_accounted orderly command documented,
    fun n fault about unfit asks => run_barred documented about unfit asks⟩

/-- A configuration with one namespace. -/
def document (n : Json) : Json := .obj [("namespaces", .obj [("default", n)])]

/-- A script, that configuration and a control plane that lists one entry and lets everybody in. -/
def scene (script n : Json) (list : String) (entry : Json) : Surroundings (List Bytes) :=
  { Script.surroundings script ⟨"/root", fun _ => none⟩ none
      (fun _ => some (document n).compact) with
    server := .answering fun _ request =>
      if request.method = "GET" then
        .answer 200 (Json.obj [(list, .arr [entry])]).compact
      else .answer 200 (Json.obj [("accessToken", .str "token")]).compact }

/-- That configuration, and a control plane that knows one agent, without an id. -/
def sample (n : Json) : Surroundings (List Bytes) :=
  scene (.obj []) n "fogs" (.obj [("name", .str "edge")])

def edgeShell : Command := .exec { resource := .agent, name := some "edge" }

/-- A session with a microservice of this id, to which these events are played. -/
def hosting (id : Json) (events : List Json) : Surroundings (List Bytes) :=
  scene (.obj [("events", .arr events)]) (.obj [("endpoint", .str "host")]) "microservices"
    (.obj [("name", .str "ms"), ("uuid", id)])

def partShell : Command := .exec { resource := .microservice, name := some "app/ms" }

theorem scene_documented {script n entry : Json} {list : String}
    (shaped : Shape.isConfiguration (document n) = true)
    (parsed : (Json.parse (document n).compact.toList).toOption = some (document n))
    (stored : Json.isPaired (document n).compact.toList = true)
    (listed : Json.isPaired (Json.obj [(list, .arr [entry])]).compact.toList = true) :
    Documented (scene script n list entry) {} where
  shaped path text _ held := by
    cases held
    exact ⟨stored, document n, toOption_eq_some.mp parsed, shaped⟩
  answers log request status body replied := by
    change (if request.method = "GET" then _ else _) = _ at replied
    split at replied
    · cases replied
      exact listed
    · cases replied
      decide +kernel

/-- Under a password that is neither Base64 nor ASCII nobody gets in, and nobody is told. -/
theorem endings_accounted_password :
    let s := sample
      (.obj [("endpoint", .str "host"), ("user", .obj [("password", .str "größe")])])
    Documented s {} ∧
      (run s {} edgeShell).ending = .escaped (.attach (.control (.password .notAscii))) := by
  intro s
  let n : Namespace :=
    { name := "default", endpoint := .str "host", user := { password := .str "größe" } }
  have documented : Documented s {} := scene_documented (by decide) (by decide +kernel)
    (by decide +kernel) (by decide +kernel)
  have about : About s {} n :=
    ⟨"/root/.edgeattach/config.json", { namespaces := [n] }, by decide +kernel,
      toOption_eq_some.mp (by decide +kernel), toOption_eq_some.mp (by decide +kernel)⟩
  have unfit : Caches.clientOf n = .error (.password .notAscii) := by decide +kernel
  have ends := endings_accounted (.obj []) s.server s.homes s.configured s.files {} edgeShell
    documented
  exact ⟨documented, (ends.2 n _ about unfit rfl).1⟩

/-- Neither a stored endpoint without a host is told of, nor a record without an id; nor one whose
id no frame can hold, when the user interrupts its session. And a session that the remote side ends
has no end itself if the parting frame meets with something unknown. -/
theorem endings_unreported :
    let nowhere := sample (.obj [("endpoint", .str "")])
    let anonymous := sample (.obj [("endpoint", .str "host")])
    let vast := hosting (.int (2 ^ 70)) [.obj [("interrupt", .bool true)]]
    let late := hosting (.str "u") [.obj [("close", .obj [("code", .int 1011)]),
      ("fault", .obj [("send", .obj [("kind", .str "handshake"), ("text", .str "late")])])]]
    (Documented nowhere {} ∧ (run nowhere {} edgeShell).ending =
      .escaped (.attach (.control (.endpoint (.noHost "http://".toList))))) ∧
    (Documented anonymous {} ∧ (run anonymous {} edgeShell).ending =
      .escaped (.attach .noId)) ∧
    (Documented vast {} ∧ (run vast {} partShell).ending =
      .escaped (.attach (.trouble .outOfRange))) ∧
    Documented late {} ∧ (run late {} partShell).ending = .unending := by
  refine ⟨⟨scene_documented ?_ ?_ ?_ ?_, ?_⟩, ⟨scene_documented ?_ ?_ ?_ ?_, ?_⟩,
    ⟨scene_documented ?_ ?_ ?_ ?_, ?_⟩, scene_documented ?_ ?_ ?_ ?_, ?_⟩ <;> decide +kernel

end EdgeSession.CommandLine
