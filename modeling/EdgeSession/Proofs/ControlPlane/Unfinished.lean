import EdgeSession.Proofs.ControlPlane.Again
import EdgeSession.Proofs.ControlPlane.Reconciled

/-!
Reconciliations that come to no end. The local agent gets its id while the list is gone through, so
an entry that does not fit leaves it with the id of an earlier one; and agents that are in line with
the list stay so in the store when the file cannot be written. Trying again does no harm to either.
-/
namespace EdgeSession.Reconcile

open Config

variable {stored after : List Agent} {backend entries : List Json} {v : Json} {info : Listed}
  {fault : ShapeFault}

/-! ## Merges that break off -/

/-- Why nothing is made of an entry. -/
inductive Unfit (stored : List Agent) (v : Json) : ShapeFault → Prop
  | unread (other : ∀ members, v ≠ .obj members) : Unfit stored v .notObject
  | name {info : Listed} (read : listed v = .ok info) (other : ¬ours stored info = true)
      (name : isPlain info.name = false) : Unfit stored v .notPlain
  /-- What is known of the way to reach the agent cannot be copied. -/
  | ssh {info : Listed} {known : Agent} {fault : ShapeFault} (read : listed v = .ok info)
      (other : ¬ours stored info = true) (plain : isPlain info.name = true)
      (found : known? stored info.name = some known)
      (uncopied : copyObject known.ssh = .error fault) : Unfit stored v fault

/-- How a merge comes to a fault, and the stored agents as it leaves them: the local one has the id
of the last of its entries before the one that does not fit. -/
inductive BreaksOff (stored : List Agent) : List Json → ShapeFault → List Agent → Prop
  | unnamed {backend : List Json} {a : Agent} (mem : a ∈ stored) (remote : a.isLocal = false)
      (name : isPlain a.name = false) : BreaksOff stored backend .notPlain stored
  | entry {before : List Json} {v : Json} {later : List Json} {fault : ShapeFault}
      (named : Named stored) (fit : ∀ w ∈ before, ∀ fault, ¬Unfit stored w fault)
      (unfit : Unfit stored v fault) :
      BreaksOff stored (before ++ v :: later) fault (identified stored before)

theorem record_eq_error :
    record stored info = .error fault ↔
      isPlain info.name = false ∧ fault = .notPlain ∨
      isPlain info.name = true ∧ ∃ known, known? stored info.name = some known ∧
        copyObject known.ssh = .error fault := by
  unfold record
  by_cases plain : isPlain info.name = true
  · rw [plain]
    cases found : known? stored info.name with
    | none => simp
    | some known =>
      cases copied : copyObject known.ssh <;> simp [copied, bind, Except.bind, pure, Except.pure]
  · simp [plain, eq_comm]

theorem entry_eq_error : entry stored v = .error fault ↔ Unfit stored v fault := by
  constructor
  · intro failed
    have comes := entry_comes stored v
    rw [failed] at comes
    cases comes with
    | unread read =>
      obtain ⟨rfl, other⟩ := listed_fault read
      exact .unread other
    | unrecorded read other recorded =>
      obtain ⟨name, rfl⟩ | ⟨plain, known, found, uncopied⟩ := record_eq_error.1 recorded
      · exact .name read other name
      · exact .ssh read other plain found uncopied
  · intro unfit
    have failed {info : Listed} (read : listed v = .ok info) (other : ¬ours stored info = true)
        (recorded : record stored info = .error fault) : entry stored v = .error fault := by
      rw [entry, read]
      exact (if_neg other).trans (by rw [recorded]; rfl)
    cases unfit with
    | unread other =>
      have read : listed v = .error .notObject := by
        cases v with
        | obj members => exact absurd rfl (other members)
        | _ => rfl
      rw [entry, read]
    | name read other name =>
      exact failed read other (record_eq_error.2 (.inl ⟨name, rfl⟩))
    | ssh read other plain found uncopied =>
      exact failed read other (record_eq_error.2 (.inr ⟨plain, _, found, uncopied⟩))

theorem entry_fits : (∃ out, entry stored v = .ok out) ↔ ∀ fault, ¬Unfit stored v fault := by
  simp only [← entry_eq_error]
  cases entry stored v <;> simp

theorem merge_breaks_off :
    merge stored backend = (.error fault, after) ↔ BreaksOff stored backend fault after := by
  rw [merge_eq_error]
  simp only [entry_fits, entry_eq_error]
  constructor
  · rintro (⟨unnamed, rfl, rfl⟩ | ⟨named, before, v, later, rfl, fit, unfit, rfl⟩)
    · simp only [Named, not_forall, Bool.not_eq_true] at unnamed
      obtain ⟨a, mem, remote, name⟩ := unnamed
      exact .unnamed mem remote name
    · exact .entry named fit unfit
  · intro breaks
    cases breaks with
    | unnamed mem remote name =>
      refine .inl ⟨fun named => ?_, rfl, rfl⟩
      rw [named _ mem remote] at name
      cases name
    | entry named fit unfit => exact .inr ⟨named, _, _, _, rfl, fit, unfit, rfl⟩

/-- Entries leave the stored agents as they are if the last of the local one's has its id. -/
theorem identified_eq_self :
    identified stored entries = stored ↔ ∀ l uuid, local? stored = some l →
      (entries.filterMap (localId? stored)).getLast? = some uuid → uuid = l.uuid := by
  constructor
  · intro same l uuid found last
    have first := local?_identified stored entries
    rw [same, found, last] at first
    exact (congrArg Agent.uuid (Option.some.inj first)).symm
  · intro ids
    unfold identified
    cases last : (entries.filterMap (localId? stored)).getLast? with
    | none => rfl
    | some uuid => exact setLocalUuid_self fun l found => (ids l uuid found last).symm

end EdgeSession.Reconcile

namespace EdgeSession.ControlPlane.Caches

open Config

/-! ## Calls that fail -/

/-- Whatever comes of it, nothing but the file is another. -/
def WritesFile (write : Task Caches Unit) : Prop :=
  ∀ s, ∃ file, (write.exec s).2 = { s with file }

/-- The stored agents of every namespace are as they were. -/
def Unchanged (s t : Caches) : Prop := ∀ key, t.store.agents? key = s.store.agents? key

/-- One namespace has other agents, and those of every other are as they were. -/
def LeftWith (n : Namespace) (agents : List Agent) (s t : Caches) : Prop :=
  ∀ key, t.store.agents? key = if key = n.name then some agents else s.store.agents? key

/-- What a call leaves whose agents are in line with the list, but could not be written to the file.
It does not count. -/
structure Unwritten (name : String) (n : Namespace) (agents : List Agent) (s t : Caches) :
    Prop where
  named : name ≠ ""
  opened : t.closed = false
  unsynced : t.synced = false
  found : s.store.get (.str name) = .ok n
  remote : n.localControlPlane.isTruthy = false
  merged : ∃ backend, t.lists.lookup name = some backend ∧
    (Reconcile.merge n.agents backend).1 = .ok agents
  stored : ∃ kept : Store, s.store.Alike kept ∧
    kept.replaceAgents (.str name) agents = .ok t.store

/-- How a call that fails has come to change the agents of its namespace: its merge broke off with
another id for the local agent, or the file could not be written behind it. -/
inductive Changed (name : String) (write : Task Caches Unit) (s : Caches) : Fault → Caches → Prop
  | brokenOff {n : Namespace} {backend : List Json} {fault : ShapeFault} {after : List Agent}
      {t : Caches} (found : s.store.get (.str name) = .ok n)
      (listed : t.lists.lookup name = some backend)
      (breaks : Reconcile.BreaksOff n.agents backend fault after) (other : after ≠ n.agents)
      (left : LeftWith n after s t) : Changed name write s (.shape fault) t
  | unwritten {n : Namespace} {agents : List Agent} {fault : Fault} {t u : Caches}
      (refused : write.exec u = (.error fault, t)) (unwritten : Unwritten name n agents s t)
      (other : agents ≠ n.agents) (left : LeftWith n agents s t) : Changed name write s fault t

/-- What asking the control plane leaves as it was, whatever comes of writing the file. -/
structure Steady (s t : Caches) : Prop where
  store : s.store.Alike t.store
  closed : t.closed = s.closed
  synced : t.synced = s.synced

variable {server : Http.Server} {name : String} {write : Task Caches Unit} {s t : Caches}

theorem flush_writesFile : WritesFile flush := fun s => ⟨some s.store.fileText, rfl⟩

theorem WritesFile.keeps {P : Caches → Prop} (files : WritesFile write)
    (holds : ∀ file, P { s with file }) : wp write (fun _ => P) (fun _ => P) s := by
  obtain ⟨file, left⟩ := files s
  cases ran : write.exec s with
  | mk result t =>
    obtain rfl : t = { s with file } := (congrArg Prod.snd ran).symm.trans left
    cases result with
    | ok => rw [wp_ok ran]; exact holds file
    | error fault => rw [wp_error ran]; exact holds file

theorem Steady.refl (s : Caches) : Steady s s := ⟨.refl _, rfl, rfl⟩

theorem Steady.session {result : Except Fault Login} {u : Caches} (steady : Steady s t)
    (session : Session server name t result u) : Steady s u := by
  cases session <;> exact ⟨steady.store, steady.closed, steady.synced⟩

theorem Steady.client (steady : Steady s t) (files : WritesFile write) :
    wp (client server name write) (fun _ => Steady s) (fun _ => Steady s) t := by
  by_cases unnamed : name = ""
  · subst unnamed
    exact steady
  cases closed : t.closed with
  | true =>
    unfold Caches.client
    rw [if_neg unnamed, wp_bind, wp_get, closed]
    exact steady
  | false =>
    obtain ⟨result, u, ran, session⟩ := session_cases server name t
    have steady := steady.session session
    rw [wp_congr (client_exec unnamed closed), wp_bind]
    cases result with
    | error fault =>
      rw [wp_error ran]
      exact steady
    | ok login =>
      rw [wp_ok ran]
      unfold keepLogin
      rw [wp_bind, wp_get, wp_bind]
      cases updated : u.store.updateUser (.str name) login.client.access login.client.refresh with
      | error fault => exact steady
      | ok store =>
        have tokens := Store.Alike.updateUser updated
        rw [wp_ofExcept_ok, wp_bind, wp_set, wp_bind]
        exact files.keeps fun file => ⟨steady.store.trans tokens, steady.closed, steady.synced⟩

theorem Steady.agents (files : WritesFile write) :
    wp (agents server name write)
      (fun backend t => Steady s t ∧ t.lists.lookup name = some backend) (fun _ => Steady s) s :=
  agents_keeps (fun _ steady => steady.client files)
    (fun _ _ steady _ => ⟨steady.store, steady.closed, steady.synced⟩)
    (fun _ _ steady => ⟨steady.store, steady.closed, steady.synced⟩) (.refl s)

theorem LeftWith.unchanged_iff {n : Namespace} {agents : List Agent} (left : LeftWith n agents s t)
    (found : s.store.get (.str name) = .ok n) : Unchanged s t ↔ agents = n.agents := by
  obtain ⟨key, -, known⟩ := Store.get_eq_ok.1 found
  have before : s.store.agents? n.name = some n.agents := by
    rw [Store.find?_name known, Store.agents?, known]
    rfl
  constructor
  · intro unchanged
    have now := unchanged n.name
    rw [left, if_pos rfl, before] at now
    exact Option.some.inj now
  · rintro rfl key
    rw [left]
    by_cases same : key = n.name
    · rw [if_pos same, same, before]
    · rw [if_neg same]

theorem Steady.leftWith {n : Namespace} {agents : List Agent} {store : Store} {file : Option String}
    (steady : Steady s t) (found : s.store.get (.str name) = .ok n)
    (replaced : t.store.replaceAgents (.str name) agents = .ok store) :
    LeftWith n agents s { t with store, file } := by
  obtain ⟨m, found', bare⟩ := steady.store.get found
  have names : m.bare.name = n.bare.name := congrArg Namespace.name bare
  intro key
  rw [← steady.store.agents? key, ← show m.name = n.name from names]
  exact Store.agents?_replaceAgents found' replaced key

/-- Only the write can fail behind a merge that comes to its end, and then the store is as it was
set. -/
theorem reconcile_fails {n m : Namespace} {backend : List Json} (files : WritesFile write)
    (named : name ≠ "") (opened : s.closed = false) (unsynced : s.synced = false)
    (found : s.store.get (.str name) = .ok n) (remote : n.localControlPlane.isTruthy = false)
    (steady : Steady s t) (listed : t.lists.lookup name = some backend)
    (found' : t.store.get (.str name) = .ok m) (same : m.agents = n.agents) :
    wp (reconcile name m backend write) (fun _ _ => True)
      (fun fault u => Unchanged s u ∨ Changed name write s fault u) t := by
  refine wp_reconcile found' (fun fault after store merge replaced => ?_)
    fun agents store merge replaced => ?_
  · rw [same] at merge
    have left : LeftWith n after s { t with store } := steady.leftWith found replaced
    by_cases still : after = n.agents
    · exact .inl ((left.unchanged_iff found).2 still)
    · exact .inr (.brokenOff found listed (Reconcile.merge_breaks_off.1 merge) still left)
  · rw [same] at merge
    refine wp_mono (wp_ran (files.keeps (P := fun u => ∃ file, u = { t with store, file })
      fun file => ⟨file, rfl⟩)) (fun _ _ _ => trivial) ?_
    rintro fault _ ⟨⟨file, rfl⟩, refused⟩
    have left : LeftWith n agents s { t with store, file } := steady.leftWith found replaced
    by_cases still : agents = n.agents
    · exact .inl ((left.unchanged_iff found).2 still)
    · have unwritten : Unwritten name n agents s { t with store, file } :=
        ⟨named, steady.closed.trans opened, steady.synced.trans unsynced, found, remote,
          ⟨backend, listed, merge⟩, t.store, steady.store, replaced⟩
      exact .inr (.unwritten refused unwritten still left)

theorem sync_fails (server : Http.Server) (name : String) (files : WritesFile write)
    (s : Caches) :
    wp (sync server name write) (fun _ _ => True)
      (fun fault t => Unchanged s t ∨ Changed name write s fault t) s := by
  have unchanged : Unchanged s s := fun _ => rfl
  apply wp_sync
  case closed => exact fun _ => .inl unchanged
  case rests => exact fun _ => trivial
  case missing => exact fun _ _ => .inl unchanged
  case skips => exact fun _ _ _ => trivial
  case asks =>
    intro opened unsynced n found remote
    by_cases unnamed : name = ""
    · subst unnamed
      exact .inl unchanged
    refine wp_mono (Steady.agents files) (fun backend t h => ?_) fun fault t steady =>
      .inl steady.store.agents?
    obtain ⟨steady, listed⟩ := h
    obtain ⟨m, found', bare⟩ := steady.store.get found
    have ends := reconcile_fails files unnamed opened unsynced found remote steady listed found'
      (Store.agents_of_bare bare)
    exact ⟨m, found', wp_mono ends (fun _ _ _ => trivial) fun _ _ failed => failed⟩

theorem Changed.not_unchanged {fault : Fault} (h : Changed name write s fault t) :
    ¬Unchanged s t := by
  cases h with
  | brokenOff found _ _ other left => exact fun same => other ((left.unchanged_iff found).1 same)
  | unwritten _ unwritten other left =>
    exact fun same => other ((left.unchanged_iff unwritten.found).1 same)

/-- **When a reconciliation that fails changes nothing.** A merge breaks off at the first entry of
which nothing is made, and leaves the stored agents as they are but for the id of the local one,
which is that of its last entry before. So a call that fails leaves the agents of every namespace as
they were, unless that is another id, or the file could not be written behind the merge. -/
theorem failed_reconciliation {fault : Fault} (files : WritesFile write)
    (failed : (sync server name write).exec s = (.error fault, t)) :
    (∀ stored backend fault after, Reconcile.merge stored backend = (.error fault, after) ↔
      Reconcile.BreaksOff stored backend fault after) ∧
    (∀ stored entries, Reconcile.identified stored entries = stored ↔
      ∀ l uuid, Reconcile.local? stored = some l →
        (entries.filterMap (Reconcile.localId? stored)).getLast? = some uuid → uuid = l.uuid) ∧
    (Unchanged s t ↔ ¬Changed name write s fault t) := by
  refine ⟨fun _ _ _ _ => Reconcile.merge_breaks_off, fun _ _ => Reconcile.identified_eq_self,
    fun same changed => changed.not_unchanged same, fun unchanged => ?_⟩
  have ends := sync_fails server name files s
  rw [wp_error failed] at ends
  exact ends.resolve_right unchanged

/-- An entry that is a number follows on one of the local agent, in a call that is made for it. -/
theorem failed_reconciliation_known :
    let backend : List Json := [.obj [("name", .str "here"), ("uuid", .str "new")], .int 5]
    let here : Agent := { name := .str "here", uuid := .str "old", localFlag := .bool true }
    let server : Http.Server := .answering fun _ request =>
      if request.path = "/api/v3/iofog-list" then
        .answer 200 (Json.obj [("fogs", .arr backend)]).compact
      else .answer 200 (Json.obj [("accessToken", .str "t")]).compact
    let start : Caches :=
      { store := { namespaces := [{ name := "edge", endpoint := .str "host", agents := [here] },
          { name := "other", agents := [here] }] }, file := none }
    let after := ((sync server "edge").exec start).2
    (WritesFile flush ∧ (sync server "edge").exec start = (.error (.shape .notObject), after) ∧
      after.store.namespaces.map (fun n => n.agents.map (·.uuid)) = [[.str "new"], [.str "old"]]) ∧
      ¬Unchanged start after ∧ Changed "edge" flush start (.shape .notObject) after := by
  intro backend here server start after
  have ran : ((sync server "edge").exec start).1 = .error (.shape .notObject) ∧
      after.store.namespaces.map (fun n => n.agents.map (·.uuid)) =
        [[.str "new"], [.str "old"]] ∧
      after.store.agents? "edge" ≠ start.store.agents? "edge" := by decide +kernel
  have failed : (sync server "edge").exec start = (.error (.shape .notObject), after) :=
    Prod.ext ran.1 rfl
  have other : ¬Unchanged start after := fun same => ran.2.2 (same "edge")
  refine ⟨⟨flush_writesFile, failed, ran.2.1⟩, other, ?_⟩
  by_contra unchanged
  exact other ((failed_reconciliation flush_writesFile failed).2.2.2 unchanged)

/-- The local agent is left with the id of an entry, by a merge that comes to nothing. -/
theorem local_id_left_behind :
    ¬∀ (stored : List Agent) (backend : List Json) (fault : ShapeFault) (after : List Agent),
      Reconcile.merge stored backend = (.error fault, after) → after = stored := by
  intro still
  let here : Agent := { name := .str "here", uuid := .str "old", localFlag := .bool true }
  let backend : List Json := [.obj [("name", .str "here"), ("uuid", .str "new")], .int 5]
  have broken : Reconcile.merge [here] backend =
      (.error .notObject, [{ here with uuid := .str "new" }]) := by decide +kernel
  have same := still [here] backend _ _ broken
  exact absurd same (by decide)

/-! ## Calls made again -/

/-- What is left to do when the agents are in line with the list. -/
def writeOut (write : Task Caches Unit) : Task Caches Unit := do
  write
  modify fun s => { s with synced := true }

theorem writeOut_flush (t : Caches) :
    (writeOut flush).exec t =
      (.ok (), { t with file := some t.store.fileText, synced := true }) := rfl

theorem agents_listed {backend : List Json} (named : name ≠ "") (opened : t.closed = false)
    (listed : t.lists.lookup name = some backend) :
    (agents server name write).exec t = (.ok backend, t) := by
  unfold agents
  rw [if_neg named, Task.exec_bind_ok (Task.exec_get t)]
  simp only [opened, Bool.false_eq_true, if_false]
  rw [Task.exec_bind_ok (Task.exec_get t), listed]
  rfl

theorem reconcile_settled {m : Namespace} {backend : List Json}
    (settled : Reconcile.merge m.agents backend = (.ok m.agents, m.agents))
    (stored : t.store.replaceAgents (.str name) m.agents = .ok t.store) :
    (reconcile name m backend write).exec t = write.exec t := by
  have replaced : (replaceAgents (.str name) m.agents).exec t = (.ok (), t) := by
    unfold replaceAgents
    rw [Task.exec_bind_ok (Task.exec_get t), stored]
    rfl
  unfold reconcile
  rw [settled]
  rw [Task.exec_bind_ok replaced, Task.exec_bind_ok (Task.exec_ofExcept_ok ..),
    Task.exec_bind_ok replaced]

/-- A merge with the same list gives the same agents, so only the file is written. -/
theorem Unwritten.again {n : Namespace} {agents : List Agent} (h : Unwritten name n agents s t)
    (server : Http.Server) (write : Task Caches Unit) :
    (sync server name write).exec t = (writeOut write).exec t := by
  obtain ⟨backend, listed, merged⟩ := h.merged
  obtain ⟨kept, alike, replaced⟩ := h.stored
  obtain ⟨m, found, bare⟩ := alike.get h.found
  obtain ⟨m', found', store⟩ := Store.replaceAgents_eq_ok.1 replaced
  rw [found] at found'
  cases found'
  have now : t.store.get (.str name) = .ok { m with agents } := by
    rw [store]
    exact Store.get_modify found fun _ => rfl
  have remote : m.localControlPlane.isTruthy = false := by
    have same : m.bare.localControlPlane = n.bare.localControlPlane :=
      congrArg Namespace.localControlPlane bare
    rw [show m.localControlPlane = n.localControlPlane from same, h.remote]
  have settled := Reconcile.merge_again merged
  have stored : t.store.replaceAgents (.str name) agents = .ok t.store :=
    (Store.replaceAgents_again replaced agents).trans replaced
  unfold sync
  rw [Task.exec_bind_ok (Task.exec_get t)]
  simp only [h.opened, Bool.false_eq_true, if_false]
  rw [Task.exec_bind_ok (Task.exec_get t)]
  simp only [h.unsynced, Bool.false_eq_true, if_false]
  rw [Task.exec_bind_ok (Task.exec_get t), now, Task.exec_bind_ok (Task.exec_ofExcept_ok ..)]
  simp only [remote, Bool.not_false, if_true]
  rw [Task.exec_bind_ok (agents_listed h.named h.opened listed),
    Task.exec_bind_ok (Task.exec_get t), now, Task.exec_bind_ok (Task.exec_ofExcept_ok ..),
    Task.exec_bind, reconcile_settled settled stored, writeOut, Task.exec_bind]

/-- **Reconciling twice with a list is reconciling once**, whatever is stored and listed. So a call
that could not write the file can be made again: it writes the file, and changes nothing else but
that it counts now. -/
theorem reconciled_again :
    (∀ {stored agents : List Agent} {backend : List Json},
      (Reconcile.merge stored backend).1 = .ok agents →
        Reconcile.merge agents backend = (.ok agents, agents)) ∧
    ∀ {name : String} {n : Namespace} {agents : List Agent} {s t : Caches},
      Unwritten name n agents s t → ∀ (server : Http.Server) (write : Task Caches Unit),
        (sync server name write).exec t = (writeOut write).exec t :=
  ⟨Reconcile.merge_again, Unwritten.again⟩

/-- A name that is stored twice and listed twice, and a list that cannot be written at first. -/
theorem reconciled_again_unwritten :
    let backend : List Json := [.obj [("name", .str "a"), ("uuid", .str "1")],
      .obj [("name", .str "here"), ("uuid", .str "2")], .obj [("name", .str "a")]]
    let stored : List Agent := [{ name := .str "a", created := .str "first" },
      { name := .str "here", localFlag := .bool true },
      { name := .str "a", created := .str "last" }]
    let agents : List Agent := [{ name := .str "a", uuid := .str "1", created := .str "last" },
      { name := .str "a", created := .str "last" },
      { name := .str "here", uuid := .str "2", localFlag := .bool true }]
    let server : Http.Server := .answering fun _ request =>
      if request.path = "/api/v3/iofog-list" then
        .answer 200 (Json.obj [("fogs", .arr backend)]).compact
      else .answer 200 (Json.obj [("accessToken", .str "t")]).compact
    let edge : Namespace := { name := "edge", endpoint := .str "host", agents := stored }
    let start : Caches := { store := { namespaces := [edge] }, file := none }
    let refused : Task Caches Unit := do
      if (← get).lists = [] then flush else throw (.failure .general "no space left on device")
    let left := ((sync server "edge" refused).exec start).2
    ((Reconcile.merge stored backend).1 = .ok agents ∧ Unwritten "edge" edge agents start left) ∧
      Reconcile.merge agents backend = (.ok agents, agents) ∧
      (sync server "edge").exec left =
        (.ok (), { left with file := some left.store.fileText, synced := true }) := by
  intro backend stored agents server edge start refused left
  have merged : (Reconcile.merge stored backend).1 = .ok agents := by decide +kernel
  let kept : Store := { namespaces := [{ edge with user := { accessToken := .str "t" } }] }
  have ran : left.closed = false ∧ left.synced = false ∧ left.lists.lookup "edge" = some backend ∧
      kept.replaceAgents (.str "edge") agents = .ok left.store := by decide +kernel
  have unwritten : Unwritten "edge" edge agents start left :=
    { named := by decide
      opened := ran.1
      unsynced := ran.2.1
      found := by decide +kernel
      remote := rfl
      merged := ⟨backend, ran.2.2.1, merged⟩
      stored := ⟨kept, ⟨rfl, rfl⟩, ran.2.2.2⟩ }
  exact ⟨⟨merged, unwritten⟩, reconciled_again.1 merged,
    (reconciled_again.2 unwritten server flush).trans (writeOut_flush left)⟩

end EdgeSession.ControlPlane.Caches
