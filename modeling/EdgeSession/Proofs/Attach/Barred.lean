import EdgeSession.Proofs.Attach.Causes

/-!
A namespace that no client can be made for, because its endpoint makes no address or its password
cannot be read: whoever asks for a client gets that very fault, and nothing is sent.
-/
namespace EdgeSession.Attach

open Config ControlPlane
open ControlPlane.Caches

/-- Caches over a store with this namespace, before anything was asked. -/
structure Fresh (n : Namespace) (s : Caches) : Prop where
  opened : s.closed = false
  clients : s.clients = []
  lists : s.lists = []
  stored : s.store.get (.str n.name) = .ok n

/-- Whether steps come to nothing but a fault, and send nothing. -/
def Barred {ε α : Type} (n : Namespace) (task : ExceptT ε (StateM Caches) α) (fault : ε) : Prop :=
  ∀ s, Fresh n s →
    wp task (fun _ _ => False) (fun other t => other = fault ∧ t.log = s.log) s

section
variable {ε φ α β : Type} {n : Namespace}

theorem barred_bind {task : ExceptT ε (StateM Caches) α} {fault : ε} (h : Barred n task fault)
    (next : α → ExceptT ε (StateM Caches) β) : Barred n (task >>= next) fault := by
  intro s fresh
  rw [wp_bind]
  exact wp_mono (h s fresh) (fun _ _ none => none.elim) fun _ _ h => h

theorem barred_adapt {task : ExceptT ε (StateM Caches) α} {fault : ε} (h : Barred n task fault)
    (f : ε → φ) : Barred n (ExceptT.adapt f task) (f fault) := by
  intro s fresh
  rw [wp_adapt]
  exact wp_mono (h s fresh) (fun _ _ none => none) fun _ _ h => ⟨congrArg f h.1, h.2⟩

end

variable {server : Http.Server} {n : Namespace} {fault : ControlPlane.Fault}

theorem client_barred (named : n.name ≠ "") (unfit : clientOf n = .error fault) :
    Barred n (Caches.client server n.name) fault := by
  intro s fresh
  have asks : s.asker n.name = .error fault := by
    unfold asker
    rw [fresh.clients, fresh.stored]
    exact unfit
  obtain ⟨result, s', ran, outcome⟩ := session_cases server n.name s
  rw [wp_congr (client_exec named fresh.opened), wp_bind]
  cases outcome with
  | refused other =>
    rw [wp_error ran]
    exact ⟨Except.error.inj (other.symm.trans asks), rfl⟩
  | failed other => simp [asks] at other
  | renewed _ other => simp [asks] at other

theorem agents_barred (named : n.name ≠ "") (unfit : clientOf n = .error fault) :
    Barred n (Caches.agents server n.name) fault := by
  intro s fresh
  unfold Caches.agents
  rw [if_neg named, wp_bind, wp_get, fresh.opened, if_neg Bool.false_ne_true, wp_bind, wp_get,
    fresh.lists]
  exact barred_bind (client_barred named unfit) _ s fresh

/-- The stored agents are brought into line by the list of the control plane. -/
theorem sync_barred (named : n.name ≠ "") (unfit : clientOf n = .error fault)
    (remote : n.localControlPlane.isTruthy = false) {s : Caches} (fresh : Fresh n s)
    (unsynced : s.synced = false) :
    wp (Caches.sync server n.name) (fun _ _ => False)
      (fun other t => other = fault ∧ t.log = s.log) s := by
  unfold Caches.sync
  simp only [wp_bind, wp_get, fresh.opened, unsynced, fresh.stored, remote, wp_ofExcept_ok,
    Bool.false_eq_true, Bool.not_false, if_false, if_true]
  exact wp_mono (agents_barred named unfit s fresh) (fun _ _ none => none.elim) fun _ _ h => h

/-- A local control plane has no list. -/
theorem sync_local {Q : Unit → Caches → Prop} {E : ControlPlane.Fault → Caches → Prop}
    (local' : n.localControlPlane.isTruthy = true) {s : Caches} (fresh : Fresh n s)
    (unsynced : s.synced = false) :
    wp (Caches.sync server n.name) Q E s = Q () { s with synced := true } := by
  unfold Caches.sync
  simp only [wp_bind, wp_get, fresh.opened, unsynced, fresh.stored, local', wp_ofExcept_ok,
    Bool.false_eq_true, Bool.not_true, if_false, wp_modify]

namespace Target

theorem login_barred (named : n.name ≠ "") (unfit : clientOf n = .error fault) :
    Barred n (login server n.name) (.control fault) :=
  barred_adapt (barred_bind (client_barred named unfit) _) _

theorem checked_ok {options : LogTail.Options} (fits : options.check.isOk = true) :
    checked options = pure () := by
  unfold checked
  cases h : options.check with
  | ok => rfl
  | error fault => simp [h, Except.isOk, Except.toBool] at fits

theorem nameOf_ok {name : String} (fits : (parseName name "microservice").isOk = true) :
    ∃ parts, nameOf name = pure parts := by
  unfold nameOf
  cases h : parseName name "microservice" with
  | ok parts => exact ⟨parts, rfl⟩
  | error fault => simp [h, Except.isOk, Except.toBool] at fits

theorem agentShell_barred (named : n.name ≠ "") (unfit : clientOf n = .error fault)
    (name : String) : Barred n (agentShell server n.name name) (.control fault) :=
  barred_bind (login_barred named unfit) _

theorem microserviceShell_barred (named : n.name ≠ "") (unfit : clientOf n = .error fault)
    {name : String} (fits : (parseName name "microservice").isOk = true) :
    Barred n (microserviceShell server n.name name) (.control fault) := by
  obtain ⟨parts, read⟩ := nameOf_ok fits
  unfold microserviceShell
  rw [read, pure_bind]
  exact barred_bind (login_barred named unfit) _

theorem microserviceLog_barred (named : n.name ≠ "") (unfit : clientOf n = .error fault)
    {name : String} {options : LogTail.Options} (checks : options.check.isOk = true)
    (fits : (parseName name "microservice").isOk = true) :
    Barred n (microserviceLog server n.name name options) (.control fault) := by
  obtain ⟨parts, read⟩ := nameOf_ok fits
  unfold microserviceLog
  rw [checked_ok checks, pure_bind, read, pure_bind]
  exact barred_bind (login_barred named unfit) _

/-- The log of an agent that is not the operator's own machine, by its record in the store where
the control plane is local. -/
theorem agentLog_barred (named : n.name ≠ "") (unfit : clientOf n = .error fault) {name : String}
    {options : LogTail.Options} (checks : options.check.isOk = true)
    (regular : ∀ a ∈ n.agents, a.Regular)
    (remote : (!n.localControlPlane.isTruthy ||
      (n.agents.reverse.find? fun a => a.name == .str name).any fun a => !a.isLocal) = true)
    {s : Caches} (fresh : Fresh n s) (unsynced : s.synced = false) :
    wp (agentLog server n.name name options) (fun _ _ => False)
      (fun other t => other = .control fault ∧ t.log = s.log) s := by
  unfold agentLog
  rw [checked_ok checks, pure_bind, wp_bind]
  unfold Search.ofTask
  rw [wp_adapt]
  cases isLocal : n.localControlPlane.isTruthy with
  | false =>
    exact wp_mono (sync_barred named unfit isLocal fresh unsynced) (fun _ _ none => none.elim)
      fun _ _ h => ⟨congrArg _ h.1, h.2⟩
  | true =>
    rw [sync_local isLocal fresh unsynced]
    obtain ⟨found, stored⟩ := storedAgent_regular regular name
    have held : (n.agents.reverse.find? fun a => a.name == .str name) = found := by
      unfold storedAgent at stored
      split at stored
      · cases stored
      · exact Except.ok.inj stored
    rw [isLocal, held] at remote
    simp only [wp_bind, wp_get, fresh.stored, Search.wp_searchOk, stored]
    cases found with
    | none => cases remote
    | some agent =>
      have other : agent.isLocal = false := by simpa using remote
      simp only [other, Bool.false_eq_true, if_false]
      have later : Fresh n { s with synced := true } :=
        ⟨fresh.opened, fresh.clients, fresh.lists, fresh.stored⟩
      exact barred_bind (login_barred named unfit) _ _ later

end Target
end EdgeSession.Attach
