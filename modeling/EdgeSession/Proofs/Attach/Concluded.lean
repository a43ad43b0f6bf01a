import EdgeSession.Attach.Session
import EdgeSession.Proofs.Session.Registry
import EdgeSession.Proofs.Session.Tidy

/-!
How a session is concluded, whatever came of the dial and whatever the controller comes out with.
-/
namespace EdgeSession.Attach

open Transport

/-- How the dial of a session ends, and the transport that it leaves. -/
def opened (world : World) (target : Target) : Except Trouble Unit × Transport :=
  (forTarget target.id).connect world.outside world.dialFault target.url (bearer target.token)

/-- What the dial or, if there is a connection, the controller comes out with. -/
inductive Raises {σ : Type} (world : World) (controller : Controller σ) (target : Target)
    (trouble : Trouble) : Prop
  | dial (h : (opened world target).1 = .error trouble)
  | controller (connected : world.dialFault = none)
      (h : (controller (opened world target).2).1 = .error trouble)

/-- What is left of a session that is over, and what its call comes to. -/
structure Concluded {σ : Type} (world : World) (controller : Controller σ) (target : Target)
    (registry : Registry) (e : Ended σ) : Prop where
  closed : e.transport.closed = true
  done : e.transport.done = true
  live : e.registry.live = registry.live
  held : e.registry.held = registry.held
  /-- The controller was started if there was a connection, and on it. -/
  led : e.led =
    if world.dialFault = none then
      some (registry.activeCount + 1, (controller (opened world target).2).2.2)
    else none
  returns : e.result = .ok () ↔ world.dialFault = none ∧
    (controller (opened world target).2).1 = .ok () ∧ e.transport.sticky = none
  told : ∀ failure, Raises world controller target (.session failure) →
    e.result = .error (.refused (Diagnosis.explain (.session failure)))
  /-- A failure that only the transport knows of is told as well. -/
  kept : ∀ failure, (∀ trouble, ¬Raises world controller target trouble) →
    e.transport.sticky = some failure →
    e.result = .error (.refused (Diagnosis.explain (.session failure)))
  passed : ∀ trouble, (∀ failure, trouble ≠ .session failure) →
    Raises world controller target trouble → e.result = .error (.trouble trouble)
  /-- A failure that stays is the one that the controller left. -/
  sticky : world.dialFault = none →
    e.transport.sticky = (controller (opened world target).2).2.1.sticky

section
variable {σ : Type} {world : World} {controller : Controller σ} {target : Target}
  {registry : Registry} {session : String}

/-- How a dial ends: in a connection, in a failure that ends the session, or in a fault that is none
of the network's and leaves the session as it is. -/
theorem opened_cases (world : World) (target : Target) :
    (world.dialFault = none ∧ (opened world target).1 = .ok ()) ∨
      ∃ fault, world.dialFault = some fault ∧
        (opened world target).1 = .error ((dialFailure? fault).elim (.network fault) .session) ∧
        (opened world target).2.link = none ∧ (opened world target).2.Tidy := by
  unfold opened
  generalize target.id = id
  cases world.dialFault with
  | none => exact .inl ⟨rfl, rfl⟩
  | some fault =>
    refine .inr ⟨fault, rfl, ?_⟩
    cases fault with
    | foreign | interrupted => cases id <;> exact ⟨rfl, rfl, nofun⟩
    | _ => cases id <;> exact ⟨rfl, rfl, fun _ => rfl⟩

/-- A transport without a connection is closed without trouble. -/
theorem close_idle {t : Transport} (link : t.link = none) (outside : Outside) :
    (t.close outside).1 = .ok () := by
  cases closed : t.closed with
  | true => rw [close_again closed]
  | false => rw [close_unlinked closed link]

theorem lead_connected (ok : (opened world target).1 = .ok ()) (active : Nat) :
    lead world controller target active (forTarget target.id) =
      ((controller (opened world target).2).1, (controller (opened world target).2).2.1,
        some (active, (controller (opened world target).2).2.2)) := by
  unfold opened at ok ⊢
  unfold lead
  generalize connect .. = dial at ok
  obtain ⟨result, transport⟩ := dial
  cases ok
  rfl

theorem lead_undialled {trouble : Trouble} (error : (opened world target).1 = .error trouble)
    (active : Nat) :
    lead world controller target active (forTarget target.id) =
      (.error trouble, (opened world target).2, none) := by
  unfold opened at error ⊢
  unfold lead
  generalize connect .. = dial at error
  obtain ⟨result, transport⟩ := dial
  cases error
  rfl

theorem verdict_ok {raised : Except Trouble Unit} {transport : Transport} :
    verdict raised transport = .ok () ↔ raised = .ok () ∧ transport.sticky = none := by
  cases raised with
  | error trouble => simp [verdict]
  | ok => cases kept : transport.sticky <;> simp [verdict, kept]

theorem verdict_kept {transport : Transport} {failure : Failure}
    (kept : transport.sticky = some failure) :
    verdict (.ok ()) transport = .error (.ofFailure failure) := by
  simp only [verdict, kept]

/-- A session is concluded by what it raised, once its transport is closed. -/
theorem concluded {left : Transport} {raised : Except Trouble Unit} {led : Option (Nat × σ)}
    (sound : registry.Sound) (fresh : registry.Fresh session)
    (leads : lead world controller target (registry.activeCount + 1)
      (forTarget target.id) = (raised, left, led))
    (tidy : left.Tidy) (closes : (left.close world.outside).1 = .ok ())
    (raises : ∀ trouble, raised = .error trouble ↔ Raises world controller target trouble)
    (returns : raised = .ok () ↔
      world.dialFault = none ∧ (controller (opened world target).2).1 = .ok ())
    (shown : led =
      if world.dialFault = none then
        some (registry.activeCount + 1, (controller (opened world target).2).2.2)
      else none)
    (sticky : world.dialFault = none →
      left.sticky = (controller (opened world target).2).2.1.sticky) :
    Concluded world controller target registry
      (attach world controller session registry target) := by
  have count : (registry.add ⟨session, target.id.asText, world.clock⟩).activeCount =
      registry.activeCount + 1 := by
    simp [Registry.activeCount, fresh.add_live ⟨session, _, _⟩ sound]
  have ran : attach world controller session registry target =
      { result := verdict raised (left.close world.outside).2
        transport := (left.close world.outside).2
        registry := (registry.add ⟨session, target.id.asText, world.clock⟩).remove session
        led } := by
    unfold attach conclude
    simp only [count, leads]
    generalize left.close world.outside = call at closes
    obtain ⟨closed, transport⟩ := call
    cases closes
    rfl
  obtain ⟨live, held⟩ :=
    Registry.remove_add ⟨session, target.id.asText, world.clock⟩ sound fresh
  rw [ran]
  refine ⟨close_closed .., close_done tidy closes, live, held, shown, ?_, fun failure told => ?_,
    fun failure unraised kept => ?_, fun trouble other passed => ?_, fun connected => ?_⟩
  · rw [verdict_ok, returns, and_assoc]
  · rw [(raises _).2 told]
    rfl
  · cases raised with
    | error trouble => exact absurd ((raises trouble).1 rfl) (unraised trouble)
    | ok => exact verdict_kept kept
  · rw [(raises _).2 passed]
    cases trouble with
    | session failure => exact absurd rfl (other failure)
    | _ => rfl
  · exact (close_sticky ..).trans (sticky connected)

/-- **How a session is concluded.** Whatever comes of the dial, and whatever the controller comes
out with and leaves, as long as no `close` of the transport raises: it is closed and done, and the
registry holds what it held before. The call returns just when there was a connection, the
controller returned and the transport keeps no failure. A failure of the session that the dial or
the controller raised is told in its words, else the one that the transport keeps; other trouble
passes as it is. The controller is started on a connection only. -/
theorem attach_concluded (sound : registry.Sound) (fresh : registry.Fresh session)
    (tidy : world.dialFault = none → (controller (opened world target).2).2.1.Tidy)
    (closes : world.dialFault = none →
      ((controller (opened world target).2).2.1.close world.outside).1 = .ok ()) :
    Concluded world controller target registry
      (attach world controller session registry target) := by
  obtain ⟨connected, ok⟩ | ⟨fault, met, error, link, tidily⟩ := opened_cases world target
  · refine concluded sound fresh (lead_connected ok _) (tidy connected) (closes connected)
      (fun trouble => ⟨.controller connected, ?_⟩) (by simp [connected]) (if_pos connected).symm
      fun _ => rfl
    rintro (dial | ⟨-, raised⟩)
    · cases ok.symm.trans dial
    · exact raised
  · have unconnected : world.dialFault ≠ none := by simp [met]
    refine concluded sound fresh (lead_undialled error _) tidily (close_idle link world.outside)
      (fun trouble => ?_) (by simp [unconnected]) (if_neg unconnected).symm
      fun connected => absurd connected unconnected
    rw [← error]
    refine ⟨.dial, ?_⟩
    rintro (dial | ⟨connected, -⟩)
    · exact dial
    · exact absurd connected unconnected

end

/-- A controller that returns, although the remote side went down while it read. -/
theorem attach_concluded_down :
    let world : World := { outside := { now := 1 } }
    let controller : Controller Unit := fun t =>
      (.ok (), (t.read { now := 1 } [.closed (some ⟨1011, ""⟩) none]).2.1, ())
    let target : Target := { url := "ws://c/x", id := .str "m", token := .str "t" }
    let registry : Registry := { records := [⟨"other", "n", 0⟩], live := [0] }
    let e := attach world controller "own" registry target
    e.result = .error (.refused Diagnosis.serverError) ∧
      e.transport.done = true ∧ e.registry.live = [0] := by
  intro world controller target registry e
  have sound : registry.Sound := by
    intro n live
    rw [List.mem_singleton.1 live]
    decide
  have fresh : registry.Fresh "own" := by
    have only : registry.held = [⟨"other", "n", 0⟩] := rfl
    intro record held
    rw [only] at held
    rw [List.mem_singleton.1 held]
    decide
  have concluded : Concluded world controller target registry e :=
    attach_concluded sound fresh (fun _ _ => by decide +kernel) fun _ => by decide +kernel
  have unraised : ∀ trouble, ¬Raises world controller target trouble := by
    rintro trouble (dial | ⟨-, raised⟩)
    · cases dial
    · cases raised
  refine ⟨?_, concluded.done, concluded.live⟩
  rw [concluded.kept (.closure 1011 "") unraised (by decide +kernel)]
  decide +kernel

end EdgeSession.Attach
