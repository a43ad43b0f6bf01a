import EdgeSession.Attach.Session
import EdgeSession.Proofs.Attach.Dials

/-!
What comes of a session: it ends in good order, or in a failure that is put into words, or with
trouble that the dial, the one who leads it or the closing met and that no session knows; or the one
who leads it never comes back.
-/
namespace EdgeSession

/-- What may keep the connection to this target from being closed: the parting frame or the hang-up
meets with something that is neither the session's nor the operating system's, or there is no such
frame. -/
inductive Transport.Unclosed (id : Json) (outside : Outside) : Trouble → Prop
  | parting {fault : NetworkFault} (met : outside.send = some fault)
      (stops : isPassable (linkTrouble fault) = false) : Unclosed id outside (linkTrouble fault)
  | unwritten {t : Transport} {fault : Frame.EncodeFault} (bound : t.Bound id)
      (spelt : t.encode (.ofKind .close [] outside.now) = .error fault)
      (stops : isPassable (encodeTrouble fault) = false) :
      Unclosed id outside (encodeTrouble fault)
  | hangUp {fault : NetworkFault} (met : outside.close = some fault)
      (stops : isHarmless fault = false) : Unclosed id outside (.network fault)

namespace Transport

variable {id : Json} {outside : Outside} {trouble : Trouble} {t : Transport}

theorem hangUp_unclosed {connection : Nat} (h : (hangUp outside connection t).1 = .error trouble) :
    Unclosed id outside trouble := by
  unfold hangUp at h
  cases met : outside.close with
  | none => simp [met] at h
  | some fault =>
    simp only [met] at h
    split at h
    · cases h
    · rename_i harmful
      cases h
      exact .hangUp met (by simpa using harmful)

theorem close_unclosed (bound : t.Bound id) (h : (close outside t).1 = .error trouble) :
    Unclosed id outside trouble := by
  unfold close at h
  split at h
  · cases h
  · cases link : t.link with
    | none => simp [link] at h
    | some connection =>
      have linked : { t with closed := true }.link = some connection := link
      have sent := send_cases linked outside (.ofKind .close [] outside.now)
      simp only [link] at h sent
      obtain ⟨fault, spelt, ran⟩ | ⟨frame, -, ⟨-, ran⟩ | ⟨fault, met, ran⟩⟩ := sent
      · simp only [ran] at h
        split at h
        · exact hangUp_unclosed h
        · rename_i stops
          cases h
          exact .unwritten (t := { t with closed := true, link := some connection })
            ⟨bound.target, bound.raw⟩ spelt (by simpa using stops)
      · simp only [ran] at h
        exact hangUp_unclosed h
      · simp only [ran] at h
        split at h
        · exact hangUp_unclosed h
        · rename_i stops
          cases h
          exact .parting met (by simpa using stops)

end Transport

namespace Attach

variable {σ : Type}

/-- Trouble that a controller may come out with, if these are the outsides that it saw: a failure
of the session, the user's interrupt, or what kept the connection from being closed. -/
inductive Orderly (id : Json) (seen : Outside → Prop) : Trouble → Prop
  | session (failure : Failure) : Orderly id seen (.session failure)
  | interrupted : Orderly id seen (.network .interrupted)
  | unclosed {outside : Outside} {trouble : Trouble} (meets : seen outside)
      (unclosed : Transport.Unclosed id outside trouble) : Orderly id seen trouble

/-- Where other trouble comes from: the dial, or the closing of the connection. -/
inductive Breach (world : World) (id : Json) (seen : Outside → Prop) : Trouble → Prop
  | dial {fault : NetworkFault} (dialled : world.dialFault = some fault)
      (unknown : Transport.dialFailure? fault = none) : Breach world id seen (.network fault)
  | unclosed {outside : Outside} {trouble : Trouble} (meets : seen outside)
      (unclosed : Transport.Unclosed id outside trouble) : Breach world id seen trouble

/-- Trouble of a session, whoever it came to. -/
def Met (world : World) (id : Json) (seen : Outside → Prop) (trouble : Trouble) : Prop :=
  (∃ failure, trouble = .session failure) ∨ trouble = .network .interrupted ∨
    Breach world id seen trouble

/-- A session that fails is put into words, but for trouble that nobody foresaw. -/
inductive Settled (world : World) (id : Json) (seen : Outside → Prop) : Fault → Prop
  | refused (text : String) : Settled world id seen (.refused text)
  | interrupted : Settled world id seen (.trouble (.network .interrupted))
  | breach {trouble : Trouble} (breach : Breach world id seen trouble) :
      Settled world id seen (.trouble trouble)

/-- Whether, in one of these outsides, the connection to this target cannot be closed. -/
def Stuck (id : Json) (seen : Outside → Prop) : Prop :=
  ∃ outside trouble, seen outside ∧ Transport.Unclosed id outside trouble

/-- One who leads over a connection to this target, keeps to it, comes out with no other trouble,
and always comes out unless the connection cannot be closed. -/
structure Leads (id : Json) (seen : Outside → Prop) (leader : Leader σ) : Prop where
  bound : ∀ t, t.Bound id → (leader t).2.1.Bound id
  orderly : ∀ t trouble, t.Bound id → (leader t).1 = some (.error trouble) →
    Orderly id seen trouble
  endless : ∀ t, t.Bound id → (leader t).1 = none → Stuck id seen

variable {world : World} {leader : Leader σ} {target : Target} {transport : Transport}
  {trouble : Trouble} {id : Json} {seen : Outside → Prop} {result : Except Trouble Unit}
  {session : String} {registry : Registry} {fault : Fault}

theorem Orderly.met (h : Orderly id seen trouble) : Met world id seen trouble := by
  cases h with
  | session failure => exact .inl ⟨failure, rfl⟩
  | interrupted => exact .inr (.inl rfl)
  | unclosed meets unclosed => exact .inr (.inr (.unclosed meets unclosed))

theorem connect_met (bound : transport.Bound id) (meets : seen world.outside) {url : String}
    {headers : List (String × String)}
    (h : (transport.connect world.outside world.dialFault url headers).1 = .error trouble) :
    Met world id seen trouble := by
  unfold Transport.connect at h
  cases dialled : world.dialFault with
  | none => simp [dialled] at h
  | some fault =>
    simp only [dialled] at h
    cases known : Transport.dialFailure? fault with
    | none =>
      simp only [known] at h
      cases h
      exact .inr (.inr (.dial dialled known))
    | some failure =>
      simp only [known, Transport.fail] at h
      split at h
      · cases h
        exact .inl ⟨failure, rfl⟩
      · rename_i ran
        cases h
        have unclosed :=
          Transport.close_unclosed ((bound.note _).stick failure) (congrArg Prod.fst ran)
        exact .inr (.inr (.unclosed meets unclosed))

theorem verdict_error (h : verdict result transport = .error fault) :
    (∃ text, fault = .refused text) ∨
      ∃ trouble, result = .error trouble ∧ fault = .trouble trouble ∧
        ∀ failure, trouble ≠ .session failure := by
  cases result with
  | error trouble =>
    cases h
    cases trouble with
    | session failure => exact .inl ⟨_, rfl⟩
    | _ => exact .inr ⟨_, rfl, rfl, by simp⟩
  | ok =>
    unfold verdict at h
    cases kept : transport.sticky with
    | none => simp [kept] at h
    | some failure =>
      simp only [kept] at h
      cases h
      exact .inl ⟨_, rfl⟩

theorem conclude_settled (bound : transport.Bound id) (meets : seen world.outside)
    (met : ∀ trouble, result = .error trouble → Met world id seen trouble)
    {led : Option (Nat × σ)}
    (h : (conclude world session registry result transport led).result = .error fault) :
    Settled world id seen fault := by
  unfold conclude at h
  split at h
  · rename_i closed
    have unclosed := Transport.close_unclosed bound (congrArg Prod.fst closed)
    cases h
    exact .breach (.unclosed meets unclosed)
  · rcases verdict_error h with ⟨text, rfl⟩ | ⟨trouble, raised, rfl, other⟩
    · exact .refused text
    · rcases met trouble raised with ⟨failure, same⟩ | rfl | breach
      · exact absurd same (other failure)
      · exact .interrupted
      · exact .breach breach

/-- What a session comes to: an end, whose fault is accounted for if there is one; or none, because
its connection cannot be closed. -/
theorem undertake_settled (session : String) (registry : Registry)
    (leads : Leads target.id seen leader) (meets : seen world.outside) :
    (∃ e, undertake world leader session registry target = .ended e ∧
      ∀ fault, e.result = .error fault → Settled world target.id seen fault) ∨
    ∃ e, undertake world leader session registry target = .endless e ∧ Stuck target.id seen := by
  have bound := Transport.connect_bound world.outside world.dialFault target.url
    (bearer target.token) target.id
  have dialled (trouble : Trouble) :
      ((Transport.forTarget target.id).connect world.outside world.dialFault target.url
        (bearer target.token)).1 = .error trouble → Met world target.id seen trouble :=
    connect_met ⟨rfl, rfl⟩ meets
  unfold undertake
  dsimp only
  generalize Transport.connect .. = dial at bound dialled
  obtain ⟨trouble | _, transport⟩ := dial
  · refine .inl ⟨_, rfl, fun fault => conclude_settled bound meets fun other same => ?_⟩
    exact dialled other same
  · have kept := leads.bound transport bound
    have orderly (trouble : Trouble) := leads.orderly transport trouble bound
    generalize hl : leader transport = led at kept orderly
    obtain ⟨_ | result, left, shown⟩ := led
    · simp only [hl]
      exact .inr ⟨_, rfl, leads.endless transport bound (congrArg Prod.fst hl)⟩
    · simp only [hl]
      refine .inl ⟨_, rfl, fun fault => conclude_settled kept meets fun trouble raised => ?_⟩
      exact (orderly trouble (congrArg some raised)).met

/-- A controller that comes back brings each session to its end. -/
theorem undertake_controller (world : World) (controller : Controller σ) (session : String)
    (registry : Registry) (target : Target) :
    undertake world controller session registry target =
      .ended (attach world controller session registry target) := by
  unfold undertake attach lead Controller.leader
  dsimp only
  generalize Transport.connect .. = dial
  obtain ⟨trouble | _, transport⟩ := dial <;> rfl

end Attach
end EdgeSession
