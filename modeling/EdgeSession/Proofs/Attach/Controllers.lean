import EdgeSession.Proofs.Attach.Session
import EdgeSession.Script.Scene

/-!
What the two controllers raise, whatever events are played to them: a failure of the session, the
user's interrupt, or what kept the connection from being closed. Anything else that a loop meets
ends that loop and does not come out.
-/
namespace EdgeSession

open Attach Transport

variable {id : Json} {seen : Outside → Prop} {outside : Outside} {trouble : Trouble}

/-- Whether a call, if it is over, came out with no other trouble. -/
def ComesTo (id : Json) (seen : Outside → Prop) (outcome : Option (Except Trouble Unit)) : Prop :=
  ∀ trouble, outcome = some (.error trouble) → Orderly id seen trouble

theorem comesTo_error (h : Orderly id seen trouble) : ComesTo id seen (some (.error trouble)) := by
  intro other same
  cases same
  exact h

namespace Terminal.Shell

variable {m : Moment} {t : Shell}

/-! ## The terminal -/

theorem handle_outcome (data : Bytes) : (t.handle m data).2.outcome = t.outcome := by
  unfold handle interrupt forward
  split
  · rfl
  · split
    · split <;> exact (echo_spares _ _).outcome
    · split
      · exact (echo_spares _ _).outcome
      · simp only []
        split <;> rfl

theorem cleanup_outcome : (t.cleanup outside).2.outcome = t.outcome := by
  unfold cleanup
  split
  · rfl
  · simp only []
    split <;> rfl

theorem cleanup_unclosed (bound : t.transport.Bound id)
    (h : (t.cleanup outside).1 = .error trouble) : Unclosed id outside trouble := by
  unfold cleanup at h
  split at h
  · cases h
  · simp only [] at h
    split at h
    · rename_i ran
      cases h
      exact close_unclosed bound (congrArg Prod.fst ran)
    · cases h

theorem settle_comesTo (bound : t.transport.Bound id) (h : ComesTo id seen t.outcome)
    (meets : seen outside) : ComesTo id seen (t.settle outside).outcome := by
  unfold settle
  split
  · split
    · unfold result
      split
      · exact comesTo_error (.session _)
      · intro trouble same
        cases same
    · rename_i ran
      exact comesTo_error (.unclosed meets (cleanup_unclosed bound (congrArg Prod.fst ran)))
  · exact h

theorem abandon_comesTo (bound : t.transport.Bound id) (h : Orderly id seen trouble)
    (meets : seen outside) : ComesTo id seen (t.abandon outside trouble).outcome := by
  unfold abandon
  split
  · exact comesTo_error h
  · rename_i ran
    exact comesTo_error (.unclosed meets (cleanup_unclosed bound (congrArg Prod.fst ran)))

theorem step_comesTo (e : Event) (bound : t.transport.Bound id) (h : ComesTo id seen t.outcome)
    (meets : seen m.outside) : ComesTo id seen (t.step m e).outcome := by
  rw [step_eq]
  refine settle_comesTo (turn_lasts (bound_lasting id) bound m e) ?_ meets
  cases e with
  | incoming i =>
    simp only [turn, readTurn]
    split
    · rwa [(readDone_spares _).outcome]
    · exact h
  | readError fault =>
    simp only [turn, readFailed]
    split
    · rwa [(readDone_spares _).outcome]
    · exact h
  | key data =>
    simp only [turn, keyTurn]
    split
    · split
      · exact h
      · rwa [(keyDone_spares _).outcome, handle_outcome]
    · exact h
  | keyError text =>
    simp only [turn, keyFailed]
    split <;> exact h
  | stop =>
    simp only [turn, stop, cleanup_outcome]
    exact h
  | interrupt =>
    simp only [turn, interrupted]
    split
    · exact abandon_comesTo bound .interrupted meets
    · exact h
  | resize => exact h

theorem start_comesTo {hindrance : Hindrance} {begun : Shell} (unwatched : hindrance.watch = none)
    (fresh : t.outcome = none) (bound : t.transport.Bound id) (meets : seen outside)
    (started : t.start outside hindrance = .ok begun) : ComesTo id seen begun.outcome := by
  unfold start at started
  split at started
  · cases started
  · split at started
    · cases started
      exact abandon_comesTo bound (.session _) meets
    · cases unwatched
    · cases started
      have kept : Spares t t.enter.launch.checkSticky.firstRead :=
        ⟨(firstRead_spares _).transport.trans (checkSticky_spares _).transport,
          (firstRead_spares _).outcome.trans (checkSticky_spares _).outcome⟩
      refine settle_comesTo (kept.transport.symm ▸ bound) ?_ meets
      intro trouble same
      cases fresh.symm.trans (kept.outcome.symm.trans same)

end Terminal.Shell

namespace LogTail.Stream

variable {m : Moment} {s : Stream}

/-! ## The log -/

theorem cleanup_outcome : (s.cleanup outside).2.outcome = s.outcome := by
  unfold cleanup
  split
  · rfl
  · simp only []
    split <;> rfl

theorem cleanup_unclosed (bound : s.transport.Bound id)
    (h : (s.cleanup outside).1 = .error trouble) : Unclosed id outside trouble := by
  unfold cleanup at h
  split at h
  · cases h
  · simp only [] at h
    split at h
    · rename_i ran
      cases h
      exact close_unclosed bound (congrArg Prod.fst ran)
    · cases h

theorem settle_comesTo (bound : s.transport.Bound id) (h : ComesTo id seen s.outcome)
    (meets : seen outside) : ComesTo id seen (s.settle outside).outcome := by
  unfold settle
  split
  · split
    · unfold result
      split
      · exact comesTo_error (.session _)
      · intro trouble same
        cases same
    · rename_i ran
      exact comesTo_error (.unclosed meets (cleanup_unclosed bound (congrArg Prod.fst ran)))
  · exact h

theorem step_comesTo (e : Event) (bound : s.transport.Bound id) (h : ComesTo id seen s.outcome)
    (meets : seen m.outside) : ComesTo id seen (s.step m e).outcome := by
  rw [step_eq]
  refine settle_comesTo (turn_lasts (bound_lasting id) bound m e) ?_ meets
  cases e with
  | incoming i =>
    simp only [turn, readTurn]
    split
    · rwa [(readDone_spares _).outcome]
    · exact h
  | readError fault =>
    simp only [turn, readFailed]
    split
    · rwa [(readDone_spares _).outcome]
    · exact h
  | stop =>
    simp only [turn, stop, cleanup_outcome]
    exact h
  | interrupt =>
    simp only [turn, interrupted]
    split
    · split
      · exact comesTo_error .interrupted
      · rename_i ran
        exact comesTo_error (.unclosed meets (cleanup_unclosed bound (congrArg Prod.fst ran)))
    · exact h

theorem start_comesTo {begun : Stream} (fresh : s.outcome = none) (bound : s.transport.Bound id)
    (meets : seen outside) (started : s.start outside = .ok begun) :
    ComesTo id seen begun.outcome := by
  unfold start at started
  split at started
  · cases started
  · cases started
    have kept : Spares s s.launch.checkSticky.firstRead :=
      ⟨(firstRead_spares _).transport.trans (checkSticky_spares _).transport,
        (firstRead_spares _).outcome.trans (checkSticky_spares _).outcome⟩
    refine settle_comesTo (kept.transport.symm ▸ bound) ?_ meets
    intro trouble same
    cases fresh.symm.trans (kept.outcome.symm.trans same)

end LogTail.Stream

/-! ## Whole plays -/

namespace Script

/-- A connection to the target, and a call that came out with no other trouble, if it is over. -/
def Fares (id : Json) (seen : Outside → Prop) (transport : Transport)
    (outcome : Option (Except Trouble Unit)) : Prop :=
  transport.Bound id ∧ ComesTo id seen outcome

theorem fares_underWay {transport : Transport} (bound : transport.Bound id) :
    Fares id seen transport none :=
  ⟨bound, nofun⟩

theorem terminalStep_fares (setting : Setting) (event : Json) (t : Terminal.Shell)
    (meets : seen setting.outside) (h : Fares id seen t.transport t.outcome) :
    Fares id seen (terminalStep setting event t).transport
      (terminalStep setting event t).outcome := by
  unfold terminalStep
  split
  · exact ⟨Terminal.Shell.step_lasts (bound_lasting id) h.1 _ _,
      Terminal.Shell.step_comesTo _ h.1 h.2 meets⟩
  · exact h

theorem streamStep_fares (setting : Setting) (event : Json) (s : LogTail.Stream)
    (meets : seen setting.outside) (h : Fares id seen s.transport s.outcome) :
    Fares id seen (streamStep setting event s).transport (streamStep setting event s).outcome := by
  unfold streamStep
  split
  · exact ⟨LogTail.Stream.step_lasts (bound_lasting id) h.1 _ _,
      LogTail.Stream.step_comesTo _ h.1 h.2 meets⟩
  · exact h

variable {setting : Setting} {events : List Json} {transport : Transport}

theorem leadTerminal_fares (bound : transport.Bound id) :
    Fares id (Stands setting (events ++ [ending])) (leadTerminal setting events transport).2.1
      (leadTerminal setting events transport).1 := by
  refine deliver_keeps (fun t : Terminal.Shell => Fares id _ t.transport t.outcome) _
    terminalStep_fares _ _ _ _ (fun _ h => h) ?_
  split
  · rename_i started
    exact ⟨Terminal.Shell.start_lasts (bound_lasting id) bound started,
      Terminal.Shell.start_comesTo rfl rfl bound (stands_first _ _) started⟩
  · exact fares_underWay bound

theorem leadLog_fares (bound : transport.Bound id) :
    Fares id (Stands setting (events ++ [ending])) (leadLog setting events transport).2.1
      (leadLog setting events transport).1 := by
  refine deliver_keeps (fun s : LogTail.Stream => Fares id _ s.transport s.outcome) _
    streamStep_fares _ _ _ _ (fun _ h => h) ?_
  split
  · rename_i started
    exact ⟨LogTail.Stream.start_lasts (bound_lasting id) bound started,
      LogTail.Stream.start_comesTo rfl bound (stands_first _ _) started⟩
  · exact fares_underWay bound

end Script
end EdgeSession
