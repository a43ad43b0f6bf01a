import EdgeSession.Attach.Executor
import EdgeSession.Proofs.Attach.Plays
import EdgeSession.Proofs.Session.Reading

/-!
What stays of a transport while a session is led over it. Neither controller dials, so a session
dials once.
-/
namespace EdgeSession

/-- What no use of a transport changes, once it was dialled. -/
structure Transport.Lasting (kept : Transport → Prop) : Prop where
  send : ∀ outside message t, kept t → kept (t.send outside message).2
  close : ∀ outside t, kept t → kept (t.close outside).2
  take : ∀ outside i t, kept t → kept (t.take outside i).2

namespace Transport

variable {outside : Outside} {connection : Nat} {t : Transport} {kept : Transport → Prop}

theorem Lasting.read (lasts : Lasting kept) (h : kept t) (outside : Outside)
    (waiting : List Incoming) : kept (t.read outside waiting).2.1 := by
  cases link : t.link with
  | none => rwa [read_unlinked link]
  | some connection =>
    rw [read_linked link]
    exact lasts.take _ _ _ h

theorem Lasting.readFault (lasts : Lasting kept) (h : kept t) (outside : Outside)
    (fault : NetworkFault) : kept (t.readFault outside fault).2 := by
  unfold Transport.readFault
  split
  · exact h
  · exact lasts.take _ _ _ h
  · exact h

/-- Neither the identity of the target is changed nor what was dialled. -/
structure Same (t u : Transport) : Prop where
  target : u.target = t.target
  raw : u.rawTarget = t.rawTarget
  dials : u.dials = t.dials

theorem Same.trans {u v : Transport} (first : Same t u) (later : Same u v) : Same t v :=
  ⟨later.target.trans first.target, later.raw.trans first.raw, later.dials.trans first.dials⟩

theorem send_same (outside : Outside) (message : Message) (t : Transport) :
    Same t (t.send outside message).2 := by
  cases link : t.link with
  | none =>
    rw [send_unlinked link]
    exact ⟨rfl, rfl, rfl⟩
  | some connection =>
    obtain ⟨fault, -, hs⟩ | ⟨frame, -, ⟨-, hs⟩ | ⟨fault, -, hs⟩⟩ :=
      send_cases link outside message
    · rw [hs]
      exact ⟨rfl, rfl, rfl⟩
    · rw [hs]
      exact ⟨rfl, rfl, by simp [dials, record]⟩
    · rw [hs]
      exact ⟨rfl, rfl, by simp [dials, record]⟩

theorem hangUp_same (outside : Outside) (connection : Nat) (t : Transport) :
    Same t (t.hangUp outside connection).2 := by
  have noted : (t.note (.hungUp connection)).dials = t.dials := by simp [dials, note]
  simp only [hangUp]
  cases outside.close with
  | none => exact ⟨rfl, rfl, noted⟩
  | some fault => dsimp only; split <;> exact ⟨rfl, rfl, noted⟩

theorem close_same (outside : Outside) (t : Transport) : Same t (t.close outside).2 := by
  cases closed : t.closed with
  | true =>
    rw [close_again closed]
    exact ⟨rfl, rfl, rfl⟩
  | false =>
    cases link : t.link with
    | none =>
      rw [close_unlinked closed link]
      exact ⟨rfl, rfl, rfl⟩
    | some connection =>
      have sent :
          Same t (send outside (.ofKind .close [] outside.now) { t with closed := true }).2 :=
        (Same.mk rfl rfl rfl : Same t { t with closed := true }).trans (send_same ..)
      rw [close_linked closed link]
      generalize send outside (.ofKind .close [] outside.now) { t with closed := true } = call
        at sent ⊢
      rcases call with ⟨trouble | _, u⟩
      · simp only [afterParting]
        split
        · exact sent.trans (hangUp_same ..)
        · exact sent
      · exact sent.trans (hangUp_same ..)

theorem take_same (outside : Outside) (i : Incoming) (t : Transport) :
    Same t (t.take outside i).2 := by
  obtain ⟨message, brings⟩ | ⟨failure?, closes⟩ := brings_or_closes t i
  · rw [take_brings brings]
    simp only [adopt, record]
    split <;> exact ⟨rfl, rfl, by simp [dials]⟩
  · rw [take_closes closes]
    cases failure? <;> exact (close_same outside t).trans ⟨rfl, rfl, rfl⟩

/-- What depends on the identity and the dials alone lasts. -/
theorem lasting_of_same (same : ∀ t u, Same t u → kept t → kept u) : Lasting kept where
  send outside message t := same _ _ (send_same outside message t)
  close outside t := same _ _ (close_same outside t)
  take outside i t := same _ _ (take_same outside i t)

theorem dials_lasting (dials : List Dial) : Lasting fun t => t.dials = dials :=
  lasting_of_same fun _ _ same h => same.dials.trans h

theorem fail_same {α : Type} (outside : Outside) (failure : Failure) (t : Transport) :
    Same t (t.fail (α := α) outside failure).2 := by
  have closed : Same t (close outside (t.stick failure)).2 :=
    (Same.mk rfl rfl rfl : Same t (t.stick failure)).trans (close_same ..)
  unfold fail
  split
  all_goals
    rename_i ran
    rw [ran] at closed
    exact closed

/-- However a dial ends, all that it changes of the identity and the dials is that it is noted. -/
theorem connect_same (outside : Outside) (fault : Option NetworkFault) (url : String)
    (headers : List (String × String)) (t : Transport) :
    Same (t.note (.dial { url, headers, secure := isSecure url }))
      (connect outside fault url headers t).2 := by
  unfold connect
  dsimp only
  cases fault with
  | none => exact ⟨rfl, rfl, rfl⟩
  | some fault =>
    cases failed : dialFailure? fault with
    | none =>
      simp only [failed]
      exact ⟨rfl, rfl, rfl⟩
    | some failure =>
      simp only [failed]
      exact fail_same ..

/-- Whether the target of a transport has this identity. -/
structure Bound (id : Json) (t : Transport) : Prop where
  target : t.target = (forTarget id).target
  raw : t.rawTarget = (forTarget id).rawTarget

theorem Bound.note {id : Json} (h : Bound id t) (act : Act) : Bound id (t.note act) :=
  ⟨h.target, h.raw⟩

theorem Bound.stick {id : Json} (h : Bound id t) (failure : Failure) : Bound id (t.stick failure) :=
  ⟨h.target, h.raw⟩

theorem Bound.same {id : Json} {u : Transport} (h : Bound id t) (same : Same t u) : Bound id u :=
  ⟨same.target.trans h.target, same.raw.trans h.raw⟩

theorem bound_lasting (id : Json) : Lasting (Bound id) :=
  lasting_of_same fun _ _ same h => h.same same

/-- A transport is bound to the target that it is made for, however the dial ends. -/
theorem connect_bound (outside : Outside) (fault : Option NetworkFault) (url : String)
    (headers : List (String × String)) (id : Json) :
    Bound id (connect outside fault url headers (forTarget id)).2 :=
  ((Bound.mk rfl rfl : Bound id (forTarget id)).note _).same (connect_same ..)

end Transport

open Transport

namespace Terminal.Shell

variable {kept : Transport → Prop} {m : Moment} {t : Shell} {outside : Outside}

/-! ## The terminal -/

theorem handle_lasts (lasts : Lasting kept) (h : kept t.transport) (data : Bytes) :
    kept (t.handle m data).2.transport := by
  have sent := lasts.send m.outside (.ofKind .stdin data m.outside.now) t.transport h
  unfold handle interrupt forward
  split
  · exact h
  · split
    · split <;> rwa [(echo_spares _ _).transport]
    · split
      · rwa [(echo_spares _ _).transport]
      · dsimp only
        split
        all_goals
          rename_i ran
          rw [ran] at sent
          exact sent

theorem cleanup_lasts (lasts : Lasting kept) (h : kept t.transport) (outside : Outside) :
    kept (t.cleanup outside).2.transport := by
  have closed := lasts.close outside t.transport h
  unfold cleanup
  split
  · exact h
  · dsimp only
    split
    all_goals
      rename_i ran
      rw [ran] at closed
      exact closed

theorem settle_lasts (lasts : Lasting kept) (h : kept t.transport) (outside : Outside) :
    kept (t.settle outside).transport := by
  have cleaned := cleanup_lasts lasts h outside
  unfold settle
  split
  · split
    all_goals
      rename_i ran
      rw [ran] at cleaned
      exact cleaned
  · exact h

theorem abandon_lasts (lasts : Lasting kept) (h : kept t.transport) (outside : Outside)
    (trouble : Trouble) : kept (t.abandon outside trouble).transport := by
  have cleaned := cleanup_lasts lasts h outside
  unfold abandon
  split
  all_goals
    rename_i ran
    rw [ran] at cleaned
    exact cleaned

theorem turn_lasts (lasts : Lasting kept) (h : kept t.transport) (m : Moment) (e : Event) :
    kept (t.turn m e).transport := by
  cases e with
  | incoming i =>
    simp only [turn, readTurn]
    split
    · rw [(readDone_spares _).transport]
      exact lasts.read h m.outside [i]
    · exact h
  | readError fault =>
    simp only [turn, readFailed]
    split
    · rw [(readDone_spares _).transport]
      exact lasts.readFault h m.outside fault
    · exact h
  | key data =>
    simp only [turn, keyTurn]
    split
    · split
      · exact h
      · rw [(keyDone_spares _).transport]
        exact handle_lasts lasts h data
    · exact h
  | keyError text =>
    simp only [turn, keyFailed]
    split <;> exact h
  | stop => exact cleanup_lasts (t := t.finish) lasts h m.outside
  | interrupt =>
    simp only [turn, interrupted]
    split
    · exact abandon_lasts lasts h m.outside _
    · exact h
  | resize => exact h

/-- What lasts is there after each step of the terminal. -/
theorem step_lasts (lasts : Lasting kept) (h : kept t.transport) (m : Moment) (e : Event) :
    kept (t.step m e).transport :=
  settle_lasts lasts (turn_lasts lasts h m e) m.outside

theorem start_lasts (lasts : Lasting kept) (h : kept t.transport) {hindrance : Hindrance}
    {begun : Shell} (started : t.start outside hindrance = .ok begun) : kept begun.transport := by
  unfold start at started
  split at started
  · cases started
  · split at started
    · cases started
      exact abandon_lasts lasts h outside _
    · cases started
      exact abandon_lasts (t := t.enter) lasts h outside _
    · cases started
      refine settle_lasts lasts ?_ outside
      rw [(firstRead_spares _).transport, (checkSticky_spares _).transport]
      exact h

end Terminal.Shell

namespace LogTail.Stream

variable {kept : Transport → Prop} {m : Moment} {s : Stream} {outside : Outside}

/-! ## The log -/

theorem cleanup_lasts (lasts : Lasting kept) (h : kept s.transport) (outside : Outside) :
    kept (s.cleanup outside).2.transport := by
  have closed := lasts.close outside s.transport h
  unfold cleanup
  split
  · exact h
  · dsimp only
    split
    all_goals
      rename_i ran
      rw [ran] at closed
      exact closed

theorem settle_lasts (lasts : Lasting kept) (h : kept s.transport) (outside : Outside) :
    kept (s.settle outside).transport := by
  have cleaned := cleanup_lasts lasts h outside
  unfold settle
  split
  · split
    all_goals
      rename_i ran
      rw [ran] at cleaned
      exact cleaned
  · exact h

theorem turn_lasts (lasts : Lasting kept) (h : kept s.transport) (m : Moment) (e : Event) :
    kept (s.turn m e).transport := by
  cases e with
  | incoming i =>
    simp only [turn, readTurn]
    split
    · rw [(readDone_spares _).transport]
      exact lasts.read h m.outside [i]
    · exact h
  | readError fault =>
    simp only [turn, readFailed]
    split
    · rw [(readDone_spares _).transport]
      exact lasts.readFault h m.outside fault
    · exact h
  | stop => exact cleanup_lasts (s := s.finish) lasts h m.outside
  | interrupt =>
    have cleaned := cleanup_lasts lasts h m.outside
    simp only [turn, interrupted]
    split
    · split
      all_goals
        rename_i ran
        rw [ran] at cleaned
        exact cleaned
    · exact h

/-- What lasts is there after each step of the log. -/
theorem step_lasts (lasts : Lasting kept) (h : kept s.transport) (m : Moment) (e : Event) :
    kept (s.step m e).transport :=
  settle_lasts lasts (turn_lasts lasts h m e) m.outside

theorem start_lasts (lasts : Lasting kept) (h : kept s.transport) {begun : Stream}
    (started : s.start outside = .ok begun) : kept begun.transport := by
  unfold start at started
  split at started
  · cases started
  · cases started
    refine settle_lasts lasts ?_ outside
    rw [(firstRead_spares _).transport, (checkSticky_spares _).transport]
    exact h

end LogTail.Stream

/-! ## Whole plays -/

namespace Script

variable {kept : Transport → Prop} {transport : Transport}

theorem leadTerminal_lasts (lasts : Lasting kept) (h : kept transport) (setting : Setting)
    (events : List Json) : kept (leadTerminal setting events transport).2.1 := by
  refine deliver_keeps (fun t : Terminal.Shell => kept t.transport) (fun _ => True)
    (fun setting event t _ h => ?_) _ _ _ _ (fun _ _ => trivial) ?_
  · unfold terminalStep
    split
    · exact Terminal.Shell.step_lasts lasts h _ _
    · exact h
  · split
    · rename_i started
      exact Terminal.Shell.start_lasts lasts h started
    · exact h

theorem leadTerminal_dials (setting : Setting) (events : List Json) (t : Transport) :
    (leadTerminal setting events t).2.1.dials = t.dials :=
  leadTerminal_lasts (dials_lasting t.dials) rfl setting events

end Script
end EdgeSession
