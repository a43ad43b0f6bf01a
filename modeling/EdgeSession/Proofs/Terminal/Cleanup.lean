import EdgeSession.Proofs.Session.Closing
import EdgeSession.Terminal.Shell

/-!
The cleanup of a terminal session: the connection is closed first, and the local terminal given back
behind it. So what becomes of the terminal hangs on how the closing ends.
-/
namespace EdgeSession.Terminal

open Transport

/-- A cleanup that came to its end: the size is watched no longer, and the terminal given back. -/
structure CleansUp (t : Shell) (call : Except Trouble Unit × Shell) : Prop where
  returns : call.1 = .ok ()
  journal : call.2.journal = t.journal ++ [.unwatchedSize, .restored]
  phase : call.2.phase = .closed

/-- A cleanup that raised before it came to the terminal, which nothing will give back now. -/
structure BreaksOff (t : Shell) (call : Except Trouble Unit × Shell) : Prop where
  raises : ∃ trouble, call.1 = .error trouble
  journal : call.2.journal = t.journal
  phase : call.2.phase = t.phase
  again : ∀ later, call.2.cleanup later = (.ok (), call.2)

namespace Shell

section
variable {outside : Outside} {t : Shell}

/-- Only the first cleanup does anything. -/
theorem cleanup_again (cleaned : t.cleaned = true) (outside : Outside) :
    t.cleanup outside = (.ok (), t) := by
  simp only [cleanup, cleaned, if_true]

/-- The first cleanup, once the connection is closed. -/
theorem cleanup_closed (uncleaned : t.cleaned = false)
    (closed : (t.transport.close outside).1 = .ok ()) :
    t.cleanup outside =
      (.ok (), { t with
        cleaned := true, cancelled := true, phase := .closed,
        transport := (t.transport.close outside).2,
        journal := t.journal ++ [.unwatchedSize, .restored] }) := by
  simp only [cleanup, uncleaned, Bool.false_eq_true, if_false]
  generalize t.transport.close outside = call at closed
  obtain ⟨_, transport⟩ := call
  cases closed
  simp only [note, List.append_assoc, List.cons_append, List.nil_append]

/-- The first cleanup, if the closing raises. -/
theorem cleanup_raises (uncleaned : t.cleaned = false) {trouble : Trouble}
    (fault : (t.transport.close outside).1 = .error trouble) :
    t.cleanup outside =
      (.error trouble, { t with
        cleaned := true, cancelled := true,
        transport := (t.transport.close outside).2 }) := by
  simp only [cleanup, uncleaned, Bool.false_eq_true, if_false]
  generalize t.transport.close outside = call at fault
  obtain ⟨_, transport⟩ := call
  cases fault
  rfl

theorem cleanup_finishes (uncleaned : t.cleaned = false)
    (finishes : Finishes t.transport (t.transport.close outside)) :
    CleansUp t (t.cleanup outside) := by
  rw [cleanup_closed uncleaned finishes.returns]
  exact ⟨rfl, rfl, rfl⟩

theorem cleanup_givesUp (uncleaned : t.cleaned = false)
    (givesUp : GivesUp t.transport (t.transport.close outside)) :
    BreaksOff t (t.cleanup outside) := by
  obtain ⟨trouble, fault⟩ := givesUp.raises
  rw [cleanup_raises uncleaned fault]
  exact ⟨⟨trouble, rfl⟩, rfl, rfl, fun later => cleanup_again rfl later⟩

end
end Shell

/-- **How a session is closed.** Whatever state it is in and whatever its connection raises, the
first `close` finishes the session, and the terminal's cleanup comes to its end, just when there is
no connection or the parting frame goes out or is lost in a usual way. Else both give up half way,
for good. -/
theorem close_finishes_iff {transport : Transport} (first : transport.closed = false)
    {outside : Outside} (sends : OfConnection outside.send) (closes : OfConnection outside.close) :
    let orderly := transport.link = none ∨ Parts outside transport
    (Finishes transport (transport.close outside) ↔ orderly) ∧
      (GivesUp transport (transport.close outside) ↔ ¬orderly) ∧
      ∀ t : Shell, t.transport = transport → t.cleaned = false →
        (CleansUp t (t.cleanup outside) ↔ orderly) ∧
          (BreaksOff t (t.cleanup outside) ↔ ¬orderly) := by
  intro orderly
  obtain ⟨yes, finishes⟩ | ⟨no, givesUp⟩ := close_settles first sends closes
  · have unraised : ¬∃ trouble, (transport.close outside).1 = .error trouble := by
      rintro ⟨trouble, fault⟩
      exact absurd (finishes.returns.symm.trans fault) nofun
    refine ⟨iff_of_true finishes yes, iff_of_false (fun h => unraised h.raises) (· yes), ?_⟩
    rintro t rfl uncleaned
    have cleans := Shell.cleanup_finishes uncleaned finishes
    refine ⟨iff_of_true cleans yes, iff_of_false (fun h => ?_) (· yes)⟩
    obtain ⟨trouble, raised⟩ := h.raises
    exact absurd (cleans.returns.symm.trans raised) nofun
  · obtain ⟨trouble, fault⟩ := givesUp.raises
    have unreturned : (transport.close outside).1 ≠ .ok () := by
      rw [fault]
      exact nofun
    refine ⟨iff_of_false (fun h => unreturned h.returns) no, iff_of_true givesUp no, ?_⟩
    rintro t rfl uncleaned
    have breaks := Shell.cleanup_givesUp uncleaned givesUp
    refine ⟨iff_of_false (fun h => ?_) no, iff_of_true breaks no⟩
    obtain ⟨trouble, raised⟩ := breaks.raises
    exact absurd (h.returns.symm.trans raised) nofun

/-- A session whose remote side is gone when it is closed, with an error behind the hang-up. -/
theorem close_finishes_iff_gone :
    let transport := (connect { now := 0 } none "ws://c/x" [] (.initial "m" "")).2
    let outside : Outside :=
      { now := 1, send := some (.closed none none), close := some (.protocol "late") }
    Finishes transport (transport.close outside) ∧
      CleansUp { transport } (Shell.cleanup outside { transport }) := by
  intro transport outside
  have live : Live 0 transport := ⟨rfl, rfl, rfl, by decide, by decide⟩
  have parts : Parts outside transport :=
    ⟨encode_ofKind live .close [] (Nat.zero_le _) (by decide : Pack.Encodable 1), .closed none none⟩
  obtain ⟨finishes, -, cleans⟩ := @close_finishes_iff transport rfl outside
    (.closed none none) (.protocol "late")
  exact ⟨finishes.2 (.inr parts), (cleans { transport } rfl rfl).1.2 (.inr parts)⟩

/-- An error of the websocket protocol that meets the CLOSE frame: the session keeps its connection
and is not done, and neither the first stop nor the second gives the terminal back. -/
theorem close_given_up :
    let transport := (connect { now := 0 } none "ws://c/x" [] (.initial "m" "")).2
    let outside : Outside := { now := 1, send := some (.protocol "late") }
    let left := (transport.close outside).2
    (transport.close outside).1 = .error (.network (.protocol "late")) ∧
      left.link = some 0 ∧ left.done = false ∧ left.hangUps = 0 ∧
      (left.close { now := 2 }) = (.ok (), left) ∧
      (Shell.start { now := 0 } {} { transport }).map
        (fun t => ((t.stop outside).2.stop { now := 2 }).2.journal) =
        .ok [.enteredRaw, .watchedSize] := by
  decide +kernel

end EdgeSession.Terminal
