import EdgeSession.Proofs.Terminal.Turns

/-!
What the operator does to a terminal session that waits for its end, and how a session begins.
-/
namespace EdgeSession.Terminal

open Transport

namespace Shell

/-- The same session once its typing loop has ended. -/
def untyped (t : Shell) : Shell := { t with typing := false }

/-- A session that is waited for and whose loop reads on or does not; or one that has ended. -/
def OpenOrOver (known : Transport → Prop) (reading : Bool) (t : Shell) : Prop :=
  (Open known t ∧ t.reading = reading) ∨ ∃ result, Over result t

/-- What is known of a connection stays so when something is sent. -/
def Kept (known : Transport → Prop) : Prop :=
  ∀ outside message t, known t → known (send outside message t).2

section
variable {t : Shell} {m : Moment} {e : Event} {known : Transport → Prop}

/-! ## Keys -/

theorem forward_state (m : Moment) (data : Bytes) (t : Shell) :
    (t.forward m data).2 =
      { t with
        line := t.line.trackAll data
        transport := (t.transport.send m.outside (.ofKind .stdin data m.outside.now)).2 } := by
  simp only [forward]
  rcases t.transport.send m.outside (.ofKind .stdin data m.outside.now) with
    ⟨trouble | _, transport⟩ <;> rfl

theorem echo_frame (m : Moment) (bytes : Bytes) (ends : Bool) (t : Shell) :
    ∃ journal, (t.echo m bytes ends).2 = { t with journal } := by
  simp only [echo, put]
  cases m.screen with
  | none => exact ⟨_, rfl⟩
  | some fault => cases fault <;> exact ⟨_, rfl⟩

/-- Keys are handled on the line, the screen and the connection, on which at most a message is
sent. -/
theorem handle_frame (m : Moment) (data : Bytes) (t : Shell) :
    ∃ line lastInterrupt journal transport,
      (t.handle m data).2 = { t with line, lastInterrupt, journal, transport } ∧
      (transport = t.transport ∨
        ∃ message, transport = (t.transport.send m.outside message).2) := by
  cases data with
  | nil => exact ⟨_, _, _, _, rfl, .inl rfl⟩
  | cons first rest =>
    simp only [handle]
    split
    · simp only [interrupt]
      split
      · obtain ⟨journal, echoed⟩ := echo_frame m exitingText true t
        exact ⟨_, _, _, _, echoed, .inl rfl⟩
      · obtain ⟨journal, echoed⟩ := echo_frame m interruptText false
          { t with lastInterrupt := some m.clock, line := .cleared }
        exact ⟨_, _, _, _, echoed, .inl rfl⟩
    · split
      · obtain ⟨journal, echoed⟩ := echo_frame m exitText true t
        exact ⟨_, _, _, _, echoed, .inl rfl⟩
      · exact ⟨_, _, _, _, forward_state m _ t, .inr ⟨_, rfl⟩⟩

theorem Open.handle (h : Open known t) (kept : Kept known) (m : Moment) (data : Bytes) :
    Open known (t.handle m data).2 ∧ (t.handle m data).2.reading = t.reading := by
  obtain ⟨line, lastInterrupt, journal, transport, same, sent⟩ := handle_frame m data t
  rw [same]
  refine ⟨⟨⟨h.waiting, h.uncancelled, h.unfailed, h.uncleaned, h.unfinished⟩, fun reading => ?_,
    fun reading => ?_⟩, rfl⟩
  · obtain rfl | ⟨message, rfl⟩ := sent
    · exact h.linked reading
    · exact (send_isConnected ..).trans (h.linked reading)
  · obtain rfl | ⟨message, rfl⟩ := sent
    · exact h.knows reading
    · exact kept _ _ _ (h.knows reading)

theorem Waits.untyped (h : Waits t) : Waits t.untyped :=
  ⟨h.waiting, h.uncancelled, h.unfailed, h.uncleaned, h.unfinished⟩

theorem Open.untyped (h : Open known t) : Open known t.untyped :=
  ⟨h.toWaits.untyped, h.linked, h.knows⟩

theorem Open.settle_either (h : Open known t) (outside : Outside) :
    OpenOrOver known t.reading (t.settle outside) := by
  rw [h.toWaits.settle]
  exact .inl ⟨h, rfl⟩

theorem Open.quit_either (h : Open known t) (failure? : Option Failure) (outside : Outside) :
    OpenOrOver known t.reading ((t.quit failure?).settle outside) :=
  .inr ⟨_, (h.toWaits.settle_quit failure? outside).1⟩

/-- Keys that go to the remote side. -/
def Forwards (t : Shell) (data : Bytes) : Prop :=
  ∃ first rest, data = first :: rest ∧ first ≠ interruptKey ∧
    (first = endKey → t.line.isEmpty = false)

theorem handle_forwards {data : Bytes} (h : t.Forwards data) (m : Moment) :
    t.handle m data = t.forward m data := by
  obtain ⟨first, rest, rfl, interrupts, ends⟩ := h
  simp only [handle, interrupts, if_false]
  rw [if_neg]
  intro both
  obtain ⟨isEnd, empty⟩ := Bool.and_eq_true_iff.1 both
  rw [ends (of_decide_eq_true isEnd)] at empty
  cases empty

theorem keyDone_failure (h : Waits t) (failure : Failure) :
    t.keyDone (.error (.session (.session failure))) = t.untyped.quit (some failure) := by
  simp only [keyDone, failUnlessOver, h.uncancelled, Bool.false_eq_true, if_false]
  rfl

/-- What a key comes to leaves the session as it is, or ends the typing loop, or the session. -/
theorem keyDone_cases (h : Waits t) (result : Except KeyTrouble Bool) :
    t.keyDone result = t ∨ t.keyDone result = t.untyped ∨
      ∃ failure?, t.keyDone result = t.untyped.quit failure? := by
  rcases result with (⟨failure | fault | _ | _⟩ | text) | (_ | _)
  · exact .inr (.inr ⟨some failure, keyDone_failure h failure⟩)
  · cases fault with
    | system kind text => exact .inr (.inr ⟨some (writeFailure text), rfl⟩)
    | _ => exact .inr (.inl rfl)
  · exact .inr (.inl rfl)
  · exact .inr (.inl rfl)
  · exact .inr (.inr ⟨some (writeFailure text), rfl⟩)
  · exact .inl rfl
  · exact .inr (.inr ⟨none, rfl⟩)

theorem step_key (h : Open known t) (kept : Kept known) (m : Moment) (data : Bytes) :
    OpenOrOver known t.reading (t.step m (.key data)) := by
  simp only [step, keyTurn]
  split
  · split
    · exact h.untyped.settle_either m.outside
    · obtain ⟨handled, same⟩ := h.handle kept m data
      obtain done | done | ⟨failure?, done⟩ :=
        keyDone_cases handled.toWaits (t.handle m data).1 <;> rw [done, ← same]
      · exact handled.settle_either m.outside
      · exact handled.untyped.settle_either m.outside
      · exact handled.untyped.quit_either failure? m.outside
  · exact h.settle_either m.outside

/-! ## Other events -/

theorem stop_over (h : Waits t) (outside : Outside) :
    ∃ result, Over result ((t.stop outside).2.settle outside) := by
  have uncleaned : t.finish.cleaned = false := h.uncleaned
  simp only [stop, cleanup, uncleaned, Bool.false_eq_true, if_false]
  rcases t.finish.transport.close outside with ⟨trouble | _, transport⟩
  · simp only [settle, finish, h.waiting, Bool.and_self, if_true, cleanup]
    exact ⟨_, rfl, rfl, rfl, rfl⟩
  · simp only [settle, finish, note, h.waiting, Bool.and_self, if_true, cleanup]
    exact ⟨_, rfl, rfl, rfl, rfl⟩

/-- What is none of the connection's leaves the reading loop alone, or ends the session. -/
theorem step_other (h : Open known t) (kept : Kept known) (brought : e.brought = none)
    (m : Moment) :
    OpenOrOver known t.reading (t.step m e) := by
  cases e with
  | incoming | readError => cases brought
  | key data => exact step_key h kept m data
  | keyError text =>
    simp only [step, keyFailed]
    split
    · exact h.untyped.quit_either (some (readFailure text)) m.outside
    · exact h.settle_either m.outside
  | stop => exact .inr (stop_over h.toWaits m.outside)
  | interrupt =>
    obtain ⟨result, finished⟩ := abandon_over h.uncleaned m.outside (.network .interrupted)
    simp only [step, interrupted, h.waiting, if_true, finished.settle]
    exact .inr ⟨result, finished⟩
  | resize columns rows => exact h.settle_either m.outside

/-! ## The beginning -/

/-- A session that nothing stands in the way of, over a connection without a failure. -/
def begun (transport : Transport) : Shell :=
  { transport, phase := .raw, reading := true, typing := true, waiting := true,
    journal := [.enteredRaw, .watchedSize] }

theorem start_begun {transport : Transport} (connected : transport.isConnected = true)
    (clean : transport.sticky = none) (outside : Outside) :
    start outside {} { transport } = .ok (begun transport) := by
  obtain ⟨connection, link⟩ := Option.isSome_iff_exists.1 connected
  rcases transport with ⟨target, session, link', opened, closed, sticky, done, journal⟩
  cases link
  cases clean
  rfl

theorem begun_open {transport : Transport} (connected : transport.isConnected = true)
    (knows : known transport) : Open known (begun transport) :=
  ⟨⟨rfl, rfl, rfl, rfl, rfl⟩, fun _ => connected, fun _ => knows⟩

/-- A call of `start` waits, or comes back at once. -/
theorem start_cases (known : Transport → Prop) {transport : Transport}
    (knows : known transport) (outside : Outside)
    (hindrance : Hindrance) :
    ∃ t, start outside hindrance { transport } = .ok t ∧
      ((Open known t ∧ t.reading = true) ∨ ∃ result, Over result t) := by
  rcases hindrance with ⟨_ | text, _ | trouble⟩
  · cases clean : transport.sticky with
    | none =>
      cases connected : transport.isConnected with
      | true =>
        exact ⟨_, start_begun connected clean outside, .inl ⟨begun_open connected knows, rfl⟩⟩
      | false =>
        refine ⟨_, rfl, .inr ?_⟩
        simp only [checkSticky, launch, enter, note, clean, firstRead, connected,
          Bool.false_eq_true, if_false, failUnlessOver]
        exact ⟨_, (settle_cancelled rfl rfl rfl outside).1⟩
    | some failure =>
      refine ⟨_, rfl, .inr ?_⟩
      simp only [checkSticky, launch, enter, note, clean, firstRead]
      split
      · exact ⟨_, (settle_cancelled rfl rfl rfl outside).1⟩
      · exact ⟨_, (settle_cancelled rfl rfl rfl outside).1⟩
  · exact ⟨_, rfl, .inr (abandon_over rfl outside trouble)⟩
  · exact ⟨_, rfl, .inr (abandon_over rfl outside (.session (.localTerminal text)))⟩
  · exact ⟨_, rfl, .inr (abandon_over rfl outside (.session (.localTerminal text)))⟩

end
end Shell

/-! ## Runs -/

def controller : Machine Shell Moment Shell.Event where
  reader := reader
  step := Shell.step
  standing t := ⟨t.reading, t.cancelled, t.waiting, t.outcome⟩
  transport := Shell.transport
  outside := Moment.outside
  screen := Moment.screen
  brought := Shell.Event.brought

theorem laws : controller.Laws (Shell.Open fun _ => True) Shell.Over where
  alive_standing t h := by
    simp only [controller, Machine.reads, h.uncancelled, h.waiting, h.unfinished]
    cases t.reading <;> rfl
  returned_standing t result h := ⟨h.cancelled, h.waiting, h.outcome⟩
  returned_step t m e result h := h.later m e
  other_step t m e h brought := Shell.step_other h (fun _ _ _ => id) brought m
  lost_step t m e h ended brought := Shell.step_unreading h.toWaits ended brought m
  loses t m e h reads := fun ⟨met, brought, loses⟩ => Shell.step_loses h reads brought loses
  stops t m e failure? left h reads := fun ⟨i, brought, stops⟩ kept =>
    Shell.step_stops h reads brought stops fun loses => kept ⟨_, brought, loses⟩
  goes t m e h reads brought kept goes :=
    Shell.step_reads h reads brought (fun met heard loses => kept ⟨met, heard, loses⟩)
      (fun i failure? left heard stops => goes failure? left ⟨i, heard, stops⟩)
      fun _ _ _ _ => id

end EdgeSession.Terminal
