import EdgeSession.LogTail.Stream
import EdgeSession.Proofs.Session.ReadingLoop

/-!
The steps of a log session. Until its end it waits; whoever meets the end, it is cleaned up and the
waiting call comes back in the same step; and from then on nothing happens any more.
-/
namespace EdgeSession.LogTail

open Transport

/-- Lines are shown, and so is an error, which ends the session as the end of the stream does. -/
def reader : Reader where
  shows m := m.is .logLine || m.is .logError
  ends m := m.is .logStop || m.is .logError
  writeFailure := Stream.writeFailure

namespace Stream

/-- A session whose end is waited for. -/
structure Waits (s : Stream) : Prop where
  waiting : s.waiting = true
  uncancelled : s.cancelled = false
  unfailed : s.failure = none
  uncleaned : s.cleaned = false
  unfinished : s.outcome = none

/-- A session whose end is waited for. While its loop reads, it has the connection. -/
structure Open (s : Stream) : Prop extends Waits s where
  linked : s.reading = true → s.transport.isConnected = true

/-- A session that has ended, and what `start` came to. -/
structure Over (result : Except Trouble Unit) (s : Stream) : Prop where
  waiting : s.waiting = false
  cancelled : s.cancelled = true
  cleaned : s.cleaned = true
  outcome : s.outcome = some result

/-- The same session over another transport. -/
def withTransport (transport : Transport) (s : Stream) : Stream := { s with transport }

/-- The same session once its reading loop has ended. -/
def unread (s : Stream) : Stream := { s with reading := false }

def note (output : Output) (s : Stream) : Stream := { s with journal := s.journal ++ [output] }

/-- Ends the session, with a failure if there is one. -/
def quit (failure? : Option Failure) (s : Stream) : Stream := failure?.elim s.finish s.fail

section
variable {s : Stream} {m : Moment} {e : Event} {result : Except Trouble Unit}
variable {failure? : Option Failure}

theorem Waits.withTransport (h : Waits s) (transport : Transport) :
    Waits (s.withTransport transport) :=
  ⟨h.waiting, h.uncancelled, h.unfailed, h.uncleaned, h.unfinished⟩

theorem Waits.note (h : Waits s) (output : Output) : Waits (s.note output) :=
  ⟨h.waiting, h.uncancelled, h.unfailed, h.uncleaned, h.unfinished⟩

theorem Waits.unread (h : Waits s) : Waits s.unread :=
  ⟨h.waiting, h.uncancelled, h.unfailed, h.uncleaned, h.unfinished⟩

/-! ## The end -/

theorem result_eq (s : Stream) : s.result = report s.failure := by
  rw [result]
  cases s.failure <;> rfl

theorem Waits.settle (h : Waits s) (outside : Outside) : s.settle outside = s := by
  simp only [Stream.settle, h.uncancelled, Bool.and_false, Bool.false_eq_true, if_false]

/-- The waiting call closes the connection and comes back. -/
theorem settle_cancelled (waiting : s.waiting = true) (cancelled : s.cancelled = true)
    (uncleaned : s.cleaned = false) (outside : Outside) :
    Over (leaving outside s.failure s.transport) (s.settle outside) ∧
      (s.settle outside).reading = s.reading := by
  simp only [settle, waiting, cancelled, Bool.and_self, if_true, cleanup, uncleaned,
    Bool.false_eq_true, if_false, leaving]
  rcases s.transport.close outside with ⟨trouble | _, transport⟩
  · exact ⟨⟨rfl, rfl, rfl, rfl⟩, rfl⟩
  · exact ⟨⟨rfl, rfl, rfl, congrArg some (result_eq _)⟩, rfl⟩

/-- The session is closed and the waiting call comes back, with the failure if there is one. A
closure in good order would not count as one. -/
theorem Waits.settle_quit (h : Waits s) (failure? : Option Failure)
    (counts : ∀ failure, failure? = some failure → failure.isGraceful = false)
    (outside : Outside) :
    Over (leaving outside failure? s.transport) ((s.quit failure?).settle outside) ∧
      ((s.quit failure?).settle outside).reading = s.reading := by
  cases failure? with
  | none =>
    have ended := settle_cancelled (s := s.quit none) h.waiting rfl h.uncleaned outside
    rwa [show (s.quit none).failure = none from h.unfailed] at ended
  | some failure =>
    have failed : s.quit (some failure) = { s with failure := some failure }.finish := by
      simp only [quit, Option.elim, fail, counts failure rfl, Bool.false_eq_true, if_false,
        h.unfailed]
      rfl
    rw [failed]
    exact settle_cancelled (s := { s with failure := some failure }.finish) h.waiting rfl
      h.uncleaned outside

theorem Over.settle (h : Over result s) (outside : Outside) : s.settle outside = s := by
  simp only [Stream.settle, h.waiting, Bool.false_and, Bool.false_eq_true, if_false]

/-- Nothing happens after the end. -/
theorem Over.step (h : Over result s) (m : Moment) (e : Event) : s.step m e = s := by
  cases e with
  | stop =>
    have finished : s.finish = s := by rw [finish, ← h.cancelled]
    simp only [Stream.step, stop, finished, cleanup, h.cleaned, if_true, h.settle]
  | _ =>
    simp only [Stream.step, readTurn, readFailed, interrupted, h.cancelled, h.waiting,
      Bool.not_true, Bool.and_false, Bool.false_eq_true, if_false, h.settle]

/-! ## Turns of the reading loop -/

/-- What an event brings to the reading loop, if it is one of the connection's. -/
def Event.brought : Event → Option (Option Incoming)
  | .incoming i => some (some i)
  | .readError fault => some fault.incoming?
  | _ => none

variable {message : Message} {i : Incoming}

theorem step_incoming (h : Open s) (reading : s.reading = true)
    (brought : e.brought = some (some i)) (m : Moment) :
    s.step m e = ((s.withTransport (take m.outside i s.transport).2).readDone m
      (take m.outside i s.transport).1).settle m.outside := by
  obtain ⟨connection, link⟩ := Option.isSome_iff_exists.1 (h.linked reading)
  cases e with
  | incoming i =>
    cases brought
    simp only [step, readTurn, reading, h.uncancelled, Bool.not_false, Bool.and_self, if_true,
      read_linked link, List.head?_cons, Option.getD_some, withTransport]
  | readError fault =>
    cases fault with
    | closed received sent =>
      cases brought
      simp only [step, readFailed, reading, h.uncancelled, Bool.not_false, Bool.and_self, if_true,
        readFault, link, withTransport]
    | _ => cases brought
  | _ => cases brought

theorem step_brings (h : Open s) (reading : s.reading = true)
    (brought : e.brought = some (some i)) (brings : Brings i message) (m : Moment) :
    s.step m e =
      ((s.withTransport (s.transport.heard message)).present m message).settle m.outside := by
  rw [step_incoming h reading brought, take_brings brings]
  rfl

theorem step_unread (h : Open s) (reading : s.reading = true) (brought : e.brought = some none)
    (m : Moment) : s.step m e = s.unread.settle m.outside := by
  obtain ⟨connection, link⟩ := Option.isSome_iff_exists.1 (h.linked reading)
  cases e with
  | readError fault =>
    cases fault with
    | closed received sent => cases brought
    | _ =>
      simp only [step, readFailed, reading, h.uncancelled, Bool.not_false, Bool.and_self, if_true,
        readFault, link, readDone, unread]
  | _ => cases brought

theorem step_unreading (h : Waits s) (reading : s.reading = false) (brought : e.brought.isSome)
    (m : Moment) : s.step m e = s := by
  cases e with
  | incoming | readError =>
    simp only [step, readTurn, readFailed, reading, Bool.false_and, Bool.false_eq_true, if_false,
      h.settle]
  | _ => cases brought

theorem readDone_trouble {trouble : Trouble} (h : ∀ failure, trouble ≠ .session failure)
    (m : Moment) (s : Stream) : s.readDone m (.error trouble) = s.unread := by
  cases trouble with
  | session failure => exact absurd rfl (h failure)
  | _ => rfl

theorem readDone_report (h : Waits s) (m : Moment) (failure? : Option Failure) :
    s.readDone m ((report failure?).map fun _ => none) = s.unread.quit failure? := by
  cases failure? with
  | none => rfl
  | some failure =>
    simp only [report, Except.map, readDone, failUnlessOver, h.uncancelled, Bool.false_eq_true,
      if_false, unread]
    rfl

/-- What the screen is given of a message. -/
def rendered (message : Message) : Bytes :=
  if message.is .logLine then renderLine message.data else renderError message.data

/-- A line ends nothing. -/
theorem reader_line (h : message.is .logLine = true) : reader.ends message = false := by
  simp only [reader, Message.is, Kind.code, Bool.or_eq_false_iff, beq_iff_eq,
    beq_eq_false_iff_ne] at *
  omega

/-- An error is no stop. -/
theorem error_not_stop (h : message.is .logError = true) : message.is .logStop = false := by
  simp only [Message.is, Kind.code, beq_iff_eq, beq_eq_false_iff_ne] at *
  omega

/-- An error that the screen does not take ends the session as one that it takes. -/
theorem present_shows (h : reader.shows message = true) (m : Moment) (s : Stream) :
    s.present m message =
      match m.screen with
      | none =>
        if reader.ends message then (s.note (.showed (rendered message))).unread.quit none
        else s.note (.showed (rendered message))
      | some (.system text) =>
        (s.note (.refused (rendered message))).unread.quit
          (if reader.ends message then none else some (writeFailure text))
      | some (.foreign _) => (s.note (.refused (rendered message))).unread := by
  cases line : message.is .logLine with
  | true =>
    simp only [present, rendered, reader_line line, line, if_true, put, Bool.false_eq_true,
      if_false]
    cases m.screen with
    | none => rfl
    | some fault => cases fault <;> rfl
  | false =>
    have error : message.is .logError = true := by simpa [reader, line] using h
    have ends : reader.ends message = true := by simp [reader, error]
    simp only [present, rendered, line, error_not_stop error, error, ends, if_true, put,
      Bool.false_eq_true, if_false]
    cases m.screen with
    | none => rfl
    | some fault => cases fault <;> rfl

theorem present_quiet (h : reader.shows message = false) (m : Moment) (s : Stream) :
    s.present m message = if reader.ends message then s.unread.quit none else s := by
  obtain ⟨line, error⟩ := Bool.or_eq_false_iff.1 h
  simp only [present, reader, line, error, Bool.false_eq_true, if_false, Bool.or_false]
  rfl

theorem Waits.settle_unread (h : Waits s) (outside : Outside) :
    Open (s.unread.settle outside) ∧ (s.unread.settle outside).reading = false := by
  rw [h.unread.settle]
  exact ⟨⟨h.unread, nofun⟩, rfl⟩

theorem Waits.quit_over (h : Waits s) (outside : Outside) :
    Over (leaving outside none s.transport) ((s.unread.quit none).settle outside) ∧
      ((s.unread.quit none).settle outside).reading = false :=
  h.unread.settle_quit none nofun outside

/-- The loop is lost, and the session waits on. -/
theorem step_loses (h : Open s) (reading : s.reading = true) {met : Option Incoming}
    (brought : e.brought = some met) (loses : Loses reader m.outside m.screen s.transport met) :
    Open (s.step m e) ∧ (s.step m e).reading = false := by
  cases loses with
  | unread =>
    rw [step_unread h reading brought]
    exact h.settle_unread _
  | unshown brings shows fault =>
    rw [step_brings h reading brought brings, present_shows shows, fault]
    exact ((h.toWaits.withTransport _).note _).settle_unread _
  | unclosed closes fault =>
    rw [step_incoming h reading brought m, take_closes closes, leaving_of_error fault]
    simp only [Except.map, readDone_trouble (close_error fault)]
    exact (h.toWaits.withTransport _).settle_unread _

/-- The session ends, and the waiting call comes back. -/
theorem step_stops (h : Open s) (reading : s.reading = true) {left : Transport}
    (brought : e.brought = some (some i))
    (stops : Stops reader m.screen s.transport i failure? left)
    (kept : ¬Loses reader m.outside m.screen s.transport (some i)) :
    Over (leaving m.outside failure? left) (s.step m e) ∧ (s.step m e).reading = false := by
  cases stops with
  | closes closes =>
    have ok : (s.transport.close m.outside).1 = .ok () := by
      cases fault : (s.transport.close m.outside).1 with
      | ok => rfl
      | error trouble => exact absurd (.unclosed closes fault) kept
    have again : ((s.transport.close m.outside).2.keep failure?).closed = true := by
      rw [keep_closed, close_closed]
    rw [step_incoming h reading brought, take_closes closes, leaving_of_ok ok,
      readDone_report (h.toWaits.withTransport _)]
    obtain ⟨finished, unread⟩ :=
      (h.toWaits.withTransport _).unread.settle_quit failure? closes.not_graceful m.outside
    change Over (leaving m.outside failure? ((s.transport.close m.outside).2.keep failure?)) _
      at finished
    rw [leaving_of_ok (congrArg Prod.fst (close_again again m.outside))] at finished
    exact ⟨finished, unread⟩
  | parted brings ends =>
    rw [step_brings h reading brought brings]
    cases shows : reader.shows _ with
    | false =>
      rw [present_quiet shows, if_pos ends]
      exact (h.toWaits.withTransport _).quit_over m.outside
    | true =>
      rw [present_shows shows]
      cases screen : m.screen with
      | none =>
        dsimp only
        rw [if_pos ends]
        exact ((h.toWaits.withTransport _).note _).quit_over m.outside
      | some fault =>
        cases fault with
        | system text =>
          dsimp only
          rw [if_pos ends]
          exact ((h.toWaits.withTransport _).note _).quit_over m.outside
        | foreign text => exact absurd (.unshown brings shows screen) kept
  | refused brings shows stays fault =>
    rw [step_brings h reading brought brings, present_shows shows, fault]
    simp only [stays, Bool.false_eq_true, if_false]
    exact ((h.toWaits.withTransport _).note _).unread.settle_quit (some (writeFailure _))
      (fun _ same => by cases same; rfl) m.outside

theorem Open.heard (h : Open s) (reading : s.reading = true) (message : Message) :
    Open (s.withTransport (s.transport.heard message)) :=
  ⟨h.toWaits.withTransport _, fun _ => (heard_isConnected ..).trans (h.linked reading)⟩

/-- The loop reads on. -/
theorem step_reads (h : Open s) (reading : s.reading = true) (brought : e.brought.isSome)
    (kept : ∀ met, e.brought = some met → ¬Loses reader m.outside m.screen s.transport met)
    (goes : ∀ i failure? left, e.brought = some (some i) →
      ¬Stops reader m.screen s.transport i failure? left) :
    Open (s.step m e) ∧ (s.step m e).reading = true := by
  obtain ⟨_ | i, brought⟩ := Option.isSome_iff_exists.1 brought
  · exact absurd .unread (kept none brought)
  · obtain ⟨message, brings⟩ | ⟨failure?, closes⟩ := brings_or_closes s.transport i
    · have stays : reader.ends message = false := by
        cases ends : reader.ends message with
        | false => rfl
        | true => exact absurd (.parted brings ends) (goes i none _ brought)
      have heard := h.heard reading message
      rw [step_brings h reading brought brings]
      cases shows : reader.shows message with
      | false =>
        rw [present_quiet shows, stays, if_neg Bool.false_ne_true, heard.toWaits.settle]
        exact ⟨heard, reading⟩
      | true =>
        rw [present_shows shows]
        cases screen : m.screen with
        | none =>
          have shown := heard.toWaits.note (.showed (rendered message))
          simp only [stays, Bool.false_eq_true, if_false]
          rw [shown.settle]
          exact ⟨⟨shown, heard.linked⟩, reading⟩
        | some fault =>
          cases fault with
          | system text => exact absurd (.refused brings shows stays screen) (goes _ _ _ brought)
          | foreign text => exact absurd (.unshown brings shows screen) (kept _ brought)
    · exact absurd (.closes closes) (goes i failure? _ brought)

/-! ## Other events -/

theorem stop_over (h : Waits s) (outside : Outside) :
    ∃ result, Over result ((s.stop outside).2.settle outside) := by
  have uncleaned : s.finish.cleaned = false := h.uncleaned
  simp only [stop, cleanup, uncleaned, Bool.false_eq_true, if_false]
  rcases s.finish.transport.close outside with ⟨trouble | _, transport⟩
  · simp only [settle, finish, h.waiting, Bool.and_self, if_true, cleanup]
    exact ⟨_, rfl, rfl, rfl, rfl⟩
  · simp only [settle, finish, h.waiting, Bool.and_self, if_true, cleanup]
    exact ⟨_, rfl, rfl, rfl, rfl⟩

/-- What is none of the connection's ends the session. -/
theorem step_other (h : Waits s) (brought : e.brought = none) (m : Moment) :
    ∃ result, Over result (s.step m e) := by
  cases e with
  | incoming | readError => cases brought
  | stop => exact stop_over h m.outside
  | interrupt =>
    simp only [step, interrupted, h.waiting, if_true, cleanup, h.uncleaned, Bool.false_eq_true,
      if_false]
    rcases s.transport.close m.outside with ⟨trouble | _, transport⟩
    · exact ⟨_, rfl, rfl, rfl, rfl⟩
    · exact ⟨_, rfl, rfl, rfl, rfl⟩

/-! ## The beginning -/

/-- A call of `start` waits, or comes back at once. -/
theorem start_cases (transport : Transport) (outside : Outside) :
    ∃ s, start outside { transport } = .ok s ∧
      ((Open s ∧ s.reading = true) ∨ ∃ result, Over result s) := by
  refine ⟨_, rfl, ?_⟩
  cases clean : transport.sticky with
  | none =>
    cases connected : transport.isConnected with
    | true =>
      have waits : Open { transport, phase := .streaming, reading := true, waiting := true } :=
        ⟨⟨rfl, rfl, rfl, rfl, rfl⟩, fun _ => connected⟩
      simp only [checkSticky, launch, clean, firstRead, connected, if_true]
      rw [waits.toWaits.settle]
      exact .inl ⟨waits, rfl⟩
    | false =>
      simp only [checkSticky, launch, clean, firstRead, connected, Bool.false_eq_true, if_false,
        failUnlessOver]
      exact .inr ⟨_, (settle_cancelled rfl rfl rfl outside).1⟩
  | some failure =>
    simp only [checkSticky, launch, clean, firstRead, fail]
    split <;> split <;> exact .inr ⟨_, (settle_cancelled rfl rfl rfl outside).1⟩

end
end Stream

/-! ## Runs -/

def controller : Machine Stream Moment Stream.Event where
  reader := reader
  step := Stream.step
  standing s := ⟨s.reading, s.cancelled, s.waiting, s.outcome⟩
  transport := Stream.transport
  outside := Moment.outside
  screen := Moment.screen
  brought := Stream.Event.brought

theorem laws : controller.Laws Stream.Open Stream.Over where
  alive_standing s h := by
    simp only [controller, Machine.reads, h.uncancelled, h.waiting, h.unfinished]
    cases s.reading <;> rfl
  returned_standing s result h := ⟨h.cancelled, h.waiting, h.outcome⟩
  returned_step s m e result h := by
    have same : controller.step m e s = s := h.step m e
    rw [same]
    exact ⟨h, rfl⟩
  other_step s m e h brought := .inr (Stream.step_other h.toWaits brought m)
  lost_step s m e h ended brought := Stream.step_unreading h.toWaits ended brought m
  loses s m e h reads := fun ⟨met, brought, loses⟩ => Stream.step_loses h reads brought loses
  stops s m e failure? left h reads := fun ⟨i, brought, stops⟩ kept =>
    Stream.step_stops h reads brought stops fun loses => kept ⟨_, brought, loses⟩
  goes s m e h reads brought kept goes :=
    Stream.step_reads h reads brought (fun met heard loses => kept ⟨met, heard, loses⟩)
      fun i failure? left heard stops => goes failure? left ⟨i, heard, stops⟩

end EdgeSession.LogTail
