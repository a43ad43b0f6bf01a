import EdgeSession.Proofs.Session.ReadingLoop
import EdgeSession.Terminal.Shell

/-!
The steps of a terminal session. Until its end it waits; whoever meets the end, it is cleaned up and
the waiting call comes back in the same step; and from then on nothing happens any more.
-/
namespace EdgeSession.Terminal

open Transport

/-- Remote output is shown, and a CLOSE message ends the session. -/
def reader : Reader where
  shows m := m.is .stdout || m.is .stderr
  ends m := m.is .close
  writeFailure := Shell.writeFailure

theorem reader_shows {message : Message} (h : reader.shows message = true) :
    reader.ends message = false := by
  simp only [reader, Message.is, Kind.code, Bool.or_eq_true, beq_iff_eq, beq_eq_false_iff_ne] at *
  omega

namespace Shell

/-- A session whose end is waited for. -/
structure Waits (t : Shell) : Prop where
  waiting : t.waiting = true
  uncancelled : t.cancelled = false
  unfailed : t.failure = none
  uncleaned : t.cleaned = false
  unfinished : t.outcome = none

/-- A session whose end is waited for. While its loop reads, it has the connection, of which more
may be known. -/
structure Open (known : Transport → Prop) (t : Shell) : Prop extends Waits t where
  linked : t.reading = true → t.transport.isConnected = true
  knows : t.reading = true → known t.transport

/-- A session that has ended, and what `start` came to. -/
structure Over (result : Except Trouble Unit) (t : Shell) : Prop where
  waiting : t.waiting = false
  cancelled : t.cancelled = true
  cleaned : t.cleaned = true
  outcome : t.outcome = some result

/-- The same session over another transport. -/
def withTransport (transport : Transport) (t : Shell) : Shell := { t with transport }

/-- The same session once its reading loop has ended. -/
def unread (t : Shell) : Shell := { t with reading := false }

/-- Ends the session, with a failure if there is one. -/
def quit (failure? : Option Failure) (t : Shell) : Shell := failure?.elim t.finish t.fail

section
variable {t : Shell} {m : Moment} {e : Event} {result : Except Trouble Unit}
variable {known : Transport → Prop}
variable {failure? : Option Failure}

theorem Waits.withTransport (h : Waits t) (transport : Transport) :
    Waits (t.withTransport transport) :=
  ⟨h.waiting, h.uncancelled, h.unfailed, h.uncleaned, h.unfinished⟩

theorem Waits.note (h : Waits t) (act : LocalAct) : Waits (t.note act) :=
  ⟨h.waiting, h.uncancelled, h.unfailed, h.uncleaned, h.unfinished⟩

theorem Waits.unread (h : Waits t) : Waits t.unread :=
  ⟨h.waiting, h.uncancelled, h.unfailed, h.uncleaned, h.unfinished⟩

/-! ## The end -/

theorem result_eq (t : Shell) : t.result = report t.failure := by
  rw [result]
  cases t.failure <;> rfl

theorem Waits.settle (h : Waits t) (outside : Outside) : t.settle outside = t := by
  simp only [Shell.settle, h.uncancelled, Bool.and_false, Bool.false_eq_true, if_false]

/-- The waiting call closes the connection and comes back. The screen sees nothing of it. -/
theorem settle_cancelled (waiting : t.waiting = true) (cancelled : t.cancelled = true)
    (uncleaned : t.cleaned = false) (outside : Outside) :
    Over (leaving outside t.failure t.transport) (t.settle outside) ∧
      (t.settle outside).reading = t.reading ∧
      (t.settle outside).transport = (t.transport.close outside).2 ∧
      (t.settle outside).shown = t.shown := by
  simp only [settle, waiting, cancelled, Bool.and_self, if_true, cleanup, uncleaned,
    Bool.false_eq_true, if_false, leaving]
  rcases t.transport.close outside with ⟨trouble | _, transport⟩
  · exact ⟨⟨rfl, rfl, rfl, rfl⟩, rfl, rfl, rfl⟩
  · refine ⟨⟨rfl, rfl, rfl, congrArg some (result_eq _)⟩, rfl, rfl, ?_⟩
    simp [shown, note]

/-- The session is closed and the waiting call comes back, with the failure if there is one. -/
theorem Waits.settle_quit (h : Waits t) (failure? : Option Failure) (outside : Outside) :
    Over (leaving outside failure? t.transport) ((t.quit failure?).settle outside) ∧
      ((t.quit failure?).settle outside).reading = t.reading ∧
      ((t.quit failure?).settle outside).transport = (t.transport.close outside).2 ∧
      ((t.quit failure?).settle outside).shown = t.shown := by
  cases failure? with
  | none =>
    have ended := settle_cancelled (t := t.quit none) h.waiting rfl h.uncleaned outside
    rwa [show (t.quit none).failure = none from h.unfailed] at ended
  | some failure =>
    have ended := settle_cancelled (t := t.quit (some failure)) h.waiting rfl h.uncleaned outside
    have kept : (t.quit (some failure)).failure = some failure := by
      show (t.failure <|> some failure) = some failure
      rw [h.unfailed]
      rfl
    rwa [kept] at ended

theorem abandon_over (uncleaned : t.cleaned = false) (outside : Outside) (trouble : Trouble) :
    ∃ result, Over result (t.abandon outside trouble) := by
  simp only [abandon, cleanup, uncleaned, Bool.false_eq_true, if_false]
  rcases t.transport.close outside with ⟨other | _, transport⟩
  · exact ⟨_, rfl, rfl, rfl, rfl⟩
  · exact ⟨_, rfl, rfl, rfl, rfl⟩

/-- Trouble with the closing goes before what stopped the call. -/
theorem abandon_outcome (uncleaned : t.cleaned = false) (outside : Outside) (trouble : Trouble) :
    (t.abandon outside trouble).outcome =
      some ((close outside t.transport).1.bind fun _ => .error trouble) := by
  simp only [abandon, cleanup, uncleaned, Bool.false_eq_true, if_false]
  rcases t.transport.close outside with ⟨other | _, transport⟩ <;> rfl

theorem Over.settle (h : Over result t) (outside : Outside) : t.settle outside = t := by
  simp only [Shell.settle, h.waiting, Bool.false_and, Bool.false_eq_true, if_false]

/-- Nothing happens after the end, but for the phase that a late `stop` may put down. -/
theorem Over.step (h : Over result t) (m : Moment) (e : Event) :
    ∃ phase, t.step m e = { t with phase } := by
  cases e with
  | stop =>
    refine ⟨if t.phase = .raw then .closing else t.phase, ?_⟩
    have finished : Over result t.finish := ⟨h.waiting, rfl, h.cleaned, h.outcome⟩
    simp only [Shell.step, stop, cleanup, finished.cleaned, if_true, finished.settle]
    simp only [finish, h.cancelled]
  | _ =>
    refine ⟨t.phase, ?_⟩
    change t.step m _ = t
    simp only [Shell.step, readTurn, readFailed, keyTurn, keyFailed, interrupted, h.cancelled,
      h.waiting, Bool.not_true, Bool.and_false, Bool.false_eq_true, if_false, h.settle]

theorem Over.later (h : Over result t) (m : Moment) (e : Event) :
    Over result (t.step m e) ∧ (t.step m e).reading = t.reading := by
  obtain ⟨phase, same⟩ := h.step m e
  rw [same]
  exact ⟨⟨h.waiting, h.cancelled, h.cleaned, h.outcome⟩, rfl⟩

/-! ## Turns of the reading loop -/

/-- What an event brings to the reading loop, if it is one of the connection's. -/
def Event.brought : Event → Option (Option Incoming)
  | .incoming i => some (some i)
  | .readError fault => some fault.incoming?
  | _ => none

variable {message : Message} {i : Incoming}

theorem step_incoming (h : Open known t) (reading : t.reading = true)
    (brought : e.brought = some (some i)) (m : Moment) :
    t.step m e = ((t.withTransport (take m.outside i t.transport).2).readDone m
      (take m.outside i t.transport).1).settle m.outside := by
  obtain ⟨connection, link⟩ := Option.isSome_iff_exists.1 (h.linked reading)
  cases e with
  | incoming i =>
    cases brought
    simp only [step, readTurn, reading, h.uncancelled, Bool.not_false, Bool.and_self, if_true,
      read_linked link, List.head?_cons, Option.getD_some, withTransport]
  | readError fault =>
    cases fault with
    | closed received sent =>
      cases brought
      simp only [step, readFailed, reading, h.uncancelled, Bool.not_false, Bool.and_self, if_true,
        readFault, link, withTransport]
    | _ => cases brought
  | _ => cases brought

theorem step_brings (h : Open known t) (reading : t.reading = true)
    (brought : e.brought = some (some i)) (brings : Brings i message) (m : Moment) :
    t.step m e =
      ((t.withTransport (t.transport.heard message)).present m message).settle m.outside := by
  rw [step_incoming h reading brought, take_brings brings]
  rfl

theorem step_unread (h : Open known t) (reading : t.reading = true)
    (brought : e.brought = some none) (m : Moment) :
    t.step m e = t.unread.settle m.outside := by
  obtain ⟨connection, link⟩ := Option.isSome_iff_exists.1 (h.linked reading)
  cases e with
  | readError fault =>
    cases fault with
    | closed received sent => cases brought
    | _ =>
      simp only [step, readFailed, reading, h.uncancelled, Bool.not_false, Bool.and_self, if_true,
        readFault, link, readDone, unread]
  | _ => cases brought

theorem step_unreading (h : Waits t) (reading : t.reading = false) (brought : e.brought.isSome)
    (m : Moment) : t.step m e = t := by
  cases e with
  | incoming | readError =>
    simp only [step, readTurn, readFailed, reading, Bool.false_and, Bool.false_eq_true, if_false,
      h.settle]
  | _ => cases brought

theorem readDone_trouble {trouble : Trouble} (h : ∀ failure, trouble ≠ .session failure)
    (m : Moment) (t : Shell) : t.readDone m (.error trouble) = t.unread := by
  cases trouble with
  | session failure => exact absurd rfl (h failure)
  | _ => rfl

theorem readDone_report (h : Waits t) (m : Moment) (failure? : Option Failure) :
    t.readDone m ((report failure?).map fun _ => none) = t.unread.quit failure? := by
  cases failure? with
  | none => rfl
  | some failure =>
    simp only [report, Except.map, readDone, failUnlessOver, h.uncancelled, Bool.false_eq_true,
      if_false, unread]
    rfl

theorem present_ends (h : reader.ends message = true) (m : Moment) (t : Shell) :
    t.present m message = t.unread.quit none := by
  have ends : message.is .close = true := h
  simp only [present, ends, if_true]
  rfl

theorem present_shows (h : reader.shows message = true) (m : Moment) (t : Shell) :
    t.present m message =
      match m.screen with
      | none => t.note (.showed message.data)
      | some (.system text) =>
        (t.note (.refused message.data)).unread.quit (some (writeFailure text))
      | some (.foreign _) => (t.note (.refused message.data)).unread := by
  have stays : message.is .close = false := reader_shows h
  have shows : (message.is .stdout || message.is .stderr) = true := h
  simp only [present, stays, shows, Bool.false_eq_true, if_false, if_true, put]
  cases m.screen with
  | none => rfl
  | some fault => cases fault <;> rfl

theorem present_other (ends : reader.ends message = false) (shows : reader.shows message = false)
    (m : Moment) (t : Shell) : t.present m message = t := by
  have ends : message.is .close = false := ends
  have shows : (message.is .stdout || message.is .stderr) = false := shows
  simp only [present, ends, shows, Bool.false_eq_true, if_false]

theorem Waits.settle_unread (h : Waits t) (known : Transport → Prop) (outside : Outside) :
    Open known (t.unread.settle outside) ∧ (t.unread.settle outside).reading = false := by
  rw [h.unread.settle]
  exact ⟨⟨h.unread, nofun, nofun⟩, rfl⟩

/-- The loop is lost, and the session waits on. -/
theorem step_loses (h : Open known t) (reading : t.reading = true) {met : Option Incoming}
    (brought : e.brought = some met) (loses : Loses reader m.outside m.screen t.transport met) :
    Open known (t.step m e) ∧ (t.step m e).reading = false := by
  cases loses with
  | unread =>
    rw [step_unread h reading brought]
    exact h.settle_unread known _
  | unshown brings shows fault =>
    rw [step_brings h reading brought brings, present_shows shows, fault]
    exact ((h.toWaits.withTransport _).note _).settle_unread known _
  | unclosed closes fault =>
    rw [step_incoming h reading brought m, take_closes closes, leaving_of_error fault]
    simp only [Except.map, readDone_trouble (close_error fault)]
    exact (h.toWaits.withTransport _).settle_unread known _

/-- The connection is closed, and then the session ends. -/
theorem step_closes (h : Open known t) (reading : t.reading = true)
    (brought : e.brought = some (some i)) (closes : Closes t.transport i failure?)
    (ok : (t.transport.close m.outside).1 = .ok ()) :
    Over (report failure?) (t.step m e) ∧ (t.step m e).reading = false ∧
      (t.step m e).transport = (t.transport.close m.outside).2.keep failure? ∧
      (t.step m e).shown = t.shown := by
  have again : ((t.transport.close m.outside).2.keep failure?).closed = true := by
    rw [keep_closed, close_closed]
  have closed := close_again again m.outside
  rw [step_incoming h reading brought, take_closes closes, leaving_of_ok ok,
    readDone_report (h.toWaits.withTransport _)]
  obtain ⟨finished, unread, transport, shown⟩ :=
    (h.toWaits.withTransport
      ((t.transport.close m.outside).2.keep failure?)).unread.settle_quit failure?
      m.outside
  change Over (leaving m.outside failure? ((t.transport.close m.outside).2.keep failure?)) _
    at finished
  rw [leaving_of_ok (congrArg Prod.fst closed)] at finished
  exact ⟨finished, unread, transport.trans (congrArg Prod.snd closed), shown⟩

/-- The session ends, and the waiting call comes back. -/
theorem step_stops (h : Open known t) (reading : t.reading = true) {left : Transport}
    (brought : e.brought = some (some i))
    (stops : Stops reader m.screen t.transport i failure? left)
    (kept : ¬Loses reader m.outside m.screen t.transport (some i)) :
    Over (leaving m.outside failure? left) (t.step m e) ∧ (t.step m e).reading = false := by
  cases stops with
  | closes closes =>
    have ok : (t.transport.close m.outside).1 = .ok () := by
      cases fault : (t.transport.close m.outside).1 with
      | ok => rfl
      | error trouble => exact absurd (.unclosed closes fault) kept
    obtain ⟨finished, unread, -⟩ := step_closes h reading brought closes ok
    rw [leaving_of_ok ok]
    exact ⟨finished, unread⟩
  | parted brings ends =>
    rw [step_brings h reading brought brings, present_ends ends]
    obtain ⟨finished, unread, -⟩ := (h.toWaits.withTransport _).unread.settle_quit none m.outside
    exact ⟨finished, unread⟩
  | refused brings shows stays fault =>
    rw [step_brings h reading brought brings, present_shows shows, fault]
    obtain ⟨finished, unread, -⟩ :=
      ((h.toWaits.withTransport _).note _).unread.settle_quit (some (writeFailure _)) m.outside
    exact ⟨finished, unread⟩

theorem Open.heard (h : Open known t) (reading : t.reading = true)
    (keeps : known t.transport → known (t.transport.heard message)) :
    Open known (t.withTransport (t.transport.heard message)) :=
  ⟨h.toWaits.withTransport _, fun _ => (heard_isConnected ..).trans (h.linked reading),
    fun _ => keeps (h.knows reading)⟩

/-- The loop reads on. -/
theorem step_reads (h : Open known t) (reading : t.reading = true) (brought : e.brought.isSome)
    (kept : ∀ met, e.brought = some met → ¬Loses reader m.outside m.screen t.transport met)
    (goes : ∀ i failure? left, e.brought = some (some i) →
      ¬Stops reader m.screen t.transport i failure? left)
    (keeps : ∀ i message, e.brought = some (some i) → Brings i message →
      known t.transport → known (t.transport.heard message)) :
    Open known (t.step m e) ∧ (t.step m e).reading = true := by
  obtain ⟨_ | i, brought⟩ := Option.isSome_iff_exists.1 brought
  · exact absurd .unread (kept none brought)
  · obtain ⟨message, brings⟩ | ⟨failure?, closes⟩ := brings_or_closes t.transport i
    · have stays : reader.ends message = false := by
        cases ends : reader.ends message with
        | false => rfl
        | true => exact absurd (.parted brings ends) (goes i none _ brought)
      have heard := h.heard reading (keeps i message brought brings)
      rw [step_brings h reading brought brings]
      cases shows : reader.shows message with
      | false =>
        rw [present_other stays shows, heard.toWaits.settle]
        exact ⟨heard, reading⟩
      | true =>
        rw [present_shows shows]
        cases screen : m.screen with
        | none =>
          have shown := heard.toWaits.note (.showed message.data)
          dsimp only
          rw [shown.settle]
          exact ⟨⟨shown, heard.linked, heard.knows⟩, reading⟩
        | some fault =>
          cases fault with
          | system text => exact absurd (.refused brings shows stays screen) (goes _ _ _ brought)
          | foreign text => exact absurd (.unshown brings shows screen) (kept _ brought)
    · exact absurd (.closes closes) (goes i failure? _ brought)

end
end Shell
end EdgeSession.Terminal
