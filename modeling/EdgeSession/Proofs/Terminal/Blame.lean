import EdgeSession.Proofs.Session.Connections
import EdgeSession.Proofs.Terminal.Keys

/-!
When the local terminal is blamed for the end of a session: where it cannot be made raw, a key cannot
be read, or the screen refuses what it is given. The socket is mistaken for the screen where it
fails to send a key.
-/
namespace EdgeSession

/-- Whether a failure is put down to the local terminal. -/
def Failure.isLocal : Failure → Bool
  | .localTerminal _ => true
  | _ => false

namespace Transport

/-! ## Failures of a transport -/

/-- What a transport keeps is not put down to the local terminal. -/
def Remote (t : Transport) : Prop := ∀ failure, t.sticky = some failure → failure.isLocal = false

section
variable {t : Transport} {outside : Outside} {failure : Failure} {i : Incoming}

theorem closureOf_remote (received sent : Option CloseFrame) :
    (closureOf received sent).isLocal = false := by
  have ofClose (code : Int) (reason : String) : (Failure.ofClose code reason).isLocal = false := by
    unfold Failure.ofClose
    split <;> rfl
  unfold closureOf
  split
  · exact ofClose ..
  · split <;> exact ofClose ..
  · exact ofClose ..

theorem dialFailure_remote {fault : NetworkFault} (h : dialFailure? fault = some failure) :
    failure.isLocal = false := by
  cases fault with
  | closed received sent =>
    cases h
    exact closureOf_remote received sent
  | rejected | system | protocol => cases h; rfl
  | foreign | interrupted => cases h

theorem Breaks.remote (h : Breaks i failure) : failure.isLocal = false := by
  cases h with
  | closed => exact closureOf_remote ..
  | frame | text => rename_i fault _; cases fault <;> rfl

theorem Closes.remote {failure? : Option Failure} (h : Closes t i failure?)
    (same : failure? = some failure) : failure.isLocal = false := by
  cases h with
  | left | gone => cases same
  | broken h =>
    cases same
    exact h.remote

theorem Remote.stick (h : t.Remote) (remote : failure.isLocal = false) :
    (t.stick failure).Remote := by
  intro kept same
  unfold Transport.stick at same
  cases sticky : t.sticky with
  | none =>
    rw [sticky] at same
    cases same
    exact remote
  | some first =>
    rw [sticky] at same
    cases same
    exact h _ sticky

theorem Remote.of_sticky {u : Transport} (h : t.Remote) (same : u.sticky = t.sticky) :
    u.Remote := fun failure kept => h failure (same ▸ kept)

theorem Remote.take (h : t.Remote) (outside : Outside) (i : Incoming) :
    (take outside i t).2.Remote := by
  obtain ⟨m, brings⟩ | ⟨failure?, closes⟩ := brings_or_closes t i
  · rw [take_brings brings]
    refine h.of_sticky ?_
    simp only [adopt, record]
    split <;> rfl
  · rw [take_closes closes]
    have closed := h.of_sticky (close_sticky outside t)
    cases failure? with
    | none => exact closed
    | some failure => exact closed.stick (closes.remote rfl)

theorem Remote.move (h : t.Remote) (m : Move) : (m.run t).2.Remote := by
  cases m with
  | send outside message => exact h.of_sticky (send_sticky outside message t)
  | read outside waiting =>
    cases link : t.link with
    | none => simpa only [Move.run, read_unlinked link] using h
    | some connection =>
      simpa only [Move.run, read_linked link] using h.take outside _
  | readFault outside fault =>
    cases link : t.link with
    | none => simpa only [Move.run, Transport.readFault, link] using h
    | some connection =>
      cases fault with
      | closed received sent =>
        simpa only [Move.run, Transport.readFault, link] using h.take outside _
      | _ => simpa only [Move.run, Transport.readFault, link] using h
  | close outside => exact h.of_sticky (close_sticky outside t)
  | rename session => exact h.of_sticky rfl

theorem Remote.step (h : t.Remote) (step : Step) : (step.run t).Remote := by
  cases step with
  | startDial url headers => exact h.of_sticky rfl
  | endDial outside fault =>
    cases fault with
    | none => exact h.of_sticky rfl
    | some fault =>
      cases failed : dialFailure? fault with
      | none => simpa only [Step.run, endDial, failed] using h
      | some failure =>
        have kept := (h.stick (dialFailure_remote failed)).of_sticky (close_sticky outside _)
        simp only [Step.run, endDial, failed, fail]
        rcases closed : close outside (t.stick failure) with ⟨trouble | _, left⟩ <;>
          rw [closed] at kept <;> exact kept
  | move m => exact h.move m

theorem reach_remote (target session : String) (steps : List Step) :
    (reach steps (initial target session)).Remote :=
  List.foldlRecOn steps _ (fun _ kept => nomatch kept) fun _ h step _ => h.step step

/-- What raises a failure of the local terminal as a session is left: that failure, and a connection
that can be closed. -/
theorem leaving_local {failure? : Option Failure} {text : String} :
    leaving outside failure? t = .error (.session (.localTerminal text)) ↔
      failure? = some (.localTerminal text) ∧ (close outside t).1 = .ok () := by
  cases closed : (close outside t).1 with
  | ok =>
    rw [leaving_of_ok closed]
    cases failure? <;> simp [report]
  | error trouble =>
    rw [leaving_of_error closed]
    simp [close_error closed]

end
end Transport

namespace Terminal

open Transport

/-! ## What is blamed on the local terminal -/

/-- Something is wrong with the local terminal in a step, with the text of the failure and the
transport that is then to be closed. -/
inductive LocalFault (m : Moment) (t : Shell) : Shell.Event → String → Transport → Prop
  | unread {text : String} (typing : t.typing = true) :
      LocalFault m t (.keyError text) ("failed to read from terminal: " ++ text) t.transport
  /-- The screen refuses remote output. -/
  | unshown {e : Shell.Event} {i : Incoming} {message : Message} {text : String}
      (reading : t.reading = true) (brought : e.brought = some (some i))
      (brings : Brings i message) (shows : reader.shows message = true)
      (refused : m.screen = some (.system text)) :
      LocalFault m t e ("failed to write to terminal: " ++ text) (t.transport.heard message)
  /-- The screen refuses the answer to a key that is not sent. -/
  | unanswered {data : Bytes} {text : String} (typing : t.typing = true) (typed : data ≠ [])
      (own : ¬t.Forwards data) (refused : m.screen = some (.system text)) :
      LocalFault m t (.key data) ("failed to write to terminal: " ++ text) t.transport

/-- The socket fails to send a key in a step, with an error of the operating system. -/
inductive SendFault (m : Moment) (t : Shell) : Shell.Event → String → Transport → Prop
  | unsent {data : Bytes} {connection : Nat} {frame : Bytes} {kind : SystemError} {text : String}
      (typing : t.typing = true) (forwards : t.Forwards data)
      (link : t.transport.link = some connection)
      (written : t.transport.encode (.ofKind .stdin data m.outside.now) = .ok frame)
      (fault : m.outside.send = some (.system kind text)) :
      SendFault m t (.key data) ("failed to write to terminal: " ++ text)
        (t.transport.record [.lost connection frame])

/-- A step ends a session with a failure of the local terminal. -/
def Blames (m : Moment) (t : Shell) (e : Shell.Event) (text : String) : Prop :=
  ∃ left, (LocalFault m t e text left ∨ SendFault m t e text left) ∧
    (close m.outside left).1 = .ok ()

namespace Shell

section
variable {known : Transport → Prop} {t : Shell} {m : Moment} {e : Event} {data : Bytes}
  {text : String} {left : Transport}

theorem Waits.outcome_quit (h : Waits t) (failure? : Option Failure) (outside : Outside) :
    ((t.quit failure?).settle outside).outcome = some (leaving outside failure? t.transport) :=
  (h.settle_quit failure? outside).1.outcome

theorem Waits.outcome_rest (h : Waits t) (outside : Outside) :
    (t.settle outside).outcome = none := by
  rw [h.settle, h.unfinished]

/-! ### Keys -/

/-- Keys that are not sent are answered on the screen. -/
theorem handle_answers (typed : data ≠ []) (own : ¬t.Forwards data) (m : Moment) :
    ∃ bytes ends line lastInterrupt,
      t.handle m data = { t with line, lastInterrupt }.echo m bytes ends := by
  cases data with
  | nil => exact absurd rfl typed
  | cons first rest =>
    simp only [handle, interrupt]
    split
    · split
      · exact ⟨_, _, t.line, t.lastInterrupt, rfl⟩
      · exact ⟨_, _, _, _, rfl⟩
    · rename_i other
      split
      · exact ⟨_, _, t.line, t.lastInterrupt, rfl⟩
      · rename_i stays
        refine absurd ⟨first, rest, rfl, other, fun ends => ?_⟩ own
        simpa [ends] using stays

theorem step_typed (h : Waits t) (typing : t.typing = true) (typed : data ≠ []) (m : Moment) :
    t.step m (.key data) =
      ((t.handle m data).2.keyDone (t.handle m data).1).settle m.outside := by
  have some : data.isEmpty = false := by simpa using typed
  simp only [step, keyTurn, typing, h.uncancelled, Bool.not_false, Bool.and_self, if_true, some,
    Bool.false_eq_true, if_false]

/-- What the call of `start` comes to in a step in which a key is answered on the screen. -/
theorem step_answered (h : Waits t) (typing : t.typing = true) (typed : data ≠ [])
    (own : ¬t.Forwards data) (m : Moment) :
    ∃ ends : Bool, (t.step m (.key data)).outcome =
      match m.screen with
      | none => if ends then some (leaving m.outside none t.transport) else none
      | some (.system text) => some (leaving m.outside (some (writeFailure text)) t.transport)
      | some (.foreign _) => none := by
  obtain ⟨bytes, ends, line, lastInterrupt, answered⟩ := handle_answers typed own m
  refine ⟨ends, ?_⟩
  rw [step_typed h typing typed, answered]
  have waits (act : LocalAct) : Waits ({ t with line, lastInterrupt }.note act) :=
    ⟨h.waiting, h.uncancelled, h.unfailed, h.uncleaned, h.unfinished⟩
  simp only [echo, put]
  cases m.screen with
  | none =>
    cases ends with
    | false => exact (waits _).outcome_rest m.outside
    | true => exact (waits _).untyped.outcome_quit none m.outside
  | some fault =>
    cases fault with
    | system text => exact (waits _).untyped.outcome_quit (some _) m.outside
    | foreign text => exact (waits _).untyped.outcome_rest m.outside

/-- What the call of `start` comes to in a step in which a key is sent. -/
theorem step_forwarded (h : Waits t) (typing : t.typing = true) (forwards : t.Forwards data)
    (m : Moment) :
    (t.step m (.key data)).outcome =
      match t.transport.send m.outside (.ofKind .stdin data m.outside.now) with
      | (.error (.session failure), left) => some (leaving m.outside (some failure) left)
      | (.error (.network (.system _ text)), left) =>
        some (leaving m.outside (some (writeFailure text)) left)
      | _ => none := by
  have typed : data ≠ [] := by
    obtain ⟨first, rest, rfl, -⟩ := forwards
    exact List.cons_ne_nil first rest
  rw [step_typed h typing typed, handle_forwards forwards]
  have waits (line : Line) (transport : Transport) : Waits { t with line, transport } :=
    ⟨h.waiting, h.uncancelled, h.unfailed, h.uncleaned, h.unfinished⟩
  simp only [forward]
  rcases t.transport.send m.outside (.ofKind .stdin data m.outside.now) with
    ⟨(failure | fault | _ | _) | _, left⟩
  · simp only [keyDone_failure (waits _ left)]
    exact (waits _ left).untyped.outcome_quit (some failure) m.outside
  · cases fault with
    | system kind text => exact (waits _ left).untyped.outcome_quit (some _) m.outside
    | _ => exact (waits _ left).untyped.outcome_rest m.outside
  · exact (waits _ left).untyped.outcome_rest m.outside
  · exact (waits _ left).untyped.outcome_rest m.outside
  · exact (waits _ left).outcome_rest m.outside

/-! ### What comes in -/

/-- What the call of `start` comes to in a step in which a message comes in. -/
theorem step_message (h : Open known t) (reading : t.reading = true) {i : Incoming}
    {message : Message} (brought : e.brought = some (some i)) (brings : Brings i message)
    (m : Moment) :
    (t.step m e).outcome =
      if reader.ends message then
        some (leaving m.outside none (t.transport.heard message))
      else if reader.shows message then
        match m.screen with
        | some (.system text) =>
          some (leaving m.outside (some (writeFailure text)) (t.transport.heard message))
        | _ => none
      else none := by
  have heard := h.toWaits.withTransport (t.transport.heard message)
  rw [step_brings h reading brought brings]
  cases ends : reader.ends message with
  | true =>
    rw [present_ends ends]
    exact heard.unread.outcome_quit none m.outside
  | false =>
    cases shows : reader.shows message with
    | false =>
      rw [present_other ends shows]
      exact heard.outcome_rest m.outside
    | true =>
      rw [present_shows shows]
      cases m.screen with
      | none => exact (heard.note _).outcome_rest m.outside
      | some fault =>
        cases fault with
        | system text => exact (heard.note _).unread.outcome_quit (some _) m.outside
        | foreign text => exact (heard.note _).unread.outcome_rest m.outside

/-- The end of a connection is not put down to the local terminal. -/
theorem step_closing (h : Open known t) (reading : t.reading = true) {i : Incoming}
    {failure? : Option Failure} (brought : e.brought = some (some i))
    (closes : Closes t.transport i failure?) (m : Moment) (text : String) :
    (t.step m e).outcome ≠ some (.error (.session (.localTerminal text))) := by
  cases closed : (t.transport.close m.outside).1 with
  | ok =>
    obtain ⟨ended, -⟩ := step_closes h reading brought closes closed
    rw [ended.outcome]
    intro same
    cases failure? with
    | none => cases same
    | some failure =>
      have remote := closes.remote rfl
      cases same
      cases remote
  | error trouble =>
    obtain ⟨waits, -⟩ := step_loses h reading brought (m := m) (.unclosed closes closed)
    rw [waits.unfinished]
    exact nofun

/-! ### Other events -/

theorem step_keyError (h : Waits t) (typing : t.typing = true) (m : Moment) (text : String) :
    (t.step m (.keyError text)).outcome =
      some (leaving m.outside (some (readFailure text)) t.transport) := by
  simp only [step, keyFailed, typing, h.uncancelled, Bool.not_false, Bool.and_self, if_true]
  exact h.untyped.outcome_quit (some (readFailure text)) m.outside

theorem step_untyping (h : Waits t) (typing : t.typing = false)
    (keys : (∃ data, e = .key data) ∨ ∃ text, e = .keyError text) (m : Moment) :
    (t.step m e).outcome = none := by
  obtain ⟨data, rfl⟩ | ⟨text, rfl⟩ := keys <;>
    · simp only [step, keyTurn, keyFailed, typing, Bool.false_and, Bool.false_eq_true, if_false]
      exact h.outcome_rest m.outside

/-- The call of `start` returns when the session is stopped, whatever becomes of the connection. -/
theorem step_stop (h : Waits t) (m : Moment) : (t.step m .stop).outcome = some (.ok ()) := by
  have uncleaned : t.finish.cleaned = false := h.uncleaned
  have unfailed : t.finish.failure = none := h.unfailed
  have waiting : t.finish.waiting = true := h.waiting
  simp only [step, stop, cleanup, uncleaned, Bool.false_eq_true, if_false]
  rcases t.finish.transport.close m.outside with ⟨trouble | _, transport⟩ <;>
    simp [settle, note, cleanup, waiting, Shell.result, unfailed]

/-- The operator's interrupt is raised, or trouble with the closing. -/
theorem step_interrupt (h : Waits t) (m : Moment) :
    (t.step m .interrupt).outcome =
      some ((close m.outside t.transport).1.bind fun _ => .error (.network .interrupted)) := by
  obtain ⟨result, ended⟩ := abandon_over h.uncleaned m.outside (.network .interrupted)
  simp only [step, interrupted, h.waiting, if_true, ended.settle]
  exact abandon_outcome h.uncleaned m.outside _

theorem bind_not_local {outside : Outside} {transport : Transport} {next : Except Trouble Unit}
    (apart : next ≠ .error (.session (.localTerminal text))) :
    ((close outside transport).1.bind fun _ => next) ≠
      .error (.session (.localTerminal text)) := by
  cases closed : (close outside transport).1 with
  | ok => exact apart
  | error trouble =>
    intro same
    cases same
    exact close_error closed _ rfl

/-! ### The step that ends a session -/

theorem LocalFault.outcome (h : Open known t) (fault : LocalFault m t e text left) :
    (t.step m e).outcome = some (leaving m.outside (some (.localTerminal text)) left) := by
  cases fault with
  | unread typing => exact step_keyError h.toWaits typing m _
  | unshown reading brought brings shows refused =>
    rw [step_message h reading brought brings, reader_shows shows, shows, refused]
    rfl
  | unanswered typing typed own refused =>
    obtain ⟨ends, outcome⟩ := step_answered h.toWaits typing typed own m
    rw [outcome, refused]
    rfl

theorem SendFault.outcome (h : Open known t) (fault : SendFault m t e text left) :
    (t.step m e).outcome = some (leaving m.outside (some (.localTerminal text)) left) := by
  cases fault with
  | @unsent data connection frame kind text typing forwards link written fault =>
    rw [step_forwarded h.toWaits typing forwards]
    obtain ⟨other, unwritten, -⟩ | ⟨frame', written', ⟨sent, -⟩ | ⟨fault', failed, sent⟩⟩ :=
      send_cases link m.outside (.ofKind .stdin data m.outside.now)
    · exact absurd (written.symm.trans unwritten) nofun
    · exact absurd (fault.symm.trans sent) nofun
    · cases written.symm.trans written'
      cases fault.symm.trans failed
      rw [sent]
      rfl

/-- A call of `start` that has not come back blames nobody. -/
theorem not_blamed_of_none (rests : (t.step m e).outcome = none) :
    (t.step m e).outcome ≠ some (.error (.session (.localTerminal text))) := by
  rw [rests]
  exact nofun

/-- A session that ends blames the local terminal only if its failure is put down to it. -/
theorem blamed_of_leaving {failure? : Option Failure}
    (ends : (t.step m e).outcome = some (leaving m.outside failure? left))
    (blamed : (t.step m e).outcome = some (.error (.session (.localTerminal text)))) :
    failure? = some (.localTerminal text) ∧ (close m.outside left).1 = .ok () :=
  leaving_local.1 (Option.some.inj (ends.symm.trans blamed))

theorem blames_answered (h : Waits t) (typing : t.typing = true) (typed : data ≠ [])
    (own : ¬t.Forwards data)
    (blamed : (t.step m (.key data)).outcome = some (.error (.session (.localTerminal text)))) :
    Blames m t (.key data) text := by
  obtain ⟨ends, outcome⟩ := step_answered h typing typed own m
  cases screen : m.screen with
  | none =>
    rw [screen] at outcome
    cases ends with
    | false => exact absurd blamed (not_blamed_of_none outcome)
    | true => exact absurd (blamed_of_leaving outcome blamed).1 nofun
  | some fault =>
    rw [screen] at outcome
    cases fault with
    | system refusal =>
      obtain ⟨same, ok⟩ := blamed_of_leaving outcome blamed
      cases same
      exact ⟨_, .inl (.unanswered typing typed own screen), ok⟩
    | foreign => exact absurd blamed (not_blamed_of_none outcome)

theorem blames_forwarded (h : Waits t) (typing : t.typing = true) (forwards : t.Forwards data)
    (blamed : (t.step m (.key data)).outcome = some (.error (.session (.localTerminal text)))) :
    Blames m t (.key data) text := by
  have outcome := step_forwarded h typing forwards m
  have other {failure : Failure} {left : Transport} (remote : failure.isLocal = false)
      (ends : (t.step m (.key data)).outcome =
        some (leaving m.outside (some failure) left)) : Blames m t (.key data) text := by
    obtain ⟨same, -⟩ := blamed_of_leaving ends blamed
    cases same
    cases remote
  cases link : t.transport.link with
  | none =>
    rw [send_unlinked link] at outcome
    exact other rfl outcome
  | some connection =>
    obtain ⟨fault, -, sent⟩ | ⟨frame, written, ⟨-, sent⟩ | ⟨fault, failed, sent⟩⟩ :=
      send_cases link m.outside (.ofKind .stdin data m.outside.now)
    · rw [sent] at outcome
      cases fault with
      | oversized length => exact other rfl outcome
      | outOfRange | tooLong => exact absurd blamed (not_blamed_of_none outcome)
    · rw [sent] at outcome
      exact absurd blamed (not_blamed_of_none outcome)
    · rw [sent] at outcome
      cases fault with
      | closed received sent' => exact other (closureOf_remote received sent') outcome
      | system kind fault =>
        obtain ⟨same, ok⟩ := blamed_of_leaving outcome blamed
        cases same
        exact ⟨_, .inr (.unsent typing forwards link written failed), ok⟩
      | _ => exact absurd blamed (not_blamed_of_none outcome)

theorem blames_key (h : Waits t)
    (blamed : (t.step m (.key data)).outcome = some (.error (.session (.localTerminal text)))) :
    Blames m t (.key data) text := by
  cases typing : t.typing with
  | false =>
    exact absurd blamed (not_blamed_of_none (step_untyping h typing (.inl ⟨data, rfl⟩) m))
  | true =>
    by_cases typed : data = []
    · -- without data the keyboard is closed
      subst typed
      have goes : (t.typing && !t.cancelled) = true := by rw [typing, h.uncancelled]; rfl
      refine absurd blamed (not_blamed_of_none ?_)
      simp only [step, keyTurn, goes, if_true, List.isEmpty_nil]
      exact h.untyped.outcome_rest m.outside
    · by_cases forwards : t.Forwards data
      · exact blames_forwarded h typing forwards blamed
      · exact blames_answered h typing typed forwards blamed

theorem blames_brought (h : Open known t) (brought : e.brought.isSome)
    (blamed : (t.step m e).outcome = some (.error (.session (.localTerminal text)))) :
    Blames m t e text := by
  cases reading : t.reading with
  | false =>
    rw [step_unreading h.toWaits reading brought, h.unfinished] at blamed
    cases blamed
  | true =>
    obtain ⟨_ | i, brought⟩ := Option.isSome_iff_exists.1 brought
    · rw [step_unread h reading brought] at blamed
      rw [h.toWaits.unread.outcome_rest] at blamed
      cases blamed
    · obtain ⟨message, brings⟩ | ⟨failure?, closes⟩ := brings_or_closes t.transport i
      · have outcome := step_message h reading brought brings m
        cases ends : reader.ends message with
        | true =>
          rw [ends, if_pos rfl] at outcome
          exact absurd (blamed_of_leaving outcome blamed).1 nofun
        | false =>
          rw [ends, if_neg Bool.false_ne_true] at outcome
          cases shows : reader.shows message with
          | false =>
            rw [shows, if_neg Bool.false_ne_true] at outcome
            exact absurd blamed (not_blamed_of_none outcome)
          | true =>
            rw [shows, if_pos rfl] at outcome
            cases screen : m.screen with
            | none =>
              rw [screen] at outcome
              exact absurd blamed (not_blamed_of_none outcome)
            | some fault =>
              rw [screen] at outcome
              cases fault with
              | system refusal =>
                obtain ⟨same, ok⟩ := blamed_of_leaving outcome blamed
                cases same
                exact ⟨_, .inl (.unshown reading brought brings shows screen), ok⟩
              | foreign => exact absurd blamed (not_blamed_of_none outcome)
      · exact absurd blamed (step_closing h reading brought closes m text)

/-- The local terminal is blamed in just the steps in which something is wrong with it, or the
socket fails to send a key. -/
theorem step_blames (h : Open known t) (m : Moment) (e : Event) (text : String) :
    (t.step m e).outcome = some (.error (.session (.localTerminal text))) ↔ Blames m t e text := by
  constructor
  · intro blamed
    cases e with
    | incoming | readError => exact blames_brought h rfl blamed
    | key data => exact blames_key h.toWaits blamed
    | keyError reason =>
      cases typing : t.typing with
      | false =>
        exact absurd blamed
          (not_blamed_of_none (step_untyping h.toWaits typing (.inr ⟨reason, rfl⟩) m))
      | true =>
        obtain ⟨same, ok⟩ := blamed_of_leaving (step_keyError h.toWaits typing m reason) blamed
        cases same
        exact ⟨_, .inl (.unread typing), ok⟩
    | stop =>
      rw [step_stop h.toWaits] at blamed
      cases blamed
    | interrupt =>
      rw [step_interrupt h.toWaits] at blamed
      exact absurd (Option.some.inj blamed) (bind_not_local nofun)
    | resize columns rows =>
      exact absurd blamed (not_blamed_of_none (h.toWaits.outcome_rest m.outside))
  · rintro ⟨left, fault, ok⟩
    have outcome : (t.step m e).outcome =
        some (leaving m.outside (some (.localTerminal text)) left) :=
      fault.elim (LocalFault.outcome h) (SendFault.outcome h)
    rw [outcome, leaving_local.2 ⟨rfl, ok⟩]

/-! ### The beginning -/

/-- How a call of `start` begins: it waits for the end, or has come back, and then it blames the
local terminal just if that could not be made raw. -/
inductive Begun (outside : Outside) (raw : Option String) (transport : Transport) (t : Shell) : Prop
  | waits (h : Open (fun _ => True) t) (entered : raw = none)
  | returned {result : Except Trouble Unit} (ended : Over result t)
      (blames : ∀ text, result = .error (.session (.localTerminal text)) ↔
        raw = some text ∧ (close outside transport).1 = .ok ())

theorem Begun.of_failure {transport : Transport} {failure : Failure}
    (apart : failure.isLocal = false) {outside : Outside}
    (ended : Over (leaving outside (some failure) transport) t) :
    Begun outside none transport t := by
  refine .returned ended fun text => ⟨fun blamed => ?_, nofun⟩
  obtain ⟨same, -⟩ := leaving_local.1 blamed
  cases same
  cases apart

theorem settle_failed {transport : Transport} {failure : Failure} (waiting : t.waiting = true)
    (cancelled : t.cancelled = true) (uncleaned : t.cleaned = false)
    (failed : t.failure = some failure) (same : t.transport = transport) (outside : Outside) :
    Over (leaving outside (some failure) transport) (t.settle outside) := by
  have ended := (settle_cancelled waiting cancelled uncleaned outside).1
  rwa [failed, same] at ended

theorem start_begins {transport : Transport} (remote : transport.Remote) (outside : Outside)
    (raw : Option String) (watch : Option NetworkFault) :
    ∃ t, start outside { raw, watch := watch.map .network } { transport } = .ok t ∧
      Begun outside raw transport t := by
  have abandoned (t : Shell) (same : t.transport = transport) (uncleaned : t.cleaned = false)
      (trouble : Trouble) : Over ((close outside transport).1.bind fun _ => .error trouble)
        (t.abandon outside trouble) := by
    obtain ⟨result, ended⟩ := abandon_over uncleaned outside trouble
    have outcome := abandon_outcome uncleaned outside trouble
    rw [ended.outcome, same] at outcome
    cases outcome
    exact ended
  cases raw with
  | some text =>
    refine ⟨_, rfl, .returned (abandoned { transport } rfl rfl _) fun other => ?_⟩
    have raised : leaving outside (some (.localTerminal text)) transport =
        .error (.session (.localTerminal other)) ↔ _ := leaving_local
    simpa [leaving, report] using raised
  | none =>
    cases watch with
    | some fault =>
      refine ⟨_, rfl, .returned (abandoned (enter { transport }) rfl rfl _) fun text => ⟨?_, ?_⟩⟩
      · exact fun blamed => absurd blamed (bind_not_local (by simp))
      · rintro ⟨refused, -⟩
        cases refused
    | none =>
      cases sticky : transport.sticky with
      | some failure =>
        refine ⟨_, rfl, .of_failure (remote failure sticky) ?_⟩
        simp only [checkSticky, launch, enter, note, sticky, firstRead]
        split <;> apply settle_failed <;> rfl
      | none =>
        cases connected : transport.isConnected with
        | true =>
          exact ⟨_, start_begun connected sticky outside,
            .waits (begun_open connected trivial) rfl⟩
        | false =>
          have apart : unconnected.isLocal = false := rfl
          refine ⟨_, rfl, .of_failure apart ?_⟩
          simp only [checkSticky, launch, enter, note, sticky, firstRead, connected,
            Bool.false_eq_true, if_false, failUnlessOver]
          apply settle_failed <;> rfl

end
end Shell

/-! ## Every run -/

section
variable {t : Shell} {steps : List (Moment × Shell.Event)} {text : String}

theorem play_alive (h : t.Open fun _ => True) (steps : List (Moment × Shell.Event)) :
    (controller.play steps t).Open (fun _ => True) ∨
      ∃ result, (controller.play steps t).Over result := by
  induction steps generalizing t with
  | nil => exact .inl h
  | cons entry rest ih =>
    obtain ⟨result, ended⟩ | ⟨waits, -⟩ := laws.step_cases h entry.1 entry.2
    · exact .inr ⟨result, (laws.play_returned ended rest).1⟩
    · exact ih waits

theorem alive_of_waiting (h : t.Open fun _ => True)
    (still : (controller.play steps t).waiting = true) :
    (controller.play steps t).Open fun _ => True := by
  obtain waits | ⟨result, ended⟩ := play_alive h steps
  · exact waits
  · exact absurd (still.symm.trans ended.waiting) nofun

/-- What a call of `start` comes to is settled in the step that ends the session. -/
theorem play_outcome (h : t.Open fun _ => True) {result : Except Trouble Unit} :
    (controller.play steps t).outcome = some result ↔
      ∃ before m e after, steps = before ++ (m, e) :: after ∧
        (controller.play before t).waiting = true ∧
        ((controller.play before t).step m e).outcome = some result := by
  constructor
  · intro came
    induction steps generalizing t with
    | nil =>
      rw [Machine.play, h.unfinished] at came
      cases came
    | cons entry rest ih =>
      obtain ⟨m, e⟩ := entry
      obtain ⟨other, ended⟩ | ⟨waits, -⟩ := laws.step_cases h m e
      · have later := (laws.play_returned ended rest).1.outcome
        exact ⟨[], m, e, rest, rfl, h.waiting, by
          rw [← came]; exact ended.outcome.trans later.symm⟩
      · obtain ⟨before, m', e', after, rfl, still, ends⟩ := ih waits came
        exact ⟨(m, e) :: before, m', e', after, rfl, still, ends⟩
  · rintro ⟨before, m, e, after, rfl, still, ends⟩
    rw [Machine.play_append, Machine.play]
    obtain ⟨other, ended⟩ | ⟨waits, -⟩ := laws.step_cases (alive_of_waiting h still) m e
    · obtain rfl := Option.some.inj (ended.outcome.symm.trans ends)
      exact (laws.play_returned ended after).1.outcome
    · cases waits.unfinished.symm.trans ends

end

/-- **Whom a session blames.** Whatever calls a transport has gone through and whatever comes in, is
typed or goes wrong: a call of `start` raises a failure of the local terminal just if that could not
be made raw, or the session came to a step in which a key could not be read or the screen refused
what it was given, or in which the socket failed to send a key. -/
theorem local_blame (target session : String) (calls : List Transport.Step) (outside : Outside)
    (raw : Option String) (watch : Option NetworkFault) (steps : List (Moment × Shell.Event))
    (text : String) :
    let transport := reach calls (initial target session)
    ∃ t, Shell.start outside { raw, watch := watch.map .network } { transport } = .ok t ∧
      ((controller.play steps t).outcome = some (.error (.session (.localTerminal text))) ↔
        raw = some text ∧ (close outside transport).1 = .ok () ∨
        ∃ before m e after, steps = before ++ (m, e) :: after ∧
          (controller.play before t).waiting = true ∧
          Blames m (controller.play before t) e text) := by
  intro transport
  obtain ⟨t, started, begun⟩ :=
    Shell.start_begins (reach_remote target session calls) outside raw watch
  refine ⟨t, started, ?_⟩
  cases begun with
  | waits h entered =>
    rw [play_outcome h, entered]
    constructor
    · rintro ⟨before, m, e, after, split, still, ends⟩
      refine .inr ⟨before, m, e, after, split, still, ?_⟩
      exact (Shell.step_blames (alive_of_waiting h still) m e text).1 ends
    · rintro (⟨refused, -⟩ | ⟨before, m, e, after, split, still, blames⟩)
      · cases refused
      · refine ⟨before, m, e, after, split, still, ?_⟩
        exact (Shell.step_blames (alive_of_waiting h still) m e text).2 blames
  | returned ended blames =>
    have later (steps : List (Moment × Shell.Event)) := (laws.play_returned ended steps).1
    rw [(later steps).outcome, Option.some.injEq, blames]
    refine ⟨.inl, fun either => either.resolve_right ?_⟩
    rintro ⟨before, m, e, after, -, still, -⟩
    exact absurd (still.symm.trans (later before).waiting) nofun

/-- The socket fails to send a key, and the terminal is blamed, which has refused nothing. -/
theorem broken_pipe_blamed :
    let transport := (connect { now := 0 } none "ws://c/x" [] (initial "ms" "")).2
    let m : Moment := { outside := { now := 1, send := some (.system .general "Broken pipe") } }
    let ended := controller.play [(m, .key [0x61])] (Shell.begun transport)
    Shell.start { now := 0 } {} { transport } = .ok (Shell.begun transport) ∧ m.screen = none ∧
      ended.outcome =
        some (.error (.session (.localTerminal "failed to write to terminal: Broken pipe"))) ∧
      ended.journal = [.enteredRaw, .watchedSize, .unwatchedSize, .restored] :=
  ⟨rfl, rfl, rfl, rfl⟩

end Terminal
end EdgeSession
