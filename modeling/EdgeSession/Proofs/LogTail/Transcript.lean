import EdgeSession.Proofs.LogTail.Turns
import EdgeSession.Proofs.Session.Lifecycle
import EdgeSession.Proofs.Text.Replacement

/-!
A whole log session, told from what comes in alone. Each thing that comes in shows something or
nothing, and some of it ends the session; the first that does settles what the call of `start` comes
to, and the connection is closed once.
-/
namespace EdgeSession

open Transport

/-- The failure with which a frame ends a session, if it is no message. -/
def frameFailure? (bytes : Bytes) : Option Failure :=
  match Frame.decode bytes with
  | .error fault => some fault.failure
  | .ok _ => none

/-- The failure with which something that is no message ends a session, unless it ends it in good
order. -/
def Incoming.failure? : Incoming → Option Failure
  | .frame bytes => frameFailure? bytes
  | .text s => frameFailure? (Utf8.encode s)
  | .closed received sent =>
    let closure := closureOf received sent
    if closure.isGraceful then none else some closure

namespace Transport

section
variable {connection : Nat} {target : String} {outside : Outside} {t : Transport} {i : Incoming}

theorem closes_failure? (unclosed : t.closed = false) (h : i.message? = none) :
    Closes t i i.failure? := by
  cases i with
  | frame bytes =>
    cases hd : Frame.decode bytes with
    | ok m => simp [Incoming.message?, hd, Except.toOption] at h
    | error fault =>
      simp only [Incoming.failure?, frameFailure?, hd]
      exact .broken (.frame hd) (by simp)
  | text s =>
    cases hd : Frame.decode (Utf8.encode s) with
    | ok m => simp [Incoming.message?, hd, Except.toOption] at h
    | error fault =>
      simp only [Incoming.failure?, frameFailure?, hd]
      exact .broken (.text hd) (by simp)
  | closed received sent =>
    simp only [Incoming.failure?]
    cases graceful : (closureOf received sent).isGraceful with
    | true => exact .left (.closed graceful)
    | false => exact .broken (.closed graceful) fun _ _ _ => unclosed

theorem Parting.one_hangUp {acts : List Act} (h : Parting connection target acts) :
    acts.countP isHangUp = 1 := by
  cases h <;> rfl

/-- An open session is closed once, whatever the socket answers. -/
theorem close_once (live : Live connection t) (calm : Calm outside) :
    ∃ left, close outside t = (.ok (), left) ∧ Ended left ∧ left.hangUps = t.hangUps + 1 := by
  obtain ⟨acts, parting, closing⟩ := close_live live calm
  refine ⟨t.leave acts, closing, leave_ended acts t, ?_⟩
  rw [hangUps_eq, hangUps_eq, leave, record, List.countP_append, parting.one_hangUp]

theorem hangUps_keep (failure? : Option Failure) (t : Transport) :
    (t.keep failure?).hangUps = t.hangUps := by
  cases failure? <;> rfl

theorem Ended.keep (ended : Ended t) (failure? : Option Failure) : Ended (t.keep failure?) := by
  cases failure? with
  | none => exact ended
  | some failure => exact ⟨ended.link, ended.closed, ended.done⟩

theorem hangUps_heard (m : Message) (t : Transport) : (t.heard m).hangUps = t.hangUps := by
  simp only [hangUps_eq, heard, adopt, record]
  split <;> simp [isHangUp]

end
end Transport

namespace LogTail

/-- What something that comes in comes to: what the screen shows, and whether it ends the session
and with which failure. -/
structure Effect where
  shows : Bytes := []
  ends : Option (Option Failure) := none
  deriving DecidableEq

/-- A line as it stands on the screen: with a line feed behind it, unless it ends in one. -/
def lineShown (data : Bytes) : Bytes := data ++ if [0x0A] <:+ data then [] else [0x0A]

/-- An error as it stands on the screen: its text as far as it is one, or the default for none. -/
def errorShown (data : Bytes) : Bytes :=
  Utf8.encode "Error: " ++
    (if data = [] then Utf8.encode "Log streaming error occurred"
      else Utf8.encodeChars (Utf8.decodeLossy data)) ++ [0x0A]

/-- A line is shown, and one that the screen refuses ends the session. An error is shown where the
screen takes it, and ends the session in good order whether or not it does; so does the end of the
stream. -/
def messageEffect (screen : Option ScreenFault) (message : Message) : Effect :=
  if message.is .logLine then
    match screen with
    | none => { shows := lineShown message.data }
    | some (.system text) =>
      { ends := some (some (.localTerminal ("failed to write log output: " ++ text))) }
    | some (.foreign _) => {}
  else if message.is .logStop then { ends := some none }
  else if message.is .logError then
    { shows := if screen.isNone then errorShown message.data else [], ends := some none }
  else {}

def effect (m : Moment) (i : Incoming) : Effect :=
  match i.message? with
  | some message => messageEffect m.screen message
  | none => { ends := some i.failure? }

/-- What comes in, as the events that a session takes. -/
def events (steps : List (Moment × Incoming)) : List (Moment × Stream.Event) :=
  steps.map fun entry => (entry.1, .incoming entry.2)

/-- A socket that answers as sockets do, and a screen that takes what it is given or refuses it with
an error of the system's. -/
structure Usable (m : Moment) : Prop where
  calm : Calm m.outside
  screen : ∀ text, m.screen ≠ some (.foreign text)

/-- A session under way. -/
structure Streaming (connection : Nat) (target : String) (s : Stream) : Prop
    extends Stream.Open s where
  reading : s.reading = true
  phase : s.phase = .streaming
  running : Running connection target s.transport

/-- A session that has ended, with its connection closed. -/
structure Finished (failure? : Option Failure) (hangUps : Nat) (s : Stream) : Prop
    extends Stream.Over (report failure?) s where
  phase : s.phase = .done
  ended : Ended s.transport
  hangUps : s.transport.hangUps = hangUps

/-- A step with this effect, after which the session goes on or has ended. -/
structure Proceeds (connection : Nat) (target : String) (effect : Effect) (s s' : Stream) :
    Prop where
  shown : s'.shown.flatten = s.shown.flatten ++ effect.shows
  goes : effect.ends = none →
    Streaming connection target s' ∧ s'.transport.hangUps = s.transport.hangUps
  ends : ∀ failure?, effect.ends = some failure? →
    Finished failure? (s.transport.hangUps + 1) s'

section
variable {connection : Nat} {target : String} {s s' : Stream} {m : Moment} {i : Incoming}
variable {failure? : Option Failure} {shows : Bytes} {message : Message}
variable {outside : Outside} {left : Transport}

/-! ## What is shown -/

theorem renderLine_eq (data : Bytes) : renderLine data = lineShown data := by
  have ends : [0x0A] <:+ data ↔ data.getLast? = some 0x0A := by
    rw [List.singleton_suffix_iff_getLast?_eq_some]
  simp only [renderLine, lineShown, ends]
  split
  · exact (List.append_nil _).symm
  · rfl

theorem renderError_eq (data : Bytes) : renderError data = errorShown data := by
  have whole (text : List Char) : Utf8.encodeChars ("Error: ".toList ++ text ++ ['\n']) =
      Utf8.encode "Error: " ++ Utf8.encodeChars text ++ [0x0A] := by
    simp only [Utf8.encode, Utf8.encodeChars, List.flatMap_append]
    rfl
  simp only [renderError, errorShown, whole]
  cases data with
  | nil => rw [Utf8.decodeLossy_nil]; rfl
  | cons lead rest => simp [Utf8.decodeLossy_cons]

/-! ## The end -/

theorem settle_done (waiting : s.waiting = true) (cancelled : s.cancelled = true)
    (uncleaned : s.cleaned = false) (closing : s.transport.close outside = (.ok (), left)) :
    (s.settle outside).phase = .done ∧ (s.settle outside).transport = left ∧
      (s.settle outside).shown = s.shown := by
  simp only [Stream.settle, waiting, cancelled, Bool.and_self, if_true, Stream.cleanup, uncleaned,
    Bool.false_eq_true, if_false, closing, true_and]
  rfl

theorem quit_kept (failure? : Option Failure) (s : Stream) :
    (s.quit failure?).waiting = s.waiting ∧ (s.quit failure?).cancelled = true ∧
      (s.quit failure?).cleaned = s.cleaned ∧ (s.quit failure?).transport = s.transport ∧
      (s.quit failure?).shown = s.shown := by
  cases failure? with
  | none => exact ⟨rfl, rfl, rfl, rfl, rfl⟩
  | some failure =>
    simp only [Stream.quit, Option.elim, Stream.fail]
    split <;> exact ⟨rfl, rfl, rfl, rfl, rfl⟩

/-- A session that is ended over a transport that closes. -/
theorem settle_finished (waits : Stream.Waits s)
    (closing : s.transport.close outside = (.ok (), left)) (ended : Ended left)
    (failure? : Option Failure)
    (counts : ∀ failure, failure? = some failure → failure.isGraceful = false) :
    Finished failure? left.hangUps ((s.quit failure?).settle outside) ∧
      ((s.quit failure?).settle outside).shown = s.shown := by
  obtain ⟨waiting, cancelled, cleaned, transport, shown⟩ := quit_kept failure? s
  obtain ⟨finished, -⟩ := waits.settle_quit failure? counts outside
  rw [leaving_of_ok (congrArg Prod.fst closing)] at finished
  obtain ⟨phase, same, still⟩ := settle_done (waiting.trans waits.waiting) cancelled
    (cleaned.trans waits.uncleaned) (transport.symm ▸ closing)
  exact ⟨⟨finished, phase, same ▸ ended, congrArg Transport.hangUps same⟩, still.trans shown⟩

theorem proceeds_quit (waits : Stream.Waits s') (running : Running connection target s'.transport)
    (calm : Calm m.outside) (shown : s'.shown.flatten = s.shown.flatten ++ shows)
    (hangUps : s'.transport.hangUps = s.transport.hangUps) (failure? : Option Failure)
    (counts : ∀ failure, failure? = some failure → failure.isGraceful = false) :
    Proceeds connection target { shows, ends := some failure? } s
      ((s'.quit failure?).settle m.outside) := by
  obtain ⟨left, closing, ended, once⟩ := close_once running.toLive calm
  obtain ⟨finished, same⟩ := settle_finished waits closing ended failure? counts
  rw [once, hangUps] at finished
  exact ⟨by rw [same, shown], nofun, fun _ same => Option.some.inj same ▸ finished⟩

theorem proceeds_on (streaming : Streaming connection target s')
    (shown : s'.shown.flatten = s.shown.flatten ++ shows)
    (hangUps : s'.transport.hangUps = s.transport.hangUps) :
    Proceeds connection target { shows } s (s'.settle m.outside) := by
  rw [streaming.toWaits.settle]
  exact ⟨shown, fun _ => ⟨streaming, hangUps⟩, nofun⟩

/-! ## One thing that comes in -/

theorem shown_note (bytes : Bytes) (s : Stream) :
    (s.note (.showed bytes)).shown.flatten = s.shown.flatten ++ bytes := by
  simp [Stream.shown, Stream.note]

theorem shown_refused (bytes : Bytes) (s : Stream) :
    (s.note (.refused bytes)).shown.flatten = s.shown.flatten := by
  simp [Stream.shown, Stream.note]

theorem Streaming.heard (h : Streaming connection target s)
    (fits : Frame.fits message.session = true) :
    Streaming connection target (s.withTransport (s.transport.heard message)) :=
  ⟨h.toOpen.heard h.reading message, h.reading, h.phase, (h.running.adopt fits).record _⟩

theorem Streaming.note (h : Streaming connection target s) (output : Output) :
    Streaming connection target (s.note output) :=
  ⟨⟨h.toWaits.note output, h.linked⟩, h.reading, h.phase, h.running⟩

/-- What is no message has the connection closed before the session is ended. -/
theorem proceeds_closes (h : Streaming connection target s) (calm : Calm m.outside)
    (unread : i.message? = none) :
    Proceeds connection target { ends := some i.failure? } s (s.step m (.incoming i)) := by
  have closes := closes_failure? h.running.unclosed unread
  obtain ⟨left, closing, ended, once⟩ := close_once h.running.toLive calm
  have waits := (h.toWaits.withTransport (left.keep i.failure?)).unread
  have again : (left.keep i.failure?).close m.outside = (.ok (), left.keep i.failure?) :=
    close_again (by rw [keep_closed, ended.closed]) m.outside
  obtain ⟨finished, same⟩ :=
    settle_finished waits again (ended.keep i.failure?) i.failure? closes.not_graceful
  rw [hangUps_keep, once] at finished
  rw [Stream.step_incoming h.toOpen h.reading rfl, take_closes closes,
    leaving_of_ok (congrArg Prod.fst closing), closing,
    Stream.readDone_report (h.toWaits.withTransport _)]
  exact ⟨by rw [same]; exact (List.append_nil _).symm, nofun,
    fun _ same => Option.some.inj same ▸ finished⟩

theorem writeFailure_counts (text : String) (failure : Failure)
    (same : some (Stream.writeFailure text) = some failure) : failure.isGraceful = false := by
  cases same
  rfl

theorem proceeds_line (h : Streaming connection target s) (usable : Usable m)
    (line : message.is .logLine = true) :
    Proceeds connection target (messageEffect m.screen message) s
      ((s.present m message).settle m.outside) := by
  have shows : reader.shows message = true := by simp only [reader, line, Bool.true_or]
  rw [Stream.present_shows shows, Stream.reader_line line]
  simp only [messageEffect, line, if_true, Stream.rendered, Bool.false_eq_true, if_false,
    renderLine_eq]
  cases screen : m.screen with
  | none => exact proceeds_on (h.note _) (shown_note _ s) rfl
  | some fault =>
    cases fault with
    | system text =>
      exact proceeds_quit (h.note _).toWaits.unread h.running usable.calm
        ((shown_refused _ s).trans (List.append_nil _).symm) rfl _ (writeFailure_counts text)
    | foreign text => exact absurd screen (usable.screen text)

theorem proceeds_error (h : Streaming connection target s) (usable : Usable m)
    (line : message.is .logLine = false) (error : message.is .logError = true) :
    Proceeds connection target (messageEffect m.screen message) s
      ((s.present m message).settle m.outside) := by
  have shows : reader.shows message = true := by simp only [reader, error, Bool.or_true]
  have ends : reader.ends message = true := by simp only [reader, error, Bool.or_true]
  rw [Stream.present_shows shows, ends]
  simp only [messageEffect, line, Stream.error_not_stop error, error, if_true, Stream.rendered,
    Bool.false_eq_true, if_false, renderError_eq]
  cases screen : m.screen with
  | none =>
    exact proceeds_quit (h.note _).toWaits.unread h.running usable.calm (shown_note _ s) rfl none
      (by simp)
  | some fault =>
    cases fault with
    | system text =>
      exact proceeds_quit (h.note _).toWaits.unread h.running usable.calm
        ((shown_refused _ s).trans (List.append_nil _).symm) rfl none (by simp)
    | foreign text => exact absurd screen (usable.screen text)

theorem proceeds_other (h : Streaming connection target s) (usable : Usable m)
    (line : message.is .logLine = false) (error : message.is .logError = false) :
    Proceeds connection target (messageEffect m.screen message) s
      ((s.present m message).settle m.outside) := by
  have shows : reader.shows message = false := by simp only [reader, line, error, Bool.or_self]
  rw [Stream.present_quiet shows]
  simp only [messageEffect, reader, line, error, Bool.or_false, Bool.false_eq_true, if_false]
  cases message.is .logStop with
  | true =>
    simp only [if_true]
    exact proceeds_quit (s := s) h.toWaits.unread h.running usable.calm
      (List.append_nil _).symm rfl none (by simp)
  | false =>
    simp only [Bool.false_eq_true, if_false]
    exact proceeds_on h (List.append_nil _).symm rfl

/-- What a message shows, and whether it ends the session. -/
theorem proceeds_message (h : Streaming connection target s) (usable : Usable m)
    (message : Message) :
    Proceeds connection target (messageEffect m.screen message) s
      ((s.present m message).settle m.outside) := by
  cases line : message.is .logLine with
  | true => exact proceeds_line h usable line
  | false =>
    cases error : message.is .logError with
    | true => exact proceeds_error h usable line error
    | false => exact proceeds_other h usable line error

theorem proceeds (h : Streaming connection target s) (usable : Usable m) (sized : Sized i) :
    Proceeds connection target (effect m i) s (s.step m (.incoming i)) := by
  cases arrives : i.message? with
  | none =>
    rw [effect, arrives]
    exact proceeds_closes h usable.calm arrives
  | some message =>
    have brings := brings_of_message? arrives
    rw [effect, arrives, Stream.step_brings h.toOpen h.reading rfl brings]
    -- reading the message hides nothing and hangs nothing up
    obtain ⟨shown, goes, ends⟩ := proceeds_message (h.heard (brings.fits sized)) usable message
    have hangUps : (s.withTransport (s.transport.heard message)).transport.hangUps =
        s.transport.hangUps := hangUps_heard message s.transport
    rw [hangUps] at goes ends
    exact ⟨shown, goes, ends⟩

/-! ## Every run -/

theorem play_finished {hangUps : Nat} (finished : Finished failure? hangUps s)
    (steps : List (Moment × Stream.Event)) : controller.play steps s = s := by
  induction steps with
  | nil => rfl
  | cons entry rest ih =>
    have same : controller.step entry.1 entry.2 s = s := finished.toOver.step entry.1 entry.2
    rw [Machine.play, same, ih]

theorem play_streaming {steps : List (Moment × Incoming)} (h : Streaming connection target s)
    (usable : ∀ entry ∈ steps, Usable entry.1) (sized : ∀ entry ∈ steps, Sized entry.2)
    (goes : ∀ entry ∈ steps, (effect entry.1 entry.2).ends = none) :
    Streaming connection target (controller.play (events steps) s) ∧
      (controller.play (events steps) s).shown.flatten =
        s.shown.flatten ++ steps.flatMap (fun entry => (effect entry.1 entry.2).shows) ∧
      (controller.play (events steps) s).transport.hangUps = s.transport.hangUps := by
  induction steps generalizing s with
  | nil => exact ⟨h, (List.append_nil _).symm, rfl⟩
  | cons entry rest ih =>
    obtain ⟨shown, on, -⟩ := proceeds h (usable entry List.mem_cons_self)
      (sized entry List.mem_cons_self)
    obtain ⟨streaming, hangUps⟩ := on (goes entry List.mem_cons_self)
    obtain ⟨later, rests, still⟩ := ih streaming
      (fun other member => usable other (.tail _ member))
      (fun other member => sized other (.tail _ member))
      (fun other member => goes other (.tail _ member))
    refine ⟨later, rests.trans ?_, still.trans hangUps⟩
    rw [shown, List.flatMap_cons, List.append_assoc]

theorem start_streaming {transport : Transport} (running : Running connection target transport)
    (outside : Outside) :
    ∃ start, Stream.start outside { transport } = .ok start ∧
      Streaming connection target start ∧ start.shown = [] ∧ start.transport = transport := by
  have connected : transport.isConnected = true := by rw [isConnected, running.link]; rfl
  have streaming : Streaming connection target
      { transport, phase := .streaming, reading := true, waiting := true } :=
    ⟨⟨⟨rfl, rfl, rfl, rfl, rfl⟩, fun _ => connected⟩, rfl, rfl, running⟩
  refine ⟨_, rfl, ?_⟩
  simp only [Stream.checkSticky, Stream.launch, running.clean, Stream.firstRead, connected, if_true]
  rw [streaming.toWaits.settle]
  exact ⟨streaming, rfl, rfl⟩

end

/-- **A log session, told from what comes in.** As long as nothing ends it, the screen shows the
lines in order and the call of `start` waits. The first thing that ends it is the last that shows
anything: from then on the call has come back with its failure, or with none if the end was in good
order, the connection has been closed once, and whatever comes later changes nothing. In the text of
an error one U+FFFD stands for each part that is not UTF-8. -/
theorem stream_told {connection : Nat} {target : String} {transport : Transport}
    (running : Running connection target transport) (outside : Outside)
    {steps : List (Moment × Incoming)} (usable : ∀ entry ∈ steps, Usable entry.1)
    (sized : ∀ entry ∈ steps, Sized entry.2) :
    (∀ data text, Utf8.Replaced data text ↔ text = Utf8.decodeLossy data) ∧
    ∃ start, Stream.start outside { transport } = .ok start ∧
      let s := controller.play (events steps) start
      let shows := fun entry : Moment × Incoming => (effect entry.1 entry.2).shows
      let ends := fun entry : Moment × Incoming => (effect entry.1 entry.2).ends
      ((∀ entry ∈ steps, ends entry = none) →
        s.shown.flatten = steps.flatMap shows ∧ s.outcome = none ∧ s.phase = .streaming ∧
          s.transport.hangUps = transport.hangUps) ∧
      ∀ before k later failure?, steps = before ++ k :: later →
        (∀ entry ∈ before, ends entry = none) → ends k = some failure? →
        s.shown.flatten = (before ++ [k]).flatMap shows ∧
          s.outcome = some (report failure?) ∧ s.phase = .done ∧
          Ended s.transport ∧ s.transport.hangUps = transport.hangUps + 1 := by
  obtain ⟨start, started, streaming, blank, same⟩ := start_streaming running outside
  refine ⟨fun _ _ => Utf8.replaced_iff, start, started, fun goes => ?_, ?_⟩
  · obtain ⟨still, shown, hangUps⟩ := play_streaming streaming usable sized goes
    rw [blank] at shown
    rw [same] at hangUps
    exact ⟨shown, still.unfinished, still.phase, hangUps⟩
  · rintro before ⟨m, i⟩ later failure? rfl goes ends
    obtain ⟨usableBefore, usableHere⟩ := List.forall_mem_append.1 usable
    obtain ⟨sizedBefore, sizedHere⟩ := List.forall_mem_append.1 sized
    obtain ⟨still, shown, hangUps⟩ := play_streaming streaming usableBefore sizedBefore goes
    obtain ⟨shows, -, finishes⟩ :=
      proceeds still (usableHere _ List.mem_cons_self) (sizedHere _ List.mem_cons_self)
    have finished := finishes failure? ends
    have played : controller.play (events (before ++ (m, i) :: later)) start =
        (controller.play (events before) start).step m (.incoming i) := by
      rw [events, List.map_append, Machine.play_append, List.map_cons, Machine.play]
      exact play_finished finished _
    rw [played]
    refine ⟨?_, finished.outcome, finished.phase, finished.ended, ?_⟩
    · rw [shows, shown, blank, List.flatMap_append, List.flatMap_singleton]
      rfl
    · rw [finished.hangUps, hangUps, same]

/-- A line, an error that the screen does not take, and a line that comes too late. -/
theorem stream_told_refused :
    let transport := (connect { now := 0 } none "ws://c/x" [] (.initial "m" "")).2
    let line : Bytes := [0x82, 0xA4, 0x74, 0x79, 0x70, 0x65, 0x06,
      0xA4, 0x64, 0x61, 0x74, 0x61, 0xC4, 0x02, 0x68, 0x69]
    let error : Bytes := [0x81, 0xA4, 0x74, 0x79, 0x70, 0x65, 0x09]
    let m : Moment := { outside := { now := 1 } }
    let refusing : Moment :=
      { outside := { now := 2, send := some (.closed none none) }
        screen := some (.system "full") }
    let steps : List (Moment × Incoming) :=
      [(m, .frame line), (refusing, .frame error), (m, .frame line)]
    ∃ start, Stream.start { now := 0 } { transport } = .ok start ∧
      let s := controller.play (events steps) start
      s.shown.flatten = [0x68, 0x69, 0x0A] ∧ s.outcome = some (.ok ()) ∧ s.phase = .done ∧
        s.transport.hangUps = 1 := by
  intro transport line error m refusing steps
  have running : Running 0 "m" transport := ⟨⟨rfl, rfl, rfl, by decide, by decide⟩, rfl, rfl, rfl⟩
  have fine : Usable m := ⟨⟨(by decide : Pack.Encodable 1), .fine, .fine⟩, nofun⟩
  have full : Usable refusing :=
    ⟨⟨(by decide : Pack.Encodable 2), .closed none none, .fine⟩, nofun⟩
  have usable : ∀ entry ∈ steps, Usable entry.1 := by
    simp only [steps, List.forall_mem_cons]
    exact ⟨fine, full, fine, List.forall_mem_nil _⟩
  have sized : ∀ entry ∈ steps, Sized entry.2 := by
    have short : line.length ≤ Frame.maxSize ∧ error.length ≤ Frame.maxSize := by decide
    simp only [steps, List.forall_mem_cons]
    exact ⟨short.1, short.2, short.1, List.forall_mem_nil _⟩
  obtain ⟨-, start, started, -, ends⟩ := stream_told running { now := 0 } usable sized
  obtain ⟨shown, outcome, phase, -, hangUps⟩ := ends [(m, .frame line)] (refusing, .frame error)
    [(m, .frame line)] none rfl (by decide +kernel) (by decide +kernel)
  exact ⟨start, started, shown.trans (by decide +kernel), outcome, phase,
    hangUps.trans (by decide +kernel)⟩

end LogTail
end EdgeSession
