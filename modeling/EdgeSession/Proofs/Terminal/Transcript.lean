import EdgeSession.Proofs.Terminal.Closure
import Mathlib.Data.List.Forall2

/-!
A whole terminal session, told from its events alone. Each event shows something on the screen,
sends a key to the remote side or ends the session, by what was typed before it; and nothing else is
ever shown or sent.
-/
namespace EdgeSession

/-- A frame that is read as a message of this kind for this session's target. -/
def Tells (target : String) (kind : Kind) (data : Bytes) (frame : Bytes) : Prop :=
  ∃ session now,
    Frame.decode frame = .ok { Message.ofKind kind data now with target, session }

namespace Transport

section
variable {connection : Nat} {outside : Outside} {t : Transport}

@[simp] theorem written_heard (m : Message) (t : Transport) : (t.heard m).written = t.written := by
  simp only [heard, adopt, record, written]
  split <;> simp

@[simp] theorem written_keep (failure? : Option Failure) (t : Transport) :
    (t.keep failure?).written = t.written := by
  cases failure? <;> rfl

theorem written_record (frame : Bytes) (t : Transport) :
    (t.record [.wrote connection frame, .activity]).written = t.written ++ [frame] := by
  simp [record, written]

theorem written_leave (frame : Bytes) (t : Transport) :
    (t.leave [.wrote connection frame, .activity, .hungUp connection]).written =
      t.written ++ [frame] := by
  simp [leave, record, written]

/-- A socket that takes what is sent is given the frame of the message. -/
theorem send_taken (link : t.link = some connection) (plain : t.rawTarget = none)
    (takes : outside.send = none) {m : Message} (legal : Frame.Legal (t.stamp m)) :
    send outside m t =
      (.ok (), t.record [.wrote connection (Frame.bytesOf (t.stamp m)), .activity]) := by
  have encoded := (encode_plain plain m).trans (Frame.encode_legal legal)
  obtain ⟨fault, he, -⟩ | ⟨frame, he, ⟨-, hs⟩ | ⟨fault, ho, -⟩⟩ := send_cases link outside m
  · exact absurd (encoded.symm.trans he) nofun
  · rwa [Except.ok.inj (encoded.symm.trans he)]
  · exact absurd (takes.symm.trans ho) nofun

theorem tells_stamp {kind : Kind} {data : Bytes} {now : Int}
    (legal : Frame.Legal (t.stamp (.ofKind kind data now))) :
    Tells t.target kind data (Frame.bytesOf (t.stamp (.ofKind kind data now))) :=
  ⟨t.session, now, Frame.decode_bytesOf legal⟩

/-- A socket that takes what is sent is given one CLOSE frame when the connection is closed. -/
theorem close_taken (live : Live connection t) (calm : Calm outside)
    (takes : outside.send = none) :
    ∃ frame, Tells t.target .close [] frame ∧
      close outside t =
        (.ok (), t.leave [.wrote connection frame, .activity, .hungUp connection]) := by
  have legal := legal_ofKind live .close [] (Nat.zero_le _) calm.now
  have sent := send_taken (t := { t with closed := true }) live.link live.plain takes legal
  refine ⟨_, tells_stamp legal, ?_⟩
  rw [close_linked live.unclosed live.link, sent, afterParting, hangUp_usual calm.close]
  simp only [leave, record, List.append_assoc, List.cons_append, List.nil_append]
  rfl

end
end Transport

open Transport

namespace Terminal

/-- A key that is struck, and when. -/
structure Stroke where
  clock : Float
  key : UInt8

namespace Stroke

/-- When Ctrl+C was last struck. -/
def lastInterrupt (past : List Stroke) : Option Float :=
  (past.filter fun stroke => stroke.key = interruptKey).getLast?.map clock

/-- The line as it is typed: Ctrl+C clears it, and it follows any other key. -/
def line (past : List Stroke) : Line :=
  past.foldl (fun l stroke => if stroke.key = interruptKey then .cleared else l.track stroke.key) {}

/-- The second Ctrl+C in quick succession. -/
def isSecondInterrupt (past : List Stroke) (stroke : Stroke) : Bool :=
  stroke.key == interruptKey &&
    (lastInterrupt past).any fun last => decide (stroke.clock - last < interruptWindow)

/-- Ctrl+D on an empty line. -/
def isExit (past : List Stroke) (stroke : Stroke) : Bool :=
  stroke.key == endKey && (line past).isEmpty

end Stroke

/-- What an event comes to: what the screen shows, the key that the remote side is sent, and whether
the session ends. -/
structure Effect where
  shows : Bytes := []
  sends : Option UInt8 := none
  ends : Bool := false
  deriving DecidableEq

def Stroke.effect (past : List Stroke) (stroke : Stroke) : Effect :=
  if stroke.isSecondInterrupt past then { shows := exitingText, ends := true }
  else if stroke.key = interruptKey then { shows := interruptText }
  else if stroke.isExit past then { shows := exitText, ends := true }
  else { sends := some stroke.key }

def arrival (i : Incoming) : Effect :=
  match i.message? with
  | none => { ends := true }
  | some message =>
    if message.is .close then { ends := true }
    else if message.is .stdout || message.is .stderr then { shows := message.data }
    else {}

/-- An event of a session: something comes in, one key is struck, or the window is resized. -/
inductive Happening
  | incoming (i : Incoming)
  | key (key : UInt8)
  | resize (columns rows : Int)

namespace Happening

def event : Happening → Shell.Event
  | incoming i => .incoming i
  | key k => .key [k]
  | resize columns rows => .resize columns rows

def strokes (clock : Float) : Happening → List Stroke
  | incoming _ => []
  | key k => [⟨clock, k⟩]
  | resize _ _ => []

def effect (past : List Stroke) (clock : Float) : Happening → Effect
  | incoming i => arrival i
  | key k => Stroke.effect past ⟨clock, k⟩
  | resize _ _ => {}

end Happening

/-- What happens, as the events that a session takes. -/
def events (steps : List (Moment × Happening)) : List (Moment × Shell.Event) :=
  steps.map fun entry => (entry.1, entry.2.event)

/-- What the events come to, up to the one that ends the session, by the keys struck before them. -/
def transcript : List Stroke → List (Moment × Happening) → List Effect
  | _, [] => []
  | past, (m, h) :: rest =>
    let effect := h.effect past m.clock
    effect :: if effect.ends then [] else transcript (past ++ h.strokes m.clock) rest

namespace Stroke

section
variable {past : List Stroke} {stroke : Stroke}

theorem line_snoc (past : List Stroke) (stroke : Stroke) :
    line (past ++ [stroke]) =
      if stroke.key = interruptKey then .cleared else (line past).track stroke.key := by
  simp only [line, List.foldl_append, List.foldl_cons, List.foldl_nil]

theorem lastInterrupt_snoc (past : List Stroke) (stroke : Stroke) :
    lastInterrupt (past ++ [stroke]) =
      if stroke.key = interruptKey then some stroke.clock else lastInterrupt past := by
  simp only [lastInterrupt, List.filter_append]
  by_cases h : stroke.key = interruptKey
  · simp [h]
  · simp [h]

end
end Stroke

/-- What has happened to a session between two of its states: what the screen was shown and what
the remote side was sent. -/
structure Follows (target : String) (effects : List Effect) (t t' : Shell) : Prop where
  shown : t'.shown.flatten = t.shown.flatten ++ effects.flatMap Effect.shows
  /-- One STDIN frame for each key that is sent, and then, if the session ended, one CLOSE frame. -/
  written : ∃ keys parting,
    t'.transport.written = t.transport.written ++ keys ++ parting ∧
    List.Forall₂ (fun key frame => Tells target .stdin [key] frame)
      (effects.filterMap Effect.sends) keys ∧
    if effects.any Effect.ends then ∃ frame, parting = [frame] ∧ Tells target .close [] frame
    else parting = []
  ended : t'.outcome.isSome = effects.any Effect.ends

/-- Everything that is sent and shown is taken. -/
structure Quiet (m : Moment) : Prop where
  calm : Calm m.outside
  takes : m.outside.send = none
  shows : m.screen = none

/-- A session under way, after some keys. -/
structure Typed (connection : Nat) (target : String) (past : List Stroke) (t : Shell) : Prop
    extends Shell.Open (Running connection target) t where
  reading : t.reading = true
  typing : t.typing = true
  line : t.line = Stroke.line past
  last : t.lastInterrupt = Stroke.lastInterrupt past

section
variable {connection : Nat} {target : String} {past : List Stroke} {t t' t'' : Shell}
variable {m : Moment} {effects : List Effect} {effect : Effect}

theorem Typed.running (h : Typed connection target past t) :
    Running connection target t.transport :=
  h.knows h.reading

theorem Follows.cons (first : Follows target [effect] t t') (goes : effect.ends = false)
    (later : Follows target effects t' t'') : Follows target (effect :: effects) t t'' := by
  obtain ⟨keys, parting, written, tells, parts⟩ := first.written
  obtain ⟨keys', parting', written', tells', parts'⟩ := later.written
  have none : parting = [] := by simpa [goes] using parts
  refine ⟨?_, ⟨keys ++ keys', parting', ?_, ?_, ?_⟩, ?_⟩
  · rw [later.shown, first.shown]
    simp
  · rw [written', written, none]
    simp
  · rw [← List.singleton_append, List.filterMap_append]
    exact List.rel_append tells tells'
  · simpa [goes] using parts'
  · simpa [goes] using later.ended

/-- A step that ends the session, and shows nothing after what was shown before the end. -/
theorem follows_end {result : Except Trouble Unit} {shows frame : Bytes}
    (finished : Shell.Over result t') (shown : t'.shown.flatten = t.shown.flatten ++ shows)
    (written : t'.transport.written = t.transport.written ++ [frame])
    (tells : Tells target .close [] frame) :
    Follows target [{ shows, ends := true }] t t' where
  shown := by simpa using shown
  written := ⟨[], [frame], by simpa using written, by simp, by simpa using tells⟩
  ended := by simp [finished.outcome]

/-! ## One event -/

/-- A step with this effect, after which the session is over or goes on with these keys. -/
def Proceeds (connection : Nat) (target : String) (past : List Stroke) (effect : Effect)
    (t t' : Shell) : Prop :=
  Follows target [effect] t t' ∧
    if effect.ends then ∃ result, Shell.Over result t' else Typed connection target past t'

theorem proceeds_quit (t' : Shell) (running : Running connection target t'.transport)
    (quiet : Quiet m)
    {shows : Bytes} (waits : Shell.Waits t') (past : List Stroke)
    (shown : t'.shown.flatten = t.shown.flatten ++ shows)
    (written : t'.transport.written = t.transport.written) :
    Proceeds connection target past { shows, ends := true } t
      ((t'.quit none).settle m.outside) := by
  obtain ⟨frame, tells, closed⟩ := close_taken running.toLive quiet.calm quiet.takes
  rw [running.named] at tells
  obtain ⟨finished, -, transport, same⟩ := waits.settle_quit none m.outside
  refine ⟨follows_end finished (by rw [same, shown]) ?_ tells, _, finished⟩
  rw [transport, closed, written_leave, written]

theorem proceeds_on (typed : Typed connection target past t') {shows : Bytes}
    (shown : t'.shown.flatten = t.shown.flatten ++ shows)
    (written : t'.transport.written = t.transport.written) :
    Proceeds connection target past { shows } t (t'.settle m.outside) := by
  rw [typed.toWaits.settle]
  refine ⟨⟨by simpa using shown, ⟨[], [], by simpa using written, by simp, by simp⟩, ?_⟩, typed⟩
  rw [typed.unfinished]
  rfl

theorem shown_note (bytes : Bytes) (t : Shell) :
    (t.note (.showed bytes)).shown.flatten = t.shown.flatten ++ bytes := by
  simp [Shell.shown, Shell.note]

theorem Typed.heard (h : Typed connection target past t) {message : Message}
    (fits : Frame.fits message.session = true) :
    Typed connection target past (t.withTransport (t.transport.heard message)) :=
  ⟨Shell.Open.heard h.toOpen h.reading fun running => (running.adopt fits).record _, h.reading,
    h.typing, h.line, h.last⟩

theorem Typed.note (h : Typed connection target past t) (act : LocalAct) :
    Typed connection target past (t.note act) :=
  ⟨⟨h.toWaits.note act, h.linked, h.knows⟩, h.reading, h.typing, h.line, h.last⟩

theorem proceeds_incoming (h : Typed connection target past t) (quiet : Quiet m) {i : Incoming}
    (sized : Sized i) :
    Proceeds connection target past (arrival i) t (t.step m (.incoming i)) := by
  cases arrives : i.message? with
  | none =>
    obtain ⟨failure?, closes⟩ := closes_of_no_message arrives t.transport
    obtain ⟨frame, tells, closed⟩ := close_taken h.running.toLive quiet.calm quiet.takes
    rw [h.running.named] at tells
    obtain ⟨finished, -, transport, shown⟩ := Shell.step_closes (m := m) h.toOpen h.reading
      (e := .incoming i) rfl closes (congrArg Prod.fst closed)
    simp only [arrival, arrives]
    refine ⟨follows_end finished (by simp [shown]) ?_ tells, _, finished⟩
    rw [transport, closed, written_keep, written_leave]
  | some message =>
    have brings := brings_of_message? arrives
    have heard := h.heard (brings.fits sized)
    rw [Shell.step_brings h.toOpen h.reading (e := .incoming i) rfl brings]
    have written : (t.withTransport (t.transport.heard message)).transport.written =
      t.transport.written := written_heard message t.transport
    cases ends : reader.ends message with
    | true =>
      rw [show arrival i = { ends := true } by
        simp only [arrival, arrives, (show message.is .close = true from ends), if_true],
        Shell.present_ends ends]
      exact proceeds_quit (t.withTransport (t.transport.heard message)).unread heard.running quiet
        heard.toWaits.unread past (List.append_nil _).symm written
    | false =>
      cases shows : reader.shows message with
      | true =>
        rw [show arrival i = { shows := message.data } by
          simp only [arrival, arrives, (show message.is .close = false from ends),
            (show (message.is .stdout || message.is .stderr) = true from shows), if_true,
            Bool.false_eq_true, if_false], Shell.present_shows shows, quiet.shows]
        exact proceeds_on (heard.note _) (shown_note message.data _) written
      | false =>
        rw [show arrival i = {} by
          simp only [arrival, arrives, (show message.is .close = false from ends),
            (show (message.is .stdout || message.is .stderr) = false from shows),
            Bool.false_eq_true, if_false], Shell.present_other ends shows]
        exact proceeds_on heard (List.append_nil _).symm written

/-! ## Keys -/

theorem echo_taken (shows : m.screen = none) (bytes : Bytes) (ends : Bool) (t : Shell) :
    t.echo m bytes ends = (.ok ends, t.note (.showed bytes)) := by
  simp only [Shell.echo, Shell.put, shows]

theorem step_key_eq (h : Typed connection target past t) (m : Moment) (key : UInt8) :
    t.step m (.key [key]) =
      ((t.handle m [key]).2.keyDone (t.handle m [key]).1).settle m.outside := by
  simp only [Shell.step, Shell.keyTurn, h.typing, h.uncancelled, Bool.not_false, Bool.and_self,
    if_true, List.isEmpty_cons, Bool.false_eq_true, if_false]

theorem Typed.sent (h : Typed connection target past t) (acts : List Act) :
    Typed connection target past (t.withTransport (t.transport.record acts)) :=
  ⟨⟨h.toWaits.withTransport _, h.linked, fun _ => h.running.record acts⟩, h.reading, h.typing,
    h.line,
    h.last⟩

theorem Typed.struck (h : Typed connection target past t) {stroke : Stroke} {line : Line}
    {last : Option Float} (lines : line = Stroke.line (past ++ [stroke]))
    (lasts : last = Stroke.lastInterrupt (past ++ [stroke])) :
    Typed connection target (past ++ [stroke]) { t with line, lastInterrupt := last } :=
  ⟨⟨⟨h.waiting, h.uncancelled, h.unfailed, h.uncleaned, h.unfinished⟩, h.linked, h.knows⟩,
    h.reading, h.typing, lines, lasts⟩

/-- Ctrl+C, the first of two or the second. -/
theorem proceeds_interrupt (h : Typed connection target past t) (quiet : Quiet m) :
    Proceeds connection target (past ++ [⟨m.clock, interruptKey⟩])
      (Stroke.effect past ⟨m.clock, interruptKey⟩) t (t.step m (.key [interruptKey])) := by
  rw [step_key_eq h]
  have handled : t.handle m [interruptKey] = t.interrupt m := by
    simp only [Shell.handle, if_true]
  have second : Stroke.isSecondInterrupt past ⟨m.clock, interruptKey⟩ =
      t.isSecondInterrupt m.clock := by
    simp only [Stroke.isSecondInterrupt, Shell.isSecondInterrupt, h.last, beq_self_eq_true,
      Bool.true_and]
  simp only [handled, Stroke.effect, second, Shell.interrupt, echo_taken quiet.shows]
  -- the first one of two clears the line and is remembered, the second one ends the session
  cases t.isSecondInterrupt m.clock with
  | true =>
    simp only [if_true]
    exact proceeds_quit (t.note (.showed exitingText)).untyped h.running quiet
      (h.toWaits.note _).untyped _ (shown_note ..) rfl
  | false =>
    simp only [Bool.false_eq_true, if_false, if_true]
    have struck : Typed connection target (past ++ [⟨m.clock, interruptKey⟩])
        { t with line := .cleared, lastInterrupt := some m.clock } :=
      h.struck (by rw [Stroke.line_snoc, if_pos rfl])
        (by rw [Stroke.lastInterrupt_snoc, if_pos rfl])
    exact proceeds_on (struck.note (.showed interruptText)) (shown_note ..) rfl

/-- Ctrl+D on an empty line. -/
theorem proceeds_exit (h : Typed connection target past t) (quiet : Quiet m)
    (empty : t.line.isEmpty = true) :
    Proceeds connection target (past ++ [⟨m.clock, endKey⟩])
      (Stroke.effect past ⟨m.clock, endKey⟩) t (t.step m (.key [endKey])) := by
  rw [step_key_eq h]
  have other : endKey ≠ interruptKey := by decide
  have exits : Stroke.isExit past ⟨m.clock, endKey⟩ = true := by
    simp only [Stroke.isExit, ← h.line, empty, beq_self_eq_true, Bool.and_self]
  have effect : Stroke.effect past ⟨m.clock, endKey⟩ = { shows := exitText, ends := true } := by
    simp [Stroke.effect, Stroke.isSecondInterrupt, other, exits]
  simp only [Shell.handle, other, if_false, decide_true, empty, Bool.and_self, if_true,
    echo_taken quiet.shows, effect]
  exact proceeds_quit (t.note (.showed exitText)).untyped h.running quiet
    (h.toWaits.note _).untyped _ (shown_note ..) rfl

/-- Any other key goes to the remote side. -/
theorem proceeds_forward (h : Typed connection target past t) (quiet : Quiet m) {key : UInt8}
    (other : key ≠ interruptKey) (stays : key = endKey → t.line.isEmpty = false) :
    Proceeds connection target (past ++ [⟨m.clock, key⟩])
      (Stroke.effect past ⟨m.clock, key⟩) t (t.step m (.key [key])) := by
  have effect : Stroke.effect past ⟨m.clock, key⟩ = { sends := some key } := by
    have exits : Stroke.isExit past ⟨m.clock, key⟩ = false := by
      simp only [Stroke.isExit, ← h.line, Bool.and_eq_false_imp, beq_iff_eq]
      exact stays
    simp [Stroke.effect, Stroke.isSecondInterrupt, other, exits]
  have legal := legal_ofKind h.running.toLive .stdin [key]
    (show 1 ≤ Frame.maxPayload by decide) quiet.calm.now
  obtain ⟨frame, tells, sent⟩ : ∃ frame, Tells target .stdin [key] frame ∧
      t.transport.send m.outside (.ofKind .stdin [key] m.outside.now) =
        (.ok (), t.transport.record [.wrote connection frame, .activity]) :=
    ⟨_, h.running.named ▸ tells_stamp legal,
      send_taken h.running.link h.running.plain quiet.takes legal⟩
  have next : Typed connection target (past ++ [⟨m.clock, key⟩])
      { t with
        line := t.line.trackAll [key]
        transport := t.transport.record [.wrote connection frame, .activity] } :=
    (h.sent _).struck (by rw [Stroke.line_snoc, if_neg other, ← h.line]; rfl)
      (by rw [Stroke.lastInterrupt_snoc, if_neg other, ← h.last])
  rw [step_key_eq h, Shell.handle_forwards ⟨key, [], rfl, other, stays⟩, effect]
  simp only [Shell.forward, sent, Shell.keyDone]
  rw [next.toWaits.settle]
  refine ⟨⟨(List.append_nil _).symm, ⟨[_], [], ?_, .cons tells .nil, rfl⟩, ?_⟩, next⟩
  · rw [List.append_nil]
    exact written_record _ t.transport
  · rw [next.unfinished]
    rfl

theorem proceeds_key (h : Typed connection target past t) (quiet : Quiet m) (key : UInt8) :
    Proceeds connection target (past ++ [⟨m.clock, key⟩]) (Stroke.effect past ⟨m.clock, key⟩) t
      (t.step m (.key [key])) := by
  by_cases interrupts : key = interruptKey
  · subst interrupts
    exact proceeds_interrupt h quiet
  · cases empty : t.line.isEmpty with
    | false => exact proceeds_forward h quiet interrupts fun _ => empty
    | true =>
      by_cases ends : key = endKey
      · subst ends
        exact proceeds_exit h quiet empty
      · exact proceeds_forward h quiet interrupts fun same => absurd same ends

/-! ## Every run -/

theorem proceeds (h : Typed connection target past t) (quiet : Quiet m) (happening : Happening)
    (sized : ∀ i, happening.event.brought = some (some i) → Sized i) :
    Proceeds connection target (past ++ happening.strokes m.clock)
      (happening.effect past m.clock) t (t.step m happening.event) := by
  cases happening with
  | incoming i =>
    rw [Happening.strokes, List.append_nil]
    exact proceeds_incoming h quiet (sized i rfl)
  | key k => exact proceeds_key h quiet k
  | resize columns rows =>
    rw [Happening.strokes, List.append_nil]
    exact proceeds_on h (List.append_nil _).symm rfl

/-- Nothing is shown or sent after the end. -/
theorem play_silent {result : Except Trouble Unit} (finished : Shell.Over result t)
    (steps : List (Moment × Shell.Event)) :
    ∃ phase, controller.play steps t = { t with phase } := by
  induction steps generalizing t with
  | nil => exact ⟨t.phase, rfl⟩
  | cons entry rest ih =>
    obtain ⟨phase, same⟩ := finished.step entry.1 entry.2
    obtain ⟨phase', later⟩ := ih (finished.later entry.1 entry.2).1
    refine ⟨phase', later.trans ?_⟩
    rw [same]

theorem play_follows {steps : List (Moment × Happening)} (h : Typed connection target past t)
    (quiet : ∀ entry ∈ steps, Quiet entry.1) (fitting : Fitting (events steps)) :
    Follows target (transcript past steps) t (controller.play (events steps) t) := by
  induction steps generalizing past t with
  | nil =>
    refine ⟨(List.append_nil _).symm, ⟨[], [], by simp [events, Machine.play], .nil, rfl⟩, ?_⟩
    exact congrArg Option.isSome h.unfinished
  | cons entry rest ih =>
    obtain ⟨m, happening⟩ := entry
    obtain ⟨follows, next⟩ := proceeds h (quiet _ List.mem_cons_self) happening
      (fitting (m, happening.event) List.mem_cons_self)
    simp only [transcript, events, List.map_cons, Machine.play]
    cases ends : (happening.effect past m.clock).ends with
    | true =>
      rw [ends, if_pos rfl] at next
      obtain ⟨result, finished⟩ := next
      obtain ⟨phase, silent⟩ := play_silent finished (events rest)
      rw [if_pos rfl]
      exact silent ▸ ⟨follows.shown, follows.written, follows.ended⟩
    | false =>
      rw [ends, if_neg Bool.false_ne_true] at next
      rw [if_neg Bool.false_ne_true]
      exact follows.cons ends (ih next (fun entry member => quiet entry (.tail _ member))
        fun entry member => fitting entry (.tail _ member))

end

/-- **The transcript of a session.** What the screen shows and what the remote side is sent follow
from the events up to the one that ends the session: the payloads of remote output and the echoes of
Ctrl+C and Ctrl+D, in order; and the keys that are not intercepted, one STDIN frame each, with one
CLOSE frame at the end. Whatever comes after the end changes nothing of it. -/
theorem transcript_played {connection : Nat} {target : String} {transport : Transport}
    (running : Running connection target transport) (outside : Outside)
    {steps : List (Moment × Happening)} (quiet : ∀ entry ∈ steps, Quiet entry.1)
    (fitting : Fitting (events steps)) :
    ∃ start, Shell.start outside {} { transport } = .ok start ∧
      start.shown = [] ∧ start.transport = transport ∧
      let t := controller.play (events steps) start
      Follows target (transcript [] steps) start t ∧
        (t.outcome.isSome → ∀ later,
          (controller.play later t).shown = t.shown ∧
            (controller.play later t).transport = t.transport) := by
  have connected : transport.isConnected = true := by rw [isConnected, running.link]; rfl
  have typed : Typed connection target [] (Shell.begun transport) :=
    ⟨Shell.begun_open connected running, rfl, rfl, rfl, rfl⟩
  refine ⟨_, Shell.start_begun connected running.clean outside, rfl, rfl,
    play_follows typed quiet fitting, fun ended later => ?_⟩
  obtain waits | ⟨result, finished⟩ := Shell.play_running fitting typed.toOpen
  · rw [waits.unfinished] at ended
    cases ended
  · obtain ⟨phase, silent⟩ := play_silent finished later
    rw [silent]
    exact ⟨rfl, rfl⟩

/-- A session with a key, some output and the end that the remote side makes, which another key
comes too late for. -/
theorem transcript_played_briefly :
    let transport := (connect { now := 0 } none "ws://c/x" [] (.initial "m" "")).2
    let output : Bytes := [0x82, 0xA4, 0x74, 0x79, 0x70, 0x65, 0x01,
      0xA4, 0x64, 0x61, 0x74, 0x61, 0xC4, 0x02, 0x68, 0x69]
    let close : Bytes := [0x81, 0xA4, 0x74, 0x79, 0x70, 0x65, 0x04]
    let m : Moment := { outside := { now := 1 } }
    let steps : List (Moment × Happening) := [(m, .key 0x61), (m, .incoming (.frame output)),
      (m, .incoming (.frame close)), (m, .key 0x62)]
    ∃ start, Shell.start { now := 0 } {} { transport } = .ok start ∧
      (controller.play (events steps) start).shown.flatten = [0x68, 0x69] ∧
      ∃ key parting, (controller.play (events steps) start).transport.written = [key, parting] ∧
        Tells "m" .stdin [0x61] key ∧ Tells "m" .close [] parting := by
  intro transport output close m steps
  have running : Running 0 "m" transport := ⟨⟨rfl, rfl, rfl, by decide, by decide⟩, rfl, rfl, rfl⟩
  have quiet : ∀ entry ∈ steps, Quiet entry.1 := by
    have here : Quiet m := ⟨⟨(by decide : Pack.Encodable 1), .fine, .fine⟩, rfl, rfl⟩
    simp only [steps, List.forall_mem_cons]
    exact ⟨here, here, here, here, List.forall_mem_nil _⟩
  have fitting : Fitting (events steps) := by
    simp only [Fitting, events, steps, List.map_cons, List.map_nil, List.forall_mem_cons]
    refine ⟨nofun, ?_, ?_, nofun, List.forall_mem_nil _⟩
    · rintro _ ⟨⟩
      exact (by decide : output.length ≤ Frame.maxSize)
    · rintro _ ⟨⟩
      exact (by decide : close.length ≤ Frame.maxSize)
  obtain ⟨start, started, blank, same, ⟨shown, ⟨keys, parting, written, tells, parts⟩, -⟩, -⟩ :=
    transcript_played running { now := 0 } quiet fitting
  have effects : transcript [] steps = [{ sends := some 0x61 }, { shows := [0x68, 0x69] },
      { ends := true }] := by
    decide +kernel
  rw [effects] at shown tells parts
  rw [blank] at shown
  obtain ⟨frame, rfl, close⟩ := parts
  obtain ⟨_, _, key, ⟨⟩, rfl⟩ := List.forall₂_cons_left_iff.1 tells
  exact ⟨start, started, shown, _, frame, written.trans (by rw [same]; rfl), key, close⟩

end Terminal
end EdgeSession
