import EdgeSession.LogTail.Stream
import EdgeSession.Script.World
import EdgeSession.Terminal.Shell

/-!
Playing a session by a script. The events are delivered one at a time until the session is over;
when they run out the stream ends.
-/
namespace EdgeSession.Script

/-- What stays in force from one event to the next. -/
structure Setting where
  now : Int
  faults : Json := .null
  clock : Float := 0.0
  /-- The first write to the screen that is refused, counted from one. -/
  failAt : Option Nat := none

namespace Setting

def outside (s : Setting) : Outside := outsideAt s.now s.faults

def failAtOf (j : Json) (old : Option Nat) : Option Nat :=
  match j.get? "fail_output_at" with
  | some (.int n) => some n.toNat
  | some _ => none
  | none => old

/-- The setting when an event comes. -/
def after (s : Setting) (event : Json) : Setting :=
  { s with
    faults := memberOr event "fault" s.faults
    clock := ((event.get? "t").map timeOf).getD s.clock
    failAt := failAtOf event s.failAt }

/-- What the screen says to the next write. -/
def screen (s : Setting) (writes : Nat) : Option ScreenFault :=
  match s.failAt with
  | some n => if n ≤ writes + 1 then some (.system "Input/output error") else none
  | none => none

end Setting

/-- The states that a session went through, the last one last, and the setting in the end. -/
structure Played (σ : Type) where
  states : List σ
  setting : Setting

def Played.final (p : Played σ) (start : σ) : σ := p.states.getLastD start

/-- Delivers events until the session is over. -/
def deliver (isOver : σ → Bool) (step : Setting → Json → σ → σ) :
    Setting → σ → List Json → Played σ
  | setting, s, [] => ⟨[s], setting⟩
  | setting, s, event :: events =>
    if isOver s then ⟨[s], setting⟩
    else
      let setting := setting.after event
      let played := deliver isOver step setting (step setting event s) events
      { played with states := s :: played.states }

/-- The end of the stream. -/
def ending : Json := .obj [("close", .null)]

def writesOf (t : Terminal.Shell) : Nat :=
  t.journal.countP fun
    | .showed _ => true
    | .refused _ => true
    | _ => false

def terminalMoment (s : Setting) (t : Terminal.Shell) : Terminal.Moment :=
  { outside := s.outside, screen := s.screen (writesOf t), clock := s.clock }

/-- What the operator does, if the event is not the network's. -/
def operatorEvent? (event : Json) : Option Terminal.Shell.Event :=
  match event.get? "key", text? event "key_error", event.get? "stop", event.get? "interrupt" with
  | some key, _, _, _ => some (.key (bytesOf key))
  | none, some text, _, _ => some (.keyError text)
  | none, none, some _, _ => some .stop
  | none, none, none, some _ => some .interrupt
  | none, none, none, none =>
    match items (member event "resize") with
    | [columns, rows] => some (.resize (integerOf columns) (integerOf rows))
    | _ => none

def terminalEvent? (event : Json) : Option Terminal.Shell.Event :=
  match incoming? event with
  | some i => some (.incoming i)
  | none => operatorEvent? event

def terminalStep (s : Setting) (event : Json) (t : Terminal.Shell) : Terminal.Shell :=
  match terminalEvent? event with
  | some e => t.step (terminalMoment s t) e
  | none => t

/-- Starts a terminal session and plays it to its end. -/
def playTerminal (s : Setting) (rawFault : Option String) (t : Terminal.Shell)
    (events : List Json) : Played Terminal.Shell :=
  let started := match t.start s.outside { raw := rawFault } with
    | .ok t => t
    | .error _ => t
  deliver (fun t => t.outcome.isSome) terminalStep s started (events ++ [ending])

def streamMoment (s : Setting) (t : LogTail.Stream) : LogTail.Moment :=
  { outside := s.outside, screen := s.screen t.journal.length }

def streamEvent? (event : Json) : Option LogTail.Stream.Event :=
  match incoming? event, event.get? "stop", event.get? "interrupt" with
  | some i, _, _ => some (.incoming i)
  | none, some _, _ => some .stop
  | none, none, some _ => some .interrupt
  | none, none, none => none

def streamStep (s : Setting) (event : Json) (t : LogTail.Stream) : LogTail.Stream :=
  match streamEvent? event with
  | some e => t.step (streamMoment s t) e
  | none => t

/-- Starts a log session and plays it to its end. -/
def playStream (s : Setting) (t : LogTail.Stream) (events : List Json) : Played LogTail.Stream :=
  let started := match t.start s.outside with
    | .ok t => t
    | .error _ => t
  deliver (fun t => t.outcome.isSome) streamStep s started (events ++ [ending])

end EdgeSession.Script
