import EdgeSession.Session.Transport
import EdgeSession.Terminal.Line

/-!
An operator's terminal on a remote session. Remote output goes to the screen and keys go to the
remote side, byte for byte; only a double Ctrl+C and a Ctrl+D on an empty line are taken for
commands. One loop reads the connection, another the keyboard; whichever meets the end first ends
the session for both, and then it is cleaned up once.
-/
namespace EdgeSession.Terminal

def interruptKey : UInt8 := 0x03
def endKey : UInt8 := 0x04

/-- A second Ctrl+C within this many seconds ends the session. -/
def interruptWindow : Float := 1.0

def exitingText : Bytes := Utf8.encode "\r\nExiting...\r\n"
def interruptText : Bytes := Utf8.encode "\r\x1b[K^C\r\n"
def exitText : Bytes := Utf8.encode "exit\r\n"

inductive Phase
  | idle
  | raw
  | closing
  | closed
  deriving DecidableEq, Repr

def Phase.word : Phase → String
  | .idle => "idle"
  | .raw => "raw"
  | .closing => "closing"
  | .closed => "closed"

/-- What is done to the local terminal. -/
inductive LocalAct
  | showed (bytes : Bytes)
  /-- Output that the screen did not take. -/
  | refused (bytes : Bytes)
  | enteredRaw
  | restored
  | watchedSize
  | unwatchedSize
  deriving DecidableEq, Repr

/-- What the world does while a step runs: the network, the screen, which may refuse output, and
the time in seconds. -/
structure Moment where
  outside : Outside
  screen : Option ScreenFault := none
  clock : Float := 0.0

/-- What stands in the way of a start: an error text where the terminal cannot be made raw, and
trouble where its size cannot be watched. -/
structure Hindrance where
  raw : Option String := none
  watch : Option Trouble := none
  deriving DecidableEq, Repr

/-- What handling a key may raise. The network's errors and the screen's are kept apart here, unless
the screen's are none of the system's. -/
inductive KeyTrouble
  | session (trouble : Trouble)
  | screen (text : String)
  deriving DecidableEq, Repr

/-- A shell on the remote side. `reading` and `typing` say whether the loops run, `waiting` whether
a call of `start` waits for the end, and `outcome` what that call came to. -/
structure Shell where
  transport : Transport
  line : Line := {}
  lastInterrupt : Option Float := none
  phase : Phase := .idle
  cancelled : Bool := false
  failure : Option Failure := none
  cleaned : Bool := false
  reading : Bool := false
  typing : Bool := false
  waiting : Bool := false
  outcome : Option (Except Trouble Unit) := none
  journal : List LocalAct := []

namespace Shell

def note (act : LocalAct) (t : Shell) : Shell := { t with journal := t.journal ++ [act] }

/-- Everything the screen showed, piece by piece. -/
def shown (t : Shell) : List Bytes :=
  t.journal.filterMap fun
    | .showed bytes => some bytes
    | _ => none

/-- Writes to the screen. -/
def put (m : Moment) (bytes : Bytes) (t : Shell) : Except ScreenFault Unit × Shell :=
  match m.screen with
  | some fault => (.error fault, t.note (.refused bytes))
  | none => (.ok (), t.note (.showed bytes))

/-- Writes to the screen and answers whether the session ends. -/
def echo (m : Moment) (bytes : Bytes) (ends : Bool) (t : Shell) :
    Except KeyTrouble Bool × Shell :=
  match t.put m bytes with
  | (.ok _, t) => (.ok ends, t)
  | (.error (.system text), t) => (.error (.screen text), t)
  | (.error (.foreign text), t) => (.error (.session (.network (.foreign text))), t)

/-- Whether a Ctrl+C now is the second of two. -/
def isSecondInterrupt (t : Shell) (now : Float) : Bool :=
  t.lastInterrupt.any fun last => decide (now - last < interruptWindow)

/-- Ctrl+C: the second of two ends the session, any other clears the line. -/
def interrupt (m : Moment) (t : Shell) : Except KeyTrouble Bool × Shell :=
  if t.isSecondInterrupt m.clock then t.echo m exitingText true
  else
    { t with lastInterrupt := some m.clock, line := .cleared }.echo m interruptText false

/-- Sends keys to the remote side. -/
def forward (m : Moment) (data : Bytes) (t : Shell) : Except KeyTrouble Bool × Shell :=
  let t := { t with line := t.line.trackAll data }
  match t.transport.send m.outside (.ofKind .stdin data m.outside.now) with
  | (.ok _, transport) => (.ok false, { t with transport })
  | (.error trouble, transport) => (.error (.session trouble), { t with transport })

/-- Handles one chunk of keys; true when it ends the session. -/
def handle (m : Moment) (data : Bytes) (t : Shell) : Except KeyTrouble Bool × Shell :=
  match data with
  | [] => (.ok false, t)
  | first :: _ =>
    if first = interruptKey then t.interrupt m
    else if first = endKey && t.line.isEmpty then t.echo m exitText true
    else t.forward m data

/-- Ends the session for both loops. -/
def finish (t : Shell) : Shell :=
  { t with phase := if t.phase = .raw then .closing else t.phase, cancelled := true }

/-- Ends the session with a failure; the first one counts. -/
def fail (failure : Failure) (t : Shell) : Shell :=
  { t with failure := t.failure <|> some failure }.finish

/-- A loop met a failure: it counts only while the session lives. -/
def failUnlessOver (failure : Failure) (t : Shell) : Shell :=
  if t.cancelled then t else t.fail failure

def writeFailure (text : String) : Failure :=
  .localTerminal ("failed to write to terminal: " ++ text)

def readFailure (text : String) : Failure :=
  .localTerminal ("failed to read from terminal: " ++ text)

/-- What the reading loop does with a message. An error of the screen's that is none of the system's
ends the loop and nothing else. -/
def present (m : Moment) (message : Message) (t : Shell) : Shell :=
  if message.is .close then { t with reading := false }.finish
  else if message.is .stdout || message.is .stderr then
    match t.put m message.data with
    | (.ok _, t) => t
    | (.error (.system text), t) => { t with reading := false }.fail (writeFailure text)
    | (.error (.foreign _), t) => { t with reading := false }
  else t

/-- What the reading loop does with the result of a read. A failure that is none of a session's
ends the loop and nothing else. -/
def readDone (m : Moment) (result : Except Trouble (Option Message)) (t : Shell) : Shell :=
  match result with
  | .ok (some message) => t.present m message
  | .ok none => { t with reading := false }.finish
  | .error (.session failure) => { t with reading := false }.failUnlessOver failure
  | .error _ => { t with reading := false }

/-- One turn of the reading loop. -/
def readTurn (m : Moment) (incoming : Incoming) (t : Shell) : Shell :=
  if t.reading && !t.cancelled then
    let (result, transport, _) := t.transport.read m.outside [incoming]
    { t with transport }.readDone m result
  else t

/-- One turn of the reading loop in which the connection answers with a fault. -/
def readFailed (m : Moment) (fault : NetworkFault) (t : Shell) : Shell :=
  if t.reading && !t.cancelled then
    let (result, transport) := t.transport.readFault m.outside fault
    { t with transport }.readDone m result
  else t

/-- What the typing loop does with the result of handling keys. An error of the operating system
is put down to the screen. -/
def keyDone (result : Except KeyTrouble Bool) (t : Shell) : Shell :=
  match result with
  | .ok false => t
  | .ok true => { t with typing := false }.finish
  | .error (.session (.session failure)) => { t with typing := false }.failUnlessOver failure
  | .error (.session (.network (.system _ text))) =>
    { t with typing := false }.fail (writeFailure text)
  | .error (.screen text) => { t with typing := false }.fail (writeFailure text)
  | .error (.session _) => { t with typing := false }

/-- One turn of the typing loop. No data means that the keyboard is closed. -/
def keyTurn (m : Moment) (data : Bytes) (t : Shell) : Shell :=
  if t.typing && !t.cancelled then
    if data.isEmpty then { t with typing := false }
    else
      let (result, t) := t.handle m data
      t.keyDone result
  else t

/-- The keyboard cannot be read. -/
def keyFailed (text : String) (t : Shell) : Shell :=
  if t.typing && !t.cancelled then { t with typing := false }.fail (readFailure text) else t

/-- Closes the connection and gives the local terminal back. Only the first call does anything. -/
def cleanup (outside : Outside) (t : Shell) : Except Trouble Unit × Shell :=
  if t.cleaned then (.ok (), t)
  else
    let t := { t with cleaned := true, cancelled := true }
    match t.transport.close outside with
    | (.error trouble, transport) => (.error trouble, { t with transport })
    | (.ok _, transport) =>
      let t := ({ t with transport }.note .unwatchedSize).note .restored
      (.ok (), { t with phase := .closed })

/-- What `start` comes to after the cleanup. -/
def result (t : Shell) : Except Trouble Unit :=
  match t.failure with
  | some failure => .error (.session failure)
  | none => .ok ()

/-- The waiting call goes on once the session is over: it cleans up and returns. -/
def settle (outside : Outside) (t : Shell) : Shell :=
  if t.waiting && t.cancelled then
    match t.cleanup outside with
    | (.ok _, t) => { t with waiting := false, outcome := some t.result }
    | (.error trouble, t) => { t with waiting := false, outcome := some (.error trouble) }
  else t

/-- The call cannot go on: it cleans up and raises what stopped it. -/
def abandon (outside : Outside) (trouble : Trouble) (t : Shell) : Shell :=
  match t.cleanup outside with
  | (.ok _, t) => { t with waiting := false, outcome := some (.error trouble) }
  | (.error other, t) => { t with waiting := false, outcome := some (.error other) }

/-- The operator's interrupt, which reaches the call while it waits. -/
def interrupted (outside : Outside) (t : Shell) : Shell :=
  if t.waiting then t.abandon outside (.network .interrupted) else t

/-- A failure that the transport brought along ends the session at once; else keys are read. -/
def checkSticky (t : Shell) : Shell :=
  match t.transport.sticky with
  | some failure => t.fail failure
  | none => { t with typing := true }

/-- A connection that is gone shows at the first read. -/
def firstRead (t : Shell) : Shell :=
  if t.transport.isConnected then t
  else { t with reading := false }.failUnlessOver Transport.unconnected

/-- Raw mode is entered. -/
def enter (t : Shell) : Shell := { t.note .enteredRaw with phase := .raw }

/-- The size is watched and the loops begin. -/
def launch (t : Shell) : Shell := { t.note .watchedSize with reading := true, waiting := true }

/-- Starts a session that is idle, up to where it waits for the end; in any other phase it is
refused. -/
def start (outside : Outside) (hindrance : Hindrance) (t : Shell) : Except Phase Shell :=
  if t.phase ≠ .idle then .error t.phase
  else match hindrance with
    | { raw := some text, .. } => .ok (t.abandon outside (.session (.localTerminal text)))
    | { raw := none, watch := some trouble } => .ok (t.enter.abandon outside trouble)
    | { raw := none, watch := none } =>
      .ok (t.enter.launch.checkSticky.firstRead.settle outside)

def startedText (phase : Phase) : String := "terminal session already " ++ phase.word

/-- Ends the session from outside. -/
def stop (outside : Outside) (t : Shell) : Except Trouble Unit × Shell :=
  t.finish.cleanup outside

inductive Event
  | incoming (i : Incoming)
  | readError (fault : NetworkFault)
  | key (data : Bytes)
  | keyError (text : String)
  | stop
  | interrupt
  | resize (columns rows : Int)
  deriving DecidableEq, Repr

/-- One event, and what follows from it until the loops wait again. -/
def step (m : Moment) (e : Event) (t : Shell) : Shell :=
  let t := match e with
    | .incoming i => t.readTurn m i
    | .readError fault => t.readFailed m fault
    | .key data => t.keyTurn m data
    | .keyError text => t.keyFailed text
    | .stop => (t.stop m.outside).2
    | .interrupt => t.interrupted m.outside
    | .resize _ _ => t
  t.settle m.outside

end Shell
end EdgeSession.Terminal
