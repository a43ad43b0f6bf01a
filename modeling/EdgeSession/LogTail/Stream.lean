import EdgeSession.Session.Transport

/-!
A live log on the screen. Lines are shown as they come until the remote side stops the stream,
reports an error or ends the connection.
-/
namespace EdgeSession.LogTail

inductive Phase
  | idle
  | streaming
  | done
  deriving DecidableEq, Repr

def Phase.word : Phase → String
  | .idle => "idle"
  | .streaming => "streaming"
  | .done => "done"

/-- A line as it is shown: with a line feed at its end, whether or not it came with one. -/
def renderLine (data : Bytes) : Bytes :=
  if data.getLast? = some 0x0A then data else data ++ [0x0A]

def defaultErrorText : List Char := "Log streaming error occurred".toList

/-- What is shown of an error that the remote side reports. -/
def renderError (data : Bytes) : Bytes :=
  let text := Utf8.decodeLossy data
  let text := if text.isEmpty then defaultErrorText else text
  Utf8.encodeChars ("Error: ".toList ++ text ++ ['\n'])

/-- Output, taken by the screen or not. -/
inductive Output
  | showed (bytes : Bytes)
  | refused (bytes : Bytes)
  deriving DecidableEq, Repr

/-- What the world does while a step runs: the network, and the screen, which may refuse output. -/
structure Moment where
  outside : Outside
  screen : Option ScreenFault := none

/-- A log session. `reading` says whether the loop runs, `waiting` whether a call of `start` waits
for the end, and `outcome` what that call came to. -/
structure Stream where
  transport : Transport
  phase : Phase := .idle
  cancelled : Bool := false
  failure : Option Failure := none
  cleaned : Bool := false
  reading : Bool := false
  waiting : Bool := false
  outcome : Option (Except Trouble Unit) := none
  journal : List Output := []

namespace Stream

def shown (s : Stream) : List Bytes :=
  s.journal.filterMap fun
    | .showed bytes => some bytes
    | .refused _ => none

def put (m : Moment) (bytes : Bytes) (s : Stream) : Except ScreenFault Unit × Stream :=
  match m.screen with
  | some fault => (.error fault, { s with journal := s.journal ++ [.refused bytes] })
  | none => (.ok (), { s with journal := s.journal ++ [.showed bytes] })

/-- Ends the stream. -/
def finish (s : Stream) : Stream := { s with cancelled := true }

/-- Ends the stream with a failure, unless it is a closure in good order; the first one counts. -/
def fail (failure : Failure) (s : Stream) : Stream :=
  if failure.isGraceful then s.finish
  else { s with failure := s.failure <|> some failure }.finish

/-- The loop met a failure: it counts only while the stream lives. -/
def failUnlessOver (failure : Failure) (s : Stream) : Stream :=
  if s.cancelled then s else s.fail failure

def writeFailure (text : String) : Failure :=
  .localTerminal ("failed to write log output: " ++ text)

/-- What the loop does with a message. An error that the screen does not take ends the stream all
the same. An error of the screen's that is none of the system's ends the loop and nothing else. -/
def present (m : Moment) (message : Message) (s : Stream) : Stream :=
  if message.is .logLine then
    match s.put m (renderLine message.data) with
    | (.ok _, s) => s
    | (.error (.system text), s) => { s with reading := false }.fail (writeFailure text)
    | (.error (.foreign _), s) => { s with reading := false }
  else if message.is .logStop then { s with reading := false }.finish
  else if message.is .logError then
    match s.put m (renderError message.data) with
    | (.error (.foreign _), s) => { s with reading := false }
    | (_, s) => { s with reading := false }.finish
  else s

/-- What the loop does with the result of a read. A failure that is none of a session's ends the
loop and nothing else. -/
def readDone (m : Moment) (result : Except Trouble (Option Message)) (s : Stream) : Stream :=
  match result with
  | .ok (some message) => s.present m message
  | .ok none => { s with reading := false }.finish
  | .error (.session failure) => { s with reading := false }.failUnlessOver failure
  | .error _ => { s with reading := false }

/-- One turn of the loop. -/
def readTurn (m : Moment) (incoming : Incoming) (s : Stream) : Stream :=
  if s.reading && !s.cancelled then
    let (result, transport, _) := s.transport.read m.outside [incoming]
    { s with transport }.readDone m result
  else s

/-- One turn of the loop in which the connection answers with a fault. -/
def readFailed (m : Moment) (fault : NetworkFault) (s : Stream) : Stream :=
  if s.reading && !s.cancelled then
    let (result, transport) := s.transport.readFault m.outside fault
    { s with transport }.readDone m result
  else s

/-- Closes the connection. Only the first call does anything. -/
def cleanup (outside : Outside) (s : Stream) : Except Trouble Unit × Stream :=
  if s.cleaned then (.ok (), s)
  else
    let s := { s with cleaned := true, cancelled := true }
    match s.transport.close outside with
    | (.error trouble, transport) => (.error trouble, { s with transport })
    | (.ok _, transport) => (.ok (), { s with transport, phase := .done })

def result (s : Stream) : Except Trouble Unit :=
  match s.failure with
  | some failure => .error (.session failure)
  | none => .ok ()

/-- The waiting call goes on once the stream is over: it cleans up and returns. -/
def settle (outside : Outside) (s : Stream) : Stream :=
  if s.waiting && s.cancelled then
    match s.cleanup outside with
    | (.ok _, s) => { s with waiting := false, outcome := some s.result }
    | (.error trouble, s) => { s with waiting := false, outcome := some (.error trouble) }
  else s

/-- The user's interrupt, which reaches the waiting call: it cleans up and raises it. -/
def interrupted (outside : Outside) (s : Stream) : Stream :=
  if s.waiting then
    match s.cleanup outside with
    | (.ok _, s) =>
      { s with waiting := false, outcome := some (.error (.network .interrupted)) }
    | (.error trouble, s) => { s with waiting := false, outcome := some (.error trouble) }
  else s

/-- A failure that the transport brought along ends the stream at once. -/
def checkSticky (s : Stream) : Stream :=
  match s.transport.sticky with
  | some failure => s.fail failure
  | none => s

/-- A connection that is gone shows at the first read. -/
def firstRead (s : Stream) : Stream :=
  if s.transport.isConnected then s
  else { s with reading := false }.failUnlessOver Transport.unconnected

def launch (s : Stream) : Stream :=
  { s with phase := .streaming, reading := true, waiting := true }

/-- Starts a stream that is idle, up to where it waits for the end; in any other phase it is
refused. -/
def start (outside : Outside) (s : Stream) : Except Phase Stream :=
  if s.phase ≠ .idle then .error s.phase
  else .ok (s.launch.checkSticky.firstRead.settle outside)

def startedText (phase : Phase) : String := "log stream already " ++ phase.word

/-- Ends the stream from outside. -/
def stop (outside : Outside) (s : Stream) : Except Trouble Unit × Stream :=
  s.finish.cleanup outside

inductive Event
  | incoming (i : Incoming)
  | readError (fault : NetworkFault)
  | stop
  | interrupt
  deriving DecidableEq, Repr

/-- One event, and what follows from it until the loop waits again. -/
def step (m : Moment) (e : Event) (s : Stream) : Stream :=
  let s := match e with
    | .incoming i => s.readTurn m i
    | .readError fault => s.readFailed m fault
    | .stop => (s.stop m.outside).2
    | .interrupt => s.interrupted m.outside
  s.settle m.outside

end Stream
end EdgeSession.LogTail
