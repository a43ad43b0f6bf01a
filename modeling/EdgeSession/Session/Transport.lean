import EdgeSession.Session.Frame
import EdgeSession.Session.Network

/-!
The transport of one session: a connection that carries frames for one target. The first failure
stays; after the first `close` the session is done. Everything that reaches the network is written
down in a journal.
-/
namespace EdgeSession

/-- How a connection is dialled. Times are in seconds. -/
structure Dial where
  url : String
  headers : List (String × String)
  /-- An address of the secure scheme is dialled with a context that trusts any certificate. -/
  secure : Bool
  openTimeout : Nat := 45
  closeTimeout : Nat := 5
  pingInterval : Nat := 30
  pongTimeout : Nat := 10
  maxSize : Nat := Frame.maxSize
  deriving DecidableEq, Repr

/-- What the transport does that others can see. Connections are numbered as they are made. -/
inductive Act
  | dial (dial : Dial)
  | wrote (connection : Nat) (frame : Bytes)
  /-- A frame that the connection did not take. -/
  | lost (connection : Nat) (frame : Bytes)
  | hungUp (connection : Nat)
  /-- The session's owner is told of activity. -/
  | activity
  deriving DecidableEq, Repr

structure Transport where
  target : String
  session : String
  /-- The identity of the target where it is no text. Frames carry it as it is. -/
  rawTarget : Option Json := none
  /-- The number of the live connection. -/
  link : Option Nat := none
  /-- How many connections were made. -/
  opened : Nat := 0
  closed : Bool := false
  sticky : Option Failure := none
  done : Bool := false
  journal : List Act := []
  deriving DecidableEq, Repr

namespace Transport

def initial (target session : String) : Transport := { target, session }

/-- A transport for a target as the control plane names it. -/
def forTarget : Json → Transport
  | .str target => initial target ""
  | id => { initial id.asText "" with rawTarget := some id }

def note (act : Act) (t : Transport) : Transport := { t with journal := t.journal ++ [act] }

/-- The first failure stays. -/
def stick (failure : Failure) (t : Transport) : Transport :=
  { t with sticky := t.sticky <|> some failure }

def isConnected (t : Transport) : Bool := t.link.isSome

/-- The frames written, in order. -/
def written (t : Transport) : List Bytes :=
  t.journal.filterMap fun
    | .wrote _ frame => some frame
    | _ => none

def dials (t : Transport) : List Dial :=
  t.journal.filterMap fun
    | .dial d => some d
    | _ => none

/-- How often a connection was closed. -/
def hangUps (t : Transport) : Nat :=
  t.journal.countP fun
    | .hungUp _ => true
    | _ => false

def activities (t : Transport) : Nat := t.journal.count .activity

/-- A message under this session's identity, whatever identity it came with. -/
def stamp (t : Transport) (m : Message) : Message :=
  { m with target := t.target, session := t.session }

def unconnected : Failure := .notConnected "not connected"

def encodeTrouble : Frame.EncodeFault → Trouble
  | .oversized length => .session (.oversized (Frame.sizeText length))
  | .outOfRange => .outOfRange
  | .tooLong => .tooLong

/-- What a caller sees of a fault on the live connection: a closed one is a closure. -/
def linkTrouble : NetworkFault → Trouble
  | .closed received sent => .session (closureOf received sent)
  | fault => .network fault

/-- The frame of a message under this session's identity. -/
def encode (t : Transport) (m : Message) : Except Frame.EncodeFault Bytes :=
  match t.rawTarget with
  | none => Frame.encode (t.stamp m)
  | some target => Frame.encodeUnder target (t.stamp m)

/-- Writes a message as one frame. -/
def send (outside : Outside) (m : Message) (t : Transport) : Except Trouble Unit × Transport :=
  match t.link with
  | none => (.error (.session unconnected), t)
  | some connection =>
    match t.encode m with
    | .error fault => (.error (encodeTrouble fault), t)
    | .ok frame =>
      match outside.send with
      | some fault => (.error (linkTrouble fault), t.note (.lost connection frame))
      | none => (.ok (), (t.note (.wrote connection frame)).note .activity)

/-- Trouble with the parting frame that does not stand in the way of closing: what is known of
sessions and of the operating system. -/
def isPassable : Trouble → Bool
  | .session _ => true
  | .network (.system _ _) => true
  | _ => false

/-- Faults in closing a connection that leave it closed all the same. -/
def isHarmless : NetworkFault → Bool
  | .foreign _ => false
  | .interrupted => false
  | _ => true

/-- Closes the live connection and drops it. -/
def hangUp (outside : Outside) (connection : Nat) (t : Transport) :
    Except Trouble Unit × Transport :=
  let t := t.note (.hungUp connection)
  let finished : Transport := { t with link := none, done := true }
  match outside.close with
  | none => (.ok (), finished)
  | some fault => if isHarmless fault then (.ok (), finished) else (.error (.network fault), t)

/-- Ends the session: the remote side is told as far as it still listens, and the connection
closed. Only the first call does anything. -/
def close (outside : Outside) (t : Transport) : Except Trouble Unit × Transport :=
  if t.closed then (.ok (), t)
  else
    let t := { t with closed := true }
    match t.link with
    | none => (.ok (), { t with done := true })
    | some connection =>
      match send outside (.ofKind .close [] outside.now) t with
      | (.ok _, t) => hangUp outside connection t
      | (.error trouble, t) =>
        if isPassable trouble then hangUp outside connection t else (.error trouble, t)

/-- Keeps a failure, ends the session and reports the failure. -/
def fail (outside : Outside) (failure : Failure) (t : Transport) : Except Trouble α × Transport :=
  match close outside (t.stick failure) with
  | (.ok _, t) => (.error (.session failure), t)
  | (.error trouble, t) => (.error trouble, t)

def connectText (text : String) : String := "failed to connect: " ++ text

/-- The failure of a dial that ended in a fault; none for faults that are not the network's. -/
def dialFailure? : NetworkFault → Option Failure
  | .closed received sent => some (closureOf received sent)
  | .rejected status =>
    some (.connect (connectText s!"server returned status {status}") (some status))
  | .system _ text => some (.connect (connectText text) none)
  | .protocol text => some (.connect (connectText text) none)
  | .foreign _ => none
  | .interrupted => none

def isSecure (url : String) : Bool := "wss://".toList.isPrefixOf url.toList

/-- Opens a connection, or ends the session. -/
def connect (outside : Outside) (fault : Option NetworkFault) (url : String)
    (headers : List (String × String)) (t : Transport) : Except Trouble Unit × Transport :=
  let t := t.note (.dial { url, headers, secure := isSecure url })
  match fault with
  | none => (.ok (), { t with link := some t.opened, opened := t.opened + 1 })
  | some fault =>
    match dialFailure? fault with
    | none => (.error (.network fault), t)
    | some failure => fail outside failure t

/-- A message read gives its session id to the transport, unless it has none. -/
def adopt (m : Message) (t : Transport) : Transport :=
  if m.session = "" then t else { t with session := m.session }

def receive (outside : Outside) (frame : Bytes) (t : Transport) :
    Except Trouble (Option Message) × Transport :=
  match Frame.decode frame with
  | .error fault => fail outside fault.failure t
  | .ok m => (.ok (some m), (t.adopt m).note .activity)

/-- Takes what comes in on the live connection. No message means that the session has ended in
good order. -/
def take (outside : Outside) (incoming : Incoming) (t : Transport) :
    Except Trouble (Option Message) × Transport :=
  match incoming with
  | .frame bytes => receive outside bytes t
  | .text s => receive outside (Utf8.encode s) t
  | .closed received sent =>
    let failure := closureOf received sent
    if t.closed || failure.isGraceful then
      match close outside t with
      | (.ok _, t) => (.ok none, t)
      | (.error trouble, t) => (.error trouble, t)
    else fail outside failure t

/-- Reads the next of what is waiting; a stream with nothing waiting has ended. What is left waits
on. -/
def read (outside : Outside) (waiting : List Incoming) (t : Transport) :
    Except Trouble (Option Message) × Transport × List Incoming :=
  match t.link with
  | none => (.error (.session unconnected), t, waiting)
  | some _ =>
    let (result, t) := take outside (waiting.head?.getD .ended) t
    (result, t, waiting.tail)

/-- Reads while the connection answers with a fault. One that is closed ends the session; any other
fault is the caller's, and nothing changes. -/
def readFault (outside : Outside) (fault : NetworkFault) (t : Transport) :
    Except Trouble (Option Message) × Transport :=
  match t.link, fault with
  | none, _ => (.error (.session unconnected), t)
  | some _, .closed received sent => take outside (.closed received sent) t
  | some _, fault => (.error (.network fault), t)

end Transport
end EdgeSession
