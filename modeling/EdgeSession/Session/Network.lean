import EdgeSession.Session.Failure
import EdgeSession.Bytes

/-!
What the outside world does to a session: faults of the network, and what comes in over it.
-/
namespace EdgeSession

/-- A close frame as one side sent it. -/
structure CloseFrame where
  code : Int
  reason : String
  deriving DecidableEq, Repr

/-- How the operating system's errors are told apart. -/
inductive SystemError
  | general
  | refused
  | timeout
  deriving DecidableEq, Repr

/-- What a call on the network may end with instead of its result. -/
inductive NetworkFault
  /-- The connection is closed; each side may have sent a close frame. -/
  | closed (received sent : Option CloseFrame)
  /-- The server answered the handshake with a status other than that of an upgrade. -/
  | rejected (status : Int)
  | system (kind : SystemError) (text : String)
  /-- Any other error of the websocket protocol. -/
  | protocol (text : String)
  /-- An error that is none of the network's. -/
  | foreign (text : String)
  /-- The operator's interrupt. -/
  | interrupted
  deriving DecidableEq, Repr

/-- What a write to the operator's screen may end with. -/
inductive ScreenFault
  | system (text : String)
  /-- An error that is none of the system's. -/
  | foreign (text : String)
  deriving DecidableEq, Repr

/-- The closure that a closed connection stands for. The remote close frame decides. Without one
the stream has just ended, unless this side refused a frame for its size. -/
def closureOf (received sent : Option CloseFrame) : Failure :=
  match received, sent with
  | some frame, _ => .ofClose frame.code frame.reason
  | none, some frame =>
    if frame.code = CloseCode.messageTooBig then .ofClose frame.code frame.reason
    else .ofClose CloseCode.abnormal ""
  | none, none => .ofClose CloseCode.abnormal ""

/-- What comes in when a connection is read. -/
inductive Incoming
  | frame (bytes : Bytes)
  | text (s : String)
  | closed (received sent : Option CloseFrame)
  deriving DecidableEq, Repr

/-- The stream has ended without a close frame. -/
def Incoming.ended : Incoming := .closed none none

/-- What the outside world does while a call runs: the time in milliseconds, and what the socket
does when it is written to and when it is closed. -/
structure Outside where
  now : Int
  send : Option NetworkFault := none
  close : Option NetworkFault := none
  deriving DecidableEq, Repr

/-- What a call on a session may raise. -/
inductive Trouble
  | session (failure : Failure)
  | network (fault : NetworkFault)
  /-- A number that does not fit its field, or a text that is too long for it. -/
  | outOfRange
  | tooLong
  deriving DecidableEq, Repr

end EdgeSession
