/-!
What can go wrong with a session, and the words for it. The text of a closure is that of a
websocket stack, so that a failure can be told from its text alone.
-/
namespace EdgeSession

namespace CloseCode

def normal : Int := 1000
def goingAway : Int := 1001
def noStatus : Int := 1005
def abnormal : Int := 1006
def policyViolation : Int := 1008
def messageTooBig : Int := 1009
def internalError : Int := 1011

/-- The codes with which a session ends in good order. -/
def isGraceful (code : Int) : Bool := code == normal || code == goingAway || code == noStatus

def label (code : Int) : String :=
  if code = normal then "normal"
  else if code = goingAway then "going away"
  else if code = noStatus then "no status"
  else if code = abnormal then "abnormal closure"
  else if code = policyViolation then "policy violation"
  else if code = messageTooBig then "message too big"
  else if code = internalError then "internal server error"
  else "unknown"

end CloseCode

/-- A failure of a session. -/
inductive Failure
  /-- The websocket could not be opened. -/
  | connect (text : String) (status : Option Int)
  /-- The connection ended with a close code. -/
  | closure (code : Int) (reason : String)
  /-- The control plane refused the session, with code 1008. -/
  | policy (reason : String)
  /-- A frame is no message. -/
  | undecodable (text : String)
  /-- A payload is larger than the wire allows. -/
  | oversized (text : String)
  | notConnected (text : String)
  | localTerminal (text : String)
  /-- A failure of no particular kind. -/
  | other (text : String)
  deriving DecidableEq, Repr

namespace Failure

def closureText (code : Int) (reason : String) : String :=
  let text := s!"close {code} ({CloseCode.label code})"
  if reason = "" then text else text ++ ": " ++ reason

/-- The closure that a close frame stands for. -/
def ofClose (code : Int) (reason : String) : Failure :=
  if code = CloseCode.policyViolation then policy reason else closure code reason

def closeCode? : Failure → Option Int
  | closure code _ => some code
  | policy _ => some CloseCode.policyViolation
  | _ => none

def isGraceful (f : Failure) : Bool := f.closeCode?.any CloseCode.isGraceful

def text : Failure → String
  | connect text _ => text
  | closure code reason => closureText code reason
  | policy reason => closureText CloseCode.policyViolation reason
  | undecodable text => text
  | oversized text => text
  | notConnected text => text
  | localTerminal text => text
  | other text => text

end Failure
end EdgeSession
