import EdgeSession.ControlPlane.Http
import EdgeSession.Script.Member
import EdgeSession.Session.Frame
import EdgeSession.Session.Network

/-!
The outside world as a script tells it: what the network does, what comes in over it, and what a
server answers.
-/
namespace EdgeSession.Script

def messageOf (j : Json) : Message :=
  { type := integerOr j "type" 0
    data := bytesOf (member j "data")
    target := textOr j "target_id" ""
    session := textOr j "session_id" ""
    timestamp := integerOr j "timestamp" 0 }

def closeFrame? (j : Json) (code reason : String) : Option CloseFrame :=
  (integer? j code).map fun n => ⟨n, textOr j reason ""⟩

/-- The close frames of both sides. -/
def received? (j : Json) : Option CloseFrame := closeFrame? j "code" "reason"
def sent? (j : Json) : Option CloseFrame := closeFrame? j "sent_code" "sent_reason"

def fault? (j : Json) : Option NetworkFault :=
  let text := textOr j "text" ""
  match textOr j "kind" "" with
  | "closed" => some (.closed (received? j) (sent? j))
  | "status" => some (.rejected (integerOr j "status" 0))
  | "oserror" => some (.system .general text)
  | "refused" => some (.system .refused text)
  | "timeout" => some (.system .timeout text)
  | "handshake" => some (.protocol text)
  | "value" => some (.foreign text)
  | "interrupt" => some .interrupted
  | _ => none

/-- What the socket does from now on. -/
def outsideAt (now : Int) (faults : Json) : Outside :=
  { now, send := fault? (member faults "send"), close := fault? (member faults "close") }

/-- The frame, text or closure that an event brings, if it brings one. -/
def incoming? (event : Json) : Option Incoming :=
  match event.get? "msg", event.get? "frame", text? event "text_frame", event.get? "close" with
  | some m, _, _, _ => some (.frame (Frame.bytesOf (messageOf m)))
  | none, some f, _, _ => some (.frame (bytesOf f))
  | none, none, some s, _ => some (.text s)
  | none, none, none, some c => some (.closed (received? c) (sent? c))
  | none, none, none, none => none

def replyOf (j : Json) : Http.Reply :=
  let text := textOr j "text" ""
  match text? j "fail" with
  | some "protocol" => .broken text
  | some _ => .unreachable text
  | none => .answer (integerOr j "status" 200).toNat (textOr j "body" "")

def questionOf (r : Http.Request) : String := r.method ++ " " ++ r.path

/-- Each request takes the next answer for its method and path; the last one repeats. Where there is
none, nothing is found. -/
def serverOf (script : Json) : Http.Server := .answering fun log request =>
  let replies := items (member script (questionOf request))
  let asked := log.countP fun r => questionOf r == questionOf request
  match replies[min asked (replies.length - 1)]? with
  | some reply => replyOf reply
  | none => .answer 404 ""

end EdgeSession.Script
