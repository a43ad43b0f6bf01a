import EdgeSession.Session.Failure
import EdgeSession.Text.Blank
import EdgeSession.Text.Digit
import EdgeSession.Text.Search

/-!
One sentence for an operator, from a failure. The reason for a refusal comes as free text, in
whatever a websocket stack puts around it; it is dug out by a chain of rules and looked up in a
table of phrases. In both, the first that applies decides.
-/
namespace EdgeSession.Diagnosis

open Text

/-- What is to be explained: a failure of a session, or any other error, of which only the text
is known. -/
inductive Cause
  | session (failure : Failure)
  | other (text : String)
  deriving DecidableEq, Repr

def Cause.text : Cause → String
  | session failure => failure.text
  | other text => text

def noExecSession : String :=
  "No available exec session for this agent or microservice. Be sure to " ++
  "attach/link exec session to the agent or microservice first. If you already " ++
  "attached/linked exec session to the agent or microservice, please wait for " ++
  "the exec session to be ready."

def noLogSession : String :=
  "No available log session for this agent or microservice. Please try again shortly."

def anotherUser : String :=
  "Another user is already connected to this microservice. " ++
  "Only one user can connect at a time."

def agentTimeout : String :=
  "Timeout waiting for agent connection. " ++
  "Please ensure the microservice/agent is running and try again."

def authenticationFailed : String :=
  "Authentication failed. Please check your credentials and try again."

def microserviceStopped : String :=
  "Microservice is not running. Please start the microservice first."

def agentStopped : String := "Agent is not running. Please start the agent first."

def execDisabled : String :=
  "Microservice exec is not enabled. Please enable exec for this microservice."

def lacksPermission : String :=
  "Insufficient permissions. Required roles: SRE for Node Exec " ++
  "or Developer for Microservice Exec."

def systemRestricted : String :=
  "Only SRE can access system microservices. Please contact your administrator."

def accessDenied : String := "Policy violation: Access denied"
def connectionLost : String := "Connection lost unexpectedly"
def messageTooLarge : String := "Message too large"
def serverError : String := "Server error occurred"
def failedToConnect : String := "Failed to connect to server"

/-- Phrases of the control plane and the sentences for them. -/
def phrases : List (String × String) :=
  [("No available exec session", noExecSession),
    ("No available log session", noLogSession),
    ("Microservice has already active exec session", anotherUser),
    ("Microservice already has an active session", anotherUser),
    ("Timeout waiting for agent connection", agentTimeout),
    ("Authentication failed", authenticationFailed),
    ("Microservice is not running", microserviceStopped),
    ("Agent is not running", agentStopped),
    ("Microservice exec is not enabled", execDisabled),
    ("Insufficient permissions", lacksPermission),
    ("Only SRE can access system microservices", systemRestricted)]

/-- The sentence of the first phrase of the table that stands in a text, in any case. -/
def sentence? (text : List Char) : Option String :=
  (phrases.find? fun (phrase, _) => containsFolded phrase.toList text).map (·.2)

/-- Four decimal digits of any script at the start of a text. -/
def fourDigits? : List Char → Option Nat
  | a :: b :: c :: d :: _ => do
    let a ← digitValue? a
    let b ← digitValue? b
    let c ← digitValue? c
    let d ← digitValue? d
    return a * 1000 + b * 100 + c * 10 + d
  | _ => none

/-- The number in the first `close dddd` of a text. -/
def writtenCode? : List Char → Option Nat
  | [] => none
  | c :: rest =>
    match (afterPrefix? "close ".toList (c :: rest)).bind fourDigits? with
    | some n => some n
    | none => writtenCode? rest

/-- The close code of a cause: its own, or else the one that its text names. -/
def code? : Cause → Option Int
  | .session failure =>
    match failure.closeCode? with
    | some code => some code
    | none => (writtenCode? failure.text.toList).map Int.ofNat
  | .other text => (writtenCode? text.toList).map Int.ofNat

/-- Without white space around it, nor one full stop at the end. -/
def trimReason (s : List Char) : List Char := dropSuffix ['.'] (trim s)

def marker : List Char := "close 1008".toList

/-- The last piece of a text between two double quotes, if it is not empty. -/
def lastQuoted? (text : List Char) : Option (List Char) :=
  match (splitOn '\x22' text).reverse with
  | _ :: piece :: _ :: _ => if piece.isEmpty then none else some piece
  | _ => none

/-- What stands between the double quotes that a text starts with. -/
def quotedFront? : List Char → Option (List Char)
  | '\x22' :: rest => (splitAt? ['\x22'] rest).map (·.1)
  | _ => none

/-- The reason as far as it can be told from what follows the close code. -/
def reasonAfterCode (after : List Char) : List Char :=
  let bare := trim (dropSuffix [')'] (dropPrefix ['('] (trim after)))
  match quotedFront? bare with
  | some quoted => quoted
  | none =>
    match after? [':'] bare with
    | some rest => trimReason rest
    | none => if contains "websocket".toList bare then [] else bare

/-- The server's reason in the text of a refusal: what follows a label, else the last quoted
piece, else what follows the close code. -/
def reason (text : List Char) : List Char :=
  match after? "reason:".toList text with
  | some rest => trimReason rest
  | none =>
    match after? "policy violation:".toList text with
    | some rest => trimReason rest
    | none =>
      match after? marker text with
      | none => []
      | some after =>
        match lastQuoted? text with
        | some quoted => quoted
        | none => reasonAfterCode after

/-- The sentence for a refusal. -/
def refusal (text : List Char) : String :=
  match sentence? (reason text) with
  | some sentence => sentence
  | none => (sentence? text).getD accessDenied

/-- The sentence for a cause; one that is not recognised keeps its own text. -/
def explain (cause : Cause) : String :=
  let text := cause.text
  match code? cause with
  | some 1008 => refusal text.toList
  | some 1006 => connectionLost
  | some 1009 => messageTooLarge
  | some 1011 => serverError
  | _ =>
    match cause with
    | .session (.connect _ (some status)) => failedToConnect ++ s!" (HTTP {status})"
    | .session (.connect _ none) => failedToConnect
    | _ =>
      if containsFolded "failed to connect".toList text.toList then failedToConnect else text

end EdgeSession.Diagnosis
