import EdgeSession.LogTail.Stream
import EdgeSession.Terminal.Shell

/-!
How a session begins. The thread that reads the connection runs already when the call of `start`
looks whether the transport brought a failure along. Both take their steps in any order, and one may
come between what the other reads and what it makes of it.
-/
namespace EdgeSession

/-- Reads once: something comes in, or the connection answers with a fault. -/
def Transport.readOnce (outside : Outside) (met : Except NetworkFault Incoming) (t : Transport) :
    Except Trouble (Option Message) × Transport :=
  match met with
  | .ok incoming => ((t.read outside [incoming]).1, (t.read outside [incoming]).2.1)
  | .error fault => t.readFault outside fault

namespace Attach

/-- A controller, as its two threads go about it: its states, and what the world does while a step
runs. -/
structure Opener (σ μ : Type) where
  outside : μ → Outside
  /-- The session whose threads begin. -/
  begun : Transport → σ
  transport : σ → Transport
  withTransport : Transport → σ → σ
  /-- Whether the reading thread reads once more. -/
  reads : σ → Bool
  /-- What the reading thread makes of a read. -/
  readDone : μ → Except Trouble (Option Message) → σ → σ
  checkSticky : σ → σ
  settle : Outside → σ → σ
  /-- What the call of `start` came to. -/
  outcome : σ → Option (Except Trouble Unit)

/-- A session that begins: whether the call has looked for a failure, and what the reading thread
has read and not yet dealt with. -/
structure Opening (σ : Type) where
  session : σ
  checked : Bool := false
  held : Option (Except Trouble (Option Message)) := none

namespace Opening

/-- A step of one thread. -/
inductive Move (μ : Type)
  /-- The call of `start` goes on. -/
  | start (m : μ)
  /-- The reading thread goes on; what it meets if it reads. -/
  | read (m : μ) (met : Except NetworkFault Incoming)

def Move.isStart : Move μ → Bool
  | start _ => true
  | read _ _ => false

end Opening

namespace Opener

variable {σ μ : Type}

def start (c : Opener σ μ) (m : μ) (o : Opening σ) : Opening σ :=
  if o.checked then { o with session := c.settle (c.outside m) o.session }
  else { o with session := c.checkSticky o.session, checked := true }

def read (c : Opener σ μ) (m : μ) (met : Except NetworkFault Incoming) (o : Opening σ) :
    Opening σ :=
  match o.held with
  | some result => { o with session := c.readDone m result o.session, held := none }
  | none =>
    if c.reads o.session then
      let (result, transport) := (c.transport o.session).readOnce (c.outside m) met
      { o with session := c.withTransport transport o.session, held := some result }
    else o

def step (c : Opener σ μ) (o : Opening σ) : Opening.Move μ → Opening σ
  | .start m => c.start m o
  | .read m met => c.read m met o

def run (c : Opener σ μ) (moves : List (Opening.Move μ)) (o : Opening σ) : Opening σ :=
  moves.foldl c.step o

/-- The two threads over a transport. -/
def opening (c : Opener σ μ) (transport : Transport) : Opening σ := { session := c.begun transport }

def shell : Opener Terminal.Shell Terminal.Moment where
  outside := Terminal.Moment.outside
  begun transport := Terminal.Shell.launch (Terminal.Shell.enter { transport })
  transport := Terminal.Shell.transport
  withTransport transport t := { t with transport }
  reads t := t.reading && !t.cancelled
  readDone m := Terminal.Shell.readDone m
  checkSticky := Terminal.Shell.checkSticky
  settle := Terminal.Shell.settle
  outcome := Terminal.Shell.outcome

def stream : Opener LogTail.Stream LogTail.Moment where
  outside := LogTail.Moment.outside
  begun transport := LogTail.Stream.launch { transport }
  transport := LogTail.Stream.transport
  withTransport transport s := { s with transport }
  reads s := s.reading && !s.cancelled
  readDone m := LogTail.Stream.readDone m
  checkSticky := LogTail.Stream.checkSticky
  settle := LogTail.Stream.settle
  outcome := LogTail.Stream.outcome

end Opener
end Attach
end EdgeSession
