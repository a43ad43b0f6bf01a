import EdgeSession.ControlPlane.Caches
import Mathlib.Logic.Function.Basic

/-!
The worker behind a cache. Callers put their requests into one queue, each with a slot of its own
for the reply, and wait. The worker takes one request at a time, in the order of the queue, until it
comes to the mark that `close` leaves. All of them are threads, and take their steps in any order.
-/
namespace EdgeSession.ControlPlane

/-- What a cache does with a key, and what it lets go of at the end. A result is what the caller
returns or raises. -/
structure Service (σ κ ρ : Type) where
  handle : κ → σ → ρ × σ
  shutdown : σ → σ

/-- What stands in the queue: a request under the number of its caller, or the mark. -/
inductive Item (κ : Type)
  | request (caller : Nat) (key : κ)
  | stop
  deriving DecidableEq, Repr

/-- How far a caller has come with its request. -/
inductive Caller (κ ρ : Type)
  | away
  /-- It has found the cache open. -/
  | admitted (key : κ)
  | waiting
  /-- It has found the cache closed. -/
  | refused
  | answered (result : ρ)
  deriving DecidableEq, Repr

inductive Worker (κ ρ : Type)
  | idle
  | handling (caller : Nat) (key : κ)
  | replying (caller : Nat) (result : ρ)
  | gone
  deriving DecidableEq, Repr

/-- How far a call of `close` has come: it closes the cache, and then leaves the mark. -/
inductive Closing
  | no
  | closed
  | marked
  deriving DecidableEq, Repr

/-- A worker, its queue, and its callers by number, each with its slot. -/
structure Actor (σ κ ρ : Type) where
  state : σ
  queue : List (Item κ) := []
  worker : Worker κ ρ := .idle
  closing : Closing := .no
  callers : Nat → Caller κ ρ := fun _ => .away
  slots : Nat → Option ρ := fun _ => none
  /-- All that was ever queued, in order; the requests begun, and the replies. -/
  queued : List (Item κ) := []
  begun : List (Nat × κ) := []
  replied : List (Nat × ρ) := []

/-- A step of one thread. -/
inductive Move (κ : Type)
  /-- A caller looks whether the cache is closed. -/
  | ask (caller : Nat) (key : κ)
  | enqueue (caller : Nat)
  /-- A caller takes its reply. -/
  | await (caller : Nat)
  | work
  /-- `close` closes the cache. -/
  | close
  /-- `close` leaves its mark. -/
  | mark
  deriving DecidableEq, Repr

namespace Actor

variable {σ κ ρ : Type}

def ask (caller : Nat) (key : κ) (a : Actor σ κ ρ) : Actor σ κ ρ :=
  match a.callers caller with
  | .away =>
    let answer := if a.closing = .no then .admitted key else .refused
    { a with callers := Function.update a.callers caller answer }
  | _ => a

def put (item : Item κ) (a : Actor σ κ ρ) : Actor σ κ ρ :=
  { a with queue := a.queue ++ [item], queued := a.queued ++ [item] }

def enqueue (caller : Nat) (a : Actor σ κ ρ) : Actor σ κ ρ :=
  match a.callers caller with
  | .admitted key =>
    { a.put (.request caller key) with callers := Function.update a.callers caller .waiting }
  | _ => a

def await (caller : Nat) (a : Actor σ κ ρ) : Actor σ κ ρ :=
  match a.callers caller, a.slots caller with
  | .waiting, some result =>
    { a with
      callers := Function.update a.callers caller (.answered result)
      slots := Function.update a.slots caller none }
  | _, _ => a

/-- The worker takes what is next in the queue, handles it, or gives the reply. A slot holds one
reply. -/
def work (service : Service σ κ ρ) (a : Actor σ κ ρ) : Actor σ κ ρ :=
  match a.worker with
  | .idle =>
    match a.queue with
    | [] => a
    | .stop :: queue => { a with queue, worker := .gone, state := service.shutdown a.state }
    | .request caller key :: queue =>
      { a with queue, worker := .handling caller key, begun := a.begun ++ [(caller, key)] }
  | .handling caller key =>
    let (result, state) := service.handle key a.state
    { a with state, worker := .replying caller result }
  | .replying caller result =>
    match a.slots caller with
    | some _ => a
    | none =>
      { a with
        worker := .idle
        slots := Function.update a.slots caller (some result)
        replied := a.replied ++ [(caller, result)] }
  | .gone => a

def close (a : Actor σ κ ρ) : Actor σ κ ρ :=
  if a.closing = .no then { a with closing := .closed } else a

def mark (a : Actor σ κ ρ) : Actor σ κ ρ :=
  if a.closing = .closed then { a.put .stop with closing := .marked } else a

/-- One step. A thread that cannot take it waits. -/
def step (service : Service σ κ ρ) (a : Actor σ κ ρ) : Move κ → Actor σ κ ρ
  | .ask caller key => a.ask caller key
  | .enqueue caller => a.enqueue caller
  | .await caller => a.await caller
  | .work => a.work service
  | .close => a.close
  | .mark => a.mark

def run (service : Service σ κ ρ) (moves : List (Move κ)) (a : Actor σ κ ρ) : Actor σ κ ρ :=
  moves.foldl (step service) a

end Actor

namespace Caches

/-- The cache of clients: the empty key forgets them all. -/
def clientService (server : Http.Server) : Service Caches String (Except Fault (Option Login)) where
  handle name s :=
    if name = "" then (forgetClients >>= fun _ => return none : Task Caches (Option Login)).exec s
    else (client server name >>= fun login => return some login : Task Caches (Option Login)).exec s
  shutdown s := { s with clients := [] }

end Caches
end EdgeSession.ControlPlane
