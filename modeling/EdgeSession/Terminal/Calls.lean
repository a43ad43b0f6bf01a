import EdgeSession.Terminal.Shell
import Mathlib.Logic.Function.Basic

/-!
A session that one thread starts and others stop. The call of `start` and each call of `stop` take
their steps in any order, and between them the loops take their turns. Only a step by itself is not
interrupted.
-/
namespace EdgeSession.Terminal

/-- What an event does by itself. The waiting call goes on later. -/
def Shell.react (m : Moment) (e : Shell.Event) (t : Shell) : Shell :=
  match e with
  | .incoming i => t.readTurn m i
  | .readError fault => t.readFailed m fault
  | .key data => t.keyTurn m data
  | .keyError text => t.keyFailed text
  | .stop => (t.stop m.outside).2
  | .interrupt => t.interrupted m.outside
  | .resize _ _ => t

/-- How far the call of `start` has come. -/
inductive Starter
  | away
  /-- It has found the session idle. -/
  | tested
  /-- The terminal is raw. -/
  | entered
  /-- The session is marked as raw. -/
  | marked
  /-- The size is watched, the loops run, and it waits for the end. -/
  | waiting
  /-- It is about to clean up, and to raise what stopped it. -/
  | leaving (trouble : Option Trouble)
  | returned
  deriving DecidableEq, Repr

/-- How far a call of `stop` has come: it ends the session for the loops, and then cleans up. -/
inductive Stopper
  | away
  | ended
  | returned
  deriving DecidableEq, Repr

/-- A session, the call that starts it, and the calls that stop it, by number. -/
structure Calls where
  shell : Shell
  starter : Starter := .away
  stoppers : Nat → Stopper := fun _ => .away

namespace Calls

/-- A step of one thread. -/
inductive Move
  /-- The call of `start` goes on, if it can, with what may stand in its way. -/
  | start (outside : Outside) (hindrance : Hindrance)
  | stop (caller : Nat) (outside : Outside)
  /-- A turn of a loop. -/
  | turn (m : Moment) (e : Shell.Event)

def start (outside : Outside) (hindrance : Hindrance) (c : Calls) : Calls :=
  match c.starter with
  | .away => { c with starter := if c.shell.phase = .idle then .tested else .returned }
  | .tested =>
    match hindrance.raw with
    | some text => { c with starter := .leaving (some (.session (.localTerminal text))) }
    | none => { c with shell := c.shell.note .enteredRaw, starter := .entered }
  | .entered => { c with shell := { c.shell with phase := .raw }, starter := .marked }
  | .marked =>
    match hindrance.watch with
    | some trouble => { c with starter := .leaving (some trouble) }
    | none => { c with shell := c.shell.launch.checkSticky.firstRead, starter := .waiting }
  | .waiting => if c.shell.cancelled then { c with starter := .leaving none } else c
  | .leaving none => { c with shell := c.shell.settle outside, starter := .returned }
  | .leaving (some trouble) =>
    { c with shell := c.shell.abandon outside trouble, starter := .returned }
  | .returned => c

def stop (caller : Nat) (outside : Outside) (c : Calls) : Calls :=
  match c.stoppers caller with
  | .away =>
    { c with shell := c.shell.finish, stoppers := Function.update c.stoppers caller .ended }
  | .ended =>
    { c with
      shell := (c.shell.cleanup outside).2
      stoppers := Function.update c.stoppers caller .returned }
  | .returned => c

/-- A call of `stop` and the operator's interrupt are no turns of a loop. -/
def turn (m : Moment) (e : Shell.Event) (c : Calls) : Calls :=
  if e = .stop ∨ e = .interrupt then c else { c with shell := c.shell.react m e }

def step (c : Calls) : Move → Calls
  | .start outside hindrance => c.start outside hindrance
  | .stop caller outside => c.stop caller outside
  | .turn m e => c.turn m e

def run (moves : List Move) (c : Calls) : Calls := moves.foldl step c

end Calls
end EdgeSession.Terminal
