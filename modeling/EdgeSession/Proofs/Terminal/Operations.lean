import EdgeSession.Proofs.Terminal.Turns
import EdgeSession.Terminal.Calls

/-!
What is done with a terminal session: it is started, stopped and interrupted, and its loops take
their turns, in any order. An operation may end in the session's cleanup.
-/
namespace EdgeSession.Terminal

open Transport

/-- What is done with a session. -/
inductive Op
  | start (outside : Outside) (hindrance : Hindrance)
  /-- A turn of a loop, a call of `stop`, or the operator's interrupt. -/
  | event (m : Moment) (e : Shell.Event)
  /-- A call of `stop` on another thread has ended the session for the loops, and goes on as a
  `stop` that finds it so. -/
  | halt
  /-- The call of `start` that waits looks whether the session is over. -/
  | wake (outside : Outside)

namespace Op

/-- The session after the operation. A call of `start` that is refused does nothing to it. -/
def run (op : Op) (t : Shell) : Shell :=
  match op with
  | .start outside hindrance => (t.start outside hindrance).toOption.getD t
  | .event m e => t.react m e
  | .halt => if t.waiting then t.finish else t
  | .wake outside => t.settle outside

/-- The cleanup that the operation calls, if it calls one: with which network, and the session as it
is then. -/
def cleanup? (op : Op) (t : Shell) : Option (Outside × Shell) :=
  match op with
  | .start outside hindrance =>
    if t.phase ≠ .idle then none
    else match hindrance with
      | { raw := some _, .. } => some (outside, t)
      | { raw := none, watch := some _ } => some (outside, t.enter)
      | { raw := none, watch := none } =>
        let t := t.enter.launch.checkSticky.firstRead
        if t.waiting && t.cancelled then some (outside, t) else none
  | .event m .stop => some (m.outside, t.finish)
  | .event m .interrupt => if t.waiting then some (m.outside, t) else none
  | .event _ _ => none
  | .halt => none
  | .wake outside => if t.waiting && t.cancelled then some (outside, t) else none

/-- How often the operation's cleanup closes the transport. -/
def closings (op : Op) (t : Shell) : Nat :=
  match op.cleanup? t with
  | some (_, t) => if t.cleaned then 0 else 1
  | none => 0

/-- No `close` of the transport raises: not that of the operation's cleanup, and not that of a read
which ends the session. -/
structure Quiet (op : Op) (t : Shell) : Prop where
  cleanup : ∀ outside u, op.cleanup? t = some (outside, u) →
    (u.transport.close outside).1 = .ok ()
  read : ∀ m e i failure?, op = .event m e → e.brought = some (some i) → t.reading = true →
    Closes t.transport i failure? → (t.transport.close m.outside).1 = .ok ()

end Op

/-- The session after some operations. -/
def play : List Op → Shell → Shell
  | [], t => t
  | op :: ops, t => play ops (op.run t)

/-- How often the cleanups of some operations close the transport. -/
def closings : List Op → Shell → Nat
  | [], _ => 0
  | op :: ops, t => op.closings t + closings ops (op.run t)

/-- No `close` of the transport raises on the way. -/
def AllQuiet : List Op → Shell → Prop
  | [], _ => True
  | op :: ops, t => op.Quiet t ∧ AllQuiet ops (op.run t)

/-- The phases that a session goes through. -/
def phases : List Op → Shell → List Phase
  | [], t => [t.phase]
  | op :: ops, t => t.phase :: phases ops (op.run t)

/-- How far a phase is along the way of a session. -/
def Phase.rank : Phase → Nat
  | .idle => 0
  | .raw => 1
  | .closing => 2
  | .closed => 3

section
variable {t u : Shell} {e : Shell.Event} {outside : Outside} {op : Op}

theorem Shell.settle_over (ended : (t.waiting && t.cancelled) = true) (outside : Outside) :
    ∃ outcome, t.settle outside =
      { (t.cleanup outside).2 with waiting := false, outcome } := by
  simp only [settle, ended, if_true]
  rcases t.cleanup outside with ⟨trouble | _, after⟩ <;> exact ⟨_, rfl⟩

theorem Shell.settle_awaits (awaits : (t.waiting && t.cancelled) = false) :
    t.settle outside = t := by
  simp only [settle, awaits, Bool.false_eq_true, if_false]

/-- A call of `start` is refused once the session was begun. -/
theorem Op.start_refused (begun : t.phase ≠ .idle) (outside : Outside) (hindrance : Hindrance) :
    (Op.start outside hindrance).cleanup? t = none ∧ (Op.start outside hindrance).run t = t := by
  simp only [cleanup?, run, Shell.start, if_pos begun]
  exact ⟨trivial, rfl⟩

/-- The waiting call goes on waiting. -/
theorem Op.wake_awaits (awaits : (t.waiting && t.cancelled) = false) (outside : Outside) :
    (Op.wake outside).cleanup? t = none ∧ (Op.wake outside).run t = t := by
  simp only [cleanup?, awaits, Bool.false_eq_true, if_false, true_and]
  exact Shell.settle_awaits awaits

theorem Shell.abandon_frame (t : Shell) (outside : Outside) (trouble : Trouble) :
    ∃ outcome, t.abandon outside trouble =
      { (t.cleanup outside).2 with waiting := false, outcome } := by
  simp only [abandon]
  rcases t.cleanup outside with ⟨other | _, after⟩ <;> exact ⟨_, rfl⟩

/-- An operation that cleans up does so at its end, but for what becomes of the waiting call. -/
theorem Op.run_cleanup (h : op.cleanup? t = some (outside, u)) :
    ∃ waiting outcome, op.run t = { (u.cleanup outside).2 with waiting, outcome } := by
  cases op with
  | start outside' hindrance =>
    simp only [cleanup?] at h
    split at h
    · cases h
    · rename_i idle
      simp only [run, Shell.start, idle, if_false]
      rcases hindrance with ⟨_ | text, _ | trouble⟩ <;> dsimp only at h ⊢
      · split at h
        · rename_i ended
          cases h
          obtain ⟨outcome, settled⟩ := Shell.settle_over ended outside
          exact ⟨_, outcome, settled⟩
        · cases h
      all_goals
        cases h
        exact ⟨_, Shell.abandon_frame ..⟩
  | event m e =>
    cases e with
    | stop =>
      cases h
      exact ⟨_, _, rfl⟩
    | interrupt =>
      simp only [cleanup?] at h
      split at h
      · rename_i waiting
        cases h
        simp only [run, Shell.react, Shell.interrupted, waiting, if_true]
        exact ⟨_, Shell.abandon_frame ..⟩
      · cases h
    | _ => cases h
  | halt => cases h
  | wake outside' =>
    simp only [cleanup?] at h
    split at h
    · rename_i ended
      cases h
      exact ⟨_, Shell.settle_over ended outside⟩
    · cases h

theorem Shell.react_cancelled (cancelled : t.cancelled = true) (m : Moment)
    (stops : e ≠ .stop) (interrupts : e ≠ .interrupt) : t.react m e = t := by
  cases e with
  | stop => exact absurd rfl stops
  | interrupt => exact absurd rfl interrupts
  | resize => rfl
  | _ =>
    simp only [react, readTurn, readFailed, keyTurn, keyFailed, cancelled, Bool.not_true,
      Bool.and_false, Bool.false_eq_true, if_false]

/-- How often the transport is still to be closed by a cleanup. -/
def owed (t : Shell) : Nat := if t.cleaned then 0 else 1

theorem Op.closings_of_none (h : op.cleanup? t = none) : op.closings t = 0 := by
  simp only [closings, h]

theorem Op.closings_of_some (h : op.cleanup? t = some (outside, u)) : op.closings t = owed u := by
  simp only [closings, h, owed]

/-- Both kinds of closing can be tried out. -/
theorem Op.quiet_of_closes
    (cleanup : ((op.cleanup? t).all fun call =>
      decide ((call.2.transport.close call.1).1 = .ok ())) = true)
    (read : ∀ m e, op = .event m e → (t.transport.close m.outside).1 = .ok ()) :
    op.Quiet t where
  cleanup outside u cleans := by
    rw [cleans] at cleanup
    exact of_decide_eq_true cleanup
  read m e _ _ same _ _ _ := read m e same

/-- A step of a session is an event and the look of the waiting call behind it. -/
theorem Shell.step_eq_play (m : Moment) (e : Shell.Event) (t : Shell) :
    t.step m e = play [.event m e, .wake m.outside] t := by
  cases e <;> rfl

theorem play_append (before after : List Op) (t : Shell) :
    play (before ++ after) t = play after (play before t) := by
  induction before generalizing t with
  | nil => rfl
  | cons op rest ih => exact ih (op.run t)

theorem closings_append (before after : List Op) (t : Shell) :
    closings (before ++ after) t = closings before t + closings after (play before t) := by
  induction before generalizing t with
  | nil => exact (Nat.zero_add _).symm
  | cons op rest ih => simp only [List.cons_append, closings, play, ih, Nat.add_assoc]

end
end EdgeSession.Terminal
