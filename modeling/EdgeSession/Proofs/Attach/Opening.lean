import EdgeSession.Attach.Opening
import EdgeSession.Proofs.LogTail.Turns
import EdgeSession.Proofs.Terminal.Turns

/-!
Sessions that begin over a transport whose connection is gone, with the failure that took it. The
call of `start` raises that failure, unless the reading thread has gone first through both its
steps: it finds no connection, and the first failure counts.
-/
namespace EdgeSession.Attach

open Transport
open Opening (Move)

/-- What a read comes to without a connection. -/
def nothingRead : Except Trouble (Option Message) := .error (.session unconnected)

/-- How many steps the reading thread takes before the call of `start` takes its first. -/
def headStart {μ : Type} (moves : List (Move μ)) : Nat :=
  (moves.takeWhile fun move => !move.isStart).length

/-- The failure that counts, if the transport brought `failure` along. -/
def counted {μ : Type} (failure : Failure) (moves : List (Move μ)) : Failure :=
  if 2 ≤ headStart moves then unconnected else failure

theorem readOnce_unlinked {t : Transport} (dropped : t.link = none) (outside : Outside)
    (met : Except NetworkFault Incoming) : t.readOnce outside met = (nothingRead, t) := by
  cases met with
  | ok incoming => rw [readOnce, read_unlinked dropped]; rfl
  | error fault => simp only [readOnce, readFault, dropped]; rfl

namespace Opener

variable {σ μ : Type}

/-- What the threads do over a transport that is gone, when `ends failure returned` says that the
session is over with a failure, and whether the call of `start` has returned. -/
structure Laws (c : Opener σ μ) (brought : Failure) (t : Transport)
    (ends : Failure → Bool → σ → Prop) : Prop where
  dropped : (c.transport (c.begun t)).link = none
  untouched : c.withTransport (c.transport (c.begun t)) (c.begun t) = c.begun t
  reads : c.reads (c.begun t) = true
  unreturned : c.outcome (c.begun t) = none
  checks : ends brought false (c.checkSticky (c.begun t))
  finds : ∀ m, ends unconnected false (c.readDone m nothingRead (c.begun t))
  ended_reads : ∀ failure returned s, ends failure returned s → c.reads s = false
  ended_checks : ∀ failure s, ends failure false s → ends failure false (c.checkSticky s)
  ended_finds : ∀ failure returned s m, ends failure returned s →
    ends failure returned (c.readDone m nothingRead s)
  ended_settles : ∀ failure returned s outside, ends failure returned s →
    ends failure true (c.settle outside s)
  outcome : ∀ failure returned s, ends failure returned s →
    c.outcome s = if returned then some (.error (.session failure)) else none

/-- The call has looked, and the session is over with a failure. -/
structure Settled (ends : Failure → Bool → σ → Prop) (failure : Failure) (returned : Bool)
    (o : Opening σ) : Prop where
  checked : o.checked = true
  held : o.held = none ∨ o.held = some nothingRead
  ends : ends failure returned o.session

/-- The reading thread has taken some steps, and the call none. -/
inductive Ahead (ends : Failure → Bool → σ → Prop) (begun : σ) : Nat → Opening σ → Prop
  | fresh : Ahead ends begun 0 { session := begun }
  | holding : Ahead ends begun 1 { session := begun, held := some nothingRead }
  | both {n : Nat} {s : σ} (taken : 2 ≤ n) (ended : ends unconnected false s) :
      Ahead ends begun n { session := s }

section
variable {c : Opener σ μ} {brought failure : Failure} {t : Transport} {returned : Bool} {n : Nat}
  {ends : Failure → Bool → σ → Prop} {o : Opening σ} {m : μ} {met : Except NetworkFault Incoming}

theorem Laws.ahead_read (laws : c.Laws brought t ends) (h : Ahead ends (c.begun t) n o) (m : μ)
    (met : Except NetworkFault Incoming) : Ahead ends (c.begun t) (n + 1) (c.read m met o) := by
  cases h with
  | fresh =>
    simp only [read, laws.reads, if_true, readOnce_unlinked laws.dropped, laws.untouched]
    exact .holding
  | holding => exact .both (Nat.le_refl 2) (laws.finds m)
  | both taken ended =>
    simp only [read, laws.ended_reads _ _ _ ended, Bool.false_eq_true, if_false]
    exact .both (Nat.le_succ_of_le taken) ended

theorem Laws.ahead_start (laws : c.Laws brought t ends) (h : Ahead ends (c.begun t) n o) (m : μ) :
    Settled ends (if 2 ≤ n then unconnected else brought) false (c.start m o) := by
  cases h with
  | fresh => exact ⟨rfl, .inl rfl, laws.checks⟩
  | holding => exact ⟨rfl, .inr rfl, laws.checks⟩
  | both taken ended =>
    rw [if_pos taken]
    exact ⟨rfl, .inl rfl, laws.ended_checks _ _ ended⟩

theorem Laws.ahead_outcome (laws : c.Laws brought t ends) (h : Ahead ends (c.begun t) n o) :
    c.outcome o.session = none := by
  cases h with
  | fresh | holding => exact laws.unreturned
  | both _ ended => rw [laws.outcome _ _ _ ended]; rfl

/-- Once the session is over the reading thread can change nothing, and the call returns. -/
theorem Laws.settled_step (laws : c.Laws brought t ends) (h : Settled ends failure returned o)
    (move : Move μ) : Settled ends failure (returned || move.isStart) (c.step o move) := by
  cases move with
  | start m =>
    simp only [step, start, h.checked, if_true, Move.isStart, Bool.or_true]
    exact ⟨rfl, h.held, laws.ended_settles _ _ _ _ h.ends⟩
  | read m met =>
    simp only [Move.isStart, Bool.or_false, step, read]
    obtain held | held := h.held
    · simp only [held, laws.ended_reads _ _ _ h.ends, Bool.false_eq_true, if_false]
      exact h
    · simp only [held]
      exact ⟨h.checked, .inl rfl, laws.ended_finds _ _ _ _ h.ends⟩

theorem Laws.settled_run (laws : c.Laws brought t ends) (moves : List (Move μ))
    (h : Settled ends failure returned o) :
    Settled ends failure (returned || moves.any Move.isStart) (c.run moves o) := by
  induction moves generalizing o returned with
  | nil => rwa [List.any_nil, Bool.or_false]
  | cons move rest ih =>
    rw [List.any_cons, ← Bool.or_assoc]
    exact ih (laws.settled_step h move)

/-- The call returns with its second step, and raises the failure that counts. -/
theorem Laws.ahead_run (laws : c.Laws brought t ends) (moves : List (Move μ))
    (h : Ahead ends (c.begun t) n o) :
    c.outcome (c.run moves o).session =
      if 2 ≤ moves.countP Move.isStart then
        some (.error (.session (if 2 ≤ n + headStart moves then unconnected else brought)))
      else none := by
  induction moves generalizing o n with
  | nil => exact laws.ahead_outcome h
  | cons move rest ih =>
    cases move with
    | read m met =>
      have steps : n + headStart (Move.read m met :: rest) = n + 1 + headStart rest := by
        simp [headStart, Move.isStart]
        omega
      rw [steps, List.countP_cons_of_neg (by simp [Move.isStart])]
      exact ih (laws.ahead_read h m met)
    | start m =>
      have settled := laws.settled_run rest (laws.ahead_start h m)
      have steps : headStart (Move.start m :: rest) = 0 := by simp [headStart, Move.isStart]
      have second : 2 ≤ (Move.start m :: rest).countP Move.isStart ↔
          rest.any Move.isStart = true := by
        rw [List.countP_cons_of_pos rfl, List.any_eq_true, ← List.countP_pos_iff]
        omega
      rw [steps, Nat.add_zero]
      simp only [second]
      exact laws.outcome _ _ _ settled.ends

theorem Laws.opening_run (laws : c.Laws brought t ends) (moves : List (Move μ)) :
    c.outcome (c.run moves (c.opening t)).session =
      if 2 ≤ moves.countP Move.isStart then some (.error (.session (counted brought moves)))
      else none := by
  have run := laws.ahead_run moves .fresh
  rwa [Nat.zero_add] at run

end
end Opener

/-! ## The two controllers -/

/-- Closing a transport without a connection raises nothing. -/
theorem close_dropped {t : Transport} (dropped : t.link = none) (outside : Outside) :
    (close outside t).1 = .ok () := by
  cases closed : t.closed with
  | true => rw [close_again closed]
  | false => rw [close_unlinked closed dropped]

/-- A shell that is over with a failure, and whether the call of `start` has returned. -/
inductive ShellEnds (failure : Failure) : Bool → Terminal.Shell → Prop
  | waited {t : Terminal.Shell} (waiting : t.waiting = true) (cancelled : t.cancelled = true)
      (uncleaned : t.cleaned = false) (unfinished : t.outcome = none)
      (failed : t.failure = some failure) (dropped : t.transport.link = none) :
      ShellEnds failure false t
  | returned {t : Terminal.Shell} (ended : t.Over (.error (.session failure))) :
      ShellEnds failure true t

/-- A log session that is over with a failure, and whether the call of `start` has returned. -/
inductive StreamEnds (failure : Failure) : Bool → LogTail.Stream → Prop
  | waited {s : LogTail.Stream} (waiting : s.waiting = true) (cancelled : s.cancelled = true)
      (uncleaned : s.cleaned = false) (unfinished : s.outcome = none)
      (failed : s.failure = some failure) (dropped : s.transport.link = none) :
      StreamEnds failure false s
  | returned {s : LogTail.Stream} (ended : s.Over (.error (.session failure))) :
      StreamEnds failure true s

section
variable {t : Transport} {e : Failure}

theorem shell_laws (dropped : t.link = none) (sticky : t.sticky = some e) :
    Opener.shell.Laws e t ShellEnds where
  dropped := dropped
  untouched := rfl
  reads := rfl
  unreturned := rfl
  checks := by
    have checked : Opener.shell.checkSticky (Opener.shell.begun t) =
        (Opener.shell.begun t).fail e := by
      simp only [Opener.shell, Terminal.Shell.checkSticky, Terminal.Shell.launch,
        Terminal.Shell.enter, Terminal.Shell.note, sticky]
    rw [checked]
    exact .waited rfl rfl rfl rfl rfl dropped
  finds _ := .waited rfl rfl rfl rfl rfl dropped
  ended_reads failure returned s h := by
    cases h with
    | waited _ cancelled => simp [Opener.shell, cancelled]
    | returned ended => simp [Opener.shell, ended.cancelled]
  ended_checks failure s h := by
    cases h with
    | waited waiting cancelled uncleaned unfinished failed dropped =>
      simp only [Opener.shell, Terminal.Shell.checkSticky]
      split
      · exact .waited waiting rfl uncleaned unfinished (by simp [Terminal.Shell.fail,
          Terminal.Shell.finish, failed]) dropped
      · exact .waited waiting cancelled uncleaned unfinished failed dropped
  ended_finds failure returned s m h := by
    cases h with
    | waited waiting cancelled uncleaned unfinished failed dropped =>
      simp only [Opener.shell, nothingRead, Terminal.Shell.readDone,
        Terminal.Shell.failUnlessOver, cancelled, if_true]
      exact .waited waiting rfl uncleaned unfinished failed dropped
    | returned ended =>
      simp only [Opener.shell, nothingRead, Terminal.Shell.readDone,
        Terminal.Shell.failUnlessOver, ended.cancelled, if_true]
      exact .returned ⟨ended.waiting, rfl, ended.cleaned, ended.outcome⟩
  ended_settles failure returned s outside h := by
    cases h with
    | waited waiting cancelled uncleaned unfinished failed dropped =>
      obtain ⟨ended, -⟩ := Terminal.Shell.settle_cancelled waiting cancelled uncleaned outside
      rw [failed, leaving_of_ok (close_dropped dropped outside)] at ended
      exact .returned ended
    | returned ended =>
      simp only [Opener.shell, ended.settle]
      exact .returned ended
  outcome failure returned s h := by
    cases h with
    | waited _ _ _ unfinished => exact unfinished
    | returned ended => exact ended.outcome

theorem stream_laws (dropped : t.link = none) (sticky : t.sticky = some e)
    (hard : e.isGraceful = false) : Opener.stream.Laws e t StreamEnds where
  dropped := dropped
  untouched := rfl
  reads := rfl
  unreturned := rfl
  checks := by
    have checked : Opener.stream.checkSticky (Opener.stream.begun t) =
        { Opener.stream.begun t with failure := some e, cancelled := true } := by
      simp only [Opener.stream, LogTail.Stream.checkSticky, LogTail.Stream.launch, sticky,
        LogTail.Stream.fail, hard, Bool.false_eq_true, if_false]
      rfl
    rw [checked]
    exact .waited rfl rfl rfl rfl rfl dropped
  finds _ := .waited rfl rfl rfl rfl rfl dropped
  ended_reads failure returned s h := by
    cases h with
    | waited _ cancelled => simp [Opener.stream, cancelled]
    | returned ended => simp [Opener.stream, ended.cancelled]
  ended_checks failure s h := by
    cases h with
    | waited waiting cancelled uncleaned unfinished failed dropped =>
      simp only [Opener.stream, LogTail.Stream.checkSticky, LogTail.Stream.fail]
      split
      · split
        · exact .waited waiting rfl uncleaned unfinished failed dropped
        · exact .waited waiting rfl uncleaned unfinished (by simp [LogTail.Stream.finish, failed])
            dropped
      · exact .waited waiting cancelled uncleaned unfinished failed dropped
  ended_finds failure returned s m h := by
    cases h with
    | waited waiting cancelled uncleaned unfinished failed dropped =>
      simp only [Opener.stream, nothingRead, LogTail.Stream.readDone,
        LogTail.Stream.failUnlessOver, cancelled, if_true]
      exact .waited waiting rfl uncleaned unfinished failed dropped
    | returned ended =>
      simp only [Opener.stream, nothingRead, LogTail.Stream.readDone,
        LogTail.Stream.failUnlessOver, ended.cancelled, if_true]
      exact .returned ⟨ended.waiting, rfl, ended.cleaned, ended.outcome⟩
  ended_settles failure returned s outside h := by
    cases h with
    | waited waiting cancelled uncleaned unfinished failed dropped =>
      obtain ⟨ended, -⟩ := LogTail.Stream.settle_cancelled waiting cancelled uncleaned outside
      rw [failed, leaving_of_ok (close_dropped dropped outside)] at ended
      exact .returned ended
    | returned ended =>
      simp only [Opener.stream, ended.settle]
      exact .returned ended
  outcome failure returned s h := by
    cases h with
    | waited _ _ _ unfinished => exact unfinished
    | returned ended => exact ended.outcome

/-! ## One thread at a time -/

/-- Two steps of the reading thread, with nothing in between. -/
theorem Opener.run_reads {σ μ : Type} (c : Opener σ μ) (m : μ)
    (met : Except NetworkFault Incoming) (s : σ) (checked : Bool) :
    (c.run [.read m met, .read m met] { session := s, checked }).session =
      if c.reads s then
        let read := (c.transport s).readOnce (c.outside m) met
        c.readDone m read.1 (c.withTransport read.2 s)
      else s := by
  cases reads : c.reads s with
  | true => simp [run, step, read, reads]
  | false => simp [run, step, read, reads]

theorem shell_turn (m : Terminal.Moment) (i : Incoming) (t : Terminal.Shell) (checked : Bool) :
    (Opener.shell.run [.read m (.ok i), .read m (.ok i)] { session := t, checked }).session =
      t.readTurn m i :=
  Opener.shell.run_reads m (.ok i) t checked

theorem stream_turn (m : LogTail.Moment) (i : Incoming) (s : LogTail.Stream) (checked : Bool) :
    (Opener.stream.run [.read m (.ok i), .read m (.ok i)] { session := s, checked }).session =
      s.readTurn m i :=
  Opener.stream.run_reads m (.ok i) s checked

theorem ShellEnds.firstRead {t : Terminal.Shell} {failure : Failure}
    (h : ShellEnds failure false t) : ShellEnds failure false t.firstRead := by
  cases h with
  | waited waiting cancelled uncleaned unfinished failed dropped =>
    simp only [Terminal.Shell.firstRead, Terminal.Shell.failUnlessOver, cancelled, if_true]
    split
    · exact .waited waiting cancelled uncleaned unfinished failed dropped
    · exact .waited waiting rfl uncleaned unfinished failed dropped

theorem StreamEnds.firstRead {s : LogTail.Stream} {failure : Failure}
    (h : StreamEnds failure false s) : StreamEnds failure false s.firstRead := by
  cases h with
  | waited waiting cancelled uncleaned unfinished failed dropped =>
    simp only [LogTail.Stream.firstRead, LogTail.Stream.failUnlessOver, cancelled, if_true]
    split
    · exact .waited waiting cancelled uncleaned unfinished failed dropped
    · exact .waited waiting rfl uncleaned unfinished failed dropped

/-- The call of `start`, when it goes first. -/
theorem shell_start (dropped : t.link = none) (sticky : t.sticky = some e) (outside : Outside) :
    ∃ u, Terminal.Shell.start outside {} { transport := t } = .ok u ∧ ShellEnds e true u :=
  have laws := shell_laws dropped sticky
  ⟨_, rfl, laws.ended_settles _ _ _ outside laws.checks.firstRead⟩

theorem stream_start (dropped : t.link = none) (sticky : t.sticky = some e)
    (hard : e.isGraceful = false) (outside : Outside) :
    ∃ u, LogTail.Stream.start outside { transport := t } = .ok u ∧ StreamEnds e true u :=
  have laws := stream_laws dropped sticky hard
  ⟨_, rfl, laws.ended_settles _ _ _ outside laws.checks.firstRead⟩

/-- What stands in the way of a start, if anything does. -/
def hindering (hindrance : Terminal.Hindrance) : Option Trouble :=
  match hindrance.raw with
  | some text => some (.session (.localTerminal text))
  | none => hindrance.watch

/-- A shell that cannot begin raises what stands in its way, and not what the transport brought
along. -/
theorem shell_hindered (dropped : t.link = none) {hindrance : Terminal.Hindrance}
    {trouble : Trouble} (hinders : hindering hindrance = some trouble) (outside : Outside) :
    ∃ u, Terminal.Shell.start outside hindrance { transport := t } = .ok u ∧
      u.outcome = some (.error trouble) := by
  have raises (u : Terminal.Shell) (transport : u.transport = t) (uncleaned : u.cleaned = false) :
      (u.abandon outside trouble).outcome = some (.error trouble) := by
    rw [Terminal.Shell.abandon_outcome uncleaned, transport, close_dropped dropped]
    rfl
  obtain ⟨_ | text, watch⟩ := hindrance
  · obtain rfl : watch = some trouble := hinders
    exact ⟨_, rfl, raises (Terminal.Shell.enter { transport := t }) rfl rfl⟩
  · cases hinders
    exact ⟨_, rfl, raises { transport := t } rfl rfl⟩

/-- **What a session raises that failed before it began.** The call of `start` returns with its
second step. It raises the failure that the transport brought along, unless the reading thread has
taken both its steps by then; that one finds no connection, and its failure is the first. A shell
whose terminal cannot be set up does not come as far as that. -/
theorem sticky_raised (dropped : t.link = none) (sticky : t.sticky = some e)
    (hard : e.isGraceful = false) :
    (∀ moves : List (Move Terminal.Moment),
      Opener.shell.outcome (Opener.shell.run moves (Opener.shell.opening t)).session =
        if 2 ≤ moves.countP Move.isStart then some (.error (.session (counted e moves)))
        else none) ∧
    (∀ moves : List (Move LogTail.Moment),
      Opener.stream.outcome (Opener.stream.run moves (Opener.stream.opening t)).session =
        if 2 ≤ moves.countP Move.isStart then some (.error (.session (counted e moves)))
        else none) ∧
    ∀ outside hindrance trouble, hindering hindrance = some trouble →
      ∃ u, Terminal.Shell.start outside hindrance { transport := t } = .ok u ∧
        u.outcome = some (.error trouble) :=
  ⟨(shell_laws dropped sticky).opening_run, (stream_laws dropped sticky hard).opening_run,
    fun outside _ _ hinders => shell_hindered dropped hinders outside⟩

end

/-- A transport whose dial was refused. -/
def refusedDial : Transport :=
  (connect { now := 0 } (some (.system .refused "refused")) "ws://c/x" [] (initial "ms" "")).2

/-- A refused dial is reported when the call of `start` goes first. -/
theorem sticky_raised_refused :
    refusedDial.link = none ∧
      refusedDial.sticky = some (.connect "failed to connect: refused" none) ∧
      ∀ m : LogTail.Moment,
        Opener.stream.outcome
            (Opener.stream.run [.start m, .read m (.ok .ended), .start m]
              (Opener.stream.opening refusedDial)).session =
          some (.error (.session (.connect "failed to connect: refused" none))) :=
  ⟨by decide, by decide, fun m =>
    (sticky_raised (t := refusedDial) (by decide) (by decide) (by decide)).2.1
      [.start m, .read m (.ok .ended), .start m]⟩

/-- The reading thread goes first: neither controller reports why the dial failed. -/
theorem sticky_overtaken :
    let shown : Terminal.Moment := { outside := { now := 0 } }
    let logged : LogTail.Moment := { outside := { now := 0 } }
    refusedDial.link = none ∧
      refusedDial.sticky = some (.connect "failed to connect: refused" none) ∧
      Opener.shell.outcome
          (Opener.shell.run
            [.read shown (.ok .ended), .read shown (.ok .ended), .start shown, .start shown]
            (Opener.shell.opening refusedDial)).session =
        some (.error (.session (.notConnected "not connected"))) ∧
      Opener.stream.outcome
          (Opener.stream.run
            [.read logged (.ok .ended), .read logged (.ok .ended), .start logged, .start logged]
            (Opener.stream.opening refusedDial)).session =
        some (.error (.session (.notConnected "not connected"))) :=
  ⟨by decide, by decide, rfl, rfl⟩

end EdgeSession.Attach
