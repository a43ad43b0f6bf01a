import EdgeSession.Proofs.Session.Tidy
import EdgeSession.Proofs.Terminal.Cleanup
import EdgeSession.Proofs.Terminal.Desk
import EdgeSession.Proofs.Terminal.Keys
import EdgeSession.Proofs.Terminal.Operations

/-!
The life of a terminal session, in whatever order it is started, stopped and interrupted, and
whatever its loops meet in between. It goes through its phases in one direction, and whoever ends
it, it is cleaned up once: the connection is closed and the terminal given back.
-/
namespace EdgeSession.Terminal

open Transport

/-- A session that nothing was done with. -/
structure Untouched (t : Shell) : Prop where
  phase : t.phase = .idle
  uncancelled : t.cancelled = false
  uncleaned : t.cleaned = false
  unread : t.reading = false
  untyped : t.typing = false
  unawaited : t.waiting = false
  unfinished : t.outcome = none
  journal : t.journal = []
  tidy : t.transport.Tidy

/-- A session that a call of `start` waits for. -/
structure Underway (t : Shell) : Prop where
  phase : t.phase = if t.cancelled then .closing else .raw
  uncleaned : t.cleaned = false
  waiting : t.waiting = true
  unfinished : t.outcome = none
  has : Has t.journal
  tidy : t.transport.Tidy

/-- A session that can be cleaned up. -/
structure Cleanable (t : Shell) : Prop where
  uncleaned : t.cleaned = false
  givesBack : GaveBack (t.journal ++ [.unwatchedSize, .restored])
  tidy : t.transport.Tidy

/-- A session that was cleaned up. -/
structure Settled (t : Shell) : Prop where
  phase : t.phase = .closed
  cancelled : t.cancelled = true
  cleaned : t.cleaned = true
  done : t.transport.done = true
  gaveBack : GaveBack t.journal

/-- The stages of a session. -/
inductive Stage (t : Shell) : Prop
  | untouched (h : Untouched t)
  | underway (h : Underway t)
  | settled (h : Settled t)

section
variable {t u : Shell} {m : Moment} {e : Shell.Event} {outside : Outside} {op : Op} {ops : List Op}

/-! ## Cleaning up -/

theorem Cleanable.cleanup (h : Cleanable t) (ok : (t.transport.close outside).1 = .ok ()) :
    Settled (t.cleanup outside).2 := by
  rw [Shell.cleanup_closed h.uncleaned ok]
  exact ⟨rfl, rfl, rfl, close_done h.tidy ok, h.givesBack⟩

/-- The cleanup of a session that can be cleaned up settles it. -/
theorem Op.run_settles (h : op.cleanup? t = some (outside, u)) (cleanable : Cleanable u)
    (quiet : op.Quiet t) : Settled (op.run t) := by
  obtain ⟨waiting, outcome, ran⟩ := run_cleanup h
  have settled := cleanable.cleanup (quiet.cleanup outside u h)
  rw [ran]
  exact ⟨settled.phase, settled.cancelled, settled.cleaned, settled.done, settled.gaveBack⟩

/-! ## A session under way -/

namespace Underway

theorem cleanable (h : Underway t) : Cleanable t := ⟨h.uncleaned, h.has.giveBack, h.tidy⟩

theorem rank_pos (h : Underway t) : 1 ≤ t.phase.rank := by
  rw [h.phase]
  split <;> decide

theorem finish (h : Underway t) : Underway t.finish := by
  refine ⟨?_, h.uncleaned, h.waiting, h.unfinished, h.has, h.tidy⟩
  have phase := h.phase
  cases cancelled : t.cancelled with
  | false =>
    rw [cancelled] at phase
    simp only [Shell.finish, phase, Bool.false_eq_true, if_false, if_true]
  | true =>
    rw [cancelled] at phase
    simp [Shell.finish, phase]

theorem fail (h : Underway t) (failure : Failure) : Underway (t.fail failure) :=
  finish (t := { t with failure := t.failure <|> some failure })
    ⟨h.phase, h.uncleaned, h.waiting, h.unfinished, h.has, h.tidy⟩

theorem failUnlessOver (h : Underway t) (failure : Failure) :
    Underway (t.failUnlessOver failure) := by
  unfold Shell.failUnlessOver
  split
  · exact h
  · exact h.fail failure

theorem withTransport (h : Underway t) {transport : Transport} (tidy : transport.Tidy) :
    Underway (t.withTransport transport) :=
  ⟨h.phase, h.uncleaned, h.waiting, h.unfinished, h.has, tidy⟩

theorem unread (h : Underway t) : Underway t.unread :=
  ⟨h.phase, h.uncleaned, h.waiting, h.unfinished, h.has, h.tidy⟩

theorem typed (h : Underway t) (typing : Bool) : Underway { t with typing } :=
  ⟨h.phase, h.uncleaned, h.waiting, h.unfinished, h.has, h.tidy⟩

theorem lined (h : Underway t) (line : Line) (lastInterrupt : Option Float) :
    Underway { t with line, lastInterrupt } :=
  ⟨h.phase, h.uncleaned, h.waiting, h.unfinished, h.has, h.tidy⟩

theorem put (h : Underway t) (m : Moment) (bytes : Bytes) : Underway (t.put m bytes).2 := by
  unfold Shell.put
  split <;>
    exact ⟨h.phase, h.uncleaned, h.waiting, h.unfinished, h.has.snoc trivial, h.tidy⟩

theorem present (h : Underway t) (m : Moment) (message : Message) :
    Underway (t.present m message) := by
  unfold Shell.present
  split
  · exact h.unread.finish
  · split
    · have put := h.put m message.data
      generalize t.put m message.data = call at put ⊢
      rcases call with ⟨(text | text) | _, after⟩
      · exact put.unread.fail _
      · exact put.unread
      · exact put
    · exact h

theorem readDone (h : Underway t) (m : Moment) (result : Except Trouble (Option Message)) :
    Underway (t.readDone m result) := by
  rcases result with (failure | fault | _ | _) | (_ | message)
  · exact h.unread.failUnlessOver failure
  · exact h.unread
  · exact h.unread
  · exact h.unread
  · exact h.unread.finish
  · exact h.present m message

theorem echo (h : Underway t) (m : Moment) (bytes : Bytes) (ends : Bool) :
    Underway (t.echo m bytes ends).2 := by
  have put := h.put m bytes
  unfold Shell.echo
  generalize t.put m bytes = call at put ⊢
  rcases call with ⟨(text | text) | _, after⟩ <;> exact put

theorem handle (h : Underway t) (m : Moment) (data : Bytes) : Underway (t.handle m data).2 := by
  cases data with
  | nil => exact h
  | cons first rest =>
    simp only [Shell.handle]
    split
    · simp only [Shell.interrupt]
      split
      · exact h.echo m exitingText true
      · exact (h.lined .cleared (some m.clock)).echo m interruptText false
    · split
      · exact h.echo m exitText true
      · have sent := Tidy.send h.tidy m.outside (.ofKind .stdin (first :: rest) m.outside.now)
        rw [Shell.forward_state]
        exact (h.lined _ t.lastInterrupt).withTransport sent

theorem keyDone (h : Underway t) (result : Except KeyTrouble Bool) :
    Underway (t.keyDone result) := by
  rcases result with ((failure | fault | _ | _) | text) | (_ | _)
  · exact (h.typed false).failUnlessOver failure
  · cases fault with
    | system kind text => exact (h.typed false).fail _
    | _ => exact h.typed false
  · exact h.typed false
  · exact h.typed false
  · exact (h.typed false).fail _
  · exact h
  · exact (h.typed false).finish

theorem readTurn (h : Underway t) (m : Moment) (i : Incoming)
    (quiet : t.reading = true → ∀ failure?, Closes t.transport i failure? →
      (t.transport.close m.outside).1 = .ok ()) : Underway (t.readTurn m i) := by
  unfold Shell.readTurn
  split
  · rename_i reads
    have reading := (Bool.and_eq_true_iff.1 reads).1
    exact (h.withTransport (Tidy.read h.tidy (quiet reading))).readDone m _
  · exact h

theorem readFailed (h : Underway t) (m : Moment) (fault : NetworkFault)
    (quiet : ∀ i, fault.incoming? = some i → t.reading = true → ∀ failure?,
      Closes t.transport i failure? → (t.transport.close m.outside).1 = .ok ()) :
    Underway (t.readFailed m fault) := by
  unfold Shell.readFailed
  split
  · rename_i reads
    have reading := (Bool.and_eq_true_iff.1 reads).1
    have read := Tidy.readFault h.tidy fun i brought => quiet i brought reading
    exact (h.withTransport read).readDone m _
  · exact h

theorem keyTurn (h : Underway t) (m : Moment) (data : Bytes) : Underway (t.keyTurn m data) := by
  unfold Shell.keyTurn
  split
  · split
    · exact h.typed false
    · exact (h.handle m data).keyDone _
  · exact h

theorem keyFailed (h : Underway t) (text : String) : Underway (t.keyFailed text) := by
  unfold Shell.keyFailed
  split
  · exact (h.typed false).fail _
  · exact h

end Underway

/-! ## Steps -/

/-- What an operation does with a session that was not cleaned up: it goes on with it, or cleans it
up. -/
inductive Moves (op : Op) (t : Shell) : Prop
  | stays (uncleaned : op.cleanup? t = none) (same : op.run t = t)
  | goes (uncleaned : op.cleanup? t = none) (underway : Underway (op.run t))
      (onward : t.phase.rank ≤ (op.run t).phase.rank)
  | cleans {outside : Outside} {u : Shell} (h : op.cleanup? t = some (outside, u))
      (cleanable : Cleanable u)

/-- The turns of the loops go on with the session. -/
theorem Underway.react (h : Underway t) (quiet : (Op.event m e).Quiet t) (stops : e ≠ .stop)
    (interrupts : e ≠ .interrupt) : Underway (t.react m e) := by
  cases e with
  | incoming i =>
    exact h.readTurn m i fun reading failure? => quiet.read m _ i failure? rfl rfl reading
  | readError fault =>
    exact h.readFailed m fault fun i brought reading failure? =>
      quiet.read m _ i failure? rfl (congrArg some brought) reading
  | key data => exact h.keyTurn m data
  | keyError text => exact h.keyFailed text
  | stop => exact absurd rfl stops
  | interrupt => exact absurd rfl interrupts
  | resize => exact h

theorem Underway.moves (h : Underway t) (quiet : op.Quiet t) : Moves op t := by
  have active : t.phase ≠ .idle := by
    rw [h.phase]
    split <;> decide
  cases op with
  | start outside hindrance =>
    obtain ⟨uncleaned, same⟩ := Op.start_refused active outside hindrance
    exact .stays uncleaned same
  | halt =>
    refine .goes rfl ?_ ?_ <;> simp only [Op.run, h.waiting, if_true]
    · exact h.finish
    · have := h.phase
      cases cancelled : t.cancelled <;> simp [Shell.finish, this, cancelled, Phase.rank]
  | wake outside =>
    cases ended : t.waiting && t.cancelled with
    | true =>
      have cleans : (Op.wake outside).cleanup? t = some (outside, t) := by
        simp only [Op.cleanup?, ended, if_true]
      exact .cleans cleans h.cleanable
    | false =>
      obtain ⟨uncleaned, same⟩ := Op.wake_awaits ended outside
      exact .stays uncleaned same
  | event m e =>
    by_cases stops : e = .stop
    · subst stops
      exact .cleans rfl h.finish.cleanable
    by_cases interrupts : e = .interrupt
    · subst interrupts
      have cleans : (Op.event m .interrupt).cleanup? t = some (m.outside, t) := by
        simp only [Op.cleanup?, h.waiting, if_true]
      exact .cleans cleans h.cleanable
    have uncleaned : (Op.event m e).cleanup? t = none := by
      cases e <;> first | rfl | contradiction
    cases cancelled : t.cancelled with
    | true => exact .stays uncleaned (Shell.react_cancelled cancelled m stops interrupts)
    | false =>
      have underway := h.react quiet stops interrupts
      refine .goes uncleaned underway ?_
      rw [h.phase, cancelled]
      exact underway.rank_pos

theorem Untouched.cleanable (h : Untouched t) : Cleanable t := by
  have opening : Opening t.journal := by
    rw [h.journal]
    exact .none
  exact ⟨h.uncleaned, opening.giveBack, h.tidy⟩

theorem Untouched.finish_cleanable (h : Untouched t) : Cleanable t.finish :=
  ⟨h.cleanable.uncleaned, h.cleanable.givesBack, h.cleanable.tidy⟩

/-- A call of `start` that nothing stands in the way of. -/
theorem Untouched.begins (h : Untouched t) :
    Underway t.enter.launch.checkSticky.firstRead := by
  have launched : Underway t.enter.launch :=
    ⟨by simp [Shell.launch, Shell.enter, Shell.note, h.uncancelled], h.uncleaned, rfl,
      h.unfinished, ⟨[], by simp [Shell.launch, Shell.enter, Shell.note, h.journal], nofun⟩, h.tidy⟩
  have checked : Underway t.enter.launch.checkSticky := by
    unfold Shell.checkSticky
    split
    · exact launched.fail _
    · exact launched.typed true
  unfold Shell.firstRead
  split
  · exact checked
  · exact checked.unread.failUnlessOver _

/-- The first call of `start` waits, or cleans up what it has opened. -/
theorem Untouched.started (h : Untouched t) (outside : Outside) (hindrance : Hindrance) :
    Moves (.start outside hindrance) t := by
  have idle : ¬t.phase ≠ .idle := not_not.2 h.phase
  rcases hindrance with ⟨_ | text, _ | trouble⟩
  · have begins := h.begins
    cases ended : t.enter.launch.checkSticky.firstRead.waiting &&
      t.enter.launch.checkSticky.firstRead.cancelled with
    | true =>
      have cleans : (Op.start outside {}).cleanup? t =
          some (outside, t.enter.launch.checkSticky.firstRead) := by
        simp only [Op.cleanup?, idle, ended, if_true, if_false]
      exact .cleans cleans begins.cleanable
    | false =>
      have uncleaned : (Op.start outside {}).cleanup? t = none := by
        simp only [Op.cleanup?, idle, ended, Bool.false_eq_true, if_false]
      have ran : (Op.start outside {}).run t = t.enter.launch.checkSticky.firstRead := by
        simp only [Op.run, Shell.start, idle, if_false, Shell.settle_awaits ended]
        rfl
      refine .goes uncleaned (ran ▸ begins) ?_
      rw [h.phase]
      exact Nat.zero_le _
  · have cleans : (Op.start outside { watch := some trouble }).cleanup? t =
        some (outside, t.enter) := by
      simp only [Op.cleanup?, idle, if_false]
    have opening : Opening t.enter.journal := by
      rw [show t.enter.journal = t.journal ++ [.enteredRaw] from rfl, h.journal]
      exact .entered
    exact .cleans cleans ⟨h.uncleaned, opening.giveBack, h.tidy⟩
  -- where raw mode is refused, nothing was opened
  all_goals
    have cleans : ∀ watch,
        (Op.start outside { raw := some text, watch }).cleanup? t = some (outside, t) := by
      intro watch
      simp only [Op.cleanup?, idle, if_false]
    exact .cleans (cleans _) h.cleanable

theorem Untouched.moves (h : Untouched t) : Moves op t := by
  have unawaited : (t.waiting && t.cancelled) = false := by simp [h.unawaited]
  cases op with
  | start outside hindrance => exact h.started outside hindrance
  | halt =>
    exact .stays rfl (by simp only [Op.run, h.unawaited, Bool.false_eq_true, if_false])
  | wake outside =>
    obtain ⟨uncleaned, same⟩ := Op.wake_awaits unawaited outside
    exact .stays uncleaned same
  | event m e =>
    cases e with
    | stop =>
      have cleans : (Op.event m .stop).cleanup? t = some (m.outside, t.finish) := rfl
      exact .cleans cleans h.finish_cleanable
    | interrupt =>
      refine .stays ?_ ?_
      · simp only [Op.cleanup?, h.unawaited, Bool.false_eq_true, if_false]
      · simp only [Op.run, Shell.react, Shell.interrupted, h.unawaited, Bool.false_eq_true,
          if_false]
    | _ =>
      refine .stays rfl ?_
      simp only [Op.run, Shell.react, Shell.readTurn, Shell.readFailed, Shell.keyTurn,
        Shell.keyFailed, h.unread, h.untyped, Bool.false_and, Bool.false_eq_true, if_false]

theorem Settled.finish (h : Settled t) : t.finish = t := by
  have phase : (if t.phase = .raw then .closing else t.phase) = t.phase := by
    rw [h.phase]
    rfl
  rw [Shell.finish, phase, ← h.cancelled]

/-- Nothing is done to a session that was cleaned up, but for what becomes of the waiting call. -/
theorem Settled.run (h : Settled t) (op : Op) :
    ∃ waiting outcome, op.run t = { t with waiting, outcome } := by
  have again := Shell.cleanup_again h.cleaned
  cases op with
  | start outside hindrance =>
    have active : t.phase ≠ .idle := by
      rw [h.phase]
      decide
    exact ⟨t.waiting, t.outcome, (Op.start_refused active outside hindrance).2⟩
  | halt =>
    refine ⟨t.waiting, t.outcome, ?_⟩
    simp only [Op.run, h.finish, ite_self]
  | wake outside =>
    cases ended : t.waiting && t.cancelled with
    | true =>
      obtain ⟨outcome, settled⟩ := Shell.settle_over ended outside
      rw [again outside] at settled
      exact ⟨_, outcome, settled⟩
    | false => exact ⟨_, _, (Op.wake_awaits ended outside).2⟩
  | event m e =>
    by_cases stops : e = .stop
    · subst stops
      refine ⟨t.waiting, t.outcome, ?_⟩
      simp only [Op.run, Shell.react, Shell.stop, h.finish, again]
    by_cases interrupts : e = .interrupt
    · subst interrupts
      obtain ⟨outcome, abandoned⟩ := Shell.abandon_frame t m.outside (.network .interrupted)
      rw [again] at abandoned
      simp only [Op.run, Shell.react, Shell.interrupted]
      split
      · exact ⟨_, outcome, abandoned⟩
      · exact ⟨_, _, rfl⟩
    exact ⟨_, _, Shell.react_cancelled h.cancelled m stops interrupts⟩

theorem Settled.kept (h : Settled t) (op : Op) : Settled (op.run t) := by
  obtain ⟨waiting, outcome, ran⟩ := h.run op
  rw [ran]
  exact ⟨h.phase, h.cancelled, h.cleaned, h.done, h.gaveBack⟩

/-- A cleanup that comes late finds the session as it is. -/
theorem Settled.cleanup? (h : Settled t) (cleans : op.cleanup? t = some (outside, u)) : u = t := by
  cases op with
  | start outside' hindrance =>
    have active : t.phase ≠ .idle := by
      rw [h.phase]
      decide
    exact absurd ((Op.start_refused active outside' hindrance).1.symm.trans cleans) nofun
  | event m e =>
    cases e with
    | stop =>
      cases cleans
      exact h.finish
    | interrupt =>
      simp only [Op.cleanup?] at cleans
      split at cleans <;> cases cleans
      rfl
    | _ => cases cleans
  | halt => cases cleans
  | wake outside' =>
    simp only [Op.cleanup?] at cleans
    split at cleans <;> cases cleans
    rfl

/-- What every operation keeps to. -/
structure Advances (op : Op) (t : Shell) : Prop where
  stage : Stage (op.run t)
  onward : t.phase.rank ≤ (op.run t).phase.rank
  closings : op.closings t + owed (op.run t) = owed t

theorem Settled.advances (h : Settled t) (op : Op) : Advances op t := by
  have kept := h.kept op
  have nothing : owed t = 0 := if_pos h.cleaned
  refine ⟨.settled kept, Nat.le_of_eq (by rw [h.phase, kept.phase]), ?_⟩
  have unowed : owed (op.run t) = 0 := if_pos kept.cleaned
  rw [unowed, nothing]
  cases cleans : op.cleanup? t with
  | none => exact Op.closings_of_none cleans
  | some pair =>
    obtain ⟨outside, u⟩ := pair
    rw [Op.closings_of_some cleans, h.cleanup? cleans, nothing]

theorem Moves.advances (h : Moves op t) (stage : Stage t) (uncleaned : t.cleaned = false)
    (quiet : op.Quiet t) : Advances op t := by
  have owes : owed t = 1 := if_neg (by rw [uncleaned]; decide)
  cases h with
  | stays unclean same =>
    rw [← same] at stage
    refine ⟨stage, Nat.le_of_eq (by rw [same]), ?_⟩
    rw [Op.closings_of_none unclean, same, Nat.zero_add]
  | goes unclean underway onward =>
    have owes' : owed (op.run t) = 1 := if_neg (by rw [underway.uncleaned]; decide)
    exact ⟨.underway underway, onward, by rw [Op.closings_of_none unclean, owes', owes]⟩
  | cleans cleans cleanable =>
    have settled := Op.run_settles cleans cleanable quiet
    have unowed : owed (op.run t) = 0 := if_pos settled.cleaned
    have owing := (Op.closings_of_some cleans).trans (if_neg (by rw [cleanable.uncleaned]; decide))
    refine ⟨.settled settled, ?_, by rw [owing, unowed, owes]⟩
    rw [settled.phase]
    cases t.phase <;> decide

theorem Stage.advances (h : Stage t) (quiet : op.Quiet t) : Advances op t := by
  cases h with
  | untouched untouched =>
    exact untouched.moves.advances (.untouched untouched) untouched.uncleaned quiet
  | underway underway =>
    exact (underway.moves quiet).advances (.underway underway) underway.uncleaned quiet
  | settled settled => exact settled.advances op

/-- Whenever a call of `stop` comes, it leaves a session that was cleaned up. -/
theorem Stage.stop (h : Stage t) (quiet : (Op.event m .stop).Quiet t) :
    Settled ((Op.event m .stop).run t) := by
  have cleans : (Op.event m .stop).cleanup? t = some (m.outside, t.finish) := rfl
  cases h with
  | untouched untouched =>
    exact Op.run_settles cleans untouched.finish_cleanable quiet
  | underway underway => exact Op.run_settles cleans underway.finish.cleanable quiet
  | settled settled => exact settled.kept _

/-- A call of `start` comes back from a session that was cleaned up. -/
theorem Stage.settled_of_outcome (h : Stage t) (finished : t.outcome.isSome) : Settled t := by
  cases h with
  | untouched untouched =>
    rw [untouched.unfinished] at finished
    cases finished
  | underway underway =>
    rw [underway.unfinished] at finished
    cases finished
  | settled settled => exact settled

/-! ## Runs -/

theorem Settled.rests (h : Settled t) (ops : List Op) :
    (∃ waiting outcome, play ops t = { t with waiting, outcome }) ∧ closings ops t = 0 := by
  induction ops generalizing t with
  | nil => exact ⟨⟨_, _, rfl⟩, rfl⟩
  | cons op rest ih =>
    obtain ⟨waiting, outcome, ran⟩ := h.run op
    obtain ⟨⟨waiting', outcome', played⟩, none⟩ := ih (h.kept op)
    have advances := (h.advances op).closings
    have unowed : owed t = 0 := if_pos h.cleaned
    refine ⟨⟨waiting', outcome', ?_⟩, ?_⟩
    · rw [play, played, ran]
    · rw [closings, none]
      omega

theorem Settled.played (h : Settled t) (ops : List Op) : Settled (play ops t) := by
  induction ops generalizing t with
  | nil => exact h
  | cons op rest ih => exact ih (h.kept op)

theorem Stage.lasts (h : Stage t) (quiet : AllQuiet ops t) :
    Stage (play ops t) ∧ (∀ phase ∈ phases ops t, t.phase.rank ≤ phase.rank) ∧
      (phases ops t).Pairwise (fun earlier later => earlier.rank ≤ later.rank) ∧
      closings ops t + owed (play ops t) = owed t := by
  induction ops generalizing t with
  | nil => exact ⟨h, by simp [phases], List.pairwise_singleton _ _, Nat.zero_add _⟩
  | cons op rest ih =>
    obtain ⟨first, others⟩ := quiet
    have advances := h.advances first
    obtain ⟨stage, least, chain, count⟩ := ih advances.stage others
    have onward : ∀ phase ∈ phases rest (op.run t), t.phase.rank ≤ phase.rank :=
      fun phase member => Nat.le_trans advances.onward (least phase member)
    refine ⟨stage, ?_, List.pairwise_cons.2 ⟨onward, chain⟩, ?_⟩
    · exact List.forall_mem_cons.2 ⟨Nat.le_refl _, onward⟩
    · have := advances.closings
      simp only [closings, play]
      omega

theorem Stage.played_stop (h : Stage t) (quiet : AllQuiet ops t) (stopped : .event m .stop ∈ ops) :
    Settled (play ops t) := by
  induction ops generalizing t with
  | nil => cases stopped
  | cons op rest ih =>
    obtain ⟨first, others⟩ := quiet
    rcases List.mem_cons.1 stopped with rfl | member
    · exact (h.stop first).played rest
    · exact ih (h.advances first).stage others member

end

/-- **A session is cleaned up once.** Whatever is done with a new session, and in whatever order, it
goes through its phases in one direction; and as soon as a call of `stop` was made or `start` has
come back, the transport was closed by one cleanup, the size watched no longer and the terminal
given back, each once. From then on the session is over, the terminal is as it was found, and
nothing that is done changes that: a further `stop` does nothing, a further `start` is refused. -/
theorem cleaned_up_once {transport : Transport} (tidy : transport.Tidy) {ops : List Op}
    (quiet : AllQuiet ops { transport }) :
    let t := play ops { transport }
    (phases ops { transport }).Pairwise (fun earlier later => earlier.rank ≤ later.rank) ∧
      ((∃ m, .event m .stop ∈ ops) ∨ t.outcome.isSome →
        closings ops { transport } = 1 ∧
        t.journal.count .unwatchedSize = 1 ∧ t.journal.count .restored = 1 ∧
        t.phase = .closed ∧ t.cancelled = true ∧ t.transport.done = true ∧
        (∀ {μ : Type} (rawOf : μ → μ) (onMain : Bool) (d : Desk μ), d.Free →
          (d.after rawOf onMain t.journal).mode = d.mode ∧
            (d.after rawOf onMain t.journal).Free) ∧
        (∀ outside hindrance,
          t.stop outside = (.ok (), t) ∧ t.start outside hindrance = .error .closed) ∧
        ∀ later, closings (ops ++ later) { transport } = 1 ∧
          ∃ waiting outcome, play (ops ++ later) { transport } = { t with waiting, outcome }) := by
  intro t
  have new : Stage { transport } := .untouched ⟨rfl, rfl, rfl, rfl, rfl, rfl, rfl, rfl, tidy⟩
  obtain ⟨stage, -, chain, count⟩ := new.lasts quiet
  refine ⟨chain, fun ended => ?_⟩
  have settled : Settled t := by
    rcases ended with ⟨m, stopped⟩ | finished
    · exact new.played_stop quiet stopped
    · exact stage.settled_of_outcome finished
  have unowed : owed t = 0 := if_pos settled.cleaned
  have closedOnce : closings ops { transport } = 1 := by
    have owes : owed { transport } = 1 := rfl
    have total : closings ops { transport } + owed t = owed { transport } := count
    omega
  refine ⟨closedOnce, settled.gaveBack.unwatched, settled.gaveBack.restored, settled.phase,
    settled.cancelled, settled.done, fun rawOf onMain d free => Desk.after_gaveBack free
      settled.gaveBack, fun outside hindrance => ⟨?_, ?_⟩, fun later => ?_⟩
  · rw [Shell.stop, settled.finish, Shell.cleanup_again settled.cleaned]
  · have active : t.phase ≠ .idle := by
      rw [settled.phase]
      decide
    simp only [Shell.start, if_pos active]
    rw [settled.phase]
  · obtain ⟨same, none⟩ := settled.rests later
    rw [closings_append, play_append]
    exact ⟨by rw [closedOnce, none], same⟩

/-- A session that the remote side leaves. -/
theorem cleaned_up_once_left :
    let transport := (connect { now := 0 } none "ws://c/x" [] (.initial "m" "")).2
    let ops : List Op := [.start { now := 0 } {},
      .event { outside := { now := 1 } } (.incoming (.closed (some ⟨1000, ""⟩) none)),
      .wake { now := 2 }]
    closings ops { transport } = 1 ∧ (play ops { transport }).phase = .closed ∧
      (play ops { transport }).journal =
        [.enteredRaw, .watchedSize, .unwatchedSize, .restored] ∧
      ∀ outside hindrance, (play ops { transport }).start outside hindrance = .error .closed := by
  intro transport ops
  have quiet : AllQuiet ops { transport } := by
    refine ⟨Op.quiet_of_closes (by decide +kernel) (fun m e same => by cases same),
      Op.quiet_of_closes (by decide +kernel) fun m e same => ?_,
      Op.quiet_of_closes (by decide +kernel) (fun m e same => by cases same), trivial⟩
    cases same
    decide +kernel
  have ended : (play ops { transport }).outcome.isSome = true := by decide +kernel
  obtain ⟨-, once⟩ := @cleaned_up_once transport nofun ops quiet
  obtain ⟨count, -, -, phase, -, -, -, again, -⟩ := once (.inr ended)
  exact ⟨count, phase, by decide +kernel, fun outside hindrance => (again outside hindrance).2⟩

end EdgeSession.Terminal
