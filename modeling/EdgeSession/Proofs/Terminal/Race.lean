import EdgeSession.Proofs.Terminal.Lifecycle

/-!
A call of `start` and calls of `stop` on threads of their own. There is one cleanup, and what the
call of `start` opens behind it is left open; so what becomes of the terminal hangs on how far that
call had come.
-/
namespace EdgeSession.Terminal

open Transport

/-- How many steps of `start` are done. -/
def Starter.rank : Starter → Nat
  | .away => 0
  | .tested => 1
  | .entered => 2
  | .marked => 3
  | .waiting => 4
  | .leaving _ => 5
  | .returned => 6

theorem Starter.eq_of_rank {place : Starter} (begun : place ≠ .away) (behind : place.rank ≤ 3) :
    place = .tested ∨ place = .entered ∨ place = .marked := by
  cases place <;> simp_all [rank]

/-- Whether a call of `start` has passed its test and has not yet come to wait. -/
def Starter.isBetween : Starter → Bool
  | .tested | .entered | .marked | .leaving (some _) => true
  | _ => false

namespace Calls

/-- The network at the cleanup that a step calls, if it calls one. -/
def cleanup? (c : Calls) : Move → Option Outside
  | .start outside _ =>
    match c.starter with
    | .leaving _ => some outside
    | _ => none
  | .stop caller outside => if c.stoppers caller = .ended then some outside else none
  | .turn .. => none

/-- The first cleanup of a schedule: how far `start` had come, and what the `close` of the transport
came to. -/
def firstCleanup? : List Move → Calls → Option (Starter × Except Trouble Unit)
  | [], _ => none
  | move :: moves, c =>
    match c.cleanup? move with
    | some outside => some (c.starter, (c.shell.transport.close outside).1)
    | none => firstCleanup? moves (c.step move)

/-- No `close` raises that a read calls to end the session. -/
def Quiet : List Move → Calls → Prop
  | [], _ => True
  | move :: moves, c =>
    (∀ m e, move = .turn m e → e ≠ .stop → e ≠ .interrupt → (Op.event m e).Quiet c.shell) ∧
      Quiet moves (c.step move)

/-! ## One thread at a time -/

/-- The steps of `start`, when no other thread comes between them. -/
theorem start_alone (t : Shell) (outside : Outside) (hindrance : Hindrance) :
    (run (List.replicate 6 (.start outside hindrance)) { shell := t }).shell =
      (Op.start outside hindrance).run t := by
  by_cases idle : t.phase = .idle
  · rcases hindrance with ⟨_ | text, _ | trouble⟩
    · simp only [run, List.replicate, List.foldl, step, start, idle, if_true]
      simp only [Op.run, Shell.start, idle, ne_eq, not_true, if_false]
      show _ = t.enter.launch.checkSticky.firstRead.settle outside
      generalize started : t.enter.launch.checkSticky.firstRead = u
      have same : ({ t.note .enteredRaw with phase := .raw } : Shell).launch.checkSticky.firstRead =
        u := started
      rw [same]
      cases cancelled : u.cancelled with
      | true => simp only [if_true]
      | false =>
        simp only [cancelled, Bool.false_eq_true, if_false]
        exact (Shell.settle_awaits (by rw [cancelled, Bool.and_false])).symm
    all_goals
      simp only [run, List.replicate, List.foldl, step, start, idle, if_true]
      simp only [Op.run, Shell.start, idle, ne_eq, not_true, if_false]
      rfl
  · rw [(Op.start_refused idle outside hindrance).2]
    simp only [run, List.replicate, List.foldl, step, start, idle, if_false]

theorem stop_alone (caller : Nat) (outside : Outside) (t : Shell) :
    (run [.stop caller outside, .stop caller outside] { shell := t }).shell =
      (t.stop outside).2 := by
  simp only [run, List.foldl_cons, List.foldl_nil, step, stop, Function.update_self]
  rfl

/-! ## How far the call of `start` is -/

/-- What the session's acts say of how far `start` has come. -/
def Placed : Starter → List LocalAct → Prop
  | .away, acts => .enteredRaw ∉ acts ∧ .watchedSize ∉ acts
  | .tested, acts => .enteredRaw ∉ acts ∧ .watchedSize ∉ acts
  | .entered, acts => .enteredRaw ∈ acts ∧ .watchedSize ∉ acts
  | .marked, acts => .enteredRaw ∈ acts ∧ .watchedSize ∉ acts
  | .waiting, acts => .enteredRaw ∈ acts ∧ .watchedSize ∈ acts
  | .leaving _, _ => True
  | .returned, _ => True

/-- A session that no call of `stop` has touched. -/
inductive Undisturbed : Starter → Shell → Prop
  | away {t : Shell} (h : Untouched t) : Undisturbed .away t
  | tested {t : Shell} (h : Untouched t) : Undisturbed .tested t
  | entered {t : Shell} (h : Untouched t) : Undisturbed .entered (t.note .enteredRaw)
  | marked {t : Shell} (h : Untouched t) : Undisturbed .marked t.enter
  | waiting {t : Shell} (h : Underway t) : Undisturbed .waiting t
  | leaving {t : Shell} {trouble : Option Trouble} (unread : t.reading = false)
      (untyped : t.typing = false) : Undisturbed (.leaving trouble) t

/-- Nothing was cleaned up yet. -/
structure Pending (c : Calls) : Prop where
  placed : Placed c.starter c.shell.journal
  uncleaned : c.shell.cleaned = false
  tidy : c.shell.transport.Tidy
  going : c.starter ≠ .returned
  idle : c.starter = .away → c.shell.phase = .idle
  unclosed : c.shell.phase ≠ .closed
  raw : leavesRaw c.shell.journal = true ↔ .enteredRaw ∈ c.shell.journal
  watched : leavesWatched c.shell.journal = true ↔ .watchedSize ∈ c.shell.journal
  undisturbed : c.shell.cancelled = false → Undisturbed c.starter c.shell
  awaits : c.starter = .waiting ∨ c.starter = .leaving none → c.shell.waiting = true
  ended : c.starter = .leaving none → c.shell.cancelled = true

/-- The cleanup came when `start` had come to a place, with what closing the transport came to. -/
structure Cleaned (place : Starter) (result : Except Trouble Unit) (c : Calls) : Prop where
  placed : Placed c.starter c.shell.journal
  cleaned : c.shell.cleaned = true
  cancelled : c.shell.cancelled = true
  closed : c.shell.transport.closed = true
  done : result = .ok () → c.shell.transport.done = true
  behind : place.rank ≤ c.starter.rank
  refused : result = .ok () → place = .away → c.starter = .away ∨ c.starter = .returned
  phase : c.shell.phase = .closed ↔ result = .ok () ∧
    ¬(c.starter ≠ .entered ∧ .enteredRaw ∈ c.shell.journal ∧
      (place = .tested ∨ place = .entered))
  raw : leavesRaw c.shell.journal = true ↔
    .enteredRaw ∈ c.shell.journal ∧ (result = .ok () → place = .tested)
  watched : leavesWatched c.shell.journal = true ↔
    .watchedSize ∈ c.shell.journal ∧
      (result = .ok () → place = .tested ∨ place = .entered ∨ place = .marked)

section
variable {t : Shell} {c : Calls} {place : Starter} {result : Except Trouble Unit}
  {outside : Outside} {moves : List Move} {m : Moment} {e : Shell.Event}

/-- Loops that do not run do nothing. -/
theorem react_unrun (unread : t.reading = false) (untyped : t.typing = false) (m : Moment)
    (stops : e ≠ .stop) (interrupts : e ≠ .interrupt) : t.react m e = t := by
  cases e with
  | stop => exact absurd rfl stops
  | interrupt => exact absurd rfl interrupts
  | resize => rfl
  | _ =>
    simp only [Shell.react, Shell.readTurn, Shell.readFailed, Shell.keyTurn, Shell.keyFailed,
      unread, untyped, Bool.false_and, Bool.false_eq_true, if_false]

/-- What goes on in a session that leaves its terminal and its connection alone. -/
structure Within (t u : Shell) : Prop where
  journal : u.journal = t.journal
  transport : u.transport = t.transport
  cleaned : u.cleaned = t.cleaned
  waiting : u.waiting = t.waiting
  phase : u.phase = .closed ↔ t.phase = .closed
  cancelled : t.cancelled = true → u.cancelled = true

theorem Within.trans {u v : Shell} (first : Within t u) (second : Within u v) : Within t v where
  journal := second.journal.trans first.journal
  transport := second.transport.trans first.transport
  cleaned := second.cleaned.trans first.cleaned
  waiting := second.waiting.trans first.waiting
  phase := second.phase.trans first.phase
  cancelled := second.cancelled ∘ first.cancelled

theorem within_finish (t : Shell) : Within t t.finish where
  journal := rfl
  transport := rfl
  cleaned := rfl
  waiting := rfl
  phase := by
    simp only [Shell.finish]
    split <;> simp_all
  cancelled _ := rfl

theorem within_fail (t : Shell) (failure : Failure) : Within t (t.fail failure) := by
  have finish := within_finish { t with failure := t.failure <|> some failure }
  exact ⟨finish.journal, finish.transport, finish.cleaned, finish.waiting, finish.phase,
    finish.cancelled⟩

theorem within_loops (t : Shell) (reading typing : Bool) : Within t { t with reading, typing } :=
  ⟨rfl, rfl, rfl, rfl, .rfl, id⟩

/-- The first acts of the threads that `start` begins. -/
theorem within_begun (t : Shell) : Within t t.checkSticky.firstRead := by
  have checked : Within t t.checkSticky := by
    unfold Shell.checkSticky
    split
    · exact within_fail t _
    · exact within_loops t t.reading true
  unfold Shell.firstRead
  split
  · exact checked
  · have unread := checked.trans (within_loops t.checkSticky false t.checkSticky.typing)
    unfold Shell.failUnlessOver
    split
    · exact unread
    · exact unread.trans (within_fail _ _)

/-! ## Before the cleanup -/

theorem Pending.ofUnderway (waits : c.starter = .waiting) (h : Underway c.shell) : Pending c := by
  obtain ⟨raw, watched⟩ := h.has.leaves
  obtain ⟨shown, acts, -⟩ := id h.has
  have entered : .enteredRaw ∈ c.shell.journal := by simp [acts]
  have sized : .watchedSize ∈ c.shell.journal := by simp [acts]
  refine ⟨?_, h.uncleaned, h.tidy, ?_, ?_, ?_, by simp [raw, entered], by simp [watched, sized],
    fun _ => ?_, fun _ => h.waiting, ?_⟩
  · rw [waits]
    exact ⟨entered, sized⟩
  · simp [waits]
  · simp [waits]
  · rw [h.phase]
    split <;> decide
  · rw [waits]
    exact .waiting h
  · simp [waits]

/-- The loops run while `start` waits, and at no other time. -/
theorem Undisturbed.react {s : Starter} (h : Undisturbed s t)
    (quiet : (Op.event m e).Quiet t) (stops : e ≠ .stop) (interrupts : e ≠ .interrupt) :
    t.react m e = t ∨ s = .waiting ∧ Underway (t.react m e) := by
  cases h with
  | away h | tested h => exact .inl (react_unrun h.unread h.untyped m stops interrupts)
  | @entered t h => exact .inl (react_unrun (t := t.note _) h.unread h.untyped m stops interrupts)
  | @marked t h => exact .inl (react_unrun (t := t.enter) h.unread h.untyped m stops interrupts)
  | waiting h => exact .inr ⟨rfl, h.react quiet stops interrupts⟩
  | leaving unread untyped => exact .inl (react_unrun unread untyped m stops interrupts)

theorem Pending.turn (h : Pending c) (m : Moment) (e : Shell.Event)
    (quiet : e ≠ .stop → e ≠ .interrupt → (Op.event m e).Quiet c.shell) : Pending (c.turn m e) := by
  unfold Calls.turn
  split
  · exact h
  rename_i loops
  obtain ⟨stops, interrupts⟩ := not_or.1 loops
  have rests (same : c.shell.react m e = c.shell) :
      Pending { c with shell := c.shell.react m e } := by
    rw [same]
    exact h
  cases cancelled : c.shell.cancelled with
  | true => exact rests (Shell.react_cancelled cancelled m stops interrupts)
  | false =>
    obtain same | ⟨waits, underway⟩ :=
      (h.undisturbed cancelled).react (quiet stops interrupts) stops interrupts
    · exact rests same
    · exact .ofUnderway waits underway

theorem Pending.finish (h : Pending c) : Pending { c with shell := c.shell.finish } where
  placed := h.placed
  uncleaned := h.uncleaned
  tidy := h.tidy
  going := h.going
  idle away := by
    show (if c.shell.phase = .raw then .closing else c.shell.phase) = .idle
    rw [h.idle away]
    rfl
  unclosed := mt (within_finish c.shell).phase.1 h.unclosed
  raw := h.raw
  watched := h.watched
  undisturbed := nofun
  awaits := h.awaits
  ended _ := rfl

theorem Pending.withStoppers (h : Pending c) (stoppers : Nat → Stopper) :
    Pending { c with stoppers } :=
  ⟨h.placed, h.uncleaned, h.tidy, h.going, h.idle, h.unclosed, h.raw, h.watched, h.undisturbed,
    h.awaits, h.ended⟩

theorem Undisturbed.entered_eq (h : Undisturbed .entered t) :
    ∃ u, Untouched u ∧ t = u.note .enteredRaw := by
  cases h with
  | entered h => exact ⟨_, h, rfl⟩

theorem Undisturbed.marked_eq (h : Undisturbed .marked t) : ∃ u, Untouched u ∧ t = u.enter := by
  cases h with
  | marked h => exact ⟨_, h, rfl⟩

theorem Pending.between {starter : Starter} {stoppers : Nat → Stopper}
    (between : starter.isBetween = true) (placed : Placed starter t.journal)
    (uncleaned : t.cleaned = false) (tidy : t.transport.Tidy) (unclosed : t.phase ≠ .closed)
    (raw : leavesRaw t.journal = true ↔ .enteredRaw ∈ t.journal)
    (watched : leavesWatched t.journal = true ↔ .watchedSize ∈ t.journal)
    (undisturbed : t.cancelled = false → Undisturbed starter t) :
    Pending ⟨t, starter, stoppers⟩ where
  placed := placed
  uncleaned := uncleaned
  tidy := tidy
  going := by
    rintro rfl
    cases between
  idle := by
    rintro rfl
    cases between
  unclosed := unclosed
  raw := raw
  watched := watched
  undisturbed := undisturbed
  awaits := by rintro (rfl | rfl) <;> cases between
  ended := by
    rintro rfl
    cases between

/-- The steps of `start` up to its cleanup. -/
theorem Pending.start (h : Pending c) (outside : Outside) (hindrance : Hindrance)
    (stays : c.cleanup? (.start outside hindrance) = none) :
    Pending (c.start outside hindrance) := by
  obtain ⟨t, starter, stoppers⟩ := c
  cases starter with
  | away =>
    have idle : t.phase = .idle := h.idle rfl
    simp only [Calls.start, idle, if_true]
    refine .between rfl h.placed h.uncleaned h.tidy h.unclosed h.raw h.watched
      fun uncancelled => ?_
    cases h.undisturbed uncancelled with
    | away untouched => exact .tested untouched
  | tested =>
    obtain ⟨-, unwatched⟩ := h.placed
    rcases hindrance with ⟨_ | text, watch⟩
    · obtain ⟨raw, watched⟩ := leaves_entered t.journal
      show Pending ⟨t.note .enteredRaw, .entered, stoppers⟩
      refine .between rfl ⟨?_, ?_⟩ h.uncleaned h.tidy h.unclosed ?_ ?_ fun uncancelled => ?_
      · simp [Shell.note]
      · simpa [Shell.note] using unwatched
      · simp [Shell.note, raw]
      · simpa [Shell.note, watched] using h.watched
      · cases h.undisturbed uncancelled with
        | tested untouched => exact .entered untouched
    · refine .between rfl trivial h.uncleaned h.tidy h.unclosed h.raw h.watched
        fun uncancelled => ?_
      cases h.undisturbed uncancelled with
      | tested untouched => exact .leaving untouched.unread untouched.untyped
  | entered =>
    refine .between rfl h.placed h.uncleaned h.tidy (by simp) h.raw h.watched
      fun uncancelled => ?_
    obtain ⟨u, untouched, rfl⟩ := (h.undisturbed uncancelled).entered_eq
    exact .marked untouched
  | marked =>
    obtain ⟨entered, -⟩ := h.placed
    rcases hindrance with ⟨raw, _ | trouble⟩
    · have within := within_begun t.launch
      have journal : t.launch.checkSticky.firstRead.journal = t.journal ++ [.watchedSize] :=
        within.journal
      obtain ⟨raw, watched⟩ := leaves_sized t.journal
      show Pending ⟨t.launch.checkSticky.firstRead, .waiting, stoppers⟩
      refine ⟨⟨?_, ?_⟩, within.cleaned.trans h.uncleaned, ?_, by simp, by simp,
        mt within.phase.1 h.unclosed, ?_, ?_, fun uncancelled => ?_, fun _ => within.waiting,
        by simp⟩
      · simp [journal, entered]
      · simp [journal]
      · have same : t.launch.checkSticky.firstRead.transport = t.transport := within.transport
        show t.launch.checkSticky.firstRead.transport.Tidy
        rw [same]
        exact h.tidy
      · simpa [journal, raw] using h.raw
      · simp [journal, watched]
      · have before : t.cancelled = false :=
          Bool.eq_false_iff.2 fun cancelled =>
            Bool.false_ne_true (uncancelled.symm.trans (within.cancelled cancelled))
        obtain ⟨u, untouched, rfl⟩ := (h.undisturbed before).marked_eq
        exact .waiting untouched.begins
    · refine .between rfl trivial h.uncleaned h.tidy h.unclosed h.raw h.watched
        fun uncancelled => ?_
      obtain ⟨u, untouched, rfl⟩ := (h.undisturbed uncancelled).marked_eq
      exact .leaving untouched.unread untouched.untyped
  | waiting =>
    cases cancelled : t.cancelled with
    | false =>
      simp only [Calls.start, cancelled, Bool.false_eq_true, if_false]
      exact h
    | true =>
      simp only [Calls.start, cancelled, if_true]
      exact ⟨trivial, h.uncleaned, h.tidy, by simp, by simp, h.unclosed, h.raw, h.watched,
        fun uncancelled => absurd (cancelled.symm.trans uncancelled) (by simp),
        fun _ => h.awaits (.inl rfl), fun _ => cancelled⟩
  | leaving trouble => cases stays
  | returned => exact absurd rfl h.going

/-- What the first cleanup makes of it. -/
theorem Pending.cleanup (h : Pending c) (outside : Outside) :
    Cleaned c.starter (c.shell.transport.close outside).1
      { c with shell := (c.shell.cleanup outside).2 } := by
  have closed := close_closed outside c.shell.transport
  obtain ⟨t, starter, stoppers⟩ := c
  have behind : starter.rank ≤ starter.rank := Nat.le_refl _
  have away : starter = .away → starter = .away ∨ starter = .returned := .inl
  -- what `start` opens at a place, it has not opened before
  have unentered : starter = .tested → .enteredRaw ∉ t.journal := by
    rintro rfl
    exact h.placed.1
  have unwatched : starter = .tested ∨ starter = .entered ∨ starter = .marked →
      .watchedSize ∉ t.journal := by
    rintro (rfl | rfl | rfl) <;> exact h.placed.2
  cases ended : (t.transport.close outside).1 with
  | error trouble =>
    rw [Shell.cleanup_raises h.uncleaned ended]
    refine ⟨h.placed, rfl, rfl, closed, nofun, behind, nofun, ?_, ?_, ?_⟩
    · simpa using h.unclosed
    · simpa using h.raw
    · simpa using h.watched
  | ok =>
    rw [Shell.cleanup_closed h.uncleaned ended]
    obtain ⟨raw, watched⟩ := leaves_given t.journal
    refine ⟨?_, rfl, rfl, closed, fun _ => close_done h.tidy ended, behind, fun _ => away, ?_, ?_,
      ?_⟩
    · have placed := h.placed
      cases starter <;> simp_all [Placed]
    · simp only [true_and, true_iff]
      rintro ⟨further, entered, rfl | rfl⟩
      · exact unentered rfl (by simpa using entered)
      · exact further rfl
    · simpa [raw] using fun entered tested => unentered tested entered
    · simpa [watched] using fun sized places => unwatched places sized

/-! ## After the cleanup -/

/-- The call of `start` cleans up, and comes back. -/
theorem start_leaving {trouble : Option Trouble} (leaving : c.starter = .leaving trouble)
    (goes : trouble = none → (c.shell.waiting && c.shell.cancelled) = true ∨ c.shell.cleaned = true)
    (outside : Outside) (hindrance : Hindrance) : ∃ waiting outcome,
      c.start outside hindrance =
        { c with
          starter := .returned
          shell := { (c.shell.cleanup outside).2 with waiting, outcome } } := by
  obtain ⟨t, starter, stoppers⟩ := c
  obtain rfl : starter = .leaving trouble := leaving
  cases trouble with
  | some trouble =>
    obtain ⟨outcome, ran⟩ := Shell.abandon_frame t outside trouble
    exact ⟨false, outcome, by simp only [Calls.start, ran]⟩
  | none =>
    cases ended : t.waiting && t.cancelled with
    | true =>
      obtain ⟨outcome, ran⟩ := Shell.settle_over ended outside
      exact ⟨false, outcome, by simp only [Calls.start, ran]⟩
    | false =>
      have cleaned : t.cleaned = true := (goes rfl).resolve_left (by simp [ended])
      refine ⟨t.waiting, t.outcome, ?_⟩
      simp only [Calls.start, Shell.settle_awaits ended, Shell.cleanup_again cleaned]

/-- What the call comes to makes no difference to the terminal. -/
theorem Cleaned.comesBack (h : Cleaned place result c) {trouble : Option Trouble}
    (leaving : c.starter = .leaving trouble) (waiting : Bool)
    (outcome : Option (Except Trouble Unit)) :
    Cleaned place result
      { c with starter := .returned, shell := { c.shell with waiting, outcome } } := by
  obtain ⟨t, starter, stoppers⟩ := c
  obtain rfl : starter = .leaving trouble := leaving
  exact ⟨trivial, h.cleaned, h.cancelled, h.closed, h.done, Nat.le_succ_of_le h.behind,
    fun _ _ => .inr rfl, by simpa using h.phase, h.raw, h.watched⟩

theorem Cleaned.withStoppers (h : Cleaned place result c) (stoppers : Nat → Stopper) :
    Cleaned place result { c with stoppers } :=
  ⟨h.placed, h.cleaned, h.cancelled, h.closed, h.done, h.behind, h.refused, h.phase, h.raw,
    h.watched⟩

theorem Cleaned.finish (h : Cleaned place result c) :
    Cleaned place result { c with shell := c.shell.finish } :=
  ⟨h.placed, h.cleaned, rfl, h.closed, h.done, h.behind, h.refused,
    (within_finish c.shell).phase.trans h.phase, h.raw, h.watched⟩

/-- A session that was cleaned up to its end is not started any more, but goes on starting. -/
theorem Cleaned.begun (h : Cleaned place result c) (ok : result = .ok ()) (away : c.starter ≠ .away)
    (returned : c.starter ≠ .returned) : place ≠ .away :=
  fun same => (h.refused ok same).elim away returned

/-- What stops the call of `start` behind the cleanup makes no difference to the terminal either. -/
theorem Cleaned.leaves (h : Cleaned place result c) (away : c.starter ≠ .away)
    (entered : c.starter ≠ .entered) (returned : c.starter ≠ .returned) (trouble : Option Trouble) :
    Cleaned place result { c with starter := .leaving trouble } := by
  have before : c.starter.rank ≤ 5 := by
    cases starter : c.starter <;> simp_all [Starter.rank]
  exact ⟨trivial, h.cleaned, h.cancelled, h.closed, h.done, Nat.le_trans h.behind before,
    fun ok same => absurd same (h.begun ok away returned), by simpa [entered] using h.phase, h.raw,
    h.watched⟩

/-- What `start` does once it is too late. -/
theorem Cleaned.start (h : Cleaned place result c) (outside : Outside) (hindrance : Hindrance) :
    Cleaned place result (c.start outside hindrance) := by
  obtain ⟨t, starter, stoppers⟩ := c
  have refused (away : starter ≠ .away) (returned : starter ≠ .returned) {P : Prop}
      (ok : result = .ok ()) (same : place = .away) : P :=
    absurd same (h.begun ok away returned)
  have behind : place.rank ≤ starter.rank := h.behind
  cases starter with
  | away =>
    obtain ⟨unentered, -⟩ := id h.placed
    have phase : t.phase = .closed ↔ result = .ok () := by simpa [unentered] using h.phase
    by_cases idle : t.phase = .idle
    · have failed : result ≠ .ok () := by
        rw [← phase.ne, idle]
        decide
      simp only [Calls.start, idle, if_true]
      exact ⟨h.placed, h.cleaned, h.cancelled, h.closed, h.done, Nat.le_succ_of_le behind,
        fun ok => absurd ok failed, by simpa using h.phase, h.raw, h.watched⟩
    · simp only [Calls.start, idle, if_false]
      exact ⟨trivial, h.cleaned, h.cancelled, h.closed, h.done, Nat.le_trans behind (Nat.zero_le _),
        fun _ _ => .inr rfl, by simpa using h.phase, h.raw, h.watched⟩
  | tested =>
    obtain ⟨unentered, unwatched⟩ := id h.placed
    have begun := fun ok => h.begun ok (by simp) (by simp)
    rcases hindrance with ⟨_ | text, watch⟩
    · have here : result = .ok () → place = .tested := by
        intro ok
        obtain rfl | rfl | rfl :=
          Starter.eq_of_rank (begun ok) (Nat.le_trans behind (by decide))
        · rfl
        all_goals exact absurd behind (by decide)
      obtain ⟨raw, watched⟩ := leaves_entered t.journal
      show Cleaned place result ⟨t.note .enteredRaw, .entered, stoppers⟩
      refine ⟨⟨by simp [Shell.note], by simpa [Shell.note] using unwatched⟩, h.cleaned, h.cancelled,
        h.closed, h.done, Nat.le_succ_of_le behind, refused (by simp) (by simp), ?_, ?_, ?_⟩
      · show t.phase = .closed ↔ _
        simpa [unentered] using h.phase
      · simpa [Shell.note, raw] using here
      · simpa [Shell.note, watched] using h.watched
    · exact h.leaves (by simp) (by simp) (by simp) _
  | entered =>
    obtain ⟨entered, -⟩ := id h.placed
    have here : result = .ok () → place = .tested ∨ place = .entered := by
      intro ok
      obtain rfl | rfl | rfl :=
        Starter.eq_of_rank (h.begun ok (by simp) (by simp)) (Nat.le_trans behind (by decide))
      · exact .inl rfl
      · exact .inr rfl
      · exact absurd behind (by decide)
    refine ⟨h.placed, h.cleaned, h.cancelled, h.closed, h.done, Nat.le_succ_of_le behind,
      refused (by simp) (by simp), ?_, h.raw, h.watched⟩
    simpa [Calls.start, or_iff_not_imp_left] using
      fun ok => ⟨entered, or_iff_not_imp_left.1 (here ok)⟩
  | marked =>
    have begun := fun ok => h.begun ok (by simp) (by simp)
    rcases hindrance with ⟨raw, _ | trouble⟩
    · have here (ok : result = .ok ()) : place = .tested ∨ place = .entered ∨ place = .marked :=
        Starter.eq_of_rank (begun ok) behind
      have within := within_begun t.launch
      have journal : t.launch.checkSticky.firstRead.journal = t.journal ++ [.watchedSize] :=
        within.journal
      have same : t.launch.checkSticky.firstRead.transport = t.transport := within.transport
      obtain ⟨raw, watched⟩ := leaves_sized t.journal
      show Cleaned place result ⟨t.launch.checkSticky.firstRead, .waiting, stoppers⟩
      refine ⟨⟨by simpa [journal] using h.placed.1, by simp [journal]⟩,
        within.cleaned.trans h.cleaned, within.cancelled h.cancelled, ?_, ?_,
        Nat.le_succ_of_le behind, refused (by simp) (by simp), ?_, ?_, ?_⟩
      · simpa [same] using h.closed
      · simpa [same] using h.done
      · have phase : t.launch.checkSticky.firstRead.phase = .closed ↔ t.phase = .closed :=
          within.phase
        rw [phase]
        simpa [journal] using h.phase
      · simpa [journal, raw] using h.raw
      · simpa [journal, watched] using here
    · exact h.leaves (by simp) (by simp) (by simp) _
  | waiting =>
    have cancelled : t.cancelled = true := h.cancelled
    simp only [Calls.start, cancelled, if_true]
    exact h.leaves (by simp) (by simp) (by simp) none
  | leaving trouble =>
    have cleaned : t.cleaned = true := h.cleaned
    obtain ⟨waiting, outcome, ran⟩ :=
      start_leaving (c := ⟨t, .leaving trouble, stoppers⟩) rfl (fun _ => .inr cleaned) outside
        hindrance
    rw [ran, Shell.cleanup_again cleaned]
    exact h.comesBack rfl waiting outcome
  | returned => exact h

theorem Cleaned.stop (h : Cleaned place result c) (caller : Nat) (outside : Outside) :
    Cleaned place result (c.stop caller outside) := by
  unfold Calls.stop
  split
  · exact h.finish.withStoppers _
  · rw [Shell.cleanup_again h.cleaned]
    exact h.withStoppers _
  · exact h

theorem Cleaned.turn (h : Cleaned place result c) (m : Moment) (e : Shell.Event) :
    Cleaned place result (c.turn m e) := by
  unfold Calls.turn
  split
  · exact h
  · rename_i loops
    obtain ⟨stops, interrupts⟩ := not_or.1 loops
    rw [Shell.react_cancelled h.cancelled m stops interrupts]
    exact h

theorem Cleaned.step (h : Cleaned place result c) (move : Move) :
    Cleaned place result (c.step move) := by
  cases move with
  | start outside hindrance => exact h.start outside hindrance
  | stop caller outside => exact h.stop caller outside
  | turn m e => exact h.turn m e

/-! ## Schedules -/

theorem Pending.stop (h : Pending c) {caller : Nat} (stays : c.stoppers caller ≠ .ended)
    (outside : Outside) : Pending (c.stop caller outside) := by
  unfold Calls.stop
  split
  · exact h.finish.withStoppers _
  · rename_i ended
    exact absurd ended stays
  · exact h

/-- A step that cleans nothing up leaves everything to be cleaned up. -/
theorem Pending.step {move : Move} (h : Pending c) (stays : c.cleanup? move = none)
    (quiet : ∀ m e, move = .turn m e → e ≠ .stop → e ≠ .interrupt →
      (Op.event m e).Quiet c.shell) : Pending (c.step move) := by
  cases move with
  | start outside hindrance => exact h.start outside hindrance stays
  | stop caller outside =>
    refine h.stop (fun ended => ?_) outside
    simp [cleanup?, ended] at stays
  | turn m e => exact h.turn m e (quiet m e rfl)

theorem Pending.step_cleans {move : Move} (h : Pending c)
    (cleans : c.cleanup? move = some outside) :
    Cleaned c.starter (c.shell.transport.close outside).1 (c.step move) := by
  have cleaned := h.cleanup outside
  cases move with
  | start outside' hindrance =>
    simp only [cleanup?] at cleans
    split at cleans
    · rename_i trouble leaving
      cases cleans
      obtain ⟨waiting, outcome, ran⟩ := start_leaving leaving (fun none => by
        subst none
        exact .inl (by rw [h.awaits (.inr leaving), h.ended leaving]; rfl)) outside hindrance
      rw [Calls.step, ran]
      exact cleaned.comesBack leaving waiting outcome
    · cases cleans
  | stop caller outside' =>
    simp only [cleanup?] at cleans
    split at cleans
    · rename_i ended
      cases cleans
      simp only [Calls.step, Calls.stop, ended]
      exact cleaned.withStoppers _
    · cases cleans
  | turn m e => cases cleans

theorem Cleaned.run (h : Cleaned place result c) (moves : List Move) :
    Cleaned place result (run moves c) := by
  induction moves generalizing c with
  | nil => exact h
  | cons move moves ih => exact ih (h.step move)

theorem Pending.run (h : Pending c) (quiet : Quiet moves c) :
    match firstCleanup? moves c with
    | none => Pending (run moves c)
    | some (place, result) => Cleaned place result (run moves c) := by
  induction moves generalizing c with
  | nil => exact h
  | cons move moves ih =>
    obtain ⟨first, others⟩ := quiet
    unfold firstCleanup?
    cases cleans : c.cleanup? move with
    | none => exact ih (h.step cleans first) others
    | some outside => exact (h.step_cleans cleans).run moves

end

/-- As long as no loop takes a turn, nothing is read. -/
theorem quiet_of_unturned {moves : List Move} (unturned : ∀ m e, .turn m e ∉ moves) {c : Calls} :
    Quiet moves c := by
  induction moves generalizing c with
  | nil => trivial
  | cons move moves ih =>
    refine ⟨fun m e same => ?_, ih fun m e member => unturned m e (List.mem_cons_of_mem _ member)⟩
    exact absurd (same ▸ List.mem_cons_self) (unturned m e)

theorem pending_initial {transport : Transport} (tidy : transport.Tidy) :
    Pending { shell := { transport } } where
  placed := ⟨nofun, nofun⟩
  uncleaned := rfl
  tidy := tidy
  going := nofun
  idle _ := rfl
  unclosed := nofun
  raw := by simp [leavesRaw]
  watched := by simp [leavesWatched]
  undisturbed _ := .away ⟨rfl, rfl, rfl, rfl, rfl, rfl, rfl, rfl, tidy⟩
  awaits := nofun
  ended := nofun

/-- **What a race leaves open.** Calls of `stop` may come at any point of the call of `start`. Once
that has come back, the transport was closed, and one cleanup was made. It gives back what was open
by then, and what `start` opens behind it is left open: raw mode, if the cleanup came between the
test of the state and raw mode; the state, which is no longer closed, if it came between the test
and the marking as raw; the handler, if it came between the test and the watching of the size. If
the transport's `close` raised, nothing is given back. -/
theorem start_stop_race {transport : Transport} (tidy : transport.Tidy) {moves : List Move}
    (quiet : Quiet moves { shell := { transport } })
    (returned : (run moves { shell := { transport } }).starter = .returned) :
    let t := (run moves { shell := { transport } }).shell
    ∃ place result, firstCleanup? moves { shell := { transport } } = some (place, result) ∧
      t.transport.closed = true ∧ (result = .ok () → t.transport.done = true) ∧
      (t.phase = .closed ↔ result = .ok () ∧
        ¬(.enteredRaw ∈ t.journal ∧ (place = .tested ∨ place = .entered))) ∧
      ∀ {μ : Type} (rawOf : μ → μ) (onMain : Bool) (d : Desk μ), d.Free →
        ((d.after rawOf onMain t.journal).raw.isActive = true ↔
          .enteredRaw ∈ t.journal ∧ (result = .ok () → place = .tested)) ∧
        (d.sizes.supported = true ∧ onMain = true →
          ((d.after rawOf onMain t.journal).sizes.installed = true ↔
            .watchedSize ∈ t.journal ∧
              (result = .ok () → place = .tested ∨ place = .entered ∨ place = .marked))) := by
  intro t
  have ran := (pending_initial tidy).run quiet
  cases first : firstCleanup? moves { shell := { transport } } with
  | none =>
    rw [first] at ran
    exact absurd returned ran.going
  | some cleanup =>
    obtain ⟨place, result⟩ := cleanup
    rw [first] at ran
    refine ⟨place, result, rfl, ran.closed, ran.done, ?_, fun rawOf onMain d free => ⟨?_, ?_⟩⟩
    · have phase := ran.phase
      rw [returned] at phase
      simpa using phase
    · rw [Desk.after_isActive free]
      exact ran.raw
    · intro able
      rw [Desk.after_installed free able]
      exact ran.watched

/-- A session that is stopped while it runs is given back whole. -/
theorem start_stop_race_late :
    let transport := (connect { now := 0 } none "ws://c/x" [] (.initial "m" "")).2
    let moves : List Move := List.replicate 4 (Move.start { now := 0 } {}) ++
      [.stop 0 { now := 1 }, .stop 0 { now := 1 }, .start { now := 2 } {}, .start { now := 2 } {}]
    let t := (run moves { shell := { transport } }).shell
    t.phase = .closed ∧ t.transport.done = true ∧
      ∀ {μ : Type} (rawOf : μ → μ) (onMain : Bool) (d : Desk μ), d.Free →
        (d.after rawOf onMain t.journal).raw.isActive = false := by
  intro transport moves
  have quiet : Quiet moves { shell := { transport } } := quiet_of_unturned fun m e turns => by
    simp [moves] at turns
  have first : firstCleanup? moves { shell := { transport } } = some (.waiting, .ok ()) := by
    decide +kernel
  obtain ⟨place, result, cleans, -, done, phase, desks⟩ :=
    @start_stop_race transport nofun moves quiet (by decide +kernel)
  rw [first] at cleans
  cases cleans
  dsimp only
  refine ⟨phase.2 ⟨rfl, by simp⟩, done rfl, fun rawOf onMain d free => ?_⟩
  have raw := (desks rawOf onMain d free).1
  simpa using raw

/-- A session that is stopped between the test of its state and raw mode: everybody is done, and the
terminal is left raw. -/
theorem stopped_while_starting :
    let transport := (connect { now := 0 } none "ws://c/x" [] (.initial "m" "")).2
    let moves : List Move := [.start { now := 0 } {}, .stop 0 { now := 1 }, .stop 0 { now := 1 }] ++
      List.replicate 5 (Move.start { now := 2 } {})
    let c := run moves { shell := { transport } }
    let d : Desk String := { mode := "cooked", sizes := { handler := .default } }
    let left := d.after (fun _ => "raw") true c.shell.journal
    c.starter = .returned ∧ c.stoppers 0 = .returned ∧
      left.mode = "raw" ∧ left.sizes.handler = .watcher ∧
      c.shell.phase = .raw ∧ c.shell.transport.done = true := by
  intro transport moves c d left
  decide +kernel

end Calls
end EdgeSession.Terminal
