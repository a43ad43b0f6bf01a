import EdgeSession.Proofs.Session.Closing
import EdgeSession.Proofs.Session.Identity

/-!
What becomes of the connections of a transport, over any calls in any order. A dial takes its time,
and the other calls may come while it is under way. A transport is closed once, and hangs up what it
holds then: not a connection that a later dial took the place of, and not one that comes when it is
closed already, however often it is closed again.
-/
namespace EdgeSession.Transport

/-! ## Dialling -/

/-- A dial sets out. -/
def startDial (url : String) (headers : List (String × String)) (t : Transport) : Transport :=
  t.note (.dial { url, headers, secure := isSecure url })

/-- A dial comes to its end, with a connection or a fault. -/
def endDial (outside : Outside) (fault : Option NetworkFault) (t : Transport) :
    Except Trouble Unit × Transport :=
  match fault with
  | none => (.ok (), { t with link := some t.opened, opened := t.opened + 1 })
  | some fault =>
    match dialFailure? fault with
    | none => (.error (.network fault), t)
    | some failure => fail outside failure t

theorem connect_eq (outside : Outside) (fault : Option NetworkFault) (url : String)
    (headers : List (String × String)) (t : Transport) :
    connect outside fault url headers t = endDial outside fault (t.startDial url headers) := rfl

/-- What is done with a transport: one of the two halves of a dial, or any other call. -/
inductive Step
  | startDial (url : String) (headers : List (String × String))
  | endDial (outside : Outside) (fault : Option NetworkFault)
  | move (m : Move)

namespace Step

def run : Step → Transport → Transport
  | startDial url headers, t => t.startDial url headers
  | endDial outside fault, t => (t.endDial outside fault).2
  | move m, t => (m.run t).2

/-- What the outside world does in a step that may close the transport. -/
def outside? : Step → Option Outside
  | startDial _ _ => none
  | endDial outside _ => some outside
  | move (.send outside _) | move (.read outside _) | move (.readFault outside _)
  | move (.close outside) => some outside
  | move (.rename _) => none

end Step

/-- The transport after some steps. -/
def reach (steps : List Step) (t : Transport) : Transport :=
  steps.foldl (fun t step => step.run t) t

/-- Whether a connection was hung up. -/
def HungUp (connection : Nat) (t : Transport) : Prop := .hungUp connection ∈ t.journal

instance (connection : Nat) (t : Transport) : Decidable (t.HungUp connection) :=
  inferInstanceAs (Decidable (_ ∈ _))

/-- All connections that were made are hung up. -/
def AllHungUp (t : Transport) : Prop := ∀ connection < t.opened, t.HungUp connection

/-! ## One step -/

/-- A step that closes nothing. At most it brings a connection, which is then the live one. -/
structure Quiet (t u : Transport) : Prop where
  closed : u.closed = t.closed
  done : u.done = t.done
  raw : u.rawTarget = t.rawTarget
  hungUp : ∀ connection, u.HungUp connection ↔ t.HungUp connection
  held : u.link = t.link ∧ u.opened = t.opened ∨
    u.link = some t.opened ∧ u.opened = t.opened + 1

/-- A step that closes the transport. It comes to its end with the live connection hung up, or
breaks off and keeps it. -/
structure Shuts (t u : Transport) : Prop where
  first : t.closed = false
  closed : u.closed = true
  opened : u.opened = t.opened
  hungUp : ∀ connection, u.HungUp connection → t.HungUp connection ∨ t.link = some connection
  settles : u.done = true ∧ u.link = none ∧
      (∀ connection, t.link = some connection → u.HungUp connection) ∨
    u.done = t.done ∧ u.link = t.link

section
variable {outside : Outside} {s t u v : Transport}

theorem record_hungUp {acts : List Act} {k : Nat} :
    (t.record acts).HungUp k ↔ t.HungUp k ∨ .hungUp k ∈ acts := by
  simp [HungUp, record]

theorem Quiet.refl (t : Transport) : Quiet t t := ⟨rfl, rfl, rfl, fun _ => .rfl, .inl ⟨rfl, rfl⟩⟩

theorem Quiet.of_eq (same : u = t) : Quiet t u := same ▸ .refl t

theorem Quiet.record {acts : List Act} (silent : ∀ k, .hungUp k ∉ acts) :
    Quiet t (t.record acts) where
  closed := rfl
  done := rfl
  raw := rfl
  hungUp k := by simp [record_hungUp, silent]
  held := .inl ⟨rfl, rfl⟩

/-- Sending hangs nothing up. -/
theorem send_records (outside : Outside) (m : Message) (t : Transport) :
    ∃ acts, (∀ k, .hungUp k ∉ acts) ∧ (send outside m t).2 = t.record acts := by
  have nothing : t = t.record [] := by simp [record]
  cases link : t.link with
  | none => exact ⟨[], by simp, by rw [send_unlinked link]; exact nothing⟩
  | some connection =>
    obtain ⟨fault, -, hs⟩ | ⟨frame, -, ⟨-, hs⟩ | ⟨fault, -, hs⟩⟩ := send_cases link outside m <;>
      rw [hs]
    · exact ⟨[], by simp, nothing⟩
    · exact ⟨_, by simp, rfl⟩
    · exact ⟨_, by simp, rfl⟩

theorem hangUp_cases (outside : Outside) (connection : Nat) (t : Transport) :
    (hangUp outside connection t).2 =
        { t.record [.hungUp connection] with link := none, done := true } ∨
      (hangUp outside connection t).2 = t.record [.hungUp connection] := by
  simp only [hangUp]
  cases outside.close with
  | none => exact .inl rfl
  | some fault =>
    dsimp only
    split
    · exact .inl rfl
    · exact .inr rfl

theorem afterParting_cases (outside : Outside) (connection : Nat)
    (sent : Except Trouble Unit × Transport) :
    (afterParting outside connection sent).2 = sent.2 ∨
      (afterParting outside connection sent).2 = (hangUp outside connection sent.2).2 := by
  rcases sent with ⟨trouble | _, t⟩
  · simp only [afterParting]
    split
    · exact .inr rfl
    · exact .inl rfl
  · exact .inr rfl

theorem close_shuts (first : t.closed = false) (outside : Outside) :
    Shuts t (close outside t).2 := by
  cases link : t.link with
  | none =>
    rw [close_unlinked first link]
    exact ⟨first, rfl, rfl, fun _ h => .inl h,
      .inl ⟨rfl, link, fun k linked => absurd (link.symm.trans linked) nofun⟩⟩
  | some connection =>
    rw [close_linked first link]
    obtain ⟨acts, silent, sent⟩ :=
      send_records outside (.ofKind .close [] outside.now) { t with closed := true }
    have parted (k : Nat) : ({ t with closed := true }.record acts).HungUp k ↔ t.HungUp k := by
      simp [HungUp, record, silent]
    have hungUp (k : Nat) :
        (({ t with closed := true }.record acts).record [.hungUp connection]).HungUp k ↔
          t.HungUp k ∨ t.link = some k := by
      rw [record_hungUp, parted, link]
      simp [eq_comm]
    obtain stopped | parts := afterParting_cases outside connection
      (send outside (.ofKind .close [] outside.now) { t with closed := true })
    · rw [stopped, sent]
      exact ⟨first, rfl, rfl, fun k h => .inl ((parted k).1 h), .inr ⟨rfl, rfl⟩⟩
    · rw [parts, sent]
      obtain finished | broken :=
        hangUp_cases outside connection ({ t with closed := true }.record acts)
      · rw [finished]
        exact ⟨first, rfl, rfl, fun k => (hungUp k).1,
          .inl ⟨rfl, rfl, fun k linked => (hungUp k).2 (.inr linked)⟩⟩
      · rw [broken]
        exact ⟨first, rfl, rfl, fun k => (hungUp k).1, .inr ⟨rfl, rfl⟩⟩

theorem Shuts.keep (h : Shuts t u) (failure? : Option Failure) : Shuts t (u.keep failure?) := by
  cases failure? with
  | none => exact h
  | some failure => exact ⟨h.first, h.closed, h.opened, h.hungUp, h.settles⟩

/-- A step that closes the transport does it as `close` does. -/
structure Closing (step : Step) (t : Transport) : Prop where
  first : t.closed = false
  closes : ∃ outside failure?, step.outside? = some outside ∧
    step.run t = (close outside t).2.keep failure?

theorem quiet_or_closing {step : Step} (asked : step.outside? = some outside)
    (failure? : Option Failure) (run : step.run t = (close outside t).2.keep failure?) :
    Quiet t (step.run t) ∨ Closing step t := by
  cases closed : t.closed with
  | false => exact .inr ⟨closed, outside, failure?, asked, run⟩
  | true =>
    rw [run, close_again closed]
    cases failure? <;> exact .inl ⟨rfl, rfl, rfl, fun _ => .rfl, .inl ⟨rfl, rfl⟩⟩

theorem heard_quiet (m : Message) (t : Transport) : Quiet t (t.heard m) := by
  have silent : ∀ k, .hungUp k ∉ [Act.activity] := by simp
  simp only [heard, adopt]
  split
  · exact .record silent
  · exact ⟨rfl, rfl, rfl, (Quiet.record silent).hungUp, .inl ⟨rfl, rfl⟩⟩

theorem take_step {step : Step} {i : Incoming} (asked : step.outside? = some outside)
    (run : step.run t = (take outside i t).2) : Quiet t (step.run t) ∨ Closing step t := by
  obtain ⟨m, brings⟩ | ⟨failure?, closes⟩ := brings_or_closes t i
  · rw [run, take_brings brings]
    exact .inl (heard_quiet m t)
  · exact quiet_or_closing asked failure? (by rw [run, take_closes closes])

theorem move_step (m : Move) (t : Transport) :
    Quiet t ((Step.move m).run t) ∨ Closing (.move m) t := by
  cases m with
  | send outside message =>
    obtain ⟨acts, silent, sent⟩ := send_records outside message t
    have run : (Step.move (.send outside message)).run t = (send outside message t).2 := rfl
    rw [run, sent]
    exact .inl (.record silent)
  | read outside waiting =>
    cases link : t.link with
    | none => exact .inl (.of_eq (by simp only [Step.run, Move.run, read_unlinked link]))
    | some connection =>
      have run : (Step.move (.read outside waiting)).run t =
          (take outside (waiting.head?.getD .ended) t).2 := by
        simp only [Step.run, Move.run, read_linked link]
      exact take_step rfl run
  | readFault outside fault =>
    cases link : t.link with
    | none => exact .inl (.of_eq (by simp only [Step.run, Move.run, readFault, link]))
    | some connection =>
      cases fault with
      | closed received sent =>
        have run : (Step.move (.readFault outside (.closed received sent))).run t =
            (take outside (.closed received sent) t).2 := by
          simp only [Step.run, Move.run, readFault, link]
        exact take_step rfl run
      | _ => exact .inl (.of_eq (by simp only [Step.run, Move.run, readFault, link]))
  | close outside => exact quiet_or_closing rfl none rfl
  | rename session => exact .inl ⟨rfl, rfl, rfl, fun _ => .rfl, .inl ⟨rfl, rfl⟩⟩

/-- Every step closes nothing, or closes the transport. -/
theorem step_quiet (step : Step) (t : Transport) : Quiet t (step.run t) ∨ Closing step t := by
  cases step with
  | startDial url headers =>
    have silent : ∀ k, .hungUp k ∉ [Act.dial { url, headers, secure := isSecure url }] := by simp
    exact .inl (.record silent)
  | endDial outside fault =>
    cases fault with
    | none => exact .inl ⟨rfl, rfl, rfl, fun _ => .rfl, .inr ⟨rfl, rfl⟩⟩
    | some fault =>
      cases failed : dialFailure? fault with
      | none => exact .inl (.of_eq (by simp only [Step.run, endDial, failed]))
      | some failure =>
        refine quiet_or_closing rfl (some failure) ?_
        simp only [Step.run, endDial, failed, fail, close_stick]
        cases (close outside t).1 <;> rfl
  | move m => exact move_step m t

theorem Closing.shuts {step : Step} (h : Closing step t) : Shuts t (step.run t) := by
  obtain ⟨outside, failure?, -, run⟩ := h.closes
  rw [run]
  exact (close_shuts h.first outside).keep failure?

/-- A socket that answers as sockets do lets the transport come to its end. -/
theorem Closing.done {step : Step} (h : Closing step t)
    (calm : ∀ outside, step.outside? = some outside → Calm outside)
    (plain : t.rawTarget = none) (target : Frame.fits t.target = true)
    (session : Frame.fits t.session = true) :
    (step.run t).done = true ∧ ∀ k, t.link = some k → (step.run t).HungUp k := by
  obtain ⟨outside, failure?, asked, run⟩ := h.closes
  have finishes : (close outside t).2.done = true ∧
      ∀ k, t.link = some k → (close outside t).2.HungUp k := by
    cases link : t.link with
    | none =>
      rw [close_unlinked h.first link]
      exact ⟨rfl, nofun⟩
    | some connection =>
      obtain ⟨acts, parting, closed⟩ :=
        close_live ⟨link, h.first, plain, target, session⟩ (calm outside asked)
      rw [closed]
      refine ⟨rfl, fun k linked => record_hungUp.2 (.inr ?_)⟩
      cases linked
      cases parting <;> simp
  rw [run]
  cases failure? <;> exact finishes

/-! ## Any steps -/

/-- A transport of a target that is a text, which was not closed: it holds the connection that was
made last, and none is hung up. -/
structure NeverClosed (t : Transport) : Prop where
  closed : t.closed = false
  undone : t.done = false
  plain : t.rawTarget = none
  silent : ∀ k, ¬t.HungUp k
  latest : t.link = if t.opened = 0 then none else some (t.opened - 1)

/-- What a transport that `u` was closed as comes to: nothing more is hung up, and the connection
that is made last is the live one. -/
structure After (u t : Transport) : Prop where
  closed : t.closed = true
  done : t.done = u.done
  hungUp : ∀ k, t.HungUp k ↔ u.HungUp k
  grown : u.opened ≤ t.opened
  latest : t.link = if u.opened < t.opened then some (t.opened - 1) else u.link

theorem NeverClosed.quiet (h : NeverClosed t) (quiet : Quiet t u) : NeverClosed u where
  closed := quiet.closed.trans h.closed
  undone := quiet.done.trans h.undone
  plain := quiet.raw.trans h.plain
  silent k hung := h.silent k ((quiet.hungUp k).1 hung)
  latest := by
    obtain ⟨link, opened⟩ | ⟨link, opened⟩ := quiet.held
    · rw [link, opened, h.latest]
    · simp [link, opened]

theorem After.refl (closed : u.closed = true) : After u u :=
  ⟨closed, rfl, fun _ => .rfl, Nat.le_refl _, by simp⟩

theorem After.quiet (h : After u t) (quiet : Quiet t v) : After u v where
  closed := quiet.closed.trans h.closed
  done := quiet.done.trans h.done
  hungUp k := (quiet.hungUp k).trans (h.hungUp k)
  grown := by
    have := h.grown
    obtain ⟨-, opened⟩ | ⟨-, opened⟩ := quiet.held <;> omega
  latest := by
    have := h.grown
    obtain ⟨link, opened⟩ | ⟨link, opened⟩ := quiet.held
    · rw [link, opened, h.latest]
    · rw [link, opened, if_pos (by omega), Nat.add_sub_cancel]

theorem reach_after (h : After u t) (steps : List Step) : After u (reach steps t) :=
  List.foldlRecOn steps _ h fun v h step _ => by
    obtain quiet | closing := step_quiet step v
    · exact h.quiet quiet
    · exact absurd (closing.first.symm.trans h.closed) nofun

/-- Steps that close a transport split at the one that does. -/
theorem reach_splits (h : NeverClosed t) (steps : List Step) :
    NeverClosed (reach steps t) ∨ ∃ before step later, steps = before ++ step :: later ∧
      NeverClosed (reach before t) ∧ Closing step (reach before t) ∧
      After (step.run (reach before t)) (reach steps t) := by
  induction steps generalizing t with
  | nil => exact .inl h
  | cons step rest ih =>
    obtain quiet | closing := step_quiet step t
    · obtain fresh | ⟨before, closer, later, rfl, fresh, closing, after⟩ := ih (h.quiet quiet)
      · exact .inl fresh
      · exact .inr ⟨step :: before, closer, later, rfl, fresh, closing, after⟩
    · exact .inr ⟨[], step, rest, rfl, h, closing, reach_after (.refl closing.shuts.closed) rest⟩

/-- What becomes of the connections of a transport that `step` has closed as it stood at `s`, by
the time that it stands at `t`. -/
structure Parted (s : Transport) (step : Step) (t : Transport) : Prop where
  first : s.closed = false
  shut : (step.run s).closed = true
  closed : t.closed = true
  done : t.done = (step.run s).done
  /-- A transport that is done has a live connection just if one was made after it was closed. -/
  connected : t.done = true → (t.isConnected = true ↔ s.opened < t.opened)
  /-- Just the connection that was live can be hung up. -/
  hungUp : ∀ k, t.HungUp k → s.link = some k
  /-- All are hung up just if none was made after it was closed, nor more than one before, and that
  one was hung up as it was closed. -/
  all_hungUp : t.AllHungUp ↔ t.opened = s.opened ∧ s.opened ≤ 1 ∧
    ∀ k, s.link = some k → (step.run s).HungUp k
  /-- A socket that answers as sockets do lets the transport hang up what it holds, and be done. -/
  calm : (∀ outside, step.outside? = some outside → Calm outside) →
    Frame.fits s.target = true → Frame.fits s.session = true →
    t.done = true ∧ ∀ k, s.link = some k → t.HungUp k

theorem Parted.of_after {step : Step} (fresh : NeverClosed s) (closing : Closing step s)
    (after : After (step.run s) t) : Parted s step t := by
  have shuts := closing.shuts
  have opened := shuts.opened
  have hungUp (k : Nat) (h : t.HungUp k) : s.link = some k :=
    (shuts.hungUp k ((after.hungUp k).1 h)).resolve_left (fresh.silent k)
  refine ⟨fresh.closed, shuts.closed, after.closed, after.done, ?_, hungUp, ?_, ?_⟩
  · intro done
    have dropped : (step.run s).link = none := by
      obtain ⟨-, dropped, -⟩ | ⟨undone, -⟩ := shuts.settles
      · exact dropped
      · exact absurd (after.done.symm.trans done) (by rw [undone, fresh.undone]; decide)
    rw [isConnected, after.latest, dropped, opened]
    split <;> rename_i later <;> simp [later]
  · have latest := fresh.latest
    have grown := opened ▸ after.grown
    constructor
    · intro all
      have first (k : Nat) (made : k < t.opened) : s.link = some k := hungUp k (all k made)
      have few : t.opened ≤ 1 := by
        by_contra many
        have zero := first 0 (by omega)
        have one := first 1 (by omega)
        exact absurd (Option.some.inj (zero.symm.trans one)) (by decide)
      refine ⟨?_, by omega, fun k linked => ?_⟩
      · by_contra late
        have zero := first 0 (by omega)
        rw [latest, if_pos (by omega)] at zero
        cases zero
      · refine (after.hungUp k).1 (all k ?_)
        rw [latest] at linked
        split at linked
        · cases linked
        · cases linked
          omega
    · rintro ⟨same, few, held⟩ k made
      refine (after.hungUp k).2 (held k ?_)
      rw [latest, if_neg (by omega)]
      congr 1
      omega
  · intro calm target session
    obtain ⟨done, held⟩ := closing.done calm fresh.plain target session
    exact ⟨after.done.trans done, fun k linked => (after.hungUp k).2 (held k linked)⟩

/-- **The connections of a transport.** As long as it was not closed it is not done, and nothing is
hung up. Once it was, what becomes of its connections depends on when they were made. -/
theorem connections (target session : String) (steps : List Step) :
    let start := initial target session
    NeverClosed (reach steps start) ∨
      ∃ before step later, steps = before ++ step :: later ∧
        Parted (reach before start) step (reach steps start) := by
  have start : NeverClosed (initial target session) :=
    ⟨rfl, rfl, rfl, by simp [HungUp, initial], rfl⟩
  obtain fresh | ⟨before, step, later, split, fresh, closing, after⟩ :=
    reach_splits start steps
  · exact .inl fresh
  · exact .inr ⟨before, step, later, split, .of_after fresh closing after⟩

/-- A connection that is there only after the transport was closed stays, whether the dial sets out
later or was under way, and whatever closes the transport again. -/
theorem late_connection_kept :
    let close : Step := .move (.close { now := 0 })
    let dial : Step := .startDial "ws://c/x" []
    let opens : Step := .endDial { now := 0 } none
    ∀ steps ∈ [[close, dial, opens, close], [dial, close, opens, close]],
      let t := reach steps (initial "ms" "")
      t.done = true ∧ t.isConnected = true ∧ t.opened = 1 ∧ t.hangUps = 0 := by
  decide +kernel

/-- The first of two connections is never hung up. -/
example :
    let opens : List Step := [.startDial "ws://c/x" [], .endDial { now := 0 } none]
    let t := reach (opens ++ opens ++ [.move (.close { now := 0 })]) (initial "ms" "")
    t.done = true ∧ t.isConnected = false ∧ t.HungUp 1 ∧ ¬t.HungUp 0 := by
  decide +kernel

end
end EdgeSession.Transport
