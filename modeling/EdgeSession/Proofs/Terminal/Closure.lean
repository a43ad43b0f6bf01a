import EdgeSession.Proofs.Session.Lifecycle
import EdgeSession.Proofs.Terminal.Keys

/-!
A terminal session that the remote side closes. The reading loop meets the closure when it reads,
the typing loop when it forwards a key; only the first of them knows of closures in good order.
-/
namespace EdgeSession.Terminal

open Transport

/-- Nothing that comes in is longer than the connection takes. -/
def Fitting (steps : List (Moment × Shell.Event)) : Prop :=
  ∀ entry ∈ steps, ∀ i, entry.2.brought = some (some i) → Sized i

namespace Shell

section
variable {connection : Nat} {name : String} {t : Shell} {m : Moment} {e : Event}
variable {known : Transport → Prop}

theorem running_kept : Kept (Running connection name) := by
  intro outside message t running
  obtain ⟨fault, -, hs⟩ | ⟨frame, -, ⟨-, hs⟩ | ⟨fault, -, hs⟩⟩ :=
    send_cases running.link outside message <;> rw [hs]
  · exact running
  · exact running.record _
  · exact running.record _

/-- What is known of the connection stays so while the session is waited for and read. -/
theorem step_known (h : Open known t) (kept : Kept known) (m : Moment)
    (keeps : ∀ i message, e.brought = some (some i) → Brings i message →
      known t.transport → known (t.transport.heard message)) :
    Open known (t.step m e) ∨ ∃ result, Over result (t.step m e) := by
  cases brought : e.brought with
  | none => exact (step_other h kept brought m).imp_left And.left
  | some met =>
    have brought' : e.brought.isSome := by rw [brought]; rfl
    cases reading : t.reading with
    | false => exact .inl (by rwa [step_unreading h.toWaits reading brought'])
    | true =>
      by_cases loses : Loses reader m.outside m.screen t.transport met
      · exact .inl (step_loses h reading brought loses).1
      · by_cases stops : ∃ i failure? left, met = some i ∧
            Stops reader m.screen t.transport i failure? left
        · obtain ⟨i, failure?, left, rfl, stops⟩ := stops
          exact .inr ⟨_, (step_stops h reading brought stops loses).1⟩
        · refine .inl (step_reads h reading brought' (fun met' same => ?_)
            (fun i failure? left same at' => ?_) keeps).1
          · rwa [Option.some.inj (same.symm.trans brought)]
          · exact stops ⟨i, failure?, left, Option.some.inj (brought.symm.trans same), at'⟩

theorem play_running {steps : List (Moment × Event)} (fitting : Fitting steps)
    (h : Open (Running connection name) t) :
    Open (Running connection name) (controller.play steps t) ∨
      ∃ result, Over result (controller.play steps t) := by
  induction steps generalizing t with
  | nil => exact .inl h
  | cons entry rest ih =>
    have later : Fitting rest := fun entry member => fitting entry (List.mem_cons_of_mem _ member)
    obtain next | ⟨result, finished⟩ := step_known h running_kept entry.1
      fun i message brought brings running =>
        (running.adopt (brings.fits (fitting entry List.mem_cons_self i brought))).record _
    · exact ih later next
    · exact .inr ⟨result, (laws.play_returned finished rest).1⟩

/-- The closure is read: it ends the session, and counts as a failure unless it is graceful. -/
theorem step_closure_read (h : Open (Running connection name) t) (reading : t.reading = true)
    (calm : Calm m.outside) {received sent : Option CloseFrame}
    (brought : e.brought = some (some (.closed received sent))) :
    Over (if (closureOf received sent).isGraceful then .ok ()
      else .error (.session (closureOf received sent))) (t.step m e) := by
  have running := h.knows reading
  obtain ⟨acts, -, closed⟩ := close_live running.toLive calm
  have ok : (t.transport.close m.outside).1 = .ok () := by rw [closed]
  have kept : ¬Loses reader m.outside m.screen t.transport (some (.closed received sent)) := by
    rintro (_ | ⟨brings, -, -⟩ | ⟨-, fault⟩)
    · cases brings
    · exact absurd (ok.symm.trans fault) nofun
  cases graceful : (closureOf received sent).isGraceful with
  | true =>
    obtain ⟨finished, -⟩ := step_stops h reading brought (.closes (.left (.closed graceful))) kept
    rwa [leaving_of_ok ok] at finished
  | false =>
    obtain ⟨finished, -⟩ := step_stops h reading brought
      (.closes (.broken (.closed graceful) fun _ _ _ => running.unclosed)) kept
    rwa [leaving_of_ok ok] at finished

/-- A key meets the closure: it ends the session, and counts as a failure whatever its code. -/
theorem step_closure_key (h : Open (Running connection name) t) (reading : t.reading = true)
    (typing : t.typing = true) (calm : Calm m.outside) {received sent : Option CloseFrame}
    (closes : m.outside.send = some (.closed received sent)) {data : Bytes}
    (forwards : t.Forwards data) (small : data.length ≤ Frame.maxPayload) :
    Over (.error (.session (closureOf received sent))) (t.step m (.key data)) := by
  have running := h.knows reading
  obtain ⟨frame, encoded⟩ := encode_ofKind running.toLive .stdin data small calm.now
  have fails : t.transport.send m.outside (.ofKind .stdin data m.outside.now) =
      (.error (.session (closureOf received sent)),
        t.transport.record [.lost connection frame]) := by
    obtain ⟨fault, he, -⟩ | ⟨frame', he, ⟨ho, -⟩ | ⟨fault, ho, hs⟩⟩ :=
      send_cases running.link m.outside (.ofKind .stdin data m.outside.now)
    · exact absurd (encoded.symm.trans he) nofun
    · exact absurd (closes.symm.trans ho) nofun
    · obtain rfl := Option.some.inj (closes.symm.trans ho)
      obtain rfl := Except.ok.inj (encoded.symm.trans he)
      exact hs
  have handled : t.handle m data = (.error (.session (.session (closureOf received sent))),
      { t with
        line := t.line.trackAll data
        transport := t.transport.record [.lost connection frame] }) := by
    simp only [handle_forwards forwards, forward, fails]
  have nonempty : data.isEmpty = false := by
    obtain ⟨first, rest, rfl, -⟩ := forwards
    rfl
  -- the frame was lost, but the transport is as it was: it still has its parting frame to send
  have waits := (h.handle running_kept m data).1.toWaits
  simp only [step, keyTurn, typing, h.uncancelled, nonempty, Bool.not_false, Bool.and_self,
    if_true, Bool.false_eq_true, if_false]
  rw [handled] at waits ⊢
  rw [keyDone_failure waits]
  obtain ⟨finished, -⟩ := waits.untyped.settle_quit (some (closureOf received sent)) m.outside
  obtain ⟨acts, -, closed⟩ := close_live (running.toLive.record [.lost connection frame]) calm
  rwa [leaving_of_ok] at finished
  exact congrArg Prod.fst closed

end
end Shell

/-- **A closure of the remote side.** In every session that is under way, one that the reading loop
meets counts as a failure unless it is graceful. One that a key meets counts as a failure whatever
its code, so the two differ just on those that are graceful. -/
theorem closure_ends {connection : Nat} {name : String} {transport : Transport}
    (running : Running connection name transport) (outside : Outside)
    {steps : List (Moment × Shell.Event)} (fitting : Fitting steps) {m : Moment}
    (calm : Calm m.outside) (received sent : Option CloseFrame) :
    ∃ start, Shell.start outside {} { transport } = .ok start ∧
      let t := controller.play steps start
      let closure := closureOf received sent
      t.cancelled = false → t.reading = true →
        (∀ e : Shell.Event, e.brought = some (some (.closed received sent)) →
          ∀ later, (controller.play later (t.step m e)).outcome =
            some (if closure.isGraceful then .ok () else .error (.session closure))) ∧
        (t.typing = true → m.outside.send = some (.closed received sent) →
          ∀ data, t.Forwards data → data.length ≤ Frame.maxPayload →
          ∀ later, (controller.play later (t.step m (.key data))).outcome =
            some (.error (.session closure))) := by
  have connected : transport.isConnected = true := by rw [isConnected, running.link]; rfl
  refine ⟨_, Shell.start_begun connected running.clean outside, fun uncancelled reading => ?_⟩
  have waits : Shell.Open (Running connection name)
      (controller.play steps (Shell.begun transport)) := by
    obtain waits | ⟨result, finished⟩ :=
      Shell.play_running fitting (Shell.begun_open connected running)
    · exact waits
    · exact absurd (uncancelled.symm.trans finished.cancelled) Bool.false_ne_true
  exact ⟨fun e brought later => (laws.play_returned
      (Shell.step_closure_read waits reading calm brought) later).1.outcome,
    fun typing closes data forwards small later => (laws.play_returned
      (Shell.step_closure_key waits reading typing calm closes forwards small) later).1.outcome⟩

/-- A session that has forwarded a key and is then closed with the normal code, which the next key
may meet before the reading loop does. -/
theorem closure_ends_normal :
    let transport := (connect { now := 0 } none "ws://c/x" [] (.initial "m" "")).2
    let m : Moment := { outside := { now := 2, send := some (.closed (some ⟨1000, ""⟩) none) } }
    ∃ start, Shell.start { now := 0 } {} { transport } = .ok start ∧
      let t := start.step { outside := { now := 1 } } (.key [0x61])
      (t.step m (.incoming (.closed (some ⟨1000, ""⟩) none))).outcome = some (.ok ()) ∧
        (t.step m (.key [0x62])).outcome = some (.error (.session (.closure 1000 ""))) := by
  intro transport m
  have running : Running 0 "m" transport :=
    ⟨⟨rfl, rfl, rfl, by decide, by decide⟩, rfl, rfl, rfl⟩
  have fitting : Fitting [({ outside := { now := 1 } }, .key [0x61])] := by
    rintro entry member i brought
    obtain rfl := List.mem_singleton.1 member
    cases brought
  obtain ⟨start, started, ends⟩ := closure_ends running { now := 0 } fitting
    (m := m) ⟨(by decide : Pack.Encodable 2), .closed _ _, .fine⟩ (some ⟨1000, ""⟩) none
  obtain rfl : Shell.begun transport = start := Except.ok.inj started
  obtain ⟨read, typed⟩ := ends (by decide +kernel) (by decide +kernel)
  have closure : closureOf (some ⟨1000, ""⟩) none = .closure 1000 "" := rfl
  have graceful : (Failure.closure 1000 "").isGraceful = true := rfl
  have byReading := read (.incoming (.closed (some ⟨1000, ""⟩) none)) rfl []
  have byTyping := typed (by decide +kernel) rfl [0x62] ⟨0x62, [], rfl, by decide, nofun⟩
    (by decide) []
  simp only [closure, graceful, if_true, Machine.play, controller] at byReading byTyping
  exact ⟨_, started, byReading, byTyping⟩

/-- The same session raises a closure in good order when a key meets it. -/
theorem graceful_closure_raised :
    let transport := (connect { now := 0 } none "ws://c/x" [] (.initial "m" "")).2
    let closed : Moment :=
      { outside := { now := 2, send := some (.closed (some ⟨1000, ""⟩) none) } }
    (Failure.closure 1000 "").isGraceful = true ∧
      (Shell.start { now := 0 } {} { transport }).map (fun t =>
        ((t.step { outside := { now := 1 } } (.key [0x61])).step closed (.key [0x62])).outcome) =
        .ok (some (.error (.session (.closure 1000 "")))) := by
  decide +kernel

end EdgeSession.Terminal
