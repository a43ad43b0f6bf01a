import EdgeSession.Script.Scene

/-!
What the steps of a session leave alone, and what a whole play keeps: whatever each of its events
keeps.
-/
namespace EdgeSession

namespace Terminal.Shell

variable {m : Moment} {t u : Shell}

/-! ## The terminal -/

/-- What an event does before the waiting call goes on. -/
def turn (m : Moment) (e : Event) (t : Shell) : Shell :=
  match e with
  | .incoming i => t.readTurn m i
  | .readError fault => t.readFailed m fault
  | .key data => t.keyTurn m data
  | .keyError text => t.keyFailed text
  | .stop => (t.stop m.outside).2
  | .interrupt => t.interrupted m.outside
  | .resize _ _ => t

theorem step_eq (m : Moment) (e : Event) (t : Shell) :
    t.step m e = (t.turn m e).settle m.outside := rfl

/-- Neither the connection is touched nor what the waiting call came to. -/
structure Spares (t u : Shell) : Prop where
  transport : u.transport = t.transport
  outcome : u.outcome = t.outcome

theorem Spares.failUnlessOver (h : Spares t u) (failure : Failure) :
    Spares t (u.failUnlessOver failure) := by
  unfold Shell.failUnlessOver
  split <;> exact ⟨h.transport, h.outcome⟩

theorem put_spares (bytes : Bytes) : Spares t (t.put m bytes).2 := by
  unfold put
  split <;> exact ⟨rfl, rfl⟩

theorem present_spares (message : Message) : Spares t (t.present m message) := by
  have spares := put_spares (m := m) (t := t) message.data
  unfold present
  split
  · exact ⟨rfl, rfl⟩
  · split
    · split
      all_goals
        rename_i ran
        rw [ran] at spares
        exact ⟨spares.transport, spares.outcome⟩
    · exact ⟨rfl, rfl⟩

theorem readDone_spares (result : Except Trouble (Option Message)) :
    Spares t (t.readDone m result) := by
  unfold readDone
  split
  · exact present_spares _
  · exact ⟨rfl, rfl⟩
  · refine Spares.failUnlessOver ?_ _
    exact ⟨rfl, rfl⟩
  · exact ⟨rfl, rfl⟩

theorem echo_spares (bytes : Bytes) (ends : Bool) : Spares t (t.echo m bytes ends).2 := by
  have spares := put_spares (m := m) (t := t) bytes
  unfold echo
  split
  all_goals
    rename_i ran
    rw [ran] at spares
    exact spares

theorem keyDone_spares (result : Except KeyTrouble Bool) : Spares t (t.keyDone result) := by
  unfold keyDone
  split
  · exact ⟨rfl, rfl⟩
  · exact ⟨rfl, rfl⟩
  · refine Spares.failUnlessOver ?_ _
    exact ⟨rfl, rfl⟩
  all_goals exact ⟨rfl, rfl⟩

theorem checkSticky_spares (t : Shell) : Spares t t.checkSticky := by
  unfold checkSticky
  split <;> exact ⟨rfl, rfl⟩

theorem firstRead_spares (t : Shell) : Spares t t.firstRead := by
  unfold firstRead
  split
  · exact ⟨rfl, rfl⟩
  · refine Spares.failUnlessOver ?_ _
    exact ⟨rfl, rfl⟩

end Terminal.Shell

namespace LogTail.Stream

variable {m : Moment} {s u : Stream}

/-! ## The log -/

/-- What an event does before the waiting call goes on. -/
def turn (m : Moment) (e : Event) (s : Stream) : Stream :=
  match e with
  | .incoming i => s.readTurn m i
  | .readError fault => s.readFailed m fault
  | .stop => (s.stop m.outside).2
  | .interrupt => s.interrupted m.outside

theorem step_eq (m : Moment) (e : Event) (s : Stream) :
    s.step m e = (s.turn m e).settle m.outside := rfl

/-- Neither the connection is touched nor what the waiting call came to. -/
structure Spares (s u : Stream) : Prop where
  transport : u.transport = s.transport
  outcome : u.outcome = s.outcome

theorem Spares.fail (h : Spares s u) (failure : Failure) : Spares s (u.fail failure) := by
  unfold Stream.fail
  split <;> exact ⟨h.transport, h.outcome⟩

theorem Spares.failUnlessOver (h : Spares s u) (failure : Failure) :
    Spares s (u.failUnlessOver failure) := by
  unfold Stream.failUnlessOver
  split
  · exact h
  · exact h.fail failure

theorem put_spares (bytes : Bytes) : Spares s (s.put m bytes).2 := by
  unfold put
  split <;> exact ⟨rfl, rfl⟩

theorem present_spares (message : Message) : Spares s (s.present m message) := by
  have line := put_spares (m := m) (s := s) (renderLine message.data)
  have error := put_spares (m := m) (s := s) (renderError message.data)
  unfold present
  split
  · split
    all_goals
      rename_i ran
      rw [ran] at line
    · exact line
    · refine Spares.fail ?_ _
      exact ⟨line.transport, line.outcome⟩
    · exact ⟨line.transport, line.outcome⟩
  · split
    · exact ⟨rfl, rfl⟩
    · split
      · split
        all_goals
          rename_i ran
          rw [ran] at error
          exact ⟨error.transport, error.outcome⟩
      · exact ⟨rfl, rfl⟩

theorem readDone_spares (result : Except Trouble (Option Message)) :
    Spares s (s.readDone m result) := by
  unfold readDone
  split
  · exact present_spares _
  · exact ⟨rfl, rfl⟩
  · refine Spares.failUnlessOver ?_ _
    exact ⟨rfl, rfl⟩
  · exact ⟨rfl, rfl⟩

theorem checkSticky_spares (s : Stream) : Spares s s.checkSticky := by
  unfold checkSticky
  split
  · exact Spares.fail ⟨rfl, rfl⟩ _
  · exact ⟨rfl, rfl⟩

theorem firstRead_spares (s : Stream) : Spares s s.firstRead := by
  unfold firstRead
  split
  · exact ⟨rfl, rfl⟩
  · refine Spares.failUnlessOver ?_ _
    exact ⟨rfl, rfl⟩

end LogTail.Stream

/-! ## Whole plays -/

namespace Script

/-- The outsides that stand over the events of a play, from before the first to after the last. -/
def Stands (setting : Setting) (events : List Json) (outside : Outside) : Prop :=
  ∃ before, before <+: events ∧ outside = (before.foldl Setting.after setting).outside

theorem stands_first (setting : Setting) (events : List Json) :
    Stands setting events setting.outside :=
  ⟨[], List.nil_prefix, rfl⟩

theorem stands_later {setting : Setting} {event : Json} {events : List Json} {outside : Outside}
    (h : Stands (setting.after event) events outside) :
    Stands setting (event :: events) outside := by
  obtain ⟨before, early, same⟩ := h
  exact ⟨event :: before, List.cons_prefix_cons.mpr ⟨rfl, early⟩, same⟩

section
variable {σ : Type} {isOver : σ → Bool} {step : Setting → Json → σ → σ} {setting : Setting}

/-- Nothing is delivered to a session that is over. -/
theorem deliver_over {s : σ} (done : isOver s = true) (events : List Json) (start : σ) :
    (deliver isOver step setting s events).final start = s := by
  cases events with
  | nil => rfl
  | cons event events =>
    rw [deliver, if_pos done]
    rfl

theorem deliver_event {s : σ} (goes : ¬isOver s = true) (event : Json) (events : List Json)
    (start : σ) :
    (deliver isOver step setting s (event :: events)).final start =
      (deliver isOver step (setting.after event) (step (setting.after event) event s)
        events).final s := by
  rw [deliver, if_neg goes]
  exact List.getLastD_cons

/-- What each event keeps is kept by a whole play. -/
theorem deliver_keeps (kept : σ → Prop) (seen : Outside → Prop)
    (steps : ∀ setting event s, seen setting.outside → kept s → kept (step setting event s))
    (events : List Json) (setting : Setting) (s start : σ)
    (meets : ∀ outside, Stands setting events outside → seen outside) (h : kept s) :
    kept ((deliver isOver step setting s events).final start) := by
  induction events generalizing setting s start with
  | nil => exact h
  | cons event events ih =>
    by_cases done : isOver s = true
    · rwa [deliver_over done]
    · have later := fun outside stands => meets outside (stands_later stands)
      have now := later _ (stands_first (setting.after event) events)
      rw [deliver_event done]
      exact ih (setting.after event) _ s later (steps _ event s now h)

end

end Script
end EdgeSession
