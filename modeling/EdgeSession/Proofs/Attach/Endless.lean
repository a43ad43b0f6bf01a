import EdgeSession.Proofs.Attach.Controllers
import EdgeSession.Proofs.LogTail.Turns
import EdgeSession.Proofs.Terminal.Keys

/-!
When a session that is played by a script has no end. The stream ends behind the last event, and the
call of `start` comes back by then, unless nobody reads any more: the connection could not be closed
behind what ended it.
-/
namespace EdgeSession

open Attach Transport

namespace Script

variable {σ μ ε : Type} {c : Machine σ μ ε} {step : Setting → Json → σ → σ}

/-- A step that an event of a script may be. No fault of the connection is played, nor an error of
the screen that is none of the system's. -/
structure Plays (c : Machine σ μ ε) (setting : Setting) (m : μ) (e : ε) : Prop where
  outside : c.outside m = setting.outside
  screen : ∀ text, c.screen m ≠ some (.foreign text)
  brought : c.brought e ≠ some none

/-- How a script drives a session: each event is a step of it, or nothing, and the end of the stream
is a step that brings just that. -/
structure Drives (c : Machine σ μ ε) (step : Setting → Json → σ → σ) : Prop where
  steps : ∀ setting event s, step setting event s = s ∨
    ∃ m e, Plays c setting m e ∧ step setting event s = c.step m e s
  ends : ∀ setting s, ∃ m e, Plays c setting m e ∧ c.brought e = some (some .ended) ∧
    step setting ending s = c.step m e s

section
variable {alive : σ → Prop} {returned : Except Trouble Unit → σ → Prop} {id : Json}
  {seen : Outside → Prop} {setting : Setting} {m : μ} {e : ε} {s : σ}

/-- A session that has ended, or is waited for and read, or that cannot be closed. -/
def Awaits (c : Machine σ μ ε) (alive : σ → Prop) (returned : Except Trouble Unit → σ → Prop)
    (id : Json) (seen : Outside → Prop) (s : σ) : Prop :=
  (∃ result, returned result s) ∨ alive s ∧ (c.reads s = true ∨ Stuck id seen)

theorem Plays.stuck (plays : Plays c setting m e) (meets : seen setting.outside)
    (bound : (c.transport s).Bound id) (loses : c.LosesAt m e s) : Stuck id seen := by
  obtain ⟨met, brought, loses⟩ := loses
  cases loses with
  | unread => exact absurd brought plays.brought
  | unshown _ _ fault => exact absurd fault (plays.screen _)
  | unclosed _ fault =>
    exact ⟨c.outside m, _, plays.outside ▸ meets, close_unclosed bound fault⟩

theorem Plays.awaits (plays : Plays c setting m e) (laws : c.Laws alive returned)
    (meets : seen setting.outside) (bound : (c.transport s).Bound id)
    (h : Awaits c alive returned id seen s) : Awaits c alive returned id seen (c.step m e s) := by
  obtain ⟨result, finished⟩ | ⟨waited, reads⟩ := h
  · exact .inl ⟨result, (laws.returned_step s m e result finished).1⟩
  · obtain finished | ⟨stays, same | ⟨-, loses⟩⟩ := laws.step_cases waited m e
    · exact .inl finished
    · exact .inr ⟨stays, reads.imp_left same.trans⟩
    · exact .inr ⟨stays, .inr (plays.stuck meets bound loses)⟩

/-- The end of the stream ends a session that is read, unless it cannot be closed. -/
theorem Plays.last (plays : Plays c setting m e) (laws : c.Laws alive returned)
    (meets : seen setting.outside) (bound : (c.transport s).Bound id)
    (ends : c.brought e = some (some .ended)) (h : Awaits c alive returned id seen s) :
    (∃ result, returned result (c.step m e s)) ∨ Stuck id seen := by
  obtain ⟨result, finished⟩ | ⟨waited, reads | stuck⟩ := h
  · exact .inl ⟨result, (laws.returned_step s m e result finished).1⟩
  · by_cases loses : c.LosesAt m e s
    · exact .inr (plays.stuck meets bound loses)
    · obtain ⟨_, brings⟩ | ⟨failure?, closes⟩ := brings_or_closes (c.transport s) .ended
      · cases brings
      · exact .inl ⟨_, (laws.stops s m e failure? _ waited reads ⟨_, ends, .closes closes⟩ loses).1⟩
  · exact .inr stuck

/-- **A session that is played to the end of its stream comes to its end**, unless it cannot be
closed. -/
theorem deliver_comesBack {isOver : σ → Bool}
    (isOver_eq : ∀ s, isOver s = (c.standing s).outcome.isSome) (laws : c.Laws alive returned)
    (drives : Drives c step)
    (keeps : ∀ setting event s, (c.transport s).Bound id →
      (c.transport (step setting event s)).Bound id)
    (events : List Json) (setting : Setting) (s start : σ)
    (meets : ∀ outside, Stands setting (events ++ [ending]) outside → seen outside)
    (bound : (c.transport s).Bound id) (awaits : Awaits c alive returned id seen s)
    (unfinished : (c.standing ((deliver isOver step setting s
      (events ++ [ending])).final start)).outcome = none) : Stuck id seen := by
  have waits {s : σ} (result : Except Trouble Unit) (pending : (c.standing s).outcome = none) :
      ¬returned result s := fun finished => by
    obtain ⟨-, -, outcome⟩ := laws.returned_standing s result finished
    cases pending.symm.trans outcome
  induction events generalizing setting s start with
  | nil =>
    rw [List.nil_append] at meets unfinished
    by_cases finished : isOver s = true
    · rw [deliver_over finished] at unfinished
      simp [isOver_eq, unfinished] at finished
    · obtain ⟨m, e, plays, ends, same⟩ := drives.ends (setting.after ending) s
      have now := meets _ (stands_later (stands_first (setting.after ending) []))
      rw [deliver_event finished, same] at unfinished
      obtain ⟨result, finished⟩ | stuck := plays.last laws now bound ends awaits
      · exact absurd finished (waits result unfinished)
      · exact stuck
  | cons event events ih =>
    rw [List.cons_append] at meets unfinished
    by_cases finished : isOver s = true
    · rw [deliver_over finished] at unfinished
      simp [isOver_eq, unfinished] at finished
    · have later := fun outside stands => meets outside (stands_later stands)
      have now := later _ (stands_first (setting.after event) (events ++ [ending]))
      rw [deliver_event finished] at unfinished
      refine ih (setting.after event) _ s later (keeps _ event s bound) ?_ unfinished
      obtain same | ⟨m, e, plays, same⟩ := drives.steps (setting.after event) event s
      · rwa [same]
      · rw [same]
        exact plays.awaits laws now bound awaits

end

/-! ## The two controllers -/

theorem screen_system (setting : Setting) (writes : Nat) (text : String) :
    setting.screen writes ≠ some (.foreign text) := by
  unfold Setting.screen
  split
  · split <;> nofun
  · nofun

theorem operatorEvent_unbrought {event : Json} {e : Terminal.Shell.Event}
    (h : operatorEvent? event = some e) : e.brought = none := by
  unfold operatorEvent? at h
  split at h
  any_goals
    cases h
    rfl
  split at h
  · cases h
    rfl
  · cases h

theorem terminal_plays {event : Json} {e : Terminal.Shell.Event}
    (h : terminalEvent? event = some e) (setting : Setting) (t : Terminal.Shell) :
    Plays Terminal.controller setting (terminalMoment setting t) e := by
  refine ⟨rfl, screen_system setting _, ?_⟩
  unfold terminalEvent? at h
  split at h
  · cases h
    nofun
  · rw [show Terminal.controller.brought e = none from operatorEvent_unbrought h]
    nofun

theorem terminal_drives : Drives Terminal.controller terminalStep where
  steps setting event t := by
    unfold terminalStep
    split
    · rename_i e found
      exact .inr ⟨_, e, terminal_plays found setting t, rfl⟩
    · exact .inl rfl
  ends setting t :=
    have found : terminalEvent? ending = some (.incoming .ended) := rfl
    ⟨_, _, terminal_plays found setting t, rfl, rfl⟩

theorem stream_plays {event : Json} {e : LogTail.Stream.Event} (h : streamEvent? event = some e)
    (setting : Setting) (s : LogTail.Stream) :
    Plays LogTail.controller setting (streamMoment setting s) e := by
  refine ⟨rfl, screen_system setting _, ?_⟩
  unfold streamEvent? at h
  split at h
  any_goals
    cases h
    nofun
  cases h

theorem stream_drives : Drives LogTail.controller streamStep where
  steps setting event s := by
    unfold streamStep
    split
    · rename_i e found
      exact .inr ⟨_, e, stream_plays found setting s, rfl⟩
    · exact .inl rfl
  ends setting s :=
    have found : streamEvent? ending = some (.incoming .ended) := rfl
    ⟨_, _, stream_plays found setting s, rfl, rfl⟩

variable {setting : Setting} {events : List Json} {transport : Transport} {id : Json}

theorem leadTerminal_endless (bound : transport.Bound id)
    (unfinished : (leadTerminal setting events transport).1 = none) :
    Stuck id (Stands setting (events ++ [ending])) := by
  obtain ⟨t, started, begins⟩ :=
    @Terminal.Shell.start_cases (fun _ => True) transport trivial setting.outside {}
  simp only [leadTerminal, playTerminal, started] at unfinished
  refine deliver_comesBack (fun _ => rfl) Terminal.laws terminal_drives
    (fun setting event t bound => ?_) events setting t _ (fun _ h => h)
    (Terminal.Shell.start_lasts (bound_lasting id) bound started) ?_
    unfinished
  · unfold terminalStep
    split
    · exact Terminal.Shell.step_lasts (bound_lasting id) bound _ _
    · exact bound
  · exact begins.symm.imp_right fun ⟨waits, reads⟩ => ⟨waits, .inl reads⟩

theorem leadLog_endless (bound : transport.Bound id)
    (unfinished : (leadLog setting events transport).1 = none) :
    Stuck id (Stands setting (events ++ [ending])) := by
  obtain ⟨s, started, begins⟩ := LogTail.Stream.start_cases transport setting.outside
  simp only [leadLog, playStream, started] at unfinished
  refine deliver_comesBack (fun _ => rfl) LogTail.laws stream_drives
    (fun setting event s bound => ?_) events setting s _ (fun _ h => h)
    (LogTail.Stream.start_lasts (bound_lasting id) bound started) ?_
    unfinished
  · unfold streamStep
    split
    · exact LogTail.Stream.step_lasts (bound_lasting id) bound _ _
    · exact bound
  · exact begins.symm.imp_right fun ⟨waits, reads⟩ => ⟨waits, .inl reads⟩

/-! What one who leads a session by a script comes out with, or why he does not. -/

theorem leadTerminal_leads (setting : Setting) (events : List Json) (id : Json) :
    Leads id (Stands setting (events ++ [ending])) (leadTerminal setting events) where
  bound _ bound := (leadTerminal_fares bound).1
  orderly _ trouble bound := (leadTerminal_fares bound).2 trouble
  endless _ bound := leadTerminal_endless bound

theorem leadLog_leads (setting : Setting) (events : List Json) (id : Json) :
    Leads id (Stands setting (events ++ [ending])) (leadLog setting events) where
  bound _ bound := (leadLog_fares bound).1
  orderly _ trouble bound := (leadLog_fares bound).2 trouble
  endless _ bound := leadLog_endless bound

end Script
end EdgeSession
