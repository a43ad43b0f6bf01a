import EdgeSession.Proofs.Session.ReadingLoop

/-!
Transports that are done once they are closed. A call leaves them so, if no `close` on the way
raises.
-/
namespace EdgeSession.Transport

/-- A transport of which no `close` broke off half way. -/
def Tidy (t : Transport) : Prop := t.closed = true → t.done = true

section
variable {outside : Outside} {connection : Nat} {t : Transport}

theorem Tidy.send (h : t.Tidy) (outside : Outside) (message : Message) :
    (t.send outside message).2.Tidy := by
  cases link : t.link with
  | none => rwa [send_unlinked link]
  | some connection =>
    obtain ⟨fault, -, sent⟩ | ⟨frame, -, ⟨-, sent⟩ | ⟨fault, -, sent⟩⟩ :=
      send_cases link outside message <;> rw [sent] <;> exact h

theorem hangUp_done (ok : (t.hangUp outside connection).1 = .ok ()) :
    (t.hangUp outside connection).2.done = true := by
  simp only [hangUp] at ok ⊢
  cases answer : outside.close with
  | none => rfl
  | some fault =>
    rw [answer] at ok
    dsimp only at ok ⊢
    split at ok
    · rename_i harmless
      rw [if_pos harmless]
    · cases ok

theorem afterParting_done {sent : Except Trouble Unit × Transport}
    (ok : (afterParting outside connection sent).1 = .ok ()) :
    (afterParting outside connection sent).2.done = true := by
  rcases sent with ⟨trouble | _, t⟩
  · simp only [afterParting] at ok ⊢
    split at ok
    · rename_i passable
      rw [if_pos passable]
      exact hangUp_done ok
    · cases ok
  · exact hangUp_done ok

theorem close_done (h : t.Tidy) (ok : (t.close outside).1 = .ok ()) :
    (t.close outside).2.done = true := by
  cases closed : t.closed with
  | true =>
    rw [close_again closed]
    exact h closed
  | false =>
    cases link : t.link with
    | none => rw [close_unlinked closed link]
    | some connection =>
      rw [close_linked closed link] at ok ⊢
      exact afterParting_done ok

/-- A read leaves a tidy transport, unless the `close` that it calls raises. -/
theorem Tidy.take {i : Incoming} (h : t.Tidy)
    (quiet : ∀ failure?, Closes t i failure? → (t.close outside).1 = .ok ()) :
    (t.take outside i).2.Tidy := by
  obtain ⟨message, brings⟩ | ⟨failure?, closes⟩ := brings_or_closes t i
  · rw [take_brings brings]
    simp only [adopt, record]
    split <;> exact h
  · rw [take_closes closes]
    have done := close_done h (quiet failure? closes)
    cases failure? <;> exact fun _ => done

theorem Tidy.read {i : Incoming} (h : t.Tidy)
    (quiet : ∀ failure?, Closes t i failure? → (t.close outside).1 = .ok ()) :
    (t.read outside [i]).2.1.Tidy := by
  cases link : t.link with
  | none => rwa [read_unlinked link]
  | some connection =>
    rw [read_linked link]
    exact Tidy.take h quiet

theorem Tidy.readFault {fault : NetworkFault} (h : t.Tidy)
    (quiet : ∀ i, fault.incoming? = some i → ∀ failure?, Closes t i failure? →
      (t.close outside).1 = .ok ()) : (t.readFault outside fault).2.Tidy := by
  unfold Transport.readFault
  split
  · exact h
  · exact Tidy.take h (quiet _ rfl)
  · exact h

end
end EdgeSession.Transport
