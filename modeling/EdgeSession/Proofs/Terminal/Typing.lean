import EdgeSession.Proofs.Terminal.Keys

/-!
Chunks of keys that are handled one after the other, and the line that they leave.
-/
namespace EdgeSession.Terminal

namespace Line

theorem trackAll_append (l : Line) (front back : Bytes) :
    l.trackAll (front ++ back) = (l.trackAll front).trackAll back := List.foldl_append

/-- The cursor stands at the end of a line that has room. -/
structure Sound (l : Line) : Prop where
  cursor : l.cursor = l.typed.length
  bounded : l.typed.length ≤ lineLimit

theorem Sound.cleared : Sound .cleared := ⟨rfl, Nat.zero_le _⟩

theorem Sound.track {l : Line} (sound : l.Sound) (key : UInt8) : (l.track key).Sound := by
  obtain ⟨cursor, bounded⟩ := sound
  simp only [Line.track]
  split
  · exact ⟨cursor, bounded⟩
  split
  · exact ⟨cursor, bounded⟩
  split
  · exact ⟨rfl, Nat.zero_le _⟩
  split
  · refine ⟨rfl, ?_⟩
    simp only [erase, List.length_tail]
    omega
  split
  · rename_i room
    simp only [Bool.and_eq_true, decide_eq_true_eq] at room
    exact ⟨congrArg (· + 1) cursor, by simp only [List.length_cons]; omega⟩
  · exact ⟨cursor, bounded⟩

end Line

namespace Shell

/-- Chunks of keys, each handled when the one before it has been: the answers, and what is left of
the session. -/
def handleAll : List (Moment × Bytes) → Shell → List (Except KeyTrouble Bool) × Shell
  | [], t => ([], t)
  | (m, data) :: chunks, t =>
    let (answer, t) := t.handle m data
    let (answers, t) := handleAll chunks t
    (answer :: answers, t)

/-- The bytes of the chunks, in one piece. -/
def typed (chunks : List (Moment × Bytes)) : Bytes := chunks.flatMap Prod.snd

section
variable {t : Shell} {m : Moment} {data : Bytes} {chunks : List (Moment × Bytes)}

theorem handleAll_cons (m : Moment) (data : Bytes) (chunks : List (Moment × Bytes)) (t : Shell) :
    handleAll ((m, data) :: chunks) t =
      ((t.handle m data).1 :: (handleAll chunks (t.handle m data).2).1,
        (handleAll chunks (t.handle m data).2).2) := rfl

theorem handleAll_append (front back : List (Moment × Bytes)) (t : Shell) :
    handleAll (front ++ back) t =
      ((handleAll front t).1 ++ (handleAll back (handleAll front t).2).1,
        (handleAll back (handleAll front t).2).2) := by
  induction front generalizing t with
  | nil => rfl
  | cons chunk front ih =>
    obtain ⟨m, data⟩ := chunk
    rw [List.cons_append, handleAll_cons, handleAll_cons, ih]
    rfl

/-- The answer to a chunk is given by the session that the chunks before it have left. -/
theorem handleAll_answer (chunks : List (Moment × Bytes)) (t : Shell) (i : Nat) :
    (handleAll chunks t).1[i]? =
      chunks[i]?.map fun chunk => ((handleAll (chunks.take i) t).2.handle chunk.1 chunk.2).1 := by
  induction chunks generalizing t i with
  | nil => rfl
  | cons chunk chunks ih =>
    obtain ⟨m, data⟩ := chunk
    cases i with
    | zero => rfl
    | succ i => exact ih (t.handle m data).2 i

/-- Neither Ctrl+C nor Ctrl+D. -/
def IsPlain (key : UInt8) : Prop := key ≠ interruptKey ∧ key ≠ endKey

/-- Keys of which none is a command go to the remote side, and the line follows them. -/
theorem handle_plain (plain : ∀ key ∈ data, IsPlain key) (m : Moment) (t : Shell) :
    (t.handle m data).1 ≠ .ok true ∧ (t.handle m data).2.line = t.line.trackAll data := by
  cases data with
  | nil => exact ⟨by rintro ⟨⟩, rfl⟩
  | cons first rest =>
    obtain ⟨interrupts, ends⟩ := plain first List.mem_cons_self
    rw [handle_forwards ⟨first, rest, rfl, interrupts, fun same => absurd same ends⟩]
    constructor
    · simp only [forward]
      rcases t.transport.send m.outside (.ofKind .stdin (first :: rest) m.outside.now) with
        ⟨trouble | _, transport⟩ <;> rintro ⟨⟩
    · rw [forward_state]

theorem handleAll_plain (plain : ∀ key ∈ typed chunks, IsPlain key) (t : Shell) :
    (∀ answer ∈ (handleAll chunks t).1, answer ≠ .ok true) ∧
      (handleAll chunks t).2.line = t.line.trackAll (typed chunks) := by
  induction chunks generalizing t with
  | nil => exact ⟨nofun, rfl⟩
  | cons chunk chunks ih =>
    obtain ⟨m, data⟩ := chunk
    simp only [typed, List.flatMap_cons, List.forall_mem_append] at plain
    obtain ⟨stays, line⟩ := handle_plain plain.1 m t
    obtain ⟨others, lines⟩ := ih plain.2 (t.handle m data).2
    rw [handleAll_cons]
    refine ⟨List.forall_mem_cons.2 ⟨stays, others⟩, ?_⟩
    rw [lines, line, typed, typed, List.flatMap_cons, Line.trackAll_append]

end
end Shell
end EdgeSession.Terminal
