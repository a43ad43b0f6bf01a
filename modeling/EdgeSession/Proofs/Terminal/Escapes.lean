import EdgeSession.Proofs.Terminal.Typing

/-!
Control sequences that a terminal sends for its special keys and reports. They leave the tracked
line as it is, but one whose final byte is also an introducer is not seen to end.
-/
namespace EdgeSession.Terminal

/-- A byte that introduces a sequence behind ESC: `[` for CSI, `O` for SS3. -/
def IsIntroducer (b : UInt8) : Prop := b = 0x5B ∨ b = 0x4F
  deriving Decidable

def IsFinal (b : UInt8) : Prop := 0x40 ≤ b ∧ b ≤ 0x7E
  deriving Decidable

/-- A complete control sequence, by its final byte. -/
inductive ControlSequence (final : UInt8) : Bytes → Prop
  | csi (parameters intermediates : Bytes)
      (parameter : ∀ b ∈ parameters, 0x30 ≤ b ∧ b ≤ 0x3F)
      (intermediate : ∀ b ∈ intermediates, 0x20 ≤ b ∧ b ≤ 0x2F)
      (last : IsFinal final) :
      ControlSequence final (escapeKey :: 0x5B :: (parameters ++ intermediates ++ [final]))
  | ss3 (last : IsFinal final) : ControlSequence final [escapeKey, 0x4F, final]

/-- What a sequence leaves of the line before it. -/
structure Passed (final : UInt8) (before after : Line) : Prop where
  bytes : after.bytes = before.bytes
  cursor : after.cursor = before.cursor
  ended_iff : after.inEscape = false ↔ ¬IsIntroducer final
  /-- Once it has ended, it is as if it had never been typed. -/
  gone : ¬IsIntroducer final → after = before
  /-- The next printable key is tracked only if it has ended. -/
  next_iff (key : UInt8) : 0x20 ≤ key → key ≠ 0x7F → before.cursor < lineLimit →
    ((after.track key).bytes = before.bytes ++ [key] ↔ ¬IsIntroducer final)

section
variable {l : Line} {b final key : UInt8} {s : Bytes}

/-! ## Bytes that keep a sequence open -/

theorem endsEscape_final (last : IsFinal final) :
    Line.endsEscape final = true ↔ ¬IsIntroducer final := by
  simp [Line.endsEscape, IsIntroducer, last.1, last.2]

theorem endsEscape_low (low : b < 0x40) : Line.endsEscape b = false := by
  have under : ¬0x40 ≤ b := UInt8.not_le.2 low
  simp [Line.endsEscape, under]

/-- A sequence is kept open up to its final byte. -/
theorem ControlSequence.split (sequence : ControlSequence final s) :
    IsFinal final ∧ ∃ inner, s = escapeKey :: (inner ++ [final]) ∧
      ∀ b ∈ inner, 0x20 ≤ b ∧ Line.endsEscape b = false := by
  cases sequence with
  | csi parameters intermediates parameter intermediate last =>
    refine ⟨last, _ :: _, rfl, List.forall_mem_cons.2 ⟨⟨by decide, rfl⟩, fun b mem => ?_⟩⟩
    obtain mem | mem := List.mem_append.1 mem
    · obtain ⟨lower, upper⟩ := parameter b mem
      exact ⟨UInt8.le_trans (by decide) lower,
        endsEscape_low (UInt8.lt_of_le_of_lt upper (by decide))⟩
    · obtain ⟨lower, upper⟩ := intermediate b mem
      exact ⟨lower, endsEscape_low (UInt8.lt_of_le_of_lt upper (by decide))⟩
  | ss3 last =>
    exact ⟨last, [0x4F], rfl, List.forall_mem_singleton.2 ⟨by decide, rfl⟩⟩

/-- No byte of a sequence is a command. -/
theorem ControlSequence.plain (sequence : ControlSequence final s) :
    ∀ b ∈ s, Shell.IsPlain b := by
  have above {b : UInt8} (lower : escapeKey ≤ b) : Shell.IsPlain b := by
    constructor <;> rintro rfl <;> exact absurd lower (by decide)
  obtain ⟨last, inner, rfl, opens⟩ := sequence.split
  simp only [List.forall_mem_cons, List.forall_mem_append]
  exact ⟨above (UInt8.le_refl _), fun b mem => above (UInt8.le_trans (by decide) (opens b mem).1),
    above (UInt8.le_trans (by decide) last.1), nofun⟩

/-! ## The line -/

namespace Line

theorem track_escape (outside : l.inEscape = false) :
    l.track escapeKey = { l with inEscape := true } := by
  rw [track, outside, if_neg Bool.false_ne_true, if_pos rfl]

theorem track_inside (inside : l.inEscape = true) (b : UInt8) :
    l.track b = { l with inEscape := !endsEscape b } := by
  rw [track, if_pos inside]

/-- Nothing changes while a sequence is kept open. -/
theorem trackAll_open (inside : l.inEscape = true) (opens : ∀ b ∈ s, endsEscape b = false) :
    l.trackAll s = l := by
  induction s with
  | nil => rfl
  | cons b s ih =>
    have same : l.track b = l := by
      rw [track_inside inside, opens b List.mem_cons_self, Bool.not_false, ← inside]
    have rest := ih fun c mem => opens c (List.mem_cons_of_mem b mem)
    rwa [trackAll, List.foldl_cons, same]

theorem trackAll_sequence (outside : l.inEscape = false) (sequence : ControlSequence final s) :
    l.trackAll s = { l with inEscape := !endsEscape final } := by
  obtain ⟨-, inner, rfl, opens⟩ := sequence.split
  have inside : ({ l with inEscape := true } : Line).inEscape = true := rfl
  calc l.trackAll (escapeKey :: (inner ++ [final]))
      = ({ l with inEscape := true } : Line).trackAll (inner ++ [final]) := by
        rw [trackAll, List.foldl_cons, track_escape outside, trackAll]
    _ = ({ l with inEscape := true } : Line).trackAll [final] := by
        rw [trackAll_append, trackAll_open inside fun b mem => (opens b mem).2]
    _ = { l with inEscape := !endsEscape final } := track_inside inside final

theorem track_printable (outside : l.inEscape = false) (printable : 0x20 ≤ key) (other : key ≠ 0x7F)
    (room : l.cursor < lineLimit) :
    l.track key = { l with typed := key :: l.typed, cursor := l.cursor + 1 } := by
  have apart {b : UInt8} (low : b < 0x20) : key ≠ b := by
    rintro rfl
    exact absurd printable (UInt8.not_le.2 low)
  simp [track, outside, other, printable, room, apart, escapeKey]

end Line

theorem passed (outside : l.inEscape = false) (sequence : ControlSequence final s) :
    Passed final l (l.trackAll s) := by
  have last := endsEscape_final sequence.split.1
  rw [Line.trackAll_sequence outside sequence]
  refine ⟨rfl, rfl, ?_, fun ended => ?_, fun key printable other room => ?_⟩
  · simpa using last
  · rw [last.2 ended, Bool.not_true, ← outside]
  · cases ends : Line.endsEscape final with
    | true =>
      have tracked := Line.track_printable (l := { l with inEscape := !true }) rfl printable other room
      rw [tracked]
      simpa [Line.bytes] using last.1 ends
    | false =>
      have lost : ({ l with inEscape := !false } : Line).track key =
        { l with inEscape := !Line.endsEscape key } := Line.track_inside rfl key
      have kept : IsIntroducer final := by
        by_contra ended
        exact Bool.false_ne_true (ends.symm.trans (last.2 ended))
      rw [lost]
      simpa [Line.bytes] using kept

end

/-! ## The session -/

/-- **Control sequences pass the tracked line by**, in whatever chunks they are typed: none of them
ends the session, or changes what is on the line. Every sequence is seen to end, and further keys
are tracked, unless its final byte is `[` or `O`. -/
theorem sequences_pass {t : Shell} (outside : t.line.inEscape = false) {final : UInt8}
    {chunks : List (Moment × Bytes)} (sequence : ControlSequence final (Shell.typed chunks)) :
    (∀ answer ∈ (Shell.handleAll chunks t).1, answer ≠ .ok true) ∧
      Passed final t.line (Shell.handleAll chunks t).2.line := by
  obtain ⟨stays, line⟩ := Shell.handleAll_plain sequence.plain t
  exact ⟨stays, line ▸ passed outside sequence⟩

/-- The report of a terminal's mode, which has parameters and an intermediate byte, with a letter
on the line. -/
theorem sequences_pass_mode_report :
    let t : Shell := { transport := .initial "m" "", line := { typed := [0x61], cursor := 1 } }
    let m : Moment := { outside := { now := 1 } }
    let chunks := [(m, [0x1B, 0x5B, 0x3F]), (m, [0x31, 0x3B]), (m, [0x32, 0x24, 0x79])]
    ControlSequence 0x79 (Shell.typed chunks) ∧ (Shell.handleAll chunks t).2.line = t.line := by
  intro t m chunks
  have sequence : ControlSequence 0x79 (Shell.typed chunks) :=
    .csi [0x3F, 0x31, 0x3B, 0x32] [0x24] (by simp) (by simp) (by decide)
  exact ⟨sequence, (sequences_pass rfl sequence).2.gone (by decide)⟩

/-- The report that the window is no longer in front, `ESC [ O`, swallows the next key: a letter is
sent but not tracked, and Ctrl+D ends the session on a line that is not empty. -/
theorem focus_report_unended :
    let t : Shell :=
      { transport := (Transport.connect { now := 0 } none "ws://c/x" [] (.initial "m" "")).2 }
    let m : Moment := { outside := { now := 1 } }
    let report := [(m, [0x1B]), (m, [0x5B]), (m, [0x4F])]
    ControlSequence 0x4F (Shell.typed report) ∧ t.line.inEscape = false ∧
      (Shell.handleAll report t).2.line.inEscape = true ∧
      (Shell.handleAll (report ++ [(m, [0x61])]) t).2.line.bytes = [] ∧
      (Shell.handleAll (report ++ [(m, [0x61]), (m, [endKey])]) t).1 =
        [.ok false, .ok false, .ok false, .ok false, .ok true] := by
  intro t m report
  have sequence : ControlSequence 0x4F (Shell.typed report) :=
    .csi [] [] nofun nofun (by decide)
  exact ⟨sequence, rfl, by decide +kernel, by decide +kernel, by decide +kernel⟩

end EdgeSession.Terminal
