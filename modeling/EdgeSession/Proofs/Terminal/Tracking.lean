import EdgeSession.Proofs.Terminal.Escapes

/-!
The tracked line over any chunks of keys. It is what the keys read since it was last cleared make of
it: within its limit, with nothing on it but what can be shown, and empty behind a line ending.
-/
namespace EdgeSession.Terminal

/-- A line as it is tracked: within its limit, the cursor at its end, no control byte on it. -/
structure Line.Tracked (l : Line) : Prop where
  bounded : l.bytes.length ≤ 1024
  cursor : l.cursor = l.bytes.length
  printable : ∀ b ∈ l.bytes, 0x20 ≤ b ∧ b ≠ 0x7F

/-- Keys behind which an escape sequence is open: no byte since some ESC has ended it. -/
def LeavesOpen (keys : Bytes) : Prop :=
  ∃ front back, keys = front ++ escapeKey :: back ∧ ∀ b ∈ back, Line.endsEscape b = false

/-- A byte that ends the line. -/
def IsLineEnding (b : UInt8) : Prop := b = 0x0A ∨ b = 0x0D

namespace Shell

/-- The keys read since the line was last cleared, after one more chunk. Ctrl+C clears the line,
unless it ends the session; of a chunk that ends the session nothing is read. -/
def readAfter (keys : Bytes) (m : Moment) (data : Bytes) (t : Shell) : Bytes :=
  match data with
  | [] => keys
  | first :: _ =>
    if first = interruptKey then if t.isSecondInterrupt m.clock then keys else []
    else if first = endKey && t.line.isEmpty then keys
    else keys ++ data

def readAll (keys : Bytes) : List (Moment × Bytes) → Shell → Bytes
  | [], _ => keys
  | (m, data) :: chunks, t => readAll (readAfter keys m data t) chunks (t.handle m data).2

end Shell

namespace Line

variable {l : Line} {key : UInt8} {keys : Bytes}

/-! ## Keys on a line -/

/-- What a key leaves on the line was there, or is the key itself, which can be shown. -/
theorem mem_track {b : UInt8} (mem : b ∈ (l.track key).typed) :
    b ∈ l.typed ∨ b = key ∧ 0x20 ≤ key ∧ key ≠ 0x7F := by
  simp only [track] at mem
  split at mem
  · exact .inl mem
  split at mem
  · exact .inl mem
  split at mem
  · cases mem
  split at mem
  · exact .inl (List.mem_of_mem_tail mem)
  split at mem
  · rename_i other printable
    simp only [Bool.or_eq_true, decide_eq_true_eq, not_or] at other
    simp only [Bool.and_eq_true, decide_eq_true_eq] at printable
    obtain rfl | old := List.mem_cons.1 mem
    · exact .inr ⟨rfl, printable.1, other.2⟩
    · exact .inl old
  · exact .inl mem

theorem tracked_trackAll (keys : Bytes) : (trackAll {} keys).Tracked := by
  have kept : (trackAll {} keys).Sound ∧ ∀ b ∈ (trackAll {} keys).typed, 0x20 ≤ b ∧ b ≠ 0x7F := by
    induction keys using List.reverseRecOn with
    | nil => exact ⟨.cleared, nofun⟩
    | append_singleton keys key ih =>
      obtain ⟨sound, printable⟩ := ih
      rw [trackAll_append]
      refine ⟨sound.track key, fun b mem => ?_⟩
      obtain old | ⟨rfl, new⟩ := mem_track mem
      · exact printable b old
      · exact new
  obtain ⟨⟨cursor, bounded⟩, printable⟩ := kept
  have length : (trackAll {} keys).bytes.length = (trackAll {} keys).typed.length :=
    List.length_reverse
  exact ⟨length ▸ bounded, cursor.trans length.symm,
    fun b mem => printable b (List.mem_reverse.1 mem)⟩

/-! ## Escape sequences -/

theorem track_inEscape (l : Line) (key : UInt8) :
    (l.track key).inEscape = true ↔
      key = escapeKey ∨ l.inEscape = true ∧ endsEscape key = false := by
  have stays : endsEscape escapeKey = false := rfl
  cases inside : l.inEscape with
  | true =>
    rw [track_inside inside]
    grind
  | false =>
    simp only [track, inside]
    grind [erase]

theorem leavesOpen_snoc :
    LeavesOpen (keys ++ [key]) ↔ key = escapeKey ∨ LeavesOpen keys ∧ endsEscape key = false := by
  constructor
  · rintro ⟨front, back, split, opens⟩
    induction back using List.reverseRecOn with
    | nil => exact .inl (by simpa using (List.append_inj' split rfl).2)
    | append_singleton back last =>
      rw [← List.cons_append, ← List.append_assoc] at split
      obtain ⟨same, lasts⟩ := List.append_inj' split rfl
      obtain rfl : key = last := by simpa using lasts
      simp only [List.forall_mem_append, List.forall_mem_singleton] at opens
      exact .inr ⟨⟨front, back, same, opens.1⟩, opens.2⟩
  · rintro (rfl | ⟨⟨front, back, rfl, opens⟩, stays⟩)
    · exact ⟨keys, [], rfl, nofun⟩
    · refine ⟨front, back ++ [key], by simp, ?_⟩
      simp only [List.forall_mem_append, List.forall_mem_singleton]
      exact ⟨opens, stays⟩

/-- Whether a sequence is under way can be told from the keys. -/
theorem inEscape_iff (keys : Bytes) : (trackAll {} keys).inEscape = true ↔ LeavesOpen keys := by
  induction keys using List.reverseRecOn with
  | nil =>
    refine ⟨nofun, ?_⟩
    rintro ⟨front, back, split, -⟩
    cases front <;> cases split
  | append_singleton keys key ih =>
    rw [trackAll_append, leavesOpen_snoc, ← ih]
    exact track_inEscape (trackAll {} keys) key

/-- A line ending outside a sequence clears the line. -/
theorem track_lineEnding (outside : l.inEscape = false) (ending : IsLineEnding key) :
    (l.track key).bytes = [] := by
  have other : key ≠ escapeKey := by rcases ending with rfl | rfl <;> decide
  have either : (key = 0x0A || key = 0x0D : Bool) = true := by
    rcases ending with rfl | rfl <;> rfl
  rw [track, if_neg (by simp [outside]), if_neg other, if_pos either]
  rfl

end Line

/-! ## Chunks of keys -/

namespace Shell

variable {t : Shell} {m : Moment} {data rest keys : Bytes}

theorem echo_line (m : Moment) (bytes : Bytes) (ends : Bool) (t : Shell) :
    (t.echo m bytes ends).2.line = t.line := by
  obtain ⟨journal, echoed⟩ := echo_frame m bytes ends t
  rw [echoed]

/-- A first Ctrl+C clears the line, whether or not the screen takes the echo. -/
theorem handle_interrupt (first : t.isSecondInterrupt m.clock = false) (rest : Bytes) :
    (t.handle m (interruptKey :: rest)).2.line = .cleared := by
  simp only [handle, if_true, interrupt, first, Bool.false_eq_true, if_false]
  exact echo_line m interruptText false _

/-- A second one leaves it alone and ends the session, or is raised by the screen. -/
theorem handle_secondInterrupt (second : t.isSecondInterrupt m.clock = true) (rest : Bytes) :
    (t.handle m (interruptKey :: rest)).1 ≠ .ok false ∧
      (t.handle m (interruptKey :: rest)).2.line = t.line := by
  simp only [handle, if_true, interrupt, second]
  refine ⟨?_, echo_line m exitingText true t⟩
  simp only [echo]
  split <;> rintro ⟨⟩

theorem handle_exit (empty : t.line.isEmpty = true) (m : Moment) (rest : Bytes) :
    (t.handle m (endKey :: rest)).2.line = t.line := by
  have other : endKey ≠ interruptKey := by decide
  simp only [handle, other, if_false, decide_true, empty, Bool.and_self, if_true]
  exact echo_line m exitText true t

/-- A chunk is a command, or goes to the remote side. -/
theorem chunk_cases (first : UInt8) (rest : Bytes) (t : Shell) :
    first = interruptKey ∨ (first = endKey ∧ t.line.isEmpty = true) ∨
      t.Forwards (first :: rest) := by
  by_cases interrupts : first = interruptKey
  · exact .inl interrupts
  · by_cases exits : first = endKey ∧ t.line.isEmpty = true
    · exact .inr (.inl exits)
    · exact .inr (.inr ⟨first, rest, rfl, interrupts, fun ends => by simpa [ends] using exits⟩)

theorem readAfter_forwards (forwards : t.Forwards data) (keys : Bytes) (m : Moment) :
    readAfter keys m data t = keys ++ data := by
  obtain ⟨first, rest, rfl, interrupts, ends⟩ := forwards
  simp only [readAfter, interrupts, if_false]
  exact if_neg (by simpa using ends)

/-- After a chunk the line is again what the keys read make of it. -/
theorem handle_line (h : t.line = Line.trackAll {} keys) (m : Moment) (data : Bytes) :
    (t.handle m data).2.line = Line.trackAll {} (readAfter keys m data t) := by
  cases data with
  | nil => exact h
  | cons first rest =>
    obtain rfl | ⟨rfl, empty⟩ | forwards := chunk_cases first rest t
    · cases second : t.isSecondInterrupt m.clock with
      | true =>
        simp only [readAfter, second, if_true]
        exact (handle_secondInterrupt second rest).2.trans h
      | false =>
        simp only [readAfter, second, if_true, Bool.false_eq_true, if_false]
        exact handle_interrupt second rest
    · have other : endKey ≠ interruptKey := by decide
      simp only [readAfter, other, if_false, decide_true, empty, Bool.and_self, if_true]
      exact (handle_exit empty m rest).trans h
    · rw [handle_forwards forwards, forward_state, readAfter_forwards forwards,
        Line.trackAll_append, ← h]

theorem handleAll_line (h : t.line = Line.trackAll {} keys) (chunks : List (Moment × Bytes)) :
    (handleAll chunks t).2.line = Line.trackAll {} (readAll keys chunks t) := by
  induction chunks generalizing t keys with
  | nil => exact h
  | cons chunk chunks ih => exact ih (handle_line h chunk.1 chunk.2)

/-- A chunk that ends in a line ending outside a sequence leaves nothing on the line, unless it
begins with the Ctrl+C that ends the session. -/
theorem handle_lineEnding {front : Bytes} {ending : UInt8} (h : t.line = Line.trackAll {} keys)
    (m : Moment) (ends : IsLineEnding ending) (outside : ¬LeavesOpen (keys ++ front)) :
    (t.handle m (front ++ [ending])).2.line.bytes = [] ∨
      front.head? = some interruptKey ∧ t.isSecondInterrupt m.clock = true := by
  obtain ⟨first, rest, split⟩ := List.exists_cons_of_ne_nil (l := front ++ [ending]) (by simp)
  obtain rfl | ⟨rfl, empty⟩ | forwards := chunk_cases first rest t
  · cases second : t.isSecondInterrupt m.clock with
    | true =>
      have head : front.head? = some interruptKey := by
        cases front with
        | nil =>
          cases split
          rcases ends with same | same <;> cases same
        | cons first front => exact congrArg some (List.cons.inj split).1
      exact .inr ⟨head, rfl⟩
    | false =>
      rw [split, handle_interrupt second rest]
      exact .inl rfl
  · rw [split, handle_exit empty m rest]
    exact .inl (by simpa [Line.isEmpty, Line.bytes] using empty)
  · rw [← split] at forwards
    have closed : (Line.trackAll {} (keys ++ front)).inEscape = false :=
      Bool.eq_false_iff.2 fun opens => outside ((Line.inEscape_iff _).1 opens)
    rw [handle_forwards forwards, forward_state, h, ← Line.trackAll_append, ← List.append_assoc,
      Line.trackAll_append]
    exact .inl (Line.track_lineEnding closed ends)

end Shell

/-- **The tracked line.** Whatever chunks of keys are handled, and whatever becomes of what is sent
and shown, the line stays within 1024 bytes, the cursor stands at its end, and no control byte is on
it. Ctrl+C leaves it empty, unless it is the second of two: then the line stays as it is, and the
answer is the end of the session or what the screen raised. And a chunk whose last byte is a line
ending that is read outside an escape sequence leaves it empty too. -/
theorem line_tracked {t : Shell} (fresh : t.line = {}) (chunks : List (Moment × Bytes)) :
    let s := (Shell.handleAll chunks t).2
    s.line.Tracked ∧
      (∀ m rest,
        (s.isSecondInterrupt m.clock = false →
          (s.handle m (interruptKey :: rest)).2.line = .cleared) ∧
        (s.isSecondInterrupt m.clock = true →
          (s.handle m (interruptKey :: rest)).1 ≠ .ok false ∧
            (s.handle m (interruptKey :: rest)).2.line = s.line)) ∧
      ∀ m front ending, IsLineEnding ending →
        ¬LeavesOpen (Shell.readAll [] chunks t ++ front) →
        (s.handle m (front ++ [ending])).2.line.bytes = [] ∨
          front.head? = some interruptKey ∧ s.isSecondInterrupt m.clock = true := by
  intro s
  have untyped : t.line = Line.trackAll {} [] := fresh
  have line : s.line = Line.trackAll {} (Shell.readAll [] chunks t) :=
    Shell.handleAll_line untyped chunks
  refine ⟨line ▸ Line.tracked_trackAll _, fun m rest => ⟨fun first => ?_, fun second => ?_⟩,
    fun m front ending ends outside => Shell.handle_lineEnding line m ends outside⟩
  · exact Shell.handle_interrupt first rest
  · exact Shell.handle_secondInterrupt second rest

/-- A letter, a cursor key, and then a letter with the line ending in one chunk that the socket does
not take. -/
theorem line_tracked_unsent :
    let t : Shell :=
      { transport := (Transport.connect { now := 0 } none "ws://c/x" [] (.initial "m" "")).2 }
    let m : Moment := { outside := { now := 1 } }
    let broken : Moment :=
      { outside := { now := 1, send := some (.system .general "Broken pipe") } }
    let s := (Shell.handleAll [(m, [0x61]), (m, [0x1B, 0x5B, 0x41])] t).2
    s.line.bytes = [0x61] ∧ s.line.Tracked ∧ (s.handle broken [0x62, 0x0D]).1 ≠ .ok false ∧
      (s.handle broken [0x62, 0x0D]).2.line.bytes = [] := by
  intro t m broken s
  have closed : ¬LeavesOpen [0x61, 0x1B, 0x5B, 0x41, 0x62] := by
    rw [← Line.inEscape_iff]
    decide
  obtain ⟨tracked, -, endings⟩ :=
    @line_tracked t rfl [(m, [0x61]), (m, [0x1B, 0x5B, 0x41])]
  refine ⟨by decide +kernel, tracked, by decide +kernel, ?_⟩
  exact (endings broken [0x62] 0x0D (.inr rfl) closed).resolve_right (by decide)

end EdgeSession.Terminal
