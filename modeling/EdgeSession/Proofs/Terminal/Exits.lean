import EdgeSession.Proofs.Terminal.Transcript
import EdgeSession.Proofs.Terminal.Typing

/-!
When the keyboard ends a session: the first key that does is found from the keys and their times
alone, and all keys before it but Ctrl+C have been sent.
-/
namespace EdgeSession.Terminal

open Transport

namespace Stroke

/-- The length of the line after one more key. -/
def lengthAfter (n : Nat) (key : UInt8) : Nat :=
  if key = interruptKey || key = 0x0A || key = 0x0D then 0
  else if key = 0x08 || key = 0x7F then n - 1
  else if 0x20 ≤ key then min (n + 1) 1024
  else n

/-- The length of the line by the keys typed so far. -/
def length (past : List Stroke) : Nat :=
  past.foldl (fun n stroke => lengthAfter n stroke.key) 0

end Stroke

/-- A key that ends the session after those before it: Ctrl+C within a second of the latest one, as
the clock has it, or Ctrl+D on an empty line. -/
inductive Ends (past : List Stroke) : Stroke → Prop
  | interrupt {before between : List Stroke} {last now : Float}
      (struck : past = before ++ ⟨last, interruptKey⟩ :: between)
      (latest : ∀ stroke ∈ between, stroke.key ≠ interruptKey)
      (soon : now - last < 1.0) : Ends past ⟨now, interruptKey⟩
  | exit {now : Float} (empty : Stroke.length past = 0) : Ends past ⟨now, endKey⟩

/-- The key at this position ends the session after those before it. -/
def EndsAt (strokes : List Stroke) (i : Nat) : Prop :=
  ∃ stroke, strokes[i]? = some stroke ∧ Ends (strokes.take i) stroke

/-- The first position at which something holds. -/
def IsFirst (p : Nat → Prop) (i : Nat) : Prop := p i ∧ ∀ j < i, ¬p j

/-- Keys struck one at a time, as chunks. -/
def singly (keys : List (Moment × UInt8)) : List (Moment × Bytes) :=
  keys.map fun entry => (entry.1, [entry.2])

def strokes (keys : List (Moment × UInt8)) : List Stroke :=
  keys.map fun entry => ⟨entry.1.clock, entry.2⟩

/-- The screen and the socket take what they are given, at a time that has a written form. -/
structure Takes (m : Moment) : Prop where
  now : Pack.Encodable m.outside.now
  sends : m.outside.send = none
  shows : m.screen = none

/-- A session with a live connection, after some keys. -/
structure Struck (connection : Nat) (target : String) (past : List Stroke) (t : Shell) : Prop where
  live : Live connection t.transport
  named : t.transport.target = target
  line : t.line = Stroke.line past
  last : t.lastInterrupt = Stroke.lastInterrupt past

/-- The frames by which keys were sent. -/
def Sent (target : String) (keys : List UInt8) (before after : Transport) : Prop :=
  ∃ frames, after.written = before.written ++ frames ∧
    List.Forall₂ (fun key frame => Tells target .stdin [key] frame) keys frames

namespace Stroke

section
variable {past : List Stroke} {stroke : Stroke} {last : Float} {key : UInt8} {l : Line}

theorem length_snoc (past : List Stroke) (stroke : Stroke) :
    length (past ++ [stroke]) = lengthAfter (length past) stroke.key := by
  simp only [length, List.foldl_append, List.foldl_cons, List.foldl_nil]

theorem track_length (sound : l.Sound) (outside : l.inEscape = false) (plain : key ≠ escapeKey)
    (other : key ≠ interruptKey) :
    (l.track key).inEscape = false ∧
      (l.track key).typed.length = lengthAfter l.typed.length key := by
  obtain ⟨cursor, bounded⟩ := sound
  simp only [Line.track, lengthAfter, outside, plain, other, Bool.false_eq_true, if_false,
    decide_false, Bool.false_or]
  split
  · exact ⟨rfl, rfl⟩
  split
  · exact ⟨outside, List.length_tail⟩
  by_cases printable : 0x20 ≤ key
  · by_cases room : l.cursor < lineLimit
    · simp only [printable, room, decide_true, Bool.and_self, if_true, List.length_cons]
      exact ⟨trivial, (Nat.min_eq_left (by rw [← cursor]; exact room)).symm⟩
    · simp only [printable, room, decide_true, decide_false, Bool.and_false, Bool.false_eq_true,
        if_false, if_true]
      simp only [lineLimit] at room bounded
      exact ⟨outside, by omega⟩
  · simp only [printable, decide_false, Bool.false_and, Bool.false_eq_true, if_false]
    exact ⟨outside, trivial⟩

/-- Without escape sequences the line is as long as the keys say. -/
theorem line_length (plain : ∀ stroke ∈ past, stroke.key ≠ escapeKey) :
    (line past).Sound ∧ (line past).inEscape = false ∧ (line past).typed.length = length past := by
  induction past using List.reverseRecOn with
  | nil => exact ⟨.cleared, rfl, rfl⟩
  | append_singleton past stroke ih =>
    simp only [List.forall_mem_append, List.forall_mem_singleton] at plain
    obtain ⟨sound, outside, same⟩ := ih plain.1
    rw [line_snoc, length_snoc]
    by_cases interrupts : stroke.key = interruptKey
    · rw [if_pos interrupts, lengthAfter, interrupts]
      exact ⟨.cleared, rfl, rfl⟩
    · rw [if_neg interrupts, ← same]
      exact ⟨sound.track stroke.key, track_length sound outside plain.2 interrupts⟩

/-- The last time that Ctrl+C was struck, and what was typed since. -/
theorem lastInterrupt_eq_some_iff :
    lastInterrupt past = some last ↔ ∃ before between,
      past = before ++ ⟨last, interruptKey⟩ :: between ∧
        ∀ stroke ∈ between, stroke.key ≠ interruptKey := by
  rw [lastInterrupt, List.getLast?_filter]
  constructor
  · intro found
    obtain ⟨⟨clock, key⟩, first, rfl⟩ := Option.map_eq_some_iff.1 found
    obtain ⟨interrupts, between, before, split, latest⟩ := List.find?_eq_some_iff_append.1 first
    have key : key = interruptKey := of_decide_eq_true interrupts
    subst key
    refine ⟨before.reverse, between.reverse, ?_, fun stroke mem => ?_⟩
    · simpa using congrArg List.reverse split
    · simpa using latest stroke (List.mem_reverse.1 mem)
  · rintro ⟨before, between, rfl, latest⟩
    refine Option.map_eq_some_iff.2 ⟨⟨last, interruptKey⟩, List.find?_eq_some_iff_append.2
      ⟨decide_eq_true rfl, between.reverse, before.reverse, by simp, fun stroke mem => ?_⟩, rfl⟩
    simpa using latest stroke (List.mem_reverse.1 mem)

theorem isSecondInterrupt_iff :
    stroke.isSecondInterrupt past = true ↔ stroke.key = interruptKey ∧
      ∃ last, lastInterrupt past = some last ∧ stroke.clock - last < interruptWindow := by
  simp only [isSecondInterrupt, Bool.and_eq_true, beq_iff_eq, Option.any_eq_true,
    decide_eq_true_eq]

theorem isExit_iff (plain : ∀ stroke ∈ past, stroke.key ≠ escapeKey) :
    stroke.isExit past = true ↔ stroke.key = endKey ∧ length past = 0 := by
  obtain ⟨-, -, same⟩ := line_length plain
  rw [isExit, Bool.and_eq_true, beq_iff_eq, Line.isEmpty, List.isEmpty_iff,
    ← List.length_eq_zero_iff, same]

/-- Whether a key ends the session can be told from the keys before it and their times. -/
theorem ends_iff (plain : ∀ stroke ∈ past, stroke.key ≠ escapeKey) :
    (stroke.effect past).ends = true ↔ Ends past stroke := by
  have either : (stroke.effect past).ends = true ↔
      stroke.isSecondInterrupt past = true ∨ stroke.isExit past = true := by
    cases second : stroke.isSecondInterrupt past with
    | true => simp [effect, second]
    | false =>
      cases exits : stroke.isExit past with
      | true =>
        have other : stroke.key ≠ interruptKey := by
          rw [((isExit_iff plain).1 exits).1]
          decide
        simp [effect, second, exits, other]
      | false =>
        by_cases interrupts : stroke.key = interruptKey <;>
          simp [effect, second, exits, interrupts]
  obtain ⟨now, key⟩ := stroke
  rw [either, isSecondInterrupt_iff, isExit_iff plain]
  constructor
  · rintro (⟨rfl, last, struck, soon⟩ | ⟨rfl, empty⟩)
    · obtain ⟨before, between, split, latest⟩ := lastInterrupt_eq_some_iff.1 struck
      exact .interrupt split latest soon
    · exact .exit empty
  · rintro (⟨split, latest, soon⟩ | empty)
    · exact .inl ⟨rfl, _, lastInterrupt_eq_some_iff.2 ⟨_, _, split, latest⟩, soon⟩
    · exact .inr ⟨rfl, empty⟩

/-- A key that does not end the session is sent unless it is Ctrl+C. -/
theorem sends_of_not_ends (stays : (stroke.effect past).ends = false) :
    (stroke.effect past).sends = if stroke.key = interruptKey then none else some stroke.key := by
  simp only [effect] at stays ⊢
  repeat' split at stays
  all_goals simp_all

end
end Stroke

/-! ## Keys one at a time -/

section
variable {connection : Nat} {target : String} {past : List Stroke} {t : Shell} {m : Moment}

theorem Sent.none (target : String) (transport : Transport) : Sent target [] transport transport :=
  ⟨[], (List.append_nil _).symm, .nil⟩

theorem Sent.append {front back : List UInt8} {first second third : Transport}
    (before : Sent target front first second) (after : Sent target back second third) :
    Sent target (front ++ back) first third := by
  obtain ⟨frames, written, tells⟩ := before
  obtain ⟨frames', written', tells'⟩ := after
  refine ⟨frames ++ frames', ?_, List.rel_append tells tells'⟩
  rw [written', written, List.append_assoc]

/-- What one key does, as the keys before it say: whether it ends the session, and whether it is
sent. -/
structure Handled (connection : Nat) (target : String) (past : List Stroke) (stroke : Stroke)
    (t : Shell) (call : Except KeyTrouble Bool × Shell) : Prop where
  answer : call.1 = .ok (stroke.effect past).ends
  next : (stroke.effect past).ends = false →
    Struck connection target (past ++ [stroke]) call.2
  sent : Sent target (stroke.effect past).sends.toList t.transport call.2.transport

theorem Struck.interrupt (h : Struck connection target past t) (takes : Takes m) :
    Handled connection target past ⟨m.clock, interruptKey⟩ t (t.handle m [interruptKey]) := by
  have handled : t.handle m [interruptKey] = t.interrupt m := by
    simp only [Shell.handle, if_true]
  have second : Stroke.isSecondInterrupt past ⟨m.clock, interruptKey⟩ =
      t.isSecondInterrupt m.clock := by
    simp only [Stroke.isSecondInterrupt, Shell.isSecondInterrupt, h.last, beq_self_eq_true,
      Bool.true_and]
  simp only [handled, Shell.interrupt, echo_taken takes.shows]
  cases twice : t.isSecondInterrupt m.clock with
  | true =>
    have effect : Stroke.effect past ⟨m.clock, interruptKey⟩ =
        { shows := exitingText, ends := true } := by
      simp only [Stroke.effect, second, twice, if_true]
    rw [if_pos rfl]
    exact ⟨by rw [effect], by rw [effect]; rintro ⟨⟩, by rw [effect]; exact .none target _⟩
  | false =>
    have effect : Stroke.effect past ⟨m.clock, interruptKey⟩ = { shows := interruptText } := by
      simp only [Stroke.effect, second, twice, Bool.false_eq_true, if_false, if_true]
    rw [if_neg Bool.false_ne_true]
    have line : Line.cleared = Stroke.line (past ++ [⟨m.clock, interruptKey⟩]) := by
      rw [Stroke.line_snoc, if_pos rfl]
    have last : some m.clock = Stroke.lastInterrupt (past ++ [⟨m.clock, interruptKey⟩]) := by
      rw [Stroke.lastInterrupt_snoc, if_pos rfl]
    exact ⟨by rw [effect], fun _ => ⟨h.live, h.named, line, last⟩,
      by rw [effect]; exact .none target _⟩

theorem Struck.exit (h : Struck connection target past t) (takes : Takes m)
    (empty : t.line.isEmpty = true) :
    Handled connection target past ⟨m.clock, endKey⟩ t (t.handle m [endKey]) := by
  have other : endKey ≠ interruptKey := by decide
  have exits : Stroke.isExit past ⟨m.clock, endKey⟩ = true := by
    simp only [Stroke.isExit, ← h.line, empty, beq_self_eq_true, Bool.and_self]
  have effect : Stroke.effect past ⟨m.clock, endKey⟩ = { shows := exitText, ends := true } := by
    simp [Stroke.effect, Stroke.isSecondInterrupt, other, exits]
  simp only [Shell.handle, other, if_false, decide_true, empty, Bool.and_self, if_true,
    echo_taken takes.shows]
  exact ⟨by rw [effect], by rw [effect]; rintro ⟨⟩, by rw [effect]; exact .none target _⟩

theorem Struck.forward (h : Struck connection target past t) (takes : Takes m) {key : UInt8}
    (other : key ≠ interruptKey) (stays : key = endKey → t.line.isEmpty = false) :
    Handled connection target past ⟨m.clock, key⟩ t (t.handle m [key]) := by
  have exits : Stroke.isExit past ⟨m.clock, key⟩ = false := by
    simp only [Stroke.isExit, ← h.line, Bool.and_eq_false_imp, beq_iff_eq]
    exact stays
  have effect : Stroke.effect past ⟨m.clock, key⟩ = { sends := some key } := by
    simp [Stroke.effect, Stroke.isSecondInterrupt, other, exits]
  have legal := legal_ofKind h.live .stdin [key] (show 1 ≤ Frame.maxPayload by decide) takes.now
  have sent := send_taken h.live.link h.live.plain takes.sends legal
  rw [Shell.handle_forwards ⟨key, [], rfl, other, stays⟩]
  simp only [Shell.forward, sent]
  have line : t.line.trackAll [key] = Stroke.line (past ++ [⟨m.clock, key⟩]) := by
    rw [Stroke.line_snoc, if_neg other, ← h.line]
    rfl
  have last : t.lastInterrupt = Stroke.lastInterrupt (past ++ [⟨m.clock, key⟩]) := by
    rw [Stroke.lastInterrupt_snoc, if_neg other, ← h.last]
  refine ⟨by rw [effect], fun _ => ⟨h.live.record _, h.named, line, last⟩, ?_⟩
  rw [effect]
  exact ⟨[_], written_record _ t.transport, .cons (h.named ▸ tells_stamp legal) .nil⟩

theorem Struck.handle (h : Struck connection target past t) (takes : Takes m) (key : UInt8) :
    Handled connection target past ⟨m.clock, key⟩ t (t.handle m [key]) := by
  by_cases interrupts : key = interruptKey
  · subst interrupts
    exact h.interrupt takes
  · cases empty : t.line.isEmpty with
    | false => exact h.forward takes interrupts fun _ => empty
    | true =>
      by_cases ends : key = endKey
      · subst ends
        exact h.exit takes empty
      · exact h.forward takes interrupts fun same => absurd same ends

/-! ## Positions -/

section
variable {front back all : List Stroke} {stroke : Stroke} {i : Nat} {p q : Nat → Prop}

theorem endsAt_append (within : i < front.length) :
    EndsAt (front ++ back) i ↔ EndsAt front i := by
  rw [EndsAt, EndsAt, List.getElem?_append_left within,
    List.take_append_of_le_length (Nat.le_of_lt within)]

theorem endsAt_length : EndsAt (front ++ stroke :: back) front.length ↔ Ends front stroke := by
  simp [EndsAt]

theorem EndsAt.lt (ends : EndsAt all i) : i < all.length := by
  obtain ⟨stroke, struck, -⟩ := ends
  exact (List.getElem?_eq_some_iff.1 struck).1

/-- Whether the key at a position ends the session can be computed. -/
theorem endsAt_iff (plain : ∀ stroke ∈ all, stroke.key ≠ escapeKey) :
    EndsAt all i ↔ (all[i]?.any fun stroke => (stroke.effect (all.take i)).ends) = true := by
  have past : ∀ stroke ∈ all.take i, stroke.key ≠ escapeKey := fun stroke mem =>
    plain stroke (List.mem_of_mem_take mem)
  simp only [EndsAt, Option.any_eq_true, Stroke.ends_iff past]

/-- What is told alike as long as nothing has come first comes first at the same position. -/
theorem isFirst_congr (alike : ∀ i, (∀ j < i, ¬q j) → (p i ↔ q i)) (i : Nat) :
    IsFirst p i ↔ IsFirst q i := by
  -- `alike` asks that nothing has come before by the one account; the other says the same.
  have none (n : Nat) : (∀ j < n, ¬p j) ↔ ∀ j < n, ¬q j := by
    induction n with
    | zero => simp
    | succ n ih =>
      rw [Nat.forall_lt_succ_right, Nat.forall_lt_succ_right, ih]
      exact and_congr_right fun before => not_congr (alike n before)
  rw [IsFirst, IsFirst, none]
  exact and_congr_left fun before => alike i before

end

/-! ## Every run -/

variable {keys : List (Moment × UInt8)}

theorem take_singly (keys : List (Moment × UInt8)) (i : Nat) :
    (singly keys).take i = singly (keys.take i) := List.map_take.symm

theorem getElem?_singly (keys : List (Moment × UInt8)) (i : Nat) :
    (singly keys)[i]? = keys[i]?.map fun entry => (entry.1, [entry.2]) := List.getElem?_map

theorem plain_strokes (plain : ∀ entry ∈ keys, entry.2 ≠ escapeKey) :
    ∀ stroke ∈ strokes keys, stroke.key ≠ escapeKey := by
  intro stroke mem
  obtain ⟨entry, struck, rfl⟩ := List.mem_map.1 mem
  exact plain entry struck

/-- As long as no key has ended the session, every key but Ctrl+C has been sent. -/
theorem Struck.handleAll (h : Struck connection target [] t)
    (takes : ∀ entry ∈ keys, Takes entry.1) (plain : ∀ entry ∈ keys, entry.2 ≠ escapeKey)
    (unended : ∀ i, ¬EndsAt (strokes keys) i) :
    (Shell.handleAll (singly keys) t).1 = List.replicate keys.length (.ok false) ∧
      Struck connection target (strokes keys) (Shell.handleAll (singly keys) t).2 ∧
      Sent target ((keys.map Prod.snd).filter (· ≠ interruptKey)) t.transport
        (Shell.handleAll (singly keys) t).2.transport := by
  -- By the last key: what it does is told by the keys before it.
  induction keys using List.reverseRecOn with
  | nil => exact ⟨rfl, h, .none target _⟩
  | append_singleton keys entry ih =>
    obtain ⟨m, key⟩ := entry
    simp only [List.forall_mem_append, List.forall_mem_singleton] at takes plain
    have split : strokes (keys ++ [(m, key)]) = strokes keys ++ [⟨m.clock, key⟩] := by
      simp [strokes]
    rw [split] at unended
    obtain ⟨answers, struck, sent⟩ := ih takes.1 plain.1 fun i ends =>
      unended i ((endsAt_append ends.lt).2 ends)
    have stays : (Stroke.effect (strokes keys) ⟨m.clock, key⟩).ends = false :=
      Bool.eq_false_iff.2 fun ends =>
        unended _ (endsAt_length.2 ((Stroke.ends_iff (plain_strokes plain.1)).1 ends))
    obtain ⟨answer, next, forwarded⟩ := struck.handle takes.2 key
    have last : Shell.handleAll (singly (keys ++ [(m, key)])) t =
        ((Shell.handleAll (singly keys) t).1 ++
          [((Shell.handleAll (singly keys) t).2.handle m [key]).1],
        ((Shell.handleAll (singly keys) t).2.handle m [key]).2) := by
      rw [singly, List.map_append, Shell.handleAll_append]
      rfl
    rw [last, split]
    refine ⟨?_, next stays, ?_⟩
    · rw [answers, answer, stays, List.length_append, List.length_singleton, List.replicate_succ']
    · rw [List.map_append, List.filter_append]
      refine sent.append ?_
      rw [Stroke.sends_of_not_ends stays] at forwarded
      by_cases interrupts : key = interruptKey
      · simpa [interrupts] using forwarded
      · simpa [interrupts] using forwarded

theorem unended_take {i : Nat} (unended : ∀ j < i, ¬EndsAt (strokes keys) j) :
    ∀ j, ¬EndsAt (strokes (keys.take i)) j := by
  intro j ends
  have within := ends.lt
  have whole : strokes keys = strokes (keys.take i) ++ strokes (keys.drop i) := by
    rw [strokes, strokes, strokes, ← List.map_append, List.take_append_drop]
  rw [strokes, List.length_map, List.length_take] at within
  exact unended j (by omega) (whole ▸ (endsAt_append ends.lt).2 ends)

/-- **When the keyboard ends the session.** Of keys struck one at a time, without ESC and with a
screen and a socket that take what they are given, the first that is answered by the end of the
session is the first Ctrl+C within a second of the latest one before it, whatever was typed in
between, or Ctrl+D on a line that is empty by the keys before it. Every key before it is sent as it
is, but for Ctrl+C. -/
theorem keyboard_ends {t : Shell} (live : Live connection t.transport) (fresh : t.line = {})
    (unstruck : t.lastInterrupt = none) (takes : ∀ entry ∈ keys, Takes entry.1)
    (plain : ∀ entry ∈ keys, entry.2 ≠ escapeKey) :
    (∀ i, IsFirst (fun i => (Shell.handleAll (singly keys) t).1[i]? = some (.ok true)) i ↔
      IsFirst (EndsAt (strokes keys)) i) ∧
    ∀ i ≤ keys.length, (∀ j < i, ¬EndsAt (strokes keys) j) →
      (Shell.handleAll (singly (keys.take i)) t).1 = List.replicate i (.ok false) ∧
      Sent t.transport.target (((keys.take i).map Prod.snd).filter (· ≠ interruptKey)) t.transport
        (Shell.handleAll (singly (keys.take i)) t).2.transport := by
  have start : Struck connection t.transport.target [] t := ⟨live, rfl, fresh, unstruck⟩
  have before {i : Nat} (unended : ∀ j < i, ¬EndsAt (strokes keys) j) :=
    start.handleAll (fun entry mem => takes entry (List.mem_of_mem_take mem))
      (fun entry mem => plain entry (List.mem_of_mem_take mem)) (unended_take unended)
  refine ⟨isFirst_congr fun i unended => ?_, fun i within unended => ?_⟩
  · rw [Shell.handleAll_answer, take_singly, getElem?_singly]
    cases struck : keys[i]? with
    | none =>
      have beyond : ¬EndsAt (strokes keys) i := by
        rintro ⟨stroke, there, -⟩
        rw [strokes, List.getElem?_map, struck] at there
        cases there
      simp [beyond]
    | some entry =>
      obtain ⟨m, key⟩ := entry
      have mem := List.mem_of_getElem? struck
      obtain ⟨-, state, -⟩ := before unended
      have answer := (state.handle (takes _ mem) key).answer
      have past : ∀ stroke ∈ strokes (keys.take i), stroke.key ≠ escapeKey :=
        plain_strokes fun entry mem => plain entry (List.mem_of_mem_take mem)
      have ends : EndsAt (strokes keys) i ↔ Ends (strokes (keys.take i)) ⟨m.clock, key⟩ := by
        simp [EndsAt, strokes, List.map_take, struck]
      rw [ends, ← Stroke.ends_iff past]
      simp [answer]
  · obtain ⟨answers, -, sent⟩ := before unended
    rw [List.length_take, Nat.min_eq_left within] at answers
    exact ⟨answers, sent⟩

end

/-- Ctrl+C twice too slowly and then once more soon enough, with a line in between on which Ctrl+D
does not end the session. -/
theorem keyboard_ends_third_time :
    let t : Shell :=
      { transport := (Transport.connect { now := 0 } none "ws://c/x" [] (.initial "m" "")).2 }
    let moment (clock : Float) : Moment := { outside := { now := 1 }, clock }
    let keys := [(moment 0.0, interruptKey), (moment 0.5, 0x61), (moment 1.0, interruptKey),
      (moment 1.5, 0x62), (moment 1.75, endKey), (moment 1.875, interruptKey)]
    IsFirst (fun i => (Shell.handleAll (singly keys) t).1[i]? = some (.ok true)) 5 ∧
      Sent "m" [0x61, 0x62, endKey] t.transport
        (Shell.handleAll (singly (keys.take 5)) t).2.transport := by
  intro t moment keys
  have live : Live 0 t.transport := ⟨rfl, rfl, rfl, by decide, by decide⟩
  have taken (clock : Float) : Takes (moment clock) := ⟨(by decide : Pack.Encodable 1), rfl, rfl⟩
  have takes : ∀ entry ∈ keys, Takes entry.1 := by
    simp only [keys, List.forall_mem_cons]
    exact ⟨taken _, taken _, taken _, taken _, taken _, taken _, List.forall_mem_nil _⟩
  have plain : ∀ entry ∈ keys, entry.2 ≠ escapeKey := by
    simp [keys, interruptKey, endKey, escapeKey]
  have before : ∀ j < 5, ¬EndsAt (strokes keys) j := by
    simp only [endsAt_iff (plain_strokes plain)]
    decide
  have ends : EndsAt (strokes keys) 5 := (endsAt_iff (plain_strokes plain)).2 (by decide)
  obtain ⟨first, sent⟩ := keyboard_ends live rfl rfl takes plain
  exact ⟨(first 5).2 ⟨ends, before⟩, (sent 5 (by decide) before).2⟩

end EdgeSession.Terminal
