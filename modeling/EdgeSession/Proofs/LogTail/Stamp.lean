import EdgeSession.LogTail.Timestamp
import Mathlib.Algebra.Group.Nat.Defs
import Mathlib.Data.List.Forall2
import Mathlib.Tactic.MkIffOfInductiveProp

/-!
Time stamps in pieces: which texts are taken apart into which pieces, with decimal digits of any
script, and which numbers are read from these.
-/
namespace EdgeSession

namespace Text

variable {digits : List Char} {c : Char}

def AreDigits (digits : List Char) : Prop := ∀ c ∈ digits, isAsciiDigit c = true

instance : Decidable (AreDigits digits) :=
  decidable_of_iff (digits.all isAsciiDigit = true) List.all_eq_true

/-- Decimal digits, each of any script. -/
def AreDecimals (digits : List Char) : Prop := ∀ c ∈ digits, isDigit c = true

instance : Decidable (AreDecimals digits) :=
  decidable_of_iff (digits.all isDigit = true) List.all_eq_true

/-- The digits of ASCII are among those of every script. -/
theorem isDigit_of_isAsciiDigit (digit : isAsciiDigit c = true) : isDigit c = true := by
  have ascii : ∀ n < 0x3A, 0x30 ≤ n → isDigit (Char.ofNat n) = true := by decide
  simp only [isAsciiDigit, Bool.and_eq_true, decide_eq_true_eq] at digit
  have known := ascii c.toNat (by omega) digit.1
  rwa [Char.ofNat_toNat] at known

theorem AreDigits.decimals (ascii : AreDigits digits) : AreDecimals digits :=
  fun c mem => isDigit_of_isAsciiDigit (ascii c mem)

/-- The number that decimal digits stand for. -/
def numeral (digits : List Char) : Nat := Nat.ofDigitChars 10 digits 0

theorem numeral_append (front back : List Char) :
    numeral (front ++ back) = 10 ^ back.length * numeral front + numeral back := by
  rw [numeral, Nat.ofDigitChars_append, Nat.ofDigitChars_eq_ofDigitChars_zero]
  rfl

theorem numeral_cons (c : Char) (digits : List Char) :
    numeral (c :: digits) = 10 ^ digits.length * (c.toNat - 0x30) + numeral digits := by
  have single : numeral [c] = c.toNat - 0x30 := by simp [numeral, Nat.ofDigitChars_cons]
  rw [← single, ← numeral_append, List.singleton_append]

theorem numeral_zeros (n : Nat) : numeral (List.replicate n '0') = 0 := by
  rw [numeral, Nat.ofDigitChars_replicate_zero, Nat.mul_zero]

theorem numeral_lt (ascii : AreDigits digits) :
    numeral digits < 10 ^ digits.length := by
  induction digits with
  | nil => exact Nat.one_pos
  | cons c digits ih =>
    have digit := ascii c List.mem_cons_self
    simp only [isAsciiDigit, Bool.and_eq_true, decide_eq_true_eq] at digit
    have others := ih fun d mem => ascii d (List.mem_cons_of_mem c mem)
    have first : 10 ^ digits.length * (c.toNat - 0x30) ≤ 10 ^ digits.length * 9 :=
      Nat.mul_le_mul_left _ (by omega)
    rw [numeral_cons, List.length_cons, Nat.pow_succ]
    omega

end Text

namespace LogTail

open Text

variable {s front rest digits pattern : List Char} {width n : Nat}

/-! ## Digits in their places -/

/-- Digits of ASCII, as many as a place has. -/
@[mk_iff]
structure Fills (width : Nat) (digits : List Char) : Prop where
  ascii : AreDigits digits
  length : digits.length = width

instance : Decidable (Fills width digits) := decidable_of_iff' _ (fills_iff width digits)

/-- Decimal digits of any script, as many as a place has. -/
structure Spans (width : Nat) (digits : List Char) : Prop where
  decimals : AreDecimals digits
  length : digits.length = width

theorem Fills.spans (fills : Fills width digits) : Spans width digits :=
  ⟨fills.ascii.decimals, fills.length⟩

/-- A character that a place of a pattern takes. -/
def Suits (place c : Char) : Prop := if place = '0' then isDigit c = true else c = place

theorem suits_iff {place c : Char} :
    Suits place c ↔ (if place = '0' then isDigit c else c == place) = true := by
  rw [Suits]
  split
  · rfl
  · exact beq_iff_eq.symm

theorem matchPattern?_eq_some_iff :
    matchPattern? pattern s = some (front, rest) ↔
      List.Forall₂ Suits pattern front ∧ s = front ++ rest := by
  induction pattern generalizing s front with
  | nil =>
    rw [matchPattern?, Option.some.injEq, Prod.mk.injEq, List.forall₂_nil_left_iff]
    constructor
    · rintro ⟨rfl, rfl⟩
      exact ⟨rfl, rfl⟩
    · rintro ⟨rfl, rfl⟩
      exact ⟨rfl, rfl⟩
  | cons place pattern ih =>
    rw [List.forall₂_cons_left_iff]
    constructor
    · intro found
      cases s with
      | nil => cases found
      | cons c s =>
        rw [matchPattern?] at found
        by_cases suits : Suits place c
        · rw [if_pos (suits_iff.1 suits)] at found
          obtain ⟨⟨back, behind⟩, others, same⟩ := Option.map_eq_some_iff.1 found
          cases same
          obtain ⟨matched, rfl⟩ := ih.1 others
          exact ⟨⟨c, back, suits, matched, rfl⟩, rfl⟩
        · rw [if_neg (mt suits_iff.2 suits)] at found
          cases found
    · rintro ⟨⟨c, back, suits, matched, rfl⟩, rfl⟩
      rw [List.cons_append, matchPattern?, if_pos (suits_iff.1 suits), ih.2 ⟨matched, rfl⟩]
      rfl

theorem suits_digits_iff :
    List.Forall₂ Suits (List.replicate width '0' ++ pattern) front ↔
      ∃ digits back, Spans width digits ∧ List.Forall₂ Suits pattern back ∧
        front = digits ++ back := by
  induction width generalizing front with
  | zero =>
    constructor
    · exact fun matched => ⟨[], front, ⟨nofun, rfl⟩, matched, rfl⟩
    · rintro ⟨digits, back, spans, matched, rfl⟩
      rwa [List.eq_nil_of_length_eq_zero spans.length]
  | succ width ih =>
    rw [List.replicate_succ, List.cons_append, List.forall₂_cons_left_iff]
    constructor
    · rintro ⟨c, back, suits, matched, rfl⟩
      obtain ⟨digits, behind, spans, others, rfl⟩ := ih.1 matched
      rw [Suits, if_pos rfl] at suits
      exact ⟨c :: digits, behind, ⟨List.forall_mem_cons.2 ⟨suits, spans.decimals⟩,
        congrArg (· + 1) spans.length⟩, others, rfl⟩
    · rintro ⟨_ | ⟨c, digits⟩, back, ⟨decimals, length⟩, matched, rfl⟩
      · cases length
      · obtain ⟨suits, others⟩ := List.forall_mem_cons.1 decimals
        exact ⟨c, digits ++ back, by rwa [Suits, if_pos rfl],
          ih.2 ⟨digits, back, ⟨others, Nat.succ.inj length⟩, matched, rfl⟩, rfl⟩

theorem suits_last_iff :
    List.Forall₂ Suits (List.replicate width '0') front ↔ Spans width front := by
  have whole := @suits_digits_iff front [] width
  rw [List.append_nil] at whole
  simpa [List.forall₂_nil_left_iff] using whole

/-- A field of digits up to a mark. -/
theorem suits_field_iff {mark : Char} (other : mark ≠ '0') :
    List.Forall₂ Suits (List.replicate width '0' ++ mark :: pattern) front ↔
      ∃ field back, Spans width field ∧ List.Forall₂ Suits pattern back ∧
        front = field ++ mark :: back := by
  simp only [suits_digits_iff, List.forall₂_cons_left_iff, Suits, if_neg other]
  constructor
  · rintro ⟨field, _, spans, ⟨_, back, rfl, matched, rfl⟩, rfl⟩
    exact ⟨field, back, spans, matched, rfl⟩
  · rintro ⟨field, back, spans, matched, rfl⟩
    exact ⟨field, _, spans, ⟨_, back, rfl, matched, rfl⟩, rfl⟩

theorem suits_fields_iff {mark : Char} (other : mark ≠ '0') {a b c : Nat} :
    List.Forall₂ Suits (List.replicate a '0' ++ mark ::
        (List.replicate b '0' ++ mark :: List.replicate c '0')) front ↔
      ∃ first second third, Spans a first ∧ Spans b second ∧ Spans c third ∧
        front = first ++ mark :: (second ++ mark :: third) := by
  simp only [suits_field_iff other, suits_last_iff]
  constructor
  · rintro ⟨first, _, spans, ⟨second, third, spans', spans'', rfl⟩, rfl⟩
    exact ⟨first, second, third, spans, spans', spans'', rfl⟩
  · rintro ⟨first, second, third, spans, spans', spans'', rfl⟩
    exact ⟨first, _, spans, ⟨second, third, spans', spans'', rfl⟩, rfl⟩

/-! ## Stamps -/

/-- A zone: the letter of UTC, or hours and minutes ahead of UTC or behind. -/
inductive Zone
  | utc (letter : Char)
  | clock (behind : Bool) (hours minutes : List Char)

namespace Zone

def text : Zone → List Char
  | utc letter => [letter]
  | clock behind hours minutes => (if behind then '-' else '+') :: (hours ++ ':' :: minutes)

/-- The minutes that it is ahead of UTC. -/
def ahead : Zone → Int
  | utc _ => 0
  | clock behind hours minutes =>
    if behind then -(numeral hours * 60 + numeral minutes : Nat)
    else (numeral hours * 60 + numeral minutes : Nat)

/-- What is kept of a zone's text; UTC is written in the normal form without its letter. -/
def written? : Zone → Option (List Char)
  | .utc _ => none
  | zone => some zone.text

end Zone

/-- The pieces of a stamp: digits, the letter between date and time of day, and the zone. -/
structure Stamp where
  year : List Char
  month : List Char
  day : List Char
  separator : Char
  hour : List Char
  minute : List Char
  second : List Char
  /-- The digits behind the point; where there are none there is no point either. -/
  fraction : List Char
  zone : Zone

namespace Stamp

def date (stamp : Stamp) : List Char :=
  stamp.year ++ '-' :: (stamp.month ++ '-' :: stamp.day)

def clock (stamp : Stamp) : List Char :=
  stamp.hour ++ ':' :: (stamp.minute ++ ':' :: stamp.second)

def fractionText (stamp : Stamp) : List Char :=
  if stamp.fraction = [] then [] else '.' :: stamp.fraction

def text (stamp : Stamp) : List Char :=
  stamp.date ++ stamp.separator :: (stamp.clock ++ (stamp.fractionText ++ stamp.zone.text))

end Stamp

/-! ## Shape -/

/-- What may stand behind a stamp. -/
def Trails (ending : List Char) : Prop := ending = [] ∨ ending = ['\n']

theorem atEnd_iff : atEnd s = true ↔ Trails s := by
  simp [atEnd, Trails]

namespace Zone

/-- A zone by its shape alone. -/
def Shaped : Zone → Prop
  | utc letter => letter = 'Z' ∨ letter = 'z'
  | clock _ hours minutes => Spans 2 hours ∧ Spans 2 minutes

theorem Shaped.head {zone : Zone} (shaped : zone.Shaped) :
    ∃ c rest, zone.text = c :: rest ∧ isDigit c = false ∧ c ≠ '.' := by
  cases zone with
  | utc letter =>
    refine ⟨letter, [], rfl, ?_⟩
    obtain rfl | rfl := shaped <;> decide
  | clock behind hours minutes =>
    refine ⟨_, _, rfl, ?_⟩
    cases behind <;> decide

end Zone

theorem clock_eq_some_iff {kept : List Char} :
    matchPattern? "00:00".toList s = some (kept, rest) ↔ ∃ hours minutes,
      Spans 2 hours ∧ Spans 2 minutes ∧ kept = hours ++ ':' :: minutes ∧ s = kept ++ rest := by
  have pattern : "00:00".toList = List.replicate 2 '0' ++ ':' :: List.replicate 2 '0' := by decide
  rw [matchPattern?_eq_some_iff, pattern, suits_field_iff (by decide)]
  simp only [suits_last_iff]
  constructor
  · rintro ⟨⟨hours, minutes, hours', minutes', same⟩, split⟩
    exact ⟨hours, minutes, hours', minutes', same, split⟩
  · rintro ⟨hours, minutes, hours', minutes', same, split⟩
    exact ⟨⟨hours, minutes, hours', minutes', same⟩, split⟩

theorem zone?_eq_some_iff {kept : Option (List Char)} :
    zone? s = some kept ↔ ∃ zone : Zone, ∃ ending, zone.Shaped ∧ Trails ending ∧
      s = zone.text ++ ending ∧ kept = zone.written? := by
  constructor
  · intro found
    cases s with
    | nil => cases found
    | cons c s =>
      rw [zone?] at found
      split at found
      · rename_i letter
        split at found
        · rename_i trails
          cases found
          have shaped : Zone.Shaped (.utc c) := by simpa [Zone.Shaped] using letter
          exact ⟨.utc c, s, shaped, atEnd_iff.1 trails, rfl, rfl⟩
        · cases found
      split at found
      · rename_i sign
        obtain ⟨⟨front, behind⟩, matched, ends⟩ := Option.bind_eq_some_iff.1 found
        obtain ⟨hours, minutes, hours', minutes', rfl, rfl⟩ := clock_eq_some_iff.1 matched
        dsimp only at ends
        split at ends
        · rename_i trails
          cases ends
          have signed : c = if decide (c = '-') = true then '-' else '+' := by
            simp only [Bool.or_eq_true, decide_eq_true_eq] at sign
            obtain rfl | rfl := sign <;> rfl
          refine ⟨.clock (c = '-') hours minutes, behind, ⟨hours', minutes'⟩, atEnd_iff.1 trails,
            ?_, ?_⟩
          · rw [Zone.text, ← signed, List.cons_append]
          · simp only [Zone.written?, Zone.text, ← signed]
        · cases ends
      · cases found
  · rintro ⟨zone, ending, shaped, trails, rfl, rfl⟩
    have ends := atEnd_iff.2 trails
    cases zone with
    | utc letter =>
      obtain rfl | rfl := shaped <;> simp [Zone.text, zone?, ends, Zone.written?]
    | clock behind hours minutes =>
      obtain ⟨hours', minutes'⟩ := shaped
      have matched : matchPattern? "00:00".toList (hours ++ ':' :: (minutes ++ ending)) =
          some (hours ++ ':' :: minutes, ending) :=
        clock_eq_some_iff.2 ⟨hours, minutes, hours', minutes', rfl, by simp⟩
      cases behind
      · rw [Zone.text, if_neg (by decide), List.cons_append, List.append_assoc, List.cons_append,
          zone?, if_neg (by decide), if_pos (by decide), matched]
        exact if_pos ends
      · rw [Zone.text, if_pos rfl, List.cons_append, List.append_assoc, List.cons_append,
          zone?, if_neg (by decide), if_pos (by decide), matched]
        exact if_pos ends

/-- What stands behind the time of day: a fraction, a zone, and no more than a line feed. -/
def Closes (fraction : List Char) (zone : Zone) (ending s : List Char) : Prop :=
  AreDecimals fraction ∧ zone.Shaped ∧ Trails ending ∧
    s = (if fraction = [] then [] else '.' :: fraction) ++ (zone.text ++ ending)

theorem closes_of_read {fraction : List Char} {kept : Option (List Char)}
    (split : fraction? s = some (fraction, rest)) (read : zone? rest = some kept) :
    ∃ zone ending, Closes fraction zone ending s ∧ kept = zone.written? := by
  obtain ⟨zone, ending, shaped, trails, same, written⟩ := zone?_eq_some_iff.1 read
  refine ⟨zone, ending, ?_, written⟩
  rw [Closes, ← same]
  unfold fraction? at split
  split at split
  · rename_i t
    dsimp only at split
    split at split
    · cases split
    · rename_i some
      cases split
      refine ⟨fun c mem => List.all_eq_true.1 List.all_takeWhile c mem, shaped, trails, ?_⟩
      rw [if_neg (by simpa using some), List.cons_append,
        List.prefix_iff_eq_append.1 (List.takeWhile_prefix isDigit)]
  · cases split
    exact ⟨nofun, shaped, trails, rfl⟩

theorem Closes.read {fraction ending : List Char} {zone : Zone}
    (closes : Closes fraction zone ending s) :
    fraction? s = some (fraction, zone.text ++ ending) ∧
      zone? (zone.text ++ ending) = some zone.written? := by
  obtain ⟨decimals, shaped, trails, rfl⟩ := closes
  refine ⟨?_, zone?_eq_some_iff.2 ⟨zone, ending, shaped, trails, rfl, rfl⟩⟩
  -- The digits are taken up to the zone and no further, since no zone starts with a digit.
  obtain ⟨c, rest, starts, other, pointless⟩ := shaped.head
  rw [starts, List.cons_append]
  split
  · rename_i none
    rw [none, List.nil_append, fraction?.eq_2 _ fun rest same => pointless (List.cons.inj same).1]
  · rename_i some
    have whole : (fraction ++ c :: (rest ++ ending)).takeWhile isDigit = fraction := by
      rw [List.takeWhile_append_of_pos decimals, List.takeWhile_cons_of_neg (by simp [other]),
        List.append_nil]
    rw [List.cons_append, fraction?]
    simp [whole, some]

namespace Stamp

/-- A stamp by its shape alone. -/
structure Shaped (stamp : Stamp) : Prop where
  year : Spans 4 stamp.year
  month : Spans 2 stamp.month
  day : Spans 2 stamp.day
  separator : stamp.separator = 'T' ∨ stamp.separator = 't'
  hour : Spans 2 stamp.hour
  minute : Spans 2 stamp.minute
  second : Spans 2 stamp.second
  fraction : AreDecimals stamp.fraction
  zone : stamp.zone.Shaped

def parts (stamp : Stamp) : Parts :=
  ⟨stamp.date, stamp.clock, stamp.fraction, stamp.zone.written?⟩

end Stamp

theorem date_eq_some_iff :
    matchPattern? "0000-00-00".toList s = some (front, rest) ↔
      (∃ year month day, Spans 4 year ∧ Spans 2 month ∧ Spans 2 day ∧
        front = year ++ '-' :: (month ++ '-' :: day)) ∧ s = front ++ rest := by
  have pattern : "0000-00-00".toList = List.replicate 4 '0' ++ '-' ::
      (List.replicate 2 '0' ++ '-' :: List.replicate 2 '0') := by decide
  rw [matchPattern?_eq_some_iff, pattern, suits_fields_iff (by decide)]

theorem timeOfDay_eq_some_iff :
    matchPattern? "00:00:00".toList s = some (front, rest) ↔
      (∃ hour minute second, Spans 2 hour ∧ Spans 2 minute ∧ Spans 2 second ∧
        front = hour ++ ':' :: (minute ++ ':' :: second)) ∧ s = front ++ rest := by
  have pattern : "00:00:00".toList = List.replicate 2 '0' ++ ':' ::
      (List.replicate 2 '0' ++ ':' :: List.replicate 2 '0') := by decide
  rw [matchPattern?_eq_some_iff, pattern, suits_fields_iff (by decide)]

theorem Stamp.text_append (stamp : Stamp) (ending : List Char) :
    stamp.text ++ ending = stamp.date ++ (stamp.separator :: (stamp.clock ++
      ((if stamp.fraction = [] then [] else '.' :: stamp.fraction) ++
        (stamp.zone.text ++ ending)))) := by
  simp only [Stamp.text, Stamp.fractionText, List.append_assoc, List.cons_append]

/-- What stands behind the letter between date and time of day. -/
def separated? : List Char → Option (List Char)
  | c :: rest => if c = 'T' ∨ c = 't' then some rest else none
  | [] => none

theorem parts?_eq (s : List Char) :
    parts? s = (matchPattern? "0000-00-00".toList s).bind fun date =>
      (separated? date.2).bind fun rest =>
        (matchPattern? "00:00:00".toList rest).bind fun time =>
          (fraction? time.2).bind fun fraction =>
            (zone? fraction.2).bind fun zone => some ⟨date.1, time.1, fraction.1, zone⟩ := by
  unfold parts?
  congr 1
  funext ⟨date, rest⟩
  dsimp only
  split
  · rfl
  · rfl
  · rename_i neither neither'
    cases rest with
    | nil => rfl
    | cons c rest =>
      have other : ¬(c = 'T' ∨ c = 't') := by
        rintro (rfl | rfl)
        · exact neither rest rfl
        · exact neither' rest rfl
      rw [separated?, if_neg other]
      rfl

theorem parts?_eq_some_iff {parts : Parts} :
    parts? s = some parts ↔ ∃ stamp : Stamp, ∃ ending, stamp.Shaped ∧ Trails ending ∧
      s = stamp.text ++ ending ∧ parts = stamp.parts := by
  rw [parts?_eq]
  constructor
  · intro found
    obtain ⟨⟨date, rest⟩, dated, afterDate⟩ := Option.bind_eq_some_iff.1 found
    obtain ⟨behind, separated, afterLetter⟩ := Option.bind_eq_some_iff.1 afterDate
    obtain ⟨⟨time, tail⟩, timed, afterTime⟩ := Option.bind_eq_some_iff.1 afterLetter
    obtain ⟨⟨fraction, tail'⟩, split, afterFraction⟩ := Option.bind_eq_some_iff.1 afterTime
    obtain ⟨kept, read, same⟩ := Option.bind_eq_some_iff.1 afterFraction
    cases same
    obtain ⟨⟨year, month, day, year', month', day', rfl⟩, rfl⟩ := date_eq_some_iff.1 dated
    obtain ⟨separator, letter, rfl⟩ : ∃ c, (c = 'T' ∨ c = 't') ∧ rest = c :: behind := by
      cases rest with
      | nil => cases separated
      | cons c rest =>
        simp only [separated?, Option.ite_none_right_eq_some, Option.some.injEq] at separated
        exact ⟨c, separated.1, by rw [separated.2]⟩
    obtain ⟨⟨hour, minute, second, hour', minute', second', rfl⟩, rfl⟩ :=
      timeOfDay_eq_some_iff.1 timed
    obtain ⟨zone, ending, ⟨decimals, shaped, trails, rfl⟩, rfl⟩ := closes_of_read split read
    let stamp : Stamp := ⟨year, month, day, separator, hour, minute, second, fraction, zone⟩
    exact ⟨stamp, ending, ⟨year', month', day', letter, hour', minute', second', decimals, shaped⟩,
      trails, (stamp.text_append ending).symm, rfl⟩
  · rintro ⟨stamp, ending, shaped, trails, rfl, rfl⟩
    have date (rest : List Char) := date_eq_some_iff.2
      ⟨⟨stamp.year, stamp.month, stamp.day, shaped.year, shaped.month, shaped.day, rfl⟩,
        (rfl : stamp.date ++ rest = stamp.date ++ rest)⟩
    have time (rest : List Char) := timeOfDay_eq_some_iff.2
      ⟨⟨stamp.hour, stamp.minute, stamp.second, shaped.hour, shaped.minute, shaped.second, rfl⟩,
        (rfl : stamp.clock ++ rest = stamp.clock ++ rest)⟩
    obtain ⟨fraction, zone⟩ := Closes.read ⟨shaped.fraction, shaped.zone, trails, rfl⟩
    rw [Stamp.text_append, date, Option.bind_some, separated?, if_pos shaped.separator,
      Option.bind_some, time, Option.bind_some, fraction, Option.bind_some, zone, Option.bind_some]
    rfl

/-! ## Numbers -/

/-- The number that digits of ASCII stand for. -/
def numeral? (digits : List Char) : Option Nat :=
  if AreDigits digits then some (numeral digits) else none

theorem numeral?_eq_some_iff :
    numeral? digits = some n ↔ AreDigits digits ∧ numeral digits = n := by
  rw [numeral?, Option.ite_none_right_eq_some, Option.some.injEq]

theorem foldlM_digits (digits : List Char) (init : Nat) :
    digits.foldlM (fun n c => if isAsciiDigit c then some (n * 10 + (c.toNat - 0x30)) else none)
      init = if AreDigits digits then some (Nat.ofDigitChars 10 digits init) else none := by
  induction digits generalizing init with
  | nil => rfl
  | cons c digits ih =>
    rw [List.foldlM_cons]
    by_cases digit : isAsciiDigit c = true
    · have others : AreDigits (c :: digits) ↔ AreDigits digits := by
        simp only [AreDigits, List.forall_mem_cons, digit, true_and]
      rw [if_pos digit, Option.bind_eq_bind, Option.bind_some, ih, Nat.ofDigitChars_cons,
        Nat.mul_comm 10 init]
      simp only [others]
      rfl
    · have foreign : ¬AreDigits (c :: digits) := fun all => digit (all c List.mem_cons_self)
      rw [if_neg digit, if_neg foreign]
      rfl

/-- The number at a place is that of the digits written there. -/
theorem number?_place (length : digits.length = width) (front behind : List Char) :
    number? (front ++ digits ++ behind) front.length width = numeral? digits := by
  rw [number?, List.append_assoc, List.drop_left, List.take_left' length]
  exact foldlM_digits digits 0

theorem number?_fields {first second third : List Char} {w v u : Nat}
    (hfirst : first.length = w) (hsecond : second.length = v) (hthird : third.length = u)
    (mark again : Char) :
    number? (first ++ mark :: (second ++ again :: third)) 0 w = numeral? first ∧
      number? (first ++ mark :: (second ++ again :: third)) (w + 1) v = numeral? second ∧
      number? (first ++ mark :: (second ++ again :: third)) (w + 1 + v + 1) u =
        numeral? third := by
  have one := number?_place hfirst [] (mark :: (second ++ again :: third))
  have two := number?_place hsecond (first ++ [mark]) (again :: third)
  have three := number?_place hthird (first ++ [mark] ++ second ++ [again]) []
  rw [List.length_append, hfirst] at two
  rw [List.length_append, List.length_append, List.length_append, hfirst, hsecond] at three
  simp only [List.length_nil, List.length_singleton, List.append_assoc, List.cons_append,
    List.nil_append, List.append_nil] at one two three
  exact ⟨one, two, three⟩

/-- The digits of a zone are of ASCII. -/
def Zone.Ascii : Zone → Prop
  | utc _ => True
  | clock _ hours minutes => AreDigits hours ∧ AreDigits minutes

theorem offset?_eq_some_iff {zone : Zone} (shaped : zone.Shaped) {ahead : Int} :
    offset? zone.written? = some ahead ↔ zone.Ascii ∧ ahead = zone.ahead := by
  cases zone with
  | utc letter => simp [Zone.written?, offset?, Zone.Ascii, Zone.ahead, eq_comm]
  | clock behind hours minutes =>
    obtain ⟨hours', minutes'⟩ := shaped
    -- The sign stands where a field before the first mark would stand.
    have nothing : ([] : List Char).length = 0 := rfl
    obtain ⟨-, first, second⟩ := number?_fields nothing hours'.length minutes'.length
      (if behind then '-' else '+') ':'
    simp only [List.nil_append, Nat.zero_add, Nat.reduceAdd] at first second
    simp only [Zone.written?, Zone.text, offset?, first, second, Option.bind_eq_bind,
      Option.bind_eq_some_iff, numeral?_eq_some_iff, Option.pure_def, Option.some.injEq,
      Zone.Ascii, Zone.ahead]
    constructor
    · rintro ⟨_, ⟨ascii, rfl⟩, _, ⟨ascii', rfl⟩, rfl⟩
      exact ⟨⟨ascii, ascii'⟩, by cases behind <;> rfl⟩
    · rintro ⟨⟨ascii, ascii'⟩, rfl⟩
      exact ⟨_, ⟨ascii, rfl⟩, _, ⟨ascii', rfl⟩, by cases behind <;> rfl⟩

namespace Stamp

/-- The digits that are read are of ASCII. -/
structure Ascii (stamp : Stamp) : Prop where
  year : AreDigits stamp.year
  month : AreDigits stamp.month
  day : AreDigits stamp.day
  hour : AreDigits stamp.hour
  minute : AreDigits stamp.minute
  second : AreDigits stamp.second
  fraction : AreDigits (stamp.fraction.take 6)
  zone : stamp.zone.Ascii

/-- The numbers that are read. -/
def read (stamp : Stamp) : Timestamp where
  year := numeral stamp.year
  month := numeral stamp.month
  day := numeral stamp.day
  hour := numeral stamp.hour
  minute := numeral stamp.minute
  second := numeral stamp.second
  microsecond := numeral (microseconds stamp.fraction)
  offset := stamp.zone.ahead

end Stamp

theorem areDigits_microseconds_iff {fraction : List Char} :
    AreDigits (microseconds fraction) ↔ AreDigits (fraction.take 6) := by
  simp only [AreDigits, microseconds, List.forall_mem_append, and_iff_left_iff_imp]
  intro _ c mem
  rw [List.eq_of_mem_replicate mem]
  decide

theorem length_microseconds (fraction : List Char) : (microseconds fraction).length = 6 := by
  simp only [microseconds, List.length_append, List.length_take, List.length_replicate]
  omega

theorem numbers?_eq_some_iff {stamp : Stamp} (shaped : stamp.Shaped) {t : Timestamp} :
    stamp.parts.numbers? = some t ↔ stamp.Ascii ∧ t = stamp.read := by
  obtain ⟨year, month, day⟩ :=
    number?_fields shaped.year.length shaped.month.length shaped.day.length '-' '-'
  obtain ⟨hour, minute, second⟩ :=
    number?_fields shaped.hour.length shaped.minute.length shaped.second.length ':' ':'
  have micro := number?_place (length_microseconds stamp.fraction) [] []
  simp only [Nat.reduceAdd] at month day minute second
  rw [List.nil_append, List.append_nil, List.length_nil] at micro
  simp only [Parts.numbers?, Stamp.parts, Stamp.date, Stamp.clock, year, month, day, hour, minute,
    second, micro, Option.bind_eq_bind, Option.bind_eq_some_iff, numeral?_eq_some_iff,
    offset?_eq_some_iff shaped.zone, Option.pure_def, Option.some.injEq]
  constructor
  · rintro ⟨_, ⟨year', rfl⟩, _, ⟨month', rfl⟩, _, ⟨day', rfl⟩, _, ⟨hour', rfl⟩, _, ⟨minute', rfl⟩,
      _, ⟨second', rfl⟩, _, ⟨fraction', rfl⟩, _, ⟨zone', rfl⟩, rfl⟩
    exact ⟨⟨year', month', day', hour', minute', second', areDigits_microseconds_iff.1 fraction',
      zone'⟩, rfl⟩
  · rintro ⟨⟨year', month', day', hour', minute', second', fraction', zone'⟩, rfl⟩
    exact ⟨_, ⟨year', rfl⟩, _, ⟨month', rfl⟩, _, ⟨day', rfl⟩, _, ⟨hour', rfl⟩, _, ⟨minute', rfl⟩,
      _, ⟨second', rfl⟩, _, ⟨areDigits_microseconds_iff.2 fraction', rfl⟩, _, ⟨zone', rfl⟩, rfl⟩

end LogTail
end EdgeSession
