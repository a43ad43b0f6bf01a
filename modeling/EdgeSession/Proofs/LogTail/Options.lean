import EdgeSession.LogTail.Options
import EdgeSession.Proofs.Except
import EdgeSession.Proofs.LogTail.Timestamp

/-!
Which log options are let through, and which of the times let through are no time stamps of
RFC 3339: a line feed may stand behind them, the digits of a fraction from the seventh on may be of
any script, and the minutes of an offset may go beyond the hour.
-/
namespace EdgeSession.LogTail

open Text

variable {s : List Char}

/-! ## What is taken for a time -/

namespace Zone

/-- A zone whose digits are of ASCII, less than a day from UTC. -/
def Taken : Zone → Prop
  | utc letter => letter = 'Z' ∨ letter = 'z'
  | clock _ hours minutes =>
    Fills 2 hours ∧ Fills 2 minutes ∧ numeral hours * 60 + numeral minutes < 1440

instance : (zone : Zone) → Decidable zone.Taken
  | utc letter => inferInstanceAs (Decidable (letter = 'Z' ∨ letter = 'z'))
  | clock _ hours minutes => inferInstanceAs (Decidable (Fills 2 hours ∧ Fills 2 minutes ∧
      numeral hours * 60 + numeral minutes < 1440))

theorem taken_iff {zone : Zone} :
    zone.Taken ↔ zone.Shaped ∧ zone.Ascii ∧ -1440 < zone.ahead ∧ zone.ahead < 1440 := by
  cases zone with
  | utc letter => simp [Taken, Shaped, Ascii, ahead]
  | clock behind hours minutes =>
    constructor
    · rintro ⟨hours', minutes', within⟩
      refine ⟨⟨hours'.spans, minutes'.spans⟩, ⟨hours'.ascii, minutes'.ascii⟩, ?_⟩
      simp only [ahead]
      split <;> omega
    · rintro ⟨⟨hours', minutes'⟩, ⟨ascii, ascii'⟩, within⟩
      refine ⟨⟨ascii, hours'.length⟩, ⟨ascii', minutes'.length⟩, ?_⟩
      simp only [ahead] at within
      split at within <;> omega

end Zone

theorem check_eq_ok_iff {t t' : Timestamp} :
    t.check = .ok t' ↔ t' = t ∧ (-1440 < t.offset ∧ t.offset < 1440) ∧ 1 ≤ t.year ∧
      IsDate t.year t.month t.day ∧ t.hour ≤ 23 ∧ t.minute ≤ 59 ∧ t.second ≤ 59 := by
  constructor
  · intro checked
    simp only [Timestamp.check, Bool.or_eq_true, decide_eq_true_eq] at checked
    rw [isDate_iff]
    repeat' split at checked
    all_goals cases checked
    refine ⟨rfl, ?_⟩
    omega
  · rintro ⟨rfl, offset, era, date, hour, minute, second⟩
    exact check_eq_ok offset era date hour minute second

/-- What a stamp has to be to be taken for a time. -/
@[mk_iff]
structure Stamp.Taken (stamp : Stamp) : Prop where
  year : Fills 4 stamp.year
  month : Fills 2 stamp.month
  day : Fills 2 stamp.day
  separator : stamp.separator = 'T' ∨ stamp.separator = 't'
  hour : Fills 2 stamp.hour
  minute : Fills 2 stamp.minute
  second : Fills 2 stamp.second
  /-- Digits that are cut off may be of any script. -/
  fraction : AreDecimals stamp.fraction
  kept : AreDigits (stamp.fraction.take 6)
  zone : stamp.zone.Taken
  era : 1 ≤ numeral stamp.year
  calendar : IsDate (numeral stamp.year) (numeral stamp.month) (numeral stamp.day)
  hour_le : numeral stamp.hour ≤ 23
  minute_le : numeral stamp.minute ≤ 59
  second_le : numeral stamp.second ≤ 59

instance (stamp : Stamp) : Decidable stamp.Taken := decidable_of_iff' _ (Stamp.taken_iff stamp)

theorem Stamp.Taken.shaped {stamp : Stamp} (taken : stamp.Taken) : stamp.Shaped where
  year := taken.year.spans
  month := taken.month.spans
  day := taken.day.spans
  separator := taken.separator
  hour := taken.hour.spans
  minute := taken.minute.spans
  second := taken.second.spans
  fraction := taken.fraction
  zone := (Zone.taken_iff.1 taken.zone).1

/-- A stamp is taken for a time if its digits are in place and of ASCII, and the numbers that they
stand for pass. -/
theorem Stamp.taken_iff_check {stamp : Stamp} :
    stamp.Taken ↔ stamp.Shaped ∧ stamp.Ascii ∧ stamp.read.check = .ok stamp.read := by
  rw [check_eq_ok_iff]
  constructor
  · intro taken
    have zone := (Zone.taken_iff.1 taken.zone).2
    exact ⟨taken.shaped,
      ⟨taken.year.ascii, taken.month.ascii, taken.day.ascii, taken.hour.ascii, taken.minute.ascii,
        taken.second.ascii, taken.kept, zone.1⟩,
      rfl, zone.2, taken.era, taken.calendar, taken.hour_le, taken.minute_le, taken.second_le⟩
  · rintro ⟨shaped, ascii, -, within, era, calendar, hour, minute, second⟩
    exact {
      year := ⟨ascii.year, shaped.year.length⟩
      month := ⟨ascii.month, shaped.month.length⟩
      day := ⟨ascii.day, shaped.day.length⟩
      separator := shaped.separator
      hour := ⟨ascii.hour, shaped.hour.length⟩
      minute := ⟨ascii.minute, shaped.minute.length⟩
      second := ⟨ascii.second, shaped.second.length⟩
      fraction := shaped.fraction
      kept := ascii.fraction
      zone := Zone.taken_iff.2 ⟨shaped.zone, ascii.zone, within⟩
      era := era
      calendar := calendar
      hour_le := hour
      minute_le := minute
      second_le := second }

/-- A text that is taken for a time: a stamp, and what stands behind it. -/
structure Admitted where
  stamp : Stamp
  ending : List Char
  taken : stamp.Taken
  trails : Trails ending

def Admitted.text (admitted : Admitted) : List Char := admitted.stamp.text ++ admitted.ending

theorem Admitted.parts?_eq (admitted : Admitted) :
    parts? admitted.text = some admitted.stamp.parts :=
  parts?_eq_some_iff.2
    ⟨admitted.stamp, admitted.ending, admitted.taken.shaped, admitted.trails, rfl, rfl⟩

theorem parse_eq_ok_iff {t : Timestamp} :
    Timestamp.parse s = .ok t ↔ ∃ admitted : Admitted, s = admitted.text ∧
      t = admitted.stamp.read := by
  constructor
  · intro found
    rw [Timestamp.parse] at found
    split at found
    · cases found
    · rename_i split
      obtain ⟨stamp, ending, shaped, trails, rfl, rfl⟩ := parts?_eq_some_iff.1 split
      split at found
      · cases found
      · rename_i numbers
        obtain ⟨ascii, rfl⟩ := (numbers?_eq_some_iff shaped).1 numbers
        obtain ⟨rfl, -⟩ := check_eq_ok_iff.1 found
        exact ⟨⟨stamp, ending, Stamp.taken_iff_check.2 ⟨shaped, ascii, found⟩, trails⟩, rfl, rfl⟩
  · rintro ⟨admitted, rfl, rfl⟩
    obtain ⟨shaped, ascii, checked⟩ := Stamp.taken_iff_check.1 admitted.taken
    have numbers := (numbers?_eq_some_iff shaped).2 ⟨ascii, rfl⟩
    simp only [Timestamp.parse, admitted.parts?_eq, numbers, checked]

/-! ## Stamps of RFC 3339 among those that are taken -/

/-- A time stamp of RFC 3339, and nothing before it or behind. -/
def IsStamp (s : List Char) : Prop := ∃ stamp : Stamp, stamp.Valid ∧ s = stamp.text

def Zone.InHour : Zone → Prop
  | utc _ => True
  | clock _ _ minutes => numeral minutes ≤ 59

instance : (zone : Zone) → Decidable zone.InHour
  | .utc _ => inferInstanceAs (Decidable True)
  | .clock _ _ minutes => inferInstanceAs (Decidable (numeral minutes ≤ 59))

theorem Zone.valid_iff {zone : Zone} : zone.Valid ↔ zone.Taken ∧ zone.InHour := by
  cases zone with
  | utc letter => simp [Valid, Taken, InHour]
  | clock behind hours minutes =>
    constructor
    · rintro ⟨⟨hours', early⟩, minutes', within⟩
      exact ⟨⟨hours', minutes', by omega⟩, within⟩
    · rintro ⟨⟨hours', minutes', early⟩, within⟩
      exact ⟨⟨hours', by omega⟩, minutes', within⟩

/-- A stamp that is taken for a time is valid if the digits of its fraction are of ASCII and the
minutes of its zone within the hour. -/
theorem Stamp.valid_iff_taken {stamp : Stamp} :
    stamp.Valid ↔ stamp.Taken ∧ AreDigits stamp.fraction ∧ stamp.zone.InHour := by
  constructor
  · intro valid
    obtain ⟨zone, inHour⟩ := Zone.valid_iff.1 valid.zone
    refine ⟨?_, valid.fraction, inHour⟩
    exact { valid with
      fraction := valid.fraction.decimals
      kept := fun c mem => valid.fraction c (List.mem_of_mem_take mem)
      zone := zone }
  · rintro ⟨taken, fraction, inHour⟩
    exact { taken with
      fraction := fraction
      zone := Zone.valid_iff.2 ⟨taken.zone, inHour⟩ }

theorem Zone.same_text {zone other : Zone} (shaped : zone.Shaped) (shaped' : other.Shaped)
    (same : zone.written? = other.written?) :
    zone.text.length = other.text.length ∧ (other.InHour → zone.InHour) := by
  cases zone with
  | utc letter =>
    cases other with
    | utc letter' => exact ⟨rfl, id⟩
    | clock => cases same
  | clock behind hours minutes =>
    cases other with
    | utc => cases same
    | clock behind' hours' minutes' =>
      have text := Option.some.inj same
      refine ⟨congrArg List.length text, fun inHour => ?_⟩
      have length : hours.length = hours'.length := shaped.1.length.trans shaped'.1.length.symm
      obtain ⟨-, rest⟩ := List.append_inj (List.cons.inj text).2 length
      rwa [InHour, (List.cons.inj rest).2]

/-- Of what is taken for a time this much is a time stamp. -/
theorem isStamp_iff (admitted : Admitted) :
    IsStamp admitted.text ↔ admitted.ending = [] ∧ AreDigits admitted.stamp.fraction ∧
      admitted.stamp.zone.InHour := by
  constructor
  · rintro ⟨other, valid, same⟩
    obtain ⟨taken, fraction, inHour⟩ := Stamp.valid_iff_taken.1 valid
    -- Both stamps write the same text, from which the same parts are read. These leave out the
    -- letters and what stands behind the zone, so the texts are compared by their lengths.
    have parts : admitted.stamp.parts = other.parts := by
      have whole : admitted.text = (⟨other, [], taken, .inl rfl⟩ : Admitted).text := by
        rw [same, Admitted.text, List.append_nil]
      exact Option.some.inj ((whole ▸ admitted.parts?_eq).symm.trans (Admitted.parts?_eq _))
    obtain ⟨date, clock, fractions, zones⟩ := Parts.mk.inj parts
    obtain ⟨width, hours⟩ := Zone.same_text admitted.taken.shaped.zone taken.shaped.zone zones
    refine ⟨List.eq_nil_of_length_eq_zero ?_, fractions ▸ fraction, hours inHour⟩
    have lengths := congrArg List.length same
    simp only [Admitted.text, Stamp.text, Stamp.fractionText, date, clock, fractions,
      List.length_append, List.length_cons, width] at lengths
    omega
  · rintro ⟨none, fraction, inHour⟩
    refine ⟨admitted.stamp, Stamp.valid_iff_taken.2 ⟨admitted.taken, fraction, inHour⟩, ?_⟩
    rw [Admitted.text, none, List.append_nil]

/-! ## Options -/

/-- A time that is let through: none, or a text that is taken for one. -/
def LetThrough (time : String) : Prop :=
  time = "" ∨ ∃ admitted : Admitted, time.toList = admitted.text

theorem checkTime_eq_ok_iff (name : String) {value : String} :
    checkTime name value = .ok () ↔ LetThrough value := by
  have read : (∃ t, Timestamp.parse value.toList = .ok t) ↔
      ∃ admitted : Admitted, value.toList = admitted.text := by
    simp only [parse_eq_ok_iff]
    exact ⟨fun ⟨_, admitted, same, _⟩ => ⟨admitted, same⟩, fun ⟨admitted, same⟩ =>
      ⟨_, admitted, same, rfl⟩⟩
  rw [checkTime, LetThrough, ← read]
  split
  · simp [*]
  · cases Timestamp.parse value.toList <;> simp [*]

/-- **What validation lets through.** Options pass if the number of lines is within its bounds and
each time that is given is taken for one. Of what is taken for a time, a text is no time stamp of
RFC 3339 if a line feed stands behind it, its fraction has digits of another script, or its offset
has more than 59 minutes. -/
theorem options_let_through (o : Options) :
    (o.check = .ok () ↔
      (1 ≤ o.tail ∧ o.tail ≤ 10000) ∧ LetThrough o.since ∧ LetThrough o.upTo) ∧
    ∀ admitted : Admitted, IsStamp admitted.text ↔
      admitted.ending = [] ∧ AreDigits admitted.stamp.fraction ∧ admitted.stamp.zone.InHour := by
  refine ⟨?_, isStamp_iff⟩
  have range : (o.tail < minTail || maxTail < o.tail) = true ↔ ¬(1 ≤ o.tail ∧ o.tail ≤ 10000) := by
    rw [Bool.or_eq_true, decide_eq_true_eq, decide_eq_true_eq, minTail, maxTail]
    omega
  rw [Options.check]
  split
  · rename_i outside
    exact iff_of_false nofun fun all => range.1 outside all.1
  · rename_i within
    rw [bind_eq_ok, ← checkTime_eq_ok_iff "since", ← checkTime_eq_ok_iff "until"]
    have within := not_not.1 (mt range.2 within)
    constructor
    · rintro ⟨⟨⟩, since, upTo⟩
      exact ⟨within, since, upTo⟩
    · rintro ⟨-, since, upTo⟩
      exact ⟨(), since, upTo⟩

/-- A line feed at the end, a digit of another script behind the sixth of a fraction and an offset
of 99 minutes are let through. -/
theorem no_stamps_let_through :
    let feed := "2024-01-01T00:00:00Z\n"
    let script := "2024-01-01T00:00:00.123456\u0667Z"
    let minutes := "2024-01-01T00:00:00+00:99"
    (({ since := feed } : Options).check = .ok () ∧ ¬IsStamp feed.toList) ∧
      (({ since := script } : Options).check = .ok () ∧ ¬IsStamp script.toList) ∧
      ({ since := minutes } : Options).check = .ok () ∧ ¬IsStamp minutes.toList := by
  intro feed script minutes
  let stamp (fraction : List Char) (zone : Zone) : Stamp :=
    ⟨"2024".toList, "01".toList, "01".toList, 'T', "00".toList, "00".toList, "00".toList, fraction,
      zone⟩
  have behind : ¬IsStamp "2024-01-01T00:00:00Z\n".toList :=
    mt (isStamp_iff ⟨stamp [] (.utc 'Z'), ['\n'], by decide, .inr rfl⟩).1 (by decide)
  have foreign : ¬IsStamp "2024-01-01T00:00:00.123456\u0667Z".toList :=
    mt (isStamp_iff ⟨stamp "123456\u0667".toList (.utc 'Z'), [], by decide, .inl rfl⟩).1 (by decide)
  have beyond : ¬IsStamp "2024-01-01T00:00:00+00:99".toList :=
    mt (isStamp_iff
      ⟨stamp [] (.clock false "00".toList "99".toList), [], by decide, .inl rfl⟩).1 (by decide)
  exact ⟨⟨by decide, behind⟩, ⟨by decide, foreign⟩, by decide, beyond⟩

end EdgeSession.LogTail
