import EdgeSession.Proofs.LogTail.Stamp

/-!
Every time stamp that RFC 3339 allows is read as the point in time that it writes down, its fraction
of a second cut to microseconds.
-/
namespace EdgeSession.LogTail

open Text

variable {year month day : Nat}

/-! ## Valid stamps -/

namespace Zone

def Valid : Zone → Prop
  | utc letter => letter = 'Z' ∨ letter = 'z'
  | clock _ hours minutes =>
    (Fills 2 hours ∧ numeral hours ≤ 23) ∧ Fills 2 minutes ∧ numeral minutes ≤ 59

instance : (zone : Zone) → Decidable zone.Valid
  | utc letter => inferInstanceAs (Decidable (letter = 'Z' ∨ letter = 'z'))
  | clock _ hours minutes =>
    inferInstanceAs (Decidable ((Fills 2 hours ∧ numeral hours ≤ 23) ∧
      Fills 2 minutes ∧ numeral minutes ≤ 59))

end Zone

def IsLeapYear (year : Nat) : Prop := 4 ∣ year ∧ (100 ∣ year → 400 ∣ year)

/-- The days of the calendar. -/
def IsDate (year month day : Nat) : Prop :=
  1 ≤ month ∧ month ≤ 12 ∧ 1 ≤ day ∧
    (day ≤ 28 ∨ day = 29 ∧ IsLeapYear year ∨ day ≤ 30 ∧ month ≠ 2 ∨
      day = 31 ∧ month ∈ [1, 3, 5, 7, 8, 10, 12])

theorem isDate_iff :
    IsDate year month day ↔ (1 ≤ month ∧ month ≤ 12) ∧ 1 ≤ day ∧ day ≤ daysIn year month := by
  have leap : isLeap year = true ↔ IsLeapYear year := by
    simp only [isLeap, IsLeapYear, Bool.and_eq_true, Bool.or_eq_true, beq_iff_eq, bne_iff_ne,
      Nat.dvd_iff_mod_eq_zero]
    omega
  simp only [IsDate, daysIn, ← leap, List.mem_cons, List.not_mem_nil, or_false, Bool.or_eq_true,
    decide_eq_true_eq]
  by_cases february : month = 2
  · by_cases leapYear : isLeap year = true
    · rw [if_pos february, if_pos leapYear]
      simp only [leapYear, and_true]
      omega
    · rw [if_pos february, if_neg leapYear]
      simp only [leapYear, Bool.false_eq_true, and_false, false_or]
      omega
  · by_cases short : ((month = 4 ∨ month = 6) ∨ month = 9) ∨ month = 11
    · rw [if_neg february, if_pos short]
      omega
    · rw [if_neg february, if_neg short]
      omega

instance : Decidable (IsDate year month day) := decidable_of_iff' _ isDate_iff

namespace Stamp

/-- A day from the year 1 on, and a time of day, without leap seconds. -/
@[mk_iff]
structure Valid (stamp : Stamp) : Prop where
  year : Fills 4 stamp.year
  month : Fills 2 stamp.month
  day : Fills 2 stamp.day
  separator : stamp.separator = 'T' ∨ stamp.separator = 't'
  hour : Fills 2 stamp.hour
  minute : Fills 2 stamp.minute
  second : Fills 2 stamp.second
  fraction : AreDigits stamp.fraction
  zone : stamp.zone.Valid
  era : 1 ≤ numeral stamp.year
  calendar : IsDate (numeral stamp.year) (numeral stamp.month) (numeral stamp.day)
  hour_le : numeral stamp.hour ≤ 23
  minute_le : numeral stamp.minute ≤ 59
  second_le : numeral stamp.second ≤ 59

instance (stamp : Stamp) : Decidable stamp.Valid := decidable_of_iff' _ (valid_iff stamp)

/-- What a stamp writes down, in whole microseconds. -/
def time (stamp : Stamp) : Timestamp where
  year := numeral stamp.year
  month := numeral stamp.month
  day := numeral stamp.day
  hour := numeral stamp.hour
  minute := numeral stamp.minute
  second := numeral stamp.second
  microsecond := numeral stamp.fraction * 10 ^ 6 / 10 ^ stamp.fraction.length
  offset := stamp.zone.ahead

end Stamp

variable {stamp : Stamp} {zone : Zone}

/-! ## Pieces -/

theorem Zone.Valid.shaped (valid : zone.Valid) : zone.Shaped ∧ zone.Ascii := by
  cases zone with
  | utc letter => exact ⟨valid, trivial⟩
  | clock behind hours minutes =>
    obtain ⟨⟨hours', -⟩, minutes', -⟩ := valid
    exact ⟨⟨hours'.spans, minutes'.spans⟩, hours'.ascii, minutes'.ascii⟩

theorem Stamp.Valid.shaped (valid : stamp.Valid) : stamp.Shaped where
  year := valid.year.spans
  month := valid.month.spans
  day := valid.day.spans
  separator := valid.separator
  hour := valid.hour.spans
  minute := valid.minute.spans
  second := valid.second.spans
  fraction := valid.fraction.decimals
  zone := valid.zone.shaped.1

theorem Stamp.Valid.ascii (valid : stamp.Valid) : stamp.Ascii where
  year := valid.year.ascii
  month := valid.month.ascii
  day := valid.day.ascii
  hour := valid.hour.ascii
  minute := valid.minute.ascii
  second := valid.second.ascii
  fraction := fun c mem => valid.fraction c (List.mem_of_mem_take mem)
  zone := valid.zone.shaped.2

theorem parts?_text (valid : stamp.Valid) :
    parts? stamp.text = some ⟨stamp.date, stamp.clock, stamp.fraction, stamp.zone.written?⟩ :=
  parts?_eq_some_iff.2 ⟨stamp, [], valid.shaped, .inl rfl, (List.append_nil _).symm, rfl⟩

/-! ## Numbers -/

/-- Cutting a fraction off behind six digits, or filling it up to six, makes it whole microseconds,
rounded down. -/
theorem numeral_microseconds {fraction : List Char} (ascii : AreDigits fraction) :
    numeral (microseconds fraction) = numeral fraction * 10 ^ 6 / 10 ^ fraction.length := by
  have positive (n : Nat) : 0 < 10 ^ n := Nat.pow_pos (by decide)
  rw [microseconds, numeral_append, numeral_zeros, List.length_replicate, Nat.add_zero]
  by_cases short : fraction.length ≤ 6
  · have split : 10 ^ 6 = 10 ^ (6 - fraction.length) * 10 ^ fraction.length := by
      rw [← Nat.pow_add, Nat.sub_add_cancel short]
    rw [List.take_of_length_le short, split, ← Nat.mul_assoc, Nat.mul_div_cancel _ (positive _),
      Nat.mul_comm]
  · have front : (fraction.take 6).length = 6 := by
      rw [List.length_take]
      omega
    have back : fraction.length = 6 + (fraction.drop 6).length := by
      rw [List.length_drop]
      omega
    have rest : numeral (fraction.drop 6) < 10 ^ (fraction.drop 6).length :=
      numeral_lt fun c mem => ascii c (List.mem_of_mem_drop mem)
    have whole := numeral_append (fraction.take 6) (fraction.drop 6)
    rw [List.take_append_drop] at whole
    rw [front, Nat.sub_self, Nat.pow_zero, Nat.one_mul, back, Nat.pow_add,
      Nat.mul_comm (numeral fraction), Nat.mul_div_mul_left _ _ (positive 6), whole,
      Nat.mul_add_div (positive _), Nat.div_eq_of_lt rest, Nat.add_zero]

theorem read_eq_time (valid : stamp.Valid) : stamp.read = stamp.time := by
  rw [Stamp.read, numeral_microseconds valid.fraction]
  rfl

theorem numbers?_parts (valid : stamp.Valid) :
    Parts.numbers? ⟨stamp.date, stamp.clock, stamp.fraction, stamp.zone.written?⟩ =
      some stamp.time :=
  (numbers?_eq_some_iff valid.shaped).2 ⟨valid.ascii, (read_eq_time valid).symm⟩

/-! ## Times -/

theorem ahead_within (valid : zone.Valid) : -1440 < zone.ahead ∧ zone.ahead < 1440 := by
  cases zone with
  | utc letter => simp [Zone.ahead]
  | clock behind hours minutes =>
    obtain ⟨⟨-, hours'⟩, -, minutes'⟩ := valid
    simp only [Zone.ahead]
    split <;> omega

theorem check_eq_ok {t : Timestamp} (offset : -1440 < t.offset ∧ t.offset < 1440)
    (era : 1 ≤ t.year) (date : IsDate t.year t.month t.day) (hour : t.hour ≤ 23)
    (minute : t.minute ≤ 59) (second : t.second ≤ 59) : t.check = .ok t := by
  obtain ⟨months, days⟩ := isDate_iff.mp date
  simp only [Timestamp.check, Bool.or_eq_true, decide_eq_true_eq]
  rw [if_neg (by omega), if_neg (by omega), if_neg (by omega), if_neg (by omega), if_neg (by omega),
    if_neg (by omega), if_neg (by omega)]

/-- **A valid stamp is read as the point in time that it writes down.** -/
theorem stamps_read (stamp : Stamp) (valid : stamp.Valid) :
    Timestamp.parse stamp.text = .ok stamp.time := by
  simp only [Timestamp.parse, parts?_text valid, numbers?_parts valid]
  exact check_eq_ok (ahead_within valid.zone) valid.era valid.calendar valid.hour_le
    valid.minute_le valid.second_le

/-- The last second of a leap day, with more digits than are kept. -/
theorem stamps_read_leap :
    ∃ stamp : Stamp, stamp.Valid ∧ stamp.text = "2000-02-29t23:59:59.1234569-23:59".toList ∧
      Timestamp.parse stamp.text = .ok ⟨2000, 2, 29, 23, 59, 59, 123456, -1439⟩ := by
  have valid : Stamp.Valid ⟨"2000".toList, "02".toList, "29".toList, 't', "23".toList, "59".toList,
      "59".toList, "1234569".toList, .clock true "23".toList "59".toList⟩ := by decide
  exact ⟨_, valid, by decide, (stamps_read _ valid).trans (congrArg Except.ok (by decide))⟩

end EdgeSession.LogTail
