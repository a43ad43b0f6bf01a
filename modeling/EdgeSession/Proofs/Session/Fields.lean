import EdgeSession.Proofs.Pack.Forms
import EdgeSession.Proofs.Pack.Maps
import EdgeSession.Session.Frame

/-!
The fields of a message in a map: what stands for each of them, and that the reader of a frame takes
just that. Reading judges the fields in a fixed order, so which fault it reports is settled too.
-/
namespace EdgeSession.Frame

open Pack

/-! ## What stands for a field -/

/-- A type may be missing. -/
inductive TypeForm : Option Value → Int → Prop
  | absent : TypeForm none 0
  | int (n : Int) : TypeForm (some (.int n)) n

/-- A payload may be missing, nil, binary, or a text, which stands for its UTF-8 bytes. -/
inductive DataForm : Option Value → Bytes → Prop
  | absent : DataForm none []
  | nil : DataForm (some .nil) []
  | str (s : List Char) : DataForm (some (.str s)) (Utf8.encodeChars s)
  | bin (data : Bytes) : DataForm (some (.bin data)) data

/-- An id may be missing, nil, a text, or binary, which is read as UTF-8 with U+FFFD for what is
not. -/
inductive IdForm : Option Value → String → Prop
  | absent : IdForm none ""
  | nil : IdForm (some .nil) ""
  | str (s : List Char) : IdForm (some (.str s)) (String.ofList s)
  | bin (data : Bytes) : IdForm (some (.bin data)) (String.ofList (Utf8.decodeLossy data))

/-- A time may be missing or nil. -/
inductive TimeForm : Option Value → Int → Prop
  | absent : TimeForm none 0
  | nil : TimeForm (some .nil) 0
  | int (n : Int) : TimeForm (some (.int n)) n

/-- Values of other kinds that count as absent. -/
inductive Blank : Value → Prop
  | no : Blank (.bool false)
  | zero {x : Binary64} (h : x.isZero = true) : Blank (.real x)
  | str : Blank (.str [])
  | bin : Blank (.bin [])
  | arr : Blank (.arr [])
  | map : Blank (.map [])

/-- Such a value is read as a time of 0. -/
inductive BlankForm : Option Value → Int → Prop
  | blank {value : Value} (h : Blank value) : BlankForm (some value) 0

/-- What is read as a time. -/
def TimeRead (value : Option Value) (time : Int) : Prop :=
  TimeForm value time ∨ BlankForm value time

/-- The numbers of the ten kinds of message. -/
def Known (type : Int) : Prop := 0 ≤ type ∧ type ≤ 9

instance (type : Int) : Decidable (Known type) := inferInstanceAs (Decidable (_ ∧ _))

theorem ofCode?_isSome_iff {n : Int} : (Kind.ofCode? n).isSome = true ↔ Known n := by
  simp only [Kind.ofCode?, List.find?_isSome, Kind.all, Known, beq_iff_eq]
  constructor
  · rintro ⟨k, -, rfl⟩
    cases k <;> decide
  · rintro ⟨lo, hi⟩
    have ten : n = 0 ∨ n = 1 ∨ n = 2 ∨ n = 3 ∨ n = 4 ∨ n = 5 ∨ n = 6 ∨ n = 7 ∨ n = 8 ∨ n = 9 := by
      omega
    rcases ten with rfl | rfl | rfl | rfl | rfl | rfl | rfl | rfl | rfl | rfl <;> decide

/-! ## One reader for each field -/

section
variable {fields : List (Value × Value)}

theorem readType_ok {n : Int} :
    readType fields = .ok n ↔ TypeForm (Value.lookup (.str Field.type) fields) n ∧ Known n := by
  simp only [readType]
  constructor
  · intro h
    split at h
    · rename_i hl
      cases h
      rw [hl]
      exact ⟨.absent, by decide⟩
    · rename_i n' hl
      split at h
      · rename_i known
        cases h
        rw [hl]
        exact ⟨.int n, ofCode?_isSome_iff.1 known⟩
      · cases h
    · cases h
  · rintro ⟨form, known⟩
    generalize Value.lookup (.str Field.type) fields = v at form
    cases form with
    | absent => rfl
    | int =>
      simp only []
      rw [if_pos (ofCode?_isSome_iff.2 known)]

/-- A payload within the limit, or the report of one that is not. -/
def checkedData (data : Bytes) : Except DecodeFault Bytes :=
  if data.length > maxPayload then .error (.oversized data.length) else .ok data

theorem readData_of_form {data : Bytes}
    (h : DataForm (Value.lookup (.str Field.data) fields) data) :
    readData fields = checkedData data := by
  simp only [readData]
  generalize Value.lookup (.str Field.data) fields = v at h
  cases h <;> rfl

theorem readData_no_form (h : ∀ data, ¬DataForm (Value.lookup (.str Field.data) fields) data) :
    ∃ kind, readData fields = .error (.invalidData kind) := by
  simp only [readData]
  generalize Value.lookup (.str Field.data) fields = v at h
  split
  · exact absurd .absent (h _)
  · exact absurd .nil (h _)
  · exact absurd (.str _) (h _)
  · exact absurd (.bin _) (h _)
  · exact ⟨_, rfl⟩

theorem DataForm.unique {v : Option Value} {a b : Bytes} (ha : DataForm v a) (hb : DataForm v b) :
    a = b := by
  cases ha <;> cases hb <;> rfl

theorem readData_ok {data : Bytes} :
    readData fields = .ok data ↔
      DataForm (Value.lookup (.str Field.data) fields) data ∧ data.length ≤ maxPayload := by
  by_cases form : ∃ d, DataForm (Value.lookup (.str Field.data) fields) d
  · obtain ⟨d, form⟩ := form
    rw [readData_of_form form, checkedData]
    split
    · rename_i long
      refine ⟨nofun, fun ⟨other, short⟩ => ?_⟩
      cases form.unique other
      omega
    · rename_i short
      constructor
      · intro h
        cases h
        exact ⟨form, by omega⟩
      · rintro ⟨other, -⟩
        rw [form.unique other]
  · have no := not_exists.1 form
    obtain ⟨kind, he⟩ := readData_no_form no
    rw [he]
    exact ⟨nofun, fun h => absurd h.1 (no data)⟩

theorem readData_oversized {n : Nat} :
    readData fields = .error (.oversized n) ↔
      ∃ data, DataForm (Value.lookup (.str Field.data) fields) data ∧
        maxPayload < data.length ∧ n = data.length := by
  by_cases form : ∃ d, DataForm (Value.lookup (.str Field.data) fields) d
  · obtain ⟨d, form⟩ := form
    rw [readData_of_form form, checkedData]
    split
    · rename_i long
      constructor
      · intro h
        cases h
        exact ⟨d, form, long, rfl⟩
      · rintro ⟨other, hf, -, rfl⟩
        rw [form.unique hf]
    · rename_i short
      refine ⟨nofun, fun ⟨other, hf, long, _⟩ => ?_⟩
      cases form.unique hf
      omega
  · have no := not_exists.1 form
    obtain ⟨kind, he⟩ := readData_no_form no
    rw [he]
    exact ⟨nofun, fun ⟨d, hf, _⟩ => absurd hf (no d)⟩

theorem falsy_iff {value : Value} :
    value.isTruthy = false ↔ value = .nil ∨ value = .int 0 ∨ Blank value := by
  constructor
  · intro h
    cases value with
    | nil => exact .inl rfl
    | bool b =>
      cases h
      exact .inr (.inr .no)
    | int n =>
      obtain rfl : n = 0 := by simpa [Value.isTruthy] using h
      exact .inr (.inl rfl)
    | real x => exact .inr (.inr (.zero (by simpa [Value.isTruthy] using h)))
    | str s =>
      obtain rfl : s = [] := by simpa [Value.isTruthy] using h
      exact .inr (.inr .str)
    | bin data =>
      obtain rfl : data = [] := by simpa [Value.isTruthy] using h
      exact .inr (.inr .bin)
    | arr items =>
      obtain rfl : items = [] := by simpa [Value.isTruthy] using h
      exact .inr (.inr .arr)
    | map pairs =>
      obtain rfl : pairs = [] := by simpa [Value.isTruthy] using h
      exact .inr (.inr .map)
    | ext | timestamp => cases h
  · rintro (rfl | rfl | blank)
    · rfl
    · rfl
    · cases blank with
      | zero h => simp [Value.isTruthy, h]
      | _ => rfl

theorem readTimestamp_ok {n : Int} :
    readTimestamp fields = .ok n ↔
      TimeRead (Value.lookup (.str Field.timestamp) fields) n := by
  simp only [readTimestamp, TimeRead]
  generalize Value.lookup (.str Field.timestamp) fields = v
  constructor
  · intro h
    split at h
    · cases h
      exact .inl .absent
    · rename_i value
      split at h
      · split at h
        · cases h
          exact .inl (.int n)
        · cases h
      · rename_i falsy
        cases h
        rcases falsy_iff.1 (Bool.not_eq_true _ ▸ falsy) with rfl | rfl | blank
        · exact .inl .nil
        · exact .inl (.int 0)
        · exact .inr (.blank blank)
  · rintro (form | form)
    · cases form with
      | absent => rfl
      | nil => rfl
      | int =>
        by_cases zero : n = 0
        · subst zero
          rfl
        · simp [Value.isTruthy, zero]
    · cases form with
      | blank h =>
        simp only []
        rw [if_neg (by simp [falsy_iff.2 (.inr (.inr h))])]

theorem readId_ok {field : List Char} {id : String} :
    readId field fields = .ok id ↔ IdForm (Value.lookup (.str field) fields) id := by
  simp only [readId]
  generalize Value.lookup (.str field) fields = v
  constructor
  · intro h
    split at h
    · cases h
      exact .absent
    · cases h
      exact .nil
    · cases h
      exact .str _
    · cases h
      exact .bin _
    · cases h
  · intro form
    cases form <;> rfl

/-! ## Only the payload is ever too large -/

theorem readType_ne_oversized {n : Nat} : readType fields ≠ .error (.oversized n) := by
  simp only [readType]
  split
  · nofun
  · split <;> nofun
  · nofun

theorem readTimestamp_ne_oversized {n : Nat} : readTimestamp fields ≠ .error (.oversized n) := by
  simp only [readTimestamp]
  split
  · nofun
  · split
    · split <;> nofun
    · nofun

theorem readId_ne_oversized {field : List Char} {n : Nat} :
    readId field fields ≠ .error (.oversized n) := by
  simp only [readId]
  split <;> nofun

end

/-! ## Whole frames -/

section
variable {Time : Option Value → Int → Prop} {pairs : List (Value × Value)} {frame : Bytes}
variable {m : Message}

/-- What the pairs of a map say a message is, the last pair for each name deciding. `Time` says what
may stand for the time. -/
structure Carries (Time : Option Value → Int → Prop) (pairs : List (Value × Value)) (m : Message) :
    Prop where
  type : TypeForm (lastValue? (.str Field.type) pairs) m.type
  data : DataForm (lastValue? (.str Field.data) pairs) m.data
  target : IdForm (lastValue? (.str Field.target) pairs) m.target
  session : IdForm (lastValue? (.str Field.session) pairs) m.session
  timestamp : Time (lastValue? (.str Field.timestamp) pairs) m.timestamp

theorem Carries.mono {Other : Option Value → Int → Prop} (h : Carries Time pairs m)
    (weaker : ∀ value time, Time value time → Other value time) : Carries Other pairs m :=
  { h with timestamp := weaker _ _ h.timestamp }

/-- The fields of a map, judged in order. -/
def readFields (fields : List (Value × Value)) : Except DecodeFault Message := do
  let type ← readType fields
  let data ← readData fields
  let timestamp ← readTimestamp fields
  let target ← readId Field.target fields
  let session ← readId Field.session fields
  return { type, data, target, session, timestamp }

theorem decode_mapText (h : MapText pairs frame) :
    decode frame = readFields (merged pairs) := by
  simp only [decode, unpack_mapText h, mapOf_eq]
  rfl

/-- A frame is one map, or refused as what it is. -/
theorem decode_cases (frame : Bytes) :
    (∃ pairs, MapText pairs frame) ∨ (∃ fault, decode frame = .error (.malformed fault)) ∨
      ∃ kind, decode frame = .error (.notMap kind) := by
  cases hu : unpack frame with
  | error fault => exact .inr (.inl ⟨fault, by simp only [decode, hu]⟩)
  | ok value =>
    cases value with
    | map fields =>
      obtain ⟨pairs, text, -⟩ := mapText_of_unpack hu
      exact .inl ⟨pairs, text⟩
    | _ => exact .inr (.inr ⟨_, by simp only [decode, hu]; rfl⟩)

theorem readFields_ok {fields : List (Value × Value)} {m : Message} :
    readFields fields = .ok m ↔
      readType fields = .ok m.type ∧ readData fields = .ok m.data ∧
      readTimestamp fields = .ok m.timestamp ∧ readId Field.target fields = .ok m.target ∧
      readId Field.session fields = .ok m.session := by
  simp only [readFields, bind_eq_ok]
  constructor
  · rintro ⟨type, ht, data, hd, timestamp, hs, target, hg, session, hi, h⟩
    cases h
    exact ⟨ht, hd, hs, hg, hi⟩
  · rintro ⟨ht, hd, hs, hg, hi⟩
    exact ⟨_, ht, _, hd, _, hs, _, hg, _, hi, rfl⟩

theorem readFields_oversized {fields : List (Value × Value)} {n : Nat} :
    readFields fields = .error (.oversized n) ↔
      (∃ type, readType fields = .ok type) ∧ readData fields = .error (.oversized n) := by
  simp only [readFields, bind_eq_error]
  constructor
  · rintro (h | ⟨type, ht, h | ⟨data, hd, h | ⟨timestamp, hs, h | ⟨target, hg, h | ⟨_, _, h⟩⟩⟩⟩⟩)
    · exact absurd h readType_ne_oversized
    · exact ⟨⟨type, ht⟩, h⟩
    · exact absurd h readTimestamp_ne_oversized
    · exact absurd h readId_ne_oversized
    · exact absurd h readId_ne_oversized
    · cases h
  · rintro ⟨⟨type, ht⟩, hd⟩
    exact .inr ⟨type, ht, .inl hd⟩

theorem readFields_merged_ok :
    readFields (merged pairs) = .ok m ↔
      Carries TimeRead pairs m ∧ Known m.type ∧ m.data.length ≤ maxPayload := by
  rw [readFields_ok, readType_ok, readData_ok, readTimestamp_ok, readId_ok, readId_ok]
  simp only [lookup_merged]
  constructor
  · rintro ⟨⟨type, known⟩, ⟨data, short⟩, timestamp, target, session⟩
    exact ⟨⟨type, data, target, session, timestamp⟩, known, short⟩
  · rintro ⟨c, known, short⟩
    exact ⟨⟨c.type, known⟩, ⟨c.data, short⟩, c.timestamp, c.target, c.session⟩

/-- **A frame is read as a message exactly when it is one map that carries it**, under a known type
and within the limit. -/
theorem decode_ok_iff :
    decode frame = .ok m ↔ ∃ pairs, MapText pairs frame ∧
      Carries TimeRead pairs m ∧ Known m.type ∧ m.data.length ≤ maxPayload := by
  constructor
  · intro h
    obtain ⟨pairs, text⟩ | ⟨fault, he⟩ | ⟨kind, he⟩ := decode_cases frame
    · rw [decode_mapText text] at h
      exact ⟨pairs, text, readFields_merged_ok.1 h⟩
    · rw [he] at h
      cases h
    · rw [he] at h
      cases h
  · rintro ⟨pairs, text, read⟩
    rw [decode_mapText text]
    exact readFields_merged_ok.2 read

/-- A map of a known type whose payload is beyond the limit. -/
def Oversized (frame : Bytes) (length : Nat) : Prop :=
  ∃ pairs type data, MapText pairs frame ∧
    TypeForm (lastValue? (.str Field.type) pairs) type ∧ Known type ∧
    DataForm (lastValue? (.str Field.data) pairs) data ∧ maxPayload < data.length ∧
    length = data.length

theorem decode_oversized_iff {n : Nat} :
    decode frame = .error (.oversized n) ↔ Oversized frame n := by
  have merge {pairs : List (Value × Value)} :
      readFields (merged pairs) = .error (.oversized n) ↔
        (∃ type, TypeForm (lastValue? (.str Field.type) pairs) type ∧ Known type) ∧
        ∃ data, DataForm (lastValue? (.str Field.data) pairs) data ∧
          maxPayload < data.length ∧ n = data.length := by
    simp only [readFields_oversized, readType_ok, readData_oversized, lookup_merged]
  constructor
  · intro h
    obtain ⟨pairs, text⟩ | ⟨fault, he⟩ | ⟨kind, he⟩ := decode_cases frame
    · rw [decode_mapText text, merge] at h
      obtain ⟨⟨type, form, known⟩, data, rest⟩ := h
      exact ⟨pairs, type, data, text, form, known, rest⟩
    · rw [he] at h
      cases h
    · rw [he] at h
      cases h
  · rintro ⟨pairs, type, data, text, form, known, rest⟩
    rw [decode_mapText text, merge]
    exact ⟨⟨type, form, known⟩, data, rest⟩

end

end EdgeSession.Frame
