import Mathlib.Algebra.Group.Int.Defs
import EdgeSession.Proofs.Session.Fields

/-!
Frames and messages. What is written is read back; whatever is read can be written again; and a
frame is read whoever wrote it, in any order of the fields and any widths that hold them.
-/
namespace EdgeSession.Frame

open Pack

/-- A message that has a frame. -/
structure Legal (m : Message) : Prop where
  type : Known m.type
  data : m.data.length ≤ maxPayload
  target : (Utf8.encode m.target).length < 2 ^ 32
  session : (Utf8.encode m.session).length < 2 ^ 32
  timestamp : -2 ^ 63 ≤ m.timestamp ∧ m.timestamp < 2 ^ 64

/-- The pairs of a frame as they are written, with a value for the target. -/
def pairsUnder (target : Value) (m : Message) : List (Value × Value) :=
  [(.str Field.type, .int m.type), (.str Field.data, .bin m.data), (.str Field.target, target),
    (.str Field.session, .str m.session.toList), (.str Field.timestamp, .int m.timestamp)]

def pairsOf (m : Message) : List (Value × Value) := pairsUnder (.str m.target.toList) m

theorem entry_str {room : Nat} {name : List Char} {value : Value} {bytes : Bytes}
    (short : (Utf8.encodeChars name).length < 0x100000000) (h : Written room value bytes) :
    Entry (Written room) (.str name, value) (packStr name ++ bytes) :=
  .intro (.str name) (packStr_written short) h

theorem fits_iff {s : String} : fits s = true ↔ (Utf8.encode s).length < 2 ^ 32 :=
  decide_eq_true_iff

theorem maxPayload_lt : maxPayload < 0x100000000 := by
  decide

theorem Known.encodable {type : Int} (h : Known type) : Encodable type := by
  obtain ⟨lo, hi⟩ := h
  constructor <;> omega

theorem IdForm.text (id : String) : IdForm (some (.str id.toList)) id := by
  have form := IdForm.str id.toList
  rwa [String.ofList_toList] at form

/-- The UTF-8 of an id stands for it too. -/
theorem IdForm.utf8 (id : String) : IdForm (some (.bin (Utf8.encode id))) id := by
  have form := IdForm.bin (Utf8.encode id)
  rwa [Utf8.encode, Utf8.decodeLossy_encodeChars, String.ofList_toList] at form

/-- What the writer puts down is one map of the five pairs. -/
theorem bytesUnder_mapText {m : Message} {target : Value} {written : Bytes}
    (type : Encodable m.type) (data : m.data.length ≤ maxPayload)
    (under : Written (maxNesting - 1) target written)
    (session : (Utf8.encode m.session).length < 2 ^ 32) (timestamp : Encodable m.timestamp) :
    MapText (pairsUnder target m) (bytesUnder written m) := by
  have payload := Nat.lt_of_le_of_lt data maxPayload_lt
  have five : (0x85 : UInt8).toNat - 0x80 = (pairsUnder target m).length := by
    simp only [pairsUnder, List.length_cons, List.length_nil]
    decide
  have announced : Announces (.map ((0x85 : UInt8).toNat - 0x80)) [0x85] :=
    .shortMap (by decide) (by decide)
  rw [five] at announced
  refine .intro announced ?_
  refine .cons (entry_str (by decide) (packInt_written type)) ?_
  refine .cons (entry_str (by decide) (packBin_written payload)) ?_
  refine .cons (entry_str (by decide) under) ?_
  refine .cons (entry_str (by decide) (packStr_written session)) ?_
  exact .single (entry_str (by decide) (packInt_written timestamp))

theorem bytesOf_mapText {m : Message} (h : Legal m) : MapText (pairsOf m) (bytesOf m) :=
  bytesUnder_mapText h.type.encodable h.data (packStr_written h.target) h.session h.timestamp

theorem pairsOf_carries (m : Message) : Carries TimeForm (pairsOf m) m where
  type := .int m.type
  data := .bin m.data
  target := .text m.target
  session := .text m.session
  timestamp := .int m.timestamp

/-- What is written is read back. -/
theorem decode_bytesOf {m : Message} (h : Legal m) : decode (bytesOf m) = .ok m :=
  decode_ok_iff.2
    ⟨pairsOf m, bytesOf_mapText h, (pairsOf_carries m).mono fun _ _ => .inl, h.type, h.data⟩

theorem encode_legal {m : Message} (h : Legal m) : encode m = .ok (bytesOf m) := by
  have ids : (fits m.target && fits m.session) = true := by
    rw [Bool.and_eq_true]
    exact ⟨fits_iff.2 h.target, fits_iff.2 h.session⟩
  have time : Encodable m.timestamp := h.timestamp
  rw [encode, if_neg (Nat.not_lt.2 h.data), if_neg (not_not_intro h.type.encodable), ids,
    Bool.not_true, if_neg Bool.false_ne_true, if_neg (not_not_intro time)]

theorem encode_oversized_iff {m : Message} {n : Nat} :
    encode m = .error (.oversized n) ↔ maxPayload < m.data.length ∧ n = m.data.length := by
  simp only [encode]
  split
  · rename_i long
    constructor
    · intro h
      cases h
      exact ⟨long, rfl⟩
    · rintro ⟨-, rfl⟩
      rfl
  · rename_i short
    refine ⟨fun h => ?_, fun h => absurd h.1 short⟩
    repeat' split at h
    all_goals cases h

/-- An id that is no text is no part of the payload. -/
theorem encodeUnder_oversized_iff {target : Json} {m : Message} {n : Nat} :
    encodeUnder target m = .error (.oversized n) ↔
      maxPayload < m.data.length ∧ n = m.data.length := by
  simp only [encodeUnder]
  split
  · rename_i long
    constructor
    · intro h
      cases h
      exact ⟨long, rfl⟩
    · rintro ⟨-, rfl⟩
      rfl
  · rename_i short
    refine ⟨fun h => ?_, fun h => absurd h.1 short⟩
    split at h
    · cases h
    cases written : writeJson target (maxWritten - 1) with
    | error fault =>
      rw [written] at h
      cases fault <;> cases h
    | ok bytes =>
      simp only [written] at h
      repeat' split at h
      all_goals cases h

/-! ## What is read can be written -/

section
variable {pairs : List (Value × Value)} {frame : Bytes}

/-- A text takes no more bytes than the frame it came from; each byte of a binary id becomes one
U+FFFD at worst, and that takes three. -/
theorem id_length (text : MapText pairs frame) {field : List Char} {id : String}
    (form : IdForm (lastValue? (.str field) pairs) id) :
    (Utf8.encode id).length ≤ 3 * frame.length := by
  generalize hv : lastValue? (.str field) pairs = v at form
  cases form with
  | absent => exact Nat.zero_le _
  | nil => exact Nat.zero_le _
  | str s =>
    obtain ⟨front, written, inside⟩ := text.value_written hv
    have := written.str_length
    rw [Utf8.encode, String.toList_ofList]
    omega
  | bin data =>
    obtain ⟨front, written, inside⟩ := text.value_written hv
    have := written.bin_length
    have := Utf8.decodeLossy_length data
    rw [Utf8.encode, String.toList_ofList]
    omega

theorem time_encodable (text : MapText pairs frame) {time : Int}
    (form : TimeRead (lastValue? (.str Field.timestamp) pairs) time) : Encodable time := by
  generalize hv : lastValue? (.str Field.timestamp) pairs = v at form
  rcases form with form | form
  · cases form with
    | absent => decide
    | nil => decide
    | int =>
      obtain ⟨front, written, -⟩ := text.value_written hv
      exact written.int_encodable
  · cases form
    decide

end

/-- Whether a map holds an id as binary data that, read as text, takes 2^32 bytes or more. -/
def Swells (field : List Char) (pairs : List (Value × Value)) : Prop :=
  ∃ data, lastValue? (.str field) pairs = some (.bin data) ∧
    2 ^ 32 ≤ (Utf8.encodeChars (Utf8.decodeLossy data)).length

section
variable {pairs : List (Value × Value)} {frame : Bytes} {m : Message}

/-- An id that is too long for the format was binary: no text that stands in a frame is too long. -/
theorem swells_iff (text : MapText pairs frame) {field : List Char} {id : String}
    (form : IdForm (lastValue? (.str field) pairs) id) :
    Swells field pairs ↔ ¬(Utf8.encode id).length < 2 ^ 32 := by
  unfold Swells
  rw [Nat.not_lt]
  generalize hv : lastValue? (.str field) pairs = v at form
  cases form with
  | absent | nil => exact iff_of_false nofun (by decide)
  | str s =>
    obtain ⟨front, written, -⟩ := text.value_written hv
    have short := written.str_lt
    refine iff_of_false nofun ?_
    rw [Utf8.encode, String.toList_ofList]
    omega
  | bin data =>
    rw [Utf8.encode, String.toList_ofList]
    constructor
    · rintro ⟨other, same, long⟩
      cases same
      exact long
    · exact fun long => ⟨data, rfl, long⟩

/-- Of what is read only the ids can be beyond what the format carries. -/
theorem legal_iff (text : MapText pairs frame) (carries : Carries TimeRead pairs m)
    (known : Known m.type) (short : m.data.length ≤ maxPayload) :
    Legal m ↔ ¬(Swells Field.target pairs ∨ Swells Field.session pairs) := by
  rw [swells_iff text carries.target, swells_iff text carries.session, not_or, not_not, not_not]
  constructor
  · exact fun legal => ⟨legal.target, legal.session⟩
  · exact fun ⟨target, session⟩ =>
      ⟨known, short, target, session, time_encodable text carries.timestamp⟩

theorem encode_unfit (carries : Carries TimeRead pairs m) (text : MapText pairs frame)
    (known : Known m.type) (short : m.data.length ≤ maxPayload) (unfit : ¬Legal m) :
    encode m = .error .tooLong := by
  have long : (fits m.target && fits m.session) = false := by
    refine Bool.eq_false_iff.2 fun fit => unfit ?_
    rw [Bool.and_eq_true] at fit
    exact ⟨known, short, fits_iff.1 fit.1, fits_iff.1 fit.2,
      time_encodable text carries.timestamp⟩
  rw [encode, if_neg (Nat.not_lt.2 short), if_neg (not_not_intro known.encodable), long,
    Bool.not_false, if_pos rfl]

/-- A frame of less than a third of what an id may take has no id that outgrows the format. -/
theorem legal_of_short (h : decode frame = .ok m) (short : 3 * frame.length < 2 ^ 32) :
    Legal m := by
  obtain ⟨pairs, text, carries, known, fits⟩ := decode_ok_iff.1 h
  have target := id_length text carries.target
  have session := id_length text carries.session
  exact ⟨known, fits, by omega, by omega, time_encodable text carries.timestamp⟩

end

/-- **What is written is read back as it was, and what is read, in whatever form, can be written and
is read back the same, unless an id outgrows the format.** A payload beyond the limit is all that is
reported as oversized.

A binary id that is not UTF-8 may triple in size when it is read, and 2^32 bytes of text have no
form. So a message that is read is refused by the writer just when one of its ids was binary and
takes as much as a text; a frame of less than a third of that has no such id. -/
theorem round_trip :
    (∀ m, Legal m → ∃ frame, encode m = .ok frame ∧ decode frame = .ok m) ∧
    (∀ frame m, decode frame = .ok m →
      (Legal m ↔
        ∀ pairs, MapText pairs frame → ¬(Swells Field.target pairs ∨ Swells Field.session pairs)) ∧
      (¬Legal m → encode m = .error .tooLong) ∧
      (3 * frame.length < 2 ^ 32 → Legal m)) ∧
    (∀ m n, encode m = .error (.oversized n) ↔ maxPayload < m.data.length ∧ n = m.data.length) := by
  refine ⟨fun m h => ⟨bytesOf m, encode_legal h, decode_bytesOf h⟩, fun frame m h => ?_,
    fun m n => encode_oversized_iff⟩
  obtain ⟨pairs, text, carries, known, short⟩ := decode_ok_iff.1 h
  refine ⟨⟨fun legal others again => ?_, fun none => ?_⟩, encode_unfit carries text known short,
    legal_of_short h⟩
  · rw [decode_mapText again] at h
    obtain ⟨carries, known, short⟩ := readFields_merged_ok.1 h
    exact (legal_iff again carries known short).1 legal
  · exact (legal_iff text carries known short).2 (none pairs text)

/-- A frame of a session id alone, binary and no UTF-8. -/
theorem round_trip_repaired :
    decode [0x81, 0xA6, 0x65, 0x78, 0x65, 0x63, 0x49, 0x64, 0xC4, 0x02, 0xFF, 0x61] =
        .ok { type := 0, session := "\uFFFDa" } ∧
      ∃ again, encode { type := 0, session := "\uFFFDa" } = .ok again ∧
        decode again = .ok { type := 0, session := "\uFFFDa" } := by
  have read : decode [0x81, 0xA6, 0x65, 0x78, 0x65, 0x63, 0x49, 0x64, 0xC4, 0x02, 0xFF, 0x61] =
      .ok { type := 0, session := "\uFFFDa" } := by
    decide +kernel
  obtain ⟨-, -, legal⟩ := round_trip.2.1 _ _ read
  exact ⟨read, round_trip.1 _ (legal (by decide))⟩

theorem zero_known : Known 0 := by
  decide

/-- A frame of one pair, a binary session id. -/
theorem binarySession {data : Bytes} (short : data.length < 0x100000000) :
    MapText [(.str Field.session, .bin data)]
        ([0x81] ++ (packStr Field.session ++ packBin data)) ∧
      Carries TimeRead [(.str Field.session, .bin data)]
        { type := 0, session := String.ofList (Utf8.decodeLossy data) } := by
  have one : Announces (.map 1) [0x81] := .shortMap (b := 0x81) (by decide) (by decide)
  exact ⟨.intro one (.single (entry_str (by decide) (packBin_written short))),
    .absent, .absent, .absent, .bin data, .inl .absent⟩

/-- An id of 1,431,655,766 bytes that are no UTF-8. The frame is read, but the message that it is
read as has no frame: its session id takes 2^32 + 2 bytes. -/
theorem id_outgrown :
    let frame := [0x81] ++ (packStr Field.session ++ packBin (List.replicate 1431655766 0xFF))
    let m : Message :=
      { type := 0, session := String.ofList (List.replicate 1431655766 '\uFFFD') }
    decode frame = .ok m ∧ ¬Legal m ∧ encode m = .error .tooLong := by
  -- a count is all that is ever computed of the id
  have takes (n : Nat) :
      (Utf8.encode (String.ofList (List.replicate n '\uFFFD'))).length = 3 * n := by
    have three : (Utf8.encodeChar '\uFFFD').length = 3 := rfl
    simp only [Utf8.encode, Utf8.encodeChars, String.toList_ofList, List.length_flatMap,
      List.map_replicate, three, List.sum_replicate_nat, Nat.mul_comm]
  generalize hn : 1431655766 = n
  have short : (List.replicate n (0xFF : UInt8)).length < 0x100000000 := by
    rw [List.length_replicate, ← hn]
    decide
  obtain ⟨text, carries⟩ := binarySession short
  rw [Utf8.decodeLossy_replicate] at carries
  have unfit : ¬Legal { type := 0, session := String.ofList (List.replicate n '\uFFFD') } := by
    intro legal
    have small := legal.session
    rw [takes] at small
    omega
  exact ⟨decode_ok_iff.2 ⟨_, text, carries, zero_known, Nat.zero_le _⟩, unfit,
    encode_unfit carries text zero_known (Nat.zero_le _) unfit⟩

/-! ## Frames of others -/

/-- **A frame is read whoever wrote it**: its pairs may stand in any order and repeat a key, whose
last value counts; among them may be pairs of other names, their values nested as deep as the reader
goes at all; and each key and value may take any width that holds it. No limit on announced counts
refuses such a frame. -/
theorem decode_any_form {pairs : List (Value × Value)} {frame : Bytes} {m : Message}
    (text : MapText pairs frame) (carried : Carries TimeForm pairs m) (known : Known m.type)
    (short : m.data.length ≤ maxPayload) : decode frame = .ok m :=
  decode_ok_iff.2 ⟨pairs, text, carried.mono fun _ _ => .inl, known, short⟩

/-- A map of a 16-bit count: under a binary key a list of nil, which no field asks for; a type that
a later pair takes back; a binary session id; and the later pair, with a type of two bytes. All
other fields are missing. -/
theorem decode_any_form_foreign :
    decode ([0xDE, 0x00, 0x04] ++
      ([0xC4, 0x01, 0x78] ++ [0xDC, 0x00, 0x01, 0xC0] ++
        (packStr Field.type ++ [0x09] ++
          (packStr Field.session ++ [0xC4, 0x01, 0x65] ++
            (packStr Field.type ++ [0xCD, 0x00, 0x04]))))) =
      .ok { type := 4, session := "e" } := by
  have count : Announces (.map 4) [0xDE, 0x00, 0x04] := .map (n := [0x00, 0x04]) (by decide)
  have byte (b : UInt8) : Written (maxNesting - 1) (.bin [b]) [0xC4, 0x01, b] :=
    Plain.written (.intro (.bin (n := [0x01]) (by decide)) (.bin [b]))
  have null : Written (maxNesting - 2) .nil [0xC0] := Plain.written (.intro .nil .nil)
  have one : Announces (.arr 1) [0xDC, 0x00, 0x01] := .arr (n := [0x00, 0x01]) (by decide)
  have list : Written (maxNesting - 1) (.arr [.nil]) ([0xDC, 0x00, 0x01] ++ [0xC0]) :=
    .inr (.arr one (.single null))
  have type : (Utf8.encodeChars Field.type).length < 0x100000000 := by decide
  have session : (Utf8.encodeChars Field.session).length < 0x100000000 := by decide
  have nine : Written (maxNesting - 1) (.int 9) [0x09] :=
    Plain.written (.intro (.positive (b := 0x09) (by decide)) (.int 9))
  have four : Written (maxNesting - 1) (.int 4) [0xCD, 0x00, 0x04] :=
    Plain.written (.intro (.unsigned (n := [0x00, 0x04]) (by decide)) (.int 4))
  have listed := Chain.cons (.intro (.bin [0x78]) (byte 0x78) list)
    (.cons (entry_str type nine)
      (.cons (entry_str session (byte 0x65)) (.single (entry_str type four))))
  refine decode_any_form (.intro ?_ listed) ⟨?_, .absent, .absent, ?_, .absent⟩
    (by decide) (by decide)
  · exact count
  · exact .int 4
  · exact .utf8 "e"

end EdgeSession.Frame
