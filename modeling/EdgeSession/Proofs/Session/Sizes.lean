import EdgeSession.Proofs.Session.Codec

/-!
How long a frame is. Besides the payload and the ids it takes at most 78 bytes, so a whole payload
and ids of a good length always go into what a connection takes.
-/
namespace EdgeSession

namespace Pack

/-- An integer that takes all the bytes that the format has for one. -/
def IsLong (n : Int) : Prop := n < -0x80000000 ∨ 0x100000000 ≤ n

theorem packInt_longest (n : Int) :
    (packInt n).length ≤ 9 ∧ ((packInt n).length = 9 ↔ IsLong n) := by
  simp only [packInt, IsLong]
  repeat' split
  all_goals simp only [List.length_cons, List.length_nil, Bytes.ofNat_length]
  all_goals grind

theorem strHeader_longest (length : Nat) :
    (strHeader length).length ≤ 5 ∧ ((strHeader length).length = 5 ↔ 0x10000 ≤ length) := by
  simp only [strHeader]
  repeat' split
  all_goals simp only [List.length_cons, List.length_nil, Bytes.ofNat_length]
  all_goals grind

theorem binHeader_longest (length : Nat) :
    (binHeader length).length ≤ 5 ∧ ((binHeader length).length = 5 ↔ 0x10000 ≤ length) := by
  simp only [binHeader]
  repeat' split
  all_goals simp only [List.length_cons, Bytes.ofNat_length]
  all_goals grind

theorem packStr_length (s : String) :
    (packStr s.toList).length =
      (strHeader (Utf8.encode s).length).length + (Utf8.encode s).length := List.length_append

theorem packBin_length (data : Bytes) :
    (packBin data).length = (binHeader data.length).length + data.length := List.length_append

end Pack

namespace Frame

open Pack

/-- What a frame takes besides the payload and the ids: 45 bytes for the count of the fields and
their names, two numbers, and the headers of the payload and the ids. -/
def envelope (m : Message) : Nat :=
  45 + (packInt m.type).length + (binHeader m.data.length).length +
    (strHeader (Utf8.encode m.target).length).length +
    (strHeader (Utf8.encode m.session).length).length + (packInt m.timestamp).length

/-- A message each of whose items takes the longest form there is. -/
structure Widest (m : Message) : Prop where
  type : IsLong m.type
  data : 0x10000 ≤ m.data.length
  target : 0x10000 ≤ (Utf8.encode m.target).length
  session : 0x10000 ≤ (Utf8.encode m.session).length
  timestamp : IsLong m.timestamp

theorem names_length :
    (packStr Field.type).length = 5 ∧ (packStr Field.data).length = 5 ∧
      (packStr Field.target).length = 17 ∧ (packStr Field.session).length = 7 ∧
      (packStr Field.timestamp).length = 10 := by
  decide

theorem bytesOf_length (m : Message) :
    (bytesOf m).length = m.data.length + (Utf8.encode m.target).length +
      (Utf8.encode m.session).length + envelope m := by
  obtain ⟨type, data, target, session, timestamp⟩ := names_length
  simp only [bytesOf, bytesUnder, envelope, List.length_cons, List.length_append, packStr_length,
    packBin_length, type, data, target, session, timestamp]
  omega

theorem envelope_longest (m : Message) : envelope m ≤ 78 ∧ (envelope m = 78 ↔ Widest m) := by
  obtain ⟨type, typeLong⟩ := packInt_longest m.type
  obtain ⟨data, dataLong⟩ := binHeader_longest m.data.length
  obtain ⟨target, targetLong⟩ := strHeader_longest (Utf8.encode m.target).length
  obtain ⟨session, sessionLong⟩ := strHeader_longest (Utf8.encode m.session).length
  obtain ⟨timestamp, timestampLong⟩ := packInt_longest m.timestamp
  simp only [envelope]
  refine ⟨by omega, fun full => ?_, fun widest => ?_⟩
  · exact ⟨typeLong.1 (by omega), dataLong.1 (by omega), targetLong.1 (by omega),
      sessionLong.1 (by omega), timestampLong.1 (by omega)⟩
  · rw [typeLong.2 widest.type, dataLong.2 widest.data, targetLong.2 widest.target,
      sessionLong.2 widest.session, timestampLong.2 widest.timestamp]

theorem encode_eq_ok_iff {m : Message} {frame : Bytes} :
    encode m = .ok frame ↔ m.data.length ≤ maxPayload ∧ Pack.Encodable m.type ∧
      Pack.Encodable m.timestamp ∧ fits m.target = true ∧ fits m.session = true ∧
      frame = bytesOf m := by
  simp only [encode]
  repeat' split
  all_goals grind

/-- **A legal message always fits a frame.** Besides the payload and the ids a frame takes at most
78 bytes, and takes as many only where every item has its longest form; so a connection takes the
frame of every message whose ids have together at most 65,458 bytes, however long its payload. -/
theorem frames_fit :
    (∀ m frame, encode m = .ok frame →
      frame.length ≤ m.data.length + (Utf8.encode m.target).length +
        (Utf8.encode m.session).length + 78 ∧
      (frame.length = m.data.length + (Utf8.encode m.target).length +
        (Utf8.encode m.session).length + 78 ↔ Widest m)) ∧
    (∀ m, Pack.Encodable m.type → Pack.Encodable m.timestamp → m.data.length ≤ maxPayload →
      (Utf8.encode m.target).length + (Utf8.encode m.session).length ≤ 65458 →
      ∃ frame, encode m = .ok frame ∧ frame.length ≤ maxSize) := by
  refine ⟨fun m frame accepted => ?_, fun m type timestamp data ids => ?_⟩
  · obtain ⟨-, -, -, -, -, rfl⟩ := encode_eq_ok_iff.1 accepted
    obtain ⟨most, full⟩ := envelope_longest m
    rw [bytesOf_length, ← full]
    omega
  · have target : fits m.target = true := fits_iff.2 (by omega)
    have session : fits m.session = true := fits_iff.2 (by omega)
    refine ⟨bytesOf m, encode_eq_ok_iff.2 ⟨data, type, timestamp, target, session, rfl⟩, ?_⟩
    have most := (envelope_longest m).1
    have room : maxSize = maxPayload + 65458 + 78 := rfl
    rw [bytesOf_length]
    omega

/-- A whole payload and an id of 32,729 letters of two bytes each, under numbers of nine bytes. -/
theorem frames_fit_full :
    let m : Message :=
      { type := 0xFFFFFFFFFFFFFFFF, data := List.replicate maxPayload 0x61,
        target := String.ofList (List.replicate 32729 'é'), timestamp := -0x8000000000000000 }
    m.data.length = maxPayload ∧
      (Utf8.encode m.target).length + (Utf8.encode m.session).length = 65458 ∧
      ∃ frame, encode m = .ok frame ∧ frame.length ≤ maxSize := by
  intro m
  have data : m.data.length = maxPayload := List.length_replicate
  have letter : (Utf8.encodeChar 'é').length = 2 := rfl
  have target : (Utf8.encode m.target).length = 65458 := by
    simp only [m, Utf8.encode, Utf8.encodeChars, String.toList_ofList, List.length_flatMap,
      List.map_replicate, letter, List.sum_replicate_nat]
  have ids : (Utf8.encode m.target).length + (Utf8.encode m.session).length = 65458 := by
    rw [target]
    rfl
  exact ⟨data, ids, frames_fit.2 m (by decide) (by decide) (Nat.le_of_eq data) (Nat.le_of_eq ids)⟩

end Frame
end EdgeSession
