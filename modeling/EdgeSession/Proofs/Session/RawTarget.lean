import EdgeSession.Proofs.Pack.JsonWriter
import EdgeSession.Proofs.Session.Codec

/-!
Frames under an id that is any value of JSON, as the control plane may list it. An id that is a text
goes into the frame that it always goes into; one that is null is read as an empty one, and any
other makes a frame that is well-formed and no message.
-/
namespace EdgeSession.Frame

open Pack

section
variable {target : Json} {m m' : Message} {frame : Bytes} {id : String}

theorem encodeUnder_str (m : Message) : encodeUnder (.str m.target) m = encode m := by
  have same : isLength (Utf8.encode m.target).length = fits m.target := rfl
  simp only [encodeUnder, encode, maxWritten, Nat.add_one_sub_one, writeJson, writeText, same]
  cases fits m.target with
  | true => simp only [if_true, Bool.true_and]; rfl
  | false => simp only [Bool.false_eq_true, if_false, Bool.false_and, Bool.not_false, if_true]; rfl

/-- What is known of a message that was written under an id. -/
theorem encodeUnder_ok (h : encodeUnder target m = .ok frame) :
    m.data.length ≤ maxPayload ∧ Encodable m.type ∧ fits m.session = true ∧
      Encodable m.timestamp ∧
      ∃ written, writeJson target (maxWritten - 1) = .ok written ∧
        frame = bytesUnder written m := by
  unfold encodeUnder at h
  split at h
  · cases h
  · rename_i short
    split at h
    · cases h
    · rename_i type
      split at h
      · cases h
      · rename_i written ran
        split at h
        · cases h
        · rename_i session
          split at h
          · cases h
          · rename_i timestamp
            cases h
            exact ⟨by omega, not_not.1 type, by simpa using session, not_not.1 timestamp, written,
              ran, rfl⟩

/-- What is written under an id is one map of the five pairs. -/
theorem encodeUnder_mapText (h : encodeUnder target m = .ok frame) :
    MapText (pairsUnder (ofJson target) m) frame := by
  obtain ⟨data, type, session, timestamp, written, ran, rfl⟩ := encodeUnder_ok h
  exact bytesUnder_mapText type data (writeJson_written target (by decide) ran)
    (fits_iff.1 session) timestamp

/-- Of the values of JSON none but texts and null are read as ids. -/
theorem idForm_ofJson :
    IdForm (some (ofJson target)) id ↔ target = .null ∧ id = "" ∨ target = .str id := by
  constructor
  · intro form
    cases target with
    | null =>
      cases form
      exact .inl ⟨rfl, rfl⟩
    | str s =>
      cases form
      exact .inr (by rw [String.ofList_toList])
    | _ => cases form
  · rintro (⟨rfl, rfl⟩ | rfl)
    · exact .nil
    · exact .text id

theorem IdForm.of_text {other : String} (h : IdForm (some (.str id.toList)) other) :
    other = id := by
  generalize same : id.toList = s at h
  cases h
  rw [← same, String.ofList_toList]

theorem carries_iff {value : Value} :
    Carries TimeRead (pairsUnder value m) m' ↔
      IdForm (some value) m'.target ∧ m' = { m with target := m'.target } := by
  constructor
  · rintro ⟨type, data, target, session, timestamp⟩
    refine ⟨target, ?_⟩
    obtain ⟨type', data', target', session', timestamp'⟩ := m'
    obtain rfl : session' = m.session := session.of_text
    cases type
    cases data
    obtain timestamp | blank := timestamp
    · cases timestamp
      rfl
    · cases blank with
      | blank blank => exact absurd blank (nofun : ¬Blank (.int m.timestamp))
  · rintro ⟨form, same⟩
    rw [same]
    exact ⟨.int m.type, .bin m.data, form, .text m.session, .inl (.int m.timestamp)⟩

/-- **What a frame under an id of any kind is read as**: the message, if the id is a text or null,
and no message otherwise. -/
theorem decode_encodeUnder (h : encodeUnder target m = .ok frame) (known : Known m.type) :
    decode frame = .ok m' ↔
      (target = .null ∧ m'.target = "" ∨ target = .str m'.target) ∧
        m' = { m with target := m'.target } := by
  rw [decode_mapText (encodeUnder_mapText h), readFields_merged_ok, carries_iff, idForm_ofJson]
  refine ⟨And.left, fun read => ⟨read, ?_⟩⟩
  rw [read.2]
  exact ⟨known, (encodeUnder_ok h).1⟩

/-- A number for an id makes a frame that nobody reads as a message. -/
example : ∃ frame, encodeUnder (.int 5) { type := 0, timestamp := 1 } = .ok frame ∧
    decode frame = .error (.invalidId Field.target (.int 5)) := ⟨_, rfl, by decide +kernel⟩

end
end EdgeSession.Frame
