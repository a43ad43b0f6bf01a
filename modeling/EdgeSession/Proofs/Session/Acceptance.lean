import EdgeSession.Proofs.Session.Fields

/-!
Which frames are taken. The types of the fields decide, but for the time: values of other types that
count as absent are read as 0.
-/
namespace EdgeSession.Frame

open Pack

/-- Pairs whose fields have the types of a message. -/
structure Typed (Time : Option Value → Int → Prop) (pairs : List (Value × Value)) : Prop where
  type : ∃ type, TypeForm (lastValue? (.str Field.type) pairs) type ∧ Known type
  data : ∃ data, DataForm (lastValue? (.str Field.data) pairs) data ∧ data.length ≤ maxPayload
  target : ∃ id, IdForm (lastValue? (.str Field.target) pairs) id
  session : ∃ id, IdForm (lastValue? (.str Field.session) pairs) id
  timestamp : ∃ time, Time (lastValue? (.str Field.timestamp) pairs) time

/-- One map of such pairs, with nothing before or after it. -/
def WellTyped (Time : Option Value → Int → Prop) (frame : Bytes) : Prop :=
  ∃ pairs, MapText pairs frame ∧ Typed Time pairs

section
variable {pairs : List (Value × Value)} {frame : Bytes}

theorem typed_iff {Time : Option Value → Int → Prop} :
    Typed Time pairs ↔
      ∃ m, Carries Time pairs m ∧ Known m.type ∧ m.data.length ≤ maxPayload := by
  constructor
  · rintro ⟨⟨type, ht, known⟩, ⟨data, hd, short⟩, ⟨target, hg⟩, ⟨session, hi⟩, ⟨timestamp, hs⟩⟩
    exact ⟨{ type, data, target, session, timestamp }, ⟨ht, hd, hg, hi, hs⟩, known, short⟩
  · rintro ⟨m, c, known, short⟩
    exact ⟨⟨_, c.type, known⟩, ⟨_, c.data, short⟩, ⟨_, c.target⟩, ⟨_, c.session⟩, ⟨_, c.timestamp⟩⟩

theorem typed_timeRead_iff :
    Typed TimeRead pairs ↔ Typed TimeForm pairs ∨ Typed BlankForm pairs := by
  constructor
  · rintro ⟨type, data, target, session, time, form | blank⟩
    · exact .inl ⟨type, data, target, session, time, form⟩
    · exact .inr ⟨type, data, target, session, time, blank⟩
  · rintro (⟨type, data, target, session, time, form⟩ | ⟨type, data, target, session, time, blank⟩)
    · exact ⟨type, data, target, session, time, .inl form⟩
    · exact ⟨type, data, target, session, time, .inr blank⟩

theorem accepts_iff :
    (∃ m, decode frame = .ok m) ↔ WellTyped TimeForm frame ∨ WellTyped BlankForm frame := by
  constructor
  · rintro ⟨m, h⟩
    obtain ⟨pairs, text, read⟩ := decode_ok_iff.1 h
    rcases typed_timeRead_iff.1 (typed_iff.2 ⟨m, read⟩) with typed | blank
    · exact .inl ⟨pairs, text, typed⟩
    · exact .inr ⟨pairs, text, blank⟩
  · have accept {pairs : List (Value × Value)} (text : MapText pairs frame)
        (typed : Typed TimeRead pairs) : ∃ m, decode frame = .ok m := by
      obtain ⟨m, read⟩ := typed_iff.1 typed
      exact ⟨m, decode_ok_iff.2 ⟨pairs, text, read⟩⟩
    rintro (⟨pairs, text, typed⟩ | ⟨pairs, text, blank⟩)
    · exact accept text (typed_timeRead_iff.2 (.inl typed))
    · exact accept text (typed_timeRead_iff.2 (.inr blank))

/-- A frame says one thing of each key. -/
theorem lastValue?_of_unpack (text : MapText pairs frame) {fields : List (Value × Value)}
    (h : unpack frame = .ok (.map fields)) (key : Value) :
    lastValue? key pairs = Value.lookup key fields := by
  rw [unpack_mapText text, mapOf_eq] at h
  cases h
  exact (lookup_merged key pairs).symm

theorem TimeForm.not_blank {value : Option Value} {time other : Int} (h : TimeForm value time) :
    ¬BlankForm value other := by
  rintro ⟨blank⟩
  cases h <;> cases blank

theorem not_typed_both : ¬(WellTyped TimeForm frame ∧ WellTyped BlankForm frame) := by
  rintro ⟨⟨pairs, text, typed⟩, ⟨others, again, blank⟩⟩
  obtain ⟨time, form⟩ := typed.timestamp
  obtain ⟨other, blankForm⟩ := blank.timestamp
  have read : unpack frame = .ok (.map (merged pairs)) := unpack_mapText text
  rw [lastValue?_of_unpack again read, lookup_merged] at blankForm
  exact form.not_blank blankForm

end

theorem undecodable_iff {fault : DecodeFault} :
    fault.failure = .undecodable fault.message ↔ ∀ n, fault ≠ .oversized n := by
  cases fault with
  | oversized n => exact ⟨nofun, fun h => absurd rfl (h n)⟩
  | _ => exact ⟨fun _ => nofun, fun _ => rfl⟩

/-- **Which frames are taken, and how the others fail.** A frame is taken when it is one map whose
fields have the types of a message, or would have them if its time were not a blank value of
another type. Of the rest those of a known type and too large a payload are reported as oversized,
and all others as undecodable. -/
theorem decode_accepts_exactly (frame : Bytes) :
    ((∃ m, decode frame = .ok m) ↔ WellTyped TimeForm frame ∨ WellTyped BlankForm frame) ∧
    ¬(WellTyped TimeForm frame ∧ WellTyped BlankForm frame) ∧
    (∀ n, decode frame = .error (.oversized n) ↔ Oversized frame n) ∧
    ((∃ fault, decode frame = .error fault ∧ fault.failure = .undecodable fault.message) ↔
      ¬(WellTyped TimeForm frame ∨ WellTyped BlankForm frame) ∧ ∀ n, ¬Oversized frame n) := by
  refine ⟨accepts_iff, not_typed_both, fun n => decode_oversized_iff, ?_⟩
  rw [← accepts_iff]
  simp only [← decode_oversized_iff]
  cases hd : decode frame with
  | ok m =>
    exact ⟨nofun, fun h => absurd ⟨m, rfl⟩ h.1⟩
  | error fault =>
    constructor
    · rintro ⟨other, h, undecodable⟩
      cases h
      exact ⟨nofun, fun n h => undecodable_iff.1 undecodable n (Except.error.inj h)⟩
    · rintro ⟨-, other⟩
      exact ⟨fault, rfl, undecodable_iff.2 fun n h => other n (h ▸ rfl)⟩

/-- A time of `false` is taken, though it is no integer. -/
theorem decode_takes_false :
    decode [0x81, 0xA9, 0x74, 0x69, 0x6D, 0x65, 0x73, 0x74, 0x61, 0x6D, 0x70, 0xC2] =
        .ok { type := 0 } ∧
      ¬WellTyped TimeForm
        [0x81, 0xA9, 0x74, 0x69, 0x6D, 0x65, 0x73, 0x74, 0x61, 0x6D, 0x70, 0xC2] := by
  refine ⟨by decide +kernel, ?_⟩
  rintro ⟨pairs, text, typed⟩
  have read : unpack [0x81, 0xA9, 0x74, 0x69, 0x6D, 0x65, 0x73, 0x74, 0x61, 0x6D, 0x70, 0xC2] =
      .ok (.map [(.str Field.timestamp, .bool false)]) := by
    decide +kernel
  obtain ⟨time, form⟩ := typed.timestamp
  have no : lastValue? (.str Field.timestamp) pairs = some (.bool false) :=
    lastValue?_of_unpack text read _
  rw [no] at form
  cases form

end EdgeSession.Frame
