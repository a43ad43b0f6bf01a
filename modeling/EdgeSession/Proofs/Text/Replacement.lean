import EdgeSession.Proofs.Utf8

/-!
What a lenient reader makes of bytes that are not UTF-8. Where a scalar value has its form it is
read; elsewhere one U+FFFD stands for the longest part that begins such a form, or for one byte
where none does.
-/
namespace EdgeSession.Utf8

/-- Whether the form of a scalar value begins with these bytes. -/
def Opens (piece : Bytes) : Prop := ∃ c, piece <+: encodeChar c

/-- Whether bytes are ill-formed at once, and how far one mark stands for them. -/
structure Blamed (piece bytes : Bytes) : Prop where
  begins : piece <+: bytes
  filled : piece ≠ []
  illFormed : ∀ c, ¬encodeChar c <+: bytes
  opens : 1 < piece.length → Opens piece
  longest : ∀ longer, longer <+: bytes → Opens longer → longer.length ≤ piece.length

/-- How bytes are read as a text by one who takes whatever comes. -/
inductive Replaced : Bytes → List Char → Prop
  | done : Replaced [] []
  | char {c : Char} {rest : Bytes} {text : List Char} (later : Replaced rest text) :
      Replaced (encodeChar c ++ rest) (c :: text)
  | mark {piece rest : Bytes} {text : List Char} (blamed : Blamed piece (piece ++ rest))
      (later : Replaced rest text) : Replaced (piece ++ rest) ('\uFFFD' :: text)

/-- The forms of scalar values by their bytes. -/
inductive Form : Bytes → Prop
  | one {lead : UInt8} (hi : lead.toNat < 0x80) : Form [lead]
  | two {lead b : UInt8} (lo : 0xC2 ≤ lead.toNat) (hi : lead.toNat < 0xE0)
      (second : isSecond lead b = true) : Form [lead, b]
  | three {lead b c : UInt8} (lo : 0xE0 ≤ lead.toNat) (hi : lead.toNat < 0xF0)
      (second : isSecond lead b = true) (third : isTail c = true) : Form [lead, b, c]
  | four {lead b c d : UInt8} (lo : 0xF0 ≤ lead.toNat) (hi : lead.toNat < 0xF5)
      (second : isSecond lead b = true) (third : isTail c = true) (fourth : isTail d = true) :
      Form [lead, b, c, d]

/-- Where reading breaks off: at a byte that begins nothing, or behind bytes that begin a form, at
one that does not go on with it. -/
inductive Breaks (lead : UInt8) : Bytes → Bytes → Prop
  | first {after : Bytes} (lo : 0x80 ≤ lead.toNat)
      (stray : lead.toNat < 0xC2 ∨ 0xF5 ≤ lead.toNat) : Breaks lead [] after
  | second {after : Bytes} (lo : 0xC2 ≤ lead.toNat) (hi : lead.toNat < 0xF5)
      (apart : ∀ b ∈ after.head?, isSecond lead b = false) : Breaks lead [] after
  | third {b : UInt8} {after : Bytes} (lo : 0xE0 ≤ lead.toNat) (hi : lead.toNat < 0xF5)
      (second : isSecond lead b = true)
      (apart : ∀ c ∈ after.head?, isTail c = false) : Breaks lead [b] after
  | fourth {b c : UInt8} {after : Bytes} (lo : 0xF0 ≤ lead.toNat) (hi : lead.toNat < 0xF5)
      (second : isSecond lead b = true) (third : isTail c = true)
      (apart : ∀ d ∈ after.head?, isTail d = false) : Breaks lead [b, c] after

section
variable {lead b : UInt8} {rest after passed piece longer bytes : Bytes} {count : Nat}
  {defect : Defect} {text : List Char}

theorem isSecond_two (lo : 0xC2 ≤ lead.toNat) (hi : lead.toNat < 0xE0) :
    isSecond lead b = isTail b := by
  rw [Bool.eq_iff_iff, isSecond_iff, isTail_iff]
  omega

theorem stepFrom_encodeChar {c : Char} (h : lead :: rest = encodeChar c ++ after) :
    stepFrom lead rest = (.char c, after) := by
  obtain ⟨first, tail, form, step⟩ := encodeChar_step c after
  rw [form, List.cons_append, List.cons.injEq] at h
  rw [h.1, h.2, step]

/-- How a step ends that reads nothing. -/
theorem stepFrom_breaks (h : stepFrom lead rest = (.bad count defect, after)) :
    ∃ passed, rest = passed ++ after ∧ Breaks lead passed after := by
  revert h
  fun_cases stepFrom lead rest <;> rintro ⟨⟩ <;>
    simp only [UInt8.lt_iff_toNat_lt, UInt8.reduceToNat, Bool.not_eq_true, Bool.not_eq_false,
      Bool.not_eq_eq_eq_not, Bool.not_true] at *
  -- a byte that begins no form
  case case2 | case18 => exact ⟨[], rfl, .first (by omega) (by omega)⟩
  -- a lead byte at the end, or before what is no second byte
  case case3 | case6 | case11 => exact ⟨[], rfl, .second (by omega) (by omega) nofun⟩
  case case7 | case12 => exact ⟨[], rfl, .second (by omega) (by omega) (by simpa)⟩
  case case5 =>
    refine ⟨[], rfl, .second (by omega) (by omega) ?_⟩
    simpa [isSecond_two (show 0xC2 ≤ lead.toNat by omega) (by omega)]
  -- the same behind the second byte
  case case8 second | case13 second =>
    exact ⟨[_], rfl, .third (by omega) (by omega) second nofun⟩
  case case10 second apart | case14 second apart =>
    exact ⟨[_], rfl, .third (by omega) (by omega) second (by simpa)⟩
  -- the same behind the third
  case case15 second third =>
    exact ⟨[_, _], rfl, .fourth (by omega) (by omega) second third nofun⟩
  case case17 second third apart =>
    exact ⟨[_, _], rfl, .fourth (by omega) (by omega) second third (by simpa)⟩

/-- Every scalar value has one of the forms. -/
theorem encodeChar_form (c : Char) : Form (encodeChar c) := by
  have valid := char_valid c
  simp only [encodeChar]
  generalize c.toNat = n at valid
  have small {m : Nat} (h : m < 256) : (UInt8.ofNat m).toNat = m := by
    rw [UInt8.toNat_ofNat', Nat.mod_eq_of_lt h]
  split
  · exact .one (by rw [small] <;> omega)
  split
  · refine .two ?_ ?_ ?_ <;> simp (disch := omega) only [isSecond_iff, small] <;> omega
  split
  · refine .three ?_ ?_ ?_ ?_ <;> simp (disch := omega) only [isSecond_iff, isTail_iff, small] <;>
      omega
  · refine .four ?_ ?_ ?_ ?_ ?_ <;>
      simp (disch := omega) only [isSecond_iff, isTail_iff, small] <;> omega

theorem Breaks.opens (h : Breaks lead passed after) (more : passed ≠ []) :
    Opens (lead :: passed) := by
  cases h with
  | first | second => exact absurd rfl more
  | @third b _ lo hi second =>
    by_cases three : lead.toNat < 0xF0
    · exact ⟨_, [0x80], (encodeChar_three lo three second (by decide)).symm⟩
    · exact ⟨_, [0x80, 0x80],
        (encodeChar_four (by omega) hi second (by decide) (by decide)).symm⟩
  | fourth lo hi second third =>
    exact ⟨_, [0x80], (encodeChar_four lo hi second third (by decide)).symm⟩

/-- Nothing longer begins a form than what was passed over. -/
theorem Breaks.longest (h : Breaks lead passed (b :: after)) :
    ¬Opens (lead :: passed ++ [b]) := by
  rintro ⟨c, tail, form⟩
  have same := encodeChar_form c
  rw [← form] at same
  cases h with
  | first lo stray => cases same <;> omega
  | second lo hi apart =>
    have apart := apart b rfl
    cases same with
    | two _ _ second | three _ _ second | four _ _ second => simp [second] at apart
  | third lo hi _ apart =>
    have apart := apart b rfl
    cases same with
    | three _ _ _ third | four _ _ _ third => simp [third] at apart
  | fourth lo hi _ _ apart =>
    have apart := apart b rfl
    cases same with
    | four _ _ _ _ fourth => simp [fourth] at apart

/-- What a step passes over that reads nothing is what one mark stands for. -/
theorem blamed_of_step (h : stepFrom lead rest = (.bad count defect, after)) :
    ∃ piece, lead :: rest = piece ++ after ∧ Blamed piece (lead :: rest) := by
  obtain ⟨passed, rfl, breaks⟩ := stepFrom_breaks h
  refine ⟨lead :: passed, rfl, ⟨after, rfl⟩, List.cons_ne_nil _ _, ?_, fun more => ?_, ?_⟩
  · rintro c ⟨tail, form⟩
    cases h.symm.trans (stepFrom_encodeChar form.symm)
  · exact breaks.opens fun none => by simp [none] at more
  · refine fun longer begins opens => Nat.le_of_not_lt fun further => ?_
    cases after with
    | nil =>
      have := begins.length_le
      simp at this further
      omega
    | cons b after =>
      -- the part up to `b` begins what is longer, and so it would begin a form
      have upTo : lead :: passed ++ [b] <+: longer := by
        refine List.prefix_of_prefix_length_le ⟨after, by simp⟩ begins ?_
        simp at further ⊢
        omega
      exact breaks.longest (opens.imp fun _ form => upTo.trans form)

/-- One mark stands for one part only. -/
theorem Blamed.unique {other : Bytes} (h : Blamed piece bytes) (h' : Blamed other bytes) :
    piece = other := by
  have least {p q : Bytes} (hp : Blamed p bytes) (hq : Blamed q bytes) : p.length ≤ q.length := by
    by_cases more : 1 < p.length
    · exact hq.longest p hp.begins (hp.opens more)
    · have := List.length_pos_iff.mpr hq.filled
      omega
  exact (List.prefix_of_prefix_length_le h.begins h'.begins (least h h')).eq_of_length
    (Nat.le_antisymm (least h h') (least h' h))

theorem decodeLossy_char (c : Char) (rest : Bytes) :
    decodeLossy (encodeChar c ++ rest) = c :: decodeLossy rest := by
  obtain ⟨lead, tail, form, step⟩ := encodeChar_step c rest
  rw [form, List.cons_append, decodeLossy_cons, step]
  rfl

theorem decodeLossy_mark (blamed : Blamed piece (piece ++ rest)) :
    decodeLossy (piece ++ rest) = '\uFFFD' :: decodeLossy rest := by
  obtain ⟨lead, tail, rfl⟩ := List.exists_cons_of_ne_nil blamed.filled
  rw [List.cons_append] at blamed ⊢
  rw [decodeLossy_cons]
  cases hs : stepFrom lead (tail ++ rest) with
  | mk step after =>
    cases step with
    | char c => exact absurd ⟨after, (eq_encodeChar_of_step hs).symm⟩ (blamed.illFormed c)
    | bad count defect =>
      obtain ⟨piece, split, same⟩ := blamed_of_step hs
      rw [← blamed.unique same, List.cons_append, List.cons.injEq] at split
      rw [List.append_cancel_left split.2]
      rfl

end

/-- **What a lenient reader makes of bytes.** -/
theorem replaced_iff {bytes : Bytes} {text : List Char} :
    Replaced bytes text ↔ text = decodeLossy bytes := by
  constructor
  · intro h
    induction h with
    | done => exact decodeLossy_nil.symm
    | char _ ih => rw [decodeLossy_char, ih]
    | mark blamed _ ih => rw [decodeLossy_mark blamed, ih]
  · rintro rfl
    induction hn : bytes.length using Nat.strongRecOn generalizing bytes with
    | ind n ih =>
      cases bytes with
      | nil => exact decodeLossy_nil ▸ .done
      | cons lead rest =>
        have shorter := stepFrom_length lead rest
        cases hs : stepFrom lead rest with
        | mk step after =>
          have later : Replaced after (decodeLossy after) :=
            ih after.length (by simp only [hs, ← hn, List.length_cons] at shorter ⊢; omega) rfl
          cases step with
          | char c =>
            rw [eq_encodeChar_of_step hs, decodeLossy_char]
            exact .char later
          | bad count defect =>
            obtain ⟨piece, split, blamed⟩ := blamed_of_step hs
            rw [split] at blamed ⊢
            rw [decodeLossy_mark blamed]
            exact .mark blamed later

end EdgeSession.Utf8
