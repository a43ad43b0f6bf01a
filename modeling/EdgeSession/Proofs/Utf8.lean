import EdgeSession.Text.Utf8

/-!
UTF-8 has one form for each scalar value: a reader that meets the form of a text reads that text,
and a strict reader reads nothing else.
-/
namespace EdgeSession.Utf8

theorem char_valid (c : Char) : c.toNat < 0xD800 ∨ 0xDFFF < c.toNat ∧ c.toNat < 0x110000 :=
  c.valid

theorem toNat_ofNat {n : Nat} (h : n < 0xD800 ∨ 0xDFFF < n ∧ n < 0x110000) :
    (Char.ofNat n).toNat = n := by
  unfold Char.ofNat
  rw [dif_pos h]
  rfl

theorem isTail_iff {b : UInt8} : isTail b = true ↔ 0x80 ≤ b.toNat ∧ b.toNat < 0xC0 := by
  simp only [isTail, Bool.and_eq_true, decide_eq_true_eq, UInt8.le_iff_toNat_le, UInt8.reduceToNat]
  omega

/-- The second bytes that a lead byte of three or four takes, in numbers. -/
theorem isSecond_iff {lead b : UInt8} :
    isSecond lead b = true ↔ 0x80 ≤ b.toNat ∧ b.toNat < 0xC0 ∧
      (lead.toNat = 0xE0 → 0xA0 ≤ b.toNat) ∧ (lead.toNat = 0xED → b.toNat < 0xA0) ∧
      (lead.toNat = 0xF0 → 0x90 ≤ b.toNat) ∧ (lead.toNat = 0xF4 → b.toNat < 0x90) := by
  simp only [isSecond, beq_iff_eq, ← UInt8.toNat_inj, UInt8.reduceToNat]
  repeat' split
  all_goals
    simp only [isTail_iff, Bool.and_eq_true, decide_eq_true_eq, UInt8.le_iff_toNat_le,
      UInt8.reduceToNat]
    omega

/-! ## Sequences of one to four bytes -/

section
variable {lead b c d : UInt8} {rest : Bytes}

theorem stepFrom_one (h : lead.toNat < 0x80) :
    stepFrom lead rest = (.char (Char.ofNat lead.toNat), rest) := by
  simp only [stepFrom, UInt8.lt_iff_toNat_lt, UInt8.reduceToNat]
  rw [if_pos h]

theorem stepFrom_two (lo : 0xC2 ≤ lead.toNat) (hi : lead.toNat < 0xE0) (hb : isTail b = true) :
    stepFrom lead (b :: rest) = (.char (Char.ofNat (lead.toNat % 32 * 64 + low b)), rest) := by
  simp only [stepFrom, UInt8.lt_iff_toNat_lt, UInt8.reduceToNat]
  rw [if_neg (by omega), if_neg (by omega), if_pos hi, if_pos hb]

theorem stepFrom_three (lo : 0xE0 ≤ lead.toNat) (hi : lead.toNat < 0xF0)
    (hb : isSecond lead b = true) (hc : isTail c = true) :
    stepFrom lead (b :: c :: rest) =
      (.char (Char.ofNat (lead.toNat % 16 * 4096 + low b * 64 + low c)), rest) := by
  simp only [stepFrom, UInt8.lt_iff_toNat_lt, UInt8.reduceToNat]
  rw [if_neg (by omega), if_neg (by omega), if_neg (by omega), if_pos hi, if_neg (by simp [hb]),
    if_pos hc]

theorem stepFrom_four (lo : 0xF0 ≤ lead.toNat) (hi : lead.toNat < 0xF5)
    (hb : isSecond lead b = true) (hc : isTail c = true) (hd : isTail d = true) :
    stepFrom lead (b :: c :: d :: rest) =
      (.char (Char.ofNat
        (lead.toNat % 8 * 262144 + low b * 4096 + low c * 64 + low d)), rest) := by
  simp only [stepFrom, UInt8.lt_iff_toNat_lt, UInt8.reduceToNat]
  rw [if_neg (by omega), if_neg (by omega), if_neg (by omega), if_neg (by omega), if_pos hi,
    if_neg (by simp [hb]), if_neg (by simp [hc]), if_pos hd]

end

/-- The form of a scalar value is read as that value, and nothing behind it is touched. -/
theorem encodeChar_step (c : Char) (rest : Bytes) :
    ∃ lead tail, encodeChar c = lead :: tail ∧ stepFrom lead (tail ++ rest) = (.char c, rest) := by
  have valid := char_valid c
  have back := Char.ofNat_toNat c
  simp only [encodeChar]
  generalize c.toNat = n at valid back
  subst back
  have small {m : Nat} (h : m < 256) : (UInt8.ofNat m).toNat = m := by
    rw [UInt8.toNat_ofNat', Nat.mod_eq_of_lt h]
  split
  · refine ⟨_, _, rfl, ?_⟩
    rw [List.nil_append, stepFrom_one (by rw [small] <;> omega), small (by omega)]
  split
  · refine ⟨_, _, rfl, ?_⟩
    rw [List.singleton_append, stepFrom_two]
    · congr 3
      rw [low, small, small] <;> omega
    · rw [small] <;> omega
    · rw [small] <;> omega
    · rw [isTail_iff, small] <;> omega
  split
  · refine ⟨_, _, rfl, ?_⟩
    rw [List.cons_append, List.singleton_append, stepFrom_three]
    · congr 3
      rw [low, low, small, small, small] <;> omega
    · rw [small] <;> omega
    · rw [small] <;> omega
    · rw [isSecond_iff, small, small] <;> omega
    · rw [isTail_iff, small] <;> omega
  · refine ⟨_, _, rfl, ?_⟩
    rw [List.cons_append, List.cons_append, List.singleton_append, stepFrom_four]
    · congr 3
      rw [low, low, low, small, small, small, small] <;> omega
    · rw [small] <;> omega
    · rw [small] <;> omega
    · rw [isSecond_iff, small, small] <;> omega
    · rw [isTail_iff, small] <;> omega
    · rw [isTail_iff, small] <;> omega

section
variable {lead b c d : UInt8}

theorem encodeChar_one (h : lead.toNat < 0x80) : encodeChar (Char.ofNat lead.toNat) = [lead] := by
  rw [encodeChar, toNat_ofNat (by omega)]
  rw [if_pos h, UInt8.ofNat_toNat]

theorem encodeChar_two (lo : 0xC2 ≤ lead.toNat) (hi : lead.toNat < 0xE0) (hb : isTail b = true) :
    encodeChar (Char.ofNat (lead.toNat % 32 * 64 + low b)) = [lead, b] := by
  rw [isTail_iff] at hb
  rw [low, encodeChar, toNat_ofNat (by omega)]
  rw [if_neg (by omega), if_pos (by omega)]
  simp only [List.cons.injEq, ← UInt8.toNat_inj, UInt8.toNat_ofNat', Nat.reducePow, and_true]
  omega

theorem encodeChar_three (lo : 0xE0 ≤ lead.toNat) (hi : lead.toNat < 0xF0)
    (hb : isSecond lead b = true) (hc : isTail c = true) :
    encodeChar (Char.ofNat (lead.toNat % 16 * 4096 + low b * 64 + low c)) = [lead, b, c] := by
  rw [isSecond_iff] at hb
  rw [isTail_iff] at hc
  rw [low, low, encodeChar, toNat_ofNat (by omega)]
  rw [if_neg (by omega), if_neg (by omega), if_pos (by omega)]
  simp only [List.cons.injEq, ← UInt8.toNat_inj, UInt8.toNat_ofNat', Nat.reducePow, and_true]
  omega

theorem encodeChar_four (lo : 0xF0 ≤ lead.toNat) (hi : lead.toNat < 0xF5)
    (hb : isSecond lead b = true) (hc : isTail c = true) (hd : isTail d = true) :
    encodeChar (Char.ofNat
      (lead.toNat % 8 * 262144 + low b * 4096 + low c * 64 + low d)) = [lead, b, c, d] := by
  rw [isSecond_iff] at hb
  rw [isTail_iff] at hc hd
  rw [low, low, low, encodeChar, toNat_ofNat (by omega)]
  rw [if_neg (by omega), if_neg (by omega), if_neg (by omega)]
  simp only [List.cons.injEq, ← UInt8.toNat_inj, UInt8.toNat_ofNat', Nat.reducePow, and_true]
  omega

end

/-- What is read as a scalar value is the form of that value. -/
theorem eq_encodeChar_of_step {lead : UInt8} {rest after : Bytes} {c : Char}
    (h : stepFrom lead rest = (.char c, after)) : lead :: rest = encodeChar c ++ after := by
  simp only [stepFrom, UInt8.lt_iff_toNat_lt, UInt8.reduceToNat] at h
  split at h
  · rename_i one
    cases h
    rw [encodeChar_one one]
    rfl
  split at h
  · cases h
  split at h
  · split at h
    · cases h
    · split at h
      · rename_i hb
        cases h
        rw [encodeChar_two (by omega) (by omega) hb]
        rfl
      · cases h
  split at h
  · split at h
    · cases h
    · split at h
      · cases h
      · rename_i hb
        split at h
        · cases h
        · split at h
          · rename_i hc
            cases h
            rw [encodeChar_three (by omega) (by omega) (by simpa using hb) hc]
            rfl
          · cases h
  split at h
  · split at h
    · cases h
    · split at h
      · cases h
      · rename_i hb
        split at h
        · cases h
        · split at h
          · cases h
          · rename_i hc
            split at h
            · cases h
            · split at h
              · rename_i hd
                cases h
                rw [encodeChar_four (by omega) (by omega) (by simpa using hb) (by simpa using hc)
                  hd]
                rfl
              · cases h
  · cases h

/-! ## Texts -/

theorem decodeFrom_nil (position : Nat) (acc : List Char) :
    decodeFrom position acc [] = .ok acc.reverse := by
  rw [decodeFrom]

theorem decodeFrom_char {lead : UInt8} {rest after : Bytes} {c : Char} (position : Nat)
    (acc : List Char) (h : stepFrom lead rest = (.char c, after)) :
    decodeFrom position acc (lead :: rest) =
      decodeFrom (position + width lead) (c :: acc) after := by
  rw [decodeFrom]
  split
  · rename_i hc
    cases h.symm.trans hc
    rfl
  · rename_i hb
    cases h.symm.trans hb

theorem decodeFrom_bad {lead : UInt8} {rest after : Bytes} {count : Nat} {defect : Defect}
    (position : Nat) (acc : List Char) (h : stepFrom lead rest = (.bad count defect, after)) :
    decodeFrom position acc (lead :: rest) = .error ⟨position, count, lead, defect⟩ := by
  rw [decodeFrom]
  split
  · rename_i hc
    cases h.symm.trans hc
  · rename_i hb
    cases h.symm.trans hb
    rfl

theorem encodeChars_cons (c : Char) (s : List Char) :
    encodeChars (c :: s) = encodeChar c ++ encodeChars s := rfl

/-- No scalar value goes without a byte. -/
theorem length_le_encodeChars (s : List Char) : s.length ≤ (encodeChars s).length := by
  induction s with
  | nil => exact Nat.zero_le _
  | cons c s ih =>
    obtain ⟨lead, tail, form, -⟩ := encodeChar_step c []
    rw [encodeChars_cons, form, List.length_append, List.length_cons, List.length_cons]
    omega

theorem stepFrom_shorter {lead : UInt8} {rest after : Bytes} {step : Step}
    (h : stepFrom lead rest = (step, after)) : after.length ≤ rest.length := by
  have := stepFrom_length lead rest
  rwa [h] at this

theorem decodeFrom_encodeChars (position : Nat) (acc s : List Char) :
    decodeFrom position acc (encodeChars s) = .ok (acc.reverse ++ s) := by
  induction s generalizing position acc with
  | nil =>
    rw [List.append_nil]
    exact decodeFrom_nil position acc
  | cons c s ih =>
    obtain ⟨lead, tail, form, step⟩ := encodeChar_step c (encodeChars s)
    rw [encodeChars_cons, form, List.cons_append, decodeFrom_char _ _ step, ih]
    simp

theorem decodeFrom_ok {bytes : Bytes} {position : Nat} {acc s : List Char}
    (h : decodeFrom position acc bytes = .ok s) :
    ∃ t, s = acc.reverse ++ t ∧ bytes = encodeChars t := by
  induction hn : bytes.length using Nat.strongRecOn generalizing bytes position acc with
  | ind n ih =>
    cases bytes with
    | nil =>
      rw [decodeFrom_nil] at h
      exact ⟨[], by simpa using (Except.ok.inj h).symm, rfl⟩
    | cons lead rest =>
      cases hs : stepFrom lead rest with
      | mk step after =>
        cases step with
        | bad count defect =>
          rw [decodeFrom_bad position acc hs] at h
          cases h
        | char c =>
          rw [decodeFrom_char position acc hs] at h
          have shorter := stepFrom_shorter hs
          obtain ⟨t, rfl, ht⟩ := ih after.length
            (by simp only [← hn, List.length_cons]; omega) h rfl
          exact ⟨c :: t, by simp, by rw [eq_encodeChar_of_step hs, ht, encodeChars_cons]⟩

/-- **Strict reading undoes writing, and only that.** -/
theorem decode?_eq_ok_iff {bytes : Bytes} {s : List Char} :
    decode? bytes = .ok s ↔ bytes = encodeChars s := by
  constructor
  · intro h
    obtain ⟨t, rfl, ht⟩ := decodeFrom_ok h
    simpa using ht
  · rintro rfl
    exact decodeFrom_encodeChars 0 [] s

/-! ## Lenient reading -/

/-- What a lenient reader writes for a step. -/
def Step.written : Step → Char
  | .char c => c
  | .bad _ _ => '\uFFFD'

theorem decodeLossyFrom_cons (acc : List Char) (lead : UInt8) (rest : Bytes) :
    decodeLossyFrom acc (lead :: rest) =
      decodeLossyFrom ((stepFrom lead rest).1.written :: acc) (stepFrom lead rest).2 := by
  rw [decodeLossyFrom]
  split
  rename_i step after hs
  cases step <;> simp [hs, Step.written]

theorem decodeLossyFrom_eq (acc : List Char) (bytes : Bytes) :
    decodeLossyFrom acc bytes = acc.reverse ++ decodeLossy bytes := by
  induction hn : bytes.length using Nat.strongRecOn generalizing bytes acc with
  | ind n ih =>
    cases bytes with
    | nil => simp [decodeLossy, decodeLossyFrom]
    | cons lead rest =>
      have shorter : (stepFrom lead rest).2.length < n := by
        have := stepFrom_length lead rest
        simp only [← hn, List.length_cons]
        omega
      rw [decodeLossy, decodeLossyFrom_cons, decodeLossyFrom_cons, ih _ shorter _ _ rfl,
        ih _ shorter [_] _ rfl]
      simp

@[simp] theorem decodeLossy_nil : decodeLossy [] = [] := by
  simp [decodeLossy, decodeLossyFrom]

theorem decodeLossy_cons (lead : UInt8) (rest : Bytes) :
    decodeLossy (lead :: rest) =
      (stepFrom lead rest).1.written :: decodeLossy (stepFrom lead rest).2 := by
  rw [decodeLossy, decodeLossyFrom_cons, decodeLossyFrom_eq]
  rfl

/-- A lenient reader changes nothing in a well-formed text. -/
theorem decodeLossy_encodeChars (s : List Char) : decodeLossy (encodeChars s) = s := by
  induction s with
  | nil => exact decodeLossy_nil
  | cons c s ih =>
    obtain ⟨lead, tail, form, step⟩ := encodeChar_step c (encodeChars s)
    rw [encodeChars_cons, form, List.cons_append, decodeLossy_cons, step, ih]
    rfl

/-- A byte that no sequence has becomes one U+FFFD, as often as it stands there. -/
theorem decodeLossy_replicate (n : Nat) :
    decodeLossy (List.replicate n 0xFF) = List.replicate n '\uFFFD' := by
  induction n with
  | zero => exact decodeLossy_nil
  | succ n ih =>
    have step : stepFrom 0xFF (List.replicate n 0xFF) = (.bad 1 .start, List.replicate n 0xFF) := rfl
    rw [List.replicate_succ, decodeLossy_cons, step, ih]
    rfl

/-- A step either spends as many bytes as it writes, or one at least for the three of U+FFFD. -/
theorem step_written_length (lead : UInt8) (rest : Bytes) :
    (encodeChar (stepFrom lead rest).1.written).length + 3 * (stepFrom lead rest).2.length ≤
      3 * (rest.length + 1) := by
  cases hs : stepFrom lead rest with
  | mk step after =>
    have shorter := stepFrom_shorter hs
    cases step with
    | bad count defect =>
      have three : (encodeChar '\uFFFD').length = 3 := rfl
      simp only [Step.written, three]
      omega
    | char c =>
      have spent := congrArg List.length (eq_encodeChar_of_step hs)
      simp only [List.length_cons, List.length_append] at spent
      simp only [Step.written]
      omega

/-- Lenient reading makes at most three bytes out of one. -/
theorem decodeLossy_length (bytes : Bytes) :
    (encodeChars (decodeLossy bytes)).length ≤ 3 * bytes.length := by
  induction hn : bytes.length using Nat.strongRecOn generalizing bytes with
  | ind n ih =>
    cases bytes with
    | nil => simp [encodeChars]
    | cons lead rest =>
      have step := step_written_length lead rest
      have shorter := stepFrom_length lead rest
      simp only [List.length_cons] at hn
      have tail := ih _ (by omega) (stepFrom lead rest).2 rfl
      rw [decodeLossy_cons, encodeChars_cons, List.length_append]
      omega

end EdgeSession.Utf8
