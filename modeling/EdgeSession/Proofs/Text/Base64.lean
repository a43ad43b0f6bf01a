import EdgeSession.Text.Base64
import EdgeSession.Proofs.BigEndian

/-!
What lenient reading of Base64 makes of every text, and that it gets back what was written.
-/
namespace EdgeSession.Base64

variable {group : List Nat} {s between rest : List Char} {c : Char} {n : Nat} {acc bytes out : Bytes}

theorem value?_letter : ∀ n < 64, value? (letter n) = some n := by decide

theorem letter_ascii (n : Nat) : (letter n).toNat < 0x80 := by
  have small : ∀ n < 64, (letter n).toNat < 0x80 := by decide
  by_cases below : n < 64
  · exact small n below
  · rw [letter, if_neg (by omega), if_neg (by omega), if_neg (by omega), if_neg (by omega)]
    decide

theorem value?_lt (value : value? c = some n) : n < 64 := by
  simp only [value?, Bool.and_eq_true, decide_eq_true_eq] at value
  repeat' split at value
  all_goals simp only [Option.some.injEq, reduceCtorEq] at value
  all_goals omega

theorem ne_padding_of_value? (value : value? c = some n) : c ≠ '=' := by
  rintro rfl
  cases value

/-! ## What a text stands for -/

/-- The whole bytes among the bits of some letters, six to a letter. -/
def held (letters : List Nat) : Bytes :=
  Bytes.ofNat (6 * letters.length / 8)
    (letters.foldl (fun n value => n * 64 + value) 0 / 2 ^ (6 * letters.length % 8))

/-- No letters are among the characters. -/
def Foreign (s : List Char) : Prop := ∀ c ∈ s, value? c = none

/-- What may stand between the letters of a group and the next: anything foreign, with less padding
than completes the group. Only what has two letters can be completed. -/
structure PassedOver (group : List Nat) (between : List Char) : Prop where
  foreign : Foreign between
  incomplete : 2 ≤ group.length → group.length + between.count '=' < 4

/-- The bytes that a text stands for behind the letters of a group under way. -/
inductive StandsFor : (group : List Nat) → List Char → Bytes → Prop
  | nothing {s : List Char} (foreign : Foreign s) : StandsFor [] s []
  | letter {group : List Nat} {between : List Char} {c : Char} {n : Nat} {s : List Char}
      {bytes : Bytes} (passed : PassedOver group between) (value : value? c = some n)
      (more : group.length < 3) (rest : StandsFor (group ++ [n]) s bytes) :
      StandsFor group (between ++ c :: s) bytes
  | fourth {group : List Nat} {between : List Char} {c : Char} {n : Nat} {s : List Char}
      {bytes : Bytes} (passed : PassedOver group between) (value : value? c = some n)
      (full : group.length = 3) (rest : StandsFor [] s bytes) :
      StandsFor group (between ++ c :: s) (held (group ++ [n]) ++ bytes)
  /-- What follows the padding that completes a group counts for nothing. -/
  | padding {group : List Nat} {between s : List Char} (foreign : Foreign between)
      (two : 2 ≤ group.length) (last : group.length + between.count '=' = 3) :
      StandsFor group (between ++ '=' :: s) (held group)

theorem StandsFor.length (stands : StandsFor group s bytes) :
    4 * bytes.length ≤ 3 * (group.length + s.length) := by
  induction stands with
  | nothing => exact Nat.zero_le _
  | letter passed value more rest ih =>
    simp only [List.length_append, List.length_cons, List.length_nil] at ih ⊢
    omega
  | fourth passed value full rest ih =>
    simp only [List.length_append, List.length_cons, List.length_nil, held, Bytes.ofNat_length,
      full] at ih ⊢
    omega
  | padding foreign two last =>
    simp only [List.length_append, List.length_cons, held, Bytes.ofNat_length]
    omega

/-! ## Writing -/

theorem foreign_padding : Foreign ['='] := by simp [Foreign, value?]

theorem foreign_nil : Foreign [] := nofun

theorem passedOver_nil (short : group.length < 4) : PassedOver group [] :=
  ⟨foreign_nil, fun _ => short⟩

/-- Letters one right behind the other. -/
theorem StandsFor.written {a : Nat} (small : a < 64) (more : group.length < 3)
    (rest : StandsFor (group ++ [a]) s bytes) : StandsFor group (Base64.letter a :: s) bytes :=
  .letter (passedOver_nil (by omega)) (value?_letter a small) more rest

/-- Letters that are the base-64 digits of some bytes, filled up with zero bits, hold these bytes. -/
theorem held_eq {letters : List Nat} (count : 6 * letters.length / 8 = bytes.length)
    (number : letters.foldl (fun n value => n * 64 + value) 0 =
      bytes.toNat * 2 ^ (6 * letters.length % 8)) : held letters = bytes := by
  rw [held, number, Nat.mul_div_cancel _ (Nat.two_pow_pos _), count, Bytes.ofNat_toNat]

/-- What is written stands for the bytes it was made of. -/
theorem standsFor_encode (bytes : Bytes) : StandsFor [] (encode bytes) bytes := by
  induction bytes using encode.induct with
  | case1 => exact .nothing nofun
  | case2 a =>
    have first := a.toNat_lt
    rw [encode]
    generalize whole : a.toNat * 16 = n
    have holds : held [n / 64, n % 64] = [a] :=
      held_eq (by simp) (by simp [Bytes.toNat]; omega)
    have padded : StandsFor [n / 64, n % 64] ['=', '='] [a] := by
      rw [← holds]
      exact .padding foreign_padding (by simp) (by simp)
    exact .written (by omega) (by simp) (.written (by omega) (by simp) padded)
  | case3 a b =>
    have first := a.toNat_lt
    have second := b.toNat_lt
    rw [encode]
    generalize whole : (a.toNat * 256 + b.toNat) * 4 = n
    have holds : held [n / 4096, n / 64 % 64, n % 64] = [a, b] :=
      held_eq (by simp) (by simp [Bytes.toNat]; omega)
    have padded : StandsFor [n / 4096, n / 64 % 64, n % 64] ['='] [a, b] := by
      rw [← holds]
      exact .padding foreign_nil (by simp) (by simp)
    exact .written (by omega) (by simp) (.written (by omega) (by simp)
      (.written (by omega) (by simp) padded))
  | case4 a b c rest ih =>
    have first := a.toNat_lt
    have second := b.toNat_lt
    have third := c.toNat_lt
    rw [encode]
    generalize whole : (a.toNat * 256 + b.toNat) * 256 + c.toNat = n
    have holds : held [n / 262144, n / 4096 % 64, n / 64 % 64, n % 64] = [a, b, c] :=
      held_eq (by simp) (by simp [Bytes.toNat]; omega)
    have complete : StandsFor [n / 262144, n / 4096 % 64, n / 64 % 64]
        (letter (n % 64) :: encode rest) ([a, b, c] ++ rest) := by
      rw [← holds]
      exact .fourth (passedOver_nil (by simp)) (value?_letter _ (by omega)) (by simp) ih
    exact .written (by omega) (by simp) (.written (by omega) (by simp)
      (.written (by omega) (by simp) complete))

theorem encode_ascii (bytes : Bytes) : ∀ c ∈ encode bytes, c.toNat < 0x80 := by
  have padding : '='.toNat < 0x80 := by decide
  induction bytes using encode.induct with
  | case1 => exact List.forall_mem_nil _
  | case2 a =>
    simp only [encode, List.forall_mem_cons]
    exact ⟨letter_ascii _, letter_ascii _, padding, padding, List.forall_mem_nil _⟩
  | case3 a b =>
    simp only [encode, List.forall_mem_cons]
    exact ⟨letter_ascii _, letter_ascii _, letter_ascii _, padding, List.forall_mem_nil _⟩
  | case4 a b c rest ih =>
    simp only [encode, List.forall_mem_cons]
    exact ⟨letter_ascii _, letter_ascii _, letter_ascii _, letter_ascii _, ih⟩

/-! ## Reading -/

section
variable {p : Progress}

theorem decodeFrom_letter (value : value? c = some n) (s : List Char) :
    decodeFrom p (c :: s) = decodeFrom (p.take n) s := by
  rw [decodeFrom, if_neg (ne_padding_of_value? value), value]

theorem decodeFrom_foreign (foreign : value? c = none) (other : c ≠ '=') (s : List Char) :
    decodeFrom p (c :: s) = decodeFrom p s := by
  rw [decodeFrom, if_neg other, foreign]

/-- Before the second letter of a group nothing counts but letters. -/
theorem decodeFrom_before (early : p.group.length < 2) (foreign : Foreign between)
    (s : List Char) : decodeFrom p (between ++ s) = decodeFrom p s := by
  induction between with
  | nil => rfl
  | cons c between ih =>
    have others := ih fun d mem => foreign d (List.mem_cons_of_mem c mem)
    rw [List.cons_append, ← others]
    by_cases padding : c = '='
    · rw [decodeFrom, if_pos padding, if_pos early]
    · exact decodeFrom_foreign (foreign c List.mem_cons_self) padding _

/-- After it, padding is counted as long as it does not complete the group. -/
theorem decodeFrom_counted (two : 2 ≤ p.group.length) (foreign : Foreign between)
    (incomplete : p.group.length + p.padding + between.count '=' < 4) (s : List Char) :
    decodeFrom p (between ++ s) =
      decodeFrom { p with padding := p.padding + between.count '=' } s := by
  induction between generalizing p with
  | nil => rfl
  | cons c between ih =>
    have others : Foreign between := fun d mem => foreign d (List.mem_cons_of_mem c mem)
    rw [List.cons_append]
    by_cases padding : c = '='
    · subst padding
      rw [List.count_cons_self] at incomplete ⊢
      rw [decodeFrom, if_pos rfl, if_neg (by omega), if_pos (by omega)]
      have counted := ih (p := { p with padding := p.padding + 1 }) two others (by simp; omega)
      rw [counted, Nat.add_assoc, Nat.add_comm 1]
    · rw [List.count_cons_of_ne padding] at incomplete ⊢
      rw [decodeFrom_foreign (foreign c List.mem_cons_self) padding]
      exact ih two others incomplete

/-- What completes a group ends the text. -/
theorem decodeFrom_padding (two : 2 ≤ p.group.length) (last : p.group.length + p.padding = 3)
    (s : List Char) : decodeFrom p ('=' :: s) = some (groupBytes p.group ++ p.bytes).reverse := by
  rw [decodeFrom, if_pos rfl, if_neg (by omega), if_neg (by omega)]

end

/-- Letters are values below 64. -/
def AreLetters (group : List Nat) : Prop := ∀ n ∈ group, n < 64

theorem areLetters_nil : AreLetters [] := nofun

theorem AreLetters.concat (letters : AreLetters group) (value : value? c = some n) :
    AreLetters (group ++ [n]) := by
  intro m mem
  obtain mem | mem := List.mem_append.mp mem
  · exact letters m mem
  · rw [List.mem_singleton.mp mem]
    exact value?_lt value

theorem reverse_groupBytes (letters : AreLetters group) (two : 2 ≤ group.length)
    (most : group.length ≤ 4) : (groupBytes group).reverse = held group := by
  match group with
  | [a, b] =>
    obtain ⟨ha, hb⟩ : a < 64 ∧ b < 64 := by simpa [AreLetters] using letters
    simp [groupBytes, held, Bytes.ofNat, ← UInt8.toNat_inj]
    omega
  | [a, b, c] =>
    obtain ⟨ha, hb, hc⟩ : a < 64 ∧ b < 64 ∧ c < 64 := by simpa [AreLetters] using letters
    simp [groupBytes, held, Bytes.ofNat, ← UInt8.toNat_inj]
    omega
  | [a, b, c, d] =>
    obtain ⟨ha, hb, hc, hd⟩ : a < 64 ∧ b < 64 ∧ c < 64 ∧ d < 64 := by
      simpa [AreLetters] using letters
    simp [groupBytes, held, Bytes.ofNat, ← UInt8.toNat_inj]
    omega

theorem decodeFrom_completed (letters : AreLetters group) (foreign : Foreign between)
    (two : 2 ≤ group.length) (last : group.length + between.count '=' = 3) (acc : Bytes)
    (s : List Char) :
    decodeFrom ⟨acc, group, 0⟩ (between ++ '=' :: s) = some (acc.reverse ++ held group) := by
  rw [decodeFrom_counted two foreign (by simp; omega), decodeFrom_padding two (by simp; omega),
    List.reverse_append, reverse_groupBytes letters two (by omega)]

theorem decodeFrom_passed (passed : PassedOver group between) (acc : Bytes) (s : List Char) :
    ∃ padding, decodeFrom ⟨acc, group, 0⟩ (between ++ s) = decodeFrom ⟨acc, group, padding⟩ s := by
  by_cases two : 2 ≤ group.length
  · have incomplete := passed.incomplete two
    exact ⟨_, decodeFrom_counted two passed.foreign (by simp; omega) s⟩
  · exact ⟨0, decodeFrom_before (by simp; omega) passed.foreign s⟩

theorem decodeFrom_value (passed : PassedOver group between) (value : value? c = some n)
    (acc : Bytes) (s : List Char) :
    decodeFrom ⟨acc, group, 0⟩ (between ++ c :: s) =
      decodeFrom (Progress.take ⟨acc, group, 0⟩ n) s := by
  obtain ⟨padding, same⟩ := decodeFrom_passed passed acc (c :: s)
  rw [same, decodeFrom_letter value]
  rfl

theorem decodeFrom_of_standsFor (stands : StandsFor group s bytes) (letters : AreLetters group)
    (acc : Bytes) :
    decodeFrom ⟨acc, group, 0⟩ s = some (acc.reverse ++ bytes) := by
  induction stands generalizing acc with
  | @nothing s foreign =>
    rw [← List.append_nil s, decodeFrom_before (by simp) foreign]
    simp [decodeFrom]
  | @letter group between c n s bytes passed value more rest ih =>
    rw [decodeFrom_value passed value, Progress.take, if_neg (by simp; omega)]
    exact ih (letters.concat value) acc
  | @fourth group between c n s bytes passed value full rest ih =>
    have complete := reverse_groupBytes (letters.concat value) (by simp; omega) (by simp; omega)
    rw [decodeFrom_value passed value, Progress.take, if_pos full, ih areLetters_nil,
      List.reverse_append, complete, List.append_assoc]
  | padding foreign two last => exact decodeFrom_completed letters foreign two last acc _

/-! ## What is read is what a text stands for -/

theorem first_letter (s : List Char) :
    Foreign s ∨ ∃ between c n rest, s = between ++ c :: rest ∧ Foreign between ∧
      value? c = some n := by
  induction s with
  | nil => exact .inl foreign_nil
  | cons c s ih =>
    cases value : value? c with
    | some n => exact .inr ⟨[], c, n, s, rfl, foreign_nil, value⟩
    | none =>
      have foreign {t : List Char} (others : Foreign t) : Foreign (c :: t) :=
        List.forall_mem_cons.mpr ⟨value, others⟩
      obtain others | ⟨between, d, n, rest, rfl, others, found⟩ := ih
      · exact .inl (foreign others)
      · exact .inr ⟨c :: between, d, n, rest, rfl, foreign others, found⟩

theorem nth_padding (k : Nat) (more : k < s.count '=') :
    ∃ front back, s = front ++ '=' :: back ∧ front.count '=' = k := by
  induction s generalizing k with
  | nil => cases more
  | cons c s ih =>
    by_cases padding : c = '='
    · subst padding
      cases k with
      | zero => exact ⟨[], s, rfl, rfl⟩
      | succ k =>
        rw [List.count_cons_self] at more
        obtain ⟨front, back, rfl, count⟩ := ih k (by omega)
        exact ⟨'=' :: front, back, rfl, by rw [List.count_cons_self, count]⟩
    · rw [List.count_cons_of_ne padding] at more
      obtain ⟨front, back, rfl, count⟩ := ih k more
      exact ⟨c :: front, back, rfl, by rw [List.count_cons_of_ne padding, count]⟩

/-- Foreign characters are passed over, or the padding among them completes the group. -/
theorem passed_or_completed (foreign : Foreign between) (short : group.length < 4) :
    PassedOver group between ∨ 2 ≤ group.length ∧ ∃ front back, between = front ++ '=' :: back ∧
      Foreign front ∧ group.length + front.count '=' = 3 := by
  by_cases incomplete : 2 ≤ group.length → group.length + between.count '=' < 4
  · exact .inl ⟨foreign, incomplete⟩
  · obtain ⟨two, complete⟩ := Classical.not_imp.mp incomplete
    obtain ⟨front, back, rfl, count⟩ := nth_padding (s := between) (3 - group.length) (by omega)
    refine .inr ⟨two, front, back, rfl, fun c mem => ?_, by omega⟩
    exact foreign c (List.mem_append_left _ mem)

theorem standsFor_of_decodeFrom (letters : AreLetters group) (short : group.length < 4)
    (read : decodeFrom ⟨acc, group, 0⟩ s = some out) :
    ∃ bytes, out = acc.reverse ++ bytes ∧ StandsFor group s bytes := by
  induction size : s.length using Nat.strongRecOn generalizing group acc s with
  | ind size' ih =>
    have completed (front tail : List Char) (whole : s = front ++ '=' :: tail)
        (foreign : Foreign front) (two : 2 ≤ group.length)
        (last : group.length + front.count '=' = 3) :
        ∃ bytes, out = acc.reverse ++ bytes ∧ StandsFor group s bytes := by
      rw [whole, decodeFrom_completed letters foreign two last] at read
      exact ⟨_, (Option.some.inj read).symm, whole ▸ .padding foreign two last⟩
    obtain foreign | ⟨between, c, n, rest, rfl, foreign, value⟩ := first_letter s
    · obtain passed | ⟨two, front, back, whole, before, last⟩ := passed_or_completed foreign short
      · -- The text ends here, which it may only between two groups.
        obtain ⟨padding, same⟩ := decodeFrom_passed passed acc []
        rw [List.append_nil] at same
        rw [same, decodeFrom] at read
        cases group with
        | nil => exact ⟨[], by simpa using read.symm, .nothing foreign⟩
        | cons first group => cases read
      · exact completed front back whole before two last
    · obtain passed | ⟨two, front, back, rfl, before, last⟩ := passed_or_completed foreign short
      · have shorter : rest.length < size' := by
          rw [← size, List.length_append, List.length_cons]
          omega
        have letters' := letters.concat value
        rw [decodeFrom_value passed value, Progress.take] at read
        split at read
        · rename_i full
          have full : group.length = 3 := full
          obtain ⟨bytes, rfl, stands⟩ := ih _ shorter areLetters_nil (by decide) read rfl
          refine ⟨held (group ++ [n]) ++ bytes, ?_, .fourth passed value full stands⟩
          rw [List.reverse_append, reverse_groupBytes letters' (by simp; omega) (by simp; omega),
            List.append_assoc]
        · rename_i unfilled
          have more : group.length < 3 := by
            have : group.length ≠ 3 := unfilled
            omega
          obtain ⟨bytes, rfl, stands⟩ := ih _ shorter letters' (by simp; omega) read rfl
          exact ⟨bytes, rfl, .letter passed value more stands⟩
      · exact completed front (back ++ c :: rest) (by simp) before two last

/-- **Lenient reading gives the bytes that a text stands for.** -/
theorem decode?_eq_some_iff : decode? s = some bytes ↔ StandsFor [] s bytes := by
  constructor
  · intro read
    obtain ⟨bytes', rfl, stands⟩ := standsFor_of_decodeFrom areLetters_nil (by decide) read
    exact stands
  · intro stands
    exact decodeFrom_of_standsFor stands areLetters_nil []

theorem decode?_encode (bytes : Bytes) : decode? (encode bytes) = some bytes :=
  decode?_eq_some_iff.mpr (standsFor_encode bytes)

end EdgeSession.Base64
