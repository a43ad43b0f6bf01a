import EdgeSession.Json.Printer
import EdgeSession.Json.Reader
import EdgeSession.Proofs.Utf8

/-!
Words, integers and strings are read as they were written, whatever follows them.
-/
namespace EdgeSession

namespace Text

theorem hexValue?_hexDigit : ∀ d < 16, hexValue? (hexDigit d) = some d := by decide

theorem ofHex?_hex {n : Nat} (h : n < 0x10000) : ofHex? (hex 4 n) = some n := by
  have digit (k : Nat) : hexValue? (hexDigit (k % 16)) = some (k % 16) :=
    hexValue?_hexDigit _ (Nat.mod_lt _ (by decide))
  simp only [hex, ofHex?, List.nil_append, List.cons_append, List.foldlM_cons, List.foldlM_nil,
    digit, Option.map_some, Option.bind_eq_bind, Option.bind_some, Option.pure_def,
    Option.some.injEq]
  omega

end Text

namespace Json

variable {α : Type}

/-- Whether each escape for one half of a surrogate pair stands beside the other half. A lone one
stands for no character, and the reader takes it for U+FFFD. -/
def isPaired : List Char → Bool
  | '\x5c' :: 'u' :: a :: b :: c :: d :: rest =>
    match Text.ofHex? [a, b, c, d] with
    | none => isPaired rest
    | some n =>
      if isHighSurrogate n then
        match rest with
        | '\x5c' :: 'u' :: e :: f :: g :: h :: rest =>
          (Text.ofHex? [e, f, g, h]).any isLowSurrogate && isPaired rest
        | _ => false
      else !isLowSurrogate n && isPaired rest
  | '\x5c' :: _ :: rest => isPaired rest
  | _ :: rest => isPaired rest
  | [] => true

example : isPaired (unitEscape 0xD83D ++ unitEscape 0xDE00) = true ∧
    isPaired (unitEscape 0xD83D) = false := by decide

/-- A reader takes a text for a value and stops right behind it, wherever the text stands. -/
def Reads (read : Cursor → Except Fault (α × Cursor)) (text : List Char) (value : α)
    (rest : List Char) : Prop :=
  ∀ position, ∃ after, read ⟨position, text ++ rest⟩ = .ok (value, ⟨after, rest⟩)

/-! ## Strings -/

section
variable {start fuel : Nat} {acc rest : List Char} {c : Char}

/-- The last of the four digits of an escape always has something behind it: the closing quote, if
nothing else. -/
theorem readUnit_hex {n : Nat} (h : n < 0x10000) (more : rest ≠ []) (place : Nat) :
    readUnit place (Text.hex 4 n ++ rest) = .ok (n, rest) := by
  obtain ⟨next, behind, rfl⟩ := List.exists_cons_of_ne_nil more
  have value := Text.ofHex?_hex h
  simp only [Text.hex, List.nil_append, List.cons_append] at value ⊢
  simp only [readUnit, value]

theorem shortEscape?_shortEscape {escape : List Char} (h : shortEscape c = some escape) :
    ∃ letter, escape = ['\x5c', letter] ∧ letter ≠ 'u' ∧ shortEscape? letter = some c := by
  unfold shortEscape at h
  repeat' split at h
  all_goals cases h
  all_goals
    rename_i same
    obtain rfl := eq_of_beq same
    exact ⟨_, rfl, by decide, rfl⟩

/-- A character of its own: no quote, no backslash and no control. -/
theorem readString_plain (quote : c ≠ '\x22') (backslash : c ≠ '\x5c') (printable : 0x20 ≤ c.toNat)
    (position : Nat) :
    readString start (fuel + 1) acc ⟨position, c :: rest⟩ =
      readString start fuel (c :: acc) ⟨position + 1, rest⟩ := by
  simp [readString, backslash, Nat.not_lt.mpr printable]

theorem readString_short {letter : Char} (other : letter ≠ 'u')
    (escape : shortEscape? letter = some c) (position : Nat) :
    readString start (fuel + 1) acc ⟨position, '\x5c' :: letter :: rest⟩ =
      readString start fuel (c :: acc) ⟨position + 2, rest⟩ := by
  simp [readString, escape]

theorem readString_unit {n : Nat} (h : n < 0x10000) (single : isHighSurrogate n = false)
    (more : rest ≠ []) (position : Nat) :
    readString start (fuel + 1) acc ⟨position, unitEscape n ++ rest⟩ =
      readString start fuel (unitChar n :: acc) ⟨position + 6, rest⟩ := by
  simp only [unitEscape, List.cons_append, readString, readUnit_hex h more, single]

theorem readString_pair {n m : Nat} (high : isHighSurrogate n = true)
    (low : isLowSurrogate m = true) (more : rest ≠ []) (position : Nat) :
    readString start (fuel + 1) acc ⟨position, unitEscape n ++ (unitEscape m ++ rest)⟩ =
      readString start fuel (pairChar n m :: acc) ⟨position + 12, rest⟩ := by
  have first : n < 0x10000 := by simp [isHighSurrogate] at high; omega
  have second : m < 0x10000 := by simp [isLowSurrogate] at low; omega
  have behind : ¬(Text.hex 4 m ++ rest).length ≤ 4 := by
    have := List.length_pos_iff.mpr more
    simp only [Text.hex, List.nil_append, List.cons_append, List.length_cons]
    omega
  have unit : readUnit (position + 1) (Text.hex 4 n ++ (unitEscape m ++ rest)) =
      .ok (n, unitEscape m ++ rest) := readUnit_hex first (by simp [unitEscape]) _
  rw [unitEscape, List.cons_append, List.cons_append]
  simp only [readString, unit, high]
  simp only [unitEscape, List.cons_append, behind, if_false, readUnit_hex second more, low,
    if_true]

theorem toNat_not_surrogate (c : Char) :
    isHighSurrogate c.toNat = false ∧ isLowSurrogate c.toNat = false := by
  have valid := Utf8.char_valid c
  simp only [isHighSurrogate, isLowSurrogate, Bool.and_eq_false_iff, decide_eq_false_iff_not]
  omega

theorem unitChar_toNat (c : Char) : unitChar c.toNat = c := by
  simp [unitChar, toNat_not_surrogate]

theorem pairChar_toNat (above : 0x10000 ≤ c.toNat) :
    pairChar (0xD800 + (c.toNat - 0x10000) / 0x400) (0xDC00 + (c.toNat - 0x10000) % 0x400) = c := by
  have whole : 0x10000 + (0xD800 + (c.toNat - 0x10000) / 0x400 - 0xD800) * 0x400 +
      (0xDC00 + (c.toNat - 0x10000) % 0x400 - 0xDC00) = c.toNat := by omega
  rw [pairChar, whole, Char.ofNat_toNat]

/-- Whatever a character is written as, it takes one step to read. -/
theorem readString_escapeAscii (start fuel : Nat) (acc : List Char) (c : Char) (more : rest ≠ [])
    (position : Nat) :
    ∃ after, readString start (fuel + 1) acc ⟨position, escapeAscii c ++ rest⟩ =
      readString start fuel (c :: acc) ⟨after, rest⟩ := by
  cases short : shortEscape c with
  | some escape =>
    obtain ⟨letter, rfl, other, means⟩ := shortEscape?_shortEscape short
    simp only [escapeAscii, short]
    exact ⟨_, readString_short other means position⟩
  | none =>
    simp only [escapeAscii, short]
    split
    · rename_i printable
      simp only [Bool.and_eq_true, decide_eq_true_eq] at printable
      refine ⟨_, readString_plain ?_ ?_ printable.1 position⟩
      · rintro rfl
        cases short
      · rintro rfl
        cases short
    · split
      · rename_i low
        refine ⟨position + 6, ?_⟩
        rw [readString_unit low (toNat_not_surrogate c).1 more, unitChar_toNat]
      · rename_i above
        have above : 0x10000 ≤ c.toNat := Nat.not_lt.mp above
        have bound := Utf8.char_valid c
        have high : isHighSurrogate (0xD800 + (c.toNat - 0x10000) / 0x400) = true := by
          simp only [isHighSurrogate, Bool.and_eq_true, decide_eq_true_eq]
          omega
        have low : isLowSurrogate (0xDC00 + (c.toNat - 0x10000) % 0x400) = true := by
          simp only [isLowSurrogate, Bool.and_eq_true, decide_eq_true_eq]
          omega
        refine ⟨position + 12, ?_⟩
        rw [List.append_assoc, readString_pair high low more, pairChar_toNat above]

theorem readString_escaped {s : List Char} (enough : s.length < fuel) :
    Reads (readString start fuel acc) (s.flatMap escapeAscii ++ ['\x22'])
      (String.ofList (acc.reverse ++ s)) rest := by
  intro position
  induction s generalizing fuel acc position with
  | nil =>
    obtain ⟨fuel, rfl⟩ := Nat.exists_eq_add_of_lt enough
    exact ⟨position + 1, by simp [readString]⟩
  | cons c s ih =>
    cases fuel with
    | zero => cases enough
    | succ fuel =>
      have more : s.flatMap escapeAscii ++ '\x22' :: rest ≠ [] := by simp
      obtain ⟨between, first⟩ := readString_escapeAscii start fuel acc c more position
      obtain ⟨after, others⟩ : ∃ after, readString start fuel (c :: acc)
          ⟨between, s.flatMap escapeAscii ++ ['\x22'] ++ rest⟩ =
            .ok (String.ofList ((c :: acc).reverse ++ s), ⟨after, rest⟩) :=
        ih (Nat.lt_of_succ_lt_succ enough) between
      refine ⟨after, ?_⟩
      simp only [List.flatMap_cons, List.append_assoc, List.singleton_append, List.reverse_cons]
        at first others ⊢
      rw [first, others]

theorem length_le_escaped (s : List Char) : s.length ≤ (s.flatMap escapeAscii).length := by
  have nonempty (c : Char) : 0 < (escapeAscii c).length := by
    simp only [escapeAscii]
    split
    · rename_i escape short
      obtain ⟨letter, rfl, -⟩ := shortEscape?_shortEscape short
      exact Nat.succ_pos _
    · repeat' split
      all_goals exact Nat.succ_pos _
  induction s with
  | nil => exact Nat.zero_le _
  | cons c s ih =>
    have := nonempty c
    simp only [List.length_cons, List.flatMap_cons, List.length_append]
    omega

/-- Behind its opening quote a string is read in as many steps as there are characters left. -/
theorem readString_quoted (start : Nat) (s : String) (rest : List Char) (position : Nat) :
    ∃ after, readString start ((s.toList.flatMap escapeAscii ++ '\x22' :: rest).length + 1) []
        ⟨position, s.toList.flatMap escapeAscii ++ '\x22' :: rest⟩ =
      .ok (s, ⟨after, rest⟩) := by
  have enough : s.toList.length <
      (s.toList.flatMap escapeAscii ++ '\x22' :: rest).length + 1 := by
    have := length_le_escaped s.toList
    rw [List.length_append]
    omega
  have reads : Reads (readString start _ []) _ _ rest := readString_escaped enough
  obtain ⟨after, read⟩ := reads position
  refine ⟨after, ?_⟩
  rw [List.append_assoc, List.singleton_append] at read
  rw [read, List.reverse_nil, List.nil_append, String.ofList_toList]

end

/-! ## Integers -/

/-- What may stand behind an integer: nothing that could belong to a number. -/
def Ends (rest : List Char) : Prop :=
  ∀ c, rest.head? = some c → Text.isAsciiDigit c = false ∧ c ≠ '.' ∧ c ≠ 'e' ∧ c ≠ 'E'

theorem isAsciiDigit_of_mem_toDigits {n : Nat} {c : Char} (h : c ∈ Nat.toDigits 10 n) :
    Text.isAsciiDigit c = true := by
  have digit := Nat.isDigit_of_mem_toDigits (by decide) (by decide) h
  simpa [Text.isAsciiDigit, Char.isDigit, UInt32.le_iff_toNat_le] using digit

theorem ofDigits_toDigits (n : Nat) : ofDigits (Nat.toDigits 10 n) = n := by
  have same := Nat.ofDigitChars_ten_toDigits (n := n)
  rw [Nat.ofDigitChars_eq_foldl] at same
  simp only [Nat.mul_comm] at same
  exact same

theorem head_toDigits_append (n : Nat) (rest : List Char) :
    (Nat.toDigits 10 n ++ rest).head? = (Nat.toDigits 10 n).head? := by
  obtain ⟨d, ds, eq⟩ := List.exists_cons_of_ne_nil (Nat.toDigits_ne_nil (n := n) (b := 10))
  rw [eq]
  rfl

/-- Only zero is written with a zero in front. -/
theorem head_toDigits {n : Nat} (positive : 0 < n) : (Nat.toDigits 10 n).head? ≠ some '0' := by
  induction n using Nat.strongRecOn with
  | ind n ih =>
    by_cases small : n < 10
    · have digit : ∀ n < 10, 0 < n → [Nat.digitChar n].head? ≠ some '0' := by decide
      rw [Nat.toDigits_of_lt_base small]
      exact digit n small positive
    · rw [Nat.toDigits_of_base_le (by decide) (by omega), head_toDigits_append]
      exact ih (n / 10) (by omega) (by omega)

section
variable {rest : List Char}

theorem takeWhile_toDigits (ends : Ends rest) (n : Nat) :
    (Nat.toDigits 10 n ++ rest).takeWhile Text.isAsciiDigit = Nat.toDigits 10 n := by
  rw [List.takeWhile_append_of_pos fun c => isAsciiDigit_of_mem_toDigits]
  cases rest with
  | nil => simp
  | cons c behind => simp [(ends c rfl).1]

theorem fraction?_of_ends (ends : Ends rest) : fraction? rest = none := by
  unfold fraction?
  split
  · exact absurd rfl (ends '.' rfl).2.1
  · rfl

theorem exponent?_of_ends (ends : Ends rest) : exponent? rest = none := by
  cases rest with
  | nil => rfl
  | cons c behind =>
    obtain ⟨-, -, lower, upper⟩ := ends c rfl
    simp [exponent?, lower, upper]

/-- The digits that are read at a number's start are those that were written: a zero in front is
taken alone, but only zero has one. -/
theorem wholeDigits_toDigits (ends : Ends rest) (n : Nat) :
    wholeDigits (Nat.toDigits 10 n ++ rest) = Nat.toDigits 10 n := by
  unfold wholeDigits
  split
  · rename_i behind front
    cases n with
    | zero => rfl
    | succ n =>
      have head := head_toDigits (Nat.succ_pos n)
      rw [← head_toDigits_append _ rest, front] at head
      exact absurd rfl head
  · exact takeWhile_toDigits ends n

theorem sign_toDigits (n : Nat) (rest : List Char) :
    sign (Nat.toDigits 10 n ++ rest) = (false, Nat.toDigits 10 n ++ rest) := by
  unfold sign
  split
  · rename_i behind front
    have head := head_toDigits_append n rest
    rw [front, List.head?_cons] at head
    exact absurd (isAsciiDigit_of_mem_toDigits (List.mem_of_head? head.symm)) (by decide)
  · rfl

theorem drop_sign {text body : List Char} {negative : Bool} (h : sign text = (negative, body)) :
    text.drop (if negative then 1 else 0) = body := by
  unfold sign at h
  split at h
  all_goals
    cases h
    rfl

theorem readNumber_toDigits (ends : Ends rest) {n : Nat} (short : n < Nat.pow 10 maxDigits)
    {text : List Char} {negative : Bool}
    (signed : sign text = (negative, Nat.toDigits 10 n ++ rest)) (position : Nat) :
    ∃ after, readNumber ⟨position, text⟩ =
      .ok (int (if negative then -n else n), ⟨after, rest⟩) := by
  have length : ¬(Nat.toDigits 10 n).length > maxDigits :=
    Nat.not_lt.mpr ((Nat.length_toDigits_le_iff (by decide) (by decide)).mpr short)
  have digits : (Nat.toDigits 10 n).isEmpty = false := by simp
  refine ⟨position + ((if negative then 1 else 0) + (Nat.toDigits 10 n).length), ?_⟩
  have behind : text.drop ((if negative then 1 else 0) + (Nat.toDigits 10 n).length) = rest := by
    rw [← List.drop_drop, drop_sign signed, List.drop_left]
  simp only [readNumber, signed, wholeDigits_toDigits ends, digits, List.drop_left,
    fraction?_of_ends ends, List.drop_zero, exponent?_of_ends ends, length, ofDigits_toDigits,
    if_false, Bool.false_eq_true, Cursor.advance, behind]

/-- An integer is written as its digits, behind a minus when it is negative. -/
theorem toString_int (n : Int) :
    (toString n).toList = (if n < 0 then ['-'] else []) ++ Nat.toDigits 10 n.natAbs := by
  have text : toString n = n.repr := rfl
  rw [text, Int.repr_eq_if]
  by_cases negative : n < 0
  · have digits : (-n).toNat = n.natAbs := by omega
    rw [if_neg (by omega), if_pos negative, digits, String.toList_append, Nat.toList_repr]
    rfl
  · have digits : n.toNat = n.natAbs := by omega
    rw [if_pos (by omega), if_neg negative, digits, Nat.toList_repr]
    rfl

theorem sign_toString (n : Int) (rest : List Char) :
    sign ((toString n).toList ++ rest) =
      (decide (n < 0), Nat.toDigits 10 n.natAbs ++ rest) := by
  rw [toString_int]
  split
  · rename_i negative
    simp [sign, negative]
  · rename_i negative
    simp [sign_toDigits, negative]

theorem reads_int (ends : Ends rest) {n : Int} (short : isShort (int n) = true) :
    Reads readNumber (toString n).toList (int n) rest := by
  intro position
  simp only [isShort, decide_eq_true_eq] at short
  have same : (if decide (n < 0) then -(n.natAbs : Int) else n.natAbs) = n := by
    split
    all_goals
      simp only [decide_eq_true_eq] at *
      omega
  have read := readNumber_toDigits ends short (sign_toString n rest) position
  rwa [same] at read

end

end Json
end EdgeSession
