import EdgeSession.Proofs.Utf8
import EdgeSession.Text.Form
import EdgeSession.Text.Hex

/-!
Form encoding undone. A query that is split at its ampersands and its equals signs has in each of
its pieces nothing but the encoded form of one name or value, from which the text is read again.
-/
namespace EdgeSession.Form

open Text

/-- The bytes that an encoded text stands for: a plus sign is a blank, a percent sign goes with the
two hexadecimal digits of a byte, and any other character is written as itself. -/
def unescape? : List Char → Option Bytes
  | [] => some []
  | '+' :: s => (unescape? s).map (0x20 :: ·)
  | '%' :: high :: low :: s => do
    let high ← hexValue? high
    let low ← hexValue? low
    return UInt8.ofNat (high * 16 + low) :: (← unescape? s)
  | c :: s => if c = '%' then none else (unescape? s).map (Utf8.encodeChar c ++ ·)

/-- The text that was encoded, when its bytes are UTF-8. -/
def decode? (s : List Char) : Option String := do
  let bytes ← unescape? s
  let text ← (Utf8.decode? bytes).toOption
  return String.ofList text

/-- The name and the value on the two sides of an equals sign. -/
def decodePair? (s : List Char) : Option (String × String) :=
  match s.splitOn '=' with
  | [name, value] => do return (← decode? name, ← decode? value)
  | _ => none

/-- The pairs between the ampersands. -/
def decodePairs? (s : List Char) : Option (List (String × String)) :=
  (s.splitOn '&').mapM decodePair?

variable {c : Char} {n : Nat}

/-! ## Characters -/

theorem isUnreserved_iff :
    isUnreserved c = true ↔ c.isAlphanum = true ∨ c ∈ ['_', '.', '-', '~'] := by
  have upper : c.isUpper = decide (0x41 ≤ c.val ∧ c.val ≤ 0x5A) := rfl
  have lower : c.isLower = (decide (0x61 ≤ c.val) && decide (c.val ≤ 0x7A)) := rfl
  have digit : c.isDigit = (decide (0x30 ≤ c.val) && decide (c.val ≤ 0x39)) := rfl
  have alphanum : c.isAlphanum = ((c.isUpper || c.isLower) || c.isDigit) := rfl
  simp only [isUnreserved, alphanum, upper, lower, digit, Char.toNat, UInt32.le_iff_toNat_le,
    Bool.or_eq_true, Bool.and_eq_true, decide_eq_true_eq, beq_iff_eq, List.mem_cons,
    List.not_mem_nil]
  grind

theorem hexValue?_upperHexDigit (small : n < 16) : hexValue? (upperHexDigit n) = some n := by
  have all : ∀ n < 16, hexValue? (upperHexDigit n) = some n := by decide
  exact all n small

theorem upperHexDigit_unreserved (small : n < 16) : isUnreserved (upperHexDigit n) = true := by
  have all : ∀ n < 16, isUnreserved (upperHexDigit n) = true := by decide
  exact all n small

/-- What the encoded form of a text is written with. -/
def IsCarrier (c : Char) : Prop := isUnreserved c = true ∨ c = '+' ∨ c = '%'

theorem percent_carrier (b : UInt8) : ∀ c ∈ percent b, IsCarrier c := by
  have byte := b.toNat_lt
  simp only [percent, List.forall_mem_cons]
  exact ⟨.inr (.inr rfl), .inl (upperHexDigit_unreserved (by omega)),
    .inl (upperHexDigit_unreserved (by omega)), nofun⟩

theorem encodeChar_carrier (c : Char) : ∀ d ∈ encodeChar c, IsCarrier d := by
  unfold encodeChar
  split
  · rename_i unreserved
    exact List.forall_mem_singleton.2 (.inl unreserved)
  split
  · exact List.forall_mem_singleton.2 (.inr (.inl rfl))
  · intro d mem
    obtain ⟨b, -, mem⟩ := List.mem_flatMap.1 mem
    exact percent_carrier b d mem

theorem encode_carrier (s : String) : ∀ c ∈ encode s, IsCarrier c := by
  intro c mem
  obtain ⟨d, -, mem⟩ := List.mem_flatMap.1 mem
  exact encodeChar_carrier d c mem

/-! ## Texts -/

theorem unescape?_percent (b : UInt8) (s : List Char) :
    unescape? (percent b ++ s) = (unescape? s).map (b :: ·) := by
  have byte := b.toNat_lt
  have same : b.toNat / 16 * 16 + b.toNat % 16 = b.toNat := by omega
  simp only [percent, List.cons_append, List.nil_append, unescape?,
    hexValue?_upperHexDigit (by omega : b.toNat / 16 < 16),
    hexValue?_upperHexDigit (by omega : b.toNat % 16 < 16), Option.bind_eq_bind, Option.bind_some,
    same, UInt8.ofNat_toNat, Option.pure_def]
  cases unescape? s <;> rfl

theorem unescape?_percents (bytes : Bytes) (s : List Char) :
    unescape? (bytes.flatMap percent ++ s) = (unescape? s).map (bytes ++ ·) := by
  induction bytes with
  | nil => simp
  | cons b bytes ih =>
    rw [List.flatMap_cons, List.append_assoc, unescape?_percent, ih, Option.map_map]
    rfl

theorem unescape?_encodeChar (c : Char) (s : List Char) :
    unescape? (encodeChar c ++ s) = (unescape? s).map (Utf8.encodeChar c ++ ·) := by
  unfold encodeChar
  split
  · rename_i unreserved
    have plus : c ≠ '+' := by
      rintro rfl
      exact absurd unreserved (by decide)
    have mark : c ≠ '%' := by
      rintro rfl
      exact absurd unreserved (by decide)
    rw [List.singleton_append, unescape?.eq_4 _ _ plus fun _ _ _ same => absurd same mark, if_neg mark]
  split
  · rename_i blank
    rw [blank]
    rfl
  · exact unescape?_percents _ s

theorem unescape?_encode (s : String) : unescape? (encode s) = some (Utf8.encode s) := by
  have all (cs : List Char) :
      unescape? (cs.flatMap encodeChar) = some (Utf8.encodeChars cs) := by
    induction cs with
    | nil => rfl
    | cons c cs ih =>
      rw [List.flatMap_cons, unescape?_encodeChar, ih, Utf8.encodeChars_cons, Option.map_some]
  exact all s.toList

/-- The encoded form of a text stands for that text. -/
theorem decode?_encode (s : String) : decode? (encode s) = some s := by
  have read : Utf8.decode? (Utf8.encode s) = .ok s.toList := Utf8.decode?_eq_ok_iff.2 rfl
  simp only [decode?, unescape?_encode, read, Option.bind_eq_bind, Option.bind_some,
    Except.toOption, Option.pure_def, String.ofList_toList]

/-! ## Pairs -/

def encodePair (pair : String × String) : List Char := encode pair.1 ++ '=' :: encode pair.2

theorem encodePairs_eq (pairs : List (String × String)) :
    encodePairs pairs = ['&'].intercalate (pairs.map encodePair) := by
  induction pairs with
  | nil => rfl
  | cons pair pairs ih =>
    cases pairs with
    | nil => simp [encodePairs, encodePair]
    | cons second pairs =>
      rw [List.map_cons, List.map_cons, List.intercalate_cons_cons, ← List.map_cons, ← ih]
      simp [encodePairs, encodePair]

/-- No delimiter survives in an encoded text. -/
theorem not_mem_encode (delimiter : c = '&' ∨ c = '=') (s : String) : c ∉ encode s := by
  intro mem
  have carried := encode_carrier s c mem
  obtain rfl | rfl := delimiter <;> simp [IsCarrier, isUnreserved] at carried

theorem decodePair?_encodePair (pair : String × String) :
    decodePair? (encodePair pair) = some pair := by
  have joined : encodePair pair = ['='].intercalate [encode pair.1, encode pair.2] := by
    simp [encodePair]
  have apart : ∀ piece ∈ [encode pair.1, encode pair.2], '=' ∉ piece := by
    simp [not_mem_encode]
  simp only [decodePair?, joined, List.splitOn_intercalate '=' apart (List.cons_ne_nil _ _),
    decode?_encode, Option.bind_eq_bind, Option.bind_some, Option.pure_def]

theorem ampersand_not_mem (pair : String × String) : '&' ∉ encodePair pair := by
  simp [encodePair, not_mem_encode]

/-- Pairs that are encoded are read again, whatever their names and values are. -/
theorem decodePairs?_encodePairs {pairs : List (String × String)} (given : pairs ≠ []) :
    decodePairs? (encodePairs pairs) = some pairs := by
  have apart : ∀ piece ∈ pairs.map encodePair, '&' ∉ piece := by
    intro piece mem
    obtain ⟨pair, -, rfl⟩ := List.mem_map.1 mem
    exact ampersand_not_mem pair
  have each : decodePair? ∘ encodePair = fun pair => pure (id pair) :=
    funext decodePair?_encodePair
  -- No piece has an ampersand of its own, so splitting undoes the joining.
  rw [decodePairs?, encodePairs_eq, List.splitOn_intercalate '&' apart (by simpa using given),
    List.mapM_map, each, List.mapM_pure, List.map_id]
  rfl

/-- What encoded pairs are written with. -/
theorem encodePairs_chars (pairs : List (String × String)) :
    ∀ c ∈ encodePairs pairs, IsCarrier c ∨ c = '&' ∨ c = '=' := by
  have carried (s : String) : ∀ c ∈ encode s, IsCarrier c ∨ c = '&' ∨ c = '=' :=
    fun c mem => .inl (encode_carrier s c mem)
  fun_induction encodePairs pairs with
  | case1 => nofun
  | case2 name value =>
    simp only [List.forall_mem_append, List.forall_mem_cons]
    exact ⟨carried name, .inr (.inr trivial), carried value⟩
  | case3 name value rest _ ih =>
    simp only [List.forall_mem_append, List.forall_mem_cons]
    exact ⟨⟨carried name, .inr (.inr trivial), carried value⟩, .inr (.inl trivial), ih⟩

end EdgeSession.Form
