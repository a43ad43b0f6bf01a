import EdgeSession.Pack.Writer
import EdgeSession.Proofs.Pack.Written

/-!
What the writer puts down is a written form, at every boundary of every width, and the numbers that
can stand in a text are those that the writer takes.
-/
namespace EdgeSession.Pack

section
variable {lead : UInt8} {width : Nat}

/-- A header that takes any number of a width takes each number that the width holds. -/
theorem number_form {k : Nat → Header} {m : Nat}
    (form : ∀ n : Bytes, n.length = width → Announces (k (Bytes.toNat n)) (lead :: n))
    (fits : m < 256 ^ width) : Announces (k m) (lead :: Bytes.ofNat width m) := by
  have written := form (Bytes.ofNat width m) (Bytes.ofNat_length width m)
  rwa [Bytes.toNat_ofNat fits] at written

/-- A header of one byte, which takes any number below a limit. -/
theorem short_form {k : Nat → Header} {base limit m : Nat}
    (form : ∀ b : UInt8, base ≤ b.toNat → b.toNat < base + limit →
      Announces (k (b.toNat - base)) [b])
    (fits : m < limit) (byte : base + m < 256) : Announces (k m) [UInt8.ofNat (base + m)] := by
  have small : (UInt8.ofNat (base + m)).toNat = base + m := by
    rw [UInt8.toNat_ofNat', Nat.mod_eq_of_lt byte]
  have written := form (UInt8.ofNat (base + m)) (by omega) (by omega)
  rwa [small, Nat.add_sub_cancel_left] at written

theorem unsigned_form {m : Nat} (known : (lead, width) ∈ unsignedLeads) (fits : m < 256 ^ width) :
    Announces (.int m) (lead :: Bytes.ofNat width m) :=
  number_form (k := fun m => .int m) (fun _ h => .unsigned (h ▸ known)) fits

theorem signed_form {n : Int} (known : (lead, width) ∈ signedLeads)
    (fits : Bytes.HoldsSigned width n) (neg : n < 0) :
    Announces (.int n) (lead :: Bytes.ofNat width (n + (256 ^ width : Nat)).toNat) := by
  have form : Announces (.int (Bytes.toInt (Bytes.ofNat width (n + (256 ^ width : Nat)).toNat)))
      (lead :: Bytes.ofNat width (n + (256 ^ width : Nat)).toNat) :=
    .signed (by rwa [Bytes.ofNat_length])
  rwa [Bytes.toInt_ofNat_add fits neg] at form

theorem str_form {m : Nat} (known : (lead, width) ∈ strLeads) (fits : m < 256 ^ width) :
    Announces (.str m) (lead :: Bytes.ofNat width m) :=
  number_form (fun _ h => .str (h ▸ known)) fits

theorem bin_form {m : Nat} (known : (lead, width) ∈ binLeads) (fits : m < 256 ^ width) :
    Announces (.bin m) (lead :: Bytes.ofNat width m) :=
  number_form (fun _ h => .bin (h ▸ known)) fits

end

theorem packInt_announces_nonneg {m : Nat} (h : m < 0x10000000000000000) :
    Announces (.int m) (packInt m) := by
  simp only [packInt, Int.toNat_natCast]
  rw [if_pos (by omega)]
  split
  · have small : (UInt8.ofNat m).toNat = m := by
      rw [UInt8.toNat_ofNat']
      omega
    have form : Announces (.int (UInt8.ofNat m).toNat) [UInt8.ofNat m] := .positive (by omega)
    rwa [small] at form
  split
  · exact unsigned_form (by decide) (by omega)
  split
  · exact unsigned_form (by decide) (by omega)
  split
  · exact unsigned_form (by decide) (by omega)
  · exact unsigned_form (by decide) (by omega)

theorem packInt_announces_neg {n : Int} (lo : -0x8000000000000000 ≤ n) (neg : n < 0) :
    Announces (.int n) (packInt n) := by
  simp only [packInt]
  rw [if_neg (by omega)]
  split
  · have small : ((UInt8.ofNat (n + 256).toNat).toNat : Int) = n + 256 := by
      rw [UInt8.toNat_ofNat']
      omega
    have form : Announces (.int (((UInt8.ofNat (n + 256).toNat).toNat : Int) - 256))
        [UInt8.ofNat (n + 256).toNat] := .negative (by omega)
    rwa [small, Int.add_sub_cancel] at form
  split
  · exact signed_form (by decide) ⟨by omega, by omega⟩ neg
  split
  · exact signed_form (by decide) ⟨by omega, by omega⟩ neg
  split
  · exact signed_form (by decide) ⟨by omega, by omega⟩ neg
  · exact signed_form (by decide) ⟨by omega, by omega⟩ neg

theorem packInt_announces {n : Int} (h : Encodable n) : Announces (.int n) (packInt n) := by
  obtain ⟨lo, hi⟩ := h
  by_cases neg : n < 0
  · exact packInt_announces_neg lo neg
  · obtain ⟨m, rfl⟩ := Int.eq_ofNat_of_zero_le (Int.not_lt.1 neg)
    exact packInt_announces_nonneg (by omega)

theorem strHeader_announces {length : Nat} (h : length < 0x100000000) :
    Announces (.str length) (strHeader length) := by
  simp only [strHeader]
  split
  · exact short_form (k := .str) (fun _ lo hi => .shortStr lo hi) (by omega) (by omega)
  split
  · exact str_form (by decide) (by omega)
  split
  · exact str_form (by decide) (by omega)
  · exact str_form (by decide) (by omega)

theorem binHeader_announces {length : Nat} (h : length < 0x100000000) :
    Announces (.bin length) (binHeader length) := by
  simp only [binHeader]
  split
  · exact bin_form (by decide) (by omega)
  split
  · exact bin_form (by decide) (by omega)
  · exact bin_form (by decide) (by omega)

/-! ## Values of the writer -/

section
variable {room : Nat}

theorem Plain.written {value : Value} {bytes : Bytes} (h : Plain value bytes) :
    Written room value bytes := by
  cases room with
  | zero => exact h
  | succ room => exact .inl h

theorem packInt_written {n : Int} (h : Encodable n) : Written room (.int n) (packInt n) := by
  have plain : Plain (.int n) (packInt n ++ []) := .intro (packInt_announces h) (.int n)
  rw [List.append_nil] at plain
  exact plain.written

theorem packStr_written {s : List Char} (h : (Utf8.encodeChars s).length < 0x100000000) :
    Written room (.str s) (packStr s) :=
  Plain.written (.intro (strHeader_announces h) (.str s))

theorem packBin_written {data : Bytes} (h : data.length < 0x100000000) :
    Written room (.bin data) (packBin data) :=
  Plain.written (.intro (binHeader_announces h) (.bin data))

end

/-! ## Bounds on what is read -/

/-- A number of eight bytes at most is one of the format. -/
theorem encodable_toNat {bytes : Bytes} (h : bytes.length ≤ 8) : Encodable (Bytes.toNat bytes) := by
  have lt := Bytes.toNat_lt bytes
  have le : 256 ^ bytes.length ≤ 256 ^ 8 := Nat.pow_le_pow_right (by decide) h
  constructor <;> omega

theorem encodable_toInt {bytes : Bytes} (h : bytes.length ≤ 8) : Encodable (Bytes.toInt bytes) := by
  obtain ⟨lo, hi⟩ := Bytes.toInt_range bytes
  have le : 256 ^ bytes.length ≤ 256 ^ 8 := Nat.pow_le_pow_right (by decide) h
  constructor <;> omega

theorem Announces.encodable {n : Int} {front : Bytes} (h : Announces (.int n) front) :
    Encodable n := by
  generalize hh : Header.int n = header at h
  cases h with
  | positive hi =>
    cases hh
    constructor <;> omega
  | @negative b lo =>
    cases hh
    have := b.toNat_lt
    constructor <;> omega
  | unsigned known =>
    cases hh
    simp only [unsignedLeads, List.mem_cons, Prod.mk.injEq, List.not_mem_nil, or_false] at known
    exact encodable_toNat (by omega)
  | signed known =>
    cases hh
    simp only [signedLeads, List.mem_cons, Prod.mk.injEq, List.not_mem_nil, or_false] at known
    exact encodable_toInt (by omega)
  | _ => cases hh

/-- A text that stands somewhere has less than 2^32 bytes: no width counts more. -/
theorem Announces.str_lt {n : Nat} {front : Bytes} (h : Announces (.str n) front) :
    n < 0x100000000 := by
  generalize hh : Header.str n = header at h
  cases h with
  | @shortStr b lo hi =>
    rw [Header.str.inj hh]
    exact Nat.lt_of_le_of_lt (Nat.sub_le _ _) (Nat.lt_trans b.toNat_lt (by decide))
  | @str lead bytes known =>
    rw [Header.str.inj hh]
    have width : bytes.length ≤ 4 := by
      simp only [strLeads, List.mem_cons, Prod.mk.injEq, List.not_mem_nil, or_false] at known
      omega
    have le : 256 ^ bytes.length ≤ 256 ^ 4 := Nat.pow_le_pow_right (by decide) width
    exact Nat.lt_of_lt_of_le (Bytes.toNat_lt bytes) le
  | _ => cases hh

section
variable {room : Nat} {bytes : Bytes}

/-- A value that is no container is written in the form of its kind alone. -/
theorem Written.plain {value : Value} (h : Written room value bytes)
    (other : ∀ items, value ≠ .arr items) (notMap : ∀ pairs, value ≠ .map pairs) :
    Plain value bytes := by
  cases room with
  | zero => exact h
  | succ room =>
    rcases h with plain | container
    · exact plain
    cases container with
    | arr => exact absurd rfl (other _)
    | map => exact absurd rfl (notMap _)

theorem Written.int_encodable {n : Int} (h : Written room (.int n) bytes) : Encodable n := by
  cases h.plain (fun _ => nofun) (fun _ => nofun) with
  | intro announced leaf =>
    cases leaf
    exact announced.encodable

theorem Written.str_length {s : List Char} (h : Written room (.str s) bytes) :
    (Utf8.encodeChars s).length ≤ bytes.length := by
  cases h.plain (fun _ => nofun) (fun _ => nofun) with
  | intro announced leaf =>
    cases leaf
    simp

theorem Written.str_lt {s : List Char} (h : Written room (.str s) bytes) :
    (Utf8.encodeChars s).length < 0x100000000 := by
  cases h.plain (fun _ => nofun) (fun _ => nofun) with
  | intro announced leaf =>
    cases leaf
    exact announced.str_lt

theorem Written.bin_length {data : Bytes} (h : Written room (.bin data) bytes) :
    data.length ≤ bytes.length := by
  cases h.plain (fun _ => nofun) (fun _ => nofun) with
  | intro announced leaf =>
    cases leaf
    simp

end

end EdgeSession.Pack
