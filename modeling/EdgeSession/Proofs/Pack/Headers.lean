import EdgeSession.Pack.Reader
import EdgeSession.Proofs.BigEndian

/-!
The written forms of a header: what MessagePack allows to announce each kind of value, in every
width. The reader takes all of them and nothing else.
-/
namespace EdgeSession.Pack

/-- The bytes that announce a number of a fixed width, with that width. -/
def unsignedLeads : List (UInt8 × Nat) := [(0xCC, 1), (0xCD, 2), (0xCE, 4), (0xCF, 8)]
def signedLeads : List (UInt8 × Nat) := [(0xD0, 1), (0xD1, 2), (0xD2, 4), (0xD3, 8)]

/-- The bytes that announce a length or a count, with the width of that number. -/
def strLeads : List (UInt8 × Nat) := [(0xD9, 1), (0xDA, 2), (0xDB, 4)]
def binLeads : List (UInt8 × Nat) := [(0xC4, 1), (0xC5, 2), (0xC6, 4)]
def arrLeads : List (UInt8 × Nat) := [(0xDC, 2), (0xDD, 4)]
def mapLeads : List (UInt8 × Nat) := [(0xDE, 2), (0xDF, 4)]
def extLeads : List (UInt8 × Nat) := [(0xC7, 1), (0xC8, 2), (0xC9, 4)]

/-- The bytes that announce an application value of a fixed length, with that length. -/
def fixedExtLeads : List (UInt8 × Nat) := [(0xD4, 1), (0xD5, 2), (0xD6, 4), (0xD7, 8), (0xD8, 16)]

/-- The written forms of a header. A number goes into any width that holds it. -/
inductive Announces : Header → Bytes → Prop
  | nil : Announces .nil [0xC0]
  | no : Announces (.bool false) [0xC2]
  | yes : Announces (.bool true) [0xC3]
  | positive {b : UInt8} (hi : b.toNat < 0x80) : Announces (.int b.toNat) [b]
  | negative {b : UInt8} (lo : 0xE0 ≤ b.toNat) : Announces (.int ((b.toNat : Int) - 256)) [b]
  | unsigned {lead : UInt8} {n : Bytes} (h : (lead, n.length) ∈ unsignedLeads) :
      Announces (.int (Bytes.toNat n)) (lead :: n)
  | signed {lead : UInt8} {n : Bytes} (h : (lead, n.length) ∈ signedLeads) :
      Announces (.int (Bytes.toInt n)) (lead :: n)
  | single {bits : Bytes} (h : bits.length = 4) : Announces (.single bits) (0xCA :: bits)
  | double {bits : Bytes} (h : bits.length = 8) : Announces (.double bits) (0xCB :: bits)
  | shortStr {b : UInt8} (lo : 0xA0 ≤ b.toNat) (hi : b.toNat < 0xC0) :
      Announces (.str (b.toNat - 0xA0)) [b]
  | str {lead : UInt8} {n : Bytes} (h : (lead, n.length) ∈ strLeads) :
      Announces (.str (Bytes.toNat n)) (lead :: n)
  | bin {lead : UInt8} {n : Bytes} (h : (lead, n.length) ∈ binLeads) :
      Announces (.bin (Bytes.toNat n)) (lead :: n)
  | shortArr {b : UInt8} (lo : 0x90 ≤ b.toNat) (hi : b.toNat < 0xA0) :
      Announces (.arr (b.toNat - 0x90)) [b]
  | arr {lead : UInt8} {n : Bytes} (h : (lead, n.length) ∈ arrLeads) :
      Announces (.arr (Bytes.toNat n)) (lead :: n)
  | shortMap {b : UInt8} (lo : 0x80 ≤ b.toNat) (hi : b.toNat < 0x90) :
      Announces (.map (b.toNat - 0x80)) [b]
  | map {lead : UInt8} {n : Bytes} (h : (lead, n.length) ∈ mapLeads) :
      Announces (.map (Bytes.toNat n)) (lead :: n)
  | ext {lead code : UInt8} {n : Bytes} (h : (lead, n.length) ∈ extLeads) :
      Announces (.ext code (Bytes.toNat n)) (lead :: (n ++ [code]))
  | fixedExt {lead code : UInt8} {length : Nat} (h : (lead, length) ∈ fixedExtLeads) :
      Announces (.ext code length) [lead, code]

theorem readField_ok {width : Nat} {rest after : Bytes} {k : Bytes → Header} {header : Header} :
    readField width rest k = .ok (header, after) ↔
      ∃ field, field.length = width ∧ rest = field ++ after ∧ header = k field := by
  simp only [readField]
  constructor
  · intro h
    split at h
    · cases h
    · rename_i field after' hs
      cases h
      obtain ⟨hl, hr⟩ := Bytes.split?_eq_some.1 hs
      exact ⟨field, hl, hr, rfl⟩
  · rintro ⟨field, rfl, rfl, rfl⟩
    rw [Bytes.split?_append]

theorem readExtHeader_ok {width : Nat} {rest after : Bytes} {header : Header} :
    readExtHeader width rest = .ok (header, after) ↔
      ∃ field code, field.length = width ∧ rest = field ++ code :: after ∧
        header = .ext code (Bytes.toNat field) := by
  simp only [readExtHeader]
  constructor
  · intro h
    split at h
    · rename_i field code after' hs
      cases h
      obtain ⟨hl, hr⟩ := Bytes.split?_eq_some.1 hs
      exact ⟨field, code, hl, hr, rfl⟩
    · cases h
  · rintro ⟨field, code, rfl, rfl, rfl⟩
    rw [Bytes.split?_append]

theorem readFixedExt_ok {length : Nat} {rest after : Bytes} {header : Header} :
    readFixedExt length rest = .ok (header, after) ↔
      ∃ code, rest = code :: after ∧ header = .ext code length := by
  cases rest with
  | nil => simp [readFixedExt]
  | cons code rest =>
    simp only [readFixedExt, Except.ok.injEq, Prod.mk.injEq, List.cons.injEq]
    constructor
    · rintro ⟨rfl, rfl⟩
      exact ⟨code, ⟨rfl, rfl⟩, rfl⟩
    · rintro ⟨_, ⟨rfl, rfl⟩, rfl⟩
      exact ⟨rfl, rfl⟩

theorem mem_leads {lead : UInt8} {k width length : Nat} {leads : List (UInt8 × Nat)}
    (hk : lead.toNat = k) (hn : length = width) (h : (UInt8.ofNat k, width) ∈ leads) :
    (lead, length) ∈ leads := by
  subst hk hn
  rwa [UInt8.ofNat_toNat] at h

section
variable {lead : UInt8} {rest after : Bytes} {header : Header} {width : Nat}

theorem readField_announces {k : Bytes → Header} (h : readField width rest k = .ok (header, after))
    (form : ∀ n : Bytes, n.length = width → Announces (k n) (lead :: n)) :
    ∃ front, Announces header front ∧ lead :: rest = front ++ after := by
  obtain ⟨n, hn, rfl, rfl⟩ := readField_ok.1 h
  exact ⟨lead :: n, form n hn, rfl⟩

theorem readExtHeader_announces (h : readExtHeader width rest = .ok (header, after))
    (known : (lead, width) ∈ extLeads) :
    ∃ front, Announces header front ∧ lead :: rest = front ++ after := by
  obtain ⟨n, code, rfl, rfl, rfl⟩ := readExtHeader_ok.1 h
  exact ⟨lead :: (n ++ [code]), .ext known, by simp⟩

theorem readFixedExt_announces (h : readFixedExt width rest = .ok (header, after))
    (known : (lead, width) ∈ fixedExtLeads) :
    ∃ front, Announces header front ∧ lead :: rest = front ++ after := by
  obtain ⟨code, rfl, rfl⟩ := readFixedExt_ok.1 h
  exact ⟨[lead, code], .fixedExt known, rfl⟩

theorem readHeader_sound (h : readHeader lead rest = .ok (header, after)) :
    ∃ front, Announces header front ∧ lead :: rest = front ++ after := by
  simp only [readHeader] at h
  split at h
  · cases h
    exact ⟨[lead], .positive (by assumption), rfl⟩
  split at h
  · cases h
    exact ⟨[lead], .shortMap (by omega) (by assumption), rfl⟩
  split at h
  · cases h
    exact ⟨[lead], .shortArr (by omega) (by assumption), rfl⟩
  split at h
  · cases h
    exact ⟨[lead], .shortStr (by omega) (by assumption), rfl⟩
  split at h
  · cases h
    exact ⟨[lead], .negative (by assumption), rfl⟩
  -- the bytes 0xC0 to 0xDF, in order
  split at h <;> rename_i hl
  · cases h
    obtain rfl : lead = 0xC0 := UInt8.toNat_inj.1 hl
    exact ⟨_, .nil, rfl⟩
  · cases h
    obtain rfl : lead = 0xC2 := UInt8.toNat_inj.1 hl
    exact ⟨_, .no, rfl⟩
  · cases h
    obtain rfl : lead = 0xC3 := UInt8.toNat_inj.1 hl
    exact ⟨_, .yes, rfl⟩
  · exact readField_announces h fun n hn => .bin (mem_leads hl hn (by decide))
  · exact readField_announces h fun n hn => .bin (mem_leads hl hn (by decide))
  · exact readField_announces h fun n hn => .bin (mem_leads hl hn (by decide))
  · exact readExtHeader_announces h (mem_leads hl rfl (by decide))
  · exact readExtHeader_announces h (mem_leads hl rfl (by decide))
  · exact readExtHeader_announces h (mem_leads hl rfl (by decide))
  · obtain rfl : lead = 0xCA := UInt8.toNat_inj.1 hl
    exact readField_announces h fun n hn => .single hn
  · obtain rfl : lead = 0xCB := UInt8.toNat_inj.1 hl
    exact readField_announces h fun n hn => .double hn
  · exact readField_announces h fun n hn => .unsigned (mem_leads hl hn (by decide))
  · exact readField_announces h fun n hn => .unsigned (mem_leads hl hn (by decide))
  · exact readField_announces h fun n hn => .unsigned (mem_leads hl hn (by decide))
  · exact readField_announces h fun n hn => .unsigned (mem_leads hl hn (by decide))
  · exact readField_announces h fun n hn => .signed (mem_leads hl hn (by decide))
  · exact readField_announces h fun n hn => .signed (mem_leads hl hn (by decide))
  · exact readField_announces h fun n hn => .signed (mem_leads hl hn (by decide))
  · exact readField_announces h fun n hn => .signed (mem_leads hl hn (by decide))
  · exact readFixedExt_announces h (mem_leads hl rfl (by decide))
  · exact readFixedExt_announces h (mem_leads hl rfl (by decide))
  · exact readFixedExt_announces h (mem_leads hl rfl (by decide))
  · exact readFixedExt_announces h (mem_leads hl rfl (by decide))
  · exact readFixedExt_announces h (mem_leads hl rfl (by decide))
  · exact readField_announces h fun n hn => .str (mem_leads hl hn (by decide))
  · exact readField_announces h fun n hn => .str (mem_leads hl hn (by decide))
  · exact readField_announces h fun n hn => .str (mem_leads hl hn (by decide))
  · exact readField_announces h fun n hn => .arr (mem_leads hl hn (by decide))
  · exact readField_announces h fun n hn => .arr (mem_leads hl hn (by decide))
  · exact readField_announces h fun n hn => .map (mem_leads hl hn (by decide))
  · exact readField_announces h fun n hn => .map (mem_leads hl hn (by decide))
  · cases h

end

theorem readHeader_complete {header : Header} {front : Bytes} (h : Announces header front)
    (after : Bytes) :
    ∃ lead rest, front = lead :: rest ∧ readHeader lead (rest ++ after) = .ok (header, after) := by
  cases h with
  | nil | no | yes => exact ⟨_, [], rfl, rfl⟩
  | positive hi =>
    refine ⟨_, [], rfl, ?_⟩
    simp only [readHeader]
    rw [if_pos hi]
    rfl
  | negative lo =>
    refine ⟨_, [], rfl, ?_⟩
    simp only [readHeader]
    rw [if_neg (by omega), if_neg (by omega), if_neg (by omega), if_neg (by omega), if_pos lo]
    rfl
  | shortMap lo hi =>
    refine ⟨_, [], rfl, ?_⟩
    simp only [readHeader]
    rw [if_neg (by omega), if_pos hi]
    rfl
  | shortArr lo hi =>
    refine ⟨_, [], rfl, ?_⟩
    simp only [readHeader]
    rw [if_neg (by omega), if_neg (by omega), if_pos hi]
    rfl
  | shortStr lo hi =>
    refine ⟨_, [], rfl, ?_⟩
    simp only [readHeader]
    rw [if_neg (by omega), if_neg (by omega), if_neg (by omega), if_pos hi]
    rfl
  | single h | double h => exact ⟨_, _, rfl, readField_ok.2 ⟨_, h, rfl, rfl⟩⟩
  | unsigned h | signed h =>
    refine ⟨_, _, rfl, ?_⟩
    simp only [unsignedLeads, signedLeads, List.mem_cons, Prod.mk.injEq, List.not_mem_nil,
      or_false] at h
    rcases h with ⟨rfl, hn⟩ | ⟨rfl, hn⟩ | ⟨rfl, hn⟩ | ⟨rfl, hn⟩
    all_goals exact readField_ok.2 ⟨_, hn, rfl, rfl⟩
  | str h | bin h =>
    refine ⟨_, _, rfl, ?_⟩
    simp only [strLeads, binLeads, List.mem_cons, Prod.mk.injEq, List.not_mem_nil, or_false] at h
    rcases h with ⟨rfl, hn⟩ | ⟨rfl, hn⟩ | ⟨rfl, hn⟩
    all_goals exact readField_ok.2 ⟨_, hn, rfl, rfl⟩
  | arr h | map h =>
    refine ⟨_, _, rfl, ?_⟩
    simp only [arrLeads, mapLeads, List.mem_cons, Prod.mk.injEq, List.not_mem_nil, or_false] at h
    rcases h with ⟨rfl, hn⟩ | ⟨rfl, hn⟩
    all_goals exact readField_ok.2 ⟨_, hn, rfl, rfl⟩
  | ext h =>
    refine ⟨_, _, rfl, ?_⟩
    simp only [extLeads, List.mem_cons, Prod.mk.injEq, List.not_mem_nil, or_false] at h
    rw [List.append_assoc, List.singleton_append]
    rcases h with ⟨rfl, hn⟩ | ⟨rfl, hn⟩ | ⟨rfl, hn⟩
    all_goals exact readExtHeader_ok.2 ⟨_, _, hn, rfl, rfl⟩
  | fixedExt h =>
    refine ⟨_, _, rfl, ?_⟩
    simp only [fixedExtLeads, List.mem_cons, Prod.mk.injEq, List.not_mem_nil, or_false] at h
    rcases h with ⟨rfl, rfl⟩ | ⟨rfl, rfl⟩ | ⟨rfl, rfl⟩ | ⟨rfl, rfl⟩ | ⟨rfl, rfl⟩
    all_goals exact readFixedExt_ok.2 ⟨_, rfl, rfl⟩

end EdgeSession.Pack
