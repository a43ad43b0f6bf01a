import EdgeSession.Pack.JsonWriter
import EdgeSession.Proofs.Pack.Forms

/-!
Values of JSON as they are written: what the writer puts down is a written form of the value that
stands for it, and is read as that.
-/
namespace EdgeSession.Pack

mutual
/-- The value that stands for one of JSON. -/
def ofJson : Json → Value
  | .null => .nil
  | .bool b => .bool b
  | .int n => .int n
  | .real x => .real x
  | .str s => .str s.toList
  | .arr items => .arr (ofItems items)
  | .obj members => mapOf (ofMembers members)

def ofItems : List Json → List Value
  | [] => []
  | item :: rest => ofJson item :: ofItems rest

def ofMembers : List (String × Json) → List (Value × Value)
  | [] => []
  | (name, value) :: rest => (.str name.toList, ofJson value) :: ofMembers rest
end

theorem ofItems_length (items : List Json) : (ofItems items).length = items.length := by
  induction items with
  | nil => rfl
  | cons item rest ih => simp only [ofItems, List.length_cons, ih]

theorem ofMembers_length (members : List (String × Json)) :
    (ofMembers members).length = members.length := by
  induction members with
  | nil => rfl
  | cons member rest ih => simp only [ofMembers, List.length_cons, ih]

/-! ## Headers -/

section
variable {count : Nat}

theorem arrHeader_announces (h : isLength count = true) :
    Announces (.arr count) (arrHeader count) := by
  have short : count < 0x100000000 := of_decide_eq_true h
  simp only [arrHeader]
  split
  · exact short_form (k := .arr) (fun _ lo hi => .shortArr lo hi) (by omega) (by omega)
  split
  · exact number_form (fun n length => .arr (length ▸ by decide)) (by omega : count < 256 ^ 2)
  · exact number_form (fun n length => .arr (length ▸ by decide)) (by omega : count < 256 ^ 4)

theorem mapHeader_announces (h : isLength count = true) :
    Announces (.map count) (mapHeader count) := by
  have short : count < 0x100000000 := of_decide_eq_true h
  simp only [mapHeader]
  split
  · exact short_form (k := .map) (fun _ lo hi => .shortMap lo hi) (by omega) (by omega)
  split
  · exact number_form (fun n length => .map (length ▸ by decide)) (by omega : count < 256 ^ 2)
  · exact number_form (fun n length => .map (length ▸ by decide)) (by omega : count < 256 ^ 4)

end

/-! ## Values -/

section
variable {room depth count : Nat} {bytes : Bytes} {body : Except WriteFault Bytes}

theorem writeText_written {s : String} (h : writeText s = .ok bytes) :
    Written depth (.str s.toList) bytes := by
  unfold writeText at h
  split at h
  · rename_i short
    cases h
    exact packStr_written (of_decide_eq_true short)
  · cases h

theorem writeInt_written {n : Int} (h : writeInt n = .ok bytes) : Written depth (.int n) bytes := by
  unfold writeInt at h
  split at h
  · rename_i inside
    cases h
    exact packInt_written inside
  · cases h

theorem real_written (x : Binary64) :
    Written depth (.real x) (0xCB :: Bytes.ofNat 8 x.bits.toNat) := by
  have leaf : Leaf (.double (Bytes.ofNat 8 x.bits.toNat)) _ [] := .double _
  have same : Binary64.ofBytes (Bytes.ofNat 8 x.bits.toNat) = x := by
    rw [Binary64.ofBytes, Bytes.toNat_ofNat x.bits.toNat_lt, UInt64.ofNat_toNat]
  rw [same] at leaf
  exact Plain.written (.intro (.double (Bytes.ofNat_length 8 _)) leaf)

theorem writeCounted_ok {header : Nat → Bytes} (h : writeCounted header count body = .ok bytes) :
    isLength count = true ∧ ∃ inner, body = .ok inner ∧ bytes = header count ++ inner := by
  unfold writeCounted at h
  split at h
  · rename_i length
    cases body with
    | error fault => cases h
    | ok inner =>
      cases h
      exact ⟨length, inner, rfl, rfl⟩
  · cases h

mutual
/-- **What is written of a value is a written form of what stands for it**, wherever there is room
for as much nesting. -/
theorem writeJson_written : ∀ (v : Json) {room depth : Nat} {bytes : Bytes}, room ≤ depth →
    writeJson v room = .ok bytes → Written depth (ofJson v) bytes
  | v, 0, _, _, _, h => by cases v <;> cases h
  | .null, room + 1, _, _, _, h => by
    cases h
    exact Plain.written (.intro .nil .nil)
  | .bool b, room + 1, _, _, _, h => by
    cases h
    cases b with
    | false => exact Plain.written (.intro .no (.bool false))
    | true => exact Plain.written (.intro .yes (.bool true))
  | .int n, room + 1, _, _, _, h => writeInt_written h
  | .real x, room + 1, _, _, _, h => by
    cases h
    exact real_written x
  | .str s, room + 1, _, _, _, h => writeText_written h
  | .arr items, room + 1, depth + 1, _, fits, h => by
    obtain ⟨length, inner, written, rfl⟩ := writeCounted_ok h
    refine .inr (.arr ?_ (writeItems_chain items (Nat.le_of_succ_le_succ fits) written))
    rw [ofItems_length]
    exact arrHeader_announces length
  | .obj members, room + 1, depth + 1, _, fits, h => by
    obtain ⟨length, inner, written, rfl⟩ := writeCounted_ok h
    refine .inr (.map (.intro ?_
      (writeMembers_chain members (Nat.le_of_succ_le_succ fits) written)))
    rw [ofMembers_length]
    exact mapHeader_announces length

theorem writeItems_chain : ∀ (items : List Json) {room depth : Nat} {bytes : Bytes}, room ≤ depth →
    writeItems items room = .ok bytes → Chain (Written depth) (ofItems items) bytes
  | [], _, _, _, _, h => by
    cases h
    exact .nil
  | item :: rest, _, _, _, fits, h => by
    simp only [writeItems, bind_eq_ok] at h
    obtain ⟨front, written, later, listed, same⟩ := h
    cases same
    exact .cons (writeJson_written item fits written) (writeItems_chain rest fits listed)

theorem writeMembers_chain : ∀ (members : List (String × Json)) {room depth : Nat} {bytes : Bytes},
    room ≤ depth → writeMembers members room = .ok bytes →
    Chain (Entry (Written depth)) (ofMembers members) bytes
  | [], _, _, _, _, h => by
    cases h
    exact .nil
  | (name, value) :: rest, _, _, _, fits, h => by
    simp only [writeMembers, bind_eq_ok] at h
    obtain ⟨key, named, front, written, later, listed, same⟩ := h
    cases same
    exact .cons (.intro (.str _) (writeText_written named) (writeJson_written value fits written))
      (writeMembers_chain rest fits listed)
end

end

end EdgeSession.Pack
