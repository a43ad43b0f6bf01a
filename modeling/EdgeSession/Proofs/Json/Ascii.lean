import EdgeSession.Proofs.Json.Atoms
import EdgeSession.Proofs.Json.Structure

/-!
A file's text is plain ASCII, so that it does not matter in which encoding the file is kept.
-/
namespace EdgeSession.Json

def IsAscii (text : List Char) : Prop := ∀ c ∈ text, c.toNat < 0x80

instance (text : List Char) : Decidable (IsAscii text) :=
  decidable_of_iff (text.all fun c => c.toNat < 0x80) (by simp [IsAscii])

variable {c : Char} {front back text : List Char}

theorem IsAscii.append (f : IsAscii front) (b : IsAscii back) : IsAscii (front ++ back) :=
  List.forall_mem_append.mpr ⟨f, b⟩

theorem IsAscii.cons (front : c.toNat < 0x80) (h : IsAscii text) : IsAscii (c :: text) :=
  List.forall_mem_cons.mpr ⟨front, h⟩

theorem isAscii_indent (depth : Nat) : IsAscii (indent depth) := by
  refine .cons (by decide) fun c mem => ?_
  rw [(List.mem_replicate.mp mem).2]
  decide

theorem isAscii_int (n : Int) : IsAscii (toString n).toList := by
  have digits : IsAscii (Nat.toDigits 10 n.natAbs) := by
    intro c mem
    have digit := isAsciiDigit_of_mem_toDigits mem
    simp only [Text.isAsciiDigit, Bool.and_eq_true, decide_eq_true_eq] at digit
    omega
  rw [toString_int]
  split
  · exact digits.cons (by decide)
  · exact digits

theorem isAscii_unitEscape (n : Nat) : IsAscii (unitEscape n) := by
  have ascii : ∀ d < 16, (Text.hexDigit d).toNat < 0x80 := by decide
  have digit (k : Nat) : (Text.hexDigit (k % 16)).toNat < 0x80 :=
    ascii _ (Nat.mod_lt _ (by decide))
  refine .cons (by decide) (.cons (by decide) ?_)
  simp only [Text.hex, List.nil_append, List.cons_append]
  exact .cons (digit _) (.cons (digit _) (.cons (digit _) (.cons (digit _) (by decide))))

theorem isAscii_escapeAscii (c : Char) : IsAscii (escapeAscii c) := by
  unfold escapeAscii
  split
  · rename_i escape short
    unfold shortEscape at short
    repeat' split at short
    all_goals cases short
    all_goals decide
  · simp only [Bool.and_eq_true, decide_eq_true_eq]
    split
    · exact .cons (by omega) (by decide)
    · split
      · exact isAscii_unitEscape _
      · exact (isAscii_unitEscape _).append (isAscii_unitEscape _)

theorem isAscii_quoted (s : String) : IsAscii (quoted escapeAscii s) := by
  have letters : IsAscii (s.toList.flatMap escapeAscii) := by
    intro c mem
    obtain ⟨letter, -, inside⟩ := List.mem_flatMap.mp mem
    exact isAscii_escapeAscii letter c inside
  exact (letters.append (by decide)).cons (by decide)

theorem isAscii_items {items : List Json} {depth : Nat}
    (each : ∀ v ∈ items, IsAscii (prettyAt depth v)) : IsAscii (prettyItems depth items) := by
  induction items with
  | nil => exact List.forall_mem_nil _
  | cons v items ih =>
    obtain ⟨first, others⟩ := List.forall_mem_cons.mp each
    exact (((isAscii_indent depth).cons (by decide)).append first).append (ih others)

theorem isAscii_member {v : Json} {depth : Nat} (value : IsAscii (prettyAt depth v))
    (name : String) : IsAscii (quoted escapeAscii name ++ [':', ' '] ++ prettyAt depth v) :=
  ((isAscii_quoted name).append (by decide)).append value

theorem isAscii_members {members : List (String × Json)} {depth : Nat}
    (each : ∀ m ∈ members, IsAscii (prettyAt depth m.2)) :
    IsAscii (prettyMembers depth members) := by
  induction members with
  | nil => exact List.forall_mem_nil _
  | cons m members ih =>
    obtain ⟨name, v⟩ := m
    obtain ⟨first, others⟩ := List.forall_mem_cons.mp each
    have member := (isAscii_indent depth).append (isAscii_member first name)
    have all := (member.cons (c := ',') (by decide)).append (ih others)
    simpa [prettyMembers] using all

theorem isAscii_pretty {v : Json} (whole : v.every isWhole = true) (depth : Nat) :
    IsAscii (prettyAt depth v) := by
  induction v using induct generalizing depth with
  | null => exact (by decide : IsAscii "null".toList)
  | bool b =>
    cases b with
    | true => exact (by decide : IsAscii "true".toList)
    | false => exact (by decide : IsAscii "false".toList)
  | int n => exact isAscii_int n
  | real x => cases every_self whole
  | str s => exact isAscii_quoted s
  | arr items ih =>
    have each (v) (mem : v ∈ items) := ih v mem ((every_arr.mp whole).2 v mem) (depth + 1)
    cases items with
    | nil => exact (by decide : IsAscii ['[', ']'])
    | cons v items =>
      obtain ⟨first, others⟩ := List.forall_mem_cons.mp each
      have inside := (isAscii_indent (depth + 1)).append (first.append (isAscii_items others))
      have closing := (isAscii_indent depth).append (by decide : IsAscii [']'])
      have all := (inside.append closing).cons (c := '[') (by decide)
      simpa [prettyAt] using all
  | obj members ih =>
    have each (m) (mem : m ∈ members) := ih m mem ((every_obj.mp whole).2 m mem) (depth + 1)
    cases members with
    | nil => exact (by decide : IsAscii ['\x7b', '\x7d'])
    | cons m members =>
      obtain ⟨name, v⟩ := m
      obtain ⟨first, others⟩ := List.forall_mem_cons.mp each
      have inside := (isAscii_indent (depth + 1)).append
        ((isAscii_member first name).append (isAscii_members others))
      have closing := (isAscii_indent depth).append (by decide : IsAscii ['\x7d'])
      have all := (inside.append closing).cons (c := '\x7b') (by decide)
      simpa [prettyAt] using all

end EdgeSession.Json
