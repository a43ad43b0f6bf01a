import EdgeSession.Proofs.Json.Ascii
import EdgeSession.Proofs.Json.Structure

/-!
A value without fractions is read back from the text it is written as, one member or item to a line.
-/
namespace EdgeSession.Json

/-- What has to hold throughout a value so that it is read back: no fraction, no integer of too many
digits, and no name twice in one object. -/
def isLegible (v : Json) : Bool := isWhole v && (isShort v && namesApart v)

theorem every_isLegible {v : Json} : v.every isLegible = true ↔
    v.every isWhole = true ∧ v.every isShort = true ∧ v.every namesApart = true := by
  unfold isLegible
  rw [every_and, every_and]

/-- A value is read as it is written, at any depth and whatever follows it. The text's length bounds
the calls; and its first character is none that a reader passes over, or takes for the end of an
array. -/
structure Readable (v : Json) : Prop where
  starts : ∀ depth, ∃ c text, prettyAt depth v = c :: text ∧ Cursor.isSpace c = false ∧ c ≠ ']'
  reads : ∀ depth fuel rest, 2 * (prettyAt depth v).length ≤ fuel → Ends rest →
    Reads (readValue fuel) (prettyAt depth v) v rest

variable {fuel depth : Nat} {rest : List Char}

/-! ## Between values -/

theorem skipSpace_blanks {blanks : List Char} (blank : ∀ c ∈ blanks, Cursor.isSpace c = true)
    {c : Char} (front : Cursor.isSpace c = false) (rest : List Char) (position : Nat) :
    Cursor.skipSpace ⟨position, blanks ++ c :: rest⟩ = ⟨position + blanks.length, c :: rest⟩ := by
  simp [Cursor.skipSpace, Cursor.advance, List.takeWhile_append_of_pos blank, front]

theorem skipSpace_front {c : Char} (front : Cursor.isSpace c = false) (rest : List Char)
    (position : Nat) : Cursor.skipSpace ⟨position, c :: rest⟩ = ⟨position, c :: rest⟩ :=
  skipSpace_blanks (List.forall_mem_nil _) front rest position

theorem isSpace_indent : ∀ c ∈ indent depth, Cursor.isSpace c = true := by
  intro c mem
  rcases List.mem_cons.mp mem with rfl | mem
  · rfl
  · rw [(List.mem_replicate.mp mem).2]
    rfl

/-- Over the line's end and the indent. -/
theorem skipSpace_indent {c : Char} (front : Cursor.isSpace c = false) (depth : Nat)
    (rest : List Char) (position : Nat) :
    ∃ after, Cursor.skipSpace ⟨position, indent depth ++ c :: rest⟩ = ⟨after, c :: rest⟩ :=
  ⟨_, skipSpace_blanks isSpace_indent front rest position⟩

theorem ends_nil : Ends [] := by
  rintro c same
  cases same

theorem ends_indent : Ends (indent depth ++ rest) := by
  rintro c same
  cases same
  decide

theorem ends_comma : Ends (',' :: rest) := by
  rintro c same
  cases same
  decide

/-! ## Plain values -/

/-- What starts neither a string nor an object nor an array is a word or a number. -/
theorem readValue_plain {c : Char} (str : c ≠ '\x22') (obj : c ≠ '\x7b') (arr : c ≠ '[')
    (fuel : Nat) (rest : List Char) (position : Nat) :
    readValue (fuel + 1) ⟨position, c :: rest⟩ =
      match readWord? ⟨position, c :: rest⟩ with
      | some found => .ok found
      | none => readNumber ⟨position, c :: rest⟩ := by
  rw [readValue]
  split
  · exact absurd (List.cons.inj ‹_›).1 str
  · exact absurd (List.cons.inj ‹_›).1 obj
  · exact absurd (List.cons.inj ‹_›).1 arr
  · rfl

theorem reads_word :
    Reads (readValue (fuel + 1)) "null".toList null rest ∧
      Reads (readValue (fuel + 1)) "true".toList (bool true) rest ∧
      Reads (readValue (fuel + 1)) "false".toList (bool false) rest :=
  ⟨fun _ => ⟨_, rfl⟩, fun _ => ⟨_, rfl⟩, fun _ => ⟨_, rfl⟩⟩

theorem front_toDigits (n : Nat) : ∃ d digits, Nat.toDigits 10 n = d :: digits ∧
    ∀ c, Text.isAsciiDigit c = false → c ≠ d := by
  obtain ⟨d, digits, written⟩ :=
    List.exists_cons_of_ne_nil (Nat.toDigits_ne_nil (n := n) (b := 10))
  refine ⟨d, digits, written, ?_⟩
  rintro c other rfl
  have digit := isAsciiDigit_of_mem_toDigits (n := n) (written ▸ List.mem_cons_self)
  rw [digit] at other
  cases other

theorem front_toString (n : Int) : ∃ c text, (toString n).toList = c :: text ∧
    ∀ x, Text.isAsciiDigit x = false → x ≠ '-' → c ≠ x := by
  obtain ⟨d, digits, written, apart⟩ := front_toDigits n.natAbs
  rw [toString_int, written]
  split
  · exact ⟨'-', d :: digits, rfl, fun x _ other => other.symm⟩
  · exact ⟨d, digits, rfl, fun x other _ => (apart x other).symm⟩

/-- No word starts with a digit, and none with a minus and a digit. -/
theorem readWord?_int (n : Int) (rest : List Char) (position : Nat) :
    readWord? ⟨position, (toString n).toList ++ rest⟩ = none := by
  obtain ⟨d, digits, written, apart⟩ := front_toDigits n.natAbs
  rw [toString_int, written]
  split
  · simp [readWord?, wordValues, apart 'I' rfl]
  · simp [readWord?, wordValues, apart 'n' rfl, apart 't' rfl, apart 'f' rfl, apart 'N' rfl,
      apart 'I' rfl, apart '-' rfl]

theorem readable_int {n : Int} (short : isShort (int n) = true) : Readable (int n) where
  starts depth := by
    obtain ⟨c, text, written, apart⟩ := front_toString n
    refine ⟨c, text, written, ?_, apart ']' rfl (by decide)⟩
    simp [Cursor.isSpace, apart ' ' rfl (by decide), apart '\t' rfl (by decide),
      apart '\n' rfl (by decide), apart '\r' rfl (by decide)]
  reads depth fuel rest enough ends position := by
    obtain ⟨c, text, written, apart⟩ := front_toString n
    obtain ⟨after, read⟩ := reads_int ends short position
    have word := readWord?_int n rest position
    rw [prettyAt] at enough ⊢
    rw [written] at enough read word ⊢
    cases fuel with
    | zero => simp at enough
    | succ fuel =>
      have plain := readValue_plain (apart '\x22' rfl (by decide)) (apart '\x7b' rfl (by decide))
        (apart '[' rfl (by decide)) fuel (text ++ rest) position
      refine ⟨after, ?_⟩
      rw [List.cons_append] at word read ⊢
      rw [plain, word, read]

theorem readable_null : Readable null where
  starts _ := ⟨'n', _, rfl, by decide, by decide⟩
  reads _ fuel _ enough _ := by
    cases fuel with
    | zero => cases enough
    | succ fuel => exact reads_word.1

theorem readable_bool (b : Bool) : Readable (bool b) where
  starts _ := by
    cases b with
    | true => exact ⟨'t', _, rfl, by decide, by decide⟩
    | false => exact ⟨'f', _, rfl, by decide, by decide⟩
  reads _ fuel _ enough _ := by
    cases fuel with
    | zero =>
      cases b with
      | _ => cases enough
    | succ fuel =>
      cases b with
      | true => exact reads_word.2.1
      | false => exact reads_word.2.2

theorem quoted_append (s : String) (rest : List Char) :
    quoted escapeAscii s ++ rest = '\x22' :: (s.toList.flatMap escapeAscii ++ '\x22' :: rest) := by
  simp [quoted]

theorem readable_str (s : String) : Readable (str s) where
  starts _ := ⟨'\x22', _, rfl, by decide, by decide⟩
  reads depth fuel rest enough ends position := by
    cases fuel with
    | zero => cases enough
    | succ fuel =>
      obtain ⟨after, read⟩ := readString_quoted position s rest (position + 1)
      refine ⟨after, ?_⟩
      rw [prettyAt, quoted_append, readValue]
      simp only [read]

/-! ## Arrays -/

/-- What stands behind an item up to the end of its array. -/
def afterItem (depth outer : Nat) (items : List Json) : List Char :=
  prettyItems depth items ++ (indent outer ++ [']'])

theorem afterItem_nil (depth outer : Nat) (rest : List Char) :
    afterItem depth outer [] ++ rest = indent outer ++ ']' :: rest := by
  simp [afterItem, prettyItems]

theorem afterItem_cons (depth outer : Nat) (v : Json) (items : List Json) (rest : List Char) :
    afterItem depth outer (v :: items) ++ rest =
      ',' :: (indent depth ++ (prettyAt depth v ++ afterItem depth outer items ++ rest)) := by
  simp [afterItem, prettyItems]

theorem reads_items {items : List Json} {v : Json} {outer : Nat} {acc : List Json}
    (each : ∀ w ∈ v :: items, Readable w)
    (enough : 2 * (prettyAt depth v ++ afterItem depth outer items).length + 1 ≤ fuel) :
    Reads (readItems fuel acc) (prettyAt depth v ++ afterItem depth outer items)
      (arr (acc.reverse ++ v :: items)) rest := by
  intro position
  induction items generalizing v fuel acc position with
  | nil =>
    obtain ⟨fuel, rfl⟩ := Nat.exists_eq_add_of_le' (Nat.le_trans (Nat.le_add_left 1 _) enough)
    rw [List.length_append] at enough
    rw [List.append_assoc, afterItem_nil]
    obtain ⟨between, item⟩ := (each v List.mem_cons_self).reads depth fuel
      (indent outer ++ ']' :: rest) (by omega) ends_indent position
    obtain ⟨after, skipped⟩ := skipSpace_indent (c := ']') rfl outer rest between
    refine ⟨after + 1, ?_⟩
    rw [readItems, item]
    simp only [skipped, List.reverse_cons, Cursor.advance, List.drop_one, List.tail_cons]
  | cons w items ih =>
    obtain ⟨fuel, rfl⟩ := Nat.exists_eq_add_of_le' (Nat.le_trans (Nat.le_add_left 1 _) enough)
    have length := congrArg List.length (afterItem_cons depth outer w items [])
    simp only [List.append_nil, List.length_append, List.length_cons] at enough length
    rw [List.append_assoc, afterItem_cons]
    obtain ⟨between, item⟩ := (each v List.mem_cons_self).reads depth fuel
      (',' :: (indent depth ++ (prettyAt depth w ++ afterItem depth outer items ++ rest)))
      (by omega) ends_comma position
    obtain ⟨c, text, written, front, -⟩ :=
      (each w (List.mem_cons_of_mem _ List.mem_cons_self)).starts depth
    obtain ⟨start, skipped⟩ := skipSpace_indent front depth
      (text ++ afterItem depth outer items ++ rest) (between + 1)
    obtain ⟨after, others⟩ : ∃ after, readItems fuel (v :: acc)
        ⟨start, prettyAt depth w ++ afterItem depth outer items ++ rest⟩ =
          .ok (arr ((v :: acc).reverse ++ w :: items), ⟨after, rest⟩) := by
      apply ih
      · exact fun u mem => each u (List.mem_cons_of_mem _ mem)
      · rw [List.length_append]
        omega
    refine ⟨after, ?_⟩
    rw [readItems, item]
    simp only [skipSpace_front (c := ',') rfl, Cursor.advance, List.drop_one, List.tail_cons]
    rw [written] at others ⊢
    simp only [List.cons_append, List.append_assoc, List.reverse_cons, List.nil_append]
      at skipped others ⊢
    rw [skipped, others]

theorem readable_arr {items : List Json} (each : ∀ v ∈ items, Readable v) :
    Readable (arr items) where
  starts _ := by
    cases items with
    | _ => exact ⟨'[', _, rfl, by decide, by decide⟩
  reads depth fuel rest enough ends position := by
    cases items with
    | nil =>
      cases fuel with
      | zero => cases enough
      | succ fuel => exact ⟨position + 1 + 1, rfl⟩
    | cons v items =>
      have text : prettyAt depth (arr (v :: items)) = '[' :: (indent (depth + 1) ++
          (prettyAt (depth + 1) v ++ afterItem (depth + 1) depth items)) := by
        simp [prettyAt, afterItem]
      rw [text] at enough ⊢
      obtain ⟨c, front, written, visible, unclosed⟩ :=
        (each v List.mem_cons_self).starts (depth + 1)
      obtain ⟨start, skipped⟩ := skipSpace_indent visible (depth + 1)
        (front ++ afterItem (depth + 1) depth items ++ rest) (position + 1)
      cases fuel with
      | zero => cases enough
      | succ fuel =>
        obtain ⟨after, read⟩ : ∃ after, readItems fuel []
            ⟨start, prettyAt (depth + 1) v ++ afterItem (depth + 1) depth items ++ rest⟩ =
              .ok (arr (v :: items), ⟨after, rest⟩) := by
          apply reads_items each
          simp only [List.length_cons, List.length_append] at enough ⊢
          omega
        refine ⟨after, ?_⟩
        rw [written] at read ⊢
        simp only [List.cons_append, List.append_assoc] at skipped read ⊢
        rw [readValue]
        simp only [skipped]
        split
        · exact absurd (List.cons.inj ‹_›).1 unclosed
        · exact read

/-! ## Objects -/

def memberText (depth : Nat) (name : String) (v : Json) : List Char :=
  quoted escapeAscii name ++ (':' :: ' ' :: prettyAt depth v)

/-- What stands behind a member up to the end of its object. -/
def afterMember (depth outer : Nat) (members : List (String × Json)) : List Char :=
  prettyMembers depth members ++ (indent outer ++ ['\x7d'])

theorem length_le_memberText (depth : Nat) (name : String) (v : Json) :
    (prettyAt depth v).length ≤ (memberText depth name v).length := by
  simp only [memberText, List.length_append, List.length_cons]
  omega

theorem afterMember_nil (depth outer : Nat) (rest : List Char) :
    afterMember depth outer [] ++ rest = indent outer ++ '\x7d' :: rest := by
  simp [afterMember, prettyMembers]

theorem afterMember_cons (depth outer : Nat) (name : String) (v : Json)
    (members : List (String × Json)) (rest : List Char) :
    afterMember depth outer ((name, v) :: members) ++ rest =
      ',' :: (indent depth ++
        (memberText depth name v ++ afterMember depth outer members ++ rest)) := by
  simp [afterMember, prettyMembers, memberText]

theorem insert_new {name : String} {acc : List (String × Json)} (fresh : name ∉ acc.map (·.1))
    (v : Json) : insert name v acc = acc ++ [(name, v)] := by
  induction acc with
  | nil => rfl
  | cons m acc ih =>
    obtain ⟨other, w⟩ := m
    simp only [List.map_cons, List.mem_cons, not_or] at fresh
    rw [insert, if_neg, ih fresh.2, List.cons_append]
    simp [Ne.symm fresh.1]

theorem fresh_of_apart {name : String} {v : Json} {acc members : List (String × Json)}
    (apart : ((acc ++ (name, v) :: members).map (·.1)).Nodup) : name ∉ acc.map (·.1) := by
  rw [List.map_append, List.nodup_append] at apart
  exact fun mem => apart.2.2 name mem name List.mem_cons_self rfl

/-- A name, a colon and a value are read; then a bracket closes the object, or behind a comma the
next member is read. -/
theorem reads_member {v : Json} (readable : Readable v)
    (enough : 2 * (prettyAt depth v).length ≤ fuel) (ends : Ends rest) (name : String)
    (acc : List (String × Json)) (position : Nat) :
    ∃ after,
      (∀ next tail, Cursor.skipSpace ⟨after, rest⟩ = ⟨next, '\x7d' :: tail⟩ →
        readMembers (fuel + 1) acc ⟨position, memberText depth name v ++ rest⟩ =
          .ok (obj (insert name v acc), ⟨next + 1, tail⟩)) ∧
      ∀ next tail, Cursor.skipSpace ⟨after, rest⟩ = ⟨next, ',' :: tail⟩ →
        readMembers (fuel + 1) acc ⟨position, memberText depth name v ++ rest⟩ =
          readMembers fuel (insert name v acc) (Cursor.skipSpace ⟨next + 1, tail⟩) := by
  obtain ⟨colon, named⟩ := readString_quoted position name
    (':' :: ' ' :: (prettyAt depth v ++ rest)) (position + 1)
  obtain ⟨c, text, written, front, -⟩ := readable.starts depth
  have blank : Cursor.skipSpace ⟨colon + 1, ' ' :: (prettyAt depth v ++ rest)⟩ =
      ⟨colon + 1 + 1, prettyAt depth v ++ rest⟩ := by
    rw [written]
    exact skipSpace_blanks (List.forall_mem_singleton.mpr rfl) front _ _
  obtain ⟨after, value⟩ := readable.reads depth fuel rest enough ends (colon + 1 + 1)
  refine ⟨after, ?_, ?_⟩
  all_goals
    intro next tail skipped
    rw [memberText, List.append_assoc, quoted_append, readMembers]
    simp only [List.cons_append, named, skipSpace_front (c := ':') rfl, Cursor.advance,
      List.drop_one, List.tail_cons, blank, value, skipped]

theorem reads_members {members : List (String × Json)} {name : String} {v : Json} {outer : Nat}
    {acc : List (String × Json)} (each : ∀ m ∈ (name, v) :: members, Readable m.2)
    (apart : ((acc ++ (name, v) :: members).map (·.1)).Nodup)
    (enough : 2 * (memberText depth name v ++ afterMember depth outer members).length + 1 ≤ fuel) :
    Reads (readMembers fuel acc) (memberText depth name v ++ afterMember depth outer members)
      (obj (acc ++ (name, v) :: members)) rest := by
  intro position
  induction members generalizing name v fuel acc position with
  | nil =>
    obtain ⟨fuel, rfl⟩ := Nat.exists_eq_add_of_le' (Nat.le_trans (Nat.le_add_left 1 _) enough)
    have room : 2 * (prettyAt depth v).length ≤ fuel := by
      have := length_le_memberText depth name v
      rw [List.length_append] at enough
      omega
    rw [List.append_assoc, afterMember_nil]
    obtain ⟨between, closes, -⟩ := reads_member (each (name, v) List.mem_cons_self) room
      ends_indent name acc position
    obtain ⟨after, skipped⟩ := skipSpace_indent (c := '\x7d') rfl outer rest between
    refine ⟨after + 1, ?_⟩
    rw [closes after rest skipped, insert_new (fresh_of_apart apart)]
  | cons m members ih =>
    obtain ⟨other, w⟩ := m
    obtain ⟨fuel, rfl⟩ := Nat.exists_eq_add_of_le' (Nat.le_trans (Nat.le_add_left 1 _) enough)
    have length := congrArg List.length (afterMember_cons depth outer other w members [])
    simp only [List.append_nil, List.length_append, List.length_cons] at enough length
    have room : 2 * (prettyAt depth v).length ≤ fuel := by
      have := length_le_memberText depth name v
      omega
    rw [List.append_assoc, afterMember_cons]
    obtain ⟨between, -, continues⟩ := reads_member (each (name, v) List.mem_cons_self) room
      ends_comma name acc position
    obtain ⟨start, skipped⟩ : ∃ start, Cursor.skipSpace ⟨between + 1, indent depth ++
        (memberText depth other w ++ afterMember depth outer members ++ rest)⟩ =
          ⟨start, memberText depth other w ++ afterMember depth outer members ++ rest⟩ :=
      skipSpace_indent (c := '\x22') rfl depth _ (between + 1)
    obtain ⟨after, others⟩ : ∃ after, readMembers fuel (acc ++ [(name, v)])
        ⟨start, memberText depth other w ++ afterMember depth outer members ++ rest⟩ =
          .ok (obj (acc ++ [(name, v)] ++ (other, w) :: members), ⟨after, rest⟩) := by
      apply ih
      · exact fun u mem => each u (List.mem_cons_of_mem _ mem)
      · rwa [List.append_assoc]
      · rw [List.length_append]
        omega
    refine ⟨after, ?_⟩
    rw [continues between _ (skipSpace_front rfl _ _), insert_new (fresh_of_apart apart), skipped,
      others, List.append_assoc, List.singleton_append]

theorem readable_obj {members : List (String × Json)} (each : ∀ m ∈ members, Readable m.2)
    (apart : (members.map (·.1)).Nodup) : Readable (obj members) where
  starts _ := by
    cases members with
    | _ => exact ⟨'\x7b', _, rfl, by decide, by decide⟩
  reads depth fuel rest enough ends position := by
    cases members with
    | nil =>
      cases fuel with
      | zero => cases enough
      | succ fuel => exact ⟨position + 1 + 1, rfl⟩
    | cons m members =>
      obtain ⟨name, v⟩ := m
      have text : prettyAt depth (obj ((name, v) :: members)) = '\x7b' :: (indent (depth + 1) ++
          (memberText (depth + 1) name v ++ afterMember (depth + 1) depth members)) := by
        simp [prettyAt, afterMember, memberText]
      rw [text] at enough ⊢
      obtain ⟨start, skipped⟩ : ∃ start, Cursor.skipSpace ⟨position + 1, indent (depth + 1) ++
          (memberText (depth + 1) name v ++ afterMember (depth + 1) depth members ++ rest)⟩ =
            ⟨start, memberText (depth + 1) name v ++
              afterMember (depth + 1) depth members ++ rest⟩ :=
        skipSpace_indent (c := '\x22') rfl (depth + 1) _ (position + 1)
      cases fuel with
      | zero => cases enough
      | succ fuel =>
        obtain ⟨after, read⟩ : ∃ after, readMembers fuel [] ⟨start,
            memberText (depth + 1) name v ++ afterMember (depth + 1) depth members ++ rest⟩ =
              .ok (obj ((name, v) :: members), ⟨after, rest⟩) := by
          apply reads_members each apart
          simp only [List.length_cons, List.length_append] at enough ⊢
          omega
        refine ⟨after, ?_⟩
        rw [List.cons_append, List.append_assoc, readValue]
        simp only [skipped]
        exact read

/-! ## Whole texts -/

theorem readable {v : Json} (legible : v.every isLegible = true) : Readable v := by
  induction v using induct with
  | null => exact readable_null
  | bool b => exact readable_bool b
  | int n =>
    have short := every_self (every_isLegible.mp legible).2.1
    exact readable_int short
  | real x =>
    have whole := every_self (every_isLegible.mp legible).1
    cases whole
  | str s => exact readable_str s
  | arr items ih => exact readable_arr fun v mem => ih v mem ((every_arr.mp legible).2 v mem)
  | obj members ih =>
    have apart := every_self (every_isLegible.mp legible).2.2
    exact readable_obj (fun m mem => ih m mem ((every_obj.mp legible).2 m mem))
      (of_decide_eq_true apart)

/-- A value that is legible throughout is what its text is read as. -/
theorem parse_pretty {v : Json} (legible : v.every isLegible = true) :
    parse v.pretty.toList = .ok v := by
  have readable := readable legible
  obtain ⟨c, text, written, visible, -⟩ := readable.starts 0
  have unmarked (tail : List Char) (same : c :: text = '\uFEFF' :: tail) : False := by
    have ascii := isAscii_pretty (every_isLegible.mp legible).1 0
    rw [written, same] at ascii
    exact absurd (ascii _ List.mem_cons_self) (by decide)
  obtain ⟨after, read⟩ := readable.reads 0 (2 * (c :: text).length + 2) [] (by rw [written]; omega)
    ends_nil 0
  rw [written, List.append_nil] at read
  rw [pretty, String.toList_ofList, written, parse]
  · rw [parseValue, skipSpace_front visible, read]
    rfl
  · exact unmarked

end EdgeSession.Json
