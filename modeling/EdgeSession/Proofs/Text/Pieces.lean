import EdgeSession.Text.Blank
import EdgeSession.Text.Search
import Mathlib.Data.List.DropRight
import Mathlib.Data.List.Infix

/-!
What searching, cutting, splitting and trimming leave of a text is a piece of it, in one part; and
what they leave of a text whose front is known.
-/
namespace EdgeSession.Text

variable {part front tail s t rest before after : List Char} {c : Char}

/-! ## Searching -/

theorem afterPrefix?_eq_some_iff : afterPrefix? front s = some rest ↔ s = front ++ rest := by
  unfold afterPrefix?
  constructor
  · intro found
    split at found
    · rename_i starts
      obtain ⟨back, rfl⟩ := List.isPrefixOf_iff_prefix.mp starts
      rw [List.drop_left, Option.some.injEq] at found
      rw [found]
    · cases found
  · rintro rfl
    rw [if_pos (List.isPrefixOf_iff_prefix.mpr (List.prefix_append front rest)), List.drop_left]

theorem splitAtFrom_eq_some {acc : List Char}
    (found : splitAtFrom part acc s = some (before, after)) :
    acc.reverse ++ s = before ++ part ++ after := by
  induction s generalizing acc with
  | nil =>
    rw [splitAtFrom] at found
    split at found
    · rename_i empty
      cases found
      simp [empty]
    · cases found
  | cons c s ih =>
    rw [splitAtFrom] at found
    split at found
    · rename_i back starts
      cases found
      rw [afterPrefix?_eq_some_iff.mp starts, List.append_assoc]
    · rw [← ih found, List.reverse_cons, List.append_assoc, List.singleton_append]

theorem splitAt?_eq_some (found : splitAt? part s = some (before, after)) :
    s = before ++ part ++ after := splitAtFrom_eq_some found

theorem contains_iff : contains part s = true ↔ part <:+: s := by
  have at? (before : List Char) : (splitAtFrom part before s).isSome = true ↔ part <:+: s := by
    induction s generalizing before with
    | nil => simp [splitAtFrom, List.infix_nil]
    | cons c rest ih =>
      unfold splitAtFrom afterPrefix?
      rw [List.infix_cons_iff]
      cases starts : part.isPrefixOf (c :: rest) with
      | true => simp [List.isPrefixOf_iff_prefix.1 starts]
      | false =>
        have apart : ¬part <+: c :: rest := fun h => by
          simp [List.isPrefixOf_iff_prefix.2 h] at starts
        simp [apart, ih]
  exact at? []

theorem after?_suffix (found : after? part s = some rest) : rest <:+ s := by
  obtain ⟨⟨before, after⟩, split, rfl⟩ := Option.map_eq_some_iff.mp found
  exact ⟨before ++ part, (splitAt?_eq_some split).symm⟩

theorem after?_eq_none_iff : after? part s = none ↔ ¬part <:+: s := by
  rw [← contains_iff, contains, after?, Option.map_eq_none_iff, Option.not_isSome_iff_eq_none]

/-- A part that a text starts with is found there. -/
theorem after?_front (part rest : List Char) : after? part (part ++ rest) = some rest := by
  have starts : afterPrefix? part (part ++ rest) = some rest := afterPrefix?_eq_some_iff.mpr rfl
  unfold after? splitAt?
  cases whole : part ++ rest with
  | nil =>
    obtain ⟨rfl, rfl⟩ := List.append_eq_nil_iff.mp whole
    rfl
  | cons c back =>
    rw [whole] at starts
    rw [splitAtFrom, starts]
    rfl

/-- A single character is found where it stands first. -/
theorem after?_single (absent : c ∉ front) (rest : List Char) :
    after? [c] (front ++ c :: rest) = some rest := by
  have from? (acc : List Char) :
      (splitAtFrom [c] acc (front ++ c :: rest)).map (·.2) = some rest := by
    induction front generalizing acc with
    | nil =>
      have starts : afterPrefix? [c] (c :: rest) = some rest := afterPrefix?_eq_some_iff.mpr rfl
      rw [List.nil_append, splitAtFrom, starts]
      rfl
    | cons d front ih =>
      obtain ⟨other, absent⟩ := not_or.mp (mt List.mem_cons.mpr absent)
      have apart : afterPrefix? [c] (d :: (front ++ c :: rest)) = none := by
        rw [Option.eq_none_iff_forall_ne_some]
        intro back starts
        have same := afterPrefix?_eq_some_iff.mp starts
        exact other (List.cons.inj same).1.symm
      rw [List.cons_append, splitAtFrom, apart]
      exact ih absent _
  exact from? []

/-! ## Cutting off the ends -/

theorem dropPrefix_suffix (front s : List Char) : dropPrefix front s <:+ s := by
  unfold dropPrefix
  cases starts : afterPrefix? front s with
  | none => exact List.suffix_rfl
  | some rest => exact ⟨front, (afterPrefix?_eq_some_iff.mp starts).symm⟩

theorem dropPrefix_front (front rest : List Char) : dropPrefix front (front ++ rest) = rest := by
  rw [dropPrefix, afterPrefix?_eq_some_iff.mpr rfl, Option.getD_some]

theorem dropSuffix_isPrefix (tail s : List Char) : dropSuffix tail s <+: s := by
  unfold dropSuffix
  split
  · exact List.take_prefix _ s
  · exact List.prefix_rfl

theorem dropSuffix_tail (s tail : List Char) : dropSuffix tail (s ++ tail) = s := by
  rw [dropSuffix, if_pos (List.isSuffixOf_iff_suffix.mpr (List.suffix_append s tail)),
    List.length_append, Nat.add_sub_cancel, List.take_left]

theorem dropSuffix_other (h : ¬tail <:+ s) : dropSuffix tail s = s := by
  rw [dropSuffix, if_neg (mt List.isSuffixOf_iff_suffix.mp h)]

theorem single_suffix_iff : [c] <:+ s ↔ s.getLast? = some c := by
  rw [List.getLast?_eq_some_iff]
  exact ⟨fun ⟨front, same⟩ => ⟨front, same.symm⟩, fun ⟨front, same⟩ => ⟨front, same.symm⟩⟩

/-- A character is cut off the back of a text, unless that is empty and the front ends in it. -/
theorem dropSuffix_single_append (other : front.getLast? ≠ some c) (s : List Char) :
    dropSuffix [c] (front ++ s) = front ++ dropSuffix [c] s := by
  by_cases ends : [c] <:+ s
  · obtain ⟨back, rfl⟩ := ends
    rw [dropSuffix_tail, ← List.append_assoc, dropSuffix_tail]
  · rw [dropSuffix_other ends, dropSuffix_other]
    rw [single_suffix_iff, List.getLast?_append] at *
    cases last : s.getLast? with
    | none => simpa using other
    | some d => simpa [last] using ends

/-! ## Trimming -/

section
variable {p : Char → Bool}

theorem dropEndWhile_isPrefix (p : Char → Bool) (s : List Char) : dropEndWhile p s <+: s :=
  List.rdropWhile_prefix p s

theorem dropEndWhile_append (p : Char → Bool) (front s : List Char) :
    dropEndWhile p (front ++ s) =
      if dropEndWhile p s = [] then dropEndWhile p front else front ++ dropEndWhile p s := by
  unfold dropEndWhile
  rw [List.reverse_append, List.dropWhile_append]
  by_cases gone : s.reverse.dropWhile p = [] <;> simp [gone]

/-- A text that ends otherwise keeps its end. -/
theorem dropEndWhile_eq_self (ends : ∀ c, s.getLast? = some c → p c = false) :
    dropEndWhile p s = s := by
  refine List.rdropWhile_eq_self_iff.mpr fun nonempty => ?_
  simp [ends _ (List.getLast?_eq_some_getLast nonempty)]

theorem dropEndWhile_append_of_last (ends : ∀ c, front.getLast? = some c → p c = false)
    (s : List Char) : dropEndWhile p (front ++ s) = front ++ dropEndWhile p s := by
  rw [dropEndWhile_append]
  split
  · rename_i gone
    rw [gone, List.append_nil, dropEndWhile_eq_self ends]
  · rfl

theorem dropWhile_eq_self (starts : ∀ c, s.head? = some c → p c = false) : s.dropWhile p = s := by
  cases s with
  | nil => rfl
  | cons c s => rw [List.dropWhile_cons_of_neg (by simp [starts c rfl])]

end

theorem trim_isInfix (s : List Char) : trim s <:+: s :=
  (dropEndWhile_isPrefix _ _).isInfix.trans (List.dropWhile_suffix isBlank).isInfix

/-- A front that is blank at neither end is kept whole. -/
theorem trim_append (starts : ∀ c, front.head? = some c → isBlank c = false)
    (ends : ∀ c, front.getLast? = some c → isBlank c = false) (nonempty : front ≠ [])
    (s : List Char) : trim (front ++ s) = front ++ dropEndWhile isBlank s := by
  have first : (front ++ s).head? = front.head? := List.head?_append_of_ne_nil _ nonempty
  rw [trim, dropWhile_eq_self (by rwa [first]), dropEndWhile_append_of_last ends]

theorem trim_eq_self (starts : ∀ c, s.head? = some c → isBlank c = false)
    (ends : ∀ c, s.getLast? = some c → isBlank c = false) : trim s = s := by
  rw [trim, dropWhile_eq_self starts, dropEndWhile_eq_self ends]

/-- Trimming the end first leaves what the blanks in front stand before. -/
theorem blanks_before_trim (s : List Char) :
    ∃ blanks, (∀ c ∈ blanks, isBlank c = true) ∧ dropEndWhile isBlank s = blanks ++ trim s := by
  have blank : ∀ c ∈ s.takeWhile isBlank, isBlank c = true := fun c mem =>
    List.mem_takeWhile_imp mem
  have whole : s = s.takeWhile isBlank ++ s.dropWhile isBlank :=
    List.takeWhile_append_dropWhile.symm
  have ends := dropEndWhile_append isBlank (s.takeWhile isBlank) (s.dropWhile isBlank)
  rw [← whole] at ends
  split at ends
  · rename_i gone
    have front : dropEndWhile isBlank (s.takeWhile isBlank) = [] :=
      List.rdropWhile_eq_nil_iff.mpr blank
    exact ⟨[], by simp, by rw [ends, front, trim, gone, List.append_nil]⟩
  · exact ⟨_, blank, ends⟩

theorem trim_append_blanks {blanks : List Char} (blank : ∀ c ∈ blanks, isBlank c = true)
    (s : List Char) : trim (blanks ++ s) = trim s := by
  rw [trim, List.dropWhile_append_of_pos blank, trim]

theorem trim_head {c : Char} (first : (trim s).head? = some c) : isBlank c = false := by
  obtain ⟨back, whole⟩ := dropEndWhile_isPrefix isBlank (s.dropWhile isBlank)
  have starts : (s.dropWhile isBlank).head? = some c := by
    rw [trim] at first
    rw [← whole, List.head?_append, first, Option.some_or]
  have apart := List.head?_dropWhile_not isBlank s
  rwa [starts] at apart

theorem trim_trim (s : List Char) : trim (trim s) = trim s := by
  have front : (trim s).dropWhile isBlank = trim s := dropWhile_eq_self fun c => trim_head
  rw [trim, front]
  exact List.rdropWhile_idempotent isBlank _

theorem trim_dropEndWhile (s : List Char) : trim (dropEndWhile isBlank s) = trim s := by
  obtain ⟨blanks, blank, ends⟩ := blanks_before_trim s
  rw [ends, trim_append_blanks blank, trim_trim]

/-! ## Splitting -/

theorem modifyHead_nil_append (pieces : List (List Char)) :
    pieces.modifyHead ([] ++ ·) = pieces := by
  cases pieces <;> rfl

theorem foldl_splitNext (separator : Char) (s current : List Char) (pieces : List (List Char)) :
    ((s.foldl (splitNext separator) (current, pieces)).1.reverse ::
        (s.foldl (splitNext separator) (current, pieces)).2).reverse =
      pieces.reverse ++ (s.splitOn separator).modifyHead (current.reverse ++ ·) := by
  induction s generalizing current pieces with
  | nil => simp
  | cons c s ih =>
    rw [List.foldl_cons, ih, List.splitOn_eq_splitOnP, List.splitOn_eq_splitOnP,
      List.splitOnP_cons_eq_if_modifyHead]
    unfold splitNext
    by_cases same : (c == separator) = true
    · simp only [same, if_true, List.reverse_nil, List.modifyHead_cons, List.reverse_cons,
        List.append_assoc, List.append_nil, modifyHead_nil_append, List.singleton_append]
    · simp [same, List.modifyHead_modifyHead, Function.comp_def]

theorem splitOn_eq (separator : Char) (s : List Char) :
    splitOn separator s = s.splitOn separator :=
  (foldl_splitNext separator s [] []).trans (modifyHead_nil_append _)

theorem splitOn_absent (absent : c ∉ s) : splitOn c s = [s] := by
  rw [splitOn_eq, List.splitOn_eq_splitOnP, List.splitOnP_eq_singleton]
  intro d mem
  rw [beq_eq_false_iff_ne]
  rintro rfl
  exact absent mem

theorem splitOn_append {front : List Char} (absent : c ∉ front) (rest : List Char) :
    splitOn c (front ++ c :: rest) = front :: splitOn c rest := by
  rw [splitOn_eq, splitOn_eq, List.splitOn_append_cons_self_of_not_mem absent]

theorem infix_of_mem_splitOn {piece : List Char} (mem : piece ∈ splitOn c s) : piece <:+: s := by
  have join (pieces : List (List Char)) (mem : piece ∈ pieces) :
      piece <:+: [c].intercalate pieces := by
    induction pieces with
    | nil => cases mem
    | cons first pieces ih =>
      cases pieces with
      | nil => simp_all
      | cons second pieces =>
        rw [List.intercalate_cons_cons]
        cases mem with
        | head => exact ⟨[], [c] ++ [c].intercalate (second :: pieces), by simp⟩
        | tail _ mem => exact (ih mem).trans (List.suffix_append _ _).isInfix
  have whole : [c].intercalate (s.splitOn c) = s := List.intercalate_splitOn c
  rw [splitOn_eq] at mem
  exact whole ▸ join _ mem

end EdgeSession.Text
