import EdgeSession.Attach.Name
import EdgeSession.Proofs.Text.Pieces

/-!
Which names of microservices are taken and into which parts they come, and why any other is refused.
What is asked of a part leaves room for a line feed behind it.
-/
namespace EdgeSession.Attach

open Text

/-- Lower-case letters, digits and hyphens, at least one, and a hyphen at neither end. -/
structure NameText (s : List Char) : Prop where
  nonempty : s ≠ []
  letters : ∀ c ∈ s, ('a' ≤ c ∧ c ≤ 'z') ∨ ('0' ≤ c ∧ c ≤ '9') ∨ c = '-'
  starts : s.head? ≠ some '-'
  ends : s.getLast? ≠ some '-'

/-- What is taken for a name: one with at most a line feed behind it. -/
def Taken (s : List Char) : Prop := ∃ t, NameText t ∧ (s = t ∨ s = t ++ ['\n'])

/-- A name alone, or an application and a name with a slash in between, each of them as `P` says. -/
inductive Parts (P : List Char → Prop) (name : String) : String → String → Prop
  | alone (fits : P name.toList) : Parts P name "" name
  | both {app part : String} (whole : app ++ "/" ++ part = name) (fitsApp : P app.toList)
      (fitsPart : P part.toList) : Parts P name app part

/-- Why a name is refused. Of two parts the application is judged first. -/
inductive Refusal (resource name : String) : NameFault → Prop
  | empty (empty : name = "") : Refusal resource name (.parts resource name)
  | crowded (crowded : 2 ≤ name.toList.count '/') : Refusal resource name (.parts resource name)
  | alone (given : name ≠ "") (single : '/' ∉ name.toList) (unfit : ¬Taken name.toList) :
      Refusal resource name (.part resource name.toList)
  | app {app part : List Char} (whole : name.toList = app ++ '/' :: part) (first : '/' ∉ app)
      (last : '/' ∉ part) (unfit : ¬Taken app) : Refusal resource name (.part "application" app)
  | part {app part : List Char} (whole : name.toList = app ++ '/' :: part) (first : '/' ∉ app)
      (last : '/' ∉ part) (fits : Taken app) (unfit : ¬Taken part) :
      Refusal resource name (.part resource part)

/-! ## One part -/

section
variable {s t : List Char} {c : Char}

theorem isNameChar_iff :
    isNameChar c = true ↔ ('a' ≤ c ∧ c ≤ 'z') ∨ ('0' ≤ c ∧ c ≤ '9') := by
  simp only [isNameChar, Bool.or_eq_true, Bool.and_eq_true, decide_eq_true_eq, Char.le_def,
    UInt32.le_iff_toNat_le]
  exact Iff.rfl

theorem NameText.not_mem (h : NameText s) (foreign : isNameChar c = false) (other : c ≠ '-') :
    c ∉ s := by
  intro mem
  have letter := h.letters c mem
  rw [← or_assoc, ← isNameChar_iff, foreign] at letter
  simp [other] at letter

theorem NameText.no_feed (h : NameText s) : '\n' ∉ s := h.not_mem rfl (by decide)

/-- What is judged is the text without a line feed at its end. -/
theorem isName_eq (bare : dropSuffix ['\n'] s = t) : isName s = true ↔ NameText t := by
  unfold isName
  rw [bare]
  cases t with
  | nil => exact ⟨nofun, fun h => absurd rfl h.nonempty⟩
  | cons first rest =>
    have last := List.getLast?_eq_some_getLast (List.cons_ne_nil first rest)
    have lastMem := List.getLast_mem (List.cons_ne_nil first rest)
    simp only [last, Option.any_some, Bool.and_eq_true, List.all_eq_true, Bool.or_eq_true,
      beq_iff_eq]
    constructor
    · rintro ⟨⟨starts, ends⟩, all⟩
      refine ⟨List.cons_ne_nil _ _, fun c mem => ?_, ?_, ?_⟩
      · rw [← or_assoc, ← isNameChar_iff]
        exact all c mem
      · rintro ⟨⟩
        cases starts
      · rw [last, Ne, Option.some.injEq]
        intro hyphen
        rw [hyphen] at ends
        cases ends
    · rintro ⟨-, letters, starts, ends⟩
      have all (c : Char) (mem : c ∈ first :: rest) : isNameChar c = true ∨ c = '-' := by
        rw [isNameChar_iff, or_assoc]
        exact letters c mem
      rw [last, Ne, Option.some.injEq] at ends
      refine ⟨⟨?_, (all _ lastMem).resolve_right ends⟩, all⟩
      exact (all _ List.mem_cons_self).resolve_right fun hyphen => starts (by rw [hyphen]; rfl)

theorem isName_iff : isName s = true ↔ Taken s := by
  by_cases feed : ['\n'] <:+ s
  · obtain ⟨t, rfl⟩ := feed
    rw [isName_eq (dropSuffix_tail t ['\n'])]
    constructor
    · exact fun h => ⟨t, h, .inr rfl⟩
    · rintro ⟨u, h, same | same⟩
      · exact absurd (by simp [← same]) h.no_feed
      · rwa [List.append_cancel_right same]
  · rw [isName_eq (dropSuffix_other feed)]
    constructor
    · exact fun h => ⟨s, h, .inl rfl⟩
    · rintro ⟨u, h, rfl | rfl⟩
      · exact h
      · exact absurd (List.suffix_append _ _) feed

theorem NameText.taken (h : NameText s) : Taken s := ⟨s, h, .inl rfl⟩

theorem Taken.nonempty (h : Taken s) : s ≠ [] := by
  obtain ⟨t, name, rfl | rfl⟩ := h
  · exact name.nonempty
  · simp

theorem Taken.no_slash (h : Taken s) : '/' ∉ s := by
  obtain ⟨t, name, rfl | rfl⟩ := h
  · exact name.not_mem rfl (by decide)
  · simpa using name.not_mem (c := '/') rfl (by decide)

theorem nameText_iff : NameText s ↔ Taken s ∧ '\n' ∉ s := by
  constructor
  · exact fun h => ⟨h.taken, h.no_feed⟩
  · rintro ⟨⟨t, h, rfl | rfl⟩, absent⟩
    · exact h
    · exact absurd (by simp) absent

theorem checkPart_fit (label : String) (fits : Taken s) : checkPart label s = .ok () := by
  rw [checkPart, if_pos (isName_iff.2 fits)]

theorem checkPart_unfit (label : String) (unfit : ¬Taken s) :
    checkPart label s = .error (.part label s) := by
  rw [checkPart, if_neg (mt isName_iff.1 unfit)]

end

/-! ## Whole names -/

section
variable {name resource app part : String}

theorem parseName_empty (resource : String) :
    parseName "" resource = .error (.parts resource "") := rfl

theorem parseName_alone (resource : String) (given : name ≠ "") (single : '/' ∉ name.toList) :
    parseName name resource = (checkPart resource name.toList).map fun _ => ("", name) := by
  unfold parseName
  rw [if_neg given, splitOn_absent single]
  simp only [String.ofList_toList]
  cases checkPart resource name.toList <;> rfl

theorem parseName_both (resource : String) {app part : List Char}
    (whole : name.toList = app ++ '/' :: part) (first : '/' ∉ app) (last : '/' ∉ part) :
    parseName name resource = do
      checkPart "application" app
      checkPart resource part
      return (String.ofList app, String.ofList part) := by
  have given : name ≠ "" := by
    rintro rfl
    simp at whole
  unfold parseName
  rw [if_neg given, whole, splitOn_append first, splitOn_absent last]

theorem parseName_crowded (resource : String) (crowded : 2 ≤ name.toList.count '/') :
    parseName name resource = .error (.parts resource name) := by
  have given : name ≠ "" := by
    rintro rfl
    simp at crowded
  obtain ⟨a, rest, whole, first⟩ :=
    List.eq_append_cons_of_mem (List.count_pos_iff.1 (by omega : 0 < name.toList.count '/'))
  rw [whole, List.count_append, List.count_eq_zero.2 first, List.count_cons_self] at crowded
  obtain ⟨b, c, rfl, second⟩ :=
    List.eq_append_cons_of_mem (List.count_pos_iff.1 (by omega : 0 < rest.count '/'))
  unfold parseName
  rw [if_neg given, whole, splitOn_append first, splitOn_append second]
  cases pieces : splitOn '/' c with
  | nil => exact absurd (splitOn_eq '/' c ▸ pieces) (List.splitOn_ne_nil _ _)
  | cons => rfl

/-- A text has no slash, one, or more. -/
theorem slash_cases (s : List Char) :
    '/' ∉ s ∨ (∃ a b, s = a ++ '/' :: b ∧ '/' ∉ a ∧ '/' ∉ b) ∨ 2 ≤ s.count '/' := by
  by_cases absent : '/' ∉ s
  · exact .inl absent
  obtain ⟨a, b, rfl, first⟩ := List.eq_append_cons_of_mem (not_not.1 absent)
  by_cases last : '/' ∉ b
  · exact .inr (.inl ⟨a, b, rfl, first, last⟩)
  · have more := List.count_pos_iff.2 (not_not.1 last)
    refine .inr (.inr ?_)
    rw [List.count_append, List.count_cons_self]
    omega

theorem both_toList (whole : app ++ "/" ++ part = name) :
    name.toList = app.toList ++ '/' :: part.toList := by
  rw [← whole, String.toList_append, String.toList_append, List.append_assoc]
  rfl

/-- A name in parts that are taken comes into those parts. -/
theorem parseName_of_parts (resource : String) (h : Parts Taken name app part) :
    parseName name resource = .ok (app, part) := by
  cases h with
  | alone fits =>
    have given : name ≠ "" := fun empty => fits.nonempty (by rw [empty]; rfl)
    rw [parseName_alone resource given fits.no_slash, checkPart_fit resource fits]
    rfl
  | both whole fitsApp fitsPart =>
    rw [parseName_both resource (both_toList whole) fitsApp.no_slash fitsPart.no_slash,
      checkPart_fit _ fitsApp, checkPart_fit _ fitsPart, String.ofList_toList,
      String.ofList_toList]
    rfl

theorem parseName_of_refusal {fault : NameFault} (h : Refusal resource name fault) :
    parseName name resource = .error fault := by
  cases h with
  | empty empty =>
    subst empty
    exact parseName_empty resource
  | crowded crowded => exact parseName_crowded resource crowded
  | alone given single unfit =>
    rw [parseName_alone resource given single, checkPart_unfit resource unfit]
    rfl
  | app whole first last unfit =>
    rw [parseName_both resource whole first last, checkPart_unfit _ unfit]
    rfl
  | part whole first last fits unfit =>
    rw [parseName_both resource whole first last, checkPart_fit _ fits, checkPart_unfit _ unfit]
    rfl

/-- Every name is taken or refused. -/
theorem parts_or_refusal (name resource : String) :
    (∃ app part, Parts Taken name app part) ∨ ∃ fault, Refusal resource name fault := by
  by_cases given : name = ""
  · exact .inr ⟨_, .empty given⟩
  rcases slash_cases name.toList with single | ⟨app, part, whole, first, last⟩ | crowded
  · by_cases fits : Taken name.toList
    · exact .inl ⟨_, _, .alone fits⟩
    · exact .inr ⟨_, .alone given single fits⟩
  · by_cases fitsApp : Taken app
    · by_cases fitsPart : Taken part
      · refine .inl ⟨String.ofList app, String.ofList part, .both ?_ ?_ ?_⟩
        · rw [← String.toList_inj, whole]
          simp
        · rwa [String.toList_ofList]
        · rwa [String.toList_ofList]
      · exact .inr ⟨_, .part whole first last fitsApp fitsPart⟩
    · exact .inr ⟨_, .app whole first last fitsApp⟩
  · exact .inr ⟨_, .crowded crowded⟩

/-- What is taken and has no line feed is what should be taken. -/
theorem parts_nameText_iff :
    Parts NameText name app part ↔ Parts Taken name app part ∧ '\n' ∉ name.toList := by
  constructor
  · rintro (fits | ⟨whole, fitsApp, fitsPart⟩)
    · exact ⟨.alone fits.taken, fits.no_feed⟩
    · refine ⟨.both whole fitsApp.taken fitsPart.taken, ?_⟩
      rw [both_toList whole]
      simp [fitsApp.no_feed, fitsPart.no_feed]
  · rintro ⟨fits | ⟨whole, fitsApp, fitsPart⟩, absent⟩
    · exact .alone (nameText_iff.2 ⟨fits, absent⟩)
    · rw [both_toList whole, List.mem_append, List.mem_cons, not_or, not_or] at absent
      exact .both whole (nameText_iff.2 ⟨fitsApp, absent.1⟩)
        (nameText_iff.2 ⟨fitsPart, absent.2.2⟩)

/-- **Which names are taken, into which parts, and how all others are refused.** Each part may have
a line feed behind it; a name without any is taken exactly if it is one, or two with a slash in
between. -/
theorem names_taken (name resource : String) :
    (∀ app part, parseName name resource = .ok (app, part) ↔ Parts Taken name app part) ∧
    (∀ app part,
      Parts NameText name app part ↔ Parts Taken name app part ∧ '\n' ∉ name.toList) ∧
    ∀ fault, parseName name resource = .error fault ↔ Refusal resource name fault := by
  refine ⟨fun app part => ⟨fun h => ?_, parseName_of_parts resource⟩,
    fun app part => parts_nameText_iff, fun fault => ⟨fun h => ?_, parseName_of_refusal⟩⟩
  · rcases parts_or_refusal name resource with ⟨app', part', parts⟩ | ⟨fault, refusal⟩
    · rw [parseName_of_parts resource parts] at h
      cases h
      exact parts
    · rw [parseName_of_refusal refusal] at h
      cases h
  · rcases parts_or_refusal name resource with ⟨app, part, parts⟩ | ⟨fault', refusal⟩
    · rw [parseName_of_parts resource parts] at h
      cases h
    · rw [parseName_of_refusal refusal] at h
      cases h
      exact refusal

/-- A line feed is taken along, behind a name alone and behind an application. -/
theorem line_feed_taken :
    (parseName "web\n" "microservice" = .ok ("", "web\n") ∧
      ∀ app part, ¬Parts NameText "web\n" app part) ∧
    parseName "app\n/web" "microservice" = .ok ("app\n", "web") ∧
      ∀ app part, ¬Parts NameText "app\n/web" app part := by
  have refused {name : String} (feed : '\n' ∈ name.toList) (app part : String) :
      ¬Parts NameText name app part := fun parts => (parts_nameText_iff.1 parts).2 feed
  exact ⟨⟨by decide, refused (by decide)⟩, by decide, refused (by decide)⟩

end
end EdgeSession.Attach
