import EdgeSession.ControlPlane.Url
import Mathlib.Data.List.TakeWhile

/-!
Taking apart an address that was put together from its parts gives the same parts, if they are
written as they are found in an address. A port that is written behind an authority is found there
if the authority ends in its host, and not otherwise.
-/
namespace EdgeSession.Url

open Text

variable {mark c : Char} {s front rest tail scheme authority : List Char} {parts again : Parts}
  {bracketed inside name : List Char} {after given : Option (List Char)}

/-! ## Cutting -/

theorem bne_of_absent (absent : mark ∉ s) : ∀ c ∈ s, (c != mark) = true := by
  intro c mem
  rw [bne_iff_ne]
  rintro rfl
  exact absent mem

theorem cut_absent (absent : mark ∉ s) : cut mark s = (s, none) := by
  have whole : s.dropWhile (· != mark) = [] :=
    List.dropWhile_eq_nil_iff.mpr (bne_of_absent absent)
  rw [cut, whole]

theorem cut_append (absent : mark ∉ front) (rest : List Char) :
    cut mark (front ++ mark :: rest) = (front, some rest) := by
  have others : ∀ c ∈ front, (c != mark) = true := bne_of_absent absent
  rw [cut, List.dropWhile_append_of_pos others, List.takeWhile_append_of_pos others,
    List.dropWhile_cons_of_neg (by simp), List.takeWhile_cons_of_neg (by simp), List.append_nil]

theorem cut_mark (mark : Char) (rest : List Char) : cut mark (mark :: rest) = ([], some rest) :=
  cut_append List.not_mem_nil rest

theorem cut_cases (mark : Char) (s : List Char) :
    mark ∉ s ∧ cut mark s = (s, none) ∨
      ∃ front rest, s = front ++ mark :: rest ∧ mark ∉ front ∧ cut mark s = (front, some rest) := by
  by_cases present : mark ∈ s
  · obtain ⟨front, rest, rfl, absent⟩ := List.eq_append_cons_of_mem present
    exact .inr ⟨front, rest, rfl, absent, cut_append absent rest⟩
  · exact .inl ⟨present, cut_absent present⟩

theorem cut_eq_none (whole : cut mark s = (front, none)) : mark ∉ s ∧ front = s := by
  obtain ⟨absent, same⟩ | ⟨_, _, _, _, same⟩ := cut_cases mark s
  · rw [whole] at same
    exact ⟨absent, (Prod.mk.inj same).1⟩
  · rw [whole] at same
    cases same

theorem cut_eq_some (found : cut mark s = (front, some rest)) :
    s = front ++ mark :: rest ∧ mark ∉ front := by
  obtain ⟨_, same⟩ | ⟨before, after, whole, absent, same⟩ := cut_cases mark s
  · rw [found] at same
    cases same
  · rw [found] at same
    cases same
    exact ⟨whole, absent⟩

/-- What is written behind a text stays behind what was cut off. -/
theorem cut_append_of_some (found : cut mark s = (front, some rest)) (tail : List Char) :
    cut mark (s ++ tail) = (front, some (rest ++ tail)) := by
  obtain ⟨rfl, absent⟩ := cut_eq_some found
  rw [List.append_assoc, List.cons_append, cut_append absent]

theorem afterLast_append (absent : mark ∉ tail) (s : List Char) :
    afterLast mark (s ++ tail) = afterLast mark s ++ tail := by
  have others : ∀ c ∈ tail.reverse, (c != mark) = true :=
    bne_of_absent (mt List.mem_reverse.mp absent)
  rw [afterLast, List.reverse_append, List.takeWhile_append_of_pos others, List.reverse_append,
    List.reverse_reverse, afterLast]

theorem afterLast_suffix (mark : Char) (s : List Char) : afterLast mark s <:+ s := by
  rw [afterLast, ← List.reverse_prefix, List.reverse_reverse]
  exact List.takeWhile_prefix _

/-! ## The scheme -/

/-- A scheme as it is found in an address, in lower case. -/
structure IsScheme (scheme : List Char) : Prop where
  starts : scheme.head?.any isSchemeStart = true
  characters : scheme.all isSchemeChar = true
  lower : scheme.map Char.toLower = scheme

theorem isSchemeChar_lt (h : isSchemeChar c = true) : c.toNat < 128 := by
  simp only [isSchemeChar, isSchemeStart, isAsciiDigit, Bool.or_eq_true, Bool.and_eq_true,
    decide_eq_true_eq, beq_iff_eq] at h
  obtain ((((h | h) | h) | rfl) | rfl) | rfl := h
  · omega
  · omega
  · omega
  · decide
  · decide
  · decide

/-- A fact about the characters of a scheme needs to be seen on ASCII only. -/
theorem forall_isSchemeChar {p : Char → Prop}
    (ascii : ∀ n < 128, isSchemeChar (Char.ofNat n) = true → p (Char.ofNat n)) :
    ∀ c, isSchemeChar c = true → p c := by
  intro c h
  rw [← Char.ofNat_toNat c] at h ⊢
  exact ascii _ (by rw [Char.ofNat_toNat] at h; exact isSchemeChar_lt h) h

theorem isSchemeChar_toLower : ∀ c, isSchemeChar c = true →
    isSchemeChar c.toLower = true ∧ c.toLower.toLower = c.toLower ∧
      (isSchemeStart c = true → isSchemeStart c.toLower = true) :=
  forall_isSchemeChar (by decide)

/-- No mark and nothing that is dropped from an address stands in a scheme. -/
theorem isSchemeChar_plain : ∀ c, isSchemeChar c = true →
    0x20 < c.toNat ∧ c ≠ ':' ∧ c ≠ '?' ∧ c ≠ '#' ∧ c ≠ '\t' ∧ c ≠ '\r' ∧ c ≠ '\n' ∧
      isBlank c = false :=
  forall_isSchemeChar (by decide)

theorem splitScheme_eq (taken : splitScheme s = (scheme, rest)) :
    (scheme = [] ∨ IsScheme scheme) ∧ rest <:+ s := by
  unfold splitScheme at taken
  obtain ⟨-, whole⟩ | ⟨front, back, rfl, -, whole⟩ := cut_cases ':' s
  · rw [whole] at taken
    cases taken
    exact ⟨.inl rfl, List.suffix_rfl⟩
  · rw [whole] at taken
    dsimp only at taken
    split at taken
    · rename_i named
      cases taken
      obtain ⟨starts, characters⟩ := Bool.and_eq_true_iff.mp named
      have lowered := fun c mem => isSchemeChar_toLower c (List.all_eq_true.mp characters c mem)
      refine ⟨.inr ⟨?_, ?_, ?_⟩, front ++ [':'], by simp⟩
      · cases front with
        | nil => cases starts
        | cons c front => exact (lowered c List.mem_cons_self).2.2 starts
      · rw [List.all_map]
        exact List.all_eq_true.mpr fun c mem => (lowered c mem).1
      · rw [List.map_map]
        exact List.map_congr_left fun c mem => (lowered c mem).2.1
    · cases taken
      exact ⟨.inl rfl, List.suffix_rfl⟩

theorem splitScheme_joined (h : IsScheme scheme) (rest : List Char) :
    splitScheme (scheme ++ ':' :: rest) = (scheme, rest) := by
  have absent : ':' ∉ scheme := fun mem =>
    (isSchemeChar_plain ':' (List.all_eq_true.mp h.characters _ mem)).2.1 rfl
  rw [splitScheme, cut_append absent]
  simp only [h.starts, h.characters, Bool.and_self, if_true, h.lower]

theorem splitScheme_colon (rest : List Char) : splitScheme (':' :: rest) = ([], ':' :: rest) := by
  rw [splitScheme, cut_mark]
  rfl

/-! ## Taking apart and joining -/

theorem clean_eq_self (starts : ∀ c, s.head? = some c → 0x20 < c.toNat)
    (kept : ∀ c ∈ s, isKept c = true) : clean s = s := by
  have front : s.dropWhile (fun c => c.toNat ≤ 0x20) = s := by
    cases s with
    | nil => rfl
    | cons c s => rw [List.dropWhile_cons_of_neg (by simp [starts c rfl])]
  rw [clean, front, List.filter_eq_self.mpr kept]

theorem isKept_of_mem_clean (mem : c ∈ clean s) : isKept c = true := (List.mem_filter.mp mem).2

/-- No fault is found in an authority. -/
structure Sound (authority : List Char) : Prop where
  brackets : checkBrackets authority = .ok ()
  disguises : checkDisguises authority = .ok ()

/-- What is made of an address in which no fault is found. -/
theorem split_eq_ok_iff :
    split s = .ok parts ↔ Sound parts.authority ∧ ∃ rest tail,
      splitScheme (clean s) = (parts.scheme, rest) ∧
        splitAuthority rest = (parts.authority, tail) ∧ parts.path = pathOf tail := by
  obtain ⟨scheme, authority, path⟩ := parts
  unfold split
  dsimp only
  constructor
  · intro taken
    split at taken
    · cases taken
    · cases taken
    · rename_i brackets disguises
      cases taken
      exact ⟨⟨brackets, disguises⟩, _, _, rfl, rfl, rfl⟩
  · rintro ⟨⟨brackets, disguises⟩, rest, tail, schemed, authored, rfl⟩
    rw [schemed]
    dsimp only
    rw [authored]
    dsimp only
    rw [brackets, disguises]

/-- An address that consists of its parts. -/
def Parts.joined (parts : Parts) : List Char :=
  parts.scheme ++ "://".toList ++ parts.authority ++ parts.path

theorem Parts.joined_eq (parts : Parts) :
    parts.joined = parts.scheme ++ ':' :: '/' :: '/' :: (parts.authority ++ parts.path) := by
  simp [Parts.joined]

/-- Parts as they are found in an address that has an authority. -/
structure Parts.Written (parts : Parts) : Prop where
  scheme : parts.scheme = [] ∨ IsScheme parts.scheme
  authority : ∀ c ∈ parts.authority, isKept c = true ∧ endsAuthority c = false
  path : ∀ c ∈ parts.path, isKept c = true ∧ c ≠ '?' ∧ c ≠ '#'
  rooted : ∀ c, parts.path.head? = some c → c = '/'

theorem splitAuthority_eq (taken : splitAuthority s = (authority, rest)) (named : authority ≠ []) :
    s = '/' :: '/' :: (authority ++ rest) ∧ (∀ c ∈ authority, endsAuthority c = false) ∧
      ∀ c, rest.head? = some c → endsAuthority c = true := by
  unfold splitAuthority at taken
  split at taken
  · rename_i back
    have whole : back.takeWhile (!endsAuthority ·) ++ back.dropWhile (!endsAuthority ·) = back :=
      List.takeWhile_append_dropWhile
    have behind : (back.takeWhile (!endsAuthority ·) ++ back.dropWhile (!endsAuthority ·)).drop
        (back.takeWhile (!endsAuthority ·)).length = back.dropWhile (!endsAuthority ·) :=
      List.drop_left
    rw [whole] at behind
    dsimp only at taken
    rw [behind] at taken
    cases taken
    refine ⟨by rw [whole], fun c mem => ?_, fun c first => ?_⟩
    · simpa using List.mem_takeWhile_imp mem
    · have apart := List.head?_dropWhile_not (!endsAuthority ·) back
      rw [first] at apart
      simpa using apart
  · cases taken
    exact absurd rfl named

theorem splitAuthority_joined (inside : ∀ c ∈ authority, endsAuthority c = false)
    (ends : ∀ c, rest.head? = some c → endsAuthority c = true) :
    splitAuthority ('/' :: '/' :: (authority ++ rest)) = (authority, rest) := by
  have whole : (authority ++ rest).takeWhile (!endsAuthority ·) = authority := by
    rw [List.takeWhile_append_of_pos (by simpa using inside)]
    cases rest with
    | nil => simp
    | cons c rest => rw [List.takeWhile_cons_of_neg (by simp [ends c rfl]), List.append_nil]
  rw [splitAuthority, whole, List.drop_left]

theorem split_written (taken : split s = .ok parts) (named : parts.authority ≠ []) :
    parts.Written := by
  obtain ⟨-, rest, tail, schemed, authored, path⟩ := split_eq_ok_iff.mp taken
  obtain ⟨scheme, inside⟩ := splitScheme_eq schemed
  obtain ⟨rfl, within, ends⟩ := splitAuthority_eq authored named
  have kept : ∀ c ∈ parts.authority ++ tail, isKept c = true := fun c mem =>
    isKept_of_mem_clean (inside.mem (List.mem_cons_of_mem _ (List.mem_cons_of_mem _ mem)))
  refine ⟨scheme, fun c mem => ?_, fun c mem => ?_, fun c first => ?_⟩
  · exact ⟨kept c (List.mem_append_left _ mem), within c mem⟩
  · rw [path, pathOf] at mem
    have plain := List.mem_takeWhile_imp mem
    have mem := (List.takeWhile_prefix _).mem mem
    exact ⟨kept c (List.mem_append_right _ mem), by simpa using plain⟩
  · cases tail with
    | nil => simp [path, pathOf] at first
    | cons d tail =>
      have ended := ends d rfl
      rw [path, pathOf, List.takeWhile_cons] at first
      split at first
      · rename_i plain
        cases first
        simp_all [endsAuthority]
      · cases first

theorem Parts.Written.isSchemeChar (written : parts.Written) (mem : c ∈ parts.scheme) :
    Url.isSchemeChar c = true := by
  obtain unnamed | named := written.scheme
  · rw [unnamed] at mem
    cases mem
  · exact List.all_eq_true.mp named.characters c mem

theorem Parts.Written.head (written : parts.Written) (first : parts.joined.head? = some c) :
    0x20 < c.toNat ∧ isBlank c = false := by
  rw [Parts.joined_eq] at first
  cases scheme : parts.scheme with
  | nil =>
    rw [scheme] at first
    cases first
    decide
  | cons d back =>
    rw [scheme] at first
    cases first
    have plain := isSchemeChar_plain c (written.isSchemeChar (by simp [scheme]))
    exact ⟨plain.1, plain.2.2.2.2.2.2.2⟩

theorem Parts.Written.kept (written : parts.Written) (mem : c ∈ parts.joined) :
    isKept c = true ∧ c ≠ '?' ∧ c ≠ '#' := by
  have marks : ∀ c ∈ "://".toList, isKept c = true ∧ c ≠ '?' ∧ c ≠ '#' := by simp [isKept]
  simp only [Parts.joined, List.mem_append] at mem
  obtain ((mem | mem) | mem) | mem := mem
  · have plain := isSchemeChar_plain c (written.isSchemeChar mem)
    exact ⟨by simp [isKept, plain], plain.2.2.1, plain.2.2.2.1⟩
  · exact marks c mem
  · obtain ⟨kept, inside⟩ := written.authority c mem
    exact ⟨kept, by simp_all [endsAuthority]⟩
  · exact written.path c mem

theorem clean_joined (written : parts.Written) : clean parts.joined = parts.joined :=
  clean_eq_self (fun _ first => (written.head first).1) fun _ mem => (written.kept mem).1

/-- The parts an address was put together from are found in it, and the same faults. -/
theorem split_joined (written : parts.Written) (named : IsScheme parts.scheme) :
    split parts.joined = .ok again ↔ Sound parts.authority ∧ again = parts := by
  have authored : splitAuthority ('/' :: '/' :: (parts.authority ++ parts.path)) =
      (parts.authority, parts.path) := by
    refine splitAuthority_joined (fun c mem => (written.authority c mem).2) fun c first => ?_
    rw [written.rooted c first]
    rfl
  have path : pathOf parts.path = parts.path := by
    refine List.takeWhile_eq_self_iff.mpr fun c mem => ?_
    simpa using (written.path c mem).2
  rw [split_eq_ok_iff, clean_joined written, Parts.joined_eq, splitScheme_joined named]
  constructor
  · rintro ⟨sound, rest, tail, schemed, authored', path'⟩
    obtain ⟨sameScheme, rfl⟩ := Prod.mk.inj schemed
    obtain ⟨sameAuthority, rfl⟩ := Prod.mk.inj (authored.symm.trans authored')
    exact ⟨by rwa [sameAuthority],
      Parts.ext sameScheme.symm sameAuthority.symm (path'.trans path)⟩
  · rintro ⟨sound, rfl⟩
    exact ⟨sound, _, _, rfl, authored, path.symm⟩

/-- Without a scheme the authority is not found either. -/
theorem split_unnamed (written : parts.Written) (unnamed : parts.scheme = [])
    (taken : split parts.joined = .ok again) : again.scheme = [] ∧ again.authority = [] := by
  obtain ⟨-, rest, tail, schemed, authored, -⟩ := split_eq_ok_iff.mp taken
  rw [clean_joined written, Parts.joined_eq, unnamed, List.nil_append, splitScheme_colon] at schemed
  obtain ⟨scheme, rfl⟩ := Prod.mk.inj schemed
  exact ⟨scheme.symm, (Prod.mk.inj authored).1.symm⟩

/-! ## The host and the port -/

theorem hostAndPort_bracketed (opened : cut '[' (afterLast '@' authority) = (front, some bracketed))
    (closed : cut ']' bracketed = (inside, after)) :
    hostAndPort authority = (inside, (cut ':' (after.getD [])).2.getD []) := by
  simp only [hostAndPort, opened, closed]

theorem hostAndPort_named (unopened : '[' ∉ afterLast '@' authority)
    (parted : cut ':' (afterLast '@' authority) = (name, given)) :
    hostAndPort authority = (name, given.getD []) := by
  simp only [hostAndPort, cut_absent unopened, parted]

theorem port?_eq_none {text : List Char} (unwritten : port? text = .ok none) : text = [] := by
  unfold port? at unwritten
  split at unwritten
  · rename_i empty
    exact List.isEmpty_iff.mp empty
  · split at unwritten
    · cases unwritten
    · split at unwritten
      · cases unwritten
      · dsimp only at unwritten
        split at unwritten <;> cases unwritten

theorem mem_of_opened (opened : cut '[' (afterLast '@' authority) = (front, some bracketed)) :
    '[' ∈ authority := by
  refine (afterLast_suffix '@' authority).mem ?_
  rw [(cut_eq_some opened).1]
  simp

/-- What the check of brackets finds behind an opening one. -/
theorem checkBrackets_bracketed
    (opened : cut '[' (afterLast '@' authority) = (front, some bracketed))
    (closed : cut ']' bracketed = (inside, after)) :
    checkBrackets authority = .ok () ↔
      ']' ∈ authority ∧ front = [] ∧ (∀ c, (after.getD []).head? = some c → c = ':') ∧
        checkBracketed inside = .ok () := by
  have present : authority.contains '[' = true := by simpa using mem_of_opened opened
  unfold checkBrackets
  by_cases both : ']' ∈ authority
  · have both' : authority.contains ']' = true := by simpa using both
    simp only [present, both', opened]
    cases front with
    | cons c front => simp
    | nil =>
      simp only [closed]
      obtain _ | _ | ⟨c, rest⟩ := after
      · simp [both]
      · simp [both]
      · by_cases colon : c = ':' <;> simp [both, colon]
  · have both' : authority.contains ']' = false := by simpa using both
    rw [present, both']
    simp [both]

theorem checkBrackets_named (unopened : '[' ∉ afterLast '@' authority) :
    checkBrackets authority = .ok () ↔
      ('[' ∈ authority ↔ ']' ∈ authority) ∧
        ('[' ∈ authority → checkBracketed (cut ':' (afterLast '@' authority)).1 = .ok ()) := by
  unfold checkBrackets
  by_cases opening : '[' ∈ authority <;> by_cases closing : ']' ∈ authority <;>
    simp [opening, closing, cut_absent unopened]

/-! ## A port behind an authority -/

/-- Whether an authority ends in its host, so that a port can be written behind it. -/
def endsInHost (authority : List Char) : Bool :=
  match cut '[' (afterLast '@' authority) with
  | (_, some bracketed) => (cut ']' bracketed).2 == some []
  | (name, none) => !name.contains ':'

/-- No digit is a mark of an authority, or stands for one. -/
theorem isAsciiDigit_plain : ∀ c, isAsciiDigit c = true →
    c ≠ '@' ∧ c ≠ '[' ∧ c ≠ ']' ∧ disguises.contains c.toNat = false ∧ isKept c = true ∧
      endsAuthority c = false := by
  intro c digit
  have named : isSchemeChar c = true := by simp [isSchemeChar, digit]
  revert digit
  exact forall_isSchemeChar (p := fun c => isAsciiDigit c = true →
    c ≠ '@' ∧ c ≠ '[' ∧ c ≠ ']' ∧ disguises.contains c.toNat = false ∧ isKept c = true ∧
      endsAuthority c = false) (by decide) c named

theorem checkDisguises_ok_iff :
    checkDisguises authority = .ok () ↔
      ∀ c ∈ authority, disguises.contains c.toNat = false := by
  unfold checkDisguises
  split
  · rename_i disguised
    simpa using disguised
  · rename_i plain
    simpa using plain

section
variable {port : List Char} (digits : ∀ c ∈ port, isAsciiDigit c = true)
include digits

theorem not_mem_port (mark : Char) (marks : mark = '@' ∨ mark = '[' ∨ mark = ']') :
    mark ∉ ':' :: port := by
  intro mem
  obtain rfl | mem := List.mem_cons.mp mem
  · simp at marks
  · have plain := isAsciiDigit_plain mark (digits mark mem)
    obtain rfl | rfl | rfl := marks
    · exact plain.1 rfl
    · exact plain.2.1 rfl
    · exact plain.2.2.1 rfl

theorem mem_append_port (mark : Char) (marks : mark = '@' ∨ mark = '[' ∨ mark = ']')
    (s : List Char) : mark ∈ s ++ ':' :: port ↔ mark ∈ s := by
  rw [List.mem_append, or_iff_left (not_mem_port digits mark marks)]

theorem afterLast_append_port (authority : List Char) :
    afterLast '@' (authority ++ ':' :: port) = afterLast '@' authority ++ ':' :: port :=
  afterLast_append (not_mem_port digits '@' (.inl rfl)) authority

theorem opened_append (opened : cut '[' (afterLast '@' authority) = (front, some bracketed)) :
    cut '[' (afterLast '@' (authority ++ ':' :: port)) =
      (front, some (bracketed ++ ':' :: port)) := by
  rw [afterLast_append_port digits, cut_append_of_some opened]

theorem unopened_append (unopened : '[' ∉ afterLast '@' authority) :
    '[' ∉ afterLast '@' (authority ++ ':' :: port) := by
  rwa [afterLast_append_port digits, mem_append_port digits '[' (by simp)]

theorem endsInHost_append (ends : endsInHost authority = true)
    (brackets : checkBrackets authority = .ok ()) :
    hostAndPort (authority ++ ':' :: port) = ((hostAndPort authority).1, port) ∧
      checkBrackets (authority ++ ':' :: port) = .ok () := by
  have opening := mem_append_port digits '[' (by simp) authority
  have closing := mem_append_port digits ']' (by simp) authority
  unfold endsInHost at ends
  cases opened : cut '[' (afterLast '@' authority) with
  | mk front bracketed =>
    rw [opened] at ends
    cases bracketed with
    | some bracketed =>
      have closed : cut ']' bracketed = ((cut ']' bracketed).1, some []) :=
        Prod.ext rfl (eq_of_beq ends)
      have opened' := opened_append digits opened
      have closed' := cut_append_of_some closed (':' :: port)
      rw [hostAndPort_bracketed opened closed, hostAndPort_bracketed opened' closed',
        checkBrackets_bracketed opened' closed', closing]
      have checked := (checkBrackets_bracketed opened closed).mp brackets
      refine ⟨by simp [cut_mark], checked.1, checked.2.1, ?_, checked.2.2.2⟩
      rintro c first
      simpa using first.symm
    | none =>
      obtain ⟨unopened, rfl⟩ := cut_eq_none opened
      have unported : ':' ∉ afterLast '@' authority := by simpa using ends
      have unopened' := unopened_append digits unopened
      have parted : cut ':' (afterLast '@' (authority ++ ':' :: port)) =
          (afterLast '@' authority, some port) := by
        rw [afterLast_append_port digits, cut_append unported]
      rw [hostAndPort_named unopened (cut_absent unported), hostAndPort_named unopened' parted,
        checkBrackets_named unopened', parted, opening, closing]
      have checked := (checkBrackets_named unopened).mp brackets
      rw [cut_absent unported] at checked
      exact ⟨rfl, checked⟩

theorem Sound.append_port (sound : Sound authority) (ends : endsInHost authority = true) :
    Sound (authority ++ ':' :: port) := by
  refine ⟨(endsInHost_append digits ends sound.brackets).2, ?_⟩
  rw [checkDisguises_ok_iff]
  intro c mem
  obtain mem | mem := List.mem_append.mp mem
  · exact checkDisguises_ok_iff.mp sound.disguises c mem
  · obtain rfl | mem := List.mem_cons.mp mem
    · decide
    · exact (isAsciiDigit_plain c (digits c mem)).2.2.2.1

/-- Behind anything but a host, a port is not found. -/
theorem port?_append (open_ : endsInHost authority = false)
    (brackets : checkBrackets authority = .ok ()) (portless : (hostAndPort authority).2 = [])
    (n : Nat) : port? (hostAndPort (authority ++ ':' :: port)).2 ≠ .ok (some n) := by
  have twice : port? (':' :: port) = .error (.portText (':' :: port)) := rfl
  unfold endsInHost at open_
  cases opened : cut '[' (afterLast '@' authority) with
  | mk front bracketed =>
    rw [opened] at open_
    cases bracketed with
    | some bracketed =>
      have opened' := opened_append digits opened
      cases closed : cut ']' bracketed with
      | mk inside after =>
        have checked := (checkBrackets_bracketed opened closed).mp brackets
        rw [hostAndPort_bracketed opened closed] at portless
        cases after with
        | none =>
          obtain ⟨unclosed, rfl⟩ := cut_eq_none closed
          have unclosed' : ']' ∉ inside ++ ':' :: port :=
            mt (mem_append_port digits ']' (by simp) inside).mp unclosed
          rw [hostAndPort_bracketed opened' (cut_absent unclosed')]
          intro found
          cases found
        | some after =>
          cases after with
          | nil => simp [closed] at open_
          | cons c rest =>
            obtain rfl := checked.2.2.1 c rfl
            obtain rfl : rest = [] := by simpa [cut_mark] using portless
            rw [hostAndPort_bracketed opened' (cut_append_of_some closed (':' :: port))]
            simp [cut_mark, twice]
    | none =>
      obtain ⟨unopened, rfl⟩ := cut_eq_none opened
      have unopened' := unopened_append digits unopened
      obtain ⟨unported, _⟩ | ⟨name, rest, _, _, parted⟩ := cut_cases ':' (afterLast '@' authority)
      · simp [unported] at open_
      · rw [hostAndPort_named unopened parted] at portless
        obtain rfl : rest = [] := portless
        have parted' := cut_append_of_some parted (':' :: port)
        rw [← afterLast_append_port digits] at parted'
        rw [hostAndPort_named unopened' parted']
        simp [twice]

end

end EdgeSession.Url
