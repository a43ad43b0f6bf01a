import EdgeSession.Proofs.Session.Diagnosis

/-!
Refusals, which close a session with code 1008. The reason that is dug out of such a text is a piece
of it, so that which phrases stand in the text decides what an operator is told, whatever stands
around them. Of a refusal's own text, the reason is what was given as one, trimmed, unless that ends
in a closing parenthesis.
-/
namespace EdgeSession.Diagnosis

open Text

variable {text piece : List Char} {cause : Cause} {phrase sentence : String}

/-! ## The reason is a piece of the text -/

theorem trimReason_isInfix (s : List Char) : trimReason s <:+: s :=
  (dropSuffix_isPrefix _ _).isInfix.trans (trim_isInfix s)

theorem lastQuoted?_isInfix (found : lastQuoted? text = some piece) : piece <:+: text := by
  unfold lastQuoted? at found
  split at found
  · rename_i last quoted first rest pieces
    split at found
    · cases found
    · cases found
      refine infix_of_mem_splitOn (c := '\x22') (List.mem_reverse.mp ?_)
      rw [pieces]
      simp
  · cases found

theorem quotedFront?_isInfix (found : quotedFront? text = some piece) : piece <:+: text := by
  unfold quotedFront? at found
  split at found
  · rename_i rest
    obtain ⟨⟨before, after⟩, split, rfl⟩ := Option.map_eq_some_iff.mp found
    rw [splitAt?_eq_some split]
    exact ⟨['\x22'], ['\x22'] ++ after, by simp⟩
  · cases found

theorem reasonAfterCode_isInfix (after : List Char) : reasonAfterCode after <:+: after := by
  have unwrapped : trim (dropSuffix [')'] (dropPrefix ['('] (trim after))) <:+: after := calc
    _ <:+: dropSuffix [')'] (dropPrefix ['('] (trim after)) := trim_isInfix _
    _ <:+: dropPrefix ['('] (trim after) := (dropSuffix_isPrefix _ _).isInfix
    _ <:+: trim after := (dropPrefix_suffix _ _).isInfix
    _ <:+: after := trim_isInfix after
  unfold reasonAfterCode
  dsimp only
  split
  · rename_i quoted found
    exact (quotedFront?_isInfix found).trans unwrapped
  · split
    · rename_i rest found
      exact ((trimReason_isInfix rest).trans (after?_suffix found).isInfix).trans unwrapped
    · split
      · exact List.nil_infix
      · exact unwrapped

theorem reason_isInfix (text : List Char) : reason text <:+: text := by
  unfold reason
  split
  · rename_i rest found
    exact (trimReason_isInfix rest).trans (after?_suffix found).isInfix
  · split
    · rename_i rest found
      exact (trimReason_isInfix rest).trans (after?_suffix found).isInfix
    · split
      · exact List.nil_infix
      · rename_i after found
        split
        · rename_i quoted last
          exact lastQuoted?_isInfix last
        · exact (reasonAfterCode_isInfix after).trans (after?_suffix found).isInfix

/-! ## Phrases -/

/-- A phrase stands in a text, both in lower case. -/
def Occurs (phrase : String) (text : List Char) : Prop :=
  phrase.toList.flatMap foldCase <:+: text.flatMap foldCase

/-- The sentence belongs to the first phrase of the table that stands in a text. -/
def FirstPhrase (text : List Char) (sentence : String) : Prop :=
  ∃ earlier phrase later, phrases = earlier ++ (phrase, sentence) :: later ∧
    Occurs phrase text ∧ ∀ entry ∈ earlier, ¬Occurs entry.1 text

theorem containsFolded_iff : containsFolded phrase.toList text = true ↔ Occurs phrase text :=
  contains_iff

theorem Occurs.of_infix (occurs : Occurs phrase piece) (inside : piece <:+: text) :
    Occurs phrase text :=
  List.IsInfix.trans occurs (inside.flatMap foldCase)

theorem sentence?_eq_none_iff :
    sentence? text = none ↔ ∀ entry ∈ phrases, ¬Occurs entry.1 text := by
  rw [sentence?, Option.map_eq_none_iff, List.find?_eq_none]
  exact forall₂_congr fun entry _ => not_congr containsFolded_iff

theorem sentence?_eq_some_iff : sentence? text = some sentence ↔ FirstPhrase text sentence := by
  rw [sentence?, Option.map_eq_some_iff]
  constructor
  · rintro ⟨⟨phrase, sentence⟩, found, rfl⟩
    obtain ⟨occurs, earlier, later, table, before⟩ := List.find?_eq_some_iff_append.mp found
    refine ⟨earlier, phrase, later, table, containsFolded_iff.mp occurs, fun entry mem also => ?_⟩
    simpa [containsFolded_iff.mpr also] using before entry mem
  · rintro ⟨earlier, phrase, later, table, occurs, before⟩
    refine ⟨(phrase, sentence), List.find?_eq_some_iff_append.mpr ?_, rfl⟩
    refine ⟨containsFolded_iff.mpr occurs, earlier, later, table, fun entry mem => ?_⟩
    simpa using mt containsFolded_iff.mp (before entry mem)

/-- No phrase has the sentence for refusals without one. -/
theorem sentence_ne_accessDenied : ∀ entry ∈ phrases, entry.2 ≠ accessDenied := by
  have apart : (phrases.all fun entry => entry.2 != accessDenied) = true := by
    decide +kernel
  intro entry mem
  have other := List.all_eq_true.mp apart entry mem
  rintro same
  rw [same] at other
  simp at other

theorem FirstPhrase.mem (first : FirstPhrase text sentence) :
    ∃ phrase, (phrase, sentence) ∈ phrases ∧ Occurs phrase text := by
  obtain ⟨earlier, phrase, later, table, occurs, -⟩ := first
  exact ⟨phrase, by simp [table], occurs⟩

/-- The sentence for a refusal comes from the table, by a phrase in the text, or else the text has
no phrase of the table. -/
theorem refusal_cases (text : List Char) :
    (∃ phrase, (phrase, refusal text) ∈ phrases ∧ Occurs phrase text) ∨
      refusal text = accessDenied ∧ ∀ entry ∈ phrases, ¬Occurs entry.1 text := by
  unfold refusal
  cases ofReason : sentence? (reason text) with
  | some sentence =>
    obtain ⟨phrase, mem, occurs⟩ := (sentence?_eq_some_iff.mp ofReason).mem
    exact .inl ⟨phrase, mem, occurs.of_infix (reason_isInfix text)⟩
  | none =>
    cases ofText : sentence? text with
    | some sentence => exact .inl (sentence?_eq_some_iff.mp ofText).mem
    | none => exact .inr ⟨rfl, sentence?_eq_none_iff.mp ofText⟩

/-! ## What an operator is told -/

/-- Errors with close code 1008: the closures with that code, and whatever else has a text that
names it before any other. -/
inductive Refused : Cause → Prop
  | policy (reason : String) : Refused (.session (.policy reason))
  | closure (reason : String) : Refused (.session (.closure CloseCode.policyViolation reason))
  | named {cause : Cause}
      (uncoded : ∀ failure, cause = .session failure → failure.closeCode? = none)
      (first : FirstNamed cause.text.toList 1008) : Refused cause

theorem Refused.code (refused : Refused cause) : code? cause = some 1008 := by
  cases refused with
  | policy reason => rfl
  | closure reason => rfl
  | named uncoded first =>
    have written := writtenCode?_eq_some_iff.mpr first
    cases cause with
    | other text =>
      rw [Cause.text] at written
      rw [code?, written]
      rfl
    | session failure =>
      rw [Cause.text] at written
      rw [code?, uncoded failure rfl, written]
      rfl

theorem Refused.explain (refused : Refused cause) : explain cause = refusal cause.text.toList := by
  simp only [Diagnosis.explain, refused.code]

/-- What an operator is told of a refusal with a text. -/
structure Told (text : List Char) (sentence : String) : Prop where
  /-- The reason that is dug out stands in the text as it is. -/
  piece : reason text <:+: text
  denied : sentence = accessDenied ↔ ∀ entry ∈ phrases, ¬Occurs entry.1 text
  ofReason : ∀ told, FirstPhrase (reason text) told → sentence = told
  ofText : (∀ entry ∈ phrases, ¬Occurs entry.1 (reason text)) →
    ∀ told, FirstPhrase text told → sentence = told
  only : ∀ entry ∈ phrases, Occurs entry.1 text →
    (∀ other ∈ phrases, Occurs other.1 text → other = entry) → sentence = entry.2

/-- **Which phrases stand in its text decides what is told of a refusal.** -/
theorem refusals_explained (refused : Refused cause) : Told cause.text.toList (explain cause) := by
  rw [refused.explain]
  refine ⟨reason_isInfix _, ⟨fun denied => ?_, fun absent => ?_⟩, ?_, ?_, ?_⟩
  · obtain ⟨phrase, mem, -⟩ | ⟨-, absent⟩ := refusal_cases cause.text.toList
    · exact absurd denied (sentence_ne_accessDenied _ mem)
    · exact absent
  · obtain ⟨phrase, mem, occurs⟩ | ⟨denied, -⟩ := refusal_cases cause.text.toList
    · exact absurd occurs (absent (phrase, refusal cause.text.toList) mem)
    · exact denied
  · intro told first
    rw [refusal, sentence?_eq_some_iff.mpr first]
  · intro absent told first
    rw [refusal, sentence?_eq_none_iff.mpr absent, sentence?_eq_some_iff.mpr first]
    rfl
  · intro entry mem occurs only
    obtain ⟨phrase, told, also⟩ | ⟨-, absent⟩ := refusal_cases cause.text.toList
    · exact congrArg Prod.snd (only _ told also)
    · exact absurd occurs (absent entry mem)

theorem refusals_explained_quoted :
    Refused (.other "dial: close 1008 (\x22NO available exec session.\x22)") ∧
      Told "dial: close 1008 (\x22NO available exec session.\x22)".toList noExecSession := by
  have refused : Refused (.other "dial: close 1008 (\x22NO available exec session.\x22)") :=
    .named nofun (writtenCode?_eq_some_iff.mp (by decide))
  have sentence : explain (.other "dial: close 1008 (\x22NO available exec session.\x22)") =
      noExecSession := by decide +kernel
  have told := refusals_explained refused
  rw [sentence] at told
  exact ⟨refused, told⟩

/-! ## The reason of a refusal -/

theorem text_policy {given : String} (nonempty : given ≠ "") :
    (Failure.policy given).text.toList =
      "close 1008 (policy violation): ".toList ++ given.toList := by
  have label : s!"close {CloseCode.policyViolation} ({CloseCode.label CloseCode.policyViolation})" =
      "close 1008 (policy violation)" := by decide
  rw [Failure.text, Failure.closureText, if_neg nonempty, label, String.toList_append,
    String.toList_append]
  rfl

/-- What follows the code in a refusal's text: the label goes with its parentheses and its colon,
and so does a parenthesis behind it all. -/
theorem reasonAfterCode_labelled (given : List Char) :
    reasonAfterCode (" (policy violation): ".toList ++ given) =
      trimReason (dropSuffix [')'] (trim given)) := by
  obtain ⟨blanks, blank, behind⟩ := blanks_before_trim (' ' :: given)
  have space : trim (' ' :: given) = trim given :=
    trim_append_blanks (List.forall_mem_singleton.mpr (show isBlank ' ' = true from rfl)) given
  have unended : blanks.getLast? ≠ some ')' := fun last => by
    have := blank _ (List.mem_of_getLast? last)
    contradiction
  rw [space] at behind
  have labelled : trim (" (policy violation): ".toList ++ given) =
      "(policy violation):".toList ++ (blanks ++ trim given) := by
    have front : trim (" (policy violation): ".toList ++ given) =
        trim ("(policy violation):".toList ++ ' ' :: given) :=
      trim_append_blanks (List.forall_mem_singleton.mpr (show isBlank ' ' = true from rfl)) _
    rw [front, trim_append (by rintro c ⟨⟩; rfl) (by rintro c ⟨⟩; rfl) (by decide), behind]
  have unwrapped : trim (dropSuffix [')'] (dropPrefix ['(']
      (trim (" (policy violation): ".toList ++ given)))) =
        "policy violation)".toList ++
          ':' :: dropEndWhile isBlank (blanks ++ dropSuffix [')'] (trim given)) := by
    have opened : dropPrefix ['('] ("(policy violation):".toList ++ (blanks ++ trim given)) =
        "policy violation):".toList ++ (blanks ++ trim given) := dropPrefix_front ['('] _
    rw [labelled, opened, dropSuffix_single_append (by decide), dropSuffix_single_append unended,
      trim_append (by rintro c ⟨⟩; rfl) (by rintro c ⟨⟩; rfl) (by decide)]
    rfl
  have unquoted : quotedFront? ("policy violation)".toList ++
      ':' :: dropEndWhile isBlank (blanks ++ dropSuffix [')'] (trim given))) = none := rfl
  rw [reasonAfterCode]
  simp only [unwrapped, unquoted, after?_single (show ':' ∉ "policy violation)".toList by decide)]
  rw [trimReason, trim_dropEndWhile, trim_append_blanks blank, trimReason]

/-- **A closing parenthesis at its end is what a reason loses**, its white space and a full stop
apart. -/
theorem reasons_recovered {given : String} (nonempty : given ≠ "")
    (unquoted : '\x22' ∉ given.toList) (unlabelled : ¬"reason:".toList <:+: given.toList)
    (unrepeated : ¬"policy violation:".toList <:+: given.toList) :
    reason (Failure.policy given).text.toList = trimReason (dropSuffix [')'] (trim given.toList)) ∧
      (reason (Failure.policy given).text.toList = trimReason given.toList ↔
        ¬[')'] <:+ trim given.toList) := by
  have recovered : reason (Failure.policy given).text.toList =
      trimReason (dropSuffix [')'] (trim given.toList)) := by
    rw [text_policy nonempty]
    have reasonless : after? "reason:".toList
        ("close 1008 (policy violation): ".toList ++ given.toList) = none := by
      rw [after?_eq_none_iff]
      simpa [List.infix_cons_iff] using unlabelled
    have policyless : after? "policy violation:".toList
        ("close 1008 (policy violation): ".toList ++ given.toList) = none := by
      rw [after?_eq_none_iff]
      simpa [List.infix_cons_iff] using unrepeated
    have marked : after? marker ("close 1008 (policy violation): ".toList ++ given.toList) =
        some (" (policy violation): ".toList ++ given.toList) := after?_front marker _
    have plain : lastQuoted? ("close 1008 (policy violation): ".toList ++ given.toList) = none := by
      rw [lastQuoted?, splitOn_absent (by simpa using unquoted)]
      rfl
    simp only [reason, reasonless, policyless, marked, plain, reasonAfterCode_labelled]
  refine ⟨recovered, ?_⟩
  rw [recovered]
  constructor
  · rintro same ⟨front, ends⟩
    have kept : trimReason given.toList = front ++ [')'] := by
      rw [trimReason, ← ends]
      exact dropSuffix_other (by simp)
    have shorter : (trimReason front).length ≤ front.length := (trimReason_isInfix front).length_le
    rw [kept, ← ends, dropSuffix_tail] at same
    have length := congrArg List.length same
    rw [List.length_append, List.length_singleton] at length
    omega
  · intro open_
    rw [dropSuffix_other open_, trimReason, trim_trim, trimReason]

theorem reasons_recovered_nested :
    ("Quota: close 1008 (full) reached. " ≠ "" ∧
      '\x22' ∉ "Quota: close 1008 (full) reached. ".toList ∧
      ¬"reason:".toList <:+: "Quota: close 1008 (full) reached. ".toList ∧
      ¬"policy violation:".toList <:+: "Quota: close 1008 (full) reached. ".toList) ∧
      reason (Failure.policy "Quota: close 1008 (full) reached. ").text.toList =
        "Quota: close 1008 (full) reached".toList := by
  have hypotheses : "Quota: close 1008 (full) reached. " ≠ "" ∧
      '\x22' ∉ "Quota: close 1008 (full) reached. ".toList ∧
      ¬"reason:".toList <:+: "Quota: close 1008 (full) reached. ".toList ∧
      ¬"policy violation:".toList <:+: "Quota: close 1008 (full) reached. ".toList := by decide
  refine ⟨hypotheses, ?_⟩
  obtain ⟨nonempty, unquoted, unlabelled, unrepeated⟩ := hypotheses
  rw [(reasons_recovered nonempty unquoted unlabelled unrepeated).2.mpr (by decide)]
  decide

/-- The last parenthesis of a reason is taken for one around the whole. -/
theorem parenthesis_lost :
    ¬∀ given : String, given ≠ "" → '\x22' ∉ given.toList →
      ¬"reason:".toList <:+: given.toList → ¬"policy violation:".toList <:+: given.toList →
      reason (Failure.policy given).text.toList = trimReason given.toList := by
  intro recovered
  have whole := recovered "denied (quota)" (by decide) (by decide) (by decide) (by decide)
  have cut : reason (Failure.policy "denied (quota)").text.toList = "denied (quota".toList := by
    decide
  rw [cut] at whole
  revert whole
  decide

end EdgeSession.Diagnosis
