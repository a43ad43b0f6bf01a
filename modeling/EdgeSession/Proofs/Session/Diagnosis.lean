import EdgeSession.Proofs.Text.Pieces
import EdgeSession.Session.Diagnosis

/-!
The close code of an error, read off its text alone: it is the first that stands there, and in the
text of a closure that is the closure's own. So a closure and an error of which only the text is
known are explained alike.
-/
namespace EdgeSession.Diagnosis

open Text

variable {text before earlier after : List Char} {c d : Char} {code other : Nat}

/-- `close` and the four digits of a code stand in a text, behind `before`. -/
def NamedAt (text before : List Char) (code : Nat) : Prop :=
  ∃ after, text = before ++ ("close ".toList ++ after) ∧ fourDigits? after = some code

/-- The first code that a text names. -/
def FirstNamed (text : List Char) (code : Nat) : Prop :=
  ∃ before, NamedAt text before code ∧
    ∀ earlier other, NamedAt text earlier other → before.length ≤ earlier.length

theorem namedAt_front :
    NamedAt text [] code ↔ (afterPrefix? "close ".toList text).bind fourDigits? = some code := by
  rw [Option.bind_eq_some_iff]
  refine exists_congr fun after => and_congr_left' ?_
  rw [List.nil_append, afterPrefix?_eq_some_iff]

theorem namedAt_cons :
    NamedAt (c :: text) (d :: before) code ↔ c = d ∧ NamedAt text before code := by
  constructor
  · rintro ⟨after, same, digits⟩
    obtain ⟨head, tail⟩ := List.cons.inj same
    exact ⟨head, after, tail, digits⟩
  · rintro ⟨rfl, after, same, digits⟩
    exact ⟨after, congrArg (c :: ·) same, digits⟩

theorem NamedAt.nonempty (named : NamedAt text before code) : text ≠ [] := by
  rintro rfl
  obtain ⟨after, same, -⟩ := named
  simp at same

theorem writtenCode?_eq_some_iff : writtenCode? text = some code ↔ FirstNamed text code := by
  induction text with
  | nil =>
    constructor
    · nofun
    · rintro ⟨before, named, -⟩
      exact absurd rfl named.nonempty
  | cons c text ih =>
    rw [writtenCode?]
    cases front : (afterPrefix? "close ".toList (c :: text)).bind fourDigits? with
    | some first =>
      have here : NamedAt (c :: text) [] first := namedAt_front.mpr front
      constructor
      · intro found
        cases found
        exact ⟨[], here, fun earlier _ _ => Nat.zero_le _⟩
      · rintro ⟨before, named, least⟩
        obtain rfl := List.eq_nil_of_length_eq_zero (Nat.le_zero.mp (least _ _ here))
        exact front.symm.trans (namedAt_front.mp named)
    | none =>
      have absent (other : Nat) : ¬NamedAt (c :: text) [] other := by
        rw [namedAt_front, front]
        exact nofun
      refine ih.trans ⟨?_, ?_⟩
      · rintro ⟨before, named, least⟩
        refine ⟨c :: before, namedAt_cons.mpr ⟨rfl, named⟩, fun earlier other also => ?_⟩
        cases earlier with
        | nil => exact absurd also (absent other)
        | cons d earlier => exact Nat.succ_le_succ (least _ _ (namedAt_cons.mp also).2)
      · rintro ⟨before, named, least⟩
        cases before with
        | nil => exact absurd named (absent _)
        | cons d before =>
          refine ⟨before, (namedAt_cons.mp named).2, fun earlier other also => ?_⟩
          exact Nat.le_of_succ_le_succ (least _ _ (namedAt_cons.mpr ⟨rfl, also⟩))

/-! ## The text of a closure -/

theorem digitValue?_digitChar : ∀ n < 10, digitValue? n.digitChar = some n := by decide

theorem fourDigits?_toDigits {n : Nat} (least : 1000 ≤ n) (most : n ≤ 9999) (after : List Char) :
    fourDigits? (Nat.toDigits 10 n ++ after) = some n := by
  have digits : Nat.toDigits 10 n = [(n / 10 / 10 / 10).digitChar, (n / 10 / 10 % 10).digitChar,
      (n / 10 % 10).digitChar, (n % 10).digitChar] := by
    rw [Nat.toDigits_of_base_le (by decide) (by omega),
      Nat.toDigits_of_base_le (by decide) (by omega),
      Nat.toDigits_of_base_le (by decide) (by omega), Nat.toDigits_of_lt_base (by omega)]
    rfl
  rw [digits]
  simp only [List.cons_append, List.nil_append, fourDigits?]
  rw [digitValue?_digitChar _ (by omega), digitValue?_digitChar _ (by omega),
    digitValue?_digitChar _ (by omega), digitValue?_digitChar _ (by omega)]
  simp only [Option.bind_eq_bind, Option.bind_some, Option.pure_def, Option.some.injEq]
  omega

theorem closureText_front (code : Int) (reason : String) :
    ∃ after, (Failure.closureText code reason).toList =
      "close ".toList ++ ((toString code).toList ++ after) := by
  have labelled : (s!"close {code} ({CloseCode.label code})").toList =
      "close ".toList ++
        ((toString code).toList ++ (" (" ++ CloseCode.label code ++ ")").toList) := by
    simp [String.toList_append, toString]
  unfold Failure.closureText
  split
  · exact ⟨_, labelled⟩
  · exact ⟨(" (" ++ CloseCode.label code ++ ")").toList ++ (": " ++ reason).toList, by
      rw [String.append_assoc, String.toList_append, labelled]; simp⟩

/-- The text of a closure names the closure's code before any that its reason may name. -/
theorem writtenCode?_closureText {code : Nat} (least : 1000 ≤ code) (most : code ≤ 9999)
    (reason : String) : writtenCode? (Failure.closureText code reason).toList = some code := by
  obtain ⟨after, text⟩ := closureText_front code reason
  have digits : (toString (code : Int)).toList = Nat.toDigits 10 code := Nat.toList_repr
  rw [digits] at text
  have named : NamedAt (Failure.closureText code reason).toList [] code :=
    ⟨_, text, fourDigits?_toDigits least most after⟩
  exact writtenCode?_eq_some_iff.mpr ⟨[], named, fun earlier _ _ => Nat.zero_le _⟩

/-- What the code and the text of an error come to, whatever else is known of it. -/
def sentenceOf (code : Option Int) (text : String) : String :=
  match code with
  | some 1008 => refusal text.toList
  | some 1006 => connectionLost
  | some 1009 => messageTooLarge
  | some 1011 => serverError
  | _ => if containsFolded "failed to connect".toList text.toList then failedToConnect else text

/-- Only of a connection that could not be opened does the kind of error matter. -/
theorem explain_eq_sentenceOf {cause : Cause}
    (opened : ∀ text status, cause ≠ .session (.connect text status)) :
    explain cause = sentenceOf (code? cause) cause.text := by
  cases cause with
  | other text => rfl
  | session failure =>
    cases failure with
    | connect text status => exact absurd rfl (opened text status)
    | _ => rfl

theorem closeCode?_ofClose (code : Int) (reason : String) :
    (Failure.ofClose code reason).closeCode? = some code := by
  unfold Failure.ofClose
  split
  · rename_i refused
    rw [refused, Failure.closeCode?]
  · rfl

theorem text_ofClose (code : Int) (reason : String) :
    (Failure.ofClose code reason).text = Failure.closureText code reason := by
  unfold Failure.ofClose
  split
  · rename_i refused
    rw [refused, Failure.text]
  · rfl

/-- Every failure with a close code is explained as a plain closure with that code and text. -/
theorem explain_closure {failure : Failure} {code : Int} {reason : String}
    (coded : failure.closeCode? = some code)
    (text : failure.text = Failure.closureText code reason) :
    explain (.session failure) = sentenceOf (some code) (Failure.closureText code reason) := by
  have typed : code? (.session failure) = some code := by rw [code?, coded]
  have opened (text : String) (status : Option Int) :
      Cause.session failure ≠ .session (.connect text status) := by
    rintro same
    cases same
    cases coded
  rw [explain_eq_sentenceOf opened, typed, Cause.text, text]

/-- **A closure is told by its text.** -/
theorem closures_explained_alike {code : Int} (least : 1000 ≤ code) (most : code ≤ 9999)
    (reason : String) :
    code? (.other (Failure.closureText code reason)) = some code ∧
      explain (.session (Failure.ofClose code reason)) =
        explain (.session (.closure code reason)) ∧
      explain (.other (Failure.closureText code reason)) =
        explain (.session (.closure code reason)) := by
  have written : code? (.other (Failure.closureText code reason)) = some code := by
    obtain ⟨n, rfl⟩ := Int.eq_ofNat_of_zero_le (show 0 ≤ code by omega)
    rw [code?, writtenCode?_closureText (by omega) (by omega)]
    rfl
  have plain : explain (.other (Failure.closureText code reason)) =
      sentenceOf (some code) (Failure.closureText code reason) := by
    rw [explain_eq_sentenceOf (by simp), written, Cause.text]
  have typed : explain (.session (.closure code reason)) =
      sentenceOf (some code) (Failure.closureText code reason) := explain_closure rfl rfl
  have specific := explain_closure (closeCode?_ofClose code reason) (text_ofClose code reason)
  exact ⟨written, specific.trans typed.symm, plain.trans typed.symm⟩

/-- A reason that names another code and another failure. -/
theorem closures_explained_alike_hostile :
    (1000 ≤ (1001 : Int) ∧ (1001 : Int) ≤ 9999) ∧
      code? (.other "close 1001 (going away): close 1008: failed to connect") = some 1001 ∧
      explain (.other "close 1001 (going away): close 1008: failed to connect") =
        explain (.session (.closure 1001 "close 1008: failed to connect")) := by
  have alike := closures_explained_alike (show 1000 ≤ (1001 : Int) by decide) (by decide)
    "close 1008: failed to connect"
  have text : Failure.closureText 1001 "close 1008: failed to connect" =
      "close 1001 (going away): close 1008: failed to connect" := by decide
  rw [text] at alike
  exact ⟨by decide, alike.1, alike.2.2⟩

end EdgeSession.Diagnosis
