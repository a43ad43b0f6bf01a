import EdgeSession.Config.Namespace
import EdgeSession.Proofs.Json.Ascii
import EdgeSession.Proofs.Text.Base64
import EdgeSession.Proofs.Utf8

/-!
Passwords come back from the store as they went in. Whatever else is stored in their place is read
leniently, and so not every password in the clear comes back as it stands.
-/
namespace EdgeSession.Config

open Json (IsAscii)

variable {stored password other : String}

theorem all_ascii_iff (text : List Char) :
    (text.all fun c => c.toNat < 0x80) = true ↔ IsAscii text := by
  simp [IsAscii]

/-- A stored text is taken for the Base64 of a password. -/
def TakenFor (stored password : String) : Prop :=
  Base64.StandsFor [] stored.toList (Utf8.encode password)

theorem decoded_iff :
    (Base64.decode? stored.toList).map Utf8.decode? = some (.ok password.toList) ↔
      TakenFor stored password := by
  rw [Option.map_eq_some_iff, TakenFor, ← Base64.decode?_eq_some_iff, Utf8.encode]
  constructor
  · rintro ⟨bytes, read, decoded⟩
    rw [read, Utf8.decode?_eq_ok_iff.mp decoded]
  · intro read
    exact ⟨_, read, Utf8.decode?_eq_ok_iff.mpr rfl⟩

theorem TakenFor.unique (taken : TakenFor stored password) (again : TakenFor stored other) :
    password = other := by
  rw [← decoded_iff] at taken again
  have same := Except.ok.inj (Option.some.inj (taken.symm.trans again))
  exact String.toList_inj.mp same

theorem takenFor_encodePassword (password : String) :
    TakenFor (encodePassword password) password := by
  rw [TakenFor, encodePassword, String.toList_ofList]
  exact Base64.standsFor_encode _

theorem encodePassword_ascii (password : String) : IsAscii (encodePassword password).toList := by
  intro c mem
  rw [encodePassword, String.toList_ofList] at mem
  exact Base64.encode_ascii _ c mem

/-! ## Reading -/

theorem rawPassword?_taken (ascii : IsAscii stored.toList) (taken : TakenFor stored password) :
    rawPassword? stored = some password := by
  rw [rawPassword?, if_pos ((all_ascii_iff _).mpr ascii), decoded_iff.mpr taken]
  simp

theorem rawPassword?_untaken (ascii : IsAscii stored.toList)
    (clear : ∀ other, ¬TakenFor stored other) : rawPassword? stored = some stored := by
  rw [rawPassword?, if_pos ((all_ascii_iff _).mpr ascii)]
  split
  · rename_i chars decoded
    refine absurd ?_ (clear (String.ofList chars))
    rw [← decoded_iff, String.toList_ofList, decoded]
  · rfl

theorem rawPassword?_eq_none_iff : rawPassword? stored = none ↔ ¬IsAscii stored.toList := by
  by_cases ascii : IsAscii stored.toList
  · by_cases taken : ∃ password, TakenFor stored password
    · obtain ⟨password, taken⟩ := taken
      simp [rawPassword?_taken ascii taken, ascii]
    · simp [rawPassword?_untaken ascii (not_exists.mp taken), ascii]
  · rw [rawPassword?, if_neg (mt (all_ascii_iff _).mp ascii)]
    simp [ascii]

theorem rawPassword?_eq_some_iff :
    rawPassword? stored = some password ↔ IsAscii stored.toList ∧
      (TakenFor stored password ∨ (∀ other, ¬TakenFor stored other) ∧ password = stored) := by
  constructor
  · intro read
    have ascii : IsAscii stored.toList := by
      by_contra foreign
      rw [rawPassword?_eq_none_iff.mpr foreign] at read
      cases read
    refine ⟨ascii, ?_⟩
    by_cases taken : ∃ other, TakenFor stored other
    · obtain ⟨other, taken⟩ := taken
      obtain rfl := Option.some.inj ((rawPassword?_taken ascii taken).symm.trans read)
      exact .inl taken
    · have clear := not_exists.mp taken
      have same := (rawPassword?_untaken ascii clear).symm.trans read
      exact .inr ⟨clear, (Option.some.inj same).symm⟩
  · rintro ⟨ascii, taken | ⟨clear, rfl⟩⟩
    · exact rawPassword?_taken ascii taken
    · exact rawPassword?_untaken ascii clear

theorem rawPassword_str (c : Credentials) (stored : String) :
    ({ c with password := .str stored } : Credentials).rawPassword =
      match rawPassword? stored with
      | some password => .ok password
      | none => .error .notAscii := rfl

/-- **A password comes back as it was stored.** -/
theorem passwords_kept (email password : String) :
    (Credentials.withPassword email password).rawPassword = .ok password := by
  have read := rawPassword?_taken (encodePassword_ascii password) (takenFor_encodePassword password)
  simp only [Credentials.rawPassword, Credentials.withPassword, read]

/-! ## Passwords in the clear -/

/-- What a stored text is meant for: the password that it is the Base64 of, or else itself. -/
def MeantFor (stored password : String) : Prop :=
  stored = encodePassword password ∨ (∀ other, stored ≠ encodePassword other) ∧ password = stored

/-- No text is taken for itself but the empty one: what it is taken for is shorter. -/
theorem eq_empty_of_takenFor_self (taken : TakenFor stored stored) : stored = "" := by
  have bytes : stored.toList.length ≤ (Utf8.encode stored).length :=
    Utf8.length_le_encodeChars stored.toList
  have shorter := Base64.StandsFor.length taken
  rw [List.length_nil, Nat.zero_add] at shorter
  have empty : stored.toList = [] := List.eq_nil_of_length_eq_zero (by omega)
  exact String.toList_inj.mp empty

theorem meantFor_iff :
    (∃ password, rawPassword? stored = some password ∧ MeantFor stored password) ↔
      IsAscii stored.toList ∧
        ∀ password, TakenFor stored password → stored = encodePassword password := by
  constructor
  · rintro ⟨password, read, meant⟩
    obtain ⟨ascii, read⟩ := rawPassword?_eq_some_iff.mp read
    refine ⟨ascii, fun other taken => ?_⟩
    obtain read | ⟨clear, -⟩ := read
    · obtain rfl := taken.unique read
      obtain encoded | ⟨foreign, rfl⟩ := meant
      · exact encoded
      · -- A text that was read as itself is empty, and the empty text is the Base64 of itself.
        exact absurd (eq_empty_of_takenFor_self read) (foreign "")
    · exact absurd taken (clear other)
  · rintro ⟨ascii, encoded⟩
    by_cases taken : ∃ password, TakenFor stored password
    · obtain ⟨password, taken⟩ := taken
      exact ⟨password, rawPassword?_taken ascii taken, .inl (encoded password taken)⟩
    · have clear := not_exists.mp taken
      refine ⟨stored, rawPassword?_untaken ascii clear, .inr ⟨?_, rfl⟩⟩
      rintro other rfl
      exact clear other (takenFor_encodePassword other)

section
variable (c : Credentials) (stored : String)

theorem rawPassword_ok_iff :
    ({ c with password := .str stored } : Credentials).rawPassword = .ok password ↔
      rawPassword? stored = some password := by
  rw [rawPassword_str]
  cases rawPassword? stored <;> simp

theorem rawPassword_error_iff :
    ({ c with password := .str stored } : Credentials).rawPassword = .error .notAscii ↔
      rawPassword? stored = none := by
  rw [rawPassword_str]
  cases rawPassword? stored <;> simp

end

/-- **What a stored text is read as**: nothing if it is not ASCII, and else the password that lenient
reading takes it for, or, if there is none, the text itself. That is what it is meant for exactly if
it is ASCII and not taken for a password that it is not the Base64 of. -/
theorem stored_passwords_read (c : Credentials) (stored : String) :
    let read := ({ c with password := .str stored } : Credentials).rawPassword
    (read = .error .notAscii ↔ ¬IsAscii stored.toList) ∧
      (∀ password, read = .ok password ↔ IsAscii stored.toList ∧
        (TakenFor stored password ∨ (∀ other, ¬TakenFor stored other) ∧ password = stored)) ∧
      ((∃ password, read = .ok password ∧ MeantFor stored password) ↔
        IsAscii stored.toList ∧
          ∀ password, TakenFor stored password → stored = encodePassword password) := by
  simp only [rawPassword_ok_iff, rawPassword_error_iff]
  exact ⟨rawPassword?_eq_none_iff, fun password => rawPassword?_eq_some_iff, meantFor_iff⟩

/-- Behind padding that completes a group nothing is looked at. -/
example : rawPassword? "YQ==s3cret" = some "a" := by cbv

/-- A password in the clear cannot be read once it leaves ASCII. -/
theorem clear_password_refused :
    ¬∀ (c : Credentials) (stored : String), ∃ password,
      ({ c with password := .str stored } : Credentials).rawPassword = .ok password ∧
        MeantFor stored password := by
  intro claimed
  obtain ⟨password, read, -⟩ := claimed {} "pässword"
  have refused : rawPassword? "pässword" = none := by decide
  rw [rawPassword_ok_iff, refused] at read
  cases read

end EdgeSession.Config
