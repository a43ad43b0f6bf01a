import EdgeSession.ControlPlane.BaseUrl
import EdgeSession.Proofs.ControlPlane.Url
import EdgeSession.Proofs.Text.Pieces

/-!
Which endpoints have a base address that can be used: taken apart again it has all its parts, and
it is its own base address.
-/
namespace EdgeSession.BaseUrl

open Text

variable {endpoint address : List Char} {https : Bool} {parts again : Url.Parts} {port : Option Nat}

/-! ## Completing the parts of an endpoint -/

/-- The parts of the base address of an endpoint with these parts and this port. -/
def completed (parts : Url.Parts) (port : Option Nat) : Url.Parts where
  scheme := parts.scheme
  authority := match port with
    | some _ => parts.authority
    | none => parts.authority ++ ':' :: (Nat.repr defaultPort).toList
  path :=
    let path := dropSlashes parts.path
    if apiPath.isSuffixOf path then path else path ++ apiPath

/-- What a base address is made of. -/
theorem normalize_eq_ok_iff :
    normalize endpoint https = .ok address ↔ ∃ parts port,
      Url.split (withScheme endpoint https) = .ok parts ∧
        (Url.hostAndPort parts.authority).1 ≠ [] ∧
        Url.port? (Url.hostAndPort parts.authority).2 = .ok port ∧
        address = (completed parts port).joined := by
  unfold normalize ofParts
  constructor
  · intro normalized
    dsimp only at normalized
    split at normalized
    · cases normalized
    · rename_i parts taken
      split at normalized
      · cases normalized
      · rename_i named
        split at normalized
        · cases normalized
        · rename_i port ported
          cases normalized
          refine ⟨parts, port, taken, by simpa using named, ported, ?_⟩
          cases port <;> simp [Url.Parts.joined, completed]
  · rintro ⟨parts, port, taken, named, ported, rfl⟩
    have named' : (Url.hostAndPort parts.authority).1.isEmpty = false := by simpa using named
    simp only [taken, named', ported]
    cases port <;> simp [Url.Parts.joined, completed]

theorem apiPath_suffix_completed (parts : Url.Parts) (port : Option Nat) :
    apiPath <:+ (completed parts port).path := by
  unfold completed
  dsimp only
  split
  · rename_i ends
    exact List.isSuffixOf_iff_suffix.mp ends
  · exact List.suffix_append _ _

theorem getLast?_of_apiPath {s : List Char} (ends : apiPath <:+ s) : s.getLast? = some '3' := by
  obtain ⟨front, rfl⟩ := ends
  rw [List.getLast?_append_of_ne_nil _ (by decide)]
  rfl

theorem dropSlashes_of_apiPath {s : List Char} (ends : apiPath <:+ s) : dropSlashes s = s :=
  dropEndWhile_eq_self fun c last => by
    obtain rfl := Option.some.inj ((getLast?_of_apiPath ends).symm.trans last)
    rfl

theorem completed_path (ends : apiPath <:+ parts.path) (port : Option Nat) :
    (completed parts port).path = parts.path := by
  unfold completed
  dsimp only
  rw [dropSlashes_of_apiPath ends, if_pos (List.isSuffixOf_iff_suffix.mpr ends)]

/-- Another port makes an address longer. -/
theorem joined_completed_ne (ends : apiPath <:+ parts.path) :
    (completed parts none).joined ≠ parts.joined := by
  intro same
  have length := congrArg List.length same
  rw [Url.Parts.joined, Url.Parts.joined, completed_path ends] at length
  simp [completed] at length
  omega

theorem defaultPort_digits : ∀ c ∈ (Nat.repr defaultPort).toList, isAsciiDigit c = true :=
  List.all_eq_true.mp (by decide)

theorem apiPath_plain : ∀ c ∈ apiPath, Url.isKept c = true ∧ c ≠ '?' ∧ c ≠ '#' := by
  have plain : apiPath.all (fun c => Url.isKept c && c != '?' && c != '#') = true := by decide
  intro c mem
  simpa [and_assoc] using List.all_eq_true.mp plain c mem

theorem written_completed (written : parts.Written) (port : Option Nat) :
    (completed parts port).Written := by
  have cut : dropSlashes parts.path <+: parts.path := dropEndWhile_isPrefix _ _
  refine ⟨written.scheme, fun c mem => ?_, fun c mem => ?_, fun c first => ?_⟩
  · cases port with
    | some n => exact written.authority c mem
    | none =>
      obtain mem | mem := List.mem_append.mp mem
      · exact written.authority c mem
      · obtain rfl | mem := List.mem_cons.mp mem
        · decide
        · exact (Url.isAsciiDigit_plain c (defaultPort_digits c mem)).2.2.2.2
  · unfold completed at mem
    dsimp only at mem
    split at mem
    · exact written.path c (cut.mem mem)
    · obtain mem | mem := List.mem_append.mp mem
      · exact written.path c (cut.mem mem)
      · exact apiPath_plain c mem
  · have rooted : ∀ c, (dropSlashes parts.path).head? = some c → c = '/' := by
      intro c first
      obtain ⟨back, whole⟩ := cut
      refine written.rooted c ?_
      rw [← whole, List.head?_append, first, Option.some_or]
    unfold completed at first
    dsimp only at first
    split at first
    · exact rooted c first
    · rw [List.head?_append] at first
      cases kept : (dropSlashes parts.path).head? with
      | some d =>
        rw [kept, Option.some_or] at first
        cases first
        exact rooted c kept
      | none =>
        rw [kept, Option.none_or] at first
        cases first
        rfl

/-- With a path to the interface, an address is taken as it stands. -/
theorem withScheme_joined (written : parts.Written) (ends : apiPath <:+ parts.path) (https : Bool) :
    withScheme parts.joined https = parts.joined := by
  have ends : apiPath <:+ parts.joined := ends.trans (List.suffix_append _ _)
  have trimmed : trim parts.joined = parts.joined := by
    refine trim_eq_self (fun c first => (written.head first).2) fun c last => ?_
    obtain rfl := Option.some.inj ((getLast?_of_apiPath ends).symm.trans last)
    decide
  have schemed : contains "://".toList parts.joined = true := by
    rw [contains_iff]
    exact ⟨parts.scheme, parts.authority ++ parts.path, by simp [Url.Parts.joined]⟩
  simp only [withScheme, trimmed, dropSlashes_of_apiPath ends, schemed, if_true]

/-! ## Using a base address -/

/-- An address that is taken apart into a scheme, a host, this port and a path to the interface,
with nothing behind them. -/
structure Usable (address : List Char) (port : Nat) (parts : Url.Parts) : Prop where
  split : Url.split address = .ok parts
  scheme : parts.scheme ≠ []
  host : (Url.hostAndPort parts.authority).1 ≠ []
  port : Url.port? (Url.hostAndPort parts.authority).2 = .ok (some port)
  path : apiPath <:+ parts.path
  query : '?' ∉ address
  fragment : '#' ∉ address

/-- A scheme was found in an endpoint, and a port, or a host behind which one can be written. -/
def Complete (parts : Url.Parts) (port : Option Nat) : Prop :=
  parts.scheme ≠ [] ∧ (port = none → Url.endsInHost parts.authority = true)

/-- A port is found in a base address only if it can be written behind the host. -/
theorem complete_of_ported {n : Nat} (taken : Url.split address = .ok parts)
    (schemed : parts.scheme ≠ [])
    (ported : Url.port? (Url.hostAndPort parts.authority).2 = .ok port)
    (found : Url.port? (Url.hostAndPort (completed parts port).authority).2 = .ok (some n)) :
    Complete parts port := by
  refine ⟨schemed, ?_⟩
  rintro rfl
  have sound : Url.Sound parts.authority := (Url.split_eq_ok_iff.mp taken).1
  rw [← Bool.not_eq_false]
  intro open_
  exact Url.port?_append defaultPort_digits open_ sound.brackets (Url.port?_eq_none ported) n found

section
variable (taken : Url.split address = .ok parts)
  (named : (Url.hostAndPort parts.authority).1 ≠ [])
  (ported : Url.port? (Url.hostAndPort parts.authority).2 = .ok port)
include taken named

theorem written_of_named : parts.Written := by
  refine Url.split_written taken fun empty => named ?_
  rw [empty]
  rfl

include ported

theorem usable_completed (complete : Complete parts port) :
    Usable (completed parts port).joined (port.getD defaultPort) (completed parts port) := by
  have written := written_completed (written_of_named taken named) port
  have schemed : Url.IsScheme (completed parts port).scheme :=
    written.scheme.resolve_left complete.1
  have plain := fun c mem => (written.kept (c := c) mem).2
  have authority : Url.Sound (completed parts port).authority ∧
      (Url.hostAndPort (completed parts port).authority).1 = (Url.hostAndPort parts.authority).1 ∧
      Url.port? (Url.hostAndPort (completed parts port).authority).2 =
        .ok (some (port.getD defaultPort)) := by
    have sound : Url.Sound parts.authority := (Url.split_eq_ok_iff.mp taken).1
    cases port with
    | some n => exact ⟨sound, rfl, ported⟩
    | none =>
      have ends := complete.2 rfl
      have appended := (Url.endsInHost_append defaultPort_digits ends sound.brackets).1
      dsimp only [completed]
      rw [appended]
      exact ⟨sound.append_port defaultPort_digits ends, rfl, rfl⟩
  exact {
    split := (Url.split_joined written schemed).mpr ⟨authority.1, rfl⟩
    scheme := complete.1
    host := by rwa [authority.2.1]
    port := authority.2.2
    path := apiPath_suffix_completed parts port
    query := fun mem => (plain _ mem).1 rfl
    fragment := fun mem => (plain _ mem).2 rfl }

theorem usable_completed_iff :
    (∃ again, Usable (completed parts port).joined (port.getD defaultPort) again) ↔
      Complete parts port := by
  have written := written_completed (written_of_named taken named) port
  constructor
  · rintro ⟨again, usable⟩
    have schemed : parts.scheme ≠ [] := fun unnamed =>
      usable.scheme (Url.split_unnamed written unnamed usable.split).1
    obtain ⟨-, rfl⟩ :=
      (Url.split_joined written (written.scheme.resolve_left schemed)).mp usable.split
    exact complete_of_ported taken schemed ported usable.port
  · intro complete
    exact ⟨_, usable_completed taken named ported complete⟩

theorem normalize_completed_iff (https : Bool) :
    normalize (completed parts port).joined https = .ok (completed parts port).joined ↔
      Complete parts port := by
  have written := written_completed (written_of_named taken named) port
  have ends := apiPath_suffix_completed parts port
  rw [normalize_eq_ok_iff, withScheme_joined written ends]
  constructor
  · rintro ⟨again, port', taken', named', ported', same⟩
    have schemed : parts.scheme ≠ [] := fun unnamed => by
      have bare := (Url.split_unnamed written unnamed taken').2
      rw [bare] at named'
      exact named' rfl
    obtain ⟨-, rfl⟩ :=
      (Url.split_joined written (written.scheme.resolve_left schemed)).mp taken'
    cases port' with
    | some n => exact complete_of_ported taken schemed ported ported'
    | none =>
      exact absurd same.symm (joined_completed_ne ends)
  · intro complete
    have usable := usable_completed taken named ported complete
    refine ⟨_, _, usable.split, usable.host, usable.port, ?_⟩
    rw [show completed (completed parts port) (some (port.getD defaultPort)) = completed parts port
      from Url.Parts.ext rfl rfl (completed_path ends _)]

end

/-- **A base address is usable, and its own base address, if it is complete**: a scheme is found in
the endpoint, and if no port is, one can be written behind the host. -/
theorem base_usable_iff (normalized : normalize endpoint https = .ok address) :
    ∃ parts port, Url.split (withScheme endpoint https) = .ok parts ∧
      Url.port? (Url.hostAndPort parts.authority).2 = .ok port ∧
      ((∃ again, Usable address (port.getD defaultPort) again) ↔ Complete parts port) ∧
      ∀ https, normalize address https = .ok address ↔ Complete parts port := by
  obtain ⟨parts, port, taken, named, ported, rfl⟩ := normalize_eq_ok_iff.mp normalized
  exact ⟨parts, port, taken, ported, usable_completed_iff taken named ported,
    normalize_completed_iff taken named ported⟩

theorem base_usable_iff_zone :
    normalize "u:p@[fe80::1%0]?q#f".toList false =
        .ok "http://u:p@[fe80::1%0]:51121/api/v3".toList ∧
      ∃ again, Usable "http://u:p@[fe80::1%0]:51121/api/v3".toList 51121 again := by
  have normalized : normalize "u:p@[fe80::1%0]?q#f".toList false =
      .ok "http://u:p@[fe80::1%0]:51121/api/v3".toList := by decide
  refine ⟨normalized, ?_⟩
  obtain ⟨parts, port, taken, ported, usable, -⟩ := base_usable_iff normalized
  have found : Url.split (withScheme "u:p@[fe80::1%0]?q#f".toList false) =
      .ok ⟨"http".toList, "u:p@[fe80::1%0]".toList, []⟩ := by decide
  cases found.symm.trans taken
  have unported : Url.port? (Url.hostAndPort "u:p@[fe80::1%0]".toList).2 = .ok none := by decide
  cases unported.symm.trans ported
  exact usable.mpr ⟨by decide, fun _ => by decide⟩

/-- Behind a colon without a port, the port is written after a second colon. -/
theorem base_unusable :
    ¬∀ endpoint https address, normalize endpoint https = .ok address →
      (∃ port again, Usable address port again) ∧
        ∀ https, normalize address https = .ok address := by
  intro claimed
  have normalized : normalize "c:".toList false = .ok "http://c::51121/api/v3".toList := by decide
  obtain ⟨⟨port, again, usable⟩, -⟩ := claimed _ _ _ normalized
  have taken : Url.split "http://c::51121/api/v3".toList =
      .ok ⟨"http".toList, "c::51121".toList, "/api/v3".toList⟩ := by decide
  cases taken.symm.trans usable.split
  have unported : Url.port? (Url.hostAndPort "c::51121".toList).2 =
      .error (.portText ":51121".toList) := by decide
  cases unported.symm.trans usable.port

end EdgeSession.BaseUrl
