import EdgeSession.ControlPlane.Client
import EdgeSession.Proofs.Attach.Dials
import EdgeSession.Proofs.ControlPlane.BaseUrl
import EdgeSession.Session.Address

/-!
The websockets of sessions are asked for at the base address, where the interface of the control
plane is, and as securely.
-/
namespace EdgeSession

variable {endpoint scheme rest base : List Char} {https secure : Bool} {parts : Url.Parts}
  {c : Char}

namespace Url

open Text

/-! ## Schemes of the web -/

def IsWeb (scheme : List Char) : Prop :=
  scheme.map Char.toLower = "http".toList ∨ scheme.map Char.toLower = "https".toList

theorem isSchemeStart_of_toLower (lower : isSchemeStart c.toLower = true) :
    isSchemeStart c = true := by
  unfold Char.toLower at lower
  split at lower
  · rename_i upper
    simp only [isSchemeStart, Bool.or_eq_true, Bool.and_eq_true, decide_eq_true_eq]
    exact .inl upper
  · exact lower

theorem IsWeb.letters (web : IsWeb scheme) : ∀ c ∈ scheme, isSchemeStart c = true := by
  intro c mem
  have lower : c.toLower ∈ scheme.map Char.toLower := List.mem_map_of_mem mem
  have letters : (scheme.map Char.toLower).all isSchemeStart = true := by
    obtain same | same := web <;> rw [same] <;> decide
  exact isSchemeStart_of_toLower (List.all_eq_true.mp letters _ lower)

theorem IsWeb.ne_nil (web : IsWeb scheme) : scheme ≠ [] := by
  rintro rfl
  obtain same | same := web <;> cases same

theorem IsWeb.isSchemeChar (web : IsWeb scheme) (mem : c ∈ scheme) : isSchemeChar c = true := by
  simp [Url.isSchemeChar, web.letters c mem]

/-- A scheme of the web is found where it stands first, in lower case. -/
theorem IsWeb.splitScheme_clean (web : IsWeb scheme) (rest : List Char) :
    splitScheme (clean (scheme ++ ':' :: rest)) =
      (scheme.map Char.toLower, rest.filter isKept) := by
  have plain : ∀ c ∈ scheme, 0x20 < c.toNat ∧ c ≠ ':' ∧ isKept c = true := fun c mem => by
    have plain := isSchemeChar_plain c (web.isSchemeChar mem)
    exact ⟨plain.1, plain.2.1, by simp [isKept, plain]⟩
  have named : (scheme.head?.any isSchemeStart && scheme.all Url.isSchemeChar) = true := by
    rw [Bool.and_eq_true, List.all_eq_true]
    refine ⟨?_, fun c => web.isSchemeChar⟩
    cases scheme with
    | nil => exact absurd rfl web.ne_nil
    | cons c scheme => exact web.letters c List.mem_cons_self
  have kept : clean (scheme ++ ':' :: rest) = scheme ++ ':' :: rest.filter isKept := by
    have front : (scheme ++ ':' :: rest).dropWhile (fun c => c.toNat ≤ 0x20) =
        scheme ++ ':' :: rest := by
      cases scheme with
      | nil => exact absurd rfl web.ne_nil
      | cons c scheme =>
        exact List.dropWhile_cons_of_neg (by simp [(plain c List.mem_cons_self).1])
    rw [clean, front, List.filter_append, List.filter_eq_self.mpr fun c mem => (plain c mem).2.2]
    rfl
  rw [kept, splitScheme, cut_append fun mem => (plain ':' mem).2.1 rfl]
  simp only [named, if_true]

theorem IsWeb.split (web : IsWeb scheme)
    (taken : Url.split (scheme ++ "://".toList ++ rest) = .ok parts) :
    parts.scheme = scheme.map Char.toLower := by
  obtain ⟨-, behind, tail, schemed, -, -⟩ := split_eq_ok_iff.mp taken
  have found := web.splitScheme_clean ('/' :: '/' :: rest)
  rw [List.append_assoc, show "://".toList ++ rest = ':' :: '/' :: '/' :: rest from rfl, found]
    at schemed
  exact (Prod.mk.inj schemed).1.symm

end Url

namespace BaseUrl

open Text

/-! ## Base addresses of the web -/

end BaseUrl

namespace Address

open BaseUrl ControlPlane

/-! ## Where sessions are led -/

/-- What a session's websocket is asked for. -/
inductive Place
  | exec
  | agentLogs (options : Option LogTail.Options)
  | microserviceLogs (options : Option LogTail.Options) (system : Bool)

def Place.address (base id : String) : Place → String
  | exec => Address.exec base id
  | agentLogs options => Address.agentLogs base id options
  | microserviceLogs options system => Address.microserviceLogs base id options system

def queryOf : Option LogTail.Options → String
  | none => ""
  | some options => "?" ++ options.query

/-- The resource of a place and the query it is asked for with. -/
def Place.resource (id : String) : Place → String
  | exec => "/microservices/exec/" ++ id
  | agentLogs options => "/iofog/" ++ id ++ "/logs" ++ queryOf options
  | microserviceLogs options system =>
    (if system then "/microservices/system/" else "/microservices/") ++ id ++ "/logs" ++
      queryOf options

/-- A scheme that is not of the web stays, behind the websocket's. -/
example : websocketChars "ftp://h/api/v3".toList = "ws://ftp://h/api/v3".toList := by decide

end Address
end EdgeSession
