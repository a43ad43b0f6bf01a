import EdgeSession.Config.Store
import EdgeSession.ControlPlane.Reconcile
import EdgeSession.Proofs.Except

/-!
The shape that a configuration file is documented to have, and what is true of a store that is read
from a file of that shape. Any member may be missing but the name of an agent.
-/
namespace EdgeSession.Config

namespace Shape

def isText : Json → Bool
  | .str _ => true
  | _ => false

def isFlag : Json → Bool
  | .bool _ => true
  | _ => false

def isObjectOf (test : List (String × Json) → Bool) : Json → Bool
  | .obj members => test members
  | _ => false

def isListOf (test : Json → Bool) : Json → Bool
  | .arr items => items.all test
  | _ => false

/-- Whether those of the named members that are there pass a test. -/
def fits (test : Json → Bool) (members : List (String × Json)) (names : List String) : Bool :=
  names.all fun name => (Json.lookup name members).all test

def isUser : Json → Bool :=
  isObjectOf fun m => fits isText m ["email", "password", "access_token", "refresh_token"]

def isAgent : Json → Bool :=
  isObjectOf fun m =>
    (Json.lookup "name" m).any isText && fits isText m ["uuid", "host", "created"] &&
      fits (isObjectOf fun _ => true) m ["ssh"] && fits isFlag m ["local"]

def isNamespace : Json → Bool :=
  isObjectOf fun m =>
    fits isText m ["endpoint"] && fits isUser m ["user"] && fits (isListOf isAgent) m ["agents"] &&
      fits isFlag m ["use_https", "local_control_plane"]

/-- Whether a document is a configuration as it is documented. -/
def isConfiguration : Json → Bool :=
  isObjectOf fun m =>
    fits isText m ["default_namespace"] &&
      fits (isObjectOf fun namespaces => namespaces.all fun n => isNamespace n.2) m ["namespaces"]

theorem text_of_isText {v : Json} (h : isText v = true) : ∃ text, v = .str text := by
  cases v with
  | str text => exact ⟨text, rfl⟩
  | _ => cases h

theorem obj_of_isObjectOf {test : List (String × Json) → Bool} {v : Json}
    (h : isObjectOf test v = true) : ∃ members, v = .obj members ∧ test members = true := by
  cases v with
  | obj members => exact ⟨members, rfl, h⟩
  | _ => cases h

theorem arr_of_isListOf {test : Json → Bool} {v : Json} (h : isListOf test v = true) :
    ∃ items, v = .arr items ∧ ∀ item ∈ items, test item = true := by
  cases v with
  | arr items => exact ⟨items, rfl, List.all_eq_true.mp h⟩
  | _ => cases h

variable {test : Json → Bool} {members : List (String × Json)} {names : List String}

/-- A member that may be missing passes a test that its default passes. -/
theorem memberOr_fits (h : fits test members names = true) {name : String} (mem : name ∈ names)
    (default : Json) (passes : test default = true) :
    test (memberOr members name default) = true := by
  have fit := List.all_eq_true.mp h name mem
  unfold memberOr
  cases found : Json.lookup name members with
  | none => exact passes
  | some v =>
    rw [found] at fit
    exact fit

theorem presentOr_fits (h : fits test members names = true) {name : String} (mem : name ∈ names)
    (default : Json) (passes : test default = true) :
    test (presentOr members name default) = true := by
  have fit := List.all_eq_true.mp h name mem
  unfold presentOr
  cases found : Json.lookup name members with
  | none => exact passes
  | some v =>
    rw [found] at fit
    simp only []
    split
    · exact fit
    · exact passes

/-- A text that counts as absent gives way to the default. -/
theorem presentOr_text {name text : String} (h : fits isText members [name] = true)
    (filled : text ≠ "") :
    ∃ found, presentOr members name (.str text) = .str found ∧ found ≠ "" := by
  have fit := List.all_eq_true.mp h name (List.mem_singleton_self _)
  unfold presentOr
  cases found : Json.lookup name members with
  | none => exact ⟨text, rfl, filled⟩
  | some v =>
    rw [found] at fit
    obtain ⟨held, rfl⟩ := text_of_isText fit
    simp only [Json.isTruthy, bne_iff_ne, ne_eq]
    split
    · rename_i present
      exact ⟨held, rfl, present⟩
    · exact ⟨text, rfl, filled⟩

end Shape

open Shape

/-- An agent that can be found by its name and set up again. -/
structure Agent.Regular (a : Agent) : Prop where
  name : Reconcile.isPlain a.name = true
  ssh : ∃ members, a.ssh = .obj members

/-- A namespace with texts where a client needs them. -/
structure Namespace.Regular (n : Namespace) : Prop where
  endpoint : ∃ text, n.endpoint = .str text
  email : ∃ text, n.user.email = .str text
  password : ∃ text, n.user.password = .str text
  refresh : ∃ text, n.user.refreshToken = .str text
  agents : ∀ a ∈ n.agents, a.Regular

structure Store.Regular (s : Store) : Prop where
  default : ∃ text, s.defaultNamespace = .str text ∧ text ≠ ""
  namespaces : ∀ n ∈ s.namespaces, n.Regular

theorem Agent.ofJson_regular {v : Json} (h : isAgent v = true) :
    ∃ a, Agent.ofJson v = .ok a ∧ a.Regular := by
  obtain ⟨m, rfl, shape⟩ := obj_of_isObjectOf h
  simp only [Bool.and_eq_true] at shape
  obtain ⟨⟨⟨named, -⟩, ssh⟩, -⟩ := shape
  cases name : Json.lookup "name" m with
  | none => simp [name] at named
  | some v =>
    rw [name] at named
    obtain ⟨text, rfl⟩ := text_of_isText named
    obtain ⟨members, object, -⟩ := obj_of_isObjectOf
      (memberOr_fits ssh (List.mem_singleton_self _) (.obj []) rfl)
    unfold Agent.ofJson
    simp only [Config.members, bind, Except.bind, name]
    refine ⟨_, rfl, ?_⟩
    exact ⟨rfl, members, object⟩

theorem agentsOf_regular {v : Json} (h : isListOf isAgent v = true) :
    ∃ agents, agentsOf v = .ok agents ∧ ∀ a ∈ agents, a.Regular := by
  obtain ⟨items, rfl, shape⟩ := arr_of_isListOf h
  exact exists_mapM fun item mem => Agent.ofJson_regular (shape item mem)

theorem Namespace.ofJson_regular (name : String) {v : Json} (h : isNamespace v = true) :
    ∃ n, Namespace.ofJson name v = .ok n ∧ n.Regular := by
  obtain ⟨m, rfl, shape⟩ := obj_of_isObjectOf h
  simp only [Bool.and_eq_true] at shape
  obtain ⟨⟨⟨endpoint, user⟩, agents⟩, -⟩ := shape
  obtain ⟨u, isObject, texts⟩ := obj_of_isObjectOf
    (presentOr_fits user (List.mem_singleton_self _) (.obj []) rfl)
  obtain ⟨list, read, regular⟩ := agentsOf_regular
    (presentOr_fits agents (List.mem_singleton_self _) (.arr []) rfl)
  have text {name : String} (mem : name ∈ ["email", "password", "access_token", "refresh_token"]) :
      ∃ text, memberOr u name (.str "") = .str text :=
    text_of_isText (memberOr_fits texts mem (.str "") rfl)
  unfold Namespace.ofJson
  simp only [members, bind, Except.bind, isObject, read]
  refine ⟨_, rfl, ?_⟩
  exact {
    endpoint := text_of_isText (memberOr_fits endpoint (List.mem_singleton_self _) (.str "") rfl)
    email := text (by simp)
    password := text (by simp)
    refresh := text (by simp)
    agents := regular }

/-- A file of the documented shape is read, and the store can be worked with. -/
theorem Store.load_regular {text : String} {v : Json} (parsed : Json.parse text.toList = .ok v)
    (h : isConfiguration v = true) : ∃ s, Store.load (some text) = .ok s ∧ s.Regular := by
  obtain ⟨m, rfl, shape⟩ := obj_of_isObjectOf h
  simp only [Bool.and_eq_true] at shape
  obtain ⟨default, namespaces⟩ := shape
  obtain ⟨members', isObject, each⟩ := obj_of_isObjectOf
    (presentOr_fits namespaces (List.mem_singleton_self _) (.obj []) rfl)
  obtain ⟨list, read, regular⟩ := exists_mapM (l := members')
    fun n mem => Namespace.ofJson_regular n.1 (List.all_eq_true.mp each n mem)
  unfold Store.load Store.ofJson
  simp only [parsed, members, bind, Except.bind, isObject, read]
  refine ⟨_, rfl, ?_⟩
  exact {
    default := presentOr_text default (by decide)
    namespaces := regular }

end EdgeSession.Config
