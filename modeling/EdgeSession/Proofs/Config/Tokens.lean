import EdgeSession.Config.Store

/-!
The tokens that a store holds for each namespace, in memory and in the document it is written as.
-/
namespace EdgeSession

/-- What stands in a value under some names, one inside the other. -/
def Json.at? (v : Json) : List String → Option Json
  | [] => some v
  | name :: rest => (v.get? name).bind (·.at? rest)

namespace Config.Store

/-- The access and the refresh token of a namespace. -/
def tokens? (s : Store) (name : String) : Option (Json × Json) :=
  (s.find? name).map fun n => (n.user.accessToken, n.user.refreshToken)

/-- The tokens that stand in a document for a namespace. -/
def tokensIn? (document : Json) (name : String) : Option (Json × Json) := do
  return (← document.at? ["namespaces", name, "user", "access_token"],
    ← document.at? ["namespaces", name, "user", "refresh_token"])

theorem lookup_namespaces (name : String) (l : List Namespace) :
    Json.lookup name (l.map fun n => (n.name, n.toJson)) =
      (l.find? (·.name = name)).map Namespace.toJson := by
  unfold Json.lookup
  rw [List.find?_map, Option.map_map]
  rfl

theorem at?_toJson (s : Store) (name : String) (rest : List String) :
    s.toJson.at? ("namespaces" :: name :: rest) =
      (s.find? name).bind fun n => n.toJson.at? rest := by
  have namespaces : s.toJson.get? "namespaces" =
      some (.obj (s.namespaces.map fun n => (n.name, n.toJson))) := rfl
  rw [Json.at?, namespaces, Option.bind_some, Json.at?, Json.get?, lookup_namespaces,
    Option.bind_map]
  rfl

/-- What is written for a namespace's tokens is what the store holds. -/
theorem tokensIn?_toJson (s : Store) (name : String) :
    tokensIn? s.toJson name = s.tokens? name := by
  unfold tokensIn? tokens?
  rw [at?_toJson, at?_toJson]
  cases s.find? name <;> rfl

/-- A name that is not empty is looked up as it is. -/
theorem get_name {name : String} (h : name ≠ "") (s : Store) :
    s.get (.str name) =
      match s.find? name with
      | some n => .ok n
      | none => .error (.unknown (.str name)) := by
  have : s.nameOr (.str name) = .str name := by simp [nameOr, Json.isTruthy, h]
  cases found : s.find? name <;> simp only [get, this, found]

theorem find?_name {s : Store} {name : String} {n : Namespace} (h : s.find? name = some n) :
    n.name = name := by
  simpa using List.find?_some h

theorem find?_modify (s : Store) (name other : String) {f : Namespace → Namespace}
    (kept : ∀ n, (f n).name = n.name) :
    (s.modify name f).find? other =
      (s.find? other).map fun n => if other = name then f n else n := by
  have same : ((fun n : Namespace => decide (n.name = other)) ∘ fun n =>
      if n.name = name then f n else n) = fun n => decide (n.name = other) := by
    funext n
    simp only [Function.comp]
    split
    · rw [kept]
    · rfl
  unfold find? modify
  rw [List.find?_map, same]
  refine Option.map_congr fun n found => ?_
  rw [find?_name (s := s) found]

/-- New tokens go to the namespace that is named, and to no other. -/
theorem tokens?_updateUser {s store : Store} {name : String} {access refresh : Json}
    (h : name ≠ "") (updated : s.updateUser (.str name) access refresh = .ok store)
    (other : String) :
    store.tokens? other = if other = name then some (access, refresh) else s.tokens? other := by
  unfold updateUser update at updated
  rw [get_name h] at updated
  cases found : s.find? name with
  | none => simp [found] at updated
  | some n =>
    simp only [found, Except.ok.injEq] at updated
    subst updated
    unfold tokens?
    rw [find?_name found, find?_modify]
    · split
      · rename_i same
        subst same
        simp [found]
      · simp
    · intro n
      rfl

theorem updateUser_known {s : Store} {name : String} {tokens : Json × Json} (h : name ≠ "")
    (known : s.tokens? name = some tokens) (access refresh : Json) :
    ∃ store, s.updateUser (.str name) access refresh = .ok store := by
  obtain ⟨n, found, -⟩ := Option.map_eq_some_iff.mp known
  unfold updateUser update
  rw [get_name h, found]
  exact ⟨_, rfl⟩

end Config.Store
end EdgeSession
