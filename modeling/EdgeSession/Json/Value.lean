import EdgeSession.Decimal.Shortest
import EdgeSession.Text.Quoted

/-!
JSON values. An object keeps its members in the order in which their names first came.
-/
namespace EdgeSession

inductive Json
  | null
  | bool (b : Bool)
  | int (n : Int)
  /-- A number written with a fraction or an exponent. -/
  | real (x : Binary64)
  | str (s : String)
  | arr (items : List Json)
  | obj (members : List (String × Json))
  deriving Repr, Inhabited

namespace Json

/-- Integers of up to this many digits are read and written. -/
def maxDigits : Nat := 4300

mutual
def beq : Json → Json → Bool
  | null, null => true
  | bool a, bool b => a == b
  | int a, int b => a == b
  | real a, real b => a == b
  | str a, str b => a == b
  | arr a, arr b => beqItems a b
  | obj a, obj b => beqMembers a b
  | _, _ => false

def beqItems : List Json → List Json → Bool
  | [], [] => true
  | a :: as, b :: bs => beq a b && beqItems as bs
  | _, _ => false

def beqMembers : List (String × Json) → List (String × Json) → Bool
  | [], [] => true
  | (k, a) :: as, (l, b) :: bs => k == l && (beq a b && beqMembers as bs)
  | _, _ => false
end

mutual
theorem beq_iff : ∀ a b : Json, beq a b = true ↔ a = b
  | null, b => by cases b <;> simp [beq]
  | bool _, b => by cases b <;> simp [beq]
  | int _, b => by cases b <;> simp [beq]
  | real _, b => by cases b <;> simp [beq]
  | str _, b => by cases b <;> simp [beq]
  | arr a, b => by cases b <;> simp [beq, beqItems_iff a]
  | obj a, b => by cases b <;> simp [beq, beqMembers_iff a]

theorem beqItems_iff : ∀ a b : List Json, beqItems a b = true ↔ a = b
  | [], b => by cases b <;> simp [beqItems]
  | a :: as, b => by cases b <;> simp [beqItems, beq_iff a, beqItems_iff as]

theorem beqMembers_iff : ∀ a b : List (String × Json), beqMembers a b = true ↔ a = b
  | [], b => by cases b <;> simp [beqMembers]
  | (k, a) :: as, b => by
    cases b with
    | nil => simp [beqMembers]
    | cons head bs =>
      obtain ⟨l, b⟩ := head
      simp [beqMembers, beq_iff a, beqMembers_iff as, and_assoc]
end

instance : DecidableEq Json := fun a b => decidable_of_iff _ (beq_iff a b)

/-- The member of that name. -/
def lookup (name : String) (members : List (String × Json)) : Option Json :=
  (members.find? (·.1 == name)).map (·.2)

/-- Members with `name` set: in its old place if it was there, else at the end. -/
def insert (name : String) (value : Json) : List (String × Json) → List (String × Json)
  | [] => [(name, value)]
  | (k, v) :: rest => if k == name then (k, value) :: rest else (k, v) :: insert name value rest

def get? (name : String) : Json → Option Json
  | obj members => lookup name members
  | _ => none

mutual
/-- Whether a test holds of a value and of everything in it. -/
def every (test : Json → Bool) : Json → Bool
  | arr items => test (arr items) && everyItem test items
  | obj members => test (obj members) && everyMember test members
  | v => test v

def everyItem (test : Json → Bool) : List Json → Bool
  | [] => true
  | v :: rest => every test v && everyItem test rest

def everyMember (test : Json → Bool) : List (String × Json) → Bool
  | [] => true
  | (_, v) :: rest => every test v && everyMember test rest
end

/-- What counts as present: not null, false, zero or empty. -/
def isTruthy : Json → Bool
  | null => false
  | bool b => b
  | int n => n != 0
  | real x => !x.isZero
  | str s => s != ""
  | arr items => !items.isEmpty
  | obj members => !members.isEmpty

/-- A number that compares with other numbers; truth values count as 0 and 1. -/
inductive Number
  | whole (n : Int)
  | real (x : Binary64)

def number? : Json → Option Number
  | bool b => some (.whole (if b then 1 else 0))
  | int n => some (.whole n)
  | real x => some (.real x)
  | _ => none

/-- Equality of values, not of spellings. Undefined is equal to nothing. -/
def Number.same : Number → Number → Bool
  | whole a, whole b => a == b
  | real x, real y =>
    if x.isNaN || y.isNaN then false else if x.isZero && y.isZero then true else x == y
  | whole n, real x | real x, whole n =>
    x.isFinite && x.significand * Nat.pow 2 x.scale == n.natAbs * Nat.pow 2 1074 &&
      (n == 0 || x.isNegative == (n < 0))

def isUndefined : Json → Bool
  | real x => x.isNaN
  | _ => false

mutual
/-- Values that are equal to each other: numbers by value, objects whatever the order of their
members. Inside a list or an object undefined is equal to itself. -/
def same : Json → Json → Bool
  | null, null => true
  | str a, str b => a == b
  | arr a, arr b => sameItems a b
  | obj a, obj b => a.length == b.length && sameMembers a b
  | a, b =>
    match a.number?, b.number? with
    | some m, some n => m.same n
    | _, _ => false

def sameItems : List Json → List Json → Bool
  | [], [] => true
  | a :: as, b :: bs => (a.isUndefined && b.isUndefined || same a b) && sameItems as bs
  | _, _ => false

def sameMembers : List (String × Json) → List (String × Json) → Bool
  | [], _ => true
  | (k, a) :: as, bs =>
    (match lookup k bs with
      | some b => a.isUndefined && b.isUndefined || same a b
      | none => false) && sameMembers as bs
end

/-- Values under which the same thing is looked up: equal ones, and undefined is found again. -/
def sameKey (a b : Json) : Bool := a.isUndefined && b.isUndefined || same a b

mutual
/-- A value as messages show it. -/
def display : Json → String
  | null => "None"
  | bool true => "True"
  | bool false => "False"
  | int n => toString n
  | real x => x.render "inf" "nan"
  | str s => Text.quote s
  | arr items => "[" ++ String.intercalate ", " (displayItems items) ++ "]"
  | obj members => "\x7b" ++ String.intercalate ", " (displayMembers members) ++ "\x7d"

def displayItems : List Json → List String
  | [] => []
  | v :: rest => display v :: displayItems rest

def displayMembers : List (String × Json) → List String
  | [] => []
  | (k, v) :: rest => (Text.quote k ++ ": " ++ display v) :: displayMembers rest
end

/-- A value inside a text: strings stand for themselves. -/
def asText : Json → String
  | str s => s
  | v => display v

end Json
end EdgeSession
