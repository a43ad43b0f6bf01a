import EdgeSession.Decimal.Shortest
import EdgeSession.Text.Quoted

/-!
MessagePack values.
-/
namespace EdgeSession.Pack

inductive Value
  | nil
  | bool (b : Bool)
  | int (n : Int)
  | real (x : Binary64)
  | str (s : List Char)
  | bin (bytes : Bytes)
  | arr (items : List Value)
  | map (pairs : List (Value × Value))
  | ext (code : Nat) (data : Bytes)
  | timestamp (seconds : Int) (nanoseconds : Nat)
  deriving Repr, Inhabited

namespace Value

mutual
def beq : Value → Value → Bool
  | nil, nil => true
  | bool a, bool b => a == b
  | int a, int b => a == b
  | real a, real b => a == b
  | str a, str b => a == b
  | bin a, bin b => a == b
  | arr a, arr b => beqItems a b
  | map a, map b => beqPairs a b
  | ext c a, ext d b => c == d && a == b
  | timestamp s m, timestamp t n => s == t && m == n
  | _, _ => false

def beqItems : List Value → List Value → Bool
  | [], [] => true
  | a :: as, b :: bs => beq a b && beqItems as bs
  | _, _ => false

def beqPairs : List (Value × Value) → List (Value × Value) → Bool
  | [], [] => true
  | (k, a) :: as, (l, b) :: bs => beq k l && (beq a b && beqPairs as bs)
  | _, _ => false
end

mutual
theorem beq_iff : ∀ a b : Value, beq a b = true ↔ a = b
  | nil, b => by cases b <;> simp [beq]
  | bool _, b => by cases b <;> simp [beq]
  | int _, b => by cases b <;> simp [beq]
  | real _, b => by cases b <;> simp [beq]
  | str _, b => by cases b <;> simp [beq]
  | bin _, b => by cases b <;> simp [beq]
  | arr a, b => by cases b <;> simp [beq, beqItems_iff a]
  | map a, b => by cases b <;> simp [beq, beqPairs_iff a]
  | ext _ _, b => by cases b <;> simp [beq]
  | timestamp _ _, b => by cases b <;> simp [beq]

theorem beqItems_iff : ∀ a b : List Value, beqItems a b = true ↔ a = b
  | [], b => by cases b <;> simp [beqItems]
  | a :: as, b => by cases b <;> simp [beqItems, beq_iff a, beqItems_iff as]

theorem beqPairs_iff : ∀ a b : List (Value × Value), beqPairs a b = true ↔ a = b
  | [], b => by cases b <;> simp [beqPairs]
  | (k, a) :: as, b => by
    cases b with
    | nil => simp [beqPairs]
    | cons head bs =>
      obtain ⟨l, b⟩ := head
      simp [beqPairs, beq_iff k, beq_iff a, beqPairs_iff as, and_assoc]
end

instance : DecidableEq Value := fun a b => decidable_of_iff _ (beq_iff a b)

/-- The name of a value's kind in messages. -/
def kindName : Value → String
  | nil => "NoneType"
  | bool _ => "bool"
  | int _ => "int"
  | real _ => "float"
  | str _ => "str"
  | bin _ => "bytes"
  | arr _ => "list"
  | map _ => "dict"
  | ext _ _ => "ExtType"
  | timestamp _ _ => "Timestamp"

/-- The pairs with `key` set: in its old place if it was there, else at the end. -/
def insert (key value : Value) : List (Value × Value) → List (Value × Value)
  | [] => [(key, value)]
  | (k, v) :: rest => if k = key then (k, value) :: rest else (k, v) :: insert key value rest

def lookup (key : Value) (pairs : List (Value × Value)) : Option Value :=
  (pairs.find? (·.1 == key)).map (·.2)

/-- What counts as present: not nil, false, zero or empty. -/
def isTruthy : Value → Bool
  | nil => false
  | bool b => b
  | int n => n != 0
  | real x => !x.isZero
  | str s => !s.isEmpty
  | bin bytes => !bytes.isEmpty
  | arr items => !items.isEmpty
  | map pairs => !pairs.isEmpty
  | ext _ _ => true
  | timestamp _ _ => true

mutual
/-- A value as messages show it. -/
def display : Value → String
  | nil => "None"
  | bool true => "True"
  | bool false => "False"
  | int n => toString n
  | real x => x.render "inf" "nan"
  | str s => String.ofList (Text.quoteChars s)
  | bin bytes => Text.quoteBytes bytes
  | arr items => "[" ++ String.intercalate ", " (displayItems items) ++ "]"
  | map pairs => "\x7b" ++ String.intercalate ", " (displayPairs pairs) ++ "\x7d"
  | ext code data => s!"ExtType(code={code}, data=" ++ Text.quoteBytes data ++ ")"
  | timestamp seconds nanoseconds =>
    s!"Timestamp(seconds={seconds}, nanoseconds={nanoseconds})"

def displayItems : List Value → List String
  | [] => []
  | v :: rest => display v :: displayItems rest

def displayPairs : List (Value × Value) → List String
  | [] => []
  | (k, v) :: rest => (display k ++ ": " ++ display v) :: displayPairs rest
end

end Value
end EdgeSession.Pack
