import EdgeSession.Bytes

/-!
The messages of exec and log sessions.
-/
namespace EdgeSession

/-- What a message is for. Log streams use a range of their own. -/
inductive Kind
  | stdin
  | stdout
  | stderr
  | control
  | close
  | activation
  | logLine
  | logStart
  | logStop
  | logError
  deriving DecidableEq, Repr

namespace Kind

def all : List Kind :=
  [stdin, stdout, stderr, control, close, activation, logLine, logStart, logStop, logError]

def code : Kind → Nat
  | stdin => 0
  | stdout => 1
  | stderr => 2
  | control => 3
  | close => 4
  | activation => 5
  | logLine => 6
  | logStart => 7
  | logStop => 8
  | logError => 9

def ofCode? (n : Int) : Option Kind := all.find? fun k => (k.code : Int) == n

@[simp] theorem ofCode?_code (k : Kind) : ofCode? k.code = some k := by
  cases k <;> decide

end Kind

/-- A message under a type number that need not be one of the known kinds. -/
structure Message where
  type : Int
  data : Bytes := []
  target : String := ""
  session : String := ""
  timestamp : Int := 0
  deriving DecidableEq, Repr

namespace Message

/-- A message of a known kind that no session has stamped yet. -/
def ofKind (kind : Kind) (data : Bytes) (now : Int) : Message :=
  { type := kind.code, data := data, timestamp := now }

def kind? (m : Message) : Option Kind := Kind.ofCode? m.type

def is (m : Message) (kind : Kind) : Bool := m.type == kind.code

end Message
end EdgeSession
