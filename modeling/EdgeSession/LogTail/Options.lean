import EdgeSession.LogTail.Timestamp
import EdgeSession.Text.Form
import EdgeSession.Text.Integer

/-!
Options of a log session, sent in the query of its address.
-/
namespace EdgeSession.LogTail

def minTail : Int := 1
def maxTail : Int := 10000
def defaultTail : Int := 100

/-- How many lines of history to send, whether to go on with new ones, and the times between which
lines are wanted; an empty time is no bound. -/
structure Options where
  tail : Int := defaultTail
  follow : Bool := true
  since : String := ""
  upTo : String := ""
  deriving DecidableEq, Repr

inductive OptionsFault
  | tail (n : Int)
  | time (name : String) (fault : TimestampFault)
  deriving DecidableEq, Repr

def OptionsFault.message : OptionsFault → String
  | .tail n => s!"tail must be between {minTail} and {maxTail}, got {n}"
  | .time name fault => s!"invalid {name} format: {fault.message} (expected ISO 8601 format)"

def checkTime (name value : String) : Except OptionsFault Unit :=
  if value = "" then .ok ()
  else match Timestamp.parse value.toList with
    | .ok _ => .ok ()
    | .error fault => .error (.time name fault)

def Options.check (o : Options) : Except OptionsFault Unit :=
  if o.tail < minTail || maxTail < o.tail then .error (.tail o.tail)
  else do
    checkTime "since" o.since
    checkTime "until" o.upTo

/-- The options as names and values, in the order of the names. -/
def Options.pairs (o : Options) : List (String × String) :=
  ("follow", if o.follow then "true" else "false") ::
    ((if o.since = "" then [] else [("since", o.since)]) ++
      (("tail", toString o.tail) :: if o.upTo = "" then [] else [("until", o.upTo)]))

/-- The text of a query, for a tail of any length. -/
def Options.query (o : Options) : String := String.ofList (Form.encodePairs o.pairs)

/-- The query of options. There is none if the tail has more digits than are written; the addresses
of sessions are made of options that were checked. -/
def Options.query? (o : Options) : Option String :=
  if o.tail.natAbs < Nat.pow 10 Text.digitLimit then some o.query else none

end EdgeSession.LogTail
