/-!
Who is attached: a record for every live session, and when it was last active. The registry only
keeps the records; its owner decides when to sweep the idle ones.
-/
namespace EdgeSession

/-- Times are in seconds. -/
structure Record where
  session : String
  target : String
  lastActivity : Float
  deriving Repr

/-- Idle sessions end after this time, if nothing else is said. -/
def Record.defaultTimeout : Float := 300.0

def Record.isExpired (r : Record) (timeout now : Float) : Bool :=
  decide (timeout < now - r.lastActivity)

/-- Every record ever made, numbered by its place, and the numbers of those that are registered. A
record out of the registry can still be touched by who holds it. -/
structure Registry where
  records : List Record := []
  live : List Nat := []
  deriving Repr

namespace Registry

def record? (r : Registry) (number : Nat) : Option Record := r.records[number]?

/-- Whether the numbered record has that session id. -/
def names (r : Registry) (session : String) (number : Nat) : Bool :=
  (r.record? number).any (·.session == session)

/-- A record is made. It is not registered yet. -/
def make (record : Record) (r : Registry) : Registry := { r with records := r.records ++ [record] }

/-- Registers a record that was made, in the place of the one with its session id if there is one. -/
def enter (number : Nat) (r : Registry) : Registry :=
  match r.record? number with
  | none => r
  | some record =>
    { r with
      live :=
        if r.live.any (r.names record.session) then
          r.live.map fun n => if r.names record.session n then number else n
        else r.live ++ [number] }

/-- Registers a new record. -/
def add (record : Record) (r : Registry) : Registry := (r.make record).enter r.records.length

def number? (r : Registry) (session : String) : Option Nat := r.live.find? (r.names session)

def get? (r : Registry) (session : String) : Option Record := (r.number? session).bind r.record?

def remove (session : String) (r : Registry) : Registry :=
  { r with live := r.live.filter fun n => !r.names session n }

def touch (number : Nat) (now : Float) (r : Registry) : Registry :=
  { r with records := r.records.modify number fun record => { record with lastActivity := now } }

def isIdle (r : Registry) (timeout now : Float) (number : Nat) : Bool :=
  (r.record? number).any (·.isExpired timeout now)

/-- Drops every session idle for longer than `timeout`; their ids, in the order of the registry. -/
def sweep (timeout now : Float) (r : Registry) : List String × Registry :=
  let idle := r.live.filter (r.isIdle timeout now)
  (idle.filterMap fun n => (r.record? n).map (·.session),
    { r with live := r.live.filter fun n => !r.isIdle timeout now n })

def activeCount (r : Registry) : Nat := r.live.length

end Registry
end EdgeSession
