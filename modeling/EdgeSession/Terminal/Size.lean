/-!
Changes of the terminal's size. The system signals them to one handler of the process, so a watcher
puts its own in the place of the one that is there, and puts that one back when it stops.
-/
namespace EdgeSession.Terminal

/-- What the process does on the signal. -/
inductive SizeHandler
  /-- What the system does by itself. -/
  | default
  /-- A handler that cannot be put back. -/
  | unknown
  | other (name : String)
  | watcher
  deriving DecidableEq, Repr

/-- The handler to go back to. -/
def SizeHandler.orDefault : SizeHandler → SizeHandler
  | .unknown => .default
  | handler => handler

/-- The handler in force, and the watcher's own state: the handler that it took the place of. A
platform without the signal has a watcher that does nothing. -/
structure SizeWatch where
  supported : Bool := true
  handler : SizeHandler
  previous : SizeHandler := .unknown
  installed : Bool := false
  /-- The sizes reported, in columns and rows. -/
  reported : List (Int × Int) := []
  deriving DecidableEq, Repr

namespace SizeWatch

/-- Begins to watch. Handlers are set on the main thread only: elsewhere nothing is done. The system
may refuse with an error text. -/
def start (onMain : Bool) (refusal : Option String) (w : SizeWatch) :
    Except String Unit × SizeWatch :=
  if !w.supported || !onMain then (.ok (), w)
  else match refusal with
    | some text => (.error text, w)
    | none => (.ok (), { w with handler := .watcher, previous := w.handler, installed := true })

/-- Ends watching. A handler that cannot be set stays away. -/
def stop (refusal : Option String) (w : SizeWatch) : SizeWatch :=
  if !w.installed then w
  else
    { w with
      installed := false
      handler := if refusal.isSome then w.handler else w.previous.orDefault }

/-- The signal comes while the terminal has a size. -/
def signal (columns rows : Int) (w : SizeWatch) : SizeWatch :=
  if w.handler = .watcher then { w with reported := w.reported ++ [(columns, rows)] } else w

end SizeWatch
end EdgeSession.Terminal
