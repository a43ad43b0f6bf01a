/-!
Raw mode of the local terminal. The mode that the terminal was in is captured when raw mode is
entered, and put back when it is left. Leaving it never fails.
-/
namespace EdgeSession.Terminal

/-- What the system does when it is asked about a terminal. A text is that of a refusal. -/
structure Device (μ : Type) where
  /-- Whether the platform knows terminal modes at all. -/
  supported : Bool := true
  isTerminal : Bool := true
  mode : Except String μ
  setRaw : Except String Unit := .ok ()

/-- What the system is asked, each time of one descriptor. -/
inductive ModeCall (μ : Type)
  | isTerminal (fd : Int)
  | mode (fd : Int)
  | setRaw (fd : Int)
  /-- Sets a mode once all output is written. -/
  | setMode (fd : Int) (mode : μ)
  deriving DecidableEq, Repr

/-- The terminal's mode as it was captured, while raw mode is on, and what the system was asked. -/
structure RawMode (μ : Type) where
  fd : Int := 0
  saved : Option μ := none
  calls : List (ModeCall μ) := []
  deriving DecidableEq, Repr

namespace RawMode

variable {μ : Type}

def isActive (r : RawMode μ) : Bool := r.saved.isSome

def note (call : ModeCall μ) (r : RawMode μ) : RawMode μ := { r with calls := r.calls ++ [call] }

def unsupportedText : String := "raw terminal mode is not supported on this platform"

def refusedText (cause : String) : String := "failed to set terminal to raw mode: " ++ cause

/-- Captures the mode and switches to raw. What was captured counts only if the switch is made. -/
def enter (device : Device μ) (r : RawMode μ) : Except String Unit × RawMode μ :=
  if !device.supported then (.error unsupportedText, r)
  else
    let r := r.note (.isTerminal r.fd)
    if !device.isTerminal then (.error (refusedText "stdin is not a terminal"), r)
    else
      let r := r.note (.mode r.fd)
      match device.mode with
      | .error text => (.error (refusedText text), r)
      | .ok mode =>
        let r := r.note (.setRaw r.fd)
        match device.setRaw with
        | .error text => (.error (refusedText text), r)
        | .ok _ => (.ok (), { r with saved := some mode })

/-- Puts the captured mode back, if there is one. What the system says to it does not matter. -/
def restore (r : RawMode μ) : RawMode μ :=
  match r.saved with
  | none => r
  | some mode => { r.note (.setMode r.fd mode) with saved := none }

end RawMode
end EdgeSession.Terminal
