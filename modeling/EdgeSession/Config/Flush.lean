import EdgeSession.Config.Store
import EdgeSession.Text.Utf8
import Mathlib.Logic.Function.Basic

/-!
The configuration file as several processes write it, each for a store of its own. A flush opens and
empties a temporary file next to the configuration file, writes the text into it piece by piece, and
renames it over the configuration file. All processes use the same name for the temporary file, and
their steps come in any order. Only a step by itself is not interrupted.
-/
namespace EdgeSession.Config

/-- A folder: names stand for files, by number, and a file keeps its number and its bytes whatever
becomes of its name. -/
structure Folder where
  names : String → Option Nat := fun _ => none
  files : Nat → Bytes := fun _ => []
  /-- The number of the next file that is made. -/
  next : Nat := 0

namespace Folder

/-- What is read under a name. -/
def content? (name : String) (f : Folder) : Option Bytes := (f.names name).map f.files

/-- A file's bytes after a piece is written at a position, over what stands there. A gap before the
position is filled with zeros. -/
def overwrite (position : Nat) (piece bytes : Bytes) : Bytes :=
  if piece = [] then bytes
  else bytes.take position ++ List.replicate (position - bytes.length) 0 ++ piece ++
    bytes.drop (position + piece.length)

/-- Makes an empty file under a name, or empties the one that is there; with its number. -/
def empty (name : String) (f : Folder) : Nat × Folder :=
  match f.names name with
  | some file => (file, { f with files := Function.update f.files file [] })
  | none =>
    (f.next,
      { names := Function.update f.names name (some f.next)
        files := Function.update f.files f.next []
        next := f.next + 1 })

def write (file position : Nat) (piece : Bytes) (f : Folder) : Folder :=
  { f with files := Function.update f.files file (overwrite position piece (f.files file)) }

/-- Gives a file the name of another, which loses it; none if there is no such file. -/
def rename? (old new : String) (f : Folder) : Option Folder :=
  (f.names old).map fun file =>
    { f with names := Function.update (Function.update f.names old none) new (some file) }

end Folder

/-- How far a process is with a flush. -/
inductive Flushing
  | resting
  /-- The temporary file is open, and so many bytes of the text are written. -/
  | writing (file : Nat) (text : Bytes) (written : Nat)
  | dead
  deriving DecidableEq, Repr

/-- Processes that flush to one path, by number. -/
structure Flushes where
  folder : Folder
  processes : Nat → Flushing := fun _ => .resting
  /-- The texts of the flushes that were renamed over the configuration file, in order. -/
  placed : List Bytes := []
  /-- The processes that had no temporary file left to rename, and whose flush was refused. -/
  refused : List Nat := []

/-- The name of the temporary file next to a path. -/
def draftOf (path : String) : String := path ++ ".tmp"

namespace Flushes

/-- A step of one process. One that cannot be made changes nothing. -/
inductive Move
  /-- A flush of this text begins. -/
  | begin (process : Nat) (text : String)
  | write (process : Nat) (length : Nat)
  /-- The file is whole, and is renamed. -/
  | place (process : Nat)
  /-- The flush is given up: the disk is full, or the text cannot be written to its end. -/
  | giveUp (process : Nat)
  | die (process : Nat)
  deriving DecidableEq, Repr

def put (process : Nat) (stage : Flushing) (w : Flushes) : Flushes :=
  { w with processes := Function.update w.processes process stage }

def begin (path : String) (process : Nat) (text : String) (w : Flushes) : Flushes :=
  match w.processes process with
  | .resting =>
    let (file, folder) := w.folder.empty (draftOf path)
    { w with folder }.put process (.writing file (Utf8.encode text) 0)
  | _ => w

def write (process length : Nat) (w : Flushes) : Flushes :=
  match w.processes process with
  | .writing file text written =>
    let piece := (text.drop written).take length
    { w with folder := w.folder.write file written piece }.put process
      (.writing file text (written + piece.length))
  | _ => w

def place (path : String) (process : Nat) (w : Flushes) : Flushes :=
  match w.processes process with
  | .writing _ text written =>
    if written < text.length then w
    else
      match w.folder.rename? (draftOf path) path with
      | some folder => { w with folder, placed := w.placed ++ [text] }.put process .resting
      | none => { w with refused := w.refused ++ [process] }.put process .resting
  | _ => w

def giveUp (process : Nat) (w : Flushes) : Flushes :=
  match w.processes process with
  | .writing .. => w.put process .resting
  | _ => w

def step (path : String) (w : Flushes) : Move → Flushes
  | .begin process text => w.begin path process text
  | .write process length => w.write process length
  | .place process => w.place path process
  | .giveUp process => w.giveUp process
  | .die process => w.put process .dead

def run (path : String) (moves : List Move) (w : Flushes) : Flushes := moves.foldl (step path) w

end Flushes
end EdgeSession.Config
