import EdgeSession.CommandLine.Word

/-!
What a command takes: options anywhere, and operands in their order. The words of a line are gone
through from left to right, and the first fault met is the one that is reported.
-/
namespace EdgeSession.CommandLine

/-- Why nothing is run: help was asked for, or the line is turned down. -/
inductive Stop
  | help
  | fault (fault : UsageFault)
  deriving DecidableEq, Repr

/-- An option as it was given, under its full name. Two hyphens attached to it are no value. -/
structure Given where
  flag : Flag
  name : String
  value : Option String
  deriving DecidableEq, Repr

/-- An operand and what it does to the values gathered so far. `one` is a single word, or nothing
where that word is a second separator; `rest` is everything from there on, and answers which of it
is not recognized. -/
inductive Operand (ν : Type)
  | one (label : String) (take : Option String → ν → Except Stop ν)
  | rest (label : String) (take : List String → ν → Except Stop (ν × List String))

def Operand.label : Operand ν → String
  | one label _ => label
  | rest label _ => label

structure Grammar (ν : Type) where
  flags : List Flag
  give : Given → ν → Except Stop ν
  operands : List (Operand ν)

namespace Grammar

def isShort (name : String) : Bool := !"--".toList.isPrefixOf name.toList

def attachedValue (value : List Char) : Option String :=
  if value = ['-', '-'] then none else some (String.ofList value)

/-- Takes apart options that are written together: those that are complete, and the last one if it
still wants a value. -/
def unpack (flags : List Flag) (flag : Flag) (name : String) :
    Option (List Char) → Except UsageFault (List Given × Option (Flag × String))
  | none => .ok (if flag.hasValue then ([], some (flag, name)) else ([⟨flag, name, none⟩], none))
  | some value => attached flag name value
where
  attached (flag : Flag) (name : String) :
      List Char → Except UsageFault (List Given × Option (Flag × String))
    | [] =>
      if flag.hasValue then .ok ([⟨flag, name, some ""⟩], none)
      else .error (.unwantedValue flag.label "")
    | c :: more =>
      if flag.hasValue then .ok ([⟨flag, name, attachedValue (c :: more)⟩], none)
      else
        let next := String.ofList ['-', c]
        match if isShort name then Token.find? flags next else none with
        | none => .error (.unwantedValue flag.label (String.ofList (c :: more)))
        | some nextFlag =>
          if more.isEmpty then
            if nextFlag.hasValue then .ok ([⟨flag, name, none⟩], some (nextFlag, next))
            else .ok ([⟨flag, name, none⟩, ⟨nextFlag, next, none⟩], none)
          else do
            let (givens, wanting) ← attached nextFlag next more
            return (⟨flag, name, none⟩ :: givens, wanting)

def giveAll (g : Grammar ν) (givens : List Given) (values : ν) : Except Stop ν :=
  givens.foldlM (fun values given => g.give given values) values

def failing : Except UsageFault α → Except Stop α := Except.mapError .fault

/-- Hands over everything from here on. -/
def takeRest (take : List String → ν → Except Stop (ν × List String)) (values : ν)
    (extra : List String) (tokens : List Token) : Except Stop (ν × List String) := do
  let (values, more) ← take (tokens.map Token.text) values
  return (values, extra ++ more)

/-- Goes through the words; the values gathered, and the words that nothing takes. -/
def walk (g : Grammar ν) (operands : List (Operand ν)) (values : ν) (extra : List String) :
    List Token → Except Stop (ν × List String)
  | [] =>
    if operands.isEmpty then .ok (values, extra)
    else .error (.fault (.missing (operands.map Operand.label)))
  | .unknown s :: tokens => walk g operands values (extra ++ [s]) tokens
  | .option flag name value _ :: .word s :: tokens => do
    let (givens, wanting) ← failing (unpack g.flags flag name value)
    match wanting with
    | none => walk g operands (← g.giveAll givens values) extra (.word s :: tokens)
    | some (wantingFlag, wantingName) =>
      let givens := givens ++ [⟨wantingFlag, wantingName, some s⟩]
      walk g operands (← g.giveAll givens values) extra tokens
  | .option flag name value _ :: tokens => do
    let (givens, wanting) ← failing (unpack g.flags flag name value)
    match wanting with
    | none => walk g operands (← g.giveAll givens values) extra tokens
    | some (wantingFlag, _) => .error (.fault (.valueMissing wantingFlag.label))
  | .word s :: .separator :: tokens =>
    match operands with
    | [] => walk g [] values (extra ++ [s]) (.separator :: tokens)
    | .rest _ take :: _ => takeRest take values extra (.word s :: .separator :: tokens)
    | .one _ take :: operands => do walk g operands (← take (some s) values) extra tokens
  | .word s :: tokens =>
    match operands with
    | [] => walk g [] values (extra ++ [s]) tokens
    | .rest _ take :: _ => takeRest take values extra (.word s :: tokens)
    | .one _ take :: operands => do
      walk g operands (← take (if s = "--" then none else some s) values) extra tokens
  | .separator :: .word s :: tokens =>
    match operands with
    | [] => walk g [] values (extra ++ ["--"]) (.word s :: tokens)
    | .rest _ take :: _ => takeRest take values extra (.separator :: .word s :: tokens)
    | .one _ take :: operands => do walk g operands (← take (some s) values) extra tokens
  | .separator :: tokens => walk g operands values (extra ++ ["--"]) tokens

/-- Reads a line; the values gathered, and the words that nothing takes. -/
def read (g : Grammar ν) (values : ν) (line : List String) : Except Stop (ν × List String) := do
  walk g g.operands values [] (← failing (Token.ofWords g.flags line))

end Grammar
end EdgeSession.CommandLine
