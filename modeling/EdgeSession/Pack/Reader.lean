import EdgeSession.Pack.Value
import EdgeSession.Text.Utf8

/-!
Reading MessagePack. Every width of every kind is read, whether or not a shorter one would do.
A text is bounded by its own length: an array may not announce more items, nor a map more pairs,
than the bytes of the whole text could hold, and containers nest at most `maxNesting` deep.
-/
namespace EdgeSession.Pack

/-- The deepest nesting of containers that is read. -/
def maxNesting : Nat := 1024

inductive Fault
  | truncated
  | trailing
  /-- The byte that starts no value. -/
  | unknownByte
  | tooDeep
  | tooManyItems (count limit : Nat)
  | tooManyPairs (count limit : Nat)
  /-- A map key that is neither a string nor binary. -/
  | badKey (kind : String)
  | badText (fault : Utf8.Fault)
  /-- An application type with a negative code. -/
  | badCode
  | badTimestamp
  | badNanoseconds
  deriving DecidableEq, Repr

/-- How many items an array and how many pairs a map may announce. -/
structure Limits where
  items : Nat
  pairs : Nat
  deriving DecidableEq, Repr

/-- The limits of a text of `length` bytes: an item takes at least one, a pair two. -/
def Limits.ofLength (length : Nat) : Limits := ⟨length, length / 2⟩

/-- What the first bytes of a value announce. -/
inductive Header
  | nil
  | bool (b : Bool)
  | int (n : Int)
  | single (bits : Bytes)
  | double (bits : Bytes)
  | str (length : Nat)
  | bin (length : Nat)
  | arr (count : Nat)
  | map (count : Nat)
  | ext (code : UInt8) (length : Nat)
  deriving DecidableEq, Repr

/-- A field of `width` bytes, handed on with what follows it. -/
def readField (width : Nat) (rest : Bytes) (k : Bytes → Header) : Except Fault (Header × Bytes) :=
  match Bytes.split? width rest with
  | none => .error .truncated
  | some (field, after) => .ok (k field, after)

/-- The header of an application value: a length of `width` bytes, then its code. -/
def readExtHeader (width : Nat) (rest : Bytes) : Except Fault (Header × Bytes) :=
  match Bytes.split? width rest with
  | some (field, code :: after) => .ok (.ext code (Bytes.toNat field), after)
  | _ => .error .truncated

def readFixedExt (length : Nat) (rest : Bytes) : Except Fault (Header × Bytes) :=
  match rest with
  | [] => .error .truncated
  | code :: after => .ok (.ext code length, after)

/-- Reads the header that `lead` starts. -/
def readHeader (lead : UInt8) (rest : Bytes) : Except Fault (Header × Bytes) :=
  let n := lead.toNat
  if n < 0x80 then .ok (.int n, rest)
  else if n < 0x90 then .ok (.map (n - 0x80), rest)
  else if n < 0xA0 then .ok (.arr (n - 0x90), rest)
  else if n < 0xC0 then .ok (.str (n - 0xA0), rest)
  else if 0xE0 ≤ n then .ok (.int ((n : Int) - 256), rest)
  else match n with
    | 0xC0 => .ok (.nil, rest)
    | 0xC2 => .ok (.bool false, rest)
    | 0xC3 => .ok (.bool true, rest)
    | 0xC4 => readField 1 rest fun f => .bin (Bytes.toNat f)
    | 0xC5 => readField 2 rest fun f => .bin (Bytes.toNat f)
    | 0xC6 => readField 4 rest fun f => .bin (Bytes.toNat f)
    | 0xC7 => readExtHeader 1 rest
    | 0xC8 => readExtHeader 2 rest
    | 0xC9 => readExtHeader 4 rest
    | 0xCA => readField 4 rest .single
    | 0xCB => readField 8 rest .double
    | 0xCC => readField 1 rest fun f => .int (Bytes.toNat f)
    | 0xCD => readField 2 rest fun f => .int (Bytes.toNat f)
    | 0xCE => readField 4 rest fun f => .int (Bytes.toNat f)
    | 0xCF => readField 8 rest fun f => .int (Bytes.toNat f)
    | 0xD0 => readField 1 rest fun f => .int (Bytes.toInt f)
    | 0xD1 => readField 2 rest fun f => .int (Bytes.toInt f)
    | 0xD2 => readField 4 rest fun f => .int (Bytes.toInt f)
    | 0xD3 => readField 8 rest fun f => .int (Bytes.toInt f)
    | 0xD4 => readFixedExt 1 rest
    | 0xD5 => readFixedExt 2 rest
    | 0xD6 => readFixedExt 4 rest
    | 0xD7 => readFixedExt 8 rest
    | 0xD8 => readFixedExt 16 rest
    | 0xD9 => readField 1 rest fun f => .str (Bytes.toNat f)
    | 0xDA => readField 2 rest fun f => .str (Bytes.toNat f)
    | 0xDB => readField 4 rest fun f => .str (Bytes.toNat f)
    | 0xDC => readField 2 rest fun f => .arr (Bytes.toNat f)
    | 0xDD => readField 4 rest fun f => .arr (Bytes.toNat f)
    | 0xDE => readField 2 rest fun f => .map (Bytes.toNat f)
    | 0xDF => readField 4 rest fun f => .map (Bytes.toNat f)
    | _ => .error .unknownByte

/-- A time stamp in one of its three widths: seconds alone; nanoseconds in the upper 30 bits and
seconds in the lower 34; nanoseconds and then signed seconds. -/
def timestamp? (data : Bytes) : Except Fault Value :=
  let made (seconds : Int) (nanoseconds : Nat) : Except Fault Value :=
    if nanoseconds < 1000000000 then .ok (.timestamp seconds nanoseconds)
    else .error .badNanoseconds
  match data.length with
  | 4 => made (Bytes.toNat data) 0
  | 8 => made (Bytes.toNat data % 0x400000000 : Nat) (Bytes.toNat data / 0x400000000)
  | 12 => made (Bytes.toInt (data.drop 4)) (Bytes.toNat (data.take 4))
  | _ => .error .badTimestamp

/-- An application value; the code 255 marks a time stamp. -/
def ext? (code : UInt8) (data : Bytes) : Except Fault Value :=
  if code = 255 then timestamp? data
  else if code < 128 then .ok (.ext code.toNat data)
  else .error .badCode

/-- Reads `count` things one after another; `acc` holds those read before, last first. -/
def readMany (read : Bytes → Except Fault (α × Bytes)) :
    (count : Nat) → (acc : List α) → Bytes → Except Fault (List α × Bytes)
  | 0, acc, bytes => .ok (acc.reverse, bytes)
  | count + 1, acc, bytes =>
    match read bytes with
    | .error e => .error e
    | .ok (x, after) => readMany read count (x :: acc) after

/-- A key and its value. The key is judged once both have been read. -/
def readPair (read : Bytes → Except Fault (Value × Bytes)) (bytes : Bytes) :
    Except Fault ((Value × Value) × Bytes) :=
  match read bytes with
  | .error e => .error e
  | .ok (key, after) =>
    match read after with
    | .error e => .error e
    | .ok (value, rest) =>
      match key with
      | .str _ | .bin _ => .ok ((key, value), rest)
      | _ => .error (.badKey key.kindName)

/-- A map of the pairs read; of two with one key the later counts. -/
def mapOf (pairs : List (Value × Value)) : Value :=
  .map (pairs.foldl (fun acc (k, v) => Value.insert k v acc) [])

/-- What stands behind a header: a leaf's bytes, or the items of a container. -/
def readBody (limits : Limits) (inner : Option (Bytes → Except Fault (Value × Bytes)))
    (rest : Bytes) : Header → Except Fault (Value × Bytes)
  | .nil => .ok (.nil, rest)
  | .bool b => .ok (.bool b, rest)
  | .int n => .ok (.int n, rest)
  | .single bits => .ok (.real (.ofSingle (Bytes.toNat bits)), rest)
  | .double bits => .ok (.real (.ofBytes bits), rest)
  | .str length =>
    match Bytes.split? length rest with
    | none => .error .truncated
    | some (text, after) =>
      match Utf8.decode? text with
      | .error fault => .error (.badText fault)
      | .ok s => .ok (.str s, after)
  | .bin length =>
    match Bytes.split? length rest with
    | none => .error .truncated
    | some (data, after) => .ok (.bin data, after)
  | .ext code length =>
    match Bytes.split? length rest with
    | none => .error .truncated
    | some (data, after) => (ext? code data).map (·, after)
  | .arr count =>
    match inner with
    | none => .error .tooDeep
    | some read =>
      if count > limits.items then .error (.tooManyItems count limits.items)
      else (readMany read count [] rest).map fun (items, after) => (.arr items, after)
  | .map count =>
    match inner with
    | none => .error .tooDeep
    | some read =>
      if count > limits.pairs then .error (.tooManyPairs count limits.pairs)
      else (readMany (readPair read) count [] rest).map fun (pairs, after) => (mapOf pairs, after)

/-- Reads one value and hands on what follows; containers may still nest `room` deep. -/
def readValue (limits : Limits) : (room : Nat) → Bytes → Except Fault (Value × Bytes)
  | _, [] => .error .truncated
  | 0, lead :: rest =>
    match readHeader lead rest with
    | .error e => .error e
    | .ok (header, after) => readBody limits none after header
  | room + 1, lead :: rest =>
    match readHeader lead rest with
    | .error e => .error e
    | .ok (header, after) => readBody limits (some (readValue limits room)) after header

/-- Reads a text that is one whole value. -/
def unpack (bytes : Bytes) : Except Fault Value :=
  match readValue (.ofLength bytes.length) maxNesting bytes with
  | .error e => .error e
  | .ok (value, []) => .ok value
  | .ok (_, _ :: _) => .error .trailing

def defectText : Utf8.Defect → String
  | .start => "invalid start byte"
  | .continuation => "invalid continuation byte"
  | .truncated => "unexpected end of data"

/-- A UTF-8 fault in words; the position counts from the start of the string. -/
def textFaultMessage (fault : Utf8.Fault) : String :=
  let reason := defectText fault.defect
  if fault.count = 1 then
    "'utf-8' codec can't decode byte 0x" ++ String.ofList (Text.hex 2 fault.byte.toNat) ++
      s!" in position {fault.position}: {reason}"
  else
    let last := fault.position + fault.count - 1
    s!"'utf-8' codec can't decode bytes in position {fault.position}-{last}: {reason}"

def Fault.message : Fault → String
  | .truncated => "Unpack failed: incomplete input"
  | .trailing => "unpack(b) received extra data."
  | .unknownByte => ""
  | .tooDeep => ""
  | .tooManyItems count limit => s!"{count} exceeds max_array_len({limit})"
  | .tooManyPairs count limit => s!"{count} exceeds max_map_len({limit})"
  | .badKey kind => s!"{kind} is not allowed for map key when strict_map_key=True"
  | .badText fault => textFaultMessage fault
  | .badCode => "code must be 0~127"
  | .badTimestamp => "Unpack failed: error = -1"
  | .badNanoseconds => "nanoseconds must be a non-negative integer less than 999999999."

end EdgeSession.Pack
