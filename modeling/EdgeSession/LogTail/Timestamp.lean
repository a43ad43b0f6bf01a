import EdgeSession.Text.Digit
import EdgeSession.Text.Quoted

/-!
Time stamps of RFC 3339. A text is read twice: its shape is matched with the decimal digits of any
script, and then its numbers are read as ASCII and checked. Fractions are cut to microseconds.
-/
namespace EdgeSession.LogTail

open Text

/-- A point in time as written: date and time of day in a zone `offset` minutes ahead of UTC. -/
structure Timestamp where
  year : Nat
  month : Nat
  day : Nat
  hour : Nat
  minute : Nat
  second : Nat
  microsecond : Nat
  offset : Int
  deriving DecidableEq, Repr

inductive TimestampFault
  /-- The text has not the shape of a time stamp. -/
  | shape (text : List Char)
  /-- A number is not written in ASCII digits; `text` is the stamp in its normal form. -/
  | digits (text : List Char)
  | offset (minutes : Int)
  | year (n : Nat)
  | month
  | day
  | hour
  | minute
  | second
  deriving DecidableEq, Repr

/-- An amount of minutes in whole days and seconds, the seconds never negative. -/
def durationText (minutes : Int) : String :=
  let days := minutes.fdiv 1440
  let seconds := minutes.fmod 1440 * 60
  if seconds = 0 then s!"days={days}" else s!"days={days}, seconds={seconds}"

def TimestampFault.message : TimestampFault → String
  | .shape text => String.ofList (quoteChars text) ++ " is not an RFC 3339 timestamp"
  | .digits text => "Invalid isoformat string: " ++ String.ofList (quoteChars text)
  | .offset minutes =>
    "offset must be a timedelta strictly between -timedelta(hours=24) and " ++
      s!"timedelta(hours=24), not datetime.timedelta({durationText minutes})."
  | .year n => s!"year {n} is out of range"
  | .month => "month must be in 1..12"
  | .day => "day is out of range for month"
  | .hour => "hour must be in 0..23"
  | .minute => "minute must be in 0..59"
  | .second => "second must be in 0..59"

/-- The parts of a text of the right shape. -/
structure Parts where
  date : List Char
  time : List Char
  fraction : List Char
  /-- A sign and `hh:mm`, or none for UTC. -/
  zone : Option (List Char)
  deriving DecidableEq, Repr

/-- Matches a pattern in which `0` stands for any decimal digit and all else for itself; the
text matched and the rest. -/
def matchPattern? : (pattern : List Char) → List Char → Option (List Char × List Char)
  | [], s => some ([], s)
  | _ :: _, [] => none
  | p :: pattern, c :: s =>
    if (if p = '0' then isDigit c else c == p) then
      (matchPattern? pattern s).map fun (front, rest) => (c :: front, rest)
    else none

/-- The end of a text, or one line feed before it. -/
def atEnd (s : List Char) : Bool := s == [] || s == ['\n']

/-- The zone that a text ends in. -/
def zone? : List Char → Option (Option (List Char))
  | [] => none
  | c :: rest =>
    if c = 'Z' || c = 'z' then if atEnd rest then some none else none
    else if c = '+' || c = '-' then do
      let (clock, rest) ← matchPattern? "00:00".toList rest
      if atEnd rest then some (some (c :: clock)) else none
    else none

/-- The fraction behind a point, which has at least one digit, and the rest. -/
def fraction? : List Char → Option (List Char × List Char)
  | '.' :: rest =>
    let digits := rest.takeWhile isDigit
    if digits.isEmpty then none else some (digits, rest.drop digits.length)
  | rest => some ([], rest)

def parts? (s : List Char) : Option Parts := do
  let (date, rest) ← matchPattern? "0000-00-00".toList s
  let rest ← match rest with
    | 'T' :: rest | 't' :: rest => some rest
    | _ => none
  let (time, rest) ← matchPattern? "00:00:00".toList rest
  let (fraction, rest) ← fraction? rest
  let zone ← zone? rest
  return ⟨date, time, fraction, zone⟩

/-- The first six digits of a fraction, filled up with zeros. -/
def microseconds (fraction : List Char) : List Char :=
  let front := fraction.take 6
  front ++ List.replicate (6 - front.length) '0'

/-- The stamp in its normal form: `T` between date and time, a fraction of six digits or none, and
the zone as an offset. -/
def Parts.normal (p : Parts) : List Char :=
  p.date ++ 'T' :: p.time ++
    (if p.fraction.isEmpty then [] else '.' :: microseconds p.fraction) ++
    p.zone.getD "+00:00".toList

/-- The number at a place of `width` ASCII digits. -/
def number? (s : List Char) (place width : Nat) : Option Nat :=
  ((s.drop place).take width).foldlM
    (fun n c => if isAsciiDigit c then some (n * 10 + (c.toNat - 0x30)) else none) 0

def isLeap (year : Nat) : Bool := year % 4 == 0 && (year % 100 != 0 || year % 400 == 0)

def daysIn (year month : Nat) : Nat :=
  if month = 2 then if isLeap year then 29 else 28
  else if month = 4 || month = 6 || month = 9 || month = 11 then 30
  else 31

/-- The minutes that a zone is ahead of UTC. -/
def offset? : Option (List Char) → Option Int
  | none => some 0
  | some zone => do
    let hours ← number? zone 1 2
    let minutes ← number? zone 4 2
    let ahead : Int := (hours * 60 + minutes : Nat)
    return if zone.head? = some '-' then -ahead else ahead

/-- The numbers of a stamp, none of them checked. -/
def Parts.numbers? (p : Parts) : Option Timestamp := do
  let year ← number? p.date 0 4
  let month ← number? p.date 5 2
  let day ← number? p.date 8 2
  let hour ← number? p.time 0 2
  let minute ← number? p.time 3 2
  let second ← number? p.time 6 2
  let microsecond ← number? (microseconds p.fraction) 0 6
  let offset ← offset? p.zone
  return { year, month, day, hour, minute, second, microsecond, offset }

/-- Checks the offset and then the fields from the year down. -/
def Timestamp.check (t : Timestamp) : Except TimestampFault Timestamp :=
  if t.offset ≤ -1440 || 1440 ≤ t.offset then .error (.offset t.offset)
  else if t.year = 0 then .error (.year t.year)
  else if t.month = 0 || 12 < t.month then .error .month
  else if t.day = 0 || daysIn t.year t.month < t.day then .error .day
  else if 23 < t.hour then .error .hour
  else if 59 < t.minute then .error .minute
  else if 59 < t.second then .error .second
  else .ok t

def Timestamp.parse (s : List Char) : Except TimestampFault Timestamp :=
  match parts? s with
  | none => .error (.shape s)
  | some parts =>
    match parts.numbers? with
    | none => .error (.digits parts.normal)
    | some t => t.check

/-- A number in at least `width` digits. -/
def padded (width n : Nat) : List Char :=
  let digits := (Nat.repr n).toList
  List.replicate (width - digits.length) '0' ++ digits

/-- ISO 8601, with microseconds only when there are any. -/
def Timestamp.render (t : Timestamp) : List Char :=
  padded 4 t.year ++ '-' :: padded 2 t.month ++ '-' :: padded 2 t.day ++ 'T' ::
    padded 2 t.hour ++ ':' :: padded 2 t.minute ++ ':' :: padded 2 t.second ++
    (if t.microsecond = 0 then [] else '.' :: padded 6 t.microsecond) ++
    (if t.offset < 0 then '-' else '+') :: padded 2 (t.offset.natAbs / 60) ++
    ':' :: padded 2 (t.offset.natAbs % 60)

end EdgeSession.LogTail
