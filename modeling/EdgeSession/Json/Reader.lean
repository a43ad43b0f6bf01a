import EdgeSession.Json.Value
import EdgeSession.Text.Utf8
import EdgeSession.Text.Digit

/-!
Reading JSON. The reader stops at the first fault and says what it expected and where, counted in
characters from zero. Beyond the standard it takes the words `NaN`, `Infinity` and `-Infinity`;
of two members of one name the later value counts.
-/
namespace EdgeSession.Json

/-- What is wrong with a text. -/
inductive Problem
  | value
  | name
  | colon
  | comma
  | trailing
  | unterminated
  | control
  | escape
  | unicodeEscape
  | byteOrderMark
  deriving DecidableEq, Repr

def Problem.message : Problem → String
  | .value => "Expecting value"
  | .name => "Expecting property name enclosed in double quotes"
  | .colon => "Expecting ':' delimiter"
  | .comma => "Expecting ',' delimiter"
  | .trailing => "Extra data"
  | .unterminated => "Unterminated string starting at"
  | .control => "Invalid control character at"
  | .escape => "Invalid \\escape"
  | .unicodeEscape => "Invalid \\uXXXX escape"
  | .byteOrderMark => "Unexpected UTF-8 BOM (decode using utf-8-sig)"

inductive Fault
  | malformed (problem : Problem) (position : Nat)
  /-- An integer of more digits than are read. -/
  | tooManyDigits (count : Nat)
  deriving DecidableEq, Repr

/-- A fault in words, with the line and the column of its place in the text. -/
def Fault.message (text : List Char) : Fault → String
  | .malformed problem position =>
    let front := text.take position
    let line := front.count '\n' + 1
    let column := (front.reverse.takeWhile (· != '\n')).length + 1
    problem.message ++ s!": line {line} column {column} (char {position})"
  | .tooManyDigits count =>
    s!"Exceeds the limit ({maxDigits} digits) for integer string conversion: value has {count} " ++
      "digits; use sys.set_int_max_str_digits() to increase the limit"

/-- What is left of a text, and where it starts. -/
structure Cursor where
  position : Nat
  rest : List Char
  deriving DecidableEq, Repr

namespace Cursor

def advance (c : Cursor) (n : Nat) : Cursor := ⟨c.position + n, c.rest.drop n⟩

def isSpace (c : Char) : Bool := c == ' ' || c == '\t' || c == '\n' || c == '\r'

def skipSpace (c : Cursor) : Cursor :=
  let blank := c.rest.takeWhile isSpace
  c.advance blank.length

def fault (c : Cursor) (problem : Problem) : Except Fault α :=
  .error (.malformed problem c.position)

end Cursor

def isHighSurrogate (n : Nat) : Bool := 0xD800 ≤ n && n < 0xDC00
def isLowSurrogate (n : Nat) : Bool := 0xDC00 ≤ n && n < 0xE000

/-- The scalar value of one UTF-16 unit; a lone surrogate becomes U+FFFD. -/
def unitChar (n : Nat) : Char :=
  if isHighSurrogate n || isLowSurrogate n then '\uFFFD' else Char.ofNat n

def pairChar (high low : Nat) : Char :=
  Char.ofNat (0x10000 + (high - 0xD800) * 0x400 + (low - 0xDC00))

/-- Four base-16 digits with at least one more character behind them. -/
def readUnit (place : Nat) (digits : List Char) : Except Fault (Nat × List Char) :=
  match digits with
  | a :: b :: c :: d :: rest =>
    match rest, Text.ofHex? [a, b, c, d] with
    | _ :: _, some n => .ok (n, rest)
    | _, _ => .error (.malformed .unicodeEscape place)
  | _ => .error (.malformed .unicodeEscape place)

/-- The characters that a backslash and one letter stand for. -/
def shortEscape? : Char → Option Char
  | '\x22' => some '\x22'
  | '\x5c' => some '\x5c'
  | '/' => some '/'
  | 'b' => some '\x08'
  | 'f' => some '\x0c'
  | 'n' => some '\n'
  | 'r' => some '\r'
  | 't' => some '\t'
  | _ => none

/-- Reads a string behind its opening quote at `start`. -/
def readString (start : Nat) : (fuel : Nat) → (acc : List Char) → Cursor →
    Except Fault (String × Cursor)
  | 0, _, _ => .error (.malformed .unterminated start)
  | fuel + 1, acc, c =>
    match c.rest with
    | [] => .error (.malformed .unterminated start)
    | '\x22' :: rest => .ok (String.ofList acc.reverse, ⟨c.position + 1, rest⟩)
    | '\x5c' :: 'u' :: digits =>
      match readUnit (c.position + 1) digits with
      | .error e => .error e
      | .ok (n, after) =>
        match isHighSurrogate n, after with
        | true, '\x5c' :: 'u' :: digits' =>
          -- a second escape counts only with all its digits and something behind them
          if digits'.length ≤ 4 then
            readString start fuel (unitChar n :: acc) ⟨c.position + 6, after⟩
          else match readUnit (c.position + 7) digits' with
            | .error e => .error e
            | .ok (m, after') =>
              if isLowSurrogate m then
                readString start fuel (pairChar n m :: acc) ⟨c.position + 12, after'⟩
              else readString start fuel (unitChar n :: acc) ⟨c.position + 6, after⟩
        | _, _ => readString start fuel (unitChar n :: acc) ⟨c.position + 6, after⟩
    | '\x5c' :: e :: rest =>
      match shortEscape? e with
      | some ch => readString start fuel (ch :: acc) ⟨c.position + 2, rest⟩
      | none => .error (.malformed .escape c.position)
    | '\x5c' :: [] => .error (.malformed .unterminated start)
    | ch :: rest =>
      if ch.toNat < 0x20 then .error (.malformed .control c.position)
      else readString start fuel (ch :: acc) ⟨c.position + 1, rest⟩

def ofDigits (digits : List Char) : Nat :=
  digits.foldl (fun n c => n * 10 + (c.toNat - 0x30)) 0

/-- The fraction that stands at the start: its digits, when a point and a digit do. -/
def fraction? : List Char → Option (List Char)
  | '.' :: rest =>
    let digits := rest.takeWhile Text.isAsciiDigit
    if digits.isEmpty then none else some digits
  | _ => none

/-- The exponent that stands at the start, and how many characters it takes. -/
def exponent? : List Char → Option (Int × Nat)
  | mark :: rest =>
    if mark == 'e' || mark == 'E' then
      let (negative, signs, rest) := match rest with
        | '-' :: rest => (true, 1, rest)
        | '+' :: rest => (false, 1, rest)
        | _ => (false, 0, rest)
      let digits := rest.takeWhile Text.isAsciiDigit
      if digits.isEmpty then none
      else
        let n : Int := ofDigits digits
        some (if negative then -n else n, 1 + signs + digits.length)
    else none
  | [] => none

/-- Whether a minus stands at the start, and what comes behind it. -/
def sign : List Char → Bool × List Char
  | '-' :: rest => (true, rest)
  | body => (false, body)

/-- The digits before the point. Zero stands alone. -/
def wholeDigits : List Char → List Char
  | '0' :: _ => ['0']
  | body => body.takeWhile Text.isAsciiDigit

/-- Reads the longest number at the cursor. -/
def readNumber (c : Cursor) : Except Fault (Json × Cursor) :=
  let (negative, body) := sign c.rest
  let digits := wholeDigits body
  if digits.isEmpty then c.fault .value
  else
    let signs := if negative then 1 else 0
    let afterDigits := body.drop digits.length
    let fraction := fraction? afterDigits
    let fractionLength := match fraction with
      | some ds => ds.length + 1
      | none => 0
    let exponent := exponent? (afterDigits.drop fractionLength)
    match fraction, exponent with
    | none, none =>
      if digits.length > maxDigits then .error (.tooManyDigits digits.length)
      else
        let n : Int := ofDigits digits
        .ok (int (if negative then -n else n), c.advance (signs + digits.length))
    | _, _ =>
      let places := fraction.getD []
      let (shift, exponentLength) := exponent.getD (0, 0)
      let x := Binary64.ofDecimal negative (ofDigits (digits ++ places)) (shift - places.length)
      .ok (real x, c.advance (signs + digits.length + fractionLength + exponentLength))

/-- The words that are values, longest first where one starts with another. -/
def wordValues : List (String × Json) :=
  [("null", null), ("true", bool true), ("false", bool false), ("NaN", real .nan),
    ("Infinity", real (.infinity false)), ("-Infinity", real (.infinity true))]

def readWord? (c : Cursor) : Option (Json × Cursor) :=
  (wordValues.find? fun (word, _) => word.toList.isPrefixOf c.rest).map fun (word, value) =>
    (value, c.advance word.length)

mutual
/-- Reads one value that starts right at the cursor. -/
def readValue : (fuel : Nat) → Cursor → Except Fault (Json × Cursor)
  | 0, c => c.fault .value
  | fuel + 1, c =>
    match c.rest with
    | '\x22' :: rest =>
      match readString c.position (rest.length + 1) [] ⟨c.position + 1, rest⟩ with
      | .error e => .error e
      | .ok (s, after) => .ok (str s, after)
    | '\x7b' :: rest =>
      let inside := Cursor.skipSpace ⟨c.position + 1, rest⟩
      match inside.rest with
      | '\x7d' :: _ => .ok (obj [], inside.advance 1)
      | _ => readMembers fuel [] inside
    | '[' :: rest =>
      let inside := Cursor.skipSpace ⟨c.position + 1, rest⟩
      match inside.rest with
      | ']' :: _ => .ok (arr [], inside.advance 1)
      | _ => readItems fuel [] inside
    | _ =>
      match readWord? c with
      | some found => .ok found
      | none => readNumber c

/-- Reads the items of an array from the next one on; `acc` holds those before, last first. -/
def readItems : (fuel : Nat) → (acc : List Json) → Cursor → Except Fault (Json × Cursor)
  | 0, _, c => c.fault .value
  | fuel + 1, acc, c =>
    match readValue fuel c with
    | .error e => .error e
    | .ok (item, after) =>
      let next := after.skipSpace
      match next.rest with
      | ']' :: _ => .ok (arr (item :: acc).reverse, next.advance 1)
      | ',' :: _ => readItems fuel (item :: acc) (next.advance 1).skipSpace
      | _ => next.fault .comma

/-- Reads the members of an object from the next one on. -/
def readMembers : (fuel : Nat) → (acc : List (String × Json)) → Cursor →
    Except Fault (Json × Cursor)
  | 0, _, c => c.fault .value
  | fuel + 1, acc, c =>
    match c.rest with
    | '\x22' :: rest =>
      match readString c.position (rest.length + 1) [] ⟨c.position + 1, rest⟩ with
      | .error e => .error e
      | .ok (name, after) =>
        let mark := after.skipSpace
        match mark.rest with
        | ':' :: _ =>
          match readValue fuel (mark.advance 1).skipSpace with
          | .error e => .error e
          | .ok (value, after) =>
            let next := after.skipSpace
            let acc := insert name value acc
            match next.rest with
            | '\x7d' :: _ => .ok (obj acc, next.advance 1)
            | ',' :: _ => readMembers fuel acc (next.advance 1).skipSpace
            | _ => next.fault .comma
        | _ => mark.fault .colon
    | _ => c.fault .name
end

/-- Reads a whole text as one value. Each value takes a character and at most two calls, so the
text's length bounds the calls. -/
def parseValue (text : List Char) : Except Fault Json :=
  match readValue (2 * text.length + 2) (Cursor.skipSpace ⟨0, text⟩) with
  | .error e => .error e
  | .ok (value, after) =>
    let last := after.skipSpace
    if last.rest.isEmpty then .ok value else last.fault .trailing

/-- Reads the text of a file, which may not start with a byte order mark. -/
def parse (text : List Char) : Except Fault Json :=
  match text with
  | '\uFEFF' :: _ => .error (.malformed .byteOrderMark 0)
  | _ => parseValue text

end EdgeSession.Json
