import EdgeSession.Bytes
import EdgeSession.Text.Hex
import EdgeSession.Text.Printable

/-!
Quoted text, as error messages show values. The quote is an apostrophe, or a double quote when
only apostrophes stand inside; what is not printable becomes an escape of fixed width.
-/
namespace EdgeSession.Text

def apostrophe : Char := '\x27'
def doubleQuote : Char := '\x22'
def backslash : Char := '\x5c'

/-- The quote that needs fewer escapes. -/
def quoteFor (hasApostrophe hasDouble : Bool) : Char :=
  if hasApostrophe && !hasDouble then doubleQuote else apostrophe

/-- The escapes that characters and bytes share. -/
def escapeShort? (quote : Char) (n : Nat) : Option (List Char) :=
  if n = quote.toNat then some [backslash, quote]
  else if n = 0x5C then some [backslash, backslash]
  else if n = 0x09 then some [backslash, 't']
  else if n = 0x0A then some [backslash, 'n']
  else if n = 0x0D then some [backslash, 'r']
  else none

def escapeChar (quote : Char) (c : Char) : List Char :=
  let n := c.toNat
  match escapeShort? quote n with
  | some escape => escape
  | none =>
    if isPrintable c then [c]
    else if n < 0x100 then backslash :: 'x' :: hex 2 n
    else if n < 0x10000 then backslash :: 'u' :: hex 4 n
    else backslash :: 'U' :: hex 8 n

def escapeByte (quote : Char) (b : UInt8) : List Char :=
  let n := b.toNat
  match escapeShort? quote n with
  | some escape => escape
  | none =>
    if 0x20 ≤ n && n < 0x7F then [Char.ofNat n] else backslash :: 'x' :: hex 2 n

def quoteChars (s : List Char) : List Char :=
  let quote := quoteFor (s.contains apostrophe) (s.contains doubleQuote)
  quote :: s.flatMap (escapeChar quote) ++ [quote]

def quote (s : String) : String := String.ofList (quoteChars s.toList)

/-- Bytes are quoted behind the letter `b`. -/
def quoteBytes (bytes : Bytes) : String :=
  let quote := quoteFor (bytes.contains 0x27) (bytes.contains 0x22)
  String.ofList ('b' :: quote :: bytes.flatMap (escapeByte quote) ++ [quote])

end EdgeSession.Text
