import EdgeSession.Text.Digit
import EdgeSession.Text.Hex
import EdgeSession.Text.Integer
import EdgeSession.Text.Quoted
import EdgeSession.Text.Search

/-!
Taking an address apart: scheme, authority and path, and of the authority the host and the port.
-/
namespace EdgeSession.Url

open Text

/-- The parts of an address that matter here; its query and fragment are left out. -/
@[ext]
structure Parts where
  scheme : List Char
  authority : List Char
  path : List Char
  deriving DecidableEq, Repr

inductive Fault
  /-- Brackets that do not enclose the host. -/
  | brackets
  /-- A bracketed host that starts as a future kind of address and is none. -/
  | futureAddress
  | notAddress (host : List Char)
  /-- A four-part address where a six-part one belongs. -/
  | bracketedIPv4
  /-- Characters that stand for delimiters in their compatibility form. -/
  | disguised (authority : List Char)
  | portText (port : List Char)
  /-- More digits than are read. -/
  | portLength (count : Nat)
  | portRange
  deriving DecidableEq, Repr

def Fault.message : Fault → String
  | .brackets => "Invalid IPv6 URL"
  | .futureAddress => "IPvFuture address is invalid"
  | .notAddress host =>
    String.ofList (quoteChars host) ++ " does not appear to be an IPv4 or IPv6 address"
  | .bracketedIPv4 => "An IPv4 address cannot be in brackets"
  | .disguised authority =>
    "netloc '" ++ String.ofList authority ++
      "' contains invalid characters under NFKC normalization"
  | .portText port =>
    "Port could not be cast to integer value as " ++ String.ofList (quoteChars port)
  | .portLength count =>
    s!"Exceeds the limit ({digitLimit} digits) for integer string conversion: value has {count} " ++
      "digits; use sys.set_int_max_str_digits() to increase the limit"
  | .portRange => "Port out of range 0-65535"

/-- The text before the first `mark`, and what follows it if there is one. -/
def cut (mark : Char) (s : List Char) : List Char × Option (List Char) :=
  match s.dropWhile (· != mark) with
  | [] => (s, none)
  | _ :: rest => (s.takeWhile (· != mark), some rest)

/-- What follows the last `mark`, or the whole text. -/
def afterLast (mark : Char) (s : List Char) : List Char :=
  (s.reverse.takeWhile (· != mark)).reverse

/-- One number of a four-part address: up to three digits, without a zero in front. -/
def isOctet (s : List Char) : Bool :=
  !s.isEmpty && s.length ≤ 3 && s.all isAsciiDigit &&
    (s.length == 1 || s.head? != some '0') &&
    s.foldl (fun n c => n * 10 + (c.toNat - 0x30)) 0 ≤ 255

def isIPv4 (s : List Char) : Bool :=
  let octets := splitOn '.' s
  octets.length == 4 && octets.all isOctet

def isGroup (s : List Char) : Bool := !s.isEmpty && s.length ≤ 4 && s.all isHexDigit

/-- The groups before the gap of an address; the start of the address may be the gap's own. -/
def beforeGap? (groups : List (List Char)) : Option (List (List Char)) :=
  if groups.head? = some [] then if groups.length = 1 then some [] else none else some groups

def afterGap? (groups : List (List Char)) : Option (List (List Char)) :=
  if groups.getLast? = some [] then if groups.length = 1 then some [] else none else some groups

/-- Groups between colons, eight in all, or fewer with one gap that stands for the zeros that are
missing. At either end of an address a gap takes two colons. -/
def areGroups : List (List Char) → Bool
  | [] => false
  | first :: rest =>
    let inner := rest.dropLast
    let front := first :: inner.takeWhile (!·.isEmpty)
    match inner.dropWhile (!·.isEmpty) with
    | [] => rest.length == 7 && (first :: rest).all isGroup
    | _ :: back =>
      match beforeGap? front, afterGap? (back ++ rest.drop inner.length) with
      | some front, some back =>
        front.length + back.length < 8 && front.all isGroup && back.all isGroup
      | _, _ => false

/-- A six-part address; its last two groups may be written in four parts, and a zone may follow a
percent sign. -/
def isIPv6 (s : List Char) : Bool :=
  let (address, zone) := cut '%' s
  let zoneOk := match zone with
    | none => true
    | some zone => !zone.isEmpty && !zone.contains '%'
  let groups := splitOn ':' address
  let last := groups.getLast?.getD []
  let expanded :=
    if last.contains '.' then
      if isIPv4 last then some (groups.dropLast ++ [['0'], ['0']]) else none
    else some groups
  zoneOk && groups.length ≥ 3 && expanded.any areGroups

def isFutureAddress (s : List Char) : Bool :=
  match s with
  | 'v' :: rest =>
    let version := rest.takeWhile isHexDigit
    match rest.drop version.length with
    | '.' :: _ :: _ => !version.isEmpty
    | _ => false
  | _ => false

def checkBracketed (host : List Char) : Except Fault Unit :=
  if host.head? = some 'v' then
    if isFutureAddress host then .ok () else .error .futureAddress
  else if isIPv4 host then .error .bracketedIPv4
  else if isIPv6 host then .ok ()
  else .error (.notAddress host)

/-- Brackets come in pairs, and what follows the user's name is the bracketed host alone and then
a port. -/
def checkBrackets (authority : List Char) : Except Fault Unit :=
  match authority.contains '[', authority.contains ']' with
  | false, false => .ok ()
  | true, true =>
    let host := afterLast '@' authority
    match cut '[' host with
    | (_ :: _, some _) => .error .brackets
    | ([], some bracketed) =>
      match cut ']' bracketed with
      | (inside, some (c :: _)) =>
        if c = ':' then checkBracketed inside else .error .brackets
      | (inside, _) => checkBracketed inside
    | (_, none) => checkBracketed (cut ':' host).1
  | _, _ => .error .brackets

/-- Characters whose compatibility form holds one of `/?#@:`. -/
def disguises : List Nat :=
  [0x2047, 0x2048, 0x2049, 0x2100, 0x2101, 0x2105, 0x2106, 0x2A74, 0xFE13, 0xFE16, 0xFE55, 0xFE56,
    0xFE5F, 0xFE6B, 0xFF03, 0xFF0F, 0xFF1A, 0xFF1F, 0xFF20]

def checkDisguises (authority : List Char) : Except Fault Unit :=
  if authority.any fun c => disguises.contains c.toNat then .error (.disguised authority)
  else .ok ()

def isSchemeStart (c : Char) : Bool :=
  let n := c.toNat
  (0x41 ≤ n && n ≤ 0x5A) || (0x61 ≤ n && n ≤ 0x7A)

def isSchemeChar (c : Char) : Bool :=
  isSchemeStart c || isAsciiDigit c || c == '+' || c == '-' || c == '.'

/-- The scheme in lower case and the rest; no scheme if the text before the first colon is none. -/
def splitScheme (s : List Char) : List Char × List Char :=
  match cut ':' s with
  | (scheme, some rest) =>
    if scheme.head?.any isSchemeStart && scheme.all isSchemeChar then
      (scheme.map Char.toLower, rest)
    else ([], s)
  | (_, none) => ([], s)

def endsAuthority (c : Char) : Bool := c == '/' || c == '?' || c == '#'

/-- Tabs and line ends do not belong to an address, wherever they stand. -/
def isKept (c : Char) : Bool := c != '\t' && c != '\r' && c != '\n'

/-- Nor do controls and blanks in front. -/
def clean (s : List Char) : List Char := (s.dropWhile fun c => c.toNat ≤ 0x20).filter isKept

/-- The authority, which two slashes announce, and the rest. -/
def splitAuthority : List Char → List Char × List Char
  | '/' :: '/' :: rest =>
    let authority := rest.takeWhile fun c => !endsAuthority c
    (authority, rest.drop authority.length)
  | rest => ([], rest)

def pathOf (rest : List Char) : List Char := rest.takeWhile fun c => c != '?' && c != '#'

/-- Takes an address apart. -/
def split (s : List Char) : Except Fault Parts :=
  let (scheme, rest) := splitScheme (clean s)
  let (authority, rest) := splitAuthority rest
  match checkBrackets authority, checkDisguises authority with
  | .error fault, _ => .error fault
  | _, .error fault => .error fault
  | .ok _, .ok _ => .ok { scheme, authority, path := pathOf rest }

/-- The host and the text of the port. -/
def hostAndPort (authority : List Char) : List Char × List Char :=
  let host := afterLast '@' authority
  match cut '[' host with
  | (_, some bracketed) =>
    let (inside, after) := cut ']' bracketed
    (inside, ((cut ':' (after.getD [])).2).getD [])
  | (_, none) =>
    let (name, port) := cut ':' host
    (name, port.getD [])

/-- The port, none if its text is empty. -/
def port? (text : List Char) : Except Fault (Option Nat) :=
  if text.isEmpty then .ok none
  else if !text.all isAsciiDigit then .error (.portText text)
  else if digitLimit < text.length then .error (.portLength text.length)
  else
    let n := text.foldl (fun n c => n * 10 + (c.toNat - 0x30)) 0
    if n ≤ 65535 then .ok (some n) else .error .portRange

end EdgeSession.Url
