import EdgeSession.ControlPlane.Url
import EdgeSession.Text.Base64
import EdgeSession.Text.Form

/-!
HTTP requests as they leave the machine, with their addresses in normal form, and what comes back.
-/
namespace EdgeSession.Http

open Text

structure Request where
  method : String
  url : String
  /-- The path by itself, under which a server looks the request up. -/
  path : String
  authorization : Option String
  contentType : String
  body : String
  deriving DecidableEq, Repr

/-- What comes of a request. -/
inductive Reply
  | answer (status : Nat) (body : String)
  /-- The server was not reached, or was lost before it answered. -/
  | unreachable (text : String)
  /-- The server broke the rules of HTTP. -/
  | broken (text : String)
  deriving DecidableEq, Repr

inductive UrlFault
  | unprintable (c : Char) (position : Nat)
  | port (text : List Char)
  | ipv4 (host : List Char)
  | ipv6 (host : List Char)
  | other (text : String)
  deriving DecidableEq, Repr

def UrlFault.message : UrlFault → String
  | .unprintable c position =>
    "Invalid non-printable ASCII character in URL, " ++ quote (String.ofList [c]) ++
      s!" at position {position}."
  | .port text => "Invalid port: " ++ String.ofList (quoteChars text)
  | .ipv4 host => "Invalid IPv4 address: " ++ String.ofList (quoteChars host)
  | .ipv6 host => "Invalid IPv6 address: " ++ String.ofList (quoteChars host)
  | .other text => text

/-- An address in normal form, and the name and password it carries. -/
structure Target where
  url : List Char
  path : List Char
  user : List Char
  password : List Char
  deriving DecidableEq, Repr

/-- Percent escapes for all but letters, digits and what is `safe`; escapes that are there stay. -/
def escape (safe : Char → Bool) : List Char → List Char
  | [] => []
  | '%' :: a :: b :: rest =>
    if isHexDigit a && isHexDigit b then '%' :: a :: b :: escape safe rest
    else (if safe '%' then ['%'] else Form.percent 0x25) ++ escape safe (a :: b :: rest)
  | c :: rest =>
    (if Form.isUnreserved c || safe c then [c] else (Utf8.encodeChar c).flatMap Form.percent) ++
      escape safe rest

def isGraphic (c : Char) : Bool := 0x20 < c.toNat && c.toNat < 0x7F

def safeBut (excluded : String) (c : Char) : Bool := isGraphic c && !excluded.toList.contains c

def safeInQuery : Char → Bool := safeBut "\x22#<>"
def safeInFragment : Char → Bool := safeBut "\x22<>\x60"
def safeInPath : Char → Bool := safeBut "\x22#<>?\x60\x7b\x7d"
def safeInUser : Char → Bool := safeBut "\x22#<>?\x60\x7b\x7d/;=@[\x5c]^|"
def safeInHost (c : Char) : Bool := "!$&'()*+,;=\x22\x60\x7b\x7d%|\x5c".toList.contains c

/-- The bytes that a text with percent escapes stands for, as text. -/
def unescapeBytes : List Char → Bytes
  | [] => []
  | '%' :: a :: b :: rest =>
    match ofHex? [a, b] with
    | some n => UInt8.ofNat n :: unescapeBytes rest
    | none => 0x25 :: unescapeBytes (a :: b :: rest)
  | c :: rest => Utf8.encodeChar c ++ unescapeBytes rest

def unescape (s : List Char) : List Char := Utf8.decodeLossy (unescapeBytes s)

/-- Without single dots in a path, and with double dots worked out. -/
def normalPath (path : List Char) : List Char :=
  let parts := splitOn '/' path
  if parts.contains ['.'] || parts.contains ['.', '.'] then
    let kept := parts.foldl (fun (out : List (List Char)) part =>
      if part = ['.'] then out
      else if part = ['.', '.'] then if out.isEmpty || out == [[]] then out else out.dropLast
      else out ++ [part]) []
    ['/'].intercalate kept
  else path

/-- Whether a host looks like a four-part address. -/
def looksIPv4 (host : List Char) : Bool :=
  let parts := splitOn '.' host
  parts.length == 4 && parts.all fun part => !part.isEmpty && part.all isAsciiDigit

/-- The host in normal form: in lower case, and addresses checked. -/
def normalHost (host : List Char) : Except UrlFault (List Char) :=
  if host.head? = some '[' then
    let inside := (host.drop 1).dropLast
    if Url.isIPv6 inside then .ok host else .error (.ipv6 host)
  else if looksIPv4 host then
    if Url.isIPv4 host then .ok host else .error (.ipv4 host)
  else .ok (escape safeInHost (host.map Char.toLower))

def defaultPort? (scheme : List Char) : Option Nat :=
  match String.ofList scheme with
  | "http" => some 80
  | "https" => some 443
  | "ws" => some 80
  | "wss" => some 443
  | "ftp" => some 21
  | _ => none

/-- The port as it is written, left out where it is the scheme's own. -/
def normalPort (scheme port : List Char) : Except UrlFault (List Char) :=
  if port.isEmpty then .ok []
  else if !port.all isAsciiDigit then .error (.port port)
  else
    let n := port.foldl (fun n c => n * 10 + (c.toNat - 0x30)) 0
    if defaultPort? scheme = some n then .ok [] else .ok (':' :: (Nat.repr n).toList)

/-- The name, the host and the port of an authority. -/
def splitAuthority (authority : List Char) : List Char × List Char × List Char :=
  let host := Url.afterLast '@' authority
  let user := authority.take (authority.length - host.length - 1)
  if host.head? = some '[' && host.contains ']' then
    let after := Url.afterLast ']' host
    (user, host.take (host.length - after.length), after.dropWhile (· == ':'))
  else
    let (name, port) := Url.cut ':' host
    (user, name, port.getD [])

/-- Brings an address into normal form; a query given replaces the address's own. -/
def normalize (url : List Char) (query : Option (List Char)) : Except UrlFault Target := do
  match url.findIdx? fun c => c.toNat < 0x20 || c.toNat = 0x7F with
  | some position => .error (.unprintable (url.getD position ' ') position)
  | none =>
    let (scheme, rest) := Url.splitScheme url
    let (authority, rest) := match rest with
      | '/' :: '/' :: rest =>
        let authority := rest.takeWhile fun c => !Url.endsAuthority c
        (authority, rest.drop authority.length)
      | _ => ([], rest)
    let (front, fragment) := Url.cut '#' rest
    let (path, ownQuery) := Url.cut '?' front
    let (user, host, port) := splitAuthority authority
    let host ← normalHost host
    let port ← normalPort scheme port
    let path := escape safeInPath (normalPath path)
    let query := match query <|> ownQuery with
      | some query => '?' :: escape safeInQuery query
      | none => []
    let fragment := match fragment with
      | some fragment => '#' :: escape safeInFragment fragment
      | none => []
    let userText := if user.isEmpty then [] else escape safeInUser user ++ ['@']
    let (name, password) := Url.cut ':' user
    return {
      url := scheme ++ "://".toList ++ userText ++ host ++ port ++ path ++ query ++ fragment
      path
      user := unescape name
      password := unescape (password.getD []) }

/-- How an address, with a query if one is given, is brought into the form that it is sent in. -/
abbrev Spelling := List Char → Option (List Char) → Except UrlFault Target

/-- What lies behind a client: the library that spells its addresses, and a server that answers a
request in the light of those before it. Nothing is known of either. -/
structure Server where
  spell : Spelling
  reply : List Request → Request → Reply

/-- A server behind the library that is in use. -/
def Server.answering (reply : List Request → Request → Reply) : Server := ⟨normalize, reply⟩

instance : CoeFun Server fun _ => List Request → Request → Reply := ⟨Server.reply⟩

/-- The header for a name and a password. -/
def basicAuthorization (user password : List Char) : String :=
  "Basic " ++ String.ofList
    (Base64.encode (Utf8.encodeChars user ++ 0x3A :: Utf8.encodeChars password))

end EdgeSession.Http
