import EdgeSession.ControlPlane.Url
import EdgeSession.Text.Blank

/-!
The base address of a control plane from what an operator wrote down for it.
-/
namespace EdgeSession.BaseUrl

open Text

def defaultPort : Nat := 51121
def apiPath : List Char := "/api/v3".toList

inductive Fault
  | url (fault : Url.Fault)
  | noHost (endpoint : List Char)
  deriving DecidableEq, Repr

def Fault.message : Fault → String
  | .url fault => fault.message
  | .noHost endpoint =>
    "invalid control plane endpoint: " ++ String.ofList (quoteChars endpoint)

/-- An endpoint without white space around it and slashes at its end, and with a scheme. -/
def withScheme (endpoint : List Char) (https : Bool) : List Char :=
  let bare := dropSlashes (trim endpoint)
  if contains "://".toList bare then bare
  else (if https then "https://".toList else "http://".toList) ++ bare

def ofParts (endpoint : List Char) (parts : Url.Parts) : Except Fault (List Char) :=
  let (host, portText) := Url.hostAndPort parts.authority
  if host.isEmpty then .error (.noHost endpoint)
  else match Url.port? portText with
    | .error fault => .error (.url fault)
    | .ok port =>
      let authority := match port with
        | some _ => parts.authority
        | none => parts.authority ++ ':' :: (Nat.repr defaultPort).toList
      let path := dropSlashes parts.path
      let path := if apiPath.isSuffixOf path then path else path ++ apiPath
      .ok (parts.scheme ++ "://".toList ++ authority ++ path)

/-- `scheme://host:port/…/api/v3`, with the default scheme and port where none is written. -/
def normalize (endpoint : List Char) (https : Bool) : Except Fault (List Char) :=
  let endpoint := withScheme endpoint https
  match Url.split endpoint with
  | .error fault => .error (.url fault)
  | .ok parts => ofParts endpoint parts

end EdgeSession.BaseUrl
