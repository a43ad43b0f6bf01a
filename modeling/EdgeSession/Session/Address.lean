import EdgeSession.LogTail.Options
import EdgeSession.Text.Blank
import EdgeSession.Text.Search

/-!
Addresses of session websockets, made from the base address of the control plane.
-/
namespace EdgeSession.Address

open Text

/-- The base address with the websocket scheme in place of its own. A scheme counts only in lower
case; an address that has none of the four known ones gets one in front. -/
def websocketChars (base : List Char) : List Char :=
  let url := dropSlashes base
  match afterPrefix? "https://".toList url, afterPrefix? "http://".toList url with
  | some rest, _ => "wss://".toList ++ rest
  | none, some rest => "ws://".toList ++ rest
  | none, none =>
    if "ws://".toList.isPrefixOf url || "wss://".toList.isPrefixOf url then url
    else "ws://".toList ++ url

def websocket (base : String) : String := String.ofList (websocketChars base.toList)

def withOptions (url : String) (options : Option LogTail.Options) : String :=
  match options with
  | none => url
  | some options => url ++ "?" ++ options.query

def exec (base id : String) : String := websocket base ++ "/microservices/exec/" ++ id

def agentLogs (base id : String) (options : Option LogTail.Options) : String :=
  withOptions (websocket base ++ "/iofog/" ++ id ++ "/logs") options

def microserviceLogs (base id : String) (options : Option LogTail.Options) (system : Bool) :
    String :=
  let place := if system then "/microservices/system" else "/microservices"
  withOptions (websocket base ++ place ++ "/" ++ id ++ "/logs") options

end EdgeSession.Address
