import EdgeSession.Text.Base64
import EdgeSession.Text.Utf8

/-!
Passwords are stored in Base64. A stored text that is not the Base64 of UTF-8 is taken for a
password in the clear, as older files have it.
-/
namespace EdgeSession.Config

def encodePassword (password : String) : String :=
  String.ofList (Base64.encode (Utf8.encode password))

/-- The password that a stored text stands for; none when the text is not ASCII, which Base64 does
not read at all. -/
def rawPassword? (stored : String) : Option String :=
  if stored.toList.all fun c => c.toNat < 0x80 then
    match (Base64.decode? stored.toList).map Utf8.decode? with
    | some (.ok password) => some (String.ofList password)
    | _ => some stored
  else none

end EdgeSession.Config
