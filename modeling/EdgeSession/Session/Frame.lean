import EdgeSession.Pack.JsonWriter
import EdgeSession.Pack.Reader
import EdgeSession.Session.Failure
import EdgeSession.Session.Message

/-!
Frames: a message as one MessagePack map from field names to values. Names make a frame open for
growth: a reader passes over fields that it does not know, and takes a missing one for its default.
-/
namespace EdgeSession.Frame

open Pack

/-- The largest payload of a message. -/
def maxPayload : Nat := 1024 * 1024

/-- The largest frame that a connection takes: a payload and room for what is around it. -/
def maxSize : Nat := maxPayload + 64 * 1024

namespace Field

def type : List Char := "type".toList
def data : List Char := "data".toList
def target : List Char := "microserviceUuid".toList
def session : List Char := "execId".toList
def timestamp : List Char := "timestamp".toList

end Field

def sizeText (length : Nat) : String :=
  s!"payload size {length} exceeds maximum allowed size of {maxPayload} bytes"

/-- Why a message has no frame. -/
inductive EncodeFault
  | oversized (length : Nat)
  /-- A number outside of the integers of the format. -/
  | outOfRange
  /-- A text of 2^32 bytes or more, or an id that is longer or deeper than the format allows. -/
  | tooLong
  deriving DecidableEq, Repr

def EncodeFault.ofWrite : WriteFault → EncodeFault
  | .outOfRange => .outOfRange
  | .tooLong | .tooDeep => .tooLong

/-- A text that the format can carry. -/
def fits (s : String) : Bool := (Utf8.encodeChars s.toList).length < 0x100000000

/-- A frame of a message, with these bytes for its target. -/
def bytesUnder (target : Bytes) (m : Message) : Bytes :=
  0x85 ::
    (packStr Field.type ++ packInt m.type ++
      (packStr Field.data ++ packBin m.data ++
        (packStr Field.target ++ target ++
          (packStr Field.session ++ packStr m.session.toList ++
            (packStr Field.timestamp ++ packInt m.timestamp)))))

def bytesOf (m : Message) : Bytes := bytesUnder (packStr m.target.toList) m

/-- Writes a message, all five fields in a fixed order. -/
def encode (m : Message) : Except EncodeFault Bytes :=
  if m.data.length > maxPayload then .error (.oversized m.data.length)
  else if ¬Encodable m.type then .error .outOfRange
  else if !(fits m.target && fits m.session) then .error .tooLong
  else if ¬Encodable m.timestamp then .error .outOfRange
  else .ok (bytesOf m)

/-- Writes a message with a value of JSON for its target. -/
def encodeUnder (target : Json) (m : Message) : Except EncodeFault Bytes :=
  if m.data.length > maxPayload then .error (.oversized m.data.length)
  else if ¬Encodable m.type then .error .outOfRange
  else
    match writeJson target (maxWritten - 1) with
    | .error fault => .error (.ofWrite fault)
    | .ok target =>
      if !fits m.session then .error .tooLong
      else if ¬Encodable m.timestamp then .error .outOfRange
      else .ok (bytesUnder target m)

/-- Why a frame is no message. -/
inductive DecodeFault
  | malformed (fault : Pack.Fault)
  | notMap (kind : String)
  | invalidType (value : Value)
  | unknownType (n : Int)
  | invalidData (kind : String)
  | oversized (length : Nat)
  | invalidTimestamp (value : Value)
  | invalidId (field : List Char) (value : Value)
  deriving DecidableEq, Repr

def malformedText (reason : String) : String := "failed to decode MessagePack data: " ++ reason

def DecodeFault.message : DecodeFault → String
  | .malformed fault => malformedText fault.message
  | .notMap kind => malformedText ("expected map, got " ++ kind)
  | .invalidType value => "invalid message type: " ++ value.display
  | .unknownType n => s!"unknown message type: {n}"
  | .invalidData kind => "invalid message data: " ++ kind
  | .oversized length => sizeText length
  | .invalidTimestamp value => "invalid message timestamp: " ++ value.display
  | .invalidId field value => "invalid " ++ String.ofList field ++ ": " ++ value.display

/-- The failure that ends a session after such a frame. -/
def DecodeFault.failure (fault : DecodeFault) : Failure :=
  match fault with
  | .oversized _ => .oversized fault.message
  | _ => .undecodable fault.message

/-- A type that is missing is 0; any other has to be the number of a known kind. -/
def readType (fields : List (Value × Value)) : Except DecodeFault Int :=
  match Value.lookup (.str Field.type) fields with
  | none => .ok 0
  | some (.int n) => if (Kind.ofCode? n).isSome then .ok n else .error (.unknownType n)
  | some value => .error (.invalidType value)

/-- A payload may be a text, which stands for its UTF-8 bytes. -/
def readData (fields : List (Value × Value)) : Except DecodeFault Bytes :=
  let checked (data : Bytes) : Except DecodeFault Bytes :=
    if data.length > maxPayload then .error (.oversized data.length) else .ok data
  match Value.lookup (.str Field.data) fields with
  | none | some .nil => .ok []
  | some (.str s) => checked (Utf8.encodeChars s)
  | some (.bin data) => checked data
  | some value => .error (.invalidData value.kindName)

/-- Whatever counts as absent is taken for a time of 0. -/
def readTimestamp (fields : List (Value × Value)) : Except DecodeFault Int :=
  match Value.lookup (.str Field.timestamp) fields with
  | none => .ok 0
  | some value =>
    if value.isTruthy then
      match value with
      | .int n => .ok n
      | _ => .error (.invalidTimestamp value)
    else .ok 0

/-- An id may be binary, which is read as UTF-8 with U+FFFD for what is not. -/
def readId (field : List Char) (fields : List (Value × Value)) : Except DecodeFault String :=
  match Value.lookup (.str field) fields with
  | none | some .nil => .ok ""
  | some (.str s) => .ok (String.ofList s)
  | some (.bin bytes) => .ok (String.ofList (Utf8.decodeLossy bytes))
  | some value => .error (.invalidId field value)

/-- Reads a frame; the fields are judged in the order type, data, timestamp, ids. -/
def decode (frame : Bytes) : Except DecodeFault Message :=
  match unpack frame with
  | .error fault => .error (.malformed fault)
  | .ok (.map fields) => do
    let type ← readType fields
    let data ← readData fields
    let timestamp ← readTimestamp fields
    let target ← readId Field.target fields
    let session ← readId Field.session fields
    return { type, data, target, session, timestamp }
  | .ok value => .error (.notMap value.kindName)

end EdgeSession.Frame
