import EdgeSession.Bytes

/-!
UTF-8. Reading goes one scalar value at a time and, where the bytes are ill-formed, says how many
of them are to blame and why: the longest part that a well-formed sequence could have started with.
A strict reader stops there with the position, a lenient one writes U+FFFD and goes on behind it.
-/
namespace EdgeSession.Utf8

/-- The UTF-8 form of one scalar value. -/
def encodeChar (c : Char) : Bytes :=
  let n := c.toNat
  if n < 0x80 then [UInt8.ofNat n]
  else if n < 0x800 then [UInt8.ofNat (0xC0 + n / 64), UInt8.ofNat (0x80 + n % 64)]
  else if n < 0x10000 then
    [UInt8.ofNat (0xE0 + n / 4096), UInt8.ofNat (0x80 + n / 64 % 64), UInt8.ofNat (0x80 + n % 64)]
  else
    [UInt8.ofNat (0xF0 + n / 262144), UInt8.ofNat (0x80 + n / 4096 % 64),
      UInt8.ofNat (0x80 + n / 64 % 64), UInt8.ofNat (0x80 + n % 64)]

def encodeChars (cs : List Char) : Bytes := cs.flatMap encodeChar

def encode (s : String) : Bytes := encodeChars s.toList

/-- Why bytes are not UTF-8. -/
inductive Defect
  | start
  | continuation
  | truncated
  deriving DecidableEq, Repr

/-- One step of reading: a scalar value, or the number of bytes that cannot be read. -/
inductive Step
  | char (c : Char)
  | bad (count : Nat) (defect : Defect)
  deriving DecidableEq, Repr

def isTail (b : UInt8) : Bool := 0x80 ≤ b && b ≤ 0xBF

def low (b : UInt8) : Nat := b.toNat % 64

/-- Which second bytes may follow a lead byte: overlong forms, surrogates and values above
U+10FFFF are refused here. -/
def isSecond (lead b : UInt8) : Bool :=
  if lead == 0xE0 then 0xA0 ≤ b && b ≤ 0xBF
  else if lead == 0xED then 0x80 ≤ b && b ≤ 0x9F
  else if lead == 0xF0 then 0x90 ≤ b && b ≤ 0xBF
  else if lead == 0xF4 then 0x80 ≤ b && b ≤ 0x8F
  else isTail b

/-- Reads the sequence that `lead` starts; what follows it goes with the step. -/
def stepFrom (lead : UInt8) (rest : Bytes) : Step × Bytes :=
  if lead < 0x80 then (.char (Char.ofNat lead.toNat), rest)
  else if lead < 0xC2 then (.bad 1 .start, rest)
  else if lead < 0xE0 then
    match rest with
    | [] => (.bad 1 .truncated, [])
    | b :: after =>
      if isTail b then (.char (Char.ofNat (lead.toNat % 32 * 64 + low b)), after)
      else (.bad 1 .continuation, rest)
  else if lead < 0xF0 then
    match rest with
    | [] => (.bad 1 .truncated, [])
    | b :: after =>
      if !isSecond lead b then (.bad 1 .continuation, rest)
      else match after with
        | [] => (.bad 2 .truncated, [])
        | c :: after' =>
          if isTail c then
            (.char (Char.ofNat (lead.toNat % 16 * 4096 + low b * 64 + low c)), after')
          else (.bad 2 .continuation, after)
  else if lead < 0xF5 then
    match rest with
    | [] => (.bad 1 .truncated, [])
    | b :: after =>
      if !isSecond lead b then (.bad 1 .continuation, rest)
      else match after with
        | [] => (.bad 2 .truncated, [])
        | c :: after' =>
          if !isTail c then (.bad 2 .continuation, after)
          else match after' with
            | [] => (.bad 3 .truncated, [])
            | d :: after'' =>
              if isTail d then
                (.char (Char.ofNat
                  (lead.toNat % 8 * 262144 + low b * 4096 + low c * 64 + low d)), after'')
              else (.bad 3 .continuation, after')
  else (.bad 1 .start, rest)

theorem stepFrom_length (lead : UInt8) (rest : Bytes) :
    (stepFrom lead rest).2.length ≤ rest.length := by
  unfold stepFrom
  repeat' split
  all_goals simp_all
  all_goals omega

/-- Where and why a byte string is not UTF-8: `count` bytes from `position` on, the first of them
`byte`. -/
structure Fault where
  position : Nat
  count : Nat
  byte : UInt8
  defect : Defect
  deriving DecidableEq, Repr

/-- How many bytes a well-formed sequence has by its first byte. -/
def width (lead : UInt8) : Nat :=
  if lead < 0x80 then 1 else if lead < 0xE0 then 2 else if lead < 0xF0 then 3 else 4

def decodeFrom (position : Nat) (acc : List Char) : Bytes → Except Fault (List Char)
  | [] => .ok acc.reverse
  | lead :: rest =>
    match h : stepFrom lead rest with
    | (.char c, after) =>
      have := stepFrom_length lead rest
      have : after.length ≤ rest.length := by simpa [h] using this
      decodeFrom (position + width lead) (c :: acc) after
    | (.bad count defect, _) => .error ⟨position, count, lead, defect⟩
  termination_by bytes => bytes.length

/-- Strict reading. -/
def decode? (bytes : Bytes) : Except Fault (List Char) := decodeFrom 0 [] bytes

def decodeLossyFrom (acc : List Char) : Bytes → List Char
  | [] => acc.reverse
  | lead :: rest =>
    match h : stepFrom lead rest with
    | (step, after) =>
      have := stepFrom_length lead rest
      have : after.length ≤ rest.length := by simpa [h] using this
      decodeLossyFrom ((match step with | .char c => c | .bad _ _ => '\uFFFD') :: acc) after
  termination_by bytes => bytes.length

/-- Lenient reading: each ill-formed part becomes one U+FFFD. -/
def decodeLossy (bytes : Bytes) : List Char := decodeLossyFrom [] bytes

end EdgeSession.Utf8
