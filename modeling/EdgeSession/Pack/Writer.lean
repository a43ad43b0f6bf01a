import EdgeSession.Pack.Value
import EdgeSession.Text.Utf8

/-!
Writing MessagePack, each value in the shortest form that holds it.
-/
namespace EdgeSession.Pack

/-- Integers of the format: from -2^63 to 2^64 - 1. -/
def Encodable (n : Int) : Prop := -0x8000000000000000 ≤ n ∧ n < 0x10000000000000000

instance (n : Int) : Decidable (Encodable n) := inferInstanceAs (Decidable (_ ∧ _))

def packInt (n : Int) : Bytes :=
  if 0 ≤ n then
    let m := n.toNat
    if m < 0x80 then [UInt8.ofNat m]
    else if m < 0x100 then 0xCC :: Bytes.ofNat 1 m
    else if m < 0x10000 then 0xCD :: Bytes.ofNat 2 m
    else if m < 0x100000000 then 0xCE :: Bytes.ofNat 4 m
    else 0xCF :: Bytes.ofNat 8 m
  else if -0x20 ≤ n then [UInt8.ofNat (n + 256).toNat]
  else if -0x80 ≤ n then 0xD0 :: Bytes.ofNat 1 (n + 256).toNat
  else if -0x8000 ≤ n then 0xD1 :: Bytes.ofNat 2 (n + 65536).toNat
  else if -0x80000000 ≤ n then 0xD2 :: Bytes.ofNat 4 (n + 4294967296).toNat
  else 0xD3 :: Bytes.ofNat 8 (n + 18446744073709551616).toNat

def strHeader (length : Nat) : Bytes :=
  if length < 0x20 then [UInt8.ofNat (0xA0 + length)]
  else if length < 0x100 then 0xD9 :: Bytes.ofNat 1 length
  else if length < 0x10000 then 0xDA :: Bytes.ofNat 2 length
  else 0xDB :: Bytes.ofNat 4 length

def binHeader (length : Nat) : Bytes :=
  if length < 0x100 then 0xC4 :: Bytes.ofNat 1 length
  else if length < 0x10000 then 0xC5 :: Bytes.ofNat 2 length
  else 0xC6 :: Bytes.ofNat 4 length

def packStr (s : List Char) : Bytes :=
  let text := Utf8.encodeChars s
  strHeader text.length ++ text

def packBin (data : Bytes) : Bytes := binHeader data.length ++ data

end EdgeSession.Pack
