import PasskeySession.Crypto.BigEndian
import PasskeySession.Text.Utf8

/-! # CBOR

The part of CBOR that attestation objects and public keys need: integers, bytes, texts and maps, each with
the shortest head. -/

namespace PasskeySession

/-- A data item. -/
inductive Cbor
  | natural (n : Nat)
  /-- The number `-1 - n`. -/
  | negative (n : Nat)
  | bytes (bs : Bytes)
  | text (cs : List Char)
  | map (entries : List (Cbor × Cbor))

namespace Cbor

/-- The head of an item: its major type and a number. -/
def head (major : Nat) (n : Nat) : Bytes :=
  let lead (low : Nat) : UInt8 := UInt8.ofNat (major * 32 + low)
  if n < 24 then [lead n]
  else if n < 0x100 then lead 24 :: BigEndian.ofNat 1 n
  else if n < 0x10000 then lead 25 :: BigEndian.ofNat 2 n
  else if n < 0x100000000 then lead 26 :: BigEndian.ofNat 4 n
  else lead 27 :: BigEndian.ofNat 8 n

mutual

def encode : Cbor → Bytes
  | natural n => head 0 n
  | negative n => head 1 n
  | bytes bs => head 2 bs.length ++ bs
  | text cs => head 3 (Text.utf8 cs).length ++ Text.utf8 cs
  | map entries => head 5 entries.length ++ encodeEntries entries

def encodeEntries : List (Cbor × Cbor) → Bytes
  | [] => []
  | (key, value) :: entries => encode key ++ encode value ++ encodeEntries entries

end
end Cbor
end PasskeySession
