import PasskeySession.Text.Hex
import PasskeySession.Text.Blank

/-! # Base64url

Three bytes are four characters of an alphabet that is safe in addresses. Writing leaves the padding out;
reading takes it or leaves it, but nothing else: each sequence of bytes has one spelling with padding and one
without. -/

namespace PasskeySession.Text.Base64Url

def digit (n : Nat) : Char :=
  if n < 26 then Char.ofNat (65 + n)
  else if n < 52 then Char.ofNat (71 + n)
  else if n < 62 then Char.ofNat (n - 4)
  else if n = 62 then '-' else '_'

def value? (c : Char) : Option Nat :=
  let n := c.toNat
  if 65 ≤ n ∧ n ≤ 90 then some (n - 65)
  else if 97 ≤ n ∧ n ≤ 122 then some (n - 71)
  else if 48 ≤ n ∧ n ≤ 57 then some (n + 4)
  else if c = '-' then some 62
  else if c = '_' then some 63
  else none

/-- The characters of a sequence of bytes, without padding. -/
def encode : Bytes → List Char
  | [] => []
  | [a] => [digit (a.toNat / 4), digit (a.toNat % 4 * 16)]
  | [a, b] => [digit (a.toNat / 4), digit (a.toNat % 4 * 16 + b.toNat / 16), digit (b.toNat % 16 * 4)]
  | a :: b :: c :: bs =>
    digit (a.toNat / 4) :: digit (a.toNat % 4 * 16 + b.toNat / 16) ::
      digit (b.toNat % 16 * 4 + c.toNat / 64) :: digit (c.toNat % 64) :: encode bs

/-- The bytes of a spelling without padding. The bits left over at its end are nought. -/
def decodeBare? : List Char → Option Bytes
  | [] => some []
  | [_] => none
  | [a, b] => do
    let x ← value? a
    let y ← value? b
    if y % 16 = 0 then some [UInt8.ofNat (x * 4 + y / 16)] else none
  | [a, b, c] => do
    let x ← value? a
    let y ← value? b
    let z ← value? c
    if z % 4 = 0 then some [UInt8.ofNat (x * 4 + y / 16), UInt8.ofNat (y % 16 * 16 + z / 4)] else none
  | a :: b :: c :: d :: cs => do
    let x ← value? a
    let y ← value? b
    let z ← value? c
    let w ← value? d
    let bs ← decodeBare? cs
    some (UInt8.ofNat (x * 4 + y / 16) :: UInt8.ofNat (y % 16 * 16 + z / 4) :: UInt8.ofNat (z % 4 * 64 + w) :: bs)

/-- The bytes of a spelling; one that ends with padding is padded to a multiple of four. -/
def decodeChars? (cs : List Char) : Option Bytes :=
  let bare := dropEndWhile (· == '=') cs
  let padding := cs.length - bare.length
  if padding = 0 then decodeBare? cs
  else if padding ≤ 2 ∧ cs.length % 4 = 0 then decodeBare? bare
  else none

/-- The bytes of a text, without the white space around it. -/
def decode? (text : String) : Option Bytes := decodeChars? (trim text.toList)

def encodeText (bs : Bytes) : String := String.ofList (encode bs)

end PasskeySession.Text.Base64Url
