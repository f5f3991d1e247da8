import PasskeySession.Crypto.Signature

/-! # Signatures in DER

A sequence of two integers, each in its shortest form. Reading accepts nothing but what writing gives. -/

namespace PasskeySession.Der

/-- The shortest bytes of a number, with a nought before a first byte that would look like a sign. -/
def content (n : Nat) : Bytes :=
  let digits := (BigEndian.ofNat 32 n).dropWhile (· == 0)
  match digits with
  | [] => [0]
  | b :: bs => if b < 0x80 then b :: bs else 0 :: b :: bs

/-- An integer: its tag, its length and its bytes. -/
def integer (n : Nat) : Bytes := 0x02 :: UInt8.ofNat (content n).length :: content n

def encode (g : Signature) : Bytes :=
  let body := integer g.r ++ integer g.s
  0x30 :: UInt8.ofNat body.length :: body

/-- The bytes of a field of at most 127 bytes with a given tag, and the bytes after it. -/
def field? (tag : UInt8) : Bytes → Option (Bytes × Bytes)
  | t :: n :: bs =>
    if t = tag ∧ n < 0x80 ∧ n.toNat ≤ bs.length then some (bs.take n.toNat, bs.drop n.toNat) else none
  | _ => none

def natural? : Bytes → Option Nat
  | [] => none
  | [b] => if b < 0x80 then some b.toNat else none
  | b :: c :: bs =>
    if b = 0 then if 0x80 ≤ c then some (BigEndian.toNat (c :: bs)) else none
    else if b < 0x80 then some (BigEndian.toNat (b :: c :: bs)) else none

def decode? (bs : Bytes) : Option Signature := do
  let (body, rest) ← field? 0x30 bs
  let (r, body) ← field? 0x02 body
  let (s, body) ← field? 0x02 body
  if rest.isEmpty && body.isEmpty then Signature.ofPair? (← natural? r) (← natural? s) else none

end PasskeySession.Der
