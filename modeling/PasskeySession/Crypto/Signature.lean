import PasskeySession.Crypto.P256
import PasskeySession.Crypto.Sha256

/-! # Signatures

ECDSA over P-256 and SHA-256 with the nonces of RFC 6979, so that a key and a message have one signature. -/

namespace PasskeySession

/-- A secret key. -/
structure SigningKey where
  scalar : Nat
  positive : 1 ≤ scalar
  below : scalar < P256.order
  deriving DecidableEq

/-- A signature: two numbers above nought and below the order of the curve. -/
@[ext] structure Signature where
  r : Nat
  s : Nat
  rPositive : 1 ≤ r
  rBelow : r < P256.order
  sPositive : 1 ≤ s
  sBelow : s < P256.order
  deriving DecidableEq

namespace Signature

def ofPair? (r s : Nat) : Option Signature :=
  if h : (1 ≤ r ∧ r < P256.order) ∧ (1 ≤ s ∧ s < P256.order) then
    some ⟨r, s, h.1.1, h.1.2, h.2.1, h.2.2⟩
  else none

/-- The signature with the lesser of the two values of `s` that verify. -/
def low (g : Signature) : Signature :=
  if P256.order / 2 < g.s then
    { g with
      s := P256.order - g.s
      sPositive := by have := g.sBelow; omega
      sBelow := by have := g.sPositive; have := g.sBelow; omega }
  else g

/-- The signature of two ones, which no nonce is known to give. -/
def ones : Signature :=
  ⟨1, 1, by decide, by decide, by decide, by decide⟩

end Signature

namespace SigningKey

def ofBytes? (bs : Bytes) : Option SigningKey :=
  let n := BigEndian.toNat bs
  if h : 1 ≤ n ∧ n < P256.order then some ⟨n, h.1, h.2⟩ else none

def publicPoint (k : SigningKey) : Nat × Nat := (P256.Point.generator.multiple 256 k.scalar).affine

/-- The public point: a mark that both coordinates follow, and the coordinates. -/
def publicKey (k : SigningKey) : Bytes :=
  let (x, y) := k.publicPoint
  0x04 :: BigEndian.ofNat 32 x ++ BigEndian.ofNat 32 y

/-- The state from which nonces are drawn. -/
structure Drawer where
  key : Bytes
  value : Bytes

namespace Drawer

def absorb (d : Drawer) (material : Bytes) : Drawer :=
  let key := Sha256.keyed d.key (d.value ++ material)
  ⟨key, Sha256.keyed key d.value⟩

def start (k : SigningKey) (z : Nat) : Drawer :=
  let seed := BigEndian.ofNat 32 k.scalar ++ BigEndian.ofNat 32 z
  let d : Drawer := ⟨List.replicate 32 0, List.replicate 32 1⟩
  (d.absorb (0x00 :: seed)).absorb (0x01 :: seed)

def draw (d : Drawer) : Nat × Drawer :=
  let value := Sha256.keyed d.key d.value
  (BigEndian.toNat value, (⟨d.key, value⟩ : Drawer).absorb [0x00])

end Drawer

/-- The signature that a nonce gives, if it gives one. -/
def signWith? (k : SigningKey) (z nonce : Nat) : Option Signature :=
  if 1 ≤ nonce ∧ nonce < P256.order then
    let r := (P256.Point.generator.multiple 256 nonce).affine.1 % P256.order
    let s := P256.invert P256.order nonce * ((z + r * k.scalar) % P256.order) % P256.order
    Signature.ofPair? r s
  else none

/-- The signature of the first of so many nonces that gives one. -/
def firstSignature (k : SigningKey) (z : Nat) : (tries : Nat) → Drawer → Signature
  | 0, _ => .ones
  | tries + 1, d =>
    match k.signWith? z d.draw.1 with
    | some g => g
    | none => firstSignature k z tries d.draw.2

def sign (k : SigningKey) (message : Bytes) : Signature :=
  let z := BigEndian.toNat (Sha256.digest message) % P256.order
  k.firstSignature z 64 (.start k z)

end SigningKey
end PasskeySession
