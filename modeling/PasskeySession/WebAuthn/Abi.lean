import PasskeySession.Crypto.BigEndian

/-! # Contract arguments

A tuple of arguments for a contract: words of thirty-two bytes for its numbers and for the places of its
byte strings, and the byte strings after them, each with its length before it and noughts behind it. -/

namespace PasskeySession.Abi

/-- An argument. -/
inductive Value
  | uint (n : Nat)
  | bytes (bs : Bytes)
  deriving DecidableEq

/-- The kind of an argument. -/
inductive Kind
  | uint
  | bytes
  deriving DecidableEq, Repr

def word (n : Nat) : Bytes := BigEndian.ofNat 32 n

/-- The least multiple of thirty-two that is not below a length. -/
def paddedLength (length : Nat) : Nat := (length + 31) / 32 * 32

/-- A byte string with its length and its padding. -/
def tail (bs : Bytes) : Bytes :=
  word bs.length ++ bs ++ List.replicate (paddedLength bs.length - bs.length) 0

/-- The words of a tuple whose next byte string is to stand at `place`. -/
def heads : (place : Nat) → List Value → Bytes
  | _, [] => []
  | place, .uint n :: vs => word n ++ heads place vs
  | place, .bytes bs :: vs => word place ++ heads (place + 32 + paddedLength bs.length) vs

def tails : List Value → Bytes
  | [] => []
  | .uint _ :: vs => tails vs
  | .bytes bs :: vs => tail bs ++ tails vs

def encode (vs : List Value) : Bytes := heads (32 * vs.length) vs ++ tails vs

/-! ### Reading -/

def wordAt? (bs : Bytes) (place : Nat) : Option Nat :=
  let w := (bs.drop place).take 32
  if w.length = 32 then some (BigEndian.toNat w) else none

def bytesAt? (bs : Bytes) (place : Nat) : Option Bytes := do
  let length ← wordAt? bs place
  let content := (bs.drop (place + 32)).take length
  if content.length = length then some content else none

/-- The arguments of given kinds whose words begin at a place. -/
def decodeFrom? (bs : Bytes) : (place : Nat) → List Kind → Option (List Value)
  | _, [] => some []
  | place, .uint :: ks => do
    let n ← wordAt? bs place
    let vs ← decodeFrom? bs (place + 32) ks
    some (.uint n :: vs)
  | place, .bytes :: ks => do
    let content ← bytesAt? bs (← wordAt? bs place)
    let vs ← decodeFrom? bs (place + 32) ks
    some (.bytes content :: vs)

def decode? (kinds : List Kind) (bs : Bytes) : Option (List Value) := decodeFrom? bs 0 kinds

end PasskeySession.Abi
