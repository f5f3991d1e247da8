import PasskeySession.Text.Hex

/-! # UTF-8

Bytes as characters: `Utf8.scan` splits bytes into the characters they spell and the longest pieces that
begin no character. A text is exact when there is no such piece; the lossy reading puts the
replacement character in the place of each. -/

namespace PasskeySession.Text

def utf8 (cs : List Char) : Bytes := cs.flatMap String.utf8EncodeChar

namespace Utf8

/-- The bounds of the second byte and the number of further bytes that a first byte above 0x7F asks for. -/
def shape? (b : UInt8) : Option (Nat × Nat × Nat) :=
  let n := b.toNat
  if 0xC2 ≤ n ∧ n ≤ 0xDF then some (0x80, 0xBF, 1)
  else if n = 0xE0 then some (0xA0, 0xBF, 2)
  else if n = 0xED then some (0x80, 0x9F, 2)
  else if 0xE1 ≤ n ∧ n ≤ 0xEF then some (0x80, 0xBF, 2)
  else if n = 0xF0 then some (0x90, 0xBF, 3)
  else if 0xF1 ≤ n ∧ n ≤ 0xF3 then some (0x80, 0xBF, 3)
  else if n = 0xF4 then some (0x80, 0x8F, 3)
  else none

/-- The payload bits of a first byte that is followed by the given number of bytes. -/
def leadBits (b : UInt8) (more : Nat) : Nat := b.toNat % Nat.pow 2 (6 - more)

/-- Takes up to `more` continuation bytes, the next one within the given bounds. -/
def continuation (low high : Nat) : (more : Nat) → (acc : Nat) → Bytes → Option Nat × Bytes
  | 0, acc, bs => (some acc, bs)
  | _ + 1, _, [] => (none, [])
  | more + 1, acc, b :: bs =>
    if low ≤ b.toNat ∧ b.toNat ≤ high then
      continuation 0x80 0xBF more (acc * 64 + b.toNat % 64) bs
    else (none, b :: bs)

/-- The first character, or none for the longest piece that begins no character, and the bytes after it. -/
def next (b : UInt8) (bs : Bytes) : Option Char × Bytes :=
  if b.toNat < 0x80 then (some (Char.ofNat b.toNat), bs)
  else match shape? b with
    | none => (none, bs)
    | some (low, high, more) =>
      match continuation low high more (leadBits b more) bs with
      | (some n, rest) => (some (Char.ofNat n), rest)
      | (none, rest) => (none, rest)

theorem length_continuation (low high more acc : Nat) (bs : Bytes) :
    (continuation low high more acc bs).2.length ≤ bs.length := by
  induction more generalizing low high acc bs with
  | zero => simp [continuation]
  | succ more ih =>
    cases bs with
    | nil => simp [continuation]
    | cons b bs =>
      rw [continuation]
      split
      · exact Nat.le_trans (ih ..) (by simp)
      · simp

theorem length_next (b : UInt8) (bs : Bytes) : (next b bs).2.length ≤ bs.length := by
  rw [next]
  split
  · simp
  · split
    · simp
    · rename_i low high more _
      have := length_continuation low high more (leadBits b more) bs
      split <;> simp_all

/-- The characters that the bytes spell, with none for each piece that spells none. -/
def scan : Bytes → List (Option Char)
  | [] => []
  | b :: bs => (next b bs).1 :: scan (next b bs).2
termination_by bs => bs.length
decreasing_by
  have := length_next b bs
  simp only [List.length_cons]
  omega

def decode? (bs : Bytes) : Option (List Char) := (scan bs).mapM id

/-- The text of any bytes, with the replacement character for each piece that spells none. -/
def decodeLossy (bs : Bytes) : List Char := (scan bs).map (·.getD '\uFFFD')

end Utf8
end PasskeySession.Text
