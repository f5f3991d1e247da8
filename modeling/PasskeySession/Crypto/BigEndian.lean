import PasskeySession.Text.Hex

/-! # Numbers as bytes

The most significant byte stands first. -/

namespace PasskeySession.BigEndian

def toNat (bs : Bytes) : Nat := bs.foldl (fun n b => n * 256 + b.toNat) 0

/-- The last bytes of a number, as many as are asked for. -/
def ofNat : (length n : Nat) → Bytes
  | 0, _ => []
  | length + 1, n => ofNat length (n / 256) ++ [UInt8.ofNat n]

theorem length_ofNat (length n : Nat) : (ofNat length n).length = length := by
  induction length generalizing n with
  | zero => rfl
  | succ length ih => simp [ofNat, ih]

theorem toNat_append_singleton (bs : Bytes) (b : UInt8) : toNat (bs ++ [b]) = toNat bs * 256 + b.toNat := by
  simp [toNat]

theorem toNat_ofNat (length n : Nat) : toNat (ofNat length n) = n % Nat.pow 256 length := by
  induction length generalizing n with
  | zero => exact (Nat.mod_one n).symm
  | succ length ih =>
    have step : Nat.pow 256 (length + 1) = 256 * Nat.pow 256 length := Nat.mul_comm _ _
    rw [ofNat, toNat_append_singleton, ih, step, Nat.mod_mul, UInt8.toNat_ofNat']
    omega

end PasskeySession.BigEndian
