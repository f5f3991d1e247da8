import PasskeySession.Crypto.Der

/-! # Signatures in DER read back

Each integer is written in its shortest form, and a field tells its length in one byte, so a signature is read
back from its bytes. -/

namespace PasskeySession

namespace BigEndian

/-- Noughts in front do not count. -/
theorem toNat_dropWhile (bs : Bytes) : toNat (bs.dropWhile (· == 0)) = toNat bs := by
  induction bs with
  | nil => rfl
  | cons b bs ih =>
    by_cases hb : b = 0
    · subst hb
      exact ih
    · rw [List.dropWhile_cons_of_neg (by simpa using hb)]

theorem head_ne_zero {bs ds : Bytes} {b : UInt8} (h : bs.dropWhile (· == 0) = b :: ds) : b ≠ 0 := by
  rintro rfl
  have := List.head?_dropWhile_not (· == 0) bs
  rw [h] at this
  cases this

end BigEndian

theorem P256.order_lt : order < Nat.pow 256 32 := by decide

namespace Der
variable {n : Nat} {bs : Bytes}

/-! ### Integers -/

theorem length_content (n : Nat) : 1 ≤ (content n).length ∧ (content n).length ≤ 33 := by
  have hlen : ((BigEndian.ofNat 32 n).dropWhile (· == 0)).length ≤ 32 := by
    have := (List.dropWhile_sublist (l := BigEndian.ofNat 32 n) (· == 0)).length_le
    rwa [BigEndian.length_ofNat] at this
  unfold content
  generalize (BigEndian.ofNat 32 n).dropWhile (· == 0) = digits at hlen
  cases digits with
  | nil => exact ⟨Nat.le_refl 1, by decide⟩
  | cons b bs =>
    rw [List.length_cons] at hlen
    dsimp only
    split <;> simp only [List.length_cons] <;> omega

/-- A number is read back from its shortest bytes. -/
theorem natural?_content (h : n < Nat.pow 256 32) : natural? (content n) = some n := by
  have hvalue : BigEndian.toNat ((BigEndian.ofNat 32 n).dropWhile (· == 0)) = n := by
    rw [BigEndian.toNat_dropWhile, BigEndian.toNat_ofNat, Nat.mod_eq_of_lt h]
  unfold content
  cases hdigits : (BigEndian.ofNat 32 n).dropWhile (· == 0) with
  | nil =>
    rw [hdigits] at hvalue
    exact congrArg some hvalue
  | cons b bs =>
    have hb := BigEndian.head_ne_zero hdigits
    rw [hdigits] at hvalue
    dsimp only
    by_cases hsign : b < 0x80
    · rw [if_pos hsign]
      cases bs with
      | nil =>
        rw [natural?, if_pos hsign, ← hvalue]
        exact congrArg some (Nat.zero_add b.toNat).symm
      | cons c bs => rw [natural?, if_neg hb, if_pos hsign, hvalue]
    · rw [if_neg hsign, natural?, if_pos rfl, if_pos (UInt8.not_lt.mp hsign), hvalue]

/-! ### Fields -/

/-- A field is read back from its tag, its length and its bytes, whatever follows. -/
theorem field?_eq (tag : UInt8) (h : bs.length < 128) (rest : Bytes) :
    field? tag (tag :: UInt8.ofNat bs.length :: (bs ++ rest)) = some (bs, rest) := by
  have hlen : (UInt8.ofNat bs.length).toNat = bs.length := UInt8.toNat_ofNat_of_lt' (by
    change bs.length < 256
    omega)
  have hshort : UInt8.ofNat bs.length < 0x80 := by
    rw [UInt8.lt_iff_toNat_lt, hlen]
    exact h
  rw [field?, hlen, if_pos ⟨rfl, hshort, by simp⟩, List.take_left, List.drop_left]

theorem field?_integer (n : Nat) (rest : Bytes) : field? 0x02 (integer n ++ rest) = some (content n, rest) := by
  have := (length_content n).2
  exact field?_eq 0x02 (by omega) rest

theorem length_integer (n : Nat) : (integer n).length ≤ 35 := by
  have := (length_content n).2
  rw [integer, List.length_cons, List.length_cons]
  omega

/-- A signature is read back from its bytes. -/
theorem decode?_encode (g : Signature) : decode? (encode g) = some g := by
  have hr := natural?_content (Nat.lt_trans g.rBelow P256.order_lt)
  have hs := natural?_content (Nat.lt_trans g.sBelow P256.order_lt)
  have hbody : (integer g.r ++ integer g.s).length < 128 := by
    have := length_integer g.r
    have := length_integer g.s
    rw [List.length_append]
    omega
  have houter := field?_eq 0x30 hbody []
  have hsecond := field?_integer g.s []
  rw [List.append_nil] at houter hsecond
  have hpair : Signature.ofPair? g.r g.s = some g := dif_pos ⟨⟨g.rPositive, g.rBelow⟩, g.sPositive, g.sBelow⟩
  rw [decode?, encode]
  dsimp only
  simp only [houter, field?_integer, hsecond, hr, hs, hpair, Option.bind_eq_bind, Option.bind_some, List.isEmpty_nil,
    Bool.and_self, if_true]

end Der
end PasskeySession
