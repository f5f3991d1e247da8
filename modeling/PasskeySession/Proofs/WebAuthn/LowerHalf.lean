import PasskeySession.Proofs.Crypto.Canonical
import PasskeySession.Proofs.WebAuthn.Authenticator

/-! # Signatures in the lower half

A signature verifies with either sign of `s`. Main statement: bytes are taken for a signature exactly if they
write two numbers in its range by the rules of DER, and both signs of `s` come out as the lesser one, so
whoever changes the sign, the length or anything else about the bytes changes nothing or is refused. -/

namespace PasskeySession.Signature
open Der (IsPair)
variable {bs other : Bytes} {g h : Signature} {r s : ℤ}

/-- The numbers that a signature may have. -/
def InRange (z : ℤ) : Prop := 1 ≤ z ∧ z ≤ P256.order - 1

theorem inRange (g : Signature) : InRange g.r ∧ InRange g.s := by
  have := g.rPositive
  have := g.rBelow
  have := g.sPositive
  have := g.sBelow
  unfold InRange
  omega

/-- Two numbers in the range are those of a signature. -/
theorem exists_of_inRange (hr : InRange r) (hs : InRange s) : ∃ g : Signature, (g.r : ℤ) = r ∧ (g.s : ℤ) = s := by
  obtain ⟨r, rfl⟩ := Int.eq_ofNat_of_zero_le (Int.le_trans Int.one_nonneg hr.1)
  obtain ⟨s, rfl⟩ := Int.eq_ofNat_of_zero_le (Int.le_trans Int.one_nonneg hs.1)
  unfold InRange at hr hs
  exact ⟨⟨r, s, by omega, by omega, by omega, by omega⟩, rfl, rfl⟩

theorem inRange_neg : InRange (P256.order - s) ↔ InRange s := by
  unfold InRange
  omega

/-! ### The lesser sign -/

theorem low_s (g : Signature) : g.low.s = min g.s (P256.order - g.s) := by
  unfold low
  split
  · dsimp only
    omega
  · omega

/-- Both signs of `s` have the same lesser one. -/
theorem low_eq_low (hr : g.r = h.r) (hs : g.s = P256.order - h.s) : g.low = h.low := by
  have := h.sBelow
  refine Signature.ext (g.isLow.r.trans (hr.trans h.isLow.r.symm)) ?_
  rw [low_s, low_s]
  omega

theorem low_low (g : Signature) : g.low.low = g.low := by
  have := g.sBelow
  refine Signature.ext g.low.isLow.r ?_
  rw [low_s, low_s]
  omega

/-! ### Reading -/

theorem ofDer_of_isPair (hpair : IsPair bs g.r g.s) : ofDer bs = .ok g.low := by
  rw [ofDer, Der.decode?_eq_some_iff.mpr hpair]

theorem isPair_of_ofDer (hok : ofDer bs = .ok h) : ∃ g : Signature, IsPair bs g.r g.s ∧ h = g.low := by
  unfold ofDer at hok
  split at hok
  · rename_i g hg
    exact ⟨g, Der.isPair_of_decode? hg, (Except.ok.inj hok).symm⟩
  · cases hok

theorem ofDer_of_not_isPair (hnone : ∀ g : Signature, ¬ IsPair bs g.r g.s) :
    ofDer bs = .error (.invalidAssertion .badSignature) := by
  unfold ofDer
  split
  · rename_i g hg
    exact absurd (Der.isPair_of_decode? hg) (hnone g)
  · rfl

/-- Two numbers in the range, by the rules of DER. -/
def IsWritten (bs : Bytes) : Prop := ∃ r s, IsPair bs r s ∧ InRange r ∧ InRange s

theorem isWritten_iff : IsWritten bs ↔ ∃ g : Signature, IsPair bs g.r g.s := by
  constructor
  · rintro ⟨r, s, hpair, hr, hs⟩
    obtain ⟨g, rfl, rfl⟩ := exists_of_inRange hr hs
    exact ⟨g, hpair⟩
  · rintro ⟨g, hpair⟩
    exact ⟨g.r, g.s, hpair, g.inRange⟩

theorem ofDer_of_not_isWritten (hnot : ¬ IsWritten bs) : ofDer bs = .error (.invalidAssertion .badSignature) :=
  ofDer_of_not_isPair (not_exists.mp (mt isWritten_iff.mpr hnot))

theorem ofDer_mirrored (hbs : IsPair bs r s) (hother : IsPair other r (P256.order - s)) : ofDer other = ofDer bs := by
  by_cases hrange : InRange r ∧ InRange s
  · obtain ⟨g, rfl, rfl⟩ := exists_of_inRange hrange.1 hrange.2
    obtain ⟨h, hr, hs⟩ := exists_of_inRange hrange.1 (inRange_neg.mpr hrange.2)
    have hlow : h.low = g.low := low_eq_low (by omega) (by omega)
    rw [ofDer_of_isPair hbs, ← hlow]
    rw [← hr, ← hs] at hother
    exact ofDer_of_isPair hother
  · have hbs' : ¬ IsWritten bs := by
      rintro ⟨r', s', hpair, hr, hs⟩
      obtain ⟨rfl, rfl⟩ := hbs.inj hpair
      exact hrange ⟨hr, hs⟩
    have hother' : ¬ IsWritten other := by
      rintro ⟨r', s', hpair, hr, hs⟩
      obtain ⟨rfl, rfl⟩ := hother.inj hpair
      exact hrange ⟨hr, inRange_neg.mp hs⟩
    rw [ofDer_of_not_isWritten hbs', ofDer_of_not_isWritten hother']

theorem toNat_word {n : Nat} (hn : n < Nat.pow 256 32) : BigEndian.toNat (Abi.word n) = n := by
  rw [Abi.word, BigEndian.toNat_ofNat, Nat.mod_eq_of_lt hn]

/-- What is read from the bytes of a signature. -/
structure Read (bs : Bytes) : Prop where
  /-- Bytes are a signature if they write two numbers in its range by the rules of DER. -/
  accepted_iff : (∃ g, ofDer bs = .ok g) ↔ IsWritten bs
  refused : ¬ IsWritten bs → ofDer bs = .error (.invalidAssertion .badSignature)
  /-- The words of 32 bytes that are sent have the first number and the lesser sign of the second. -/
  words : ∀ r s g, IsPair bs r s → ofDer bs = .ok g →
    ((Abi.word g.r).length = 32 ∧ BigEndian.toNat (Abi.word g.r) = r) ∧
      (Abi.word g.s).length = 32 ∧ BigEndian.toNat (Abi.word g.s) = min s (P256.order - s)
  lower : ∀ g, ofDer bs = .ok g → g.s ≤ P256.order / 2
  /-- The sign of `s` makes no difference. -/
  mirrored : ∀ r s other, IsPair bs r s → IsPair other r (P256.order - s) → ofDer other = ofDer bs
  /-- What was read is written by the rules, and read as it is. -/
  again : ∀ g, ofDer bs = .ok g → IsPair (Der.encode g) g.r g.s ∧ ofDer (Der.encode g) = .ok g
  /-- The rules give the numbers of a signature no other bytes. -/
  canonical : ∀ r s other, IsWritten bs → IsPair bs r s → IsPair other r s → other = bs
  /-- Nothing may follow. -/
  ends : ∀ rest, IsWritten bs → rest ≠ [] → ofDer (bs ++ rest) = .error (.invalidAssertion .badSignature)

/-- Signatures are read in one form, and with the lesser sign. -/
theorem ofDer_canonical (bs : Bytes) : Read bs where
  accepted_iff := by
    constructor
    · rintro ⟨h, hok⟩
      obtain ⟨g, hpair, -⟩ := isPair_of_ofDer hok
      exact isWritten_iff.mpr ⟨g, hpair⟩
    · intro hwritten
      obtain ⟨g, hpair⟩ := isWritten_iff.mp hwritten
      exact ⟨g.low, ofDer_of_isPair hpair⟩
  refused := ofDer_of_not_isWritten
  words := by
    intro r s h hpair hok
    obtain ⟨g, hpair', rfl⟩ := isPair_of_ofDer hok
    obtain ⟨rfl, rfl⟩ := hpair.inj hpair'
    have hr := toNat_word (Nat.lt_trans g.low.rBelow P256.order_lt)
    have hs := toNat_word (Nat.lt_trans g.low.sBelow P256.order_lt)
    have hbelow := g.sBelow
    refine ⟨⟨BigEndian.length_ofNat 32 _, ?_⟩, BigEndian.length_ofNat 32 _, ?_⟩
    · rw [hr, g.isLow.r]
    · rw [hs, low_s]
      omega
  lower := by
    intro h hok
    obtain ⟨g, -, rfl⟩ := isPair_of_ofDer hok
    exact g.isLow.le
  mirrored := fun _ _ _ => ofDer_mirrored
  again := by
    intro h hok
    obtain ⟨g, -, rfl⟩ := isPair_of_ofDer hok
    have hpair := Der.isPair_encode g.low
    refine ⟨hpair, ?_⟩
    rw [ofDer_of_isPair hpair, low_low]
  canonical := by
    intro r s other hwritten hpair hother
    obtain ⟨g, hpair'⟩ := isWritten_iff.mp hwritten
    obtain ⟨rfl, rfl⟩ := hpair.inj hpair'
    rw [hpair.eq_encode, hother.eq_encode]
  ends := by
    rintro rest ⟨r, s, hpair, -⟩ hrest
    refine ofDer_of_not_isPair fun g hlonger => hrest ?_
    exact (hpair.append_inj hlonger).2.2

end PasskeySession.Signature
