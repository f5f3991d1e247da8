import PasskeySession.Proofs.Amount.Value

/-! # Scaling is exact

An amount makes base units exactly when it is worth a whole number of them, and it is the only amount that makes
that number. So amounts and base units are each read back from the other. -/

namespace PasskeySession
namespace DecimalAmount
variable {a b : DecimalAmount} {decimals : Nat} {u : BaseUnits}

/-! ### From amounts to base units -/

theorem value_mul_pow_scale (a : DecimalAmount) : a.value * 10 ^ a.scale = a.units := by
  rw [value]
  field_simp

/-- The last digit of an amount that is worth a whole number of base units is worth one unit at least. -/
theorem scale_le_of_count (h : (u.count : ℚ) = a.value * 10 ^ decimals) : a.scale ≤ decimals := by
  by_contra hlt
  obtain ⟨k, hk⟩ := Nat.exists_eq_add_of_lt (Nat.lt_of_not_le hlt)
  have hunits : (a.units : ℚ) = (u.count * 10 ^ (k + 1) : Nat) := by
    calc (a.units : ℚ) = a.value * 10 ^ a.scale := a.value_mul_pow_scale.symm
      _ = a.value * 10 ^ decimals * 10 ^ (k + 1) := by rw [hk, Nat.add_assoc, pow_add, mul_assoc]
      _ = (u.count * 10 ^ (k + 1) : Nat) := by rw [← h]; push_cast; rfl
  have hunits : a.units = u.count * 10 ^ k * 10 := by
    rw [Nat.mul_assoc, ← pow_succ]
    exact_mod_cast hunits
  -- Its last digit would be nought.
  rcases a.shortest with hzero | hlast
  · omega
  · omega

theorem toBaseUnits_eq_ok_iff : a.toBaseUnits decimals = .ok u ↔ (u.count : ℚ) = a.value * 10 ^ decimals := by
  refine ⟨count_of_toBaseUnits, fun h => ?_⟩
  have hok : a.toBaseUnits decimals = .ok ⟨a.units * Nat.pow 10 (decimals - a.scale)⟩ := if_pos (scale_le_of_count h)
  have hcount : u.count = a.units * Nat.pow 10 (decimals - a.scale) := by
    exact_mod_cast h.trans (count_of_toBaseUnits hok).symm
  rw [hok, ← hcount]

/-- The amount is a whole number of base units. -/
def Whole (a : DecimalAmount) (decimals : Nat) : Prop := ∃ n : ℤ, a.value * 10 ^ decimals = n

theorem value_nonneg (a : DecimalAmount) : 0 ≤ a.value :=
  div_nonneg (Nat.cast_nonneg _) (pow_nonneg (by norm_num) _)

theorem whole_iff : a.Whole decimals ↔ ∃ u, a.toBaseUnits decimals = .ok u := by
  constructor
  · rintro ⟨n, hn⟩
    have hnonneg : (0 : ℚ) ≤ n := hn ▸ mul_nonneg a.value_nonneg (pow_nonneg (by norm_num) _)
    obtain ⟨m, rfl⟩ := Int.eq_ofNat_of_zero_le (Int.cast_nonneg_iff.mp hnonneg)
    exact ⟨⟨m⟩, toBaseUnits_eq_ok_iff.mpr (hn.trans (Int.cast_natCast m)).symm⟩
  · rintro ⟨u, hu⟩
    exact ⟨u.count, (count_of_toBaseUnits hu).symm.trans (Int.cast_natCast u.count).symm⟩

/-- The one reason for which an amount is refused. -/
theorem toBaseUnits_eq_error_iff {f : Fault} :
    a.toBaseUnits decimals = .error f ↔ ¬ a.Whole decimals ∧ f = .precision a.text decimals := by
  rw [whole_iff]
  unfold toBaseUnits
  split
  · exact iff_of_false nofun (fun h => h.1 ⟨_, rfl⟩)
  · exact ⟨fun h => ⟨nofun, (Except.error.inj h).symm⟩, fun h => h.2 ▸ rfl⟩

/-! ### From base units to amounts -/

theorem value_ofScaled (units scale : Nat) : (ofScaled units scale).value = units / 10 ^ scale := by
  induction scale generalizing units with
  | zero => rfl
  | succ scale ih =>
    by_cases hlast : units % 10 = 0
    · have hreduce : reduce units (scale + 1) = reduce (units / 10) scale := if_pos hlast
      have hsame : ofScaled units (scale + 1) = ofScaled (units / 10) scale :=
        DecimalAmount.ext (congrArg Prod.fst hreduce) (congrArg Prod.snd hreduce)
      have hunits : (units : ℚ) = (units / 10 : Nat) * 10 := by
        exact_mod_cast (Nat.div_mul_cancel (Nat.dvd_of_mod_eq_zero hlast)).symm
      rw [hsame, ih, hunits, pow_succ]
      field_simp
    · have hreduce : reduce units (scale + 1) = (units, scale + 1) := if_neg hlast
      simp only [value, ofScaled, hreduce]

/-- Amounts that are worth the same have the same digits. -/
theorem value_injective (h : a.value = b.value) : a = b := by
  have hle : ∀ {c d : DecimalAmount}, c.value = d.value → c.scale ≤ d.scale := fun {c d} hcd =>
    scale_le_of_count (u := ⟨d.units⟩) (hcd ▸ d.value_mul_pow_scale.symm)
  have hscale : a.scale = b.scale := Nat.le_antisymm (hle h) (hle h.symm)
  have hunits : (a.units : ℚ) = b.units := by
    rw [← a.value_mul_pow_scale, ← b.value_mul_pow_scale, h, hscale]
  exact DecimalAmount.ext (Nat.cast_inj.mp hunits) hscale

end DecimalAmount

namespace BaseUnits
variable {a : DecimalAmount} {decimals : Nat} {u : BaseUnits}

theorem value_toDecimal (u : BaseUnits) (decimals : Nat) : (u.toDecimal decimals).value = u.count / 10 ^ decimals :=
  DecimalAmount.value_ofScaled u.count decimals

theorem toBaseUnits_toDecimal (u : BaseUnits) (decimals : Nat) :
    (u.toDecimal decimals).toBaseUnits decimals = .ok u := by
  rw [DecimalAmount.toBaseUnits_eq_ok_iff, value_toDecimal]
  field_simp

theorem toDecimal_of_toBaseUnits (h : a.toBaseUnits decimals = .ok u) : u.toDecimal decimals = a := by
  refine DecimalAmount.value_injective ?_
  rw [value_toDecimal, DecimalAmount.count_of_toBaseUnits h]
  field_simp

end BaseUnits
end PasskeySession
