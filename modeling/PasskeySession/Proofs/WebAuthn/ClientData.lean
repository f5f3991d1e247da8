import Mathlib.Data.List.Infix
import Mathlib.Order.Bounds.Basic
import Mathlib.Order.Nat
import PasskeySession.WebAuthn.ClientData

/-! # Where the type stands

The place that is found for a key is the least at which it stands, and one is found wherever the key stands at
all. -/

namespace PasskeySession.ClientData
variable {key bs : Bytes} {i : Nat}

theorem offset?_eq_some_iff : offset? key bs = some i ↔ IsLeast {j | key <+: bs.drop j} i := by
  induction bs generalizing i with
  | nil =>
    cases key with
    | nil =>
      have hzero : IsLeast {j | ([] : Bytes) <+: ([] : Bytes).drop j} 0 :=
        ⟨List.prefix_refl [], fun j _ => Nat.zero_le j⟩
      exact ⟨fun hi => Option.some.inj hi ▸ hzero, fun hi => congrArg some (hzero.unique hi)⟩
    | cons => simp [offset?, IsLeast]
  | cons b bs ih =>
    rw [offset?]
    by_cases h : key.isPrefixOf (b :: bs)
    · have hzero : IsLeast {j | key <+: (b :: bs).drop j} 0 :=
        ⟨List.isPrefixOf_iff_prefix.mp h, fun j _ => Nat.zero_le j⟩
      rw [if_pos h]
      exact ⟨fun hi => Option.some.inj hi ▸ hzero, fun hi => congrArg some (hzero.unique hi)⟩
    · have hnot : ¬ key <+: b :: bs := fun hp => h (List.isPrefixOf_iff_prefix.mpr hp)
      rw [if_neg h, Option.map_eq_some_iff]
      constructor
      · rintro ⟨j, hj, rfl⟩
        refine ⟨(ih.mp hj).1, fun k hk => ?_⟩
        cases k with
        | zero => exact absurd hk hnot
        | succ k => exact Nat.succ_le_succ ((ih.mp hj).2 hk)
      · intro hi
        cases i with
        | zero => exact absurd hi.1 hnot
        | succ j => exact ⟨j, ih.mpr ⟨hi.1, fun k hk => Nat.le_of_succ_le_succ (hi.2 (show k + 1 ∈ _ from hk))⟩, rfl⟩

theorem offset?_isSome_iff : (∃ i, offset? key bs = some i) ↔ key <:+: bs := by
  constructor
  · rintro ⟨i, hi⟩
    exact (offset?_eq_some_iff.mp hi).1.isInfix.trans (List.drop_suffix i bs).isInfix
  · rintro ⟨before, after, rfl⟩
    have stands : ∃ j, key <+: (before ++ key ++ after).drop j := ⟨before.length, after, by simp⟩
    classical
    exact ⟨_, offset?_eq_some_iff.mpr ⟨Nat.find_spec stands, fun j hj => Nat.find_min' stands hj⟩⟩

end PasskeySession.ClientData
