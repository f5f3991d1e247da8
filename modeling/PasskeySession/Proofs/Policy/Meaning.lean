import PasskeySession.Policy.Compiled
import PasskeySession.Proofs.Amount.Value
import PasskeySession.Proofs.Policy.Scaled

/-! # What a form means

A form read as its operator reads it: exact amounts, exact times, the parts that are switched on in their
order, and the functions of the capped tokens. Whatever is compiled from a form that can come about is what
the form means, and nothing of an amount is lost. -/

namespace PasskeySession

namespace Instant

/-- Unix time. In a leap second it goes through the second before once more. -/
def unix (t : Instant) : ℚ := t.seconds + (t.nanos % 1000000000 : Nat) / 1000000000

theorem floor_unix (t : Instant) : ⌊t.unix⌋ = t.seconds := by
  have hlt : ((t.nanos % 1000000000 : Nat) : ℚ) < 1000000000 := by
    exact_mod_cast Nat.mod_lt t.nanos (by decide)
  have hnonneg : (0 : ℚ) ≤ (t.nanos % 1000000000 : Nat) := Nat.cast_nonneg _
  rw [Int.floor_eq_iff, unix]
  constructor
  · have := div_nonneg hnonneg (by norm_num : (0 : ℚ) ≤ 1000000000)
    linarith
  · have := (div_lt_one (by norm_num : (0 : ℚ) < 1000000000)).mpr hlt
    linarith

end Instant

namespace BaseUnits

/-- So many base units as a number says. -/
def ofRat (q : ℚ) : BaseUnits := ⟨⌊q⌋₊⟩

theorem ofRat_count (u : BaseUnits) : ofRat u.count = u := by
  rw [ofRat, Nat.floor_natCast]

end BaseUnits

namespace TokenPolicy

/-- The limit of a cap in base units, exactly. -/
def exactLimit (t : TokenPolicy) : ℚ := t.limit.value * 10 ^ t.decimals

theorem Scaled.exactLimit {t : TokenPolicy} (h : t.Scaled) : t.exactLimit = t.limitUnits.count :=
  (DecimalAmount.count_of_toBaseUnits h).symm

end TokenPolicy

namespace ValueLimit

/-- The cap on the coin in base units, exactly. -/
def exactLimit (v : ValueLimit) : ℚ := v.limit.value * 10 ^ 18

theorem Scaled.exactLimit {v : ValueLimit} (h : v.Scaled) {wei : BaseUnits} (hw : v.wei = some wei) :
    v.exactLimit = wei.count := by
  have hok : v.limit.toBaseUnits DecimalAmount.nativeDecimals = .ok wei := by
    have := h.wei.symm.trans hw
    cases hl : v.limit.toBaseUnits DecimalAmount.nativeDecimals with
    | error => rw [hl] at this; cases this
    | ok u => rw [hl] at this; cases this; rfl
  exact (DecimalAmount.count_of_toBaseUnits hok).symm

end ValueLimit

namespace PolicyForm
variable {f : PolicyForm}

/-- The policies that a form means, unless it allows everything. -/
def meantPolicies (f : PolicyForm) : List PolicyDescriptor :=
  (if f.valueLimit.active then [⟨.valueLimit, .valueLimit (.ofRat f.valueLimit.exactLimit)⟩] else []) ++
  (if f.spending.active ∧ f.spending.tokens ≠ [] then
    [⟨.spendingLimits, .spendingLimits (f.spending.tokens.map fun t => ⟨t.address, .ofRat t.exactLimit⟩)⟩]
  else []) ++
  match f.timeFrame with
  | ⟨true, some start, some stop⟩ => [⟨.timeFrame, .timeFrame ⌊start.unix⌋ ⌊stop.unix⌋⟩]
  | _ => []

/-- The calls that a form means to allow, unless it allows everything. -/
def meantActions (f : PolicyForm) : List ActionDescriptor :=
  if f.spending.active then
    f.spending.tokens.flatMap fun t =>
      [⟨t.address, .transfer⟩, ⟨t.address, .transferFrom⟩, ⟨t.address, .balanceOf⟩]
  else []

/-- What a form means. -/
def meaning (f : PolicyForm) : CompiledSession :=
  if f.unrestricted then ⟨[⟨.unrestricted, .none⟩], []⟩ else ⟨f.meantPolicies, f.meantActions⟩

theorem descriptors_valuePolicies (h : f.Scaled) : f.valuePolicies.flatMap Policy.descriptors =
    if f.valueLimit.active then [⟨.valueLimit, .valueLimit (.ofRat f.valueLimit.exactLimit)⟩] else [] := by
  unfold valuePolicies
  cases hon : f.valueLimit.active with
  | false => rfl
  | true =>
    obtain ⟨wei, hw⟩ := h.valueLimit.active hon
    rw [hw, h.valueLimit.exactLimit hw, BaseUnits.ofRat_count]
    rfl

theorem descriptors_spendingPolicies (h : f.Scaled) : f.spendingPolicies.flatMap Policy.descriptors =
    if f.spending.active ∧ f.spending.tokens ≠ [] then
      [⟨.spendingLimits, .spendingLimits (f.spending.tokens.map fun t => ⟨t.address, .ofRat t.exactLimit⟩)⟩]
    else [] := by
  have limits : f.spending.tokens.map (fun t => (⟨t.address, .ofRat t.exactLimit⟩ : TokenLimit)) =
      f.spending.tokens.map TokenPolicy.toLimit := by
    refine List.map_congr_left fun t ht => ?_
    rw [(h.tokens t ht).exactLimit, BaseUnits.ofRat_count]
    rfl
  rw [limits]
  unfold spendingPolicies
  cases f.spending.active with
  | false => rfl
  | true =>
    cases f.spending.tokens with
    | nil => rfl
    | cons t ts => rfl

theorem descriptors_timePolicies : f.timePolicies.flatMap Policy.descriptors =
    match f.timeFrame with
    | ⟨true, some start, some stop⟩ => [⟨.timeFrame, .timeFrame ⌊start.unix⌋ ⌊stop.unix⌋⟩]
    | _ => [] := by
  unfold timePolicies TimeFrame.window
  obtain ⟨active, start, stop⟩ := f.timeFrame
  cases active with
  | false => rfl
  | true =>
    cases start with
    | none => rfl
    | some start =>
      cases stop with
      | none => rfl
      | some stop =>
        change [(⟨.timeFrame, .timeFrame start.seconds stop.seconds⟩ : PolicyDescriptor)] =
          [⟨.timeFrame, .timeFrame ⌊start.unix⌋ ⌊stop.unix⌋⟩]
        rw [start.floor_unix, stop.floor_unix]

theorem descriptors_universalPolicies : f.universalPolicies.flatMap Policy.descriptors = [] := by
  unfold universalPolicies
  split <;> rfl

theorem actions_policies :
    (f.valuePolicies ++ f.spendingPolicies ++ f.timePolicies ++ f.universalPolicies).flatMap Policy.actions =
      f.meantActions := by
  have value : f.valuePolicies.flatMap Policy.actions = [] := by
    unfold valuePolicies
    split <;> rfl
  have time : f.timePolicies.flatMap Policy.actions = [] := by
    unfold timePolicies
    split <;> rfl
  have universal : f.universalPolicies.flatMap Policy.actions = [] := by
    unfold universalPolicies
    split <;> rfl
  have spending : f.spendingPolicies.flatMap Policy.actions = f.meantActions := by
    unfold spendingPolicies meantActions
    split
    · exact List.append_nil _
    · rfl
  rw [List.flatMap_append, List.flatMap_append, List.flatMap_append, value, time, universal, spending,
    List.append_nil, List.append_nil, List.nil_append]

theorem Scaled.compile_eq_meaning (h : f.Scaled) : f.compile = f.meaning := by
  unfold compile authority meaning
  split
  · rfl
  · rw [Authority.compile, actions_policies, List.flatMap_append, List.flatMap_append, List.flatMap_append,
      descriptors_valuePolicies h, descriptors_spendingPolicies h, descriptors_timePolicies,
      descriptors_universalPolicies, List.append_nil]
    rfl

/-- A form that can come about is compiled to what it means, and each limit is written as the canonical numeral
    of its exact number of base units. -/
theorem Reached.compile_exact (h : f.Reached) :
    f.compile = f.meaning ∧
      (f.valueLimit.active = true → IsNumeral (BaseUnits.ofRat f.valueLimit.exactLimit).text f.valueLimit.exactLimit) ∧
      ∀ t ∈ f.spending.tokens, IsNumeral (BaseUnits.ofRat t.exactLimit).text t.exactLimit := by
  have scaled := h.scaled
  refine ⟨scaled.compile_eq_meaning, fun hon => ?_, fun t ht => ?_⟩
  · obtain ⟨wei, hw⟩ := scaled.valueLimit.active hon
    rw [scaled.valueLimit.exactLimit hw, BaseUnits.ofRat_count]
    exact wei.text_isNumeral
  · rw [(scaled.tokens t ht).exactLimit, BaseUnits.ofRat_count]
    exact t.limitUnits.text_isNumeral

/-- A new form whose cap on the coin is set to one and a half. -/
theorem compile_exact_value :
    ∃ f t, Edit.change initial (.valueLimit true "1.5") = .ok (f, t) ∧
      f.compile = ⟨[⟨.valueLimit, .valueLimit ⟨1500000000000000000⟩⟩], []⟩ ∧ f.compile = f.meaning := by
  have h : Edit.change initial (.valueLimit true "1.5") = .ok (_, _) := rfl
  exact ⟨_, _, h, by decide, (Reached.edited .initial h).compile_exact.1⟩

end PolicyForm
end PasskeySession
