import PasskeySession.Policy.Edit
import PasskeySession.Proofs.Json.Decoder

/-! # Scaled forms

The base units that a form keeps beside its amounts are those of its amounts, and a cap on the coin that is on
has them. A new form is so, and a form that is read, and every edit keeps it. -/

namespace PasskeySession

theorem bind_eq_ok {ε α β : Type} {x : Except ε α} {f : α → Except ε β} {b : β} (h : (x >>= f) = .ok b) :
    ∃ a, x = .ok a ∧ f a = .ok b := by
  cases x with
  | error => cases h
  | ok a => exact ⟨a, rfl, h⟩

theorem map_eq_ok {ε α β : Type} {x : Except ε α} {f : α → β} {b : β} (h : x.map f = .ok b) :
    ∃ a, x = .ok a ∧ f a = b := by
  cases x with
  | error => cases h
  | ok a => exact ⟨a, rfl, Except.ok.inj h⟩

theorem mapError_eq_ok {ε ε' α : Type} {x : Except ε α} {f : ε → ε'} {a : α} (h : x.mapError f = .ok a) :
    x = .ok a := by
  cases x with
  | error => cases h
  | ok b => exact congrArg Except.ok (Except.ok.inj h)

/-! ### Caps on tokens -/

namespace TokenPolicy
variable {t u : TokenPolicy} {ts : List TokenPolicy} {address : Address}

/-- The base units of a cap are those of its limit. -/
def Scaled (t : TokenPolicy) : Prop := t.limit.toBaseUnits t.decimals = .ok t.limitUnits

theorem scaled_of_make {symbol name : String} {decimals : Nat} {limit : DecimalAmount}
    (h : make address symbol name decimals limit = .ok t) : t.Scaled := by
  obtain ⟨units, hu, rfl⟩ := map_eq_ok h
  exact hu

theorem scaled_of_setLimit {limit : DecimalAmount} (h : t.setLimit limit = .ok u) : u.Scaled := by
  obtain ⟨units, hu, rfl⟩ := map_eq_ok h
  exact hu

theorem scaled_of_ofTexts {address symbol name limit : String} {decimals : Nat}
    (h : ofTexts address symbol name decimals limit = .ok t) : t.Scaled := by
  obtain ⟨_, -, h⟩ := bind_eq_ok h
  obtain ⟨_, -, h⟩ := bind_eq_ok h
  exact scaled_of_make h

theorem mem_upsert (h : u ∈ upsert t ts) : u = t ∨ u ∈ ts := by
  induction ts with
  | nil => exact Or.inl (List.mem_singleton.mp h)
  | cons v vs ih =>
    rw [upsert] at h
    split at h
    · rcases List.mem_cons.mp h with h | h
      · exact Or.inl h
      · exact Or.inr (List.mem_cons_of_mem v h)
    · rcases List.mem_cons.mp h with rfl | h
      · exact Or.inr List.mem_cons_self
      · exact (ih h).imp_right (List.mem_cons_of_mem v)

theorem mem_of_mem_remove (h : u ∈ remove address ts) : u ∈ ts := by
  induction ts with
  | nil => cases h
  | cons v vs ih =>
    rw [remove] at h
    split at h
    · exact List.mem_cons_of_mem v h
    · rcases List.mem_cons.mp h with rfl | h
      · exact List.mem_cons_self
      · exact List.mem_cons_of_mem v (ih h)

theorem mem_foldl_upsert {us : List TokenPolicy} (h : u ∈ ts.foldl (fun us t => upsert t us) us) : u ∈ us ∨ u ∈ ts := by
  induction ts generalizing us with
  | nil => exact Or.inl h
  | cons t ts ih =>
    rcases ih h with h | h
    · rcases mem_upsert h with rfl | h
      · exact Or.inr List.mem_cons_self
      · exact Or.inl h
    · exact Or.inr (List.mem_cons_of_mem t h)

theorem mem_of_mem_ofList (h : u ∈ ofList ts) : u ∈ ts := (mem_foldl_upsert h).resolve_left List.not_mem_nil

theorem scaled_of_decoder {room : Nat} {tree : Json.Tree} (h : decoder room tree = .ok t) : t.Scaled := by
  obtain ⟨_, -, h⟩ := Json.Decoder.record_eq_ok h
  exact scaled_of_make (mapError_eq_ok h)

end TokenPolicy

theorem SpendingLimits.scaled_of_decoder {s : SpendingLimits} {room : Nat} {tree : Json.Tree}
    (h : decoder room tree = .ok s) : ∀ t ∈ s.tokens, t.Scaled := by
  obtain ⟨⟨active, tokens, _⟩, ⟨-, htokens, -⟩, h⟩ := Json.Decoder.record_eq_ok h
  cases h
  intro t ht
  have ht := TokenPolicy.mem_of_mem_ofList ht
  rcases htokens with ⟨room, tree, h⟩ | h
  · obtain ⟨room, tree, h⟩ := Json.Decoder.list_eq_ok h t ht
    exact TokenPolicy.scaled_of_decoder h
  · cases h
    cases ht

/-! ### The cap on the coin -/

namespace ValueLimit
variable {v w : ValueLimit} {active : Bool} {limit : DecimalAmount}

/-- The base units of the cap are those of its limit, if it makes a whole number of them, and it does if the
    cap is on. -/
structure Scaled (v : ValueLimit) : Prop where
  wei : v.wei = (v.limit.toBaseUnits DecimalAmount.nativeDecimals).toOption
  active : v.active = true → ∃ u, v.wei = some u

theorem scale_eq_ok {wei : Option BaseUnits} (h : scale active limit = .ok wei) :
    wei = (limit.toBaseUnits DecimalAmount.nativeDecimals).toOption ∧ (active = true → ∃ u, wei = some u) := by
  unfold scale at h
  split at h
  · rename_i u hu
    cases h
    exact ⟨by rw [hu]; rfl, fun _ => ⟨u, rfl⟩⟩
  · rename_i f hf
    split at h
    · cases h
    · rename_i hoff
      cases h
      exact ⟨by rw [hf]; rfl, fun hon => absurd hon hoff⟩

theorem scaled_of_make (h : make active limit = .ok v) : v.Scaled := by
  obtain ⟨wei, hw, rfl⟩ := map_eq_ok h
  exact ⟨(scale_eq_ok hw).1, (scale_eq_ok hw).2⟩

theorem Scaled.setActive (hv : v.Scaled) (h : v.setActive active = .ok w) : w.Scaled := by
  obtain ⟨wei, hw, rfl⟩ := map_eq_ok h
  obtain ⟨hwei, hon⟩ := scale_eq_ok hw
  exact ⟨hv.wei, fun ha => hv.wei.trans hwei.symm ▸ hon ha⟩

theorem scaled_of_setLimit (h : v.setLimit limit = .ok w) : w.Scaled := by
  obtain ⟨wei, hw, rfl⟩ := map_eq_ok h
  exact ⟨(scale_eq_ok hw).1, (scale_eq_ok hw).2⟩

theorem scaled_initial : initial.Scaled := ⟨rfl, nofun⟩

theorem scaled_of_decoder {room : Nat} {tree : Json.Tree} (h : decoder room tree = .ok v) : v.Scaled := by
  obtain ⟨_, -, h⟩ := Json.Decoder.record_eq_ok h
  exact scaled_of_make (mapError_eq_ok h)

end ValueLimit

/-! ### Forms -/

namespace PolicyForm
variable {f g : PolicyForm}

/-- The base units in a form are those of its amounts. -/
structure Scaled (f : PolicyForm) : Prop where
  tokens : ∀ t ∈ f.spending.tokens, t.Scaled
  valueLimit : f.valueLimit.Scaled

theorem scaled_initial : initial.Scaled := ⟨by rintro _ ⟨⟩, ValueLimit.scaled_initial⟩

theorem scaled_of_decoder {room : Nat} {tree : Json.Tree} (h : decoder room tree = .ok f) : f.Scaled := by
  obtain ⟨⟨_, spending, _, _, valueLimit, _⟩, ⟨-, hs, -, -, hv, -⟩, h⟩ := Json.Decoder.record_eq_ok h
  cases h
  constructor
  · rcases hs with ⟨_, _, h⟩ | h
    · exact SpendingLimits.scaled_of_decoder h
    · cases h
      rintro _ ⟨⟩
  · rcases hv with ⟨_, _, h⟩ | h
    · exact ValueLimit.scaled_of_decoder h
    · cases h
      exact ValueLimit.scaled_initial

theorem Scaled.upsert (h : f.Scaled) {t : TokenPolicy} (ht : t.Scaled) :
    (f.withTokens (TokenPolicy.upsert t f.spending.tokens)).Scaled := by
  refine ⟨fun u hu => ?_, h.valueLimit⟩
  rcases TokenPolicy.mem_upsert hu with rfl | hu
  · exact ht
  · exact h.tokens u hu

theorem Scaled.removeToken (h : f.Scaled) {address : Address} : (f.removeToken address).1.Scaled := by
  unfold PolicyForm.removeToken
  split
  · exact h
  · exact ⟨fun u hu => h.tokens u (TokenPolicy.mem_of_mem_remove hu), h.valueLimit⟩

theorem Scaled.setTokenLimit (h : f.Scaled) {address : Address} {limit : String} {t : Option TokenPolicy}
    (hs : f.setTokenLimit address limit = .ok (g, t)) : g.Scaled := by
  unfold PolicyForm.setTokenLimit at hs
  split at hs
  · cases hs
    exact h
  · obtain ⟨_, -, hs⟩ := bind_eq_ok hs
    obtain ⟨u, hu, hs⟩ := bind_eq_ok hs
    cases hs
    exact h.upsert (TokenPolicy.scaled_of_setLimit hu)

/-- Every edit keeps the base units those of the amounts. -/
theorem Scaled.change (h : f.Scaled) {e : Edit} {t : Option TokenPolicy} (he : e.change f = .ok (g, t)) :
    g.Scaled := by
  cases e with
  | load text =>
    rw [Edit.change] at he
    split at he
    · rename_i hr
      cases he
      obtain ⟨_, hr⟩ := Json.Decoder.runText_eq_ok hr
      exact scaled_of_decoder hr
    · cases he
  | unrestricted | spending | timeActive | universal =>
    cases he
    exact ⟨h.tokens, h.valueLimit⟩
  | upsertToken address symbol name decimals limit =>
    obtain ⟨u, hu, he⟩ := bind_eq_ok he
    cases he
    exact h.upsert (TokenPolicy.scaled_of_ofTexts (mapError_eq_ok hu))
  | removeToken address =>
    obtain ⟨_, -, he⟩ := bind_eq_ok he
    have hg : (f.removeToken _).1 = g := congrArg Prod.fst (Except.ok.inj he)
    exact hg ▸ h.removeToken
  | setTokenLimit address limit =>
    obtain ⟨_, -, he⟩ := bind_eq_ok he
    exact h.setTokenLimit (mapError_eq_ok he)
  | timeStart text | timeStop text =>
    obtain ⟨_, -, he⟩ := bind_eq_ok he
    cases he
    exact ⟨h.tokens, h.valueLimit⟩
  | timeBetween start stop =>
    obtain ⟨_, -, he⟩ := bind_eq_ok he
    obtain ⟨_, -, he⟩ := bind_eq_ok he
    cases he
    exact ⟨h.tokens, h.valueLimit⟩
  | valueLimit active limit =>
    obtain ⟨_, -, he⟩ := bind_eq_ok he
    obtain ⟨v, hv, he⟩ := bind_eq_ok he
    cases he
    exact ⟨h.tokens, ValueLimit.scaled_of_make (mapError_eq_ok hv)⟩
  | valueActive active =>
    obtain ⟨v, hv, he⟩ := bind_eq_ok he
    cases he
    exact ⟨h.tokens, h.valueLimit.setActive (mapError_eq_ok hv)⟩
  | setValueLimit limit =>
    obtain ⟨_, -, he⟩ := bind_eq_ok he
    obtain ⟨v, hv, he⟩ := bind_eq_ok he
    cases he
    exact ⟨h.tokens, ValueLimit.scaled_of_setLimit (mapError_eq_ok hv)⟩

/-- A form that can come about: a new one or one that is read, and then edited in any way. The bounds of the
    time may also be set as they are, without a text. -/
inductive Reached : PolicyForm → Prop
  | initial : Reached .initial
  | decoded {f : PolicyForm} {room : Nat} {tree : Json.Tree} (h : decoder room tree = .ok f) : Reached f
  | edited {f g : PolicyForm} {e : Edit} {t : Option TokenPolicy} (h : Reached f) (he : e.change f = .ok (g, t)) :
    Reached g
  | timed {f : PolicyForm} (h : Reached f) (time : TimeFrame) : Reached { f with timeFrame := time }

theorem Reached.scaled (h : f.Reached) : f.Scaled := by
  induction h with
  | initial => exact scaled_initial
  | decoded h => exact scaled_of_decoder h
  | edited _ he ih => exact ih.change he
  | timed _ _ ih => exact ⟨ih.tokens, ih.valueLimit⟩

end PolicyForm
end PasskeySession
