import PasskeySession.Proofs.Amount.Scaling
import PasskeySession.Proofs.Amount.Text
import PasskeySession.Proofs.Policy.Attained
import PasskeySession.Proofs.Session.View

/-! # Forms stay consistent

A form keeps base units beside the amounts that were typed. Some edits compute them anew and some only check the
amount again, and still they are those of the amounts in every form, with one cap for each token. An amount is
refused exactly where a whole number of base units is needed and it makes none; and whatever is refused leaves
the form as it was. -/

namespace PasskeySession

/-! ### When amounts are refused -/

namespace DecimalAmount
variable {α β : Type} {a : DecimalAmount} {decimals : Nat} {x : Except Fault α}

/-- A result is there exactly when the amount is a whole number of base units; else the fault names the amount. -/
structure Gates (a : DecimalAmount) (decimals : Nat) (x : Except Fault α) : Prop where
  passes : (∃ r, x = .ok r) ↔ a.Whole decimals
  names : ∀ f, x = .error f → f = .precision a.text decimals

theorem gates_toBaseUnits (a : DecimalAmount) (decimals : Nat) : a.Gates decimals (a.toBaseUnits decimals) :=
  ⟨whole_iff.symm, fun _ hf => (toBaseUnits_eq_error_iff.mp hf).2⟩

theorem Gates.map (h : a.Gates decimals x) (g : α → β) : a.Gates decimals (x.map g) := by
  cases x with
  | error f => exact ⟨by rw [← h.passes]; exact ⟨nofun, nofun⟩, fun _ hf => h.names _ (by cases hf; rfl)⟩
  | ok r => exact ⟨by rw [← h.passes]; exact ⟨fun _ => ⟨r, rfl⟩, fun _ => ⟨g r, rfl⟩⟩, nofun⟩

/-- Noughts at the end of a fraction are not counted. -/
theorem ofScaled_nought (units scale : Nat) : ofScaled (units * 10) (scale + 1) = ofScaled units scale := by
  refine value_injective ?_
  rw [value_ofScaled, value_ofScaled, Nat.cast_mul, Nat.cast_ofNat, pow_succ]
  field_simp

theorem ofDigits_noughts (whole fraction : List Char) (n : Nat) :
    ofDigits whole (fraction ++ List.replicate n '0') = ofDigits whole fraction := by
  induction n with
  | zero => rw [List.replicate_zero, List.append_nil]
  | succ n ih =>
    rw [← ih]
    have hlast : whole ++ (fraction ++ List.replicate (n + 1) '0') =
        whole ++ (fraction ++ List.replicate n '0') ++ ['0'] := by
      rw [List.replicate_succ', List.append_assoc, List.append_assoc]
    have hlen : (fraction ++ List.replicate (n + 1) '0').length = (fraction ++ List.replicate n '0').length + 1 := by
      rw [List.length_append, List.length_append, List.length_replicate, List.length_replicate, Nat.add_assoc]
    rw [ofDigits, ofDigits, hlast, hlen, Nat.ofDigitChars_append, Text.ofDigitChars_cons, Nat.ofDigitChars_nil]
    exact ofScaled_nought _ _

theorem ofChars?_point {whole fraction : List Char} (hwhole : ∀ c ∈ whole, c.isDigit = true)
    (hfraction : ∀ c ∈ fraction, c.isDigit = true) (hne : whole ≠ [] ∨ fraction ≠ []) :
    ofChars? (whole ++ '.' :: fraction) = some (ofDigits whole fraction) := by
  have hsome : (whole.isEmpty && fraction.isEmpty) = false := by
    rcases hne with hne | hne
    · rw [List.isEmpty_eq_false_iff.mpr hne, Bool.false_and]
    · rw [List.isEmpty_eq_false_iff.mpr hne, Bool.and_false]
  have hdigits : (whole.all Char.isDigit && fraction.all Char.isDigit) = true := by
    rw [List.all_eq_true.mpr hwhole, List.all_eq_true.mpr hfraction, Bool.and_self]
  rw [ofChars?, splitPoint_point hwhole]
  dsimp only
  rw [hsome, hdigits]
  rfl

/-- So many noughts behind the digits of a fraction read as none. -/
theorem parse_noughts {whole fraction : List Char} (hwhole : ∀ c ∈ whole, c.isDigit = true)
    (hfraction : ∀ c ∈ fraction, c.isDigit = true) (hne : whole ≠ [] ∨ fraction ≠ []) (n : Nat) :
    parse (String.ofList (whole ++ '.' :: (fraction ++ List.replicate n '0'))) = .ok (ofDigits whole fraction) := by
  have hnoughts : ∀ c ∈ fraction ++ List.replicate n '0', c.isDigit = true := by
    intro c hc
    rcases List.mem_append.mp hc with hc | hc
    · exact hfraction c hc
    · rw [List.eq_of_mem_replicate hc]
      decide
  have hblank : ∀ c ∈ whole ++ '.' :: (fraction ++ List.replicate n '0'), Text.isBlank c = false := by
    intro c hc
    rcases List.mem_append.mp hc with hc | hc
    · exact Text.isBlank_of_isDigit (hwhole c hc)
    · rcases List.mem_cons.mp hc with rfl | hc
      · decide
      · exact Text.isBlank_of_isDigit (hnoughts c hc)
  have hsome : whole ≠ [] ∨ fraction ++ List.replicate n '0' ≠ [] :=
    hne.imp id fun h => List.append_ne_nil_of_left_ne_nil h _
  rw [parse, String.toList_ofList, Text.trim_eq_self hblank, ofChars?_point hwhole hnoughts hsome, ofDigits_noughts]

end DecimalAmount

namespace ValueLimit
variable {limit : DecimalAmount}

theorem gates_scale (limit : DecimalAmount) : limit.Gates DecimalAmount.nativeDecimals (scale true limit) := by
  have hscale : scale true limit = (limit.toBaseUnits DecimalAmount.nativeDecimals).map some := by
    unfold scale
    cases limit.toBaseUnits DecimalAmount.nativeDecimals <;> rfl
  rw [hscale]
  exact (limit.gates_toBaseUnits _).map some

theorem scale_inactive (limit : DecimalAmount) : ∃ wei, scale false limit = .ok wei := by
  unfold scale
  split
  · exact ⟨_, rfl⟩
  · exact ⟨none, rfl⟩

end ValueLimit

/-- Where an amount is checked, and where it is not. -/
structure Strict : Prop where
  make : ∀ address symbol name decimals (limit : DecimalAmount),
    limit.Gates decimals (TokenPolicy.make address symbol name decimals limit)
  setLimit : ∀ (t : TokenPolicy) (limit : DecimalAmount), limit.Gates t.decimals (t.setLimit limit)
  activated : ∀ v : ValueLimit, v.limit.Gates 18 (v.setActive true)
  active : ∀ (v : ValueLimit) (limit : DecimalAmount), v.active = true → limit.Gates 18 (v.setLimit limit)
  made : ∀ limit : DecimalAmount, limit.Gates 18 (ValueLimit.make true limit)
  /-- A cap that is off takes every amount, and every cap can be turned off. -/
  inactive : ∀ (v : ValueLimit) (limit : DecimalAmount), v.active = false → ∃ w, v.setLimit limit = .ok w ∧
    w.limit = limit
  deactivated : ∀ v : ValueLimit, v.setActive false = .ok { v with active := false }
  unmade : ∀ limit : DecimalAmount, ∃ v, ValueLimit.make false limit = .ok v ∧ v.limit = limit
  /-- Noughts at the end of a fraction change nothing of this. -/
  noughts : ∀ whole fraction : List Char, (∀ c ∈ whole, c.isDigit = true) → (∀ c ∈ fraction, c.isDigit = true) →
    whole ≠ [] ∨ fraction ≠ [] → ∀ n,
      DecimalAmount.parse (String.ofList (whole ++ '.' :: (fraction ++ List.replicate n '0'))) =
        DecimalAmount.parse (String.ofList (whole ++ '.' :: fraction))

theorem strict : Strict where
  make _ _ _ _ limit := (limit.gates_toBaseUnits _).map _
  setLimit _ limit := (limit.gates_toBaseUnits _).map _
  activated v := (ValueLimit.gates_scale v.limit).map _
  active v limit hv := by
    rw [ValueLimit.setLimit, hv]
    exact (ValueLimit.gates_scale limit).map _
  made limit := (ValueLimit.gates_scale limit).map _
  inactive v limit hv := by
    obtain ⟨wei, hwei⟩ := ValueLimit.scale_inactive limit
    exact ⟨{ v with limit, wei }, by rw [ValueLimit.setLimit, hv, hwei]; rfl, rfl⟩
  deactivated v := by
    obtain ⟨wei, hwei⟩ := ValueLimit.scale_inactive v.limit
    rw [ValueLimit.setActive, hwei]
    rfl
  unmade limit := by
    obtain ⟨wei, hwei⟩ := ValueLimit.scale_inactive limit
    exact ⟨⟨false, limit, wei⟩, by rw [ValueLimit.make, hwei]; rfl, rfl⟩
  noughts whole fraction hwhole hfraction hne n := by
    have hnone := DecimalAmount.parse_noughts hwhole hfraction hne 0
    rw [List.replicate_zero, List.append_nil] at hnone
    rw [DecimalAmount.parse_noughts hwhole hfraction hne n, hnone]

/-! ### What refused edits leave -/

namespace World
variable {w : World} {i : Nat} {o p : Orchestrator} {e : Edit}

theorem orchestrator?_setOrchestrator (h : w.orchestrator? i = some o) :
    (w.setOrchestrator i p).orchestrator? i = some p := by
  have := congrFun (join_getElem?_set (y := some p) h) i
  rwa [Function.update_self] at this

/-- An edit is accepted, with the form that it makes, or it leaves the form as it was. -/
theorem edit_form (ho : w.orchestrator? i = some o) : ∃ p, (w.step (.edit i e)).1.orchestrator? i = some p ∧
    ((∃ token, (w.step (.edit i e)).2 = .edited (.ok token) ∧ e.change o.form = .ok (p.form, token)) ∨
      p.form = o.form ∧ ∀ token, (w.step (.edit i e)).2 ≠ .edited (.ok token)) := by
  rw [step, onOrchestrator, ho]
  dsimp only
  by_cases hused : w.inUse i = true
  · rw [if_pos hused]
    exact ⟨o, ho, Or.inr ⟨rfl, nofun⟩⟩
  · rw [if_neg hused, editForm, Orchestrator.openForm]
    by_cases hopen : o.state.acceptsEdits = true
    · rw [if_pos hopen]
      cases hchange : e.change o.form with
      | error f =>
        dsimp only
        rw [hchange]
        exact ⟨_, orchestrator?_setOrchestrator ho, Or.inr ⟨rfl, nofun⟩⟩
      | ok gt =>
        dsimp only
        rw [hchange]
        exact ⟨_, orchestrator?_setOrchestrator ho, Or.inl ⟨gt.2, rfl, rfl⟩⟩
    · rw [if_neg hopen]
      exact ⟨o, ho, Or.inr ⟨rfl, nofun⟩⟩

end World

/-! ### Forms that are put together -/

/-- A cap on a token that can be had: made of its parts or read, and then given other limits. -/
inductive TokenPolicy.Made : TokenPolicy → Prop
  | parts {t : TokenPolicy} {address : Address} {symbol name : String} {decimals : Nat} {limit : DecimalAmount}
      (hdecimals : decimals < 256) (h : make address symbol name decimals limit = .ok t) : Made t
  | decoded {t : TokenPolicy} {room : Nat} {tree : Json.Tree} (h : decoder room tree = .ok t) : Made t
  | limited {t u : TokenPolicy} {limit : DecimalAmount} (h : Made t) (hu : t.setLimit limit = .ok u) : Made u

/-- A cap on the coin that can be had: new, made of its parts or read, and then switched and given other limits. -/
inductive ValueLimit.Made : ValueLimit → Prop
  | initial : Made .initial
  | parts {v : ValueLimit} {active : Bool} {limit : DecimalAmount} (h : make active limit = .ok v) : Made v
  | decoded {v : ValueLimit} {room : Nat} {tree : Json.Tree} (h : decoder room tree = .ok v) : Made v
  | switched {v w : ValueLimit} {active : Bool} (h : Made v) (hw : v.setActive active = .ok w) : Made w
  | limited {v w : ValueLimit} {limit : DecimalAmount} (h : Made v) (hw : v.setLimit limit = .ok w) : Made w

theorem TokenPolicy.Made.scaled {t : TokenPolicy} (h : t.Made) : t.Scaled ∧ t.decimals < 256 := by
  induction h with
  | parts hdecimals h => exact ⟨scaled_of_make h, decimals_of_make h ▸ hdecimals⟩
  | decoded h => exact ⟨scaled_of_decoder h, decimals_of_decoder h⟩
  | limited _ hu ih => exact ⟨scaled_of_setLimit hu, decimals_of_setLimit hu ▸ ih.2⟩

theorem ValueLimit.Made.scaled {v : ValueLimit} (h : v.Made) : v.Scaled := by
  induction h with
  | initial => exact scaled_initial
  | parts h => exact scaled_of_make h
  | decoded h => exact scaled_of_decoder h
  | switched _ hw ih => exact ih.setActive hw
  | limited _ hw _ => exact scaled_of_setLimit hw

namespace PolicyForm
variable {f : PolicyForm}

/-- A form that is new or read from a text, and then edited, by texts or by parts that are put into it. -/
inductive Assembled : PolicyForm → Prop
  | initial : Assembled .initial
  | decoded {f : PolicyForm} {text : String} (h : decoder.runText text = .ok f) : Assembled f
  | edited {f g : PolicyForm} {e : Edit} {t : Option TokenPolicy} (h : Assembled f) (he : e.change f = .ok (g, t))
      (hfits : e.Fits) : Assembled g
  | timed {f : PolicyForm} (h : Assembled f) (time : TimeFrame) (htime : ∀ t ∈ time.bounds, t.Proper) :
      Assembled { f with timeFrame := time }
  | capped {f : PolicyForm} (h : Assembled f) {t : TokenPolicy} (ht : t.Made) :
      Assembled (f.withTokens (TokenPolicy.upsert t f.spending.tokens))
  | limited {f : PolicyForm} (h : Assembled f) {v : ValueLimit} (hv : v.Made) :
      Assembled { f with valueLimit := v }

theorem Assembled.sound (h : f.Assembled) : f.Sound := by
  induction h with
  | initial => exact sound_initial
  | decoded h =>
    obtain ⟨_, h⟩ := Json.Decoder.runText_eq_ok h
    exact sound_of_decoder h
  | edited _ he hfits ih => exact ih.change hfits he
  | timed _ time htime ih => exact ⟨⟨ih.scaled.tokens, ih.scaled.valueLimit⟩, ih.tokens, ih.usageCount, htime⟩
  | capped _ ht ih => exact ⟨ih.scaled.upsert ht.scaled.1, ih.tokens.upsert ht.scaled.2, ih.usageCount, ih.bounds⟩
  | limited _ hv ih => exact ⟨⟨ih.scaled.tokens, hv.scaled⟩, ih.tokens, ih.usageCount, ih.bounds⟩

/-- The base units in a form are those of its amounts, and each token is there once. -/
structure Consistent (f : PolicyForm) : Prop where
  distinct : (f.spending.tokens.map TokenPolicy.address).Nodup
  limits : ∀ t ∈ f.spending.tokens, (t.limitUnits.count : ℚ) = t.limit.value * 10 ^ t.decimals
  present : (∃ wei, f.valueLimit.wei = some wei) ↔ f.valueLimit.limit.Whole 18
  wei : ∀ wei, f.valueLimit.wei = some wei → (wei.count : ℚ) = f.valueLimit.limit.value * 10 ^ 18
  active : f.valueLimit.active = true → ∃ wei, f.valueLimit.wei = some wei
  /-- Whatever an edit is refused for, the orchestrator keeps the form. -/
  unspoiled : ∀ (w : World) (i : Nat) (o : Orchestrator) (e : Edit), w.orchestrator? i = some o → o.form = f →
    (∀ token, (w.step (.edit i e)).2 ≠ .edited (.ok token)) →
    ((w.step (.edit i e)).1.orchestrator? i).map Orchestrator.form = some f

theorem Sound.isConsistent (h : f.Sound) : f.Consistent := by
  have hwei := h.scaled.valueLimit.wei
  refine ⟨h.tokens.distinct, fun t ht => DecimalAmount.toBaseUnits_eq_ok_iff.mp (h.scaled.tokens t ht), ?_,
    fun wei hw => ?_, h.scaled.valueLimit.active, fun w i o e ho hf hnot => ?_⟩
  · rw [hwei, DecimalAmount.whole_iff]
    cases hu : f.valueLimit.limit.toBaseUnits DecimalAmount.nativeDecimals with
    | error e => exact iff_of_false nofun (by rintro ⟨u, hu'⟩; cases hu.symm.trans hu')
    | ok u => exact iff_of_true ⟨u, rfl⟩ ⟨u, hu⟩
  · rw [hw] at hwei
    cases hu : f.valueLimit.limit.toBaseUnits DecimalAmount.nativeDecimals with
    | error e =>
      rw [hu] at hwei
      cases hwei
    | ok u =>
      rw [hu] at hwei
      cases hwei
      exact DecimalAmount.toBaseUnits_eq_ok_iff.mp hu
  · obtain ⟨p, hp, ⟨token, hok, -⟩ | ⟨hform, -⟩⟩ := World.edit_form (e := e) ho
    · exact absurd hok (hnot token)
    · rw [hp, Option.map_some, hform, hf]

/-- Every form that is put together is consistent, and an amount is refused only where it has to be whole. -/
theorem Assembled.consistent (h : f.Assembled) : f.Consistent ∧ Strict := ⟨h.sound.isConsistent, strict⟩

/-- A limit finer than the units of the coin is kept as long as it is off, and is not turned on. -/
theorem consistent_fine : ∃ f, Edit.change initial (.setValueLimit "0.0000000000000000001") = .ok (f, none) ∧
    f.Assembled ∧ ¬ f.valueLimit.limit.Whole 18 ∧ ∀ v, f.valueLimit.setActive true ≠ .ok v := by
  have h : Edit.change initial (.setValueLimit "0.0000000000000000001") =
      .ok ({ initial with valueLimit := ⟨false, ⟨1, 19, by decide⟩, none⟩ }, none) := rfl
  have assembled := Assembled.edited .initial h trivial
  obtain ⟨consistent, hstrict⟩ := assembled.consistent
  have hfine : ¬ DecimalAmount.Whole ⟨1, 19, by decide⟩ 18 := fun hwhole => by
    obtain ⟨_, hwei⟩ := consistent.present.mpr hwhole
    cases hwei
  exact ⟨_, h, assembled, hfine, fun v hv => hfine ((hstrict.activated _).passes.mp ⟨v, hv⟩)⟩

end PolicyForm
end PasskeySession
