import PasskeySession.Proofs.Instant.Text
import PasskeySession.Proofs.Policy.Scaled

/-! # Forms that can come about

A form begins new or is read from a text, and is then edited with numbers of the sizes that the fields have.
What can come about has one cap for each token, numbers that fit, and bounds of time that a clock counts. -/

namespace PasskeySession

/-! ### Sizes of what is read -/

theorem Text.digitsBelow_lt {bound n m : Nat} {cs : List Char} (hn : n < bound) (h : digitsBelow bound n cs = .ok m) :
    m < bound := by
  induction cs generalizing n with
  | nil =>
    cases h
    exact hn
  | cons c cs ih =>
    rw [digitsBelow] at h
    dsimp only at h
    split at h
    · split at h
      · rename_i hlt
        exact ih hlt h
      · cases h
    · cases h

theorem Text.naturalBelow_lt {bound m : Nat} {cs : List Char} (hpos : 0 < bound) (h : naturalBelow bound cs = .ok m) :
    m < bound := by
  unfold naturalBelow at h
  split at h
  · cases h
  · cases h
  · exact digitsBelow_lt hpos h
  · exact digitsBelow_lt hpos h

theorem Json.Decoder.word64_lt {room n : Nat} {tree : Json.Tree} (h : Json.Decoder.word64 room tree = .ok n) :
    n < Text.wordLimit := by
  unfold word64 at h
  split at h
  · split at h
    · split at h
      · rename_i hlt
        cases h
        exact hlt
      · cases h
    · cases h
  · cases h

theorem Json.Decoder.andThen_eq_ok {α β : Type} {d : Json.Decoder α} {f : α → Except DecodeError β} {room : Nat}
    {tree : Json.Tree} {b : β} (h : d.andThen f room tree = .ok b) : ∃ a, d room tree = .ok a ∧ f a = .ok b := by
  unfold andThen at h
  split at h
  · cases h
  · rename_i a ha
    exact ⟨a, ha, h⟩

theorem Instant.proper_of_boundDecoder {room : Nat} {tree : Json.Tree} {bound : Option Instant}
    (h : boundDecoder room tree = .ok bound) : ∀ t ∈ bound, t.Proper := by
  unfold boundDecoder at h
  split at h
  · cases h
    rintro _ ⟨⟩
  · unfold Json.Decoder.text at h
    split at h
    · cases h
    · split at h
      · rename_i hread
        cases h
        unfold boundOfText at hread
        split at hread
        · cases hread
          rintro _ ⟨⟩
        · obtain ⟨t, ht, rfl⟩ := map_eq_ok hread
          rintro _ ⟨⟩
          exact proper_of_parse ht
      · cases h

/-! ### Lists of caps -/

namespace TokenPolicy
variable {t u : TokenPolicy} {ts us : List TokenPolicy} {address : Address}

theorem map_address_upsert (t : TokenPolicy) (ts : List TokenPolicy) :
    (upsert t ts).map TokenPolicy.address =
      if t.address ∈ ts.map TokenPolicy.address then ts.map TokenPolicy.address
      else ts.map TokenPolicy.address ++ [t.address] := by
  induction ts with
  | nil => rfl
  | cons u us ih =>
    rw [upsert]
    by_cases hu : u.address = t.address
    · simp [hu]
    · have hne : ¬ t.address = u.address := fun h => hu h.symm
      rw [if_neg hu, List.map_cons, ih]
      by_cases hmem : t.address ∈ us.map TokenPolicy.address
      · rw [List.map_cons, if_pos hmem, if_pos (List.mem_cons_of_mem _ hmem)]
      · have hnew : t.address ∉ u.address :: us.map TokenPolicy.address :=
          fun h => (List.mem_cons.mp h).elim hne hmem
        rw [List.map_cons, if_neg hmem, if_neg hnew, List.cons_append]

/-- One cap for each token. -/
def Distinct (ts : List TokenPolicy) : Prop := (ts.map TokenPolicy.address).Nodup

theorem Distinct.upsert (h : Distinct ts) (t : TokenPolicy) : Distinct (upsert t ts) := by
  unfold Distinct at h ⊢
  rw [map_address_upsert]
  split
  · exact h
  · rename_i hnew
    refine List.nodup_append.mpr ⟨h, List.nodup_cons.mpr ⟨List.not_mem_nil, List.nodup_nil⟩, ?_⟩
    rintro a ha b hb rfl
    exact hnew (List.mem_singleton.mp hb ▸ ha)

theorem remove_sublist (address : Address) (ts : List TokenPolicy) : (remove address ts).Sublist ts := by
  induction ts with
  | nil => exact List.Sublist.slnil
  | cons u us ih =>
    rw [remove]
    split
    · exact List.sublist_cons_self u us
    · exact ih.cons_cons u

theorem Distinct.remove (h : Distinct ts) (address : Address) : Distinct (remove address ts) :=
  h.sublist ((remove_sublist address ts).map _)

theorem distinct_nil : Distinct [] := List.nodup_nil

theorem distinct_ofList (ts : List TokenPolicy) : Distinct (ofList ts) := by
  have hfold : ∀ {us : List TokenPolicy}, Distinct us → Distinct (ts.foldl (fun us t => TokenPolicy.upsert t us) us) := by
    intro us hus
    induction ts generalizing us with
    | nil => exact hus
    | cons t ts ih => exact ih (hus.upsert t)
  exact hfold distinct_nil

theorem upsert_new (h : t.address ∉ ts.map TokenPolicy.address) : upsert t ts = ts ++ [t] := by
  induction ts with
  | nil => rfl
  | cons u us ih =>
    obtain ⟨hu, hus⟩ := not_or.mp (fun hmem => h (List.mem_cons.mpr hmem))
    rw [upsert, if_neg (fun heq => hu heq.symm), ih hus, List.cons_append]

theorem foldl_upsert_new (h : Distinct (us ++ ts)) :
    ts.foldl (fun us t => upsert t us) us = us ++ ts := by
  induction ts generalizing us with
  | nil => exact (List.append_nil us).symm
  | cons t ts ih =>
    have hnew : t.address ∉ us.map TokenPolicy.address := by
      unfold Distinct at h
      rw [List.map_append, List.nodup_append] at h
      exact fun hmem => h.2.2 _ hmem _ (List.mem_map_of_mem List.mem_cons_self) rfl
    have hsplit : us ++ t :: ts = us ++ [t] ++ ts := List.append_cons us t ts
    rw [hsplit] at h ⊢
    rw [List.foldl_cons, upsert_new hnew]
    exact ih h

/-- A list with one cap for each token is kept as it is. -/
theorem ofList_eq_self (h : Distinct ts) : ofList ts = ts := foldl_upsert_new h

/-- One cap for each token, and decimals of eight bits. -/
structure Listed (ts : List TokenPolicy) : Prop where
  distinct : Distinct ts
  decimals : ∀ t ∈ ts, t.decimals < 256

theorem listed_nil : Listed [] := ⟨distinct_nil, by rintro _ ⟨⟩⟩

theorem Listed.upsert (h : Listed ts) (ht : t.decimals < 256) : Listed (upsert t ts) := by
  refine ⟨h.distinct.upsert t, fun u hu => ?_⟩
  rcases mem_upsert hu with rfl | hu
  · exact ht
  · exact h.decimals u hu

theorem Listed.remove (h : Listed ts) (address : Address) : Listed (remove address ts) :=
  ⟨h.distinct.remove address, fun u hu => h.decimals u (mem_of_mem_remove hu)⟩

theorem listed_ofList (h : ∀ t ∈ ts, t.decimals < 256) : Listed (ofList ts) :=
  ⟨distinct_ofList ts, fun t ht => h t (mem_of_mem_ofList ht)⟩

theorem decimals_of_make {symbol name : String} {decimals : Nat} {limit : DecimalAmount}
    (h : make address symbol name decimals limit = .ok t) : t.decimals = decimals := by
  obtain ⟨units, -, rfl⟩ := map_eq_ok h
  rfl

theorem decimals_of_setLimit {limit : DecimalAmount} (h : t.setLimit limit = .ok u) : u.decimals = t.decimals := by
  obtain ⟨units, -, rfl⟩ := map_eq_ok h
  rfl

theorem decimals_of_ofTexts {addressText symbol name limit : String} {decimals : Nat}
    (h : ofTexts addressText symbol name decimals limit = .ok t) : t.decimals = decimals := by
  obtain ⟨_, -, h⟩ := bind_eq_ok h
  obtain ⟨_, -, h⟩ := bind_eq_ok h
  exact decimals_of_make h

theorem decimalsOfJson_lt {v : Json} {decimals : Nat} (h : decimalsOfJson v = .ok decimals) : decimals < 256 := by
  unfold decimalsOfJson at h
  split at h
  · exact Text.naturalBelow_lt (by decide) (mapError_eq_ok h)
  · split at h
    · split at h
      · rename_i hlt
        cases h
        exact hlt
      · cases h
    · cases h
  · cases h

theorem decimals_of_decoder {room : Nat} {tree : Json.Tree} (h : decoder room tree = .ok t) : t.decimals < 256 := by
  obtain ⟨⟨_, _, _, decimals, _, _⟩, ⟨-, -, -, hgives, -, -⟩, h⟩ := Json.Decoder.record_eq_ok h
  rw [decimals_of_make (mapError_eq_ok h)]
  rcases hgives with ⟨room, tree, h⟩ | h
  · obtain ⟨_, -, h⟩ := Json.Decoder.andThen_eq_ok h
    exact decimalsOfJson_lt h
  · cases h

end TokenPolicy

theorem SpendingLimits.listed_of_decoder {s : SpendingLimits} {room : Nat} {tree : Json.Tree}
    (h : decoder room tree = .ok s) : TokenPolicy.Listed s.tokens := by
  obtain ⟨⟨active, tokens, _⟩, ⟨-, htokens, -⟩, h⟩ := Json.Decoder.record_eq_ok h
  cases h
  refine TokenPolicy.listed_ofList fun t ht => ?_
  rcases htokens with ⟨room, tree, h⟩ | h
  · obtain ⟨room, tree, h⟩ := Json.Decoder.list_eq_ok h t ht
    exact TokenPolicy.decimals_of_decoder h
  · cases h
    cases ht

/-! ### The other parts -/

namespace TimeFrame

/-- The bounds that are set. -/
def bounds (f : TimeFrame) : List Instant := f.start.toList ++ f.stop.toList

theorem bounds_proper {f : TimeFrame} (hstart : ∀ t ∈ f.start, t.Proper) (hstop : ∀ t ∈ f.stop, t.Proper) :
    ∀ t ∈ f.bounds, t.Proper := by
  intro t ht
  rcases List.mem_append.mp ht with ht | ht
  · exact hstart t (Option.mem_toList.mp ht)
  · exact hstop t (Option.mem_toList.mp ht)

theorem start_proper {f : TimeFrame} (h : ∀ t ∈ f.bounds, t.Proper) : ∀ t ∈ f.start, t.Proper :=
  fun t ht => h t (List.mem_append_left _ (Option.mem_toList.mpr ht))

theorem stop_proper {f : TimeFrame} (h : ∀ t ∈ f.bounds, t.Proper) : ∀ t ∈ f.stop, t.Proper :=
  fun t ht => h t (List.mem_append_right _ (Option.mem_toList.mpr ht))

theorem proper_of_decoder {f : TimeFrame} {room : Nat} {tree : Json.Tree} (h : decoder room tree = .ok f) :
    ∀ t ∈ f.bounds, t.Proper := by
  have hbound : ∀ {field : Json.Field (Option Instant)} {bound : Option Instant}, field.decode = Instant.boundDecoder →
      field.absent = some none → field.Gives bound → ∀ t ∈ bound, t.Proper := by
    intro field bound hdecode habsent hgives
    rcases hgives with ⟨room, tree, h⟩ | h
    · rw [hdecode] at h
      exact Instant.proper_of_boundDecoder h
    · rw [habsent] at h
      cases h
      rintro _ ⟨⟩
  obtain ⟨⟨_, start, stop, _⟩, ⟨-, hstart, hstop, -⟩, h⟩ := Json.Decoder.record_eq_ok h
  cases h
  exact bounds_proper (hbound rfl rfl hstart) (hbound rfl rfl hstop)

end TimeFrame

theorem UniversalAction.usageCount_of_decoder {u : UniversalAction} {room : Nat} {tree : Json.Tree}
    (h : decoder room tree = .ok u) : u.usageCount < Text.wordLimit := by
  obtain ⟨⟨_, usageCount, _⟩, ⟨-, hgives, -⟩, h⟩ := Json.Decoder.record_eq_ok h
  cases h
  rcases hgives with ⟨room, tree, h⟩ | h
  · exact Json.Decoder.word64_lt h
  · cases h
    exact (by decide : 0 < Text.wordLimit)

/-! ### Forms -/

/-- The numbers of an edit have the sizes of their fields: eight bits for decimals, 64 for a count. -/
def Edit.Fits : Edit → Prop
  | .upsertToken _ _ _ decimals _ => decimals < 256
  | .universal _ usageCount => usageCount < Text.wordLimit
  | _ => True

namespace PolicyForm
variable {f g : PolicyForm}

/-- What holds of every form that can come about. -/
structure Sound (f : PolicyForm) : Prop where
  scaled : f.Scaled
  tokens : TokenPolicy.Listed f.spending.tokens
  usageCount : f.universal.usageCount < Text.wordLimit
  bounds : ∀ t ∈ f.timeFrame.bounds, t.Proper

theorem sound_initial : initial.Sound where
  scaled := scaled_initial
  tokens := TokenPolicy.listed_nil
  usageCount := by decide
  bounds := by rintro _ ⟨⟩

theorem sound_of_decoder {room : Nat} {tree : Json.Tree} (h : decoder room tree = .ok f) : f.Sound := by
  have scaled := scaled_of_decoder h
  obtain ⟨⟨_, spending, timeFrame, universal, _, _⟩, ⟨-, hs, ht, hu, -, -⟩, h⟩ := Json.Decoder.record_eq_ok h
  cases h
  refine ⟨scaled, ?_, ?_, ?_⟩
  · rcases hs with ⟨_, _, h⟩ | h
    · exact SpendingLimits.listed_of_decoder h
    · cases h
      exact sound_initial.tokens
  · rcases hu with ⟨_, _, h⟩ | h
    · exact UniversalAction.usageCount_of_decoder h
    · cases h
      exact sound_initial.usageCount
  · rcases ht with ⟨_, _, h⟩ | h
    · exact TimeFrame.proper_of_decoder h
    · cases h
      exact sound_initial.bounds

theorem listed_removeToken (h : TokenPolicy.Listed f.spending.tokens) (address : Address) :
    TokenPolicy.Listed (f.removeToken address).1.spending.tokens := by
  unfold removeToken
  split
  · exact h
  · exact h.remove address

theorem Sound.setTokenLimit (h : f.Sound) {address : Address} {limit : String} {t : Option TokenPolicy}
    (hs : f.setTokenLimit address limit = .ok (g, t)) : g.Sound := by
  have scaled := h.scaled.setTokenLimit hs
  unfold PolicyForm.setTokenLimit at hs
  split at hs
  · cases hs
    exact h
  · rename_i u hu
    obtain ⟨_, -, hs⟩ := bind_eq_ok hs
    obtain ⟨v, hv, hs⟩ := bind_eq_ok hs
    cases hs
    have hmem : u ∈ f.spending.tokens := List.mem_of_find?_eq_some hu
    have hdecimals : v.decimals < 256 := TokenPolicy.decimals_of_setLimit hv ▸ h.tokens.decimals u hmem
    exact ⟨scaled, h.tokens.upsert hdecimals, h.usageCount, h.bounds⟩

theorem proper_of_mapM {text : Option String} {bound : Option Instant}
    (h : text.mapM Instant.parse = .ok bound) : ∀ t ∈ bound, t.Proper := by
  cases text with
  | none =>
    cases h
    rintro _ ⟨⟩
  | some s =>
    obtain ⟨t, ht, h⟩ := map_eq_ok h
    cases h
    rintro _ ⟨⟩
    exact Instant.proper_of_parse ht

/-- Every edit whose numbers fit keeps a form sound. -/
theorem Sound.change (h : f.Sound) {e : Edit} (hfits : e.Fits) {t : Option TokenPolicy}
    (he : e.change f = .ok (g, t)) : g.Sound := by
  have scaled := h.scaled.change he
  cases e with
  | load text =>
    rw [Edit.change] at he
    split at he
    · rename_i hr
      cases he
      obtain ⟨_, hr⟩ := Json.Decoder.runText_eq_ok hr
      exact sound_of_decoder hr
    · cases he
  | unrestricted | spending | timeActive =>
    cases he
    exact ⟨scaled, h.tokens, h.usageCount, h.bounds⟩
  | universal active usageCount =>
    cases he
    exact ⟨scaled, h.tokens, hfits, h.bounds⟩
  | upsertToken address symbol name decimals limit =>
    obtain ⟨u, hu, he⟩ := bind_eq_ok he
    cases he
    have hdecimals : u.decimals < 256 := TokenPolicy.decimals_of_ofTexts (mapError_eq_ok hu) ▸ hfits
    exact ⟨scaled, h.tokens.upsert hdecimals, h.usageCount, h.bounds⟩
  | removeToken address =>
    obtain ⟨a, -, he⟩ := bind_eq_ok he
    have hg : (f.removeToken a).1 = g := congrArg Prod.fst (Except.ok.inj he)
    subst hg
    have hrest : (f.removeToken a).1.universal = f.universal ∧ (f.removeToken a).1.timeFrame = f.timeFrame := by
      unfold PolicyForm.removeToken
      split <;> exact ⟨rfl, rfl⟩
    exact ⟨scaled, listed_removeToken h.tokens a, hrest.1 ▸ h.usageCount, hrest.2 ▸ h.bounds⟩
  | setTokenLimit address limit =>
    obtain ⟨_, -, he⟩ := bind_eq_ok he
    exact h.setTokenLimit (mapError_eq_ok he)
  | timeStart text =>
    obtain ⟨start, hstart, he⟩ := bind_eq_ok he
    cases he
    have hstop := TimeFrame.stop_proper h.bounds
    exact ⟨scaled, h.tokens, h.usageCount, TimeFrame.bounds_proper (proper_of_mapM (mapError_eq_ok hstart)) hstop⟩
  | timeStop text =>
    obtain ⟨stop, hstop, he⟩ := bind_eq_ok he
    cases he
    have hstart := TimeFrame.start_proper h.bounds
    exact ⟨scaled, h.tokens, h.usageCount, TimeFrame.bounds_proper hstart (proper_of_mapM (mapError_eq_ok hstop))⟩
  | timeBetween start stop =>
    obtain ⟨start, hstart, he⟩ := bind_eq_ok he
    obtain ⟨stop, hstop, he⟩ := bind_eq_ok he
    cases he
    refine ⟨scaled, h.tokens, h.usageCount, TimeFrame.bounds_proper ?_ ?_⟩
    · rintro _ ⟨⟩
      exact Instant.proper_of_parse (mapError_eq_ok hstart)
    · rintro _ ⟨⟩
      exact Instant.proper_of_parse (mapError_eq_ok hstop)
  | valueLimit active limit | setValueLimit limit =>
    obtain ⟨_, -, he⟩ := bind_eq_ok he
    obtain ⟨_, -, he⟩ := bind_eq_ok he
    cases he
    exact ⟨scaled, h.tokens, h.usageCount, h.bounds⟩
  | valueActive active =>
    obtain ⟨_, -, he⟩ := bind_eq_ok he
    cases he
    exact ⟨scaled, h.tokens, h.usageCount, h.bounds⟩

/-- A form that can come about: a new one or one that is read from a text, and then edited with numbers that
fit. The bounds of the time may also be set without a text, to what a clock counts. -/
inductive Attained : PolicyForm → Prop
  | initial : Attained .initial
  | decoded {f : PolicyForm} {text : String} (h : decoder.runText text = .ok f) : Attained f
  | edited {f g : PolicyForm} {e : Edit} {t : Option TokenPolicy} (h : Attained f) (he : e.change f = .ok (g, t))
      (hfits : e.Fits) : Attained g
  | timed {f : PolicyForm} (h : Attained f) (time : TimeFrame) (htime : ∀ t ∈ time.bounds, t.Proper) :
      Attained { f with timeFrame := time }

theorem Attained.sound (h : f.Attained) : f.Sound := by
  induction h with
  | initial => exact sound_initial
  | decoded h =>
    obtain ⟨_, h⟩ := Json.Decoder.runText_eq_ok h
    exact sound_of_decoder h
  | edited _ he hfits ih => exact ih.change hfits he
  | timed _ time htime ih => exact ⟨⟨ih.scaled.tokens, ih.scaled.valueLimit⟩, ih.tokens, ih.usageCount, htime⟩

end PolicyForm
end PasskeySession
