import Mathlib.Data.List.Basic
import Mathlib.Data.List.Induction
import PasskeySession.Proofs.Json.Record
import PasskeySession.Proofs.Policy.Attained
import PasskeySession.Proofs.Text.Letters

/-! # Caps by token

The caps of a form are a map from addresses to caps that keeps the order in which the addresses came. A list that
is loaded makes such a map, whatever tokens it repeats, and so it stays when caps are put in and taken out. -/

namespace PasskeySession
open Function (update)

/-- Caps by the addresses of their tokens, and the addresses in the order in which they came. -/
@[ext] structure TokenMap where
  order : List Address
  cap : Address → Option TokenPolicy

/-- A cap is put into a form, or taken out of it. -/
inductive TokenCall
  | put (t : TokenPolicy)
  | take (address : Address)

namespace TokenMap

/-- The map of a list: an address stands where it comes first, and its cap is the one that comes last. -/
def load (ts : List TokenPolicy) : TokenMap where
  order := (ts.map TokenPolicy.address).eraseDups
  cap := fun a => (ts.filter fun t => t.address = a).getLast?

def insert (m : TokenMap) (t : TokenPolicy) : TokenMap where
  order := if t.address ∈ m.order then m.order else m.order ++ [t.address]
  cap := update m.cap t.address (some t)

def erase (m : TokenMap) (a : Address) : TokenMap where
  order := m.order.filter (· ≠ a)
  cap := update m.cap a none

def entries (m : TokenMap) : List TokenPolicy := m.order.filterMap m.cap

def after (m : TokenMap) : TokenCall → TokenMap × Option TokenPolicy
  | .put t => (m.insert t, none)
  | .take a => (m.erase a, m.cap a)

/-- A list without repeated tokens as a map. -/
def of (ts : List TokenPolicy) : TokenMap where
  order := ts.map TokenPolicy.address
  cap := fun a => TokenPolicy.find? a ts

end TokenMap

/-- What a call makes of a form, and the cap that it gives back. -/
def PolicyForm.after (f : PolicyForm) : TokenCall → PolicyForm × Option TokenPolicy
  | .put t => (f.withTokens (TokenPolicy.upsert t f.spending.tokens), none)
  | .take a => f.removeToken a

/-- What calls make of something one after the other, and what each of them gives back. -/
def TokenCall.run {σ : Type} (after : σ → TokenCall → σ × Option TokenPolicy) :
    List TokenCall → σ → σ × List (Option TokenPolicy)
  | [], s => (s, [])
  | c :: cs, s =>
    let (s, given) := after s c
    let (s, rest) := run after cs s
    (s, given :: rest)

/-! ### Lists without repeated tokens -/

namespace TokenPolicy
variable {t u : TokenPolicy} {ts before later : List TokenPolicy} {a b : Address}

theorem find?_cons (t : TokenPolicy) (ts : List TokenPolicy) (a : Address) :
    find? a (t :: ts) = if t.address = a then some t else find? a ts := by
  unfold find?
  rw [List.find?_cons]
  by_cases h : t.address = a <;> simp [h]

theorem find?_eq_none (h : a ∉ ts.map TokenPolicy.address) : find? a ts = none := by
  rw [find?, List.find?_eq_none]
  intro t ht heq
  exact h (List.mem_map.mpr ⟨t, ht, of_decide_eq_true heq⟩)

theorem address_of_find? (h : find? a ts = some t) : t ∈ ts ∧ t.address = a := by
  have ha := List.find?_some h
  exact ⟨List.mem_of_find?_eq_some h, of_decide_eq_true ha⟩

theorem find?_upsert (t : TokenPolicy) (ts : List TokenPolicy) (a : Address) :
    find? a (upsert t ts) = if t.address = a then some t else find? a ts := by
  induction ts with
  | nil => rw [upsert, find?_cons]
  | cons u us ih =>
    rw [upsert]
    by_cases hu : u.address = t.address
    · rw [if_pos hu, find?_cons, find?_cons, hu]
      split <;> rfl
    · rw [if_neg hu, find?_cons, find?_cons, ih]
      by_cases ha : t.address = a
      · have hua : ¬ u.address = a := fun h => hu (h.trans ha.symm)
        rw [if_pos ha, if_neg hua, if_pos ha]
      · rw [if_neg ha, if_neg ha]

theorem remove_of_not_mem (h : a ∉ ts.map TokenPolicy.address) : remove a ts = ts := by
  induction ts with
  | nil => rfl
  | cons u us ih =>
    rw [List.map_cons, List.mem_cons, not_or] at h
    rw [remove, if_neg (Ne.symm h.1), ih h.2]

theorem map_address_remove (h : Distinct ts) (a : Address) :
    (remove a ts).map TokenPolicy.address = (ts.map TokenPolicy.address).filter (· ≠ a) := by
  induction ts with
  | nil => rfl
  | cons u us ih =>
    obtain ⟨hu, hus⟩ := List.nodup_cons.mp h
    rw [remove]
    by_cases ha : u.address = a
    · subst ha
      have hkeep : ∀ b ∈ us.map TokenPolicy.address, decide (b ≠ u.address) = true := by
        intro b hb
        exact decide_eq_true fun heq => hu (heq ▸ hb)
      rw [if_pos rfl, List.map_cons, List.filter_cons_of_neg (by simp), List.filter_eq_self.mpr hkeep]
    · rw [if_neg ha, List.map_cons, List.map_cons, List.filter_cons_of_pos (by simpa using ha), ih hus]

theorem find?_remove (h : Distinct ts) (a b : Address) :
    find? b (remove a ts) = if b = a then none else find? b ts := by
  induction ts with
  | nil => simp [remove, find?]
  | cons u us ih =>
    obtain ⟨hu, hus⟩ := List.nodup_cons.mp h
    rw [remove]
    by_cases ha : u.address = a
    · rw [if_pos ha, find?_cons]
      by_cases hb : b = a
      · rw [if_pos hb, find?_eq_none (by rwa [hb, ← ha])]
      · rw [if_neg hb, if_neg (fun heq => hb (heq.symm.trans ha))]
    · rw [if_neg ha, find?_cons, find?_cons, ih hus]
      by_cases hb : b = a
      · rw [if_pos hb, if_neg (fun heq => ha (heq.trans hb)), if_pos hb]
      · rw [if_neg hb, if_neg hb]

theorem find?_of_mem (h : Distinct ts) (ht : t ∈ ts) : find? t.address ts = some t := by
  induction ts with
  | nil => cases ht
  | cons u us ih =>
    obtain ⟨hu, hus⟩ := List.nodup_cons.mp h
    rw [find?_cons]
    rcases List.mem_cons.mp ht with rfl | ht
    · rw [if_pos rfl]
    · rw [if_neg (fun heq => hu (List.mem_map.mpr ⟨t, ht, heq.symm⟩)), ih hus ht]

theorem upsert_append (h : u.address = t.address) (hb : ∀ v ∈ before, v.address ≠ t.address) :
    upsert t (before ++ u :: later) = before ++ t :: later := by
  induction before with
  | nil => exact if_pos h
  | cons v vs ih =>
    obtain ⟨hv, hvs⟩ := List.forall_mem_cons.mp hb
    rw [List.cons_append, upsert, if_neg hv, ih hvs, List.cons_append]

theorem remove_append (hb : ∀ v ∈ before, v.address ≠ u.address) :
    remove u.address (before ++ u :: later) = before ++ later := by
  induction before with
  | nil => exact if_pos rfl
  | cons v vs ih =>
    obtain ⟨hv, hvs⟩ := List.forall_mem_cons.mp hb
    rw [List.cons_append, remove, if_neg hv, ih hvs, List.cons_append]

theorem Distinct.apart (h : Distinct (before ++ u :: later)) : ∀ v ∈ before, v.address ≠ u.address := by
  unfold Distinct at h
  rw [List.map_append, List.map_cons, List.nodup_append] at h
  intro v hv
  exact h.2.2 _ (List.mem_map_of_mem hv) _ List.mem_cons_self

end TokenPolicy

/-! ### Maps -/

namespace TokenMap
open TokenPolicy (Distinct upsert remove find?)
variable {ts : List TokenPolicy} {m : TokenMap}

theorem of_upsert (t : TokenPolicy) (ts : List TokenPolicy) : of (upsert t ts) = (of ts).insert t := by
  ext1
  · exact TokenPolicy.map_address_upsert t ts
  · funext a
    simp only [of, insert, TokenPolicy.find?_upsert, Function.update_apply, eq_comm]

theorem of_remove (h : Distinct ts) (a : Address) : of (remove a ts) = (of ts).erase a := by
  ext1
  · exact TokenPolicy.map_address_remove h a
  · funext b
    simp only [of, erase, TokenPolicy.find?_remove h, Function.update_apply]

theorem entries_of (h : Distinct ts) : (of ts).entries = ts := by
  have hfound : ts.filterMap (fun t => find? t.address ts) = ts.filterMap some := by
    apply List.filterMap_congr
    intro t ht
    exact TokenPolicy.find?_of_mem h ht
  rw [entries, of, List.filterMap_map]
  exact hfound.trans List.filterMap_some

/-- One cap more at the end of a list is put into its map. -/
theorem load_concat (ts : List TokenPolicy) (t : TokenPolicy) : load (ts ++ [t]) = (load ts).insert t := by
  ext1
  · have hmem : t.address ∈ (ts.map TokenPolicy.address).eraseDups ↔ t.address ∈ ts.map TokenPolicy.address :=
      List.mem_eraseDups
    simp only [load, insert, List.map_append, List.map_cons, List.map_nil, List.eraseDups_append, hmem,
      List.cons_removeAll, List.contains_eq_mem]
    by_cases h : t.address ∈ ts.map TokenPolicy.address
    · simp [h, List.removeAll]
    · simp [h, List.removeAll, List.eraseDups_cons]
  · funext a
    simp only [load, insert, List.filter_append, Function.update_apply]
    by_cases ha : t.address = a
    · simp [ha]
    · simp [ha, Ne.symm ha]

theorem of_ofList (ts : List TokenPolicy) : of (TokenPolicy.ofList ts) = load ts := by
  -- loading goes through the list from the front, so the induction takes the last cap off
  induction ts using List.reverseRecOn with
  | nil => rfl
  | append_singleton ts t ih =>
    rw [TokenPolicy.ofList, List.foldl_append, load_concat, ← ih]
    exact of_upsert t _

/-- Each address of the order has one cap, on its own token, and there are no others. -/
structure Proper (m : TokenMap) : Prop where
  distinct : m.order.Nodup
  mem_iff : ∀ a, a ∈ m.order ↔ ∃ t, m.cap a = some t
  own : ∀ a t, m.cap a = some t → t.address = a

theorem proper_of (h : Distinct ts) : (of ts).Proper where
  distinct := h
  mem_iff a := by
    constructor
    · intro ha
      obtain ⟨t, ht, rfl⟩ := List.mem_map.mp ha
      exact ⟨t, TokenPolicy.find?_of_mem h ht⟩
    · rintro ⟨t, ht⟩
      obtain ⟨hmem, rfl⟩ := TokenPolicy.address_of_find? ht
      exact List.mem_map_of_mem hmem
  own a t ht := (TokenPolicy.address_of_find? ht).2

end TokenMap

/-! ### Calls -/

namespace PolicyForm
open TokenPolicy (Distinct)
variable {f : PolicyForm}

/-- A form with the caps of a map in their order, and otherwise like another one. -/
structure Follows (f : PolicyForm) (m : TokenMap) (g : PolicyForm) : Prop where
  distinct : Distinct g.spending.tokens
  map : TokenMap.of g.spending.tokens = m
  rest : g = f.withTokens g.spending.tokens

theorem Follows.entries {m : TokenMap} {g : PolicyForm} (h : f.Follows m g) : g.spending.tokens = m.entries := by
  rw [← h.map, TokenMap.entries_of h.distinct]

theorem Follows.proper {m : TokenMap} {g : PolicyForm} (h : f.Follows m g) : m.Proper :=
  h.map ▸ TokenMap.proper_of h.distinct

theorem follows_after (h : Distinct f.spending.tokens) (c : TokenCall) :
    f.Follows ((TokenMap.of f.spending.tokens).after c).1 (f.after c).1 ∧
      (f.after c).2 = ((TokenMap.of f.spending.tokens).after c).2 := by
  cases c with
  | put t => exact ⟨⟨h.upsert t, TokenMap.of_upsert t _, rfl⟩, rfl⟩
  | take a =>
    have hcap : (TokenMap.of f.spending.tokens).cap a = TokenPolicy.find? a f.spending.tokens := rfl
    rw [after, removeToken, TokenMap.after, hcap]
    cases hfind : TokenPolicy.find? a f.spending.tokens with
    | none =>
      have habsent : a ∉ f.spending.tokens.map TokenPolicy.address := by
        intro hmem
        obtain ⟨t, ht⟩ := ((TokenMap.proper_of h).mem_iff a).mp hmem
        rw [hcap, hfind] at ht
        cases ht
      have hsame := TokenMap.of_remove h a
      rw [TokenPolicy.remove_of_not_mem habsent] at hsame
      exact ⟨⟨h, hsame, rfl⟩, rfl⟩
    | some t => exact ⟨⟨h.remove a, TokenMap.of_remove h a, rfl⟩, rfl⟩

/-- After any calls the caps are still those of the map. -/
theorem follows_run (h : Distinct f.spending.tokens) (calls : List TokenCall) :
    f.Follows (TokenCall.run TokenMap.after calls (TokenMap.of f.spending.tokens)).1
        (TokenCall.run PolicyForm.after calls f).1 ∧
      (TokenCall.run PolicyForm.after calls f).2 =
        (TokenCall.run TokenMap.after calls (TokenMap.of f.spending.tokens)).2 := by
  -- the form after one call is another one without repeated tokens, so the form is general in the induction
  induction calls generalizing f with
  | nil => exact ⟨⟨h, rfl, rfl⟩, rfl⟩
  | cons c calls ih =>
    obtain ⟨hstep, hgiven⟩ := follows_after h c
    obtain ⟨hrun, hrest⟩ := ih hstep.distinct
    rw [hstep.map] at hrun hrest
    refine ⟨⟨hrun.distinct, hrun.map, ?_⟩, ?_⟩
    · have hwith : ∀ ts, (f.after c).1.withTokens ts = f.withTokens ts := by
        intro ts
        rw [hstep.rest]
        rfl
      exact hrun.rest.trans (hwith _)
    · simp only [TokenCall.run, hgiven, hrest]

/-- Where a cap stands that is put into a form, and what is left when one is taken out. -/
structure Places (f : PolicyForm) : Prop where
  replaced : ∀ before u later t, f.spending.tokens = before ++ u :: later → u.address = t.address →
    f.after (.put t) = (f.withTokens (before ++ t :: later), none)
  appended : ∀ t, t.address ∉ f.spending.tokens.map TokenPolicy.address →
    f.after (.put t) = (f.withTokens (f.spending.tokens ++ [t]), none)
  removed : ∀ before u later, f.spending.tokens = before ++ u :: later →
    f.after (.take u.address) = (f.withTokens (before ++ later), some u)
  absent : ∀ a, a ∉ f.spending.tokens.map TokenPolicy.address → f.after (.take a) = (f, none)

theorem places (h : Distinct f.spending.tokens) : f.Places where
  replaced := by
    intro before u later t htokens haddress
    rw [htokens] at h
    rw [after, htokens, TokenPolicy.upsert_append haddress (haddress ▸ h.apart)]
  appended := by
    intro t hnew
    rw [after, TokenPolicy.upsert_new hnew]
  removed := by
    intro before u later htokens
    have hmem : u ∈ f.spending.tokens := by
      rw [htokens]
      exact List.mem_append_right _ List.mem_cons_self
    have hfind := TokenPolicy.find?_of_mem h hmem
    rw [htokens] at h hfind
    rw [after, removeToken, htokens, hfind]
    exact congrArg (fun ts => (f.withTokens ts, some u)) (TokenPolicy.remove_append h.apart)
  absent := by
    intro a hnew
    rw [after, removeToken, TokenPolicy.find?_eq_none hnew]

end PolicyForm

/-- The call that an edit makes, if its texts can be read. -/
def Edit.call? : Edit → Option TokenCall
  | upsertToken address symbol name decimals limit =>
    (TokenPolicy.ofTexts address symbol name decimals limit).toOption.map .put
  | removeToken address => (Address.parse address).toOption.map .take
  | _ => none

theorem Edit.change_of_call? {f : PolicyForm} {e : Edit} {c : TokenCall} (h : e.call? = some c) :
    e.change f = .ok (f.after c) := by
  unfold call? at h
  split at h
  · rename_i address symbol name decimals limit
    cases ht : TokenPolicy.ofTexts address symbol name decimals limit with
    | error e =>
      rw [ht] at h
      cases h
    | ok t =>
      rw [ht] at h
      cases h
      simp only [change, ht]
      rfl
  · rename_i address
    cases ha : Address.parse address with
    | error e =>
      rw [ha] at h
      cases h
    | ok a =>
      rw [ha] at h
      cases h
      simp only [change, ha]
      rfl
  · cases h

theorem Address.parse_of_alike {s t : String} {a : Address} (h : Text.Alike (Text.trim s.toList) (Text.trim t.toList))
    (ha : parse s = .ok a) : parse t = .ok a := by
  rw [parse, Word.ofText?_of_alike h] at ha
  rw [parse]
  split at ha
  · exact ha
  · cases ha

/-! ### What is loaded -/

namespace SpendingLimits

/-- The switch and the list of caps as they are written, with repeated tokens. -/
def listed : Json.Decoder (Bool × List TokenPolicy) :=
  Json.Decoder.record
    (.cons switchField <| .cons ⟨"tokenPolicies", Json.Decoder.list TokenPolicy.decoder, some []⟩ .nil)
    fun (active, tokens, ()) => .ok (active, tokens)

theorem decoder_eq (room : Nat) (tree : Json.Tree) :
    decoder room tree = (listed room tree).map fun (active, tokens) => ⟨active, TokenPolicy.ofList tokens⟩ :=
  let make : Bool × List TokenPolicy × Unit → Except DecodeError (Bool × List TokenPolicy) :=
    fun (active, tokens, ()) => .ok (active, tokens)
  let deduplicated : Bool × List TokenPolicy → SpendingLimits :=
    fun (active, tokens) => ⟨active, TokenPolicy.ofList tokens⟩
  Json.Decoder.record_map _ make deduplicated room tree

/-- Loaded from a list, the caps are a map in order of insertion, and stay one whatever is put in and taken out. -/
structure Ordered (ts : List TokenPolicy) : Prop where
  read : ∀ room tree,
    decoder room tree = (listed room tree).map fun (active, tokens) => ⟨active, TokenPolicy.ofList tokens⟩
  /-- An address stands where it is first in the list, with the cap that is last on it. -/
  loaded : TokenMap.of (TokenPolicy.ofList ts) = TokenMap.load ts ∧
    TokenPolicy.ofList ts = (TokenMap.load ts).entries
  run : ∀ (f : PolicyForm) (calls : List TokenCall), f.spending.tokens = TokenPolicy.ofList ts →
    ∃ g m given, TokenCall.run PolicyForm.after calls f = (g, given) ∧
      TokenCall.run TokenMap.after calls (TokenMap.load ts) = (m, given) ∧
      f.Follows m g ∧ g.spending.tokens = m.entries ∧ m.Proper ∧ g.Places
  edits : ∀ (f : PolicyForm) (e : Edit) (c : TokenCall), e.call? = some c → e.change f = .ok (f.after c)
  /-- Addresses are the same whatever the case of their letters, and whatever white space is around them. -/
  alike : ∀ (s t : String) (a : Address), Text.Alike (Text.trim s.toList) (Text.trim t.toList) →
    Address.parse s = .ok a →
    Address.parse t = .ok a ∧ ∀ room, Address.decoder room (.string (some t)) = .ok a

/-- Whatever list is loaded, no cap is lost that is not replaced, and no token has two. -/
theorem ordered (ts : List TokenPolicy) : Ordered ts where
  read := decoder_eq
  loaded := by
    have hmap := TokenMap.of_ofList ts
    exact ⟨hmap, by rw [← hmap, TokenMap.entries_of (TokenPolicy.distinct_ofList ts)]⟩
  run := by
    intro f calls hf
    have hdistinct : TokenPolicy.Distinct f.spending.tokens := hf ▸ TokenPolicy.distinct_ofList ts
    obtain ⟨hfollows, hgiven⟩ := PolicyForm.follows_run hdistinct calls
    rw [hf, TokenMap.of_ofList] at hfollows hgiven
    exact ⟨_, _, _, rfl, Prod.ext rfl hgiven.symm, hfollows, hfollows.entries, hfollows.proper,
      PolicyForm.places hfollows.distinct⟩
  edits := by
    intro f e c h
    exact Edit.change_of_call? h
  alike := by
    intro s t a h ha
    have ht := Address.parse_of_alike h ha
    refine ⟨ht, fun room => ?_⟩
    simp only [Address.decoder, Json.Decoder.text, Json.Decoder.string, ht]

end SpendingLimits
end PasskeySession
