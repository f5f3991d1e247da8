import PasskeySession.Proofs.Session.Calls

/-! # What a cache shows

After every run, whatever operations call for sessions on a cache, and in whatever order their calls end, the
cache shows what the notes on its calls say. A turn is looked at for one cache first: it starts a call, ends a
call, or leaves the cache and its calls alone. -/

namespace PasskeySession
open Function (update update_self update_of_ne)

/-! ### Turns of one cache -/

/-- What a turn can be to one cache and its calls, with the note that is taken of it. -/
inductive CacheTurn (n : Nat) (d : Displays) : Option CallNote → Displays → Prop
  | aside {d' : Displays} (hs : d'.cache n = d.cache n) (hl : d'.calls n = d.calls n) : CacheTurn n d none d'
  | made {d' : Displays} (hn : d.cache n = none) (hs : d'.cache n = some .empty) (hl : d'.calls n = d.calls n) :
    CacheTurn n d none d'
  | started {d' : Displays} {k : Nat} {fetched : Option Account} {s : SessionCache} {a : Account}
    (hk : d.begun ≤ k ∨ d.task k ≠ none) (hs : d.cache n = some s) (ha : (s.turned fetched).account = some a)
    (hs' : d'.cache n = some (s.called fetched))
    (hl : d'.calls n = update (d.calls n) k (some ⟨a, s.generation + 1⟩)) :
    CacheTurn n d (some (.started k fetched)) d'
  | answered {d' : Displays} {k : Nat} {l : Load} {r : Except ClientError (List SessionRecord)}
    (hk : d.calls n k = some l) (hk' : d'.task k = none)
    (hs : d'.cache n = (d.cache n).map fun s => (s.answered l r).2) (hl : d'.calls n = update (d.calls n) k none) :
    CacheTurn n d (some (.answered k l.account r)) d'
  | dropped {d' : Displays} {k : Nat} {l : Load} (hk : d.calls n k = some l) (hk' : d'.task k = none)
    (hs : d'.cache n = (d.cache n).map (·.dropped l)) (hl : d'.calls n = update (d.calls n) k none) :
    CacheTurn n d (some (.dropped k)) d'

namespace Displays
variable {d : Displays} {n m k : Nat} {f : SessionCache → SessionCache}

theorem cache_modifyCache_self : (d.modifyCache n f).cache n = (d.cache n).map f := update_self ..

theorem cache_modifyCache_of_ne (h : n ≠ m) : (d.modifyCache m f).cache n = d.cache n := update_of_ne h ..

end Displays

/-- An operation that goes on to call for sessions. -/
theorem cacheTurn_goesOn {d d' : Displays} {n m k : Nat} {point next : Waiting} {reply : Reply} {s : SessionCache}
    {fetched : Option Account} {a : Account} (hk : d.task k = some point) (hp : point.call? = none)
    (hq : next.call? = some ⟨m, a, s.generation + 1⟩) (hf : point.fetches? = fetched) (hs : d.cache m = some s)
    (ha : (s.turned fetched).account = some a)
    (hs' : d'.cache = update d.cache m (some (s.called fetched)))
    (hl : d'.task = update d.task k (some next)) :
    CacheTurn n d (CallNote.of n d.task (.answer k reply) (.progress k (.waiting next))) d' := by
  have hcalls : d'.calls n = update (d.calls n) k (next.callOn? n) := by
    refine Eq.trans ?_ (Displays.seen_setTask (t := some next))
    funext j
    exact congrArg (Option.bind · _) (congrFun hl j)
  rw [CallNote.of_answer_of_none hk (Waiting.callOn?_of_none hp)]
  by_cases hm : m = n
  · subst hm
    have hcall : next.callOn? m = some ⟨a, s.generation + 1⟩ := Waiting.callOn?_eq_some_iff.mpr hq
    rw [Progress.callOn?_waiting, hcall, hf]
    refine .started (Or.inr (by rw [hk]; rintro ⟨⟩)) hs ha ?_ (by rw [hcalls, hcall])
    rw [hs', update_self]
  · have hcall : next.callOn? n = none := by
      rw [Waiting.callOn?_of_call? hq]
      exact if_neg hm
    rw [Progress.callOn?_waiting, hcall]
    refine .aside ?_ ?_
    · rw [hs', update_of_ne (Ne.symm hm)]
    · rw [hcalls, hcall]
      exact Function.update_eq_self_iff.mpr
        ((Displays.seen_of_task hk).trans (Waiting.callOn?_of_none hp)).symm

/-- Each turn is a turn of each cache. -/
theorem Turn.cacheTurn {d d' : Displays} {e : Event} {r : Report} (h : Turn d e r d')
    (fresh : d.task d.begun = none) (n : Nat) : CacheTurn n d (CallNote.of n d.task e r) d' := by
  cases h with
  | aside h =>
    rw [h.callNote n]
    exact .aside (congrFun h.cache n) (h.seen fun _ hp => Waiting.callOn?_of_none hp.1)
  | cacheMade hn =>
    by_cases hm : n = d.caches
    · subst hm
      exact .made hn (update_self ..) rfl
    · exact .aside (update_of_ne hm ..) rfl
  | gateMade => exact .aside rfl rfl
  | @called op m fetched s a hop hs ha =>
    rw [CallNote.of_start, hop]
    by_cases hm : m = n
    · subst hm
      have hcall : (Waiting.load ⟨m, a, s.generation + 1⟩).callOn? m = some ⟨a, s.generation + 1⟩ := if_pos rfl
      rw [Progress.callOn?_waiting, hcall]
      refine .started (Or.inl (Nat.le_refl _)) hs ha ?_ ?_
      · rw [Displays.cache_modifyCache_self]
        exact congrArg _ hs
      · exact Displays.seen_begin.trans (congrArg _ hcall)
    · have hcall : (Waiting.load ⟨m, a, s.generation + 1⟩).callOn? n = none := if_neg hm
      rw [Progress.callOn?_waiting, hcall]
      exact .aside (Displays.cache_modifyCache_of_ne (Ne.symm hm)) (Displays.seen_begin_of_none fresh hcall)
  | @approved k i m reply b a p g receipt s hk hs =>
    refine cacheTurn_goesOn hk rfl rfl rfl hs (s.account_select a) ?_ rfl
    exact congrArg (update d.cache m) (congrArg _ hs)
  | @answered k reply point l r hk hl hr =>
    by_cases hm : l.cache = n
    · subst hm
      have hcall : point.callOn? l.cache = some l.load := Waiting.callOn?_eq_some_iff.mpr hl
      rw [CallNote.of_answer_of_call hk hcall]
      refine .answered ((Displays.seen_of_task hk).trans hcall) ?_ ?_ ?_
      · rw [Displays.task_finish]
        exact update_self ..
      · rw [Displays.cache_finish]
        exact Displays.cache_modifyCache_self
      · exact (Displays.seen_finish ..).trans Displays.seen_setTask
    · have hcall : point.callOn? n = none := (Waiting.callOn?_of_call? hl).trans (if_neg hm)
      rw [CallNote.of_answer_of_none hk hcall]
      refine .aside ?_ ?_
      · rw [Displays.cache_finish]
        exact Displays.cache_modifyCache_of_ne (Ne.symm hm)
      · exact (Displays.seen_finish ..).trans (Displays.seen_setTask_of_none hk hcall rfl)
  | @dropped k point hk hp =>
    rw [CallNote.of_drop hk]
    cases hl : point.call? with
    | none =>
      have hcall : point.callOn? n = none := Waiting.callOn?_of_none hl
      rw [hcall]
      refine .aside (congrFun (Displays.cache_finish ..) n) ?_
      exact (Displays.seen_finish ..).trans (Displays.seen_setTask_of_none hk hcall rfl)
    | some l =>
      by_cases hm : l.cache = n
      · subst hm
        have hcall : point.callOn? l.cache = some l.load := Waiting.callOn?_eq_some_iff.mpr hl
        rw [hcall]
        refine .dropped ((Displays.seen_of_task hk).trans hcall) ?_ ?_ ?_
        · rw [Displays.task_finish]
          exact update_self ..
        · rw [Displays.cache_finish]
          exact Displays.cache_modifyCache_self
        · exact (Displays.seen_finish ..).trans Displays.seen_setTask
      · have hcall : point.callOn? n = none := (Waiting.callOn?_of_call? hl).trans (if_neg hm)
        rw [hcall]
        refine .aside ?_ ?_
        · rw [Displays.cache_finish]
          exact Displays.cache_modifyCache_of_ne (Ne.symm hm)
        · exact (Displays.seen_finish ..).trans (Displays.seen_setTask_of_none hk hcall rfl)
  | refused => exact .aside rfl (Displays.seen_begin_of_none fresh rfl)
  | asked => exact .aside rfl (Displays.seen_begin_of_none fresh rfl)
  | failed hk =>
    rw [CallNote.of_answer_of_none hk rfl]
    exact .aside rfl (Displays.seen_setTask_of_none hk rfl rfl)
  | confirmed hk =>
    rw [CallNote.of_answer_of_none hk rfl]
    exact .aside rfl (Displays.seen_setTask_of_none hk rfl rfl)
  | @refreshed k i m reply a b url active g s hk h hg hm hs hb =>
    refine cacheTurn_goesOn hk rfl rfl rfl hs hb ?_ rfl
    exact congrArg (update d.cache m) (congrArg _ hs)

/-! ### What the notes say is shown -/

namespace SessionCache.Shows
open Calls
variable {s : SessionCache} {notes : List CallNote} {k : Nat} {l : Load}
  {r : Except ClientError (List SessionRecord)}

theorem empty : SessionCache.empty.Shows [] where
  account := rfl
  loading := by
    constructor
    · rintro ⟨⟩
    · rintro ⟨_, ⟨⟩, _⟩
  records := rfl
  error := rfl
  own _ _ _ h := by cases h

/-- A call that starts is loading, and turns the cache to its account if there is one. -/
theorem called (h : s.Shows notes) {fetched : Option Account} (hk : ¬ Over k notes) :
    (s.called fetched).Shows (.started k fetched :: notes) := by
  have loading : (s.called fetched).loading = true ↔
      ∃ j, latest? (.started k fetched :: notes) = some j ∧ ¬ Over j (.started k fetched :: notes) := by
    refine iff_of_true rfl ⟨k, rfl, fun ho => ?_⟩
    rcases over_cons.mp ho with he | ho
    · cases he
    · exact hk ho
  by_cases ha : ∀ a, fetched = some a → s.account = some a
  · have hturned : s.turned fetched = s := by
      cases fetched with
      | none => rfl
      | some a => exact if_pos (ha a rfl)
    have hstays : switches (.started k fetched) notes = false := by
      cases fetched with
      | none => rfl
      | some a => exact decide_eq_false (not_not_intro (h.account.symm.trans (ha a rfl)))
    have haccount : account? (.started k fetched :: notes) = account? notes := by
      cases fetched with
      | none => rfl
      | some a => exact (h.account.symm.trans (ha a rfl)).symm
    have hcounted := counted_started_of_stays hk hstays
    exact
      { account := by rw [SessionCache.called_account, hturned, haccount, h.account]
        loading
        records := by rw [SessionCache.called_records, hturned, h.records, Calls.records, Calls.records, hcounted]
        error := by rw [SessionCache.called_error, hturned, h.error, Calls.error?, Calls.error?, hcounted]
        own j b r hx := by
          rw [hcounted] at hx
          rw [SessionCache.called_account, hturned]
          exact h.own j b r hx }
  · -- The cache turns to another account, and no answer on it has come yet.
    simp only [not_forall] at ha
    obtain ⟨a, rfl, ha⟩ := ha
    have hturned : s.turned (some a) = { s with account := some a, records := [], error := none } := if_neg ha
    have hswitch : switches (.started k (some a)) notes = true := decide_eq_true fun hn => ha (h.account.trans hn)
    have hcounted := counted_started_of_switches hk hswitch
    exact
      { account := by rw [SessionCache.called_account, hturned]; rfl
        loading
        records := by rw [SessionCache.called_records, hturned, Calls.records, hcounted]; rfl
        error := by rw [SessionCache.called_error, hturned, Calls.error?, hcounted]; rfl
        own j b r hx := by rw [hcounted] at hx; cases hx }

/-- The end of a call that is not the latest changes neither the cache nor what the notes say. -/
theorem superseded {x : CallNote} (h : s.Shows notes) (hx : x.ends? = some k) (hk : latest? notes ≠ some k)
    (hlatest : latest? (x :: notes) = latest? notes) (haccount : account? (x :: notes) = account? notes)
    (hcounted : counted (x :: notes) = counted notes) : s.Shows (x :: notes) where
  account := by rw [haccount, h.account]
  loading := by
    rw [h.loading, hlatest]
    refine exists_congr fun j => and_congr_right fun hj => not_congr ?_
    rw [over_cons, hx]
    refine ⟨Or.inr, Or.rec (fun he => ?_) id⟩
    exact absurd (Option.some.inj he ▸ hj) hk
  records := by rw [h.records, Calls.records, Calls.records, hcounted]
  error := by rw [h.error, Calls.error?, Calls.error?, hcounted]
  own j b r hx := h.own j b r (hcounted ▸ hx)

/-- After the end of the latest call nothing is loading. -/
theorem not_loading {x : CallNote} (hx : x.ends? = some k) (hk : latest? notes = some k)
    (hlatest : latest? (x :: notes) = latest? notes) : ¬ ∃ j, latest? (x :: notes) = some j ∧ ¬ Over j (x :: notes) := by
  rintro ⟨j, hj, ho⟩
  rw [hlatest, hk] at hj
  exact ho (over_cons.mpr (Or.inl (hx.trans hj)))

theorem answered (h : s.Shows notes) (hl : l.generation = s.generation ↔ latest? notes = some k)
    (ha : latest? notes = some k → s.account = some l.account) :
    (s.answered l r).2.Shows (.answered k l.account r :: notes) := by
  unfold SessionCache.answered
  by_cases hk : latest? notes = some k
  · have hlatest : s.isLatest l = true := by
      simp [SessionCache.isLatest, hl.mpr hk, ha hk]
    have hcounted := counted_answered_of_latest (a := l.account) (r := r) hk
    rw [if_pos hlatest]
    have loading := not_loading (x := .answered k l.account r) rfl hk rfl
    have own : ∀ j b r', .answered j b r' ∈ counted (.answered k l.account r :: notes) → s.account = some b := by
      intro j b r' hx
      rw [hcounted] at hx
      rcases List.mem_cons.mp hx with he | hx
      · cases he
        exact ha hk
      · exact h.own j b r' hx
    cases r with
    | ok records =>
      exact
        { account := h.account
          loading := iff_of_false Bool.false_ne_true loading
          records := by rw [Calls.records, hcounted]; rfl
          error := by rw [Calls.error?, hcounted]; rfl
          own }
    | error e =>
      exact
        { account := h.account
          loading := iff_of_false Bool.false_ne_true loading
          records := by rw [Calls.records, hcounted]; exact h.records
          error := by rw [Calls.error?, hcounted]; rfl
          own }
  · have hlatest : s.isLatest l = false := by
      simp only [SessionCache.isLatest, Bool.and_eq_false_iff, beq_eq_false_iff_ne]
      exact Or.inl fun hg => hk (hl.mp hg.symm)
    rw [if_neg (Bool.eq_false_iff.mp hlatest)]
    exact h.superseded rfl hk rfl rfl (counted_answered_of_superseded hk)

theorem dropped (h : s.Shows notes) (hl : l.generation = s.generation ↔ latest? notes = some k) :
    (s.dropped l).Shows (.dropped k :: notes) := by
  unfold SessionCache.dropped
  by_cases hk : latest? notes = some k
  · rw [if_pos (hl.mpr hk).symm]
    exact
      { account := h.account
        loading := iff_of_false Bool.false_ne_true (not_loading rfl hk rfl)
        records := h.records
        error := h.error
        own := h.own }
  · rw [if_neg fun hg => hk (hl.mp hg.symm)]
    exact h.superseded rfl hk rfl rfl counted_dropped

end SessionCache.Shows

/-- A call that waits on a cache: it is the latest if it has the cache's generation, and is then on its account. -/
structure SessionCache.Awaits (s : SessionCache) (notes : List CallNote) (k : Nat) (l : Load) : Prop where
  le : l.generation ≤ s.generation
  latest : l.generation = s.generation ↔ Calls.latest? notes = some k
  account : Calls.latest? notes = some k → s.account = some l.account

namespace SessionCache.Awaits
variable {s : SessionCache} {notes : List CallNote} {j k : Nat} {l m : Load}
  {r : Except ClientError (List SessionRecord)} {fetched : Option Account}

/-- The call that has just started is the latest. -/
theorem of_called {a : Account} (ha : (s.turned fetched).account = some a) :
    (s.called fetched).Awaits (.started k fetched :: notes) k ⟨a, s.generation + 1⟩ where
  le := Nat.le_of_eq (called_generation ..).symm
  latest := iff_of_true (called_generation ..).symm rfl
  account _ := (called_account ..).trans ha

/-- A call that has started earlier is superseded. -/
theorem called (h : s.Awaits notes j l) (hne : j ≠ k) : (s.called fetched).Awaits (.started k fetched :: notes) j l where
  le := by
    rw [called_generation]
    exact Nat.le_succ_of_le h.le
  latest := by
    rw [called_generation]
    refine iff_of_false (Nat.ne_of_lt (Nat.lt_succ_of_le h.le)) fun hj => ?_
    exact hne (Option.some.inj hj).symm
  account hj := absurd (Option.some.inj hj).symm hne

theorem answered (h : s.Awaits notes j l) {a : Account} : (s.answered m r).2.Awaits (.answered k a r :: notes) j l := by
  have hsame : (s.answered m r).2.generation = s.generation ∧ (s.answered m r).2.account = s.account := by
    unfold SessionCache.answered
    split
    · cases r <;> exact ⟨rfl, rfl⟩
    · exact ⟨rfl, rfl⟩
  exact ⟨hsame.1 ▸ h.le, hsame.1 ▸ h.latest, hsame.2 ▸ h.account⟩

theorem dropped (h : s.Awaits notes j l) : (s.dropped m).Awaits (.dropped k :: notes) j l := by
  have hsame : (s.dropped m).generation = s.generation ∧ (s.dropped m).account = s.account := by
    unfold SessionCache.dropped
    split <;> exact ⟨rfl, rfl⟩
  exact ⟨hsame.1 ▸ h.le, hsame.1 ▸ h.latest, hsame.2 ▸ h.account⟩

end SessionCache.Awaits

/-- The notes on the calls of a cache, beside what is displayed. -/
structure Displays.Tracked (n : Nat) (notes : List CallNote) (d : Displays) : Prop where
  absent : d.cache n = none → notes = []
  shown : ∀ s, d.cache n = some s → s.Shows notes
  waits : ∀ k l, d.calls n k = some l → ∃ s, d.cache n = some s ∧ s.Awaits notes k l
  ended : ∀ k, Calls.Over k notes → k < d.begun ∧ d.task k = none

namespace Displays.Tracked
open Calls
variable {n : Nat} {notes : List CallNote} {d d' : Displays}

theorem ended_of_turn {e : Event} {r : Report} {x : Option CallNote} (h : d.Tracked n notes) (ht : Turn d e r d')
    (hx : ∀ y ∈ x, ∀ k, y.ends? = some k → k < d.begun ∧ d'.task k = none) :
    ∀ k, Over k (x.toList ++ notes) → k < d'.begun ∧ d'.task k = none := by
  rintro k ⟨y, hy, he⟩
  have hlt : k < d.begun ∧ d'.task k = none := by
    rcases List.mem_append.mp hy with hy | hy
    · exact hx y (Option.mem_toList.mp hy) k he
    · obtain ⟨hlt, hnone⟩ := h.ended k ⟨y, hy, he⟩
      exact ⟨hlt, ht.ended hlt hnone⟩
  exact ⟨Nat.lt_of_lt_of_le hlt.1 ht.begun_le, hlt.2⟩

theorem initial : World.initial.displays.Tracked n [] where
  absent _ := rfl
  shown _ h := by cases h
  waits _ _ h := by cases h
  ended := by
    rintro _ ⟨_, ⟨⟩, _⟩

theorem kept_of_ends {e : Event} {r : Report} {x : CallNote} {k : Nat} {l : Load} {f : SessionCache → SessionCache}
    (h : d.Tracked n notes) (fresh : ∀ k, d.begun ≤ k → d.task k = none) (ht : Turn d e r d') (hx : x.ends? = some k)
    (hk : d.calls n k = some l) (hk' : d'.task k = none) (hs : d'.cache n = (d.cache n).map f)
    (hl : d'.calls n = update (d.calls n) k none)
    (shown : ∀ s : SessionCache, s.Shows notes → s.Awaits notes k l → (f s).Shows (x :: notes))
    (waits : ∀ (s : SessionCache) j m, s.Awaits notes j m → (f s).Awaits (x :: notes) j m) :
    d'.Tracked n (x :: notes) := by
  obtain ⟨s, hs₀, hw⟩ := h.waits k l hk
  rw [hs₀] at hs
  have hlt : k < d.begun := by
    by_contra hge
    cases hk.symm.trans (Displays.seen_of_none (fresh k (Nat.le_of_not_lt hge)))
  exact
    { absent hn := by cases hs.symm.trans hn
      shown t ht' := by
        cases hs.symm.trans ht'
        exact shown s (h.shown s hs₀) hw
      waits j m hj := by
        refine ⟨_, hs, ?_⟩
        have hjk : j ≠ k := by
          rintro rfl
          rw [hl, update_self] at hj
          cases hj
        rw [hl, update_of_ne hjk] at hj
        obtain ⟨t, ht', hw'⟩ := h.waits j m hj
        cases hs₀.symm.trans ht'
        exact waits s j m hw'
      ended := by
        refine h.ended_of_turn ht (x := some x) ?_
        rintro _ ⟨⟩ j hj
        cases hx.symm.trans hj
        exact ⟨hlt, hk'⟩ }

/-- Each turn keeps the notes and what is displayed together. -/
theorem kept {e : Event} {r : Report} (h : d.Tracked n notes) (fresh : ∀ k, d.begun ≤ k → d.task k = none)
    (ht : Turn d e r d') : d'.Tracked n ((CallNote.of n d.task e r).toList ++ notes) := by
  have hc := ht.cacheTurn (fresh _ (Nat.le_refl _)) n
  have hended := h.ended_of_turn ht (x := CallNote.of n d.task e r)
  revert hc hended
  generalize CallNote.of n d.task e r = x
  intro hc hended
  cases hc with
  | aside hs hl =>
    exact
      { absent hn := h.absent (hs ▸ hn)
        shown s hs' := h.shown s (hs ▸ hs')
        waits k l hk := by
          rw [hl] at hk
          rw [hs]
          exact h.waits k l hk
        ended := hended (by rintro _ ⟨⟩) }
  | made hn hs hl =>
    obtain rfl := h.absent hn
    exact
      { absent hn' := by cases hs.symm.trans hn'
        shown s hs' := by
          cases hs.symm.trans hs'
          exact .empty
        waits k l hk := by
          rw [hl] at hk
          obtain ⟨s, hs', -⟩ := h.waits k l hk
          cases hn.symm.trans hs'
        ended := hended (by rintro _ ⟨⟩) }
  | @started d' k fetched s a hk hs ha hs' hl =>
    have hover : ¬ Over k notes := fun ho => by
      obtain ⟨hlt, hnone⟩ := h.ended k ho
      exact hk.elim (Nat.not_le_of_gt hlt) (absurd hnone)
    exact
      { absent hn := by cases hs'.symm.trans hn
        shown t ht' := by
          cases hs'.symm.trans ht'
          exact (h.shown s hs).called hover
        waits j l hj := by
          refine ⟨_, hs', ?_⟩
          by_cases hjk : j = k
          · subst hjk
            rw [hl, update_self] at hj
            cases hj
            exact .of_called ha
          · rw [hl, update_of_ne hjk] at hj
            obtain ⟨t, ht', hw⟩ := h.waits j l hj
            cases hs.symm.trans ht'
            exact hw.called hjk
        ended := hended (by rintro _ ⟨⟩ _ ⟨⟩) }
  | answered hk hk' hs hl =>
    exact h.kept_of_ends fresh ht rfl hk hk' hs hl (fun _ hs' hw => hs'.answered hw.latest hw.account)
      fun _ _ _ hw => hw.answered
  | dropped hk hk' hs hl =>
    exact h.kept_of_ends fresh ht rfl hk hk' hs hl (fun _ hs' hw => hs'.dropped hw.latest) fun _ _ _ hw => hw.dropped

end Displays.Tracked

namespace World
variable {w : World} {n k : Nat} {notes : List CallNote}

theorem startLoad_of_some {s : SessionCache} {a : Account} (hs : w.caches[n]? = some s) (ha : s.account = some a) :
    ∃ v, w.startLoad n = .ok (⟨n, a, s.generation + 1⟩, v) ∧ v.tasks = w.tasks := by
  have ha' : (s.turned none).account = some a := ha
  have hstart : s.start = .ok (⟨a, s.generation + 1⟩, s.called none) := SessionCache.start_turned ha'
  unfold startLoad
  simp only [hs, hstart]
  exact ⟨_, rfl, rfl⟩

theorem startFetch_of_some {s : SessionCache} {a : Account} (hs : w.caches[n]? = some s) :
    ∃ v, w.startFetch n a = .ok (⟨n, a, s.generation + 1⟩, v) ∧ v.tasks = w.tasks := by
  have hs' : { w with caches := w.caches.modify n (·.select a) }.caches[n]? = some (s.select a) := by
    rw [List.getElem?_modify_eq, hs]
    rfl
  have h := startLoad_of_some hs' (s.account_select a)
  rwa [SessionCache.generation_select] at h

/-- What a run leaves in a cache, by the notes on its calls. -/
structure Mirrors (w : World) (n : Nat) (notes : List CallNote) : Prop where
  /-- The cache shows what the notes say. -/
  shows : ∀ s, w.caches[n]? = some s → s.Shows notes
  /-- The answer to a call that is not the latest, or its drop, changes no cache. -/
  superseded : ∀ e k point l, e.advances? = some k → w.task? k = some point → point.call? = some ⟨n, l⟩ →
    Calls.latest? notes ≠ some k → (w.step e).1.caches = w.caches
  /-- Each fetch starts a call on its account. -/
  fetched : ∀ s a, w.caches[n]? = some s →
    CallNote.of n w.task? (.start (.fetch n a)) (w.step (.start (.fetch n a))).2 =
      some (.started w.tasks.length (some a))
  /-- A refresh starts a call once there is an account to refresh. -/
  refreshed : Calls.account? notes ≠ none →
    CallNote.of n w.task? (.start (.refresh n)) (w.step (.start (.refresh n))).2 = some (.started w.tasks.length none)
  /-- What is not noted does not change the cache. -/
  unnoted : ∀ e s, w.caches[n]? = some s → CallNote.of n w.task? e (w.step e).2 = none →
    (w.step e).1.caches[n]? = some s

theorem Noted.tracked (h : w.Noted (CallNote.of n) notes) : w.displays.Tracked n notes :=
  h.displays .initial fun _ _ _ _ _ fresh ht hd => hd.kept fresh ht

theorem caches_set_self {s : SessionCache} (hs : w.caches[n]? = some s) : w.caches.set n s = w.caches := by
  obtain ⟨hn, rfl⟩ := List.getElem?_eq_some_iff.mp hs
  exact List.set_getElem_self hn

theorem answerLoad_of_superseded {s : SessionCache} {l : Load} {r : Except ClientError (List SessionRecord)}
    (hs : w.caches[n]? = some s) (hl : l.generation ≠ s.generation) : (w.answerLoad ⟨n, l⟩ r).2.caches = w.caches := by
  have hlatest : ¬ s.isLatest l = true := fun h => by
    rw [SessionCache.isLatest, Bool.and_eq_true, beq_iff_eq] at h
    exact hl h.1.symm
  unfold answerLoad
  simp only [hs, SessionCache.answered, if_neg hlatest]
  exact caches_set_self hs

theorem dropLoad_of_superseded {s : SessionCache} {l : Load} (hs : w.caches[n]? = some s)
    (hl : l.generation ≠ s.generation) : (w.dropLoad ⟨n, l⟩).caches = w.caches := by
  change w.caches.modify n (·.dropped l) = w.caches
  rw [List.modify_eq_set_getElem?, hs]
  change w.caches.set n (s.dropped l) = w.caches
  rw [SessionCache.dropped, if_neg (Ne.symm hl)]
  exact caches_set_self hs

theorem caches_of_superseded {s : SessionCache} {e : Event} {point : Waiting} {l : Load}
    (he : e.advances? = some k) (hk : w.task? k = some point) (hp : point.call? = some ⟨n, l⟩)
    (hs : w.caches[n]? = some s) (hl : l.generation ≠ s.generation) : (w.step e).1.caches = w.caches := by
  cases e with
  | answer j reply =>
    cases he
    simp only [step, answer, hk]
    cases point with
    | signed i receipt m | load m | toggled i active m =>
      cases hp
      exact answerLoad_of_superseded hs hl
    | create | use | signHash | registerChallenge | registerPrompt | registerVerify | loginChallenge | loginPrompt
    | loginVerify | configure | prepare | approve | sign | toggle => cases hp
  | drop j =>
    cases he
    simp only [step, dropTask, hk]
    cases point with
    | signed i receipt m | load m | toggled i active m =>
      cases hp
      exact dropLoad_of_superseded hs hl
    | create | use | signHash | registerChallenge | registerPrompt | registerVerify | loginChallenge | loginPrompt
    | loginVerify | configure | prepare | approve | sign | toggle => cases hp
  | newOrchestrator | dropOrchestrator | newCache | newGate | edit | setForm | discard | acquire | releaseLease
  | start | cancel => cases he

/-- A call that starts is noted. -/
theorem callNote_of_start {v : World} {op : Operation} {fetched : Option Account} {l : Load}
    (ho : op.orchestrator? = none) (hop : op.call? = some (n, fetched))
    (hstart : w.start op = some (v, .waiting (.load ⟨n, l⟩))) (hv : v.tasks = w.tasks) :
    CallNote.of n w.task? (.start op) (w.step (.start op)).2 = some (.started w.tasks.length fetched) := by
  have hr : (w.step (.start op)).2 = .progress w.tasks.length (.waiting (.load ⟨n, l⟩)) := by
    simp only [step, begin, ho, hstart, hv]
    rfl
  have hl : (Waiting.load ⟨n, l⟩).callOn? n = some l := if_pos rfl
  rw [hr, CallNote.of_start, hop, Progress.callOn?_waiting, hl]
  rfl

/-- After every run a cache shows what its calls have told it, in whatever order they have ended. -/
theorem Noted.mirrors (h : w.Noted (CallNote.of n) notes) : w.Mirrors n notes := by
  have hd := h.tracked
  refine ⟨hd.shown, fun e k point l he hk hp hlatest => ?_, fun s a hs => ?_, fun ha => ?_, fun e s hs hx => ?_⟩
  · have hl : w.displays.calls n k = some l :=
      (Displays.seen_of_task hk).trans (Waiting.callOn?_eq_some_iff.mpr hp)
    obtain ⟨s, hs, hw⟩ := hd.waits k l hl
    exact caches_of_superseded he hk hp hs fun hg => hlatest (hw.latest.mp hg)
  · obtain ⟨v, hv, htasks⟩ := startFetch_of_some (a := a) hs
    refine callNote_of_start (l := ⟨a, s.generation + 1⟩) rfl rfl ?_ htasks
    simp only [start, hs, hv]
    rfl
  · cases hs : w.caches[n]? with
    | none => exact absurd (congrArg Calls.account? (hd.absent hs)) ha
    | some s =>
      obtain ⟨a, ha⟩ := Option.ne_none_iff_exists'.mp ((hd.shown s hs).account ▸ ha)
      obtain ⟨v, hv, htasks⟩ := startLoad_of_some hs ha
      refine callNote_of_start (l := ⟨a, s.generation + 1⟩) rfl rfl ?_ htasks
      simp only [start, hs, hv]
      rfl
  · have hc := (World.turn h.reachable.sound e).cacheTurn (h.reachable.sound.freshTask _ (Nat.le_refl _)) n
    rw [show CallNote.of n w.displays.task e (w.step e).2 = none from hx] at hc
    cases hc with
    | aside hs' _ => exact hs'.trans hs
    | made hn _ _ => cases hn.symm.trans hs

/-- A cache that turns to another account while a call is under way, and is told of both accounts in the order of
    the calls. -/
theorem mirrors_overtaken :
    let a : Account := ⟨⟨List.replicate 20 0, rfl⟩, 1⟩
    let b : Account := ⟨⟨List.replicate 20 0, rfl⟩, 2⟩
    let r : SessionRecord := ⟨"key", "hash", "id", "{}", ⟨true, "url"⟩⟩
    let w := (((((initial.step .newCache).1.step (.start (.fetch 0 a))).1.step (.start (.fetch 0 b))).1.step
      (.answer 0 (.telling [r, r]))).1.step (.answer 1 (.telling [r]))).1
    w.caches = [⟨some b, 2, [r], false, none⟩] ∧
      w.Mirrors 0 [.answered 1 b (.ok [r]), .answered 0 a (.ok [r, r]), .started 1 (some b), .started 0 (some a)] := by
  intro a b r w
  refine ⟨rfl, Noted.mirrors ?_⟩
  exact ((((Noted.initial.step .newCache).step (.start (.fetch 0 a))).step (.start (.fetch 0 b))).step
    (.answer 0 (.telling [r, r]))).step (.answer 1 (.telling [r]))

end World

end PasskeySession
