import PasskeySession.Proofs.Session.Returns

/-! # Runs without caches

Each run has a twin in which there is no cache, and in which the same is done to orchestrators and leases. -/

namespace PasskeySession
open Function (update update_self update_of_ne)

/-- No cache is made or attached. -/
def Event.Cacheless : Event → Prop
  | newCache => False
  | newOrchestrator _ c => c = none
  | _ => True

theorem Waiting.unsettled?_of_call? {p : Waiting} {i : Nat} (hi : p.orchestrator? = some i) (hp : p.call? = none) :
    p.unsettled? = some i := by
  cases p with
  | configure | prepare | approve | sign => exact hi
  | signed => cases hp
  | create | use | signHash | registerChallenge | registerPrompt | registerVerify | loginChallenge | loginPrompt
  | loginVerify | load | toggle | toggled => cases hi

/-- There is no cache, and no operation waits for one. -/
structure Displays.Cacheless (d : Displays) : Prop where
  cache : ∀ n, d.cache n = none
  call : ∀ k p, d.task k = some p → p.call? = none

namespace Displays
variable {d d' : Displays} {k n : Nat} {t : Option Waiting} {f : SessionCache → SessionCache}

theorem call_update (h : d.Cacheless) (ht : ∀ p, t = some p → p.call? = none) :
    ∀ j p, update d.task k t j = some p → p.call? = none := by
  intro j p hj
  by_cases hjk : j = k
  · subst hjk
    rw [update_self] at hj
    exact ht p hj
  · rw [update_of_ne hjk] at hj
    exact h.call j p hj

end Displays

theorem Turn.cacheless {d d' : Displays} {e : Event} {r : Report} (h : Turn d e r d') (hd : d.Cacheless)
    (he : e ≠ .newCache) : d'.Cacheless := by
  have absurd_cache : ∀ {n c}, d.cache n = some c → False := fun hc => by cases (hd.cache _).symm.trans hc
  cases h with
  | aside h =>
    refine ⟨fun n => (congrFun h.cache n).trans (hd.cache n), fun k p hk => ?_⟩
    rcases h.task k with hsame | ⟨-, hidden⟩
    · exact hd.call k p (hsame.symm.trans hk)
    · exact (hidden p hk).1
  | cacheMade => exact absurd rfl he
  | gateMade => exact ⟨hd.cache, hd.call⟩
  | called _ hc | approved _ hc | refreshed _ _ _ _ hc => exact (absurd_cache hc).elim
  | answered hk hl => cases (hd.call _ _ hk).symm.trans hl
  | @dropped k p hk _ =>
    have hcache : (((d.setTask k none).forget p.call?).finish p.gate?).cache = d.cache := by
      rw [Displays.cache_finish, hd.call k p hk]
      rfl
    refine ⟨fun n => (congrFun hcache n).trans (hd.cache n), ?_⟩
    rw [Displays.task_finish, Displays.task_forget]
    exact Displays.call_update hd (by rintro _ ⟨⟩)
  | refused => exact ⟨hd.cache, Displays.call_update hd (by rintro _ ⟨⟩)⟩
  | asked => exact ⟨hd.cache, Displays.call_update hd (by rintro _ ⟨⟩; rfl)⟩
  | failed | confirmed => exact ⟨hd.cache, Displays.call_update hd (by rintro _ ⟨⟩)⟩

namespace World
variable {w v : World} {past : List Happening} {i k : Nat} {e : Event} {d : Deed} {p : Waiting}

section
variable (hw : w.Reachable) (hv : v.Reachable) (hcore : v.core = w.core) (hd : v.displays.Cacheless)
include hw hv hcore

theorem exists_task (hk : w.task? k = some p) (hp : p.unsettled? = some i) : ∃ j, v.task? j = some p := by
  have hon : v.on i = some p := (congrFun (congrArg Core.on hcore) i).trans (hw.on_task hk hp)
  obtain ⟨j, hj, -⟩ := (on_eq_some_iff hv.sound).mp hon
  exact ⟨j, hj⟩

include hd

theorem inUse_of_core (idle : w.inUse i = false) : v.inUse i = false := by
  rw [inUse_eq_false_iff] at idle ⊢
  intro k p hk hi
  obtain ⟨j, hj⟩ := exists_task hv hw hcore.symm hk (Waiting.unsettled?_of_call? hi (hd.call k p hk))
  exact idle j p hj hi

/-- What is done at once to an orchestrator that is not in use can be done without caches. -/
theorem deed?_at_once (hdeed : w.deed? e = some d)
    (he : ∀ u : World, u.deed? e = if e.orchestrator?.any u.inUse then none else e.bare?.map .did) :
    v.deed? e = some d := by
  rw [he] at hdeed ⊢
  have idle : e.orchestrator?.any w.inUse = false := by
    cases h : e.orchestrator?.any w.inUse with
    | false => rfl
    | true =>
      rw [h] at hdeed
      cases hdeed
  have idle' : e.orchestrator?.any v.inUse = false := by
    cases hi : e.orchestrator? with
    | none => rfl
    | some i =>
      rw [hi] at idle
      exact inUse_of_core hw hv hcore hd idle
  rw [idle] at hdeed
  rw [idle']
  exact hdeed

/-- What is done in a world can be done without caches. -/
theorem exists_event (hdeed : w.deed? e = some d) : ∃ e', e'.Cacheless ∧ v.deed? e' = some d := by
  cases e with
  | start op =>
    obtain ⟨i, hop, hdeed⟩ := Option.bind_eq_some_iff.mp hdeed
    refine ⟨.start op, trivial, ?_⟩
    cases idle : w.inUse i with
    | true =>
      rw [idle] at hdeed
      cases hdeed
    | false =>
      rw [idle] at hdeed
      simp only [deed?, hop, Option.bind_some, inUse_of_core hw hv hcore hd idle]
      exact hdeed
  | answer k reply =>
    obtain ⟨p, hk, hdeed⟩ := Option.bind_eq_some_iff.mp hdeed
    obtain ⟨⟨i, n⟩, hn, rfl⟩ := Option.map_eq_some_iff.mp hdeed
    obtain ⟨j, hj⟩ := exists_task hw hv hcore hk (Waiting.unsettled?_of_news? hn)
    refine ⟨.answer j reply, trivial, ?_⟩
    simp only [deed?, hj, Option.bind_some, hn, Option.map_some]
  | cancel k =>
    obtain ⟨p, hk, hdeed⟩ := Option.bind_eq_some_iff.mp hdeed
    split at hdeed
    · rename_i hc
      obtain ⟨i, hp, rfl⟩ := Option.map_eq_some_iff.mp hdeed
      obtain ⟨j, hj⟩ := exists_task hw hv hcore hk hp
      refine ⟨.cancel j, trivial, ?_⟩
      simp only [deed?, hj, Option.bind_some, if_pos hc, hp, Option.map_some]
    · cases hdeed
  | drop k =>
    obtain ⟨p, hk, hdeed⟩ := Option.bind_eq_some_iff.mp hdeed
    obtain ⟨i, hp, rfl⟩ := Option.map_eq_some_iff.mp hdeed
    obtain ⟨j, hj⟩ := exists_task hw hv hcore hk hp
    refine ⟨.drop j, trivial, ?_⟩
    simp only [deed?, hj, Option.bind_some, hp, Option.map_some]
  | newOrchestrator a c =>
    cases hdeed
    exact ⟨.newOrchestrator a none, rfl, rfl⟩
  | acquire a =>
    cases hdeed
    exact ⟨.acquire a, trivial, rfl⟩
  | releaseLease n =>
    cases hdeed
    exact ⟨.releaseLease n, trivial, rfl⟩
  | newCache | newGate => cases hdeed
  | dropOrchestrator | edit | setForm | discard =>
    refine ⟨_, ?_, deed?_at_once hw hv hcore hd hdeed fun _ => rfl⟩
    trivial

end

/-- Every run has a twin without caches. -/
theorem Ran.exists_cacheless (h : w.Ran past) :
    ∃ past' v, Ran past' v ∧ deeds past' = deeds past ∧ ∀ x ∈ past', x.event.Cacheless := by
  suffices twin : ∃ past' v, Ran past' v ∧ deeds past' = deeds past ∧ (∀ x ∈ past', x.event.Cacheless) ∧
      v.displays.Cacheless by
    obtain ⟨past', v, hv, hdeeds, hcacheless, -⟩ := twin
    exact ⟨past', v, hv, hdeeds, hcacheless⟩
  induction h with
  | initial =>
    refine ⟨[], World.initial, .initial, rfl, fun x hx => ?_, fun _ => rfl, fun k p hk => ?_⟩
    · cases hx
    · cases hk
  | @step past w e h ih =>
    obtain ⟨past', v, hv, hdeeds, hcacheless, hd⟩ := ih
    rw [deeds_append, deeds_singleton]
    cases hdeed : w.deed? e with
    | none =>
      rw [Option.toList_none, List.append_nil]
      exact ⟨past', v, hv, hdeeds, hcacheless, hd⟩
    | some d =>
      have hcore : v.core = w.core := by rw [hv.core_eq, h.core_eq, hdeeds]
      obtain ⟨e', he, hdeed'⟩ := exists_event h.reachable hv.reachable hcore hd hdeed
      refine ⟨past' ++ [⟨v, e'⟩], _, hv.step e', ?_, fun x hx => ?_, ?_⟩
      · rw [deeds_append, deeds_singleton, hdeeds, hdeed']
      · rcases List.mem_append.mp hx with hx | hx
        · exact hcacheless x hx
        · cases List.mem_singleton.mp hx
          exact he
      · refine (turn hv.reachable.sound e').cacheless hd ?_
        rintro rfl
        exact he

end World
end PasskeySession
