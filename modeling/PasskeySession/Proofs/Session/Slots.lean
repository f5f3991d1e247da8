import Mathlib.Data.List.Nodup
import Mathlib.Logic.Function.Basic
import PasskeySession.Session.Lease

/-! # Slots

What taking a lease and giving one back do to the slots of a registry: each changes the slot of one
account, and only if that slot is free, or filled by that very lease. -/

namespace PasskeySession.Registry

theorem token?_eq_some_iff {r : Registry} {a : Account} {t : UInt64} :
    r.token? a = some t ↔ (a, t) ∈ r.slots := by
  unfold token?
  constructor
  · intro h
    obtain ⟨⟨b, u⟩, hfind, rfl⟩ := Option.map_eq_some_iff.mp h
    have hb : b = a := by simpa using List.find?_some hfind
    exact hb ▸ List.mem_of_find?_eq_some hfind
  · intro h
    -- The slot that is found is of the same account, and an account has one slot.
    cases hfind : r.slots.find? (·.1 = a) with
    | none => exact absurd (decide_eq_true rfl) (List.find?_eq_none.mp hfind (a, t) h)
    | some s =>
      have hs : s.1 = a := by simpa using List.find?_some hfind
      have hmem := List.mem_of_find?_eq_some hfind
      rw [List.inj_on_of_nodup_map r.distinct hmem h hs, Option.map_some]

theorem acquire_of_free {r : Registry} {a : Account} (h : r.token? a = none) :
    ∃ q, r.acquire a = (.ok ⟨a, r.nextToken⟩, q) ∧ q.token? = Function.update r.token? a (some r.nextToken) := by
  have hfree : ¬ r.isHeld a := by simp [isHeld, h]
  unfold acquire
  rw [dif_neg hfree]
  refine ⟨_, rfl, funext fun b => ?_⟩
  by_cases hb : b = a
  · subst hb
    simp [token?]
  · have hne : a ≠ b := fun h => hb h.symm
    rw [Function.update_of_ne hb]
    simp [token?, hne]

theorem acquire_of_held {r : Registry} {a : Account} {t : UInt64} (h : r.token? a = some t) :
    ∃ q, r.acquire a = (.error (.pendingBusy a), q) ∧ q.token? = r.token? := by
  have hheld : r.isHeld a := by simp [isHeld, h]
  unfold acquire
  rw [dif_pos hheld]
  exact ⟨_, rfl, rfl⟩

/-- A lease is to be had exactly while the slot is free. -/
theorem acquire_isOk_iff {r : Registry} {a : Account} :
    (∃ l, (r.acquire a).1 = .ok l) ↔ r.token? a = none := by
  cases h : r.token? a with
  | none =>
    obtain ⟨q, hq, -⟩ := acquire_of_free h
    rw [hq]
    exact iff_of_true ⟨_, rfl⟩ rfl
  | some t =>
    obtain ⟨q, hq, -⟩ := acquire_of_held h
    rw [hq]
    exact iff_of_false (fun ⟨_, h⟩ => nomatch h) (fun h => nomatch h)

theorem token?_release {r : Registry} {l : Lease} :
    (r.release l).token? =
      if r.token? l.account = some l.token then Function.update r.token? l.account none else r.token? := by
  have mem : ∀ b t, (b, t) ∈ (r.release l).slots ↔ (b, t) ∈ r.slots ∧ (b, t) ≠ (l.account, l.token) := by
    simp [release]
  funext b
  refine Option.ext fun t => ?_
  rw [token?_eq_some_iff, mem, ← token?_eq_some_iff]
  split
  · rename_i hl
    by_cases hb : b = l.account
    · subst hb
      simp only [Function.update_self, reduceCtorEq, iff_false, not_and, not_not]
      intro ht
      rw [hl] at ht
      rw [Option.some.inj ht]
    · rw [Function.update_of_ne hb]
      exact and_iff_left fun h => hb (congrArg Prod.fst h)
  · rename_i hl
    refine and_iff_left_of_imp fun ht h => hl ?_
    obtain ⟨rfl, rfl⟩ := Prod.mk.injEq .. ▸ h
    exact ht

end PasskeySession.Registry
