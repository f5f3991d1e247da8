import PasskeySession.Proofs.Session.View

/-! # Leases and slots

Leases that are held exclusively: each fills the slot of its account, no account has two, and a slot that is
filled is filled by one of them. Taking a lease, giving one back and handing one over keep this. -/

namespace PasskeySession
open Function (update update_self update_of_ne)

/-- Somebody who may hold a lease: a hand, an orchestrator, or a submission under way. -/
inductive Holder
  | hand (n : Nat)
  | orchestrator (i : Nat)
  | submission (k : Nat)
  deriving DecidableEq

/-- Each lease that is held fills the slot of its account, no account has two, and no slot is filled
    otherwise. -/
structure Exclusive (lease : Holder → Option Lease) (slot : Account → Option UInt64) : Prop where
  filled : ∀ x l, lease x = some l → slot l.account = some l.token
  single : ∀ x y l m, lease x = some l → lease y = some m → l.account = m.account → x = y
  held : ∀ a t, slot a = some t → ∃ x, lease x = some ⟨a, t⟩

namespace Exclusive
variable {lease : Holder → Option Lease} {slot : Account → Option UInt64} {x y : Holder} {l : Lease}

/-- A lease is taken on a free slot. -/
theorem take (h : Exclusive lease slot) (hx : lease x = none) (free : slot l.account = none) :
    Exclusive (update lease x (some l)) (update slot l.account (some l.token)) := by
  -- Who held a lease before holds it on another account.
  have other : ∀ y m, y ≠ x → update lease x (some l) y = some m → lease y = some m ∧ m.account ≠ l.account := by
    intro y m hy hm
    rw [update_of_ne hy] at hm
    refine ⟨hm, fun ha => ?_⟩
    have := h.filled y m hm
    rw [ha, free] at this
    cases this
  refine ⟨fun y m hm => ?_, fun y z m m' hm hm' ha => ?_, fun a t ht => ?_⟩
  · by_cases hy : y = x
    · subst hy
      rw [update_self] at hm
      cases hm
      rw [update_self]
    · obtain ⟨hm, hne⟩ := other y m hy hm
      rw [update_of_ne hne]
      exact h.filled y m hm
  · by_cases hy : y = x <;> by_cases hz : z = x
    · rw [hy, hz]
    · obtain ⟨-, hne⟩ := other z m' hz hm'
      rw [hy, update_self] at hm
      cases hm
      exact absurd ha.symm hne
    · obtain ⟨-, hne⟩ := other y m hy hm
      rw [hz, update_self] at hm'
      cases hm'
      exact absurd ha hne
    · exact h.single y z m m' (other y m hy hm).1 (other z m' hz hm').1 ha
  · by_cases ha : a = l.account
    · subst ha
      rw [update_self] at ht
      cases ht
      exact ⟨x, update_self ..⟩
    · rw [update_of_ne ha] at ht
      obtain ⟨y, hy⟩ := h.held a t ht
      refine ⟨y, ?_⟩
      rwa [update_of_ne]
      rintro rfl
      rw [hx] at hy
      cases hy

/-- A lease is given back by its holder. -/
theorem giveBack (h : Exclusive lease slot) (hx : lease x = some l) :
    Exclusive (update lease x none) (update slot l.account none) := by
  have other : ∀ y m, update lease x none y = some m → y ≠ x ∧ lease y = some m ∧ m.account ≠ l.account := by
    intro y m hm
    have hy : y ≠ x := by
      rintro rfl
      rw [update_self] at hm
      cases hm
    rw [update_of_ne hy] at hm
    exact ⟨hy, hm, fun ha => hy (h.single y x m l hm hx ha)⟩
  refine ⟨fun y m hm => ?_, fun y z m m' hm hm' ha => ?_, fun a t ht => ?_⟩
  · obtain ⟨-, hm, hne⟩ := other y m hm
    rw [update_of_ne hne]
    exact h.filled y m hm
  · exact h.single y z m m' (other y m hm).2.1 (other z m' hm').2.1 ha
  · by_cases ha : a = l.account
    · subst ha
      rw [update_self] at ht
      cases ht
    · rw [update_of_ne ha] at ht
      obtain ⟨y, hy⟩ := h.held a t ht
      refine ⟨y, ?_⟩
      rwa [update_of_ne]
      rintro rfl
      rw [hx] at hy
      cases hy
      exact ha rfl

/-- A lease goes from its holder to another one. -/
theorem handOver (h : Exclusive lease slot) (hx : lease x = some l) (hy : lease y = none) :
    Exclusive (update (update lease x none) y (some l)) slot := by
  have hxy : x ≠ y := by
    rintro rfl
    rw [hx] at hy
    cases hy
  -- Whoever holds a lease now held it before, or has it from `x`.
  have before : ∀ z m, update (update lease x none) y (some l) z = some m →
      (z = y ∧ m = l) ∨ (z ≠ y ∧ z ≠ x ∧ lease z = some m) := by
    intro z m hm
    by_cases hz : z = y
    · subst hz
      rw [update_self] at hm
      exact Or.inl ⟨rfl, (Option.some.inj hm).symm⟩
    · rw [update_of_ne hz] at hm
      by_cases hz' : z = x
      · subst hz'
        rw [update_self] at hm
        cases hm
      · rw [update_of_ne hz'] at hm
        exact Or.inr ⟨hz, hz', hm⟩
  refine ⟨fun z m hm => ?_, fun z z' m m' hm hm' ha => ?_, fun a t ht => ?_⟩
  · rcases before z m hm with ⟨-, rfl⟩ | ⟨-, -, hm⟩
    · exact h.filled x m hx
    · exact h.filled z m hm
  · rcases before z m hm with ⟨rfl, rfl⟩ | ⟨-, hz, h₁⟩ <;> rcases before z' m' hm' with ⟨rfl, rfl⟩ | ⟨-, hz', h₂⟩
    · rfl
    · exact absurd (h.single x z' m m' hx h₂ ha).symm hz'
    · exact absurd (h.single z x m m' h₁ hx ha) hz
    · exact h.single z z' m m' h₁ h₂ ha
  · obtain ⟨z, hz⟩ := h.held a t ht
    by_cases hzx : z = x
    · subst hzx
      rw [hx] at hz
      exact ⟨y, by rw [update_self, hz]⟩
    · refine ⟨z, ?_⟩
      have hzy : z ≠ y := by
        rintro rfl
        rw [hy] at hz
        cases hz
      rwa [update_of_ne hzy, update_of_ne hzx]

/-- Whoever had a lease, if there was one, has none any more. -/
theorem freed {l : Option Lease} (h : Exclusive lease slot) (hx : lease x = l) :
    Exclusive (update lease x none) (Sessions.freed slot l) := by
  cases l with
  | none =>
    have same : update lease x none = lease := by rw [← hx, Function.update_eq_self]
    rw [same]
    exact h
  | some l =>
    rw [Sessions.freed, if_pos (h.filled x l hx)]
    exact h.giveBack hx

end Exclusive

end PasskeySession
