import PasskeySession.Proofs.Session.Exclusive
import PasskeySession.Proofs.Session.Steps

/-! # Sound sessions

The invariant of sessions. Each operation fits the state of the orchestrator that it is on, and is alone on it;
an orchestrator that no operation is on rests; and each slot that is filled is filled by the one lease that
somebody holds on its account. Every move keeps it, so every reachable world has it. -/

namespace PasskeySession
open Function (update update_self update_of_ne)

namespace Waiting

/-- The lease that an operation holds where it stands. -/
def lease? (point : Waiting) : Option Lease := point.submission?.map (·.2.lease)

/-- How an orchestrator stands while an operation is on it. -/
def Fits (o : Orchestrator) : Waiting → Prop
  | configure _ s a _ | prepare _ s a _ _ =>
    o.state = .submitting ∧ o.lease = none ∧ s.lease.account = o.account ∧ s.prior.acceptsEdits = true ∧
      a = o.account
  | approve _ _ a p | sign _ _ a p _ =>
    o.state = .signing p ∧ (∃ l, o.lease = some l ∧ l.account = o.account) ∧ a = o.account
  | signed _ r _ => o.state = .signed r ∧ o.lease = none
  | _ => True

end Waiting

/-- How an orchestrator stands while no operation is on it. -/
def Orchestrator.Rests (o : Orchestrator) : Prop :=
  (o.state.acceptsEdits = true ∧ o.lease = none) ∨
    ∃ p l, o.state = .awaitingApproval p ∧ o.lease = some l ∧ l.account = o.account

namespace Waiting

theorem lease?_of_elsewhere {point : Waiting} (h : point.orchestrator? = none) : point.lease? = none := by
  cases point <;> first | rfl | cases h

theorem lease?_of_attempt? {point : Waiting} {i : Nat} {p : PendingSession} (h : point.attempt? = some (i, p)) :
    point.lease? = none := by
  rcases attempt?_eq_some h with ⟨_, _, rfl⟩ | ⟨_, _, _, rfl⟩ <;> rfl

theorem lease?_of_submission? {point : Waiting} {i : Nat} {s : Submission} (h : point.submission? = some (i, s)) :
    point.lease? = some s.lease := by
  rw [lease?, h]
  rfl

theorem Fits.of_submission? {point : Waiting} {i : Nat} {s : Submission} {o : Orchestrator} (h : point.Fits o)
    (hs : point.submission? = some (i, s)) :
    o.state = .submitting ∧ o.lease = none ∧ s.lease.account = o.account ∧ s.prior.acceptsEdits = true := by
  rcases submission?_eq_some hs with ⟨_, _, rfl⟩ | ⟨_, _, _, rfl⟩ <;>
  · obtain ⟨h₁, h₂, h₃, h₄, -⟩ := h
    exact ⟨h₁, h₂, h₃, h₄⟩

theorem Fits.of_attempt? {point : Waiting} {i : Nat} {p : PendingSession} {o : Orchestrator} (h : point.Fits o)
    (hp : point.attempt? = some (i, p)) :
    o.state = .signing p ∧ ∃ l, o.lease = some l ∧ l.account = o.account := by
  rcases attempt?_eq_some hp with ⟨_, _, rfl⟩ | ⟨_, _, _, rfl⟩ <;> exact ⟨h.1, h.2.1⟩

end Waiting

namespace Orchestrator
variable {o : Orchestrator}

theorem Rests.lease_eq_none (h : o.Rests) (he : o.state.acceptsEdits = true) : o.lease = none := by
  rcases h with ⟨-, h⟩ | ⟨p, _, hs, -⟩
  · exact h
  · rw [hs] at he
    cases he

theorem Rests.exists_lease (h : o.Rests) {p : PendingSession} (hs : o.state = .awaitingApproval p) :
    ∃ l, o.lease = some l ∧ l.account = o.account := by
  rcases h with ⟨he, -⟩ | ⟨_, l, -, hl⟩
  · rw [hs] at he
    cases he
  · exact ⟨l, hl⟩

end Orchestrator

namespace Sessions
variable {s t : Sessions} {i k : Nat}

/-- The lease that somebody holds. -/
def lease (s : Sessions) : Holder → Option Lease
  | .hand n => s.hand n
  | .orchestrator i => (s.orchestrator i).bind (·.lease)
  | .submission k => (s.task k).bind Waiting.lease?

/-- The orchestrator of a number and the operation that is on it fit together. -/
structure Settled (s : Sessions) (i : Nat) : Prop where
  fits : ∀ k point, s.task k = some point → point.orchestrator? = some i →
    ∃ o, s.orchestrator i = some o ∧ point.Fits o
  alone : ∀ k j point other, s.task k = some point → s.task j = some other →
    point.orchestrator? = some i → other.orchestrator? = some i → k = j
  rests : ∀ o, s.orchestrator i = some o → s.Idle i → o.Rests

/-- The invariant of sessions. -/
structure Sound (s : Sessions) : Prop where
  settled : ∀ i, s.Settled i
  exclusive : Exclusive s.lease s.slot
  freshTask : ∀ k, s.begun ≤ k → s.task k = none
  freshOrchestrator : ∀ i, s.made ≤ i → s.orchestrator i = none

theorem Sound.manned (h : s.Sound) : s.Manned := fun k point i hk hi => by
  obtain ⟨o, ho, -⟩ := (h.settled i).fits k point hk hi
  exact ⟨o, ho⟩

/-! ### Who holds which lease after an update -/

theorem lease_setOrchestrator {o : Option Orchestrator} :
    (s.setOrchestrator i o).lease = update s.lease (.orchestrator i) (o.bind (·.lease)) := by
  funext x
  cases x with
  | hand | submission => rfl
  | orchestrator j =>
    by_cases hj : j = i
    · subst hj
      simp [lease]
    · have hne : Holder.orchestrator j ≠ .orchestrator i := fun h => hj (Holder.orchestrator.inj h)
      simp [lease, update_of_ne hne, update_of_ne hj]

theorem lease_setTask {p : Option Waiting} :
    (s.setTask k p).lease = update s.lease (.submission k) (p.bind Waiting.lease?) := by
  funext x
  cases x with
  | hand | orchestrator => rfl
  | submission j =>
    by_cases hj : j = k
    · subst hj
      simp [lease]
    · have hne : Holder.submission j ≠ .submission k := fun h => hj (Holder.submission.inj h)
      simp [lease, update_of_ne hne, update_of_ne hj]

theorem lease_setHand {n : Nat} {l : Option Lease} : (s.setHand n l).lease = update s.lease (.hand n) l := by
  funext x
  cases x with
  | orchestrator | submission => rfl
  | hand j =>
    by_cases hj : j = n
    · subst hj
      simp [lease]
    · have hne : Holder.hand j ≠ .hand n := fun h => hj (Holder.hand.inj h)
      simp [lease, update_of_ne hne, update_of_ne hj]

theorem lease_begin {p : Option Waiting} :
    (s.begin p).lease = update s.lease (.submission s.begun) (p.bind Waiting.lease?) := lease_setTask

theorem lease_make {o : Orchestrator} :
    (s.make o).lease = update s.lease (.orchestrator s.made) o.lease := lease_setOrchestrator

theorem update_lease_same {x : Holder} {l : Option Lease} (h : s.lease x = l) : update s.lease x l = s.lease := by
  rw [← h, Function.update_eq_self]

/-! ### Orchestrators that fit after an update -/

theorem Settled.congr (h : s.Settled i) (ho : t.orchestrator i = s.orchestrator i)
    (ht : ∀ k point, point.orchestrator? = some i → (t.task k = some point ↔ s.task k = some point)) :
    t.Settled i where
  fits k point hk hi := by
    rw [ho]
    exact h.fits k point ((ht k point hi).mp hk) hi
  alone k j point other hk hj hi hi' :=
    h.alone k j point other ((ht k point hi).mp hk) ((ht j other hi').mp hj) hi hi'
  rests o ho' idle :=
    h.rests o (ho ▸ ho') fun k point hk hi => idle k point ((ht k point hi).mpr hk) hi

theorem Settled.of_idle (idle : s.Idle i) (h : ∀ o, s.orchestrator i = some o → o.Rests) : s.Settled i where
  fits k point hk hi := absurd hi (idle k point hk)
  alone k _ point _ hk _ hi _ := absurd hi (idle k point hk)
  rests o ho _ := h o ho

theorem Settled.of_busy {point : Waiting} {o : Orchestrator} (hk : s.task k = some point)
    (hi : point.orchestrator? = some i) (ho : s.orchestrator i = some o) (fits : point.Fits o)
    (only : ∀ j other, s.task j = some other → other.orchestrator? = some i → j = k) : s.Settled i where
  fits j other hj hi' := by
    have := only j other hj hi'
    subst this
    rw [hk] at hj
    cases hj
    exact ⟨o, ho, fits⟩
  alone j j' other other' hj hj' hi hi' := (only j other hj hi).trans (only j' other' hj' hi').symm
  rests _ _ idle := absurd hi (idle k point hk)

/-- The operation of a number is on the orchestrator, or the number is free and no operation is on it. -/
def Owns (s : Sessions) (i k : Nat) : Prop :=
  (s.task k = none ∧ s.Idle i) ∨ ∃ point, s.task k = some point ∧ point.orchestrator? = some i

theorem Owns.only (own : s.Owns i k) (h : s.Settled i) {j : Nat} {point : Waiting} (hj : s.task j = some point)
    (hi : point.orchestrator? = some i) : j = k := by
  rcases own with ⟨-, idle⟩ | ⟨other, hk, hi'⟩
  · exact absurd hi (idle j point hj)
  · exact h.alone j k point other hj hk hi hi'

/-- Where an operation goes on: nowhere, and the orchestrator rests; or it waits, and fits. -/
def Leads (o : Orchestrator) (i : Nat) : Option Waiting → Prop
  | none => o.Rests
  | some point => point.orchestrator? = some i ∧ point.Fits o

/-- The main case of the invariant: one orchestrator changes, and with it the operation that is on it. -/
theorem settled_of_update (h : ∀ j, s.Settled j) {o : Orchestrator} {p : Option Waiting} (own : s.Owns i k)
    (ho : t.orchestrator = update s.orchestrator i (some o)) (ht : t.task = update s.task k p)
    (lead : Leads o i p) : ∀ j, t.Settled j := by
  intro j
  have onto : ∀ q ∈ p, q.orchestrator? = some i := by
    rintro q ⟨⟩
    exact lead.1
  have from' : ∀ q, s.task k = some q → q.orchestrator? = some i := by
    intro q hq
    rcases own with ⟨hnone, -⟩ | ⟨point, hk, hi⟩
    · rw [hnone] at hq
      cases hq
    · rw [hk] at hq
      exact Option.some.inj hq ▸ hi
  by_cases hj : j = i
  · subst hj
    -- Of the operations that are on the orchestrator none but `k` was there before, so none is there now.
    have hoj : t.orchestrator j = some o := by rw [ho, update_self]
    have elsewhere : ∀ k' q, t.task k' = some q → q.orchestrator? = some j → k' = k := by
      intro k' q hq hi
      by_contra hne
      rw [ht, update_of_ne hne] at hq
      exact hne (own.only (h j) hq hi)
    cases p with
    | none =>
      refine .of_idle (fun k' q hq hi => ?_) fun o' ho' => ?_
      · have := elsewhere k' q hq hi
        rw [ht, this, update_self] at hq
        cases hq
      · rw [hoj] at ho'
        exact Option.some.inj ho' ▸ lead
    | some q => exact .of_busy (by rw [ht, update_self]) lead.1 hoj lead.2 elsewhere
  · -- For another orchestrator nothing has changed: before and after, `k` is on `i` if it is anywhere.
    refine (h j).congr (by rw [ho, update_of_ne hj]) fun k' q hq => ?_
    rw [ht]
    by_cases hk' : k' = k
    · subst hk'
      rw [update_self]
      constructor
      · intro hp
        exact absurd (Option.some.inj (hq.symm.trans (onto q hp))) hj
      · intro hp
        exact absurd (Option.some.inj (hq.symm.trans (from' q hp))) hj
    · rw [update_of_ne hk']

/-- An operation that is on no orchestrator goes on, or a new one begins. -/
theorem settled_of_elsewhere (h : ∀ j, s.Settled j) {p : Option Waiting}
    (hs : ∀ q ∈ s.task k, q.orchestrator? = none) (hp : ∀ q ∈ p, q.orchestrator? = none)
    (ho : t.orchestrator = s.orchestrator) (ht : t.task = update s.task k p) : ∀ j, t.Settled j := by
  intro j
  refine (h j).congr (by rw [ho]) fun k' q hq => ?_
  rw [ht]
  by_cases hk : k' = k
  · subst hk
    rw [update_self]
    constructor
    · intro hp'
      rw [hp q hp'] at hq
      cases hq
    · intro hs'
      rw [hs q hs'] at hq
      cases hq
  · rw [update_of_ne hk]

theorem lease_setTask_setOrchestrator {p : Option Waiting} {o : Orchestrator} :
    ((s.setTask k p).setOrchestrator i (some o)).lease =
      update (update s.lease (.orchestrator i) o.lease) (.submission k) (p.bind Waiting.lease?) := by
  rw [lease_setOrchestrator, lease_setTask, Function.update_comm (by simp)]
  rfl

theorem setTask_of_orchestrator {p : Option Waiting} {o : Orchestrator} (ho : s.orchestrator i = some o) :
    (s.setTask k p).setOrchestrator i (some o) = s.setTask k p := by
  refine Sessions.ext ?_ rfl rfl rfl rfl rfl
  exact Function.update_eq_self_iff.mpr ho.symm

theorem lease_orchestrator {o : Orchestrator} (ho : s.orchestrator i = some o) :
    s.lease (.orchestrator i) = o.lease := by
  simp [lease, ho]

theorem lease_submission {point : Waiting} (hk : s.task k = some point) :
    s.lease (.submission k) = point.lease? := by
  simp [lease, hk]

/-- An operation goes on, and its orchestrator keeps its lease. -/
theorem lease_goOn {p : Option Waiting} {o o' : Orchestrator} (ho : s.orchestrator i = some o)
    (hl : o'.lease = o.lease) : ((s.setTask k p).setOrchestrator i (some o')).lease =
      update s.lease (.submission k) (p.bind Waiting.lease?) := by
  rw [lease_setTask_setOrchestrator, hl, update_lease_same (lease_orchestrator ho)]

/-- An operation begins, and its orchestrator keeps its lease. -/
theorem lease_begin_same {p : Option Waiting} {o o' : Orchestrator} (ho : s.orchestrator i = some o)
    (hl : o'.lease = o.lease) : ((s.begin p).setOrchestrator i (some o')).lease =
      update s.lease (.submission s.begun) (p.bind Waiting.lease?) :=
  lease_goOn ho hl

/-! ### Moves keep the invariant -/

section
variable (h : s.Sound)
include h

/-- The numbers of operations that go on have been given out. -/
theorem Sound.task_lt {point : Waiting} (hk : s.task k = some point) : k < s.begun := by
  by_contra hlt
  rw [h.freshTask k (Nat.le_of_not_lt hlt)] at hk
  cases hk

theorem Sound.orchestrator_lt {o : Orchestrator} (ho : s.orchestrator i = some o) : i < s.made := by
  by_contra hlt
  rw [h.freshOrchestrator i (Nat.le_of_not_lt hlt)] at ho
  cases ho

theorem Sound.fits {point : Waiting} {o : Orchestrator} (hk : s.task k = some point)
    (hi : point.orchestrator? = some i) (ho : s.orchestrator i = some o) : point.Fits o := by
  obtain ⟨o', ho', fits⟩ := (h.settled i).fits k point hk hi
  cases ho.symm.trans ho'
  exact fits

theorem Sound.lease_fresh : s.lease (.submission s.begun) = none := by
  simp [lease, h.freshTask s.begun (Nat.le_refl _)]

theorem Sound.owns_begun (idle : s.Idle i) : s.Owns i s.begun :=
  Or.inl ⟨h.freshTask s.begun (Nat.le_refl _), idle⟩

theorem Sound.task_same : s.task = update s.task s.begun none :=
  (Function.update_eq_self_iff.mpr (h.freshTask s.begun (Nat.le_refl _)).symm).symm

theorem Sound.idle_made : s.Idle s.made := by
  intro k point hk hi
  obtain ⟨o, ho, -⟩ := (h.settled s.made).fits k point hk hi
  exact Nat.lt_irrefl _ (h.orchestrator_lt ho)

theorem Sound.freshTask_setTask {point : Waiting} {p : Option Waiting} (hk : s.task k = some point) :
    ∀ j, s.begun ≤ j → update s.task k p j = none := by
  intro j hj
  rw [update_of_ne]
  · exact h.freshTask j hj
  · rintro rfl
    exact Nat.not_lt_of_le hj (h.task_lt hk)

theorem Sound.freshTask_begin {p : Option Waiting} :
    ∀ j, s.begun + 1 ≤ j → update s.task s.begun p j = none := by
  intro j hj
  rw [update_of_ne (Nat.ne_of_gt hj)]
  exact h.freshTask j (Nat.le_of_lt hj)

theorem Sound.freshOrchestrator_set {o : Orchestrator} {p : Option Orchestrator}
    (ho : s.orchestrator i = some o) : ∀ j, s.made ≤ j → update s.orchestrator i p j = none := by
  intro j hj
  rw [update_of_ne]
  · exact h.freshOrchestrator j hj
  · rintro rfl
    exact Nat.not_lt_of_le hj (h.orchestrator_lt ho)

/-- An orchestrator that nothing is on changes, and keeps its lease. -/
theorem Sound.setOrchestrator {o p : Orchestrator} (ho : s.orchestrator i = some o) (idle : s.Idle i)
    (hl : p.lease = o.lease) (rests : p.Rests) : (s.setOrchestrator i (some p)).Sound where
  settled := settled_of_update h.settled (h.owns_begun idle) rfl h.task_same rests
  exclusive := by
    rw [lease_setOrchestrator]
    change Exclusive (update s.lease (.orchestrator i) p.lease) s.slot
    rw [update_lease_same ((lease_orchestrator ho).trans hl.symm)]
    exact h.exclusive
  freshTask := h.freshTask
  freshOrchestrator := h.freshOrchestrator_set ho

/-- An orchestrator that nothing is on gives its lease back. -/
theorem Sound.setOrchestrator_giveBack {o : Orchestrator} {p : Option Orchestrator}
    (ho : s.orchestrator i = some o) (idle : s.Idle i) (hl : p.bind (·.lease) = none)
    (rests : ∀ q ∈ p, q.Rests) : ((s.setOrchestrator i p).giveBack o.lease).Sound where
  settled j := by
    by_cases hj : j = i
    · subst hj
      refine .of_idle idle fun q hq => rests q ?_
      simpa using hq
    · exact (h.settled j).congr (by simp [update_of_ne hj]) fun _ _ _ => Iff.rfl
  exclusive := by
    change Exclusive (s.setOrchestrator i p).lease (freed s.slot o.lease)
    rw [lease_setOrchestrator, hl]
    exact h.exclusive.freed (lease_orchestrator ho)
  freshTask := h.freshTask
  freshOrchestrator := h.freshOrchestrator_set ho

/-- An operation that holds no lease goes on, and its orchestrator keeps its lease. -/
theorem Sound.goOn {point : Waiting} {p : Option Waiting} {o o' : Orchestrator} (hk : s.task k = some point)
    (hi : point.orchestrator? = some i) (ho : s.orchestrator i = some o) (hl : o'.lease = o.lease)
    (hpoint : point.lease? = none) (hp : p.bind Waiting.lease? = none) (lead : Leads o' i p) :
    ((s.setTask k p).setOrchestrator i (some o')).Sound where
  settled := settled_of_update h.settled (Or.inr ⟨point, hk, hi⟩) rfl rfl lead
  exclusive := by
    change Exclusive ((s.setTask k p).setOrchestrator i (some o')).lease s.slot
    rw [lease_goOn ho hl, hp, update_lease_same ((lease_submission hk).trans hpoint)]
    exact h.exclusive
  freshTask := h.freshTask_setTask hk
  freshOrchestrator := h.freshOrchestrator_set ho

/-- A submission ends without a pending session and gives its lease back. -/
theorem Sound.endSubmission {point : Waiting} {sub : Submission} {o o' : Orchestrator}
    (hk : s.task k = some point) (hs : point.submission? = some (i, sub)) (ho : s.orchestrator i = some o)
    (hl : o'.lease = o.lease) (rests : o'.Rests) :
    (((s.setTask k none).setOrchestrator i (some o')).giveBack (some sub.lease)).Sound where
  settled := settled_of_update h.settled (Or.inr ⟨point, hk, Waiting.orchestrator?_of_submission? hs⟩)
    rfl rfl rests
  exclusive := by
    change Exclusive ((s.setTask k none).setOrchestrator i (some o')).lease (freed s.slot (some sub.lease))
    rw [lease_goOn ho hl]
    exact h.exclusive.freed ((lease_submission hk).trans (Waiting.lease?_of_submission? hs))
  freshTask := h.freshTask_setTask hk
  freshOrchestrator := h.freshOrchestrator_set ho

/-- An operation that is on no orchestrator goes on. -/
theorem Sound.setTask {point : Waiting} {p : Option Waiting} (hk : s.task k = some point)
    (ho : point.orchestrator? = none) (hp : ∀ q ∈ p, q.orchestrator? = none) : (s.setTask k p).Sound where
  settled := settled_of_elsewhere h.settled (fun q hq => by rw [hk] at hq; exact Option.some.inj hq ▸ ho) hp rfl rfl
  exclusive := by
    change Exclusive (s.setTask k p).lease s.slot
    have hnone : p.bind Waiting.lease? = none :=
      Option.bind_eq_none_iff.mpr fun q hq => Waiting.lease?_of_elsewhere (hp q hq)
    rw [lease_setTask, hnone, update_lease_same ((lease_submission hk).trans (Waiting.lease?_of_elsewhere ho))]
    exact h.exclusive
  freshTask := h.freshTask_setTask hk
  freshOrchestrator := h.freshOrchestrator

/-- An operation that is on no orchestrator begins. -/
theorem Sound.begin {p : Option Waiting} (hp : ∀ q ∈ p, q.orchestrator? = none) : (s.begin p).Sound where
  settled := settled_of_elsewhere h.settled
    (fun q hq => by rw [h.freshTask s.begun (Nat.le_refl _)] at hq; cases hq) hp rfl rfl
  exclusive := by
    change Exclusive (s.begin p).lease s.slot
    have hnone : p.bind Waiting.lease? = none :=
      Option.bind_eq_none_iff.mpr fun q hq => Waiting.lease?_of_elsewhere (hp q hq)
    rw [lease_begin, hnone, update_lease_same h.lease_fresh]
    exact h.exclusive
  freshTask := h.freshTask_begin
  freshOrchestrator := h.freshOrchestrator

/-- A submission begins on a free slot. -/
theorem Sound.submit {op : Operation} {o : Orchestrator} {u : UInt64} {point : Waiting}
    (hop : op.orchestrator? = some i) (ho : s.orchestrator i = some o) (idle : s.Idle i)
    (he : o.state.acceptsEdits = true) (free : s.slot o.account = none)
    (hp : Waiting.Asks o ⟨⟨o.account, u⟩, o.state⟩ op point) :
    (((s.begin (some point)).setOrchestrator i (some { o with state := .submitting })).setSlot
      o.account (some u)).Sound where
  settled := by
    have hl := ((h.settled i).rests o ho idle).lease_eq_none he
    refine settled_of_update h.settled (h.owns_begun idle) rfl rfl ⟨hp.orchestrator?.trans hop, ?_⟩
    cases hp <;> exact ⟨rfl, hl, rfl, he, rfl⟩
  exclusive := by
    have hlease : point.lease? = some ⟨o.account, u⟩ := by cases hp <;> rfl
    change Exclusive ((s.begin (some point)).setOrchestrator i (some { o with state := .submitting })).lease
      (update s.slot o.account (some u))
    rw [lease_begin_same ho, Option.bind_some, hlease]
    · exact h.exclusive.take h.lease_fresh free
    · rfl
  freshTask := h.freshTask_begin
  freshOrchestrator := h.freshOrchestrator_set ho

theorem Sound.fits_submission {point : Waiting} {sub : Submission} {o : Orchestrator}
    (hk : s.task k = some point) (hs : point.submission? = some (i, sub)) (ho : s.orchestrator i = some o) :
    o.state = .submitting ∧ o.lease = none ∧ sub.lease.account = o.account ∧ sub.prior.acceptsEdits = true :=
  (h.fits hk (Waiting.orchestrator?_of_submission? hs) ho).of_submission? hs

theorem Sound.fits_attempt {point : Waiting} {p : PendingSession} {o : Orchestrator}
    (hk : s.task k = some point) (hp : point.attempt? = some (i, p)) (ho : s.orchestrator i = some o) :
    o.state = .signing p ∧ ∃ l, o.lease = some l ∧ l.account = o.account :=
  (h.fits hk (Waiting.orchestrator?_of_attempt? hp) ho).of_attempt? hp

/-- A submission ends with a pending session, and its orchestrator takes its lease over. -/
theorem Sound.submitted {point : Waiting} {sub : Submission} {o : Orchestrator} {p : PendingSession}
    (hk : s.task k = some point) (hs : point.submission? = some (i, sub)) (ho : s.orchestrator i = some o) :
    ((s.setTask k none).setOrchestrator i (some (o.submitted sub p))).Sound where
  settled := by
    obtain ⟨-, -, ha, -⟩ := h.fits_submission hk hs ho
    exact settled_of_update h.settled (Or.inr ⟨point, hk, Waiting.orchestrator?_of_submission? hs⟩) rfl rfl
      (Or.inr ⟨p, sub.lease, rfl, rfl, ha⟩)
  exclusive := by
    obtain ⟨-, hl, -, -⟩ := h.fits_submission hk hs ho
    change Exclusive ((s.setTask k none).setOrchestrator i (some (o.submitted sub p))).lease s.slot
    rw [lease_setOrchestrator, lease_setTask]
    exact h.exclusive.handOver ((lease_submission hk).trans (Waiting.lease?_of_submission? hs))
      ((lease_orchestrator ho).trans hl)
  freshTask := h.freshTask_setTask hk
  freshOrchestrator := h.freshOrchestrator_set ho

/-- An attempt to approve begins. -/
theorem Sound.approve {o : Orchestrator} {p : PendingSession} {c : Bool} (ho : s.orchestrator i = some o)
    (idle : s.Idle i) (hp : o.state = .awaitingApproval p) :
    ((s.begin (some (.approve i c o.account p))).setOrchestrator i (some { o with state := .signing p })).Sound where
  settled := settled_of_update h.settled (h.owns_begun idle) rfl rfl
    ⟨rfl, rfl, ((h.settled i).rests o ho idle).exists_lease hp, rfl⟩
  exclusive := by
    change Exclusive (((s.begin (some (.approve i c o.account p))).setOrchestrator i _).lease) s.slot
    rw [lease_begin_same ho]
    · exact (update_lease_same h.lease_fresh).symm ▸ h.exclusive
    · rfl
  freshTask := h.freshTask_begin
  freshOrchestrator := h.freshOrchestrator_set ho

/-- An attempt to approve ends, and the session is still pending. -/
theorem Sound.endAttempt {point : Waiting} {p : PendingSession} {o o' : Orchestrator}
    (hk : s.task k = some point) (hp : point.attempt? = some (i, p)) (ho : s.orchestrator i = some o)
    (hs : o'.state = .awaitingApproval p) (ha : o'.account = o.account) (hl : o'.lease = o.lease) :
    ((s.setTask k none).setOrchestrator i (some o')).Sound := by
  obtain ⟨-, l, hol, hla⟩ := h.fits_attempt hk hp ho
  exact h.goOn hk (Waiting.orchestrator?_of_attempt? hp) ho hl (Waiting.lease?_of_attempt? hp) rfl
    (Or.inr ⟨p, l, hs, hl.trans hol, hla.trans ha.symm⟩)

/-- An attempt to approve succeeds, and its orchestrator gives its lease back. -/
theorem Sound.signed {c : Bool} {a : Account} {p : PendingSession} {g : EncodedSignature} {o : Orchestrator}
    {receipt : Receipt} {q : Progress} (hk : s.task k = some (.sign i c a p g)) (ho : s.orchestrator i = some o)
    (hq : q = .done (.receipt receipt) ∨ ∃ l, q = .waiting (.signed i receipt l)) :
    (((s.setTask k q.entry).setOrchestrator i (some (o.approved receipt))).giveBack o.lease).Sound where
  settled := by
    refine settled_of_update h.settled (Or.inr ⟨_, hk, rfl⟩) rfl rfl ?_
    rcases hq with rfl | ⟨l, rfl⟩
    · exact Or.inl ⟨rfl, rfl⟩
    · exact ⟨rfl, rfl, rfl⟩
  exclusive := by
    have hnone : q.entry.bind Waiting.lease? = none := by rcases hq with rfl | ⟨l, rfl⟩ <;> rfl
    change Exclusive ((s.setTask k q.entry).setOrchestrator i _).lease (freed s.slot o.lease)
    rw [lease_setOrchestrator, lease_setTask, hnone, update_lease_same (l := none) (lease_submission hk)]
    exact h.exclusive.freed (lease_orchestrator ho)
  freshTask := h.freshTask_setTask hk
  freshOrchestrator := h.freshOrchestrator_set ho

/-- Everything that a step can do to sessions keeps the invariant. -/
theorem Sound.move {e : Event} {r : Report} (m : Move s e r t) : t.Sound := by
  cases m with
  | newCache | newGate | absent | inUse | refused | unmoved => exact h
  | made =>
    refine ⟨?_, ?_, h.freshTask, fun j hj => ?_⟩
    · exact settled_of_update h.settled (h.owns_begun h.idle_made) rfl h.task_same (Or.inl ⟨rfl, rfl⟩)
    · rw [lease_make, update_lease_same]
      · exact h.exclusive
      · simp [lease, h.freshOrchestrator s.made (Nat.le_refl _), Orchestrator.initial]
    · change update s.orchestrator s.made _ j = none
      rw [update_of_ne (Nat.ne_of_gt hj)]
      exact h.freshOrchestrator j (Nat.le_of_lt hj)
  | forgotten ho hi => exact h.setOrchestrator_giveBack ho hi rfl (by rintro _ ⟨⟩)
  | edited ho hi he | formSet ho hi he =>
    exact h.setOrchestrator ho hi rfl (Or.inl ⟨rfl, ((h.settled _).rests _ ho hi).lease_eq_none he⟩)
  | discarded ho hi hp =>
    refine h.setOrchestrator_giveBack ho hi rfl ?_
    rintro _ ⟨⟩
    exact Or.inl ⟨rfl, rfl⟩
  | leased free hn =>
    refine ⟨fun j => (h.settled j).congr rfl fun _ _ _ => Iff.rfl, ?_, h.freshTask, h.freshOrchestrator⟩
    change Exclusive (s.setHand _ _).lease _
    rw [lease_setHand]
    exact h.exclusive.take hn free
  | @returned n l hn =>
    refine ⟨fun j => (h.settled j).congr rfl fun _ _ _ => Iff.rfl, ?_, h.freshTask, h.freshOrchestrator⟩
    have hx : s.lease (.hand n) = some l := hn
    change Exclusive (s.setHand n none).lease (freed s.slot (some l))
    rw [lease_setHand]
    exact h.exclusive.freed hx
  | begunElsewhere _ hp => exact h.begin hp
  | answeredElsewhere hk ho hp => exact h.setTask hk ho hp
  | droppedElsewhere hk ho => exact h.setTask hk ho (by rintro _ ⟨⟩)
  | opRefused => exact h.begin (by rintro _ ⟨⟩)
  | submits hop ho hi he free hp => exact h.submit hop ho hi he free hp
  | submitted hk hs ho => exact h.submitted hk hs ho
  | submissionFailed hk hs ho =>
    obtain ⟨-, hl, -⟩ := h.fits_submission hk hs ho
    exact h.endSubmission hk hs ho rfl (Or.inl ⟨rfl, hl⟩)
  | submissionDropped hk hs ho =>
    obtain ⟨-, hl, -, he⟩ := h.fits_submission hk hs ho
    exact h.endSubmission hk hs ho rfl (Or.inl ⟨he, hl⟩)
  | approves ho hi hp => exact h.approve ho hi hp
  | signs hk _ =>
    obtain ⟨o, ho, fits⟩ := (h.settled _).fits _ _ hk rfl
    rw [← setTask_of_orchestrator ho]
    exact h.goOn hk rfl ho rfl rfl rfl ⟨rfl, fits⟩
  | attemptFailed hk hp ho | attemptDropped hk hp ho | attemptCancelled hk hp _ ho =>
    exact h.endAttempt hk hp ho rfl rfl rfl
  | signed hk ho _ hq => exact h.signed hk ho hq
  | loaded hk | loadDropped hk =>
    obtain ⟨o, ho, hs, hl⟩ := (h.settled _).fits _ _ hk rfl
    rw [← setTask_of_orchestrator ho]
    exact h.goOn hk rfl ho rfl rfl rfl (Or.inl ⟨by rw [hs]; rfl, hl⟩)

end

theorem lease_initial (x : Holder) : World.initial.sessions.lease x = none := by
  cases x <;> rfl

theorem sound_initial : World.initial.sessions.Sound where
  settled i := .of_idle (fun k point hk => by cases hk) (fun o ho => by cases ho)
  exclusive := by
    refine ⟨fun x l hx => ?_, fun x y l m hx => ?_, fun a t ht => by cases ht⟩
    · rw [lease_initial] at hx
      cases hx
    · rw [lease_initial] at hx
      cases hx
  freshTask _ _ := rfl
  freshOrchestrator _ _ := rfl

end Sessions

/-- Every reachable world is sound. -/
theorem World.Reachable.sound {w : World} (h : w.Reachable) : w.sessions.Sound := by
  induction h with
  | initial => exact Sessions.sound_initial
  | step e _ ih => exact ih.move (World.move ih.manned e)

end PasskeySession
