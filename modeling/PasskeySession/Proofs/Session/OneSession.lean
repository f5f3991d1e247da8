import PasskeySession.Proofs.Session.Sound

/-! # One session for each account

In every world that events can make, each slot that is filled belongs to one lease that somebody holds, and is
freed by nobody else; so of all orchestrators of an account one at most has a session under way, and a lease
is to be had exactly while nobody holds one on the account. -/

namespace PasskeySession
open Function (update update_self update_of_ne)

/-- Whether a session is under way: submitted, waiting for approval, or being signed. -/
def SigningState.Underway : SigningState → Prop
  | submitting | awaitingApproval _ | signing _ => True
  | idle | configuring | signed _ | failed _ => False

theorem SigningState.underway_iff {st : SigningState} : st.Underway ↔ st.acceptsEdits = false := by
  cases st <;> simp [Underway, acceptsEdits]

/-- The leases that an orchestrator has by itself and through the operations that are on it. -/
inductive Holder.Of (s : Sessions) (i : Nat) : Holder → Prop
  | itself : Of s i (.orchestrator i)
  | submission {k : Nat} {point : Waiting} (hk : s.task k = some point) (hi : point.orchestrator? = some i) :
    Of s i (.submission k)

/-- An event is somebody's own. -/
inductive Event.By (s : Sessions) : Event → Holder → Prop
  | returned {n : Nat} : By s (.releaseLease n) (.hand n)
  | forgotten {i : Nat} : By s (.dropOrchestrator i) (.orchestrator i)
  | discarded {i : Nat} : By s (.discard i) (.orchestrator i)
  | operation {e : Event} {k : Nat} (he : e.task? = some k) : By s e (.submission k)
  | onOrchestrator {e : Event} {k i : Nat} {point : Waiting} (he : e.task? = some k)
    (hk : s.task k = some point) (hi : point.orchestrator? = some i) : By s e (.orchestrator i)

namespace Sessions
variable {s t : Sessions} {e : Event} {r : Report} {x y : Holder} {l : Lease} {i k : Nat}

theorem held_of_update {lease : Holder → Option Lease} {v : Option Lease} (hx : lease x = some l) (h : x ≠ y) :
    update lease y v x = some l := by
  rw [update_of_ne h]
  exact hx

theorem ne_of_fresh (hx : s.lease x = some l) (hy : s.lease y = none) : x ≠ y := by
  rintro rfl
  rw [hx] at hy
  cases hy

/-- Nobody loses a lease but by an event of their own. -/
theorem Sound.kept (h : s.Sound) (m : Move s e r t) (hx : s.lease x = some l) (hb : ¬ e.By s x) :
    t.lease x = some l := by
  -- Each move changes leases of its own holders and of nobody else, or gives one to somebody who has none.
  have other : ∀ {y}, e.By s y → x ≠ y := fun hy hxy => hb (hxy ▸ hy)
  have task : ∀ {k}, e.task? = some k → x ≠ .submission k := fun he => other (.operation he)
  have beginning : x ≠ .submission s.begun := ne_of_fresh hx h.lease_fresh
  cases m with
  | newCache | newGate | absent | inUse | refused | unmoved => exact hx
  | made =>
    rw [lease_make]
    refine held_of_update hx (ne_of_fresh hx ?_)
    rw [lease, h.freshOrchestrator s.made (Nat.le_refl _)]
    rfl
  | forgotten =>
    change (s.setOrchestrator _ _).lease x = some l
    rw [lease_setOrchestrator]
    exact held_of_update hx (other .forgotten)
  | edited ho | formSet ho =>
    rw [lease_setOrchestrator, Option.bind_some, update_lease_same (lease_orchestrator ho)]
    exact hx
  | discarded =>
    change (s.setOrchestrator _ _).lease x = some l
    rw [lease_setOrchestrator]
    exact held_of_update hx (other .discarded)
  | leased _ hn =>
    change (s.setHand _ _).lease x = some l
    rw [lease_setHand]
    exact held_of_update hx (ne_of_fresh hx hn)
  | returned =>
    change (s.setHand _ _).lease x = some l
    rw [lease_setHand]
    exact held_of_update hx (other .returned)
  | begunElsewhere | opRefused =>
    rw [lease_begin]
    exact held_of_update hx beginning
  | answeredElsewhere | droppedElsewhere | signs | loaded | loadDropped =>
    rw [lease_setTask]
    exact held_of_update hx (task rfl)
  | submits hop ho =>
    change ((s.begin _).setOrchestrator _ _).lease x = some l
    rw [lease_begin_same ho]
    · exact held_of_update hx beginning
    · rfl
  | approves ho =>
    rw [lease_begin_same ho]
    · exact held_of_update hx beginning
    · rfl
  | submitted hk hs =>
    rw [lease_setTask_setOrchestrator]
    refine held_of_update (held_of_update hx ?_) (task rfl)
    exact other (.onOrchestrator rfl hk (Waiting.orchestrator?_of_submission? hs))
  | submissionFailed _ _ ho | submissionDropped _ _ ho =>
    change ((s.setTask _ _).setOrchestrator _ _).lease x = some l
    rw [lease_goOn ho]
    · exact held_of_update hx (task rfl)
    · rfl
  | attemptFailed _ _ ho | attemptDropped _ _ ho | attemptCancelled _ _ _ ho =>
    rw [lease_goOn ho]
    · exact held_of_update hx (task rfl)
    · rfl
  | signed hk =>
    change ((s.setTask _ _).setOrchestrator _ _).lease x = some l
    rw [lease_setTask_setOrchestrator]
    refine held_of_update (held_of_update hx ?_) (task rfl)
    exact other (.onOrchestrator rfl hk rfl)

theorem slot_of_giveBack {a : Account} {u : UInt64} {l : Option Lease} (ha : s.slot a = some u) :
    (s.giveBack l).slot a = some u ∨ (s.giveBack l).slot a = none := by
  cases l with
  | none => exact Or.inl ha
  | some l =>
    rw [giveBack_slot, freed]
    split
    · by_cases hal : a = l.account
      · rw [hal, update_self]
        exact Or.inr rfl
      · rw [update_of_ne hal]
        exact Or.inl ha
    · exact Or.inl ha

theorem slot_of_setSlot {a b : Account} {u v : UInt64} (ha : s.slot a = some u) (hb : s.slot b = none) :
    (s.setSlot b (some v)).slot a = some u := by
  rw [setSlot_slot, update_of_ne]
  · exact ha
  · rintro rfl
    rw [ha] at hb
    cases hb

/-- A slot that is filled stays as it is, or is freed. -/
theorem slot_of_move (m : Move s e r t) {a : Account} {u : UInt64} (ha : s.slot a = some u) :
    t.slot a = some u ∨ t.slot a = none := by
  cases m with
  | forgotten | discarded | submissionFailed | submissionDropped | signed => exact slot_of_giveBack ha
  | @returned n _ _ => exact slot_of_giveBack (s := s.setHand n none) ha
  | leased free => exact Or.inl (slot_of_setSlot ha free)
  | submits _ _ _ _ free => exact Or.inl (slot_of_setSlot ha free)
  | _ => exact Or.inl ha

end Sessions

theorem Orchestrator.Rests.underway_iff {o : Orchestrator} (h : o.Rests) :
    o.state.Underway ↔ ∃ l, o.lease = some l := by
  rcases h with ⟨he, hl⟩ | ⟨p, l, hs, hl, -⟩
  · rw [hl]
    refine iff_of_false (fun hu => ?_) (fun ⟨_, h⟩ => nomatch h)
    rw [SigningState.underway_iff.mp hu] at he
    cases he
  · rw [hs]
    exact iff_of_true trivial ⟨l, hl⟩

theorem Orchestrator.Rests.account {o : Orchestrator} {l : Lease} (h : o.Rests) (hl : o.lease = some l) :
    l.account = o.account := by
  rcases h with ⟨-, hnone⟩ | ⟨_, m, -, hm, ha⟩
  · rw [hnone] at hl
    cases hl
  · rw [hm] at hl
    exact Option.some.inj hl ▸ ha

namespace Waiting
variable {point : Waiting} {o : Orchestrator} {i : Nat} {l : Lease}

theorem Fits.underway_iff (h : point.Fits o) (hi : point.orchestrator? = some i) :
    o.state.Underway ↔ (∃ l, o.lease = some l) ∨ ∃ l, point.lease? = some l := by
  cases point with
  | configure _ s | prepare _ s =>
    rw [h.1]
    exact iff_of_true trivial (Or.inr ⟨s.lease, rfl⟩)
  | approve | sign =>
    obtain ⟨l, hl, -⟩ := h.2.1
    rw [h.1]
    exact iff_of_true trivial (Or.inl ⟨l, hl⟩)
  | signed =>
    rw [h.1, h.2]
    refine iff_of_false id ?_
    rintro (⟨_, ⟨⟩⟩ | ⟨_, ⟨⟩⟩)
  | _ => cases hi

theorem Fits.account (h : point.Fits o) (hi : point.orchestrator? = some i)
    (hl : o.lease = some l ∨ point.lease? = some l) : l.account = o.account := by
  cases point with
  | configure _ s | prepare _ s =>
    rcases hl with hl | ⟨⟨⟩⟩
    · rw [h.2.1] at hl
      cases hl
    · exact h.2.2.1
  | approve | sign =>
    obtain ⟨m, hm, ha⟩ := h.2.1
    rcases hl with hl | ⟨⟨⟩⟩
    rw [hm] at hl
    exact Option.some.inj hl ▸ ha
  | signed =>
    rcases hl with hl | ⟨⟨⟩⟩
    rw [h.2] at hl
    cases hl
  | _ => cases hi

end Waiting

namespace Sessions
variable {s : Sessions} {x : Holder} {l : Lease} {i j k : Nat} {o : Orchestrator}

/-- What an orchestrator has while no operation is on it. -/
theorem of_idle (idle : s.Idle i) (hx : Holder.Of s i x) : x = .orchestrator i := by
  cases hx with
  | itself => rfl
  | submission hk hi => exact absurd hi (idle _ _ hk)

theorem Sound.busy_of_not_idle (h : s.Sound) (ho : s.orchestrator i = some o) (busy : ¬ s.Idle i) :
    ∃ k point, s.task k = some point ∧ point.orchestrator? = some i ∧ point.Fits o := by
  obtain ⟨k, point, hk, hi⟩ : ∃ k point, s.task k = some point ∧ point.orchestrator? = some i := by
    simpa [Idle] using busy
  exact ⟨k, point, hk, hi, h.fits hk hi ho⟩

/-- What an orchestrator has while an operation is on it. -/
theorem Sound.of_busy (h : s.Sound) {point : Waiting} (hk : s.task k = some point)
    (hi : point.orchestrator? = some i) (hx : Holder.Of s i x) : x = .orchestrator i ∨ x = .submission k := by
  cases hx with
  | itself => exact Or.inl rfl
  | submission hj hi' => exact Or.inr (congrArg _ ((h.settled i).alone _ _ _ _ hj hk hi' hi))

theorem Sound.lease_iff (h : s.Sound) (ho : s.orchestrator i = some o) :
    (∃ x l, Holder.Of s i x ∧ s.lease x = some l) ↔ o.state.Underway := by
  by_cases idle : s.Idle i
  · rw [((h.settled i).rests o ho idle).underway_iff]
    constructor
    · rintro ⟨x, l, hx, hl⟩
      cases of_idle idle hx
      exact ⟨l, (lease_orchestrator ho).symm.trans hl⟩
    · rintro ⟨l, hl⟩
      exact ⟨_, l, .itself, (lease_orchestrator ho).trans hl⟩
  · obtain ⟨k, point, hk, hi, fits⟩ := h.busy_of_not_idle ho idle
    rw [fits.underway_iff hi]
    constructor
    · rintro ⟨x, l, hx, hl⟩
      rcases h.of_busy hk hi hx with rfl | rfl
      · exact Or.inl ⟨l, (lease_orchestrator ho).symm.trans hl⟩
      · exact Or.inr ⟨l, (lease_submission hk).symm.trans hl⟩
    · rintro (⟨l, hl⟩ | ⟨l, hl⟩)
      · exact ⟨_, l, .itself, (lease_orchestrator ho).trans hl⟩
      · exact ⟨_, l, .submission hk hi, (lease_submission hk).trans hl⟩

theorem Sound.own_account (h : s.Sound) (ho : s.orchestrator i = some o) (hx : Holder.Of s i x)
    (hl : s.lease x = some l) : l.account = o.account := by
  by_cases idle : s.Idle i
  · cases of_idle idle hx
    exact ((h.settled i).rests o ho idle).account ((lease_orchestrator ho).symm.trans hl)
  · obtain ⟨k, point, hk, hi, fits⟩ := h.busy_of_not_idle ho idle
    refine fits.account hi ?_
    rcases h.of_busy hk hi hx with rfl | rfl
    · exact Or.inl ((lease_orchestrator ho).symm.trans hl)
    · exact Or.inr ((lease_submission hk).symm.trans hl)

/-- Two orchestrators have nothing in common. -/
theorem of_unique (hi : Holder.Of s i x) (hj : Holder.Of s j x) : i = j := by
  cases hi with
  | itself =>
    cases hj
    rfl
  | submission hk hi =>
    cases hj with
    | submission hk' hj =>
      cases hk.symm.trans hk'
      exact Option.some.inj (hi.symm.trans hj)

/-- A slot is free while nobody holds a lease on the account. -/
theorem Sound.free_iff (h : s.Sound) {a : Account} :
    s.slot a = none ↔ ∀ x l, s.lease x = some l → l.account ≠ a := by
  constructor
  · intro free x l hl ha
    have := h.exclusive.filled x l hl
    rw [ha, free] at this
    cases this
  · intro free
    cases ht : s.slot a with
    | none => rfl
    | some u =>
      obtain ⟨x, hx⟩ := h.exclusive.held a u ht
      exact absurd rfl (free x _ hx)

end Sessions

/-- What it is for the sessions of a world to exclude each other. -/
structure World.Exclusive (w : World) : Prop where
  /-- A slot is filled while there is one lease on the account that somebody holds, -/
  held_iff : ∀ a, w.registry.isHeld a = true ↔ ∃! x, ∃ l, w.sessions.lease x = some l ∧ l.account = a
  /-- and carries the token of that lease. -/
  token : ∀ x l, w.sessions.lease x = some l → w.registry.token? l.account = some l.token
  /-- An orchestrator has a lease while its session is under way, -/
  lease_iff : ∀ i o, w.orchestrator? i = some o →
    ((∃ x l, Holder.Of w.sessions i x ∧ w.sessions.lease x = some l) ↔ o.state.Underway)
  /-- on its own account, -/
  account : ∀ i o x l, w.orchestrator? i = some o → Holder.Of w.sessions i x → w.sessions.lease x = some l →
    l.account = o.account
  /-- and no other orchestrator has a session under way on that account, -/
  alone : ∀ i j o p, w.orchestrator? i = some o → w.orchestrator? j = some p → o.state.Underway →
    p.state.Underway → o.account = p.account → i = j
  /-- and nobody has a lease on it by hand. -/
  alone_hand : ∀ i o n l, w.orchestrator? i = some o → o.state.Underway → w.sessions.lease (.hand n) = some l →
    l.account ≠ o.account
  /-- A lease is to be had while nobody holds one on the account, whatever is held on others. -/
  acquire_iff : ∀ a, (∃ n l, (w.step (.acquire a)).2 = .leased n l) ↔
    ∀ x l, w.sessions.lease x = some l → l.account ≠ a
  /-- Whoever has a lease has it until an event of their own, and until then it fills its slot. -/
  kept : ∀ e x l, w.sessions.lease x = some l → ¬ e.By w.sessions x →
    (w.step e).1.sessions.lease x = some l ∧ (w.step e).1.registry.token? l.account = some l.token
  /-- A slot that an event changes is freed, by its holder, and nobody has a lease on the account any more. -/
  freed : ∀ e a t, w.registry.token? a = some t → (w.step e).1.registry.token? a ≠ some t →
    (w.step e).1.registry.token? a = none ∧ (∃ x, e.By w.sessions x ∧ w.sessions.lease x = some ⟨a, t⟩) ∧
      ∀ x l, (w.step e).1.sessions.lease x = some l → l.account ≠ a

theorem World.acquire_isLeased_iff {w : World} {a : Account} :
    (∃ n l, (w.step (.acquire a)).2 = .leased n l) ↔ w.registry.token? a = none := by
  rw [← Registry.acquire_isOk_iff]
  change (∃ n l, (w.acquireLease a).2 = .leased n l) ↔ _
  unfold acquireLease
  split
  · rename_i r h
    rw [h]
    exact iff_of_false (fun ⟨_, _, h⟩ => nomatch h) (fun ⟨_, h⟩ => nomatch h)
  · rename_i l r h
    rw [h]
    exact iff_of_true ⟨_, l, rfl⟩ ⟨l, rfl⟩

/-- Sessions exclude each other in every world that events can make. -/
theorem World.Reachable.excludes {w : World} (h : w.Reachable) : w.Exclusive := by
  have sound := h.sound
  have next : ∀ e, (w.step e).1.sessions.Sound := fun e => (Reachable.step e h).sound
  have move : ∀ e, Move w.sessions e (w.step e).2 (w.step e).1.sessions := World.move sound.manned
  refine ⟨fun a => ?_, sound.exclusive.filled, fun i o => sound.lease_iff, fun i o x l => sound.own_account,
    fun i j o p ho hp hi hj ha => ?_, fun i o n l ho hi hl ha => ?_, fun a => ?_, fun e x l hl hb => ?_,
    fun e a t ht hne => ?_⟩
  · constructor
    · intro held
      obtain ⟨t, ht⟩ := Option.isSome_iff_exists.mp held
      obtain ⟨x, hx⟩ := sound.exclusive.held a t ht
      refine ⟨x, ⟨_, hx, rfl⟩, ?_⟩
      rintro y ⟨m, hm, ha⟩
      exact sound.exclusive.single y x m _ hm hx ha
    · rintro ⟨x, ⟨l, hl, rfl⟩, -⟩
      exact Option.isSome_iff_exists.mpr ⟨l.token, sound.exclusive.filled x l hl⟩
  · obtain ⟨x, l, hx, hl⟩ := (sound.lease_iff ho).mpr hi
    obtain ⟨y, m, hy, hm⟩ := (sound.lease_iff hp).mpr hj
    have same : l.account = m.account :=
      (sound.own_account ho hx hl).trans (ha.trans (sound.own_account hp hy hm).symm)
    cases sound.exclusive.single x y l m hl hm same
    exact Sessions.of_unique hx hy
  · obtain ⟨x, m, hx, hm⟩ := (sound.lease_iff ho).mpr hi
    cases sound.exclusive.single _ x l m hl hm (ha.trans (sound.own_account ho hx hm).symm)
    cases hx
  · rw [acquire_isLeased_iff]
    exact sound.free_iff
  · have := sound.kept (move e) hl hb
    exact ⟨this, (next e).exclusive.filled x l this⟩
  · have free : (w.step e).1.sessions.slot a = none := (Sessions.slot_of_move (move e) ht).resolve_left hne
    obtain ⟨x, hx⟩ := sound.exclusive.held a t ht
    refine ⟨free, ⟨x, ?_, hx⟩, (next e).free_iff.mp free⟩
    by_contra hb
    exact hne ((next e).exclusive.filled x _ (sound.kept (move e) hx hb))

/-- Two orchestrators of one account, one of which has submitted its form. -/
theorem World.exclusive_submitting :
    let a : Account := ⟨⟨List.replicate 20 0, rfl⟩, 1⟩
    let w := (((initial.step (.newOrchestrator a none)).1.step (.newOrchestrator a none)).1.step
      (.start (.submit 1))).1
    w.registry.token? a = some 0 ∧ w.Exclusive :=
  ⟨rfl, Reachable.excludes (.step _ (.step _ (.step _ .initial)))⟩

end PasskeySession
