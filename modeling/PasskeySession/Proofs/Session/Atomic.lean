import PasskeySession.Proofs.Session.Sound

/-! # All or nothing

An operation on an orchestrator either comes to its end or leaves everything as it was: refused, dropped or
cancelled it changes nothing, failed it leaves its error and nothing else. Whatever happens in between to other
orchestrators and on other accounts, the orchestrator that the operation is on waits for it. -/

namespace PasskeySession
open Function (update update_self update_of_ne)

/-! ### Orchestrators that go back -/

namespace Orchestrator
variable {o : Orchestrator} {p : PendingSession}

theorem submissionDropped_submitting {sub : Submission} (h : sub.prior = o.state) :
    { o with state := .submitting }.submissionDropped sub = o := by
  rw [submissionDropped, h]

theorem approvalAbandoned_signing (h : o.state = .awaitingApproval p) :
    { o with state := .signing p }.approvalAbandoned p = o := by
  rw [approvalAbandoned, ← h]

theorem approvalFailed_signing {e : ClientError} (h : o.state = .awaitingApproval p) :
    { o with state := .signing p }.approvalFailed p e = { o with lastError := some e } := by
  rw [approvalFailed, ← h]

end Orchestrator

namespace Sessions
variable {s t : Sessions} {e : Event} {r : Report} {i j k : Nat} {point : Waiting} {o : Orchestrator}
  {u : Option UInt64}

/-- Orchestrators and slots are as they were. -/
structure Same (s t : Sessions) : Prop where
  orchestrator : t.orchestrator = s.orchestrator
  slot : t.slot = s.slot

/-- One orchestrator is left like this, with this in the slot of its account, and everything else is as it was. -/
structure Leaves (s t : Sessions) (i : Nat) (o : Orchestrator) (u : Option UInt64) : Prop where
  orchestrator : t.orchestrator = update s.orchestrator i (some o)
  slot : t.slot = update s.slot o.account u

/-- While an operation is on an orchestrator, nothing else changes the orchestrator or the operation. -/
theorem Sound.frame (h : s.Sound) (m : Move s e r t) (hk : s.task k = some point)
    (hi : point.orchestrator? = some i) (he : e.task? ≠ some k) :
    t.orchestrator i = s.orchestrator i ∧ t.task k = s.task k := by
  have busy : ∀ {j}, s.Idle j → i ≠ j := fun idle hij => idle k point hk (hij ▸ hi)
  have other : ∀ {n}, e.task? = some n → k ≠ n := fun hn hkn => he (hkn ▸ hn)
  have elsewhere : ∀ {n j : Nat} {q : Waiting}, e.task? = some n → s.task n = some q →
      q.orchestrator? = some j → i ≠ j := fun hn hq hj hij =>
    other hn ((h.settled i).alone k _ point _ hk hq hi (hij ▸ hj))
  have begun : k ≠ s.begun := Nat.ne_of_lt (h.task_lt hk)
  cases m with
  | newCache | newGate | absent | inUse | refused | unmoved | leased | returned => exact ⟨rfl, rfl⟩
  | made => exact ⟨update_of_ne (busy h.idle_made) .., rfl⟩
  | forgotten _ idle | edited _ idle | formSet _ idle | discarded _ idle => exact ⟨update_of_ne (busy idle) .., rfl⟩
  | begunElsewhere | opRefused => exact ⟨rfl, update_of_ne begun ..⟩
  | submits _ _ idle | approves _ idle => exact ⟨update_of_ne (busy idle) .., update_of_ne begun ..⟩
  | answeredElsewhere | droppedElsewhere | signs | loaded | loadDropped => exact ⟨rfl, update_of_ne (other rfl) ..⟩
  | submitted hq hs | submissionFailed hq hs | submissionDropped hq hs =>
    exact ⟨update_of_ne (elsewhere rfl hq (Waiting.orchestrator?_of_submission? hs)) .., update_of_ne (other rfl) ..⟩
  | attemptFailed hq hp | attemptDropped hq hp | attemptCancelled hq hp =>
    exact ⟨update_of_ne (elsewhere rfl hq (Waiting.orchestrator?_of_attempt? hp)) .., update_of_ne (other rfl) ..⟩
  | signed hq => exact ⟨update_of_ne (elsewhere rfl hq rfl) .., update_of_ne (other rfl) ..⟩

/-- How an operation and its orchestrator stand that began when the orchestrator was `o` and the slot of its
    account held `u`. -/
inductive Stage (o : Orchestrator) (u : Option UInt64) (i : Nat) : Waiting → Orchestrator → Prop
  | submission {point : Waiting} {sub : Submission} (hs : point.submission? = some (i, sub))
    (hp : sub.prior = o.state) (hu : u = none) : Stage o u i point { o with state := .submitting }
  | attempt {point : Waiting} {p : PendingSession} {l : Lease} (hp : point.attempt? = some (i, p))
    (ho : o.state = .awaitingApproval p) (hl : o.lease = some l) (ha : l.account = o.account)
    (hu : u = some l.token) : Stage o u i point { o with state := .signing p }
  | signed {receipt : Receipt} {l : CacheLoad} : Stage o u i (.signed i receipt l) (o.approved receipt)

/-- What an event of an operation makes of sessions, when the operation began with the orchestrator `o` and
    `u` in the slot of its account. -/
inductive Effect (o : Orchestrator) (u : Option UInt64) (i k : Nat) (s : Sessions) :
    Waiting → Event → Report → Sessions → Prop
  -- A submission succeeds, fails, or is dropped.
  | submitted {point : Waiting} {sub : Submission} {reply : Reply} {p : PendingSession} {t : Sessions}
    (hs : point.submission? = some (i, sub)) (hp : point.Opens reply (.ok p))
    (h : Leaves s t i { o with state := .awaitingApproval p, lease := some sub.lease, lastError := none }
      (some sub.lease.token)) :
    Effect o u i k s point (.answer k reply) (.progress k (.done (.pending p))) t
  | submissionFailed {point : Waiting} {sub : Submission} {reply : Reply} {e : ClientError} {t : Sessions}
    (hs : point.submission? = some (i, sub)) (he : point.Opens reply (.error e))
    (h : Leaves s t i { o with state := .failed e } none) :
    Effect o u i k s point (.answer k reply) (.progress k (.failed e)) t
  | submissionDropped {point : Waiting} {sub : Submission} {t : Sessions}
    (hs : point.submission? = some (i, sub)) (h : Leaves s t i o u) : Effect o u i k s point (.drop k) .done t
  -- An attempt to approve goes on, fails, is dropped or cancelled, or succeeds.
  | goesOn {point next : Waiting} {p : PendingSession} {reply : Reply} {t : Sessions}
    (hp : point.attempt? = some (i, p)) (hn : next.attempt? = some (i, p)) (h : Same s t) :
    Effect o u i k s point (.answer k reply) (.progress k (.waiting next)) t
  | attemptFailed {point : Waiting} {p : PendingSession} {reply : Reply} {e : ClientError} {t : Sessions}
    (hp : point.attempt? = some (i, p)) (he : point.Fails reply e)
    (h : Leaves s t i { o with lastError := some e } u) :
    Effect o u i k s point (.answer k reply) (.progress k (.failed e)) t
  | attemptDropped {point : Waiting} {p : PendingSession} {t : Sessions} (hp : point.attempt? = some (i, p))
    (h : Leaves s t i o u) : Effect o u i k s point (.drop k) .done t
  | attemptCancelled {point : Waiting} {p : PendingSession} {t : Sessions} (hp : point.attempt? = some (i, p))
    (h : Leaves s t i o u) :
    Effect o u i k s point (.cancel k) (.progress k (.failed (.authenticator .cancelled))) t
  | signed {c : Bool} {a : Account} {p : PendingSession} {g : EncodedSignature} {reply : Reply} {receipt : Receipt}
    {q : Progress} {t : Sessions} (hq : q = .done (.receipt receipt) ∨ ∃ l, q = .waiting (.signed i receipt l))
    (h : Leaves s t i { o with state := .signed receipt, lease := none, lastError := none } none) :
    Effect o u i k s (.sign i c a p g) (.answer k reply) (.progress k q) t
  -- After that the sessions of the account are looked up, and that changes nothing more.
  | loaded {receipt : Receipt} {l : CacheLoad} {reply : Reply} {t : Sessions}
    (hs : s.orchestrator i = some { o with state := .signed receipt, lease := none, lastError := none })
    (h : Same s t) :
    Effect o u i k s (.signed i receipt l) (.answer k reply) (.progress k (.done (.receipt receipt))) t
  | loadDropped {receipt : Receipt} {l : CacheLoad} {t : Sessions}
    (hs : s.orchestrator i = some { o with state := .signed receipt, lease := none, lastError := none })
    (h : Same s t) : Effect o u i k s (.signed i receipt l) (.drop k) .done t
  -- What cannot be cancelled goes on.
  | unmoved {point : Waiting} (hc : point.cancellable = false) : Effect o u i k s point (.cancel k) (.unmoved k) s

namespace Stage
variable {q : Orchestrator}

theorem orchestrator? (st : Stage o u i point q) : point.orchestrator? = some i := by
  cases st with
  | submission hs => exact Waiting.orchestrator?_of_submission? hs
  | attempt hp => exact Waiting.orchestrator?_of_attempt? hp
  | signed => rfl

theorem of_submission {sub : Submission} (st : Stage o u i point q) (hs : point.submission? = some (j, sub)) :
    j = i ∧ q = { o with state := .submitting } ∧ sub.prior = o.state ∧ u = none := by
  cases st with
  | submission hs' hp hu =>
    cases hs.symm.trans hs'
    exact ⟨rfl, rfl, hp, hu⟩
  | attempt hp =>
    rcases Waiting.attempt?_eq_some hp with ⟨_, _, rfl⟩ | ⟨_, _, _, rfl⟩ <;> cases hs
  | signed => cases hs

theorem of_attempt {p : PendingSession} (st : Stage o u i point q) (hp : point.attempt? = some (j, p)) :
    j = i ∧ q = { o with state := .signing p } ∧ o.state = .awaitingApproval p ∧
      ∃ l, o.lease = some l ∧ l.account = o.account ∧ u = some l.token := by
  cases st with
  | submission hs =>
    rcases Waiting.attempt?_eq_some hp with ⟨_, _, rfl⟩ | ⟨_, _, _, rfl⟩ <;> cases hs
  | attempt hp' ho hl ha hu =>
    cases hp.symm.trans hp'
    exact ⟨rfl, rfl, ho, _, hl, ha, hu⟩
  | signed => cases hp

theorem of_signed {receipt : Receipt} {l : CacheLoad} (st : Stage o u i (.signed j receipt l) q) :
    j = i ∧ q = o.approved receipt := by
  cases st with
  | submission hs => cases hs
  | attempt hp => cases hp
  | signed => exact ⟨rfl, rfl⟩

end Stage

theorem slot_same {slot : Account → Option UInt64} {a : Account} (ha : slot a = u) : slot = update slot a u :=
  (Function.update_eq_self_iff.mpr ha.symm).symm

theorem Sound.slot_of_submission (h : s.Sound) {sub : Submission} (hk : s.task k = some point)
    (hs : point.submission? = some (i, sub)) (ho : s.orchestrator i = some o) :
    s.slot o.account = some sub.lease.token := by
  obtain ⟨-, -, ha, -⟩ := h.fits_submission hk hs ho
  rw [← ha]
  exact h.exclusive.filled (.submission k) _ ((lease_submission hk).trans (Waiting.lease?_of_submission? hs))

theorem Sound.slot_of_orchestrator (h : s.Sound) {l : Lease} (ho : s.orchestrator i = some o) (hl : o.lease = some l) :
    s.slot l.account = some l.token :=
  h.exclusive.filled (.orchestrator i) l ((lease_orchestrator ho).trans hl)

theorem freed_of_account {slot : Account → Option UInt64} {l : Lease} {a : Account} (ha : l.account = a)
    (hl : slot a = some l.token) : freed slot (some l) = update slot a none := by
  subst ha
  exact if_pos hl

/-- A submission that ends without a pending session leaves the slot free. -/
theorem Sound.leaves_of_submission (h : s.Sound) {sub : Submission} {q o' : Orchestrator}
    (hk : s.task k = some point) (hq : s.orchestrator i = some q) (st : Stage o u i point q)
    (hs : point.submission? = some (i, sub)) (ha : o'.account = o.account) :
    Leaves s (((s.setTask k none).setOrchestrator i (some o')).giveBack (some sub.lease)) i o' none := by
  obtain ⟨-, rfl, -⟩ := st.of_submission hs
  obtain ⟨-, -, hsub, -⟩ := h.fits_submission hk hs hq
  have filled := h.slot_of_submission hk hs hq
  refine ⟨rfl, ?_⟩
  rw [ha]
  exact freed_of_account hsub filled

/-- An attempt that ends without a signature leaves the slot to its orchestrator. -/
theorem Sound.leaves_of_attempt (h : s.Sound) {p : PendingSession} {q o' : Orchestrator}
    (hq : s.orchestrator i = some q) (st : Stage o u i point q) (hp : point.attempt? = some (i, p))
    (ha : o'.account = o.account) : Leaves s ((s.setTask k none).setOrchestrator i (some o')) i o' u := by
  obtain ⟨-, rfl, -, l, hl, hla, rfl⟩ := st.of_attempt hp
  have filled := h.slot_of_orchestrator hq hl
  refine ⟨rfl, slot_same ?_⟩
  rw [ha, ← hla]
  exact filled

theorem effect_of_move (h : s.Sound) (m : Move s e r t) (hk : s.task k = some point)
    {q : Orchestrator} (hq : s.orchestrator i = some q) (st : Stage o u i point q) (he : e.task? = some k) :
    Effect o u i k s point e r t := by
  cases m with
  | absent hnone =>
    rw [hnone k he] at hk
    cases hk
  | inUse hnone | refused hnone =>
    rw [hnone] at he
    cases he
  | newCache | newGate | made | forgotten | edited | formSet | discarded | leased | returned | begunElsewhere
  | opRefused | submits | approves => cases he
  | unmoved hk' hc =>
    cases he
    cases hk.symm.trans hk'
    exact .unmoved hc
  | answeredElsewhere hk' ho | droppedElsewhere hk' ho =>
    cases he
    cases hk.symm.trans hk'
    rw [st.orchestrator?] at ho
    cases ho
  | submitted hk' hs ho hr =>
    cases he
    cases hk.symm.trans hk'
    obtain ⟨rfl, rfl, -, -⟩ := st.of_submission hs
    cases hq.symm.trans ho
    have filled := h.slot_of_submission hk hs hq
    exact .submitted hs hr ⟨rfl, slot_same filled⟩
  | submissionFailed hk' hs ho hr =>
    cases he
    cases hk.symm.trans hk'
    obtain ⟨rfl, rfl, -, -⟩ := st.of_submission hs
    cases hq.symm.trans ho
    exact .submissionFailed hs hr (h.leaves_of_submission hk hq st hs rfl)
  | submissionDropped hk' hs ho =>
    cases he
    cases hk.symm.trans hk'
    obtain ⟨rfl, rfl, hprior, rfl⟩ := st.of_submission hs
    cases hq.symm.trans ho
    rw [Orchestrator.submissionDropped_submitting hprior]
    exact .submissionDropped hs (h.leaves_of_submission hk hq st hs rfl)
  | signs hk' hsig =>
    cases he
    cases hk.symm.trans hk'
    obtain ⟨rfl, -⟩ := st.of_attempt rfl
    exact .goesOn rfl rfl ⟨rfl, rfl⟩
  | attemptFailed hk' hp ho hr =>
    cases he
    cases hk.symm.trans hk'
    obtain ⟨rfl, rfl, hstate, -⟩ := st.of_attempt hp
    cases hq.symm.trans ho
    rw [Orchestrator.approvalFailed_signing hstate]
    exact .attemptFailed hp hr (h.leaves_of_attempt hq st hp rfl)
  | attemptDropped hk' hp ho =>
    cases he
    cases hk.symm.trans hk'
    obtain ⟨rfl, rfl, hstate, -⟩ := st.of_attempt hp
    cases hq.symm.trans ho
    rw [Orchestrator.approvalAbandoned_signing hstate]
    exact .attemptDropped hp (h.leaves_of_attempt hq st hp rfl)
  | attemptCancelled hk' hp _ ho =>
    cases he
    cases hk.symm.trans hk'
    obtain ⟨rfl, rfl, hstate, -⟩ := st.of_attempt hp
    cases hq.symm.trans ho
    rw [Orchestrator.approvalAbandoned_signing hstate]
    exact .attemptCancelled hp (h.leaves_of_attempt hq st hp rfl)
  | signed hk' ho hr hq' =>
    cases he
    cases hk.symm.trans hk'
    obtain ⟨rfl, rfl, -, l, hl, ha, rfl⟩ := st.of_attempt rfl
    cases hq.symm.trans ho
    have filled := h.slot_of_orchestrator hq hl
    refine .signed hq' ⟨rfl, ?_⟩
    change freed s.slot o.lease = _
    rw [hl]
    exact freed_of_account ha (ha ▸ filled)
  | loaded hk' =>
    cases he
    cases hk.symm.trans hk'
    obtain ⟨rfl, rfl⟩ := st.of_signed
    exact .loaded hq ⟨rfl, rfl⟩
  | loadDropped hk' =>
    cases he
    cases hk.symm.trans hk'
    obtain ⟨rfl, rfl⟩ := st.of_signed
    exact .loadDropped hq ⟨rfl, rfl⟩

/-- Where an operation has come to is where it stands. -/
theorem task_of_progress {p : Progress} (m : Move s e (.progress k p) t) : t.task k = p.entry := by
  cases m <;> exact update_self ..

/-- An event of an operation is of no other operation. -/
theorem task_of_other (m : Move s e r t) (he : e.task? = some k) (hj : j ≠ k) : t.task j = s.task j := by
  cases m with
  | absent | inUse | refused | unmoved => rfl
  | newCache | newGate | made | forgotten | edited | formSet | discarded | leased | returned | begunElsewhere
  | opRefused | submits | approves => cases he
  | _ =>
    cases he
    exact update_of_ne hj ..

/-- An orchestrator whose operation has ended rests. -/
theorem rests_of_ended (h : s.Sound) (m : Move s e r t) (hk : s.task k = some point)
    (hi : point.orchestrator? = some i) (he : e.task? = some k) (ended : t.task k = none)
    (ho : t.orchestrator i = some o) : o.Rests := by
  refine ((h.move m).settled i).rests o ho fun j q hj hq => ?_
  by_cases hjk : j = k
  · rw [hjk, ended] at hj
    cases hj
  · rw [task_of_other m he hjk] at hj
    exact hjk ((h.settled i).alone j k q point hj hk hq hi)

end Sessions

theorem Orchestrator.Rests.not_busy {o : Orchestrator} (h : o.Rests) :
    o.state ≠ .submitting ∧ ∀ p, o.state ≠ .signing p := by
  rcases h with ⟨he, -⟩ | ⟨p, _, hs, -⟩
  · refine ⟨fun h => ?_, fun p h => ?_⟩ <;> rw [h] at he <;> cases he
  · rw [hs]
    exact ⟨nofun, nofun⟩

namespace World
open Sessions
variable {w v : World} {op : Operation} {i k : Nat} {o : Orchestrator} {point : Waiting}

/-- The worlds in which an operation that began in a given world is still unfinished, and where it stands:
    anything may have happened in between, and questions of its own may have been answered. -/
inductive During (w : World) (op : Operation) (k : Nat) : World → Waiting → Prop
  | begun {point : Waiting} (h : (w.step (.start op)).2 = .progress k (.waiting point)) :
    During w op k (w.step (.start op)).1 point
  | meanwhile {v : World} {point : Waiting} (e : Event) (d : During w op k v point) (h : e.task? ≠ some k) :
    During w op k (v.step e).1 point
  | onward {v : World} {point next : Waiting} {reply : Reply} (d : During w op k v point)
    (h : (v.step (.answer k reply)).2 = .progress k (.waiting next)) :
    During w op k (v.step (.answer k reply)).1 next
  | unmoved {v : World} {point : Waiting} (d : During w op k v point) (h : (v.step (.cancel k)).2 = .unmoved k) :
    During w op k (v.step (.cancel k)).1 point

theorem During.reachable (h : w.Reachable) (d : w.During op k v point) : v.Reachable := by
  induction d with
  | begun => exact .step _ h
  | meanwhile e _ _ ih => exact .step e ih
  | onward _ _ ih | unmoved _ _ ih => exact .step _ ih

theorem Reachable.move (h : w.Reachable) (e : Event) : Move w.sessions e (w.step e).2 (w.step e).1.sessions :=
  World.move h.sound.manned e

/-- How an operation stands that has just begun. -/
theorem stage_of_begun {s t : Sessions} (h : s.Sound) (m : Move s (.start op) (.progress k (.waiting point)) t)
    (ho : s.orchestrator i = some o) (hop : op.orchestrator? = some i) :
    ∃ q, t.orchestrator i = some q ∧ Stage o (s.slot o.account) i point q := by
  cases m with
  | begunElsewhere hop' =>
    rw [hop'] at hop
    cases hop
  | submits hop' ho' _ _ free hp =>
    cases hop.symm.trans hop'
    cases ho.symm.trans ho'
    exact ⟨_, Function.update_self .., .submission (hp.submission? hop) rfl free⟩
  | approves ho' idle hp =>
    cases hop
    cases ho.symm.trans ho'
    obtain ⟨l, hl, ha⟩ := ((h.settled i).rests o ho idle).exists_lease hp
    exact ⟨_, Function.update_self .., .attempt rfl hp hl ha (ha ▸ h.slot_of_orchestrator ho hl)⟩

/-- How an operation stands whose question was answered and which waits for another answer. -/
theorem stage_of_onward {s t : Sessions} {u : Option UInt64} {q : Orchestrator} {reply : Reply} {next : Waiting}
    (out : Effect o u i k s point (.answer k reply) (.progress k (.waiting next)) t)
    (hq : s.orchestrator i = some q) (st : Stage o u i point q) :
    ∃ q, t.orchestrator i = some q ∧ Stage o u i next q := by
  cases out with
  | goesOn hp hn same =>
    obtain ⟨-, rfl, ho, l, hl, ha, hu⟩ := st.of_attempt hp
    exact ⟨_, (congrFun same.orchestrator i).trans hq, .attempt hn ho hl ha hu⟩
  | signed hn left =>
    rcases hn with hn | ⟨l, hn⟩ <;> cases hn
    exact ⟨_, (congrFun left.orchestrator i).trans (Function.update_self ..), .signed⟩

theorem During.stage (h : w.Reachable) (ho : w.orchestrator? i = some o) (hop : op.orchestrator? = some i)
    (d : w.During op k v point) : v.task? k = some point ∧
      ∃ q, v.orchestrator? i = some q ∧ Stage o (w.registry.token? o.account) i point q := by
  induction d with
  | begun hr =>
    have m := hr ▸ h.move (.start op)
    exact ⟨task_of_progress m, stage_of_begun h.sound m ho hop⟩
  | meanwhile e d he ih =>
    -- Whatever happens elsewhere leaves the orchestrator to its operation.
    obtain ⟨hk, q, hq, st⟩ := ih
    have reachable := d.reachable h
    obtain ⟨same, still⟩ := reachable.sound.frame (reachable.move e) hk st.orchestrator? he
    exact ⟨still.trans hk, q, same.trans hq, st⟩
  | @onward v point next reply d hr ih =>
    obtain ⟨hk, q, hq, st⟩ := ih
    have reachable := d.reachable h
    have m := hr ▸ reachable.move (.answer k reply)
    exact ⟨task_of_progress m, stage_of_onward (effect_of_move reachable.sound m hk hq st rfl) hq st⟩
  | @unmoved v point d hr ih =>
    obtain ⟨hk, q, hq, st⟩ := ih
    have same : (v.step (.cancel k)).1.sessions = v.sessions := by
      have m := hr ▸ (d.reachable h).move (.cancel k)
      generalize (v.step (.cancel k)).1.sessions = t at m
      cases m
      rfl
    exact ⟨(congrArg (·.task k) same).trans hk, q, (congrArg (·.orchestrator i) same).trans hq, st⟩

/-- What it is for an operation on an orchestrator to be done as a whole or not at all. -/
structure AllOrNothing (w : World) (i : Nat) (o : Orchestrator) (op : Operation) : Prop where
  /-- An operation that ends where it begins is refused, and then everything is as it was. -/
  refused : ∀ k result, (w.step (.start op)).2 = .progress k (.finished result) →
    ∃ e, result = .error e ∧ Barred w.registry.token? o op e ∧ Same w.sessions (w.step (.start op)).1.sessions
  /-- One that is dropped as soon as it has begun has changed nothing either. -/
  undone : ∀ k point, (w.step (.start op)).2 = .progress k (.waiting point) →
    Same w.sessions ((w.step (.start op)).1.step (.drop k)).1.sessions
  /-- One that has begun leaves, whatever happened in between, what its end calls for and nothing else, -/
  effect : ∀ k v point e, w.During op k v point → e.task? = some k →
    Effect o (w.registry.token? o.account) i k v.sessions point e (v.step e).2 (v.step e).1.sessions
  /-- and never leaves its orchestrator submitting or signing. -/
  settled : ∀ k v point e q, w.During op k v point → e.task? = some k → (v.step e).1.task? k = none →
    (v.step e).1.orchestrator? i = some q → q.state ≠ .submitting ∧ ∀ p, q.state ≠ .signing p

theorem refused_of_finished {s t : Sessions} {result : Except ClientError Outcome}
    (m : Move s (.start op) (.progress k (.finished result)) t) (ho : s.orchestrator i = some o)
    (hop : op.orchestrator? = some i) : ∃ e, result = .error e ∧ Barred s.slot o op e ∧ Same s t := by
  cases m with
  | begunElsewhere hop' =>
    rw [hop'] at hop
    cases hop
  | opRefused hop' ho' _ barred =>
    cases hop.symm.trans hop'
    cases ho.symm.trans ho'
    exact ⟨_, rfl, barred, rfl, rfl⟩

/-- What an operation changes when it begins is what its end sets. -/
theorem same_of_leaves {s t t' : Sessions} (m : Move s (.start op) (.progress k (.waiting point)) t)
    (ho : s.orchestrator i = some o) (hop : op.orchestrator? = some i) (h : Leaves t t' i o (s.slot o.account)) :
    Same s t' := by
  have whole : ∀ q u, t.orchestrator = Function.update s.orchestrator i (some q) →
      t.slot = Function.update s.slot o.account u → Same s t' := by
    intro q u hq hu
    refine ⟨h.orchestrator.trans ?_, h.slot.trans ?_⟩
    · rw [hq, Function.update_idem, Function.update_eq_self_iff]
      exact ho.symm
    · rw [hu, Function.update_idem, Function.update_eq_self]
  cases m with
  | begunElsewhere hop' =>
    rw [hop'] at hop
    cases hop
  | submits hop' ho' =>
    cases hop.symm.trans hop'
    cases ho.symm.trans ho'
    exact whole _ _ rfl rfl
  | approves ho' =>
    cases hop
    cases ho.symm.trans ho'
    exact whole _ (s.slot o.account) rfl (Function.update_eq_self ..).symm

/-- An operation that has just begun has not been signed. -/
theorem not_signed_of_begun {s t : Sessions} {receipt : Receipt} {l : CacheLoad}
    (m : Move s (.start op) (.progress k (.waiting (.signed i receipt l))) t) : False := by
  cases m with
  | begunElsewhere _ hp => exact nomatch hp _ rfl
  | submits _ _ _ _ _ hp => cases hp

/-- In every world that events can make, every operation on an orchestrator is done as a whole or not at all. -/
theorem Reachable.all_or_nothing (h : w.Reachable) (ho : w.orchestrator? i = some o)
    (hop : op.orchestrator? = some i) : w.AllOrNothing i o op := by
  refine ⟨fun k result hr => ?_, fun k point hr => ?_, fun k v point e d he => ?_,
    fun k v point e q d he ended hq => ?_⟩
  · exact refused_of_finished (hr ▸ h.move (.start op)) ho hop
  · have m := hr ▸ h.move (.start op)
    obtain ⟨hk, q, hq, st⟩ := (During.begun hr).stage h ho hop
    have reachable := (During.begun hr).reachable h
    have effect := effect_of_move reachable.sound (reachable.move (.drop k)) hk hq st rfl
    generalize ((w.step (.start op)).1.step (.drop k)).1.sessions = t at effect
    generalize ((w.step (.start op)).1.step (.drop k)).2 = r at effect
    cases effect with
    | submissionDropped _ left | attemptDropped _ left => exact same_of_leaves m ho hop left
    | loadDropped => exact (not_signed_of_begun m).elim
  · obtain ⟨hk, q, hq, st⟩ := d.stage h ho hop
    have reachable := d.reachable h
    exact effect_of_move reachable.sound (reachable.move e) hk hq st he
  · obtain ⟨hk, q, -, st⟩ := d.stage h ho hop
    have reachable := d.reachable h
    exact (rests_of_ended reachable.sound (reachable.move e) hk st.orchestrator? he ended hq).not_busy

/-- A form is submitted and the submission is under way. -/
theorem all_or_nothing_submit :
    ∃ w o, Reachable w ∧ w.orchestrator? 0 = some o ∧ (∃ v point, w.During (.submit 0) 0 v point) ∧
      w.AllOrNothing 0 o (.submit 0) := by
  have h : Reachable (initial.step (.newOrchestrator ⟨⟨List.replicate 20 0, rfl⟩, 1⟩ none)).1 := .step _ .initial
  exact ⟨_, _, h, rfl, ⟨_, _, .begun rfl⟩, h.all_or_nothing rfl rfl⟩

end World
end PasskeySession
