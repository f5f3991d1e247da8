import PasskeySession.Proofs.Session.Cacheless
import PasskeySession.Proofs.Session.Shown

/-! # Approvals do not see caches

After an approval of a new session the sessions of the account are looked up, if the orchestrator has a cache.
Nothing that comes of that is seen at orchestrators, slots or leases, or in what an approval returns: two runs
with the same deeds agree in all of it, whatever caches they have and whatever is told of sessions. -/

namespace PasskeySession
open Function (update update_self update_of_ne)

/-! ### Calls after approvals -/

namespace World
variable {w v : World} {i j k n : Nat} {e : Event} {p : Waiting} {q : Progress} {o : Orchestrator} {r : Receipt}
  {l : CacheLoad} {a : Account}

/-- An operation on an orchestrator goes on to ask for the sessions of an account. -/
def Calls (w : World) (e : Event) (i : Nat) (a : Account) : Prop :=
  ∃ k p, (w.step e).2 = .progress k (.waiting p) ∧ p.orchestrator? = some i ∧
    p.question = .request (.sessionDetails a)

/-- An approval of a new session on an orchestrator gets its receipt. -/
def SignsNew (w : World) (e : Event) (i : Nat) : Prop :=
  ∃ k reply c a p g r, e = .answer k reply ∧ w.task? k = some (.sign i c a p g) ∧ p.kind = .sessionCreation ∧
    p.kind.receiptOf (reply (.request (p.kind.signedRequest a p.hash g))) = .ok r

theorem signedRequest_ne (kind : PendingKind) (b : Account) (hash : OperationHash) (g : EncodedSignature) :
    kind.signedRequest b hash g ≠ .sessionDetails a := by
  cases kind <;> rintro ⟨⟩

theorem signed_of_question (hi : p.orchestrator? = some i) (hp : p.question = .request (.sessionDetails a)) :
    ∃ r l, p = .signed i r l ∧ l.load.account = a := by
  cases p with
  | signed j r l =>
    cases hi
    cases hp
    exact ⟨r, l, rfl, rfl⟩
  | sign _ _ _ pending => exact absurd (Question.request.inj hp) (signedRequest_ne _ _ _ _)
  | configure | prepare | approve => cases hp
  | create | use | signHash | registerChallenge | registerPrompt | registerVerify | loginChallenge | loginPrompt
  | loginVerify | load | toggle | toggled => cases hi

/-- An approval goes on to ask for sessions when it has got its receipt, and then only. -/
theorem of_signed {s t : Sessions} (m : Move s e (.progress k (.waiting (.signed i r l))) t) :
    ∃ reply c a p g o, e = .answer k reply ∧ s.task k = some (.sign i c a p g) ∧ s.orchestrator i = some o ∧
      p.kind.receiptOf (reply (.request (p.kind.signedRequest a p.hash g))) = .ok r ∧
      t.orchestrator = update s.orchestrator i (some (o.approved r)) ∧ t.slot = Sessions.freed s.slot o.lease := by
  cases m with
  | begunElsewhere _ hp | answeredElsewhere _ _ hp => cases hp _ rfl
  | submits _ _ _ _ _ hp => cases hp
  | signed hk ho hr hq =>
    rcases hq with hq | ⟨_, hq⟩ <;> cases hq
    exact ⟨_, _, _, _, _, _, rfl, hk, ho, hr, rfl, rfl⟩

theorem afterApproval_eq_waiting {kind : PendingKind} (h : w.afterApproval i o kind r = (v, .waiting p)) :
    kind = .sessionCreation ∧ ∃ n c, o.cache = some n ∧ w.caches[n]? = some c ∧
      p = .signed i r ⟨n, o.account, c.generation + 1⟩ ∧
      v.displays = w.displays.modifyCache n (·.called (some o.account)) := by
  unfold afterApproval at h
  split at h
  · split at h
    · rename_i hn _ _ _ hl
      cases h
      obtain ⟨c, hc, rfl, hv⟩ := startFetch_eq_ok hl
      exact ⟨rfl, _, c, hn, hc, rfl, hv⟩
    · cases h
  · cases h

theorem exists_afterApproval {c : SessionCache} (hn : o.cache = some n) (hc : w.caches[n]? = some c) :
    ∃ v, w.afterApproval i o .sessionCreation r = (v, .waiting (.signed i r ⟨n, o.account, c.generation + 1⟩)) := by
  obtain ⟨v, hv, -⟩ := startFetch_of_some (a := o.account) hc
  exact ⟨v, by simp only [afterApproval, hn, hv]⟩

theorem step_sign {reply : Reply} {c : Bool} {pending : PendingSession} {g : EncodedSignature}
    (hk : w.task? k = some (.sign i c a pending g)) (ho : w.orchestrator? i = some o)
    (hr : pending.kind.receiptOf (reply (.request (pending.kind.signedRequest a pending.hash g))) = .ok r) :
    w.step (.answer k reply) =
      (goOn k (((w.setOrchestrator i (o.approved r)).release o.lease).afterApproval i o pending.kind r),
        .progress k (((w.setOrchestrator i (o.approved r)).release o.lease).afterApproval i o pending.kind r).2) := by
  have hend : w.resume (.sign i c a pending g) (reply (.request (pending.kind.signedRequest a pending.hash g))) =
      ((w.setOrchestrator i (o.approved r)).release o.lease).afterApproval i o pending.kind r := by
    simp only [resume, endApproval, hr, ho]
  rw [step_answer hk, hend]

theorem task_cases {s t : Sessions} {report : Report} (m : Move s e report t) (hk : t.task k = some p) :
    s.task k = some p ∨ report = .progress k (.waiting p) := by
  have moved : ∀ {m : Nat} {q : Progress}, update s.task m q.entry k = some p →
      s.task k = some p ∨ Report.progress m q = .progress k (.waiting p) := by
    intro m q h
    by_cases hm : k = m
    · subst hm
      rw [update_self] at h
      cases q with
      | finished => cases h
      | waiting => exact Or.inr (Option.some.inj h ▸ rfl)
    · rw [update_of_ne hm] at h
      exact Or.inl h
  have dropped : ∀ {m : Nat}, update s.task m none k = some p → s.task k = some p := by
    intro m h
    by_cases hm : k = m
    · subst hm
      rw [update_self] at h
      cases h
    · rwa [update_of_ne hm] at h
  cases m with
  | newCache | newGate | absent | inUse | refused | unmoved | made | forgotten | edited | formSet | discarded
  | leased | returned => exact Or.inl hk
  | droppedElsewhere | submissionDropped | attemptDropped | loadDropped => exact Or.inl (dropped hk)
  | begunElsewhere | answeredElsewhere | opRefused | submits | submitted | submissionFailed | approves | signs
  | attemptFailed | attemptCancelled | signed | loaded => exact moved hk

/-! ### Approvals that have their receipt -/

/-- An operation that has asked for sessions has nothing more to do to orchestrators and leases. -/
theorem deed?_of_sessions (hk : w.task? k = some p) (hp : p.question = .request (.sessionDetails a))
    (he : e.task? = some k) : w.deed? e = none := by
  have settled : p.unsettled? = none ∧ p.cancellable = false := by
    cases p with
    | signed | load | toggled => exact ⟨rfl, rfl⟩
    | sign _ _ _ pending => exact absurd (Question.request.inj hp) (signedRequest_ne _ _ _ _)
    | create | use | signHash | registerChallenge | registerPrompt | registerVerify | loginChallenge | loginPrompt
    | loginVerify | configure | prepare | approve | toggle => cases hp
  cases e with
  | answer m reply =>
    cases he
    simp only [deed?, hk, Option.bind_some, Waiting.news?_of_settled settled.1, Option.map_none]
  | cancel m =>
    cases he
    simp only [deed?, hk, Option.bind_some, settled.2, Bool.false_eq_true, if_false]
  | drop m =>
    cases he
    simp only [deed?, hk, Option.bind_some, settled.1, Option.map_none]
  | newOrchestrator | dropOrchestrator | newCache | newGate | edit | setForm | discard | acquire | releaseLease
  | start => cases he

theorem orchestrator?_signed (hk : w.task? k = some (.signed i r l)) (he : e.task? = some k) :
    (w.step e).1.orchestrator? = w.orchestrator? := by
  cases e with
  | answer m reply =>
    cases he
    rw [step_answer hk]
    simp only [resume, answerLoad]
    split <;> rfl
  | cancel m =>
    cases he
    rw [step_cancel hk]
    rfl
  | drop m =>
    cases he
    rw [step_drop hk]
    rfl
  | newOrchestrator | dropOrchestrator | newCache | newGate | edit | setForm | discard | acquire | releaseLease
  | start => cases he

/-- What comes of a step by which an approval goes on to ask for sessions. -/
structure Looks (w : World) (e : Event) (i : Nat) (o : Orchestrator) (r : Receipt) (n : Nat) (c : SessionCache)
    (l : CacheLoad) : Prop where
  signs : w.SignsNew e i
  orchestrator : w.orchestrator? i = some o
  cache : o.cache = some n
  tracked : w.caches[n]? = some c
  load : l = ⟨n, o.account, c.generation + 1⟩
  after : (w.step e).1.orchestrator? i = some (o.approved r)
  freed : (w.step e).1.registry.token? o.account = none
  turned : (w.step e).1.caches[n]? = some (c.called (some o.account))

section
variable (hw : w.Reachable)
include hw

theorem Reachable.looks (h : (w.step e).2 = .progress k (.waiting (.signed i r l))) :
    ∃ o n c, w.Looks e i o r n c l := by
  have m := World.move hw.sound.manned e
  rw [h] at m
  obtain ⟨reply, b, a, pending, g, o, rfl, hk, ho, hr, hafter, hslot⟩ := of_signed m
  have hstep := step_sign hk ho hr
  rcases hv : ((w.setOrchestrator i (o.approved r)).release o.lease).afterApproval i o pending.kind r with ⟨v, q⟩
  rw [hv] at hstep
  rw [hstep] at h
  cases h
  obtain ⟨hkind, n, c, hn, hc, hp, hdisplays⟩ := afterApproval_eq_waiting hv
  obtain ⟨-, ⟨lease, hlease, haccount⟩, -⟩ := hw.sound.fits hk rfl ho
  have filled := hw.sound.slot_of_orchestrator ho hlease
  have hl : l = ⟨n, o.account, c.generation + 1⟩ := (Waiting.signed.inj hp).2.2
  refine ⟨o, n, c, ⟨⟨k, reply, b, a, pending, g, r, rfl, hk, hkind, hr⟩, ho, hn, hc, hl, ?_, ?_, ?_⟩⟩
  · exact (congrFun hafter i).trans (update_self ..)
  · rw [hlease] at hslot
    rw [Sessions.freed_of_account haccount (haccount ▸ filled)] at hslot
    exact (congrFun hslot o.account).trans (update_self ..)
  · have hcaches := congrFun (congrArg Displays.cache hdisplays) n
    rw [Displays.cache_modifyCache_self] at hcaches
    rw [hstep]
    exact hcaches.trans (congrArg (Option.map _) hc)

/-- An approval asks for sessions when it has signed a new session and its orchestrator has a cache. -/
theorem Reachable.calls_iff : w.Calls e i a ↔ w.SignsNew e i ∧
    ∃ o n, w.orchestrator? i = some o ∧ o.cache = some n ∧ n < w.caches.length ∧ o.account = a := by
  constructor
  · rintro ⟨k, p, hq, hi, hp⟩
    obtain ⟨r, l, rfl, ha⟩ := signed_of_question hi hp
    obtain ⟨o, n, c, looks⟩ := hw.looks hq
    obtain ⟨hn, -⟩ := List.getElem?_eq_some_iff.mp looks.tracked
    refine ⟨looks.signs, o, n, looks.orchestrator, looks.cache, hn, ?_⟩
    rw [← ha, looks.load]
  · rintro ⟨⟨k, reply, b, _, pending, g, r, rfl, hk, hkind, hr⟩, o, n, ho, hcache, hn, rfl⟩
    have hstep := step_sign hk ho hr
    obtain ⟨v, hv⟩ := exists_afterApproval (w := (w.setOrchestrator i (o.approved r)).release o.lease) (i := i)
      (r := r) hcache (List.getElem?_eq_getElem hn)
    rw [hkind, hv] at hstep
    exact ⟨k, _, congrArg Prod.snd hstep, rfl, rfl⟩

/-- While an approval waits for sessions its orchestrator is signed, with no lease and no error. -/
theorem Reachable.outstanding (hk : w.task? k = some (.signed i r l)) :
    ∃ o, w.orchestrator? i = some o ∧ o.state = .signed r ∧ o.lease = none ∧ o.lastError = none ∧
      l.load.account = o.account := by
  induction hw with
  | initial => cases hk
  | @step w e hw ih =>
    have m := World.move hw.sound.manned e
    rcases task_cases m hk with hk' | hq
    · -- It has waited before, and nothing happens to its orchestrator meanwhile.
      obtain ⟨o, ho, stands⟩ := ih hk'
      refine ⟨o, Eq.trans ?_ ho, stands⟩
      by_cases he : e.task? = some k
      · exact congrFun (orchestrator?_signed hk' he) i
      · exact (hw.sound.frame m hk' rfl he).1
    · obtain ⟨o, n, c, looks⟩ := hw.looks hq
      refine ⟨_, looks.after, rfl, rfl, rfl, ?_⟩
      rw [looks.load]
      rfl

end

/-! ### Two runs -/

/-- What two runs have in common, whatever caches there are in them and whatever is told of sessions. -/
structure CacheBlind (past : List Happening) (w : World) (past' : List Happening) (w' : World) : Prop where
  /-- Orchestrators stand alike but for their caches, and so do slots and leases. -/
  orchestrators : ∀ i, (w.orchestrator? i).map Orchestrator.bare = (w'.orchestrator? i).map Orchestrator.bare
  slots : w.registry = w'.registry
  leases : w.leases = w'.leases
  /-- Operations on orchestrators that began alike return alike, if they return. -/
  returned : ∀ op i before r r', op.orchestrator? = some i → Returned op before r past →
    Returned op before r' past' → r = r'
  /-- To attach a cache is no deed, nor is what is told of sessions, nor is it one to wait for that no more. -/
  attached : ∀ a c, w.deed? (.newOrchestrator a c) = some (.did (.newOrchestrator a none))
  unseen : ∀ e k p a, e.task? = some k → w.task? k = some p → p.question = .request (.sessionDetails a) →
    w.deed? e = none
  /-- Whatever an approval is told of sessions, it returns its receipt and changes nothing but the cache. -/
  told : ∀ k i r l reply, w.task? k = some (.signed i r l) →
    (w.step (.answer k reply)).2 = .progress k (.done (.receipt r)) ∧ (w.step (.answer k reply)).1.bare = w.bare
  /-- An approval asks for sessions just when it has signed a new session and a cache is attached. -/
  calls : ∀ e i a, w.Calls e i a ↔ w.SignsNew e i ∧
    ∃ o n, w.orchestrator? i = some o ∧ o.cache = some n ∧ n < w.caches.length ∧ o.account = a
  /-- The slot is free then, and the cache is turned to the account of the orchestrator. -/
  freed : ∀ e i a, w.Calls e i a → (w.step e).1.registry.token? a = none ∧
    ∃ o n c, w.orchestrator? i = some o ∧ o.cache = some n ∧ (w.step e).1.caches[n]? = some c ∧ c.account = some a
  /-- As long as it waits, the orchestrator is signed, with no lease and no error. -/
  outstanding : ∀ k i r l, w.task? k = some (.signed i r l) → ∃ o, w.orchestrator? i = some o ∧
    o.state = .signed r ∧ o.lease = none ∧ o.lastError = none ∧ l.load.account = o.account
  /-- And the same could have been done without caches. -/
  twin : ∃ past₀ w₀, Ran past₀ w₀ ∧ deeds past₀ = deeds past ∧ ∀ x ∈ past₀, x.event.Cacheless

/-- Two runs with the same deeds agree in all that is not of caches. -/
theorem Ran.cache_blind {past past' : List Happening} {w w' : World} (h : w.Ran past) (h' : w'.Ran past')
    (hd : deeds past = deeds past') : CacheBlind past w past' w' := by
  have hcore : w.core = w'.core := by rw [h.core_eq, h'.core_eq, hd]
  have hbase : w.bare = w'.bare := congrArg Core.base hcore
  exact {
    orchestrators := fun i => by
      rw [← orchestrator?_bare, ← orchestrator?_bare, hbase]
    slots := show w.bare.registry = w'.bare.registry from congrArg World.registry hbase
    leases := show w.bare.leases = w'.bare.leases from congrArg World.leases hbase
    returned := fun op i before r r' hop ret ret' => ret.eq ret' h h' hop hd
    attached := fun a c => rfl
    unseen := fun e k p a he hk hp => deed?_of_sessions hk hp he
    told := fun k i r l reply hk => by
      refine ⟨congrArg Prod.snd (step_answer hk), ?_⟩
      have hstep := core_step h.reachable (.answer k reply)
      rw [deed?_of_sessions hk rfl rfl] at hstep
      exact congrArg Core.base hstep
    calls := fun e i a => h.reachable.calls_iff
    freed := fun e i a hcalls => by
      obtain ⟨k, p, hq, hi, hp⟩ := hcalls
      obtain ⟨r, l, rfl, ha⟩ := signed_of_question hi hp
      obtain ⟨o, n, c, looks⟩ := h.reachable.looks hq
      have haccount : o.account = a := by rw [← ha, looks.load]
      rw [← haccount]
      exact ⟨looks.freed, o, n, _, looks.orchestrator, looks.cache, looks.turned, c.account_select o.account⟩
    outstanding := fun k i r l hk => h.reachable.outstanding hk
    twin := h.exists_cacheless }

end World

/-- Answers that configure a session and sign it, and refuse everything else. -/
def Reply.signing : Reply
  | .request (.signCreation ..) => .ok ⟨some "hash"⟩
  | q => Reply.asserting q

namespace World

/-- A session is configured and signed with a cache, which is then refused the sessions, and without one. -/
theorem cache_blind_refused : ∃ past w o past' w', Ran past w ∧ Ran past' w' ∧ deeds past = deeds past' ∧
    w.tasks = [none, none] ∧ w.caches.map (·.error.isSome) = [true] ∧ w'.tasks = [none, none] ∧ w'.caches = [] ∧
    w.orchestrator? 0 = some o ∧ o.state = .signed (.sessionCreation ⟨some "hash"⟩) ∧
    CacheBlind past w past' w' := by
  have h := (((((((Ran.initial.step .newCache).step (.newOrchestrator ⟨⟨List.replicate 20 0, rfl⟩, 1⟩ (some 0))).step
    (.start (.submit 0))).step (.answer 0 Reply.signing)).step (.start (.approve 0 false))).step
    (.answer 1 Reply.signing)).step (.answer 1 Reply.signing)).step (.answer 1 Reply.signing)
  have h' := (((((Ran.initial.step (.newOrchestrator ⟨⟨List.replicate 20 0, rfl⟩, 1⟩ none)).step
    (.start (.submit 0))).step (.answer 0 Reply.signing)).step (.start (.approve 0 false))).step
    (.answer 1 Reply.signing)).step (.answer 1 Reply.signing)
  exact ⟨_, _, _, _, _, h, h', rfl, rfl, rfl, rfl, rfl, rfl, rfl, h.cache_blind h' rfl⟩

end World
end PasskeySession
