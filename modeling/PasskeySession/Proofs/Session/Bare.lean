import PasskeySession.Proofs.Session.Sound

/-! # Worlds without caches

What is left of a world when its caches, its gates and the operations on them are forgotten. An approval that
has its receipt has settled, and is forgotten too, though it may still wait for the sessions of its account.
Operations on orchestrators do in what is left what they do in the world. -/

namespace PasskeySession
open Function (update update_self update_of_ne)

/-! ### Orchestrators and operations -/

namespace Orchestrator

/-- The orchestrator without its cache. -/
def bare (o : Orchestrator) : Orchestrator := { o with cache := none }

theorem openForm_bare (o : Orchestrator) : o.bare.openForm = o.openForm.map bare := by
  unfold openForm
  have hstate : o.bare.state = o.state := rfl
  rw [hstate]
  split <;> rfl

theorem discard_bare (o : Orchestrator) : o.bare.discard = o.discard.map bare := by
  unfold discard
  have hstate : o.bare.state = o.state := rfl
  rw [hstate]
  cases o.state <;> rfl

theorem beginApproval_bare (o : Orchestrator) :
    o.bare.beginApproval = o.beginApproval.map fun r => (r.1, r.2.bare) := by
  unfold beginApproval
  have hstate : o.bare.state = o.state := rfl
  rw [hstate]
  cases o.state <;> rfl

theorem beginSubmission_bare (o : Orchestrator) (operation : String) (r : Registry) :
    o.bare.beginSubmission operation r =
      ((o.beginSubmission operation r).1.map fun s => (s.1, s.2.bare), (o.beginSubmission operation r).2) := by
  unfold beginSubmission
  have hstate : o.bare.state = o.state := rfl
  have haccount : o.bare.account = o.account := rfl
  rw [hstate, haccount]
  split
  · rcases r.acquire o.account with ⟨_ | _, _⟩ <;> rfl
  · rfl

end Orchestrator

namespace Waiting

/-- The orchestrator that an operation is on, until the operation has settled. -/
def unsettled? : Waiting → Option Nat
  | configure i .. => some i
  | prepare i .. => some i
  | approve i .. => some i
  | sign i .. => some i
  | _ => none

theorem orchestrator?_of_unsettled? {p : Waiting} {i : Nat} (h : p.unsettled? = some i) : p.orchestrator? = some i := by
  cases p <;> first | exact h | cases h

theorem unsettled?_of_elsewhere {p : Waiting} (h : p.orchestrator? = none) : p.unsettled? = none := by
  cases p <;> first | rfl | cases h

end Waiting

namespace Progress

/-- How far an operation has come that does not wait for sessions once it has its receipt. -/
def settled : Progress → Progress
  | waiting (.signed _ r _) => .done (.receipt r)
  | p => p

end Progress

/-- What an answer tells an operation on an orchestrator: what came of it, or why nothing did. -/
inductive News
  | opened (r : Except ClientError PendingSession)
  | signature (r : Except ClientError EncodedSignature)
  | receipt (r : Except ClientError Receipt)

namespace Waiting

/-- The orchestrator that an answer is for, and what the answer tells. -/
def news? : (p : Waiting) → p.question.Answer → Option (Nat × News)
  | configure i _ _ _, answer => some (i, .opened (answer.map fun c => ⟨c.hash, c.passkeyId, .sessionCreation⟩))
  | prepare i _ _ _ id, answer =>
    some (i, .opened (answer.map fun p => ⟨p.hashToSign, id, .userOperation p.userOperation⟩))
  | approve i _ _ _, answer => some (i, .signature (signatureOf answer))
  | sign i _ _ pending _, answer => some (i, .receipt (pending.kind.receiptOf answer))
  | _, _ => none

theorem news?_of_unsettled? {p : Waiting} {i : Nat} (h : p.unsettled? = some i) (answer : p.question.Answer) :
    ∃ n, p.news? answer = some (i, n) := by
  cases p <;> cases h <;> exact ⟨_, rfl⟩

theorem unsettled?_of_news? {p : Waiting} {answer : p.question.Answer} {i : Nat} {n : News}
    (h : p.news? answer = some (i, n)) : p.unsettled? = some i := by
  cases p <;> cases h <;> rfl

theorem news?_of_settled {p : Waiting} (h : p.unsettled? = none) (answer : p.question.Answer) :
    p.news? answer = none := by
  cases p <;> first | rfl | cases h

end Waiting

namespace World
variable {w v : World} {i j k : Nat} {p : Waiting} {q : Progress}

/-- Goes on with an operation on an orchestrator that has been told what it waits for. -/
def hear (w : World) : Waiting → News → World × Progress
  | .configure i s _ _, .opened r => w.endSubmission i s r
  | .prepare i s _ _ _, .opened r => w.endSubmission i s r
  | .approve i cancellable account pending, .signature r => w.approveWith i cancellable account pending r
  | .sign i _ _ pending _, .receipt r => w.endApproval i pending r
  | _, _ => (w, .failed SessionCache.noAccount)

theorem resume_eq_hear {answer : p.question.Answer} {n : News} (h : p.news? answer = some (i, n)) :
    w.resume p answer = w.hear p n := by
  cases p <;> cases h <;> rfl

/-! ### What is left of a world -/

/-- The world without caches, gates and operations. -/
def bare (w : World) : World :=
  { w with orchestrators := w.orchestrators.map (·.map .bare), caches := [], gates := [], tasks := [] }

/-- The unsettled operation on an orchestrator. -/
def on (w : World) (i : Nat) : Option Waiting :=
  w.tasks.findSome? fun t => t.filter fun p => p.unsettled? = some i

theorem orchestrator?_bare : w.bare.orchestrator? i = (w.orchestrator? i).map .bare := by
  unfold orchestrator? bare
  rw [List.getElem?_map]
  cases w.orchestrators[i]? <;> rfl

theorem bare_setOrchestrator {o : Orchestrator} : (w.setOrchestrator i o).bare = w.bare.setOrchestrator i o.bare := by
  unfold setOrchestrator bare
  dsimp only
  rw [List.map_set]
  rfl

theorem bare_modifyOrchestrator {o : Orchestrator} (f : Orchestrator → Orchestrator) (h : w.orchestrator? i = some o)
    (hf : (f o).bare = f o.bare) : (w.modifyOrchestrator i f).bare = w.bare.modifyOrchestrator i f := by
  have hbare : w.bare.orchestrator? i = some o.bare := by
    rw [orchestrator?_bare, h]
    rfl
  rw [modifyOrchestrator_eq h, modifyOrchestrator_eq hbare, bare_setOrchestrator, hf]

/-! ### What is done at once -/

section
variable {o : Orchestrator}

theorem inUse_bare : w.bare.inUse i = false := rfl

theorem bare_onOrchestrator {f g : Orchestrator → World × Report} (hfree : w.inUse i = false)
    (h : ∀ o, (f o).1.bare = (g o.bare).1) : (w.onOrchestrator i f).1.bare = (w.bare.onOrchestrator i g).1 := by
  unfold onOrchestrator
  rw [orchestrator?_bare, hfree, inUse_bare]
  cases w.orchestrator? i with
  | none => rfl
  | some o => exact h o

theorem tasks_onOrchestrator {f : Orchestrator → World × Report} (h : ∀ o, (f o).1.tasks = w.tasks) :
    (w.onOrchestrator i f).1.tasks = w.tasks := by
  unfold onOrchestrator
  split
  · rfl
  · split
    · rfl
    · exact h _

theorem bare_editForm {e : Edit} : (w.editForm i e o).1.bare = (w.bare.editForm i e o.bare).1 := by
  unfold editForm
  rw [Orchestrator.openForm_bare]
  cases o.openForm with
  | error err => rfl
  | ok o =>
    have hform : o.bare.form = o.form := rfl
    dsimp only [Except.map]
    rw [hform]
    cases e.change o.form <;> exact bare_setOrchestrator

theorem tasks_editForm {e : Edit} : (w.editForm i e o).1.tasks = w.tasks := by
  unfold editForm
  split
  · rfl
  · split <;> rfl

theorem bare_setForm {form : PolicyForm} : (w.setForm i form o).1.bare = (w.bare.setForm i form o.bare).1 := by
  unfold setForm
  rw [Orchestrator.openForm_bare]
  cases o.openForm with
  | error err => rfl
  | ok o => exact bare_setOrchestrator

theorem tasks_setForm {form : PolicyForm} : (w.setForm i form o).1.tasks = w.tasks := by
  unfold setForm
  split <;> rfl

theorem bare_discard : (w.discard i o).1.bare = (w.bare.discard i o.bare).1 := by
  unfold discard
  rw [Orchestrator.discard_bare]
  cases o.discard with
  | error err => rfl
  | ok p => exact congrArg (World.release · o.lease) bare_setOrchestrator

theorem tasks_discard : (w.discard i o).1.tasks = w.tasks := by
  unfold discard
  split <;> rfl

theorem bare_dropOrchestrator : (w.dropOrchestrator i o).1.bare = (w.bare.dropOrchestrator i o.bare).1 := by
  unfold dropOrchestrator bare release
  dsimp only
  rw [List.map_set]
  rfl

theorem bare_acquireLease {a : Account} : (w.acquireLease a).1.bare = (w.bare.acquireLease a).1 := by
  have hregistry : w.bare.registry = w.registry := rfl
  unfold acquireLease
  rw [hregistry]
  rcases w.registry.acquire a with ⟨_ | _, _⟩ <;> rfl

theorem tasks_acquireLease {a : Account} : (w.acquireLease a).1.tasks = w.tasks := by
  unfold acquireLease
  split <;> rfl

theorem bare_releaseLease {n : Nat} : (w.releaseLease n).1.bare = (w.bare.releaseLease n).1 := by
  have hleases : w.bare.leases = w.leases := rfl
  unfold releaseLease
  rw [hleases]
  cases w.leases[n]?.join <;> rfl

theorem tasks_releaseLease {n : Nat} : (w.releaseLease n).1.tasks = w.tasks := by
  unfold releaseLease
  split <;> rfl

end

/-! ### Operations on orchestrators -/

/-- What is left of what an operation has done, and how far it has come with that. -/
def forget (r : World × Progress) : World × Progress := (r.1.bare, r.2.settled)

section
variable {o : Orchestrator}

theorem forget_beginSubmission {name : String} {ask : Submission → Waiting}
    (hask : ∀ s, (Progress.waiting (ask s)).settled = .waiting (ask s)) :
    forget (w.beginSubmission i o name ask) = w.bare.beginSubmission i o.bare name ask := by
  have hregistry : w.bare.registry = w.registry := rfl
  unfold beginSubmission
  rw [Orchestrator.beginSubmission_bare, hregistry]
  rcases o.beginSubmission name w.registry with ⟨_ | ⟨s, p⟩, r⟩
  · rfl
  · exact Prod.ext bare_setOrchestrator (hask s)

theorem forget_beginApproval {c : Bool} :
    forget (w.beginApproval i o c) = w.bare.beginApproval i o.bare c := by
  unfold beginApproval
  rw [Orchestrator.beginApproval_bare]
  rcases o.beginApproval with _ | ⟨pending, p⟩
  · rfl
  · exact Prod.ext bare_setOrchestrator rfl

theorem forget_start {op : Operation} (hop : op.orchestrator? = some i) :
    (w.start op).map forget = w.bare.start op := by
  cases op with
  | submit | prepare | approve =>
    simp only [start, orchestrator?_bare]
    cases w.orchestrator? _ with
    | none => rfl
    | some o =>
      first | exact congrArg some (forget_beginSubmission fun _ => rfl) | exact congrArg some forget_beginApproval
  | createCredential | requestAssertion | register | login | sign | fetch | refresh | toggle => cases hop

theorem forget_endSubmission {s : Submission} {r : Except ClientError PendingSession}
    (ho : w.orchestrator? i = some o) : forget (w.endSubmission i s r) = w.bare.endSubmission i s r := by
  cases r with
  | ok p => exact Prod.ext (bare_modifyOrchestrator (·.submitted s p) ho rfl) rfl
  | error e =>
    have hmodify := bare_modifyOrchestrator (·.submissionFailed e) ho rfl
    exact Prod.ext (congrArg (World.release · (some s.lease)) hmodify) rfl

theorem forget_approveWith {c : Bool} {a : Account} {p : PendingSession} {r : Except ClientError EncodedSignature}
    (ho : w.orchestrator? i = some o) : forget (w.approveWith i c a p r) = w.bare.approveWith i c a p r := by
  cases r with
  | ok g => rfl
  | error e => exact Prod.ext (bare_modifyOrchestrator (·.approvalFailed p e) ho rfl) rfl

end

/-! ### Caches and gates -/

/-- Two worlds that differ in caches and gates only. -/
structure Beside (w v : World) : Prop where
  bare : v.bare = w.bare
  tasks : v.tasks = w.tasks

theorem beside_refl (w : World) : Beside w w := ⟨rfl, rfl⟩

theorem beside_startLoad {c : Nat} {l : CacheLoad} (h : w.startLoad c = .ok (l, v)) : Beside w v := by
  unfold startLoad at h
  split at h
  · cases h
  · split at h <;> cases h
    exact ⟨rfl, rfl⟩

theorem beside_startFetch {c : Nat} {a : Account} {l : CacheLoad} (h : w.startFetch c a = .ok (l, v)) : Beside w v :=
  have turned : Beside { w with caches := w.caches.modify c (·.select a) } v := beside_startLoad h
  ⟨turned.bare, turned.tasks⟩

theorem beside_answerLoad {l : CacheLoad} {r : Except ClientError (List SessionRecord)} :
    Beside w (w.answerLoad l r).2 := by
  unfold answerLoad
  split <;> exact ⟨rfl, rfl⟩

theorem beside_awaitLoad {r : Except ClientError (CacheLoad × World)} (h : ∀ l v, r = .ok (l, v) → Beside w v) :
    Beside w (w.awaitLoad r).1 := by
  unfold awaitLoad
  split
  · exact h _ _ rfl
  · exact beside_refl w

theorem beside_afterToggle {active : Bool} : Beside w (w.afterToggle i active).1 := by
  unfold afterToggle
  dsimp only
  split
  · exact ⟨rfl, rfl⟩
  · split
    · rename_i hl
      have started := beside_startLoad hl
      exact ⟨started.bare, started.tasks⟩
    · exact ⟨rfl, rfl⟩

theorem beside_beginToggle {g : AccessGate} {active : Bool} : Beside w (w.beginToggle i g active).1 := by
  unfold beginToggle
  split <;> exact ⟨rfl, rfl⟩

theorem beside_proceed {r : Except ClientError Waiting} : Beside w (w.proceed r).1 := by
  unfold proceed
  split <;> exact beside_refl w

theorem beside_start {op : Operation} (hop : op.orchestrator? = none) (h : w.start op = some (v, q)) : Beside w v := by
  cases op with
  | submit | prepare | approve => cases hop
  | createCredential | requestAssertion | register | login | sign =>
    cases h
    exact beside_refl w
  | fetch c a =>
    obtain ⟨_, -, hq⟩ := Option.map_eq_some_iff.mp h
    have := beside_awaitLoad (w := w) fun l v => beside_startFetch (c := c) (a := a) (l := l) (v := v)
    rwa [hq] at this
  | refresh c =>
    obtain ⟨_, -, hq⟩ := Option.map_eq_some_iff.mp h
    have := beside_awaitLoad (w := w) fun l v => beside_startLoad (c := c) (l := l) (v := v)
    rwa [hq] at this
  | toggle n active =>
    obtain ⟨g, -, hq⟩ := Option.map_eq_some_iff.mp h
    have : Beside w (w.beginToggle n g active).1 := beside_beginToggle
    rwa [hq] at this

theorem beside_resume (hp : p.unsettled? = none) (answer : p.question.Answer) : Beside w (w.resume p answer).1 := by
  cases p with
  | configure | prepare | approve | sign => cases hp
  | create | use | signHash | registerVerify | loginVerify => exact beside_refl w
  | registerChallenge | registerPrompt | loginChallenge | loginPrompt => exact beside_proceed
  | signed | load => exact beside_answerLoad
  | toggle =>
    cases answer with
    | error e => exact ⟨rfl, rfl⟩
    | ok _ => exact beside_afterToggle
  | toggled _ _ l =>
    have answered : Beside w (w.answerLoad l answer).2 := beside_answerLoad
    exact ⟨answered.bare, answered.tasks⟩

theorem beside_abandon (hp : p.unsettled? = none) : Beside w (w.abandon p) := by
  cases p <;> first | exact ⟨rfl, rfl⟩ | cases hp

/-! ### Approvals -/

section
variable {o : Orchestrator} {kind : PendingKind} {r : Receipt}

theorem forget_afterApproval : forget (w.afterApproval i o kind r) = (w.bare, .done (.receipt r)) := by
  unfold afterApproval
  split
  · split
    · rename_i hl
      exact Prod.ext (beside_startFetch hl).bare rfl
    · rfl
  · rfl

theorem afterApproval_bare : w.afterApproval i o.bare kind r = (w, .done (.receipt r)) := by
  cases kind <;> rfl

theorem forget_endApproval {p : PendingSession} {x : Except ClientError Receipt} (ho : w.orchestrator? i = some o) :
    forget (w.endApproval i p x) = w.bare.endApproval i p x := by
  cases x with
  | error e => exact Prod.ext (bare_modifyOrchestrator (·.approvalFailed p e) ho rfl) rfl
  | ok r =>
    unfold endApproval
    rw [orchestrator?_bare, ho]
    dsimp only [Option.map_some]
    rw [forget_afterApproval, afterApproval_bare]
    exact Prod.ext (congrArg (World.release · o.lease) bare_setOrchestrator) rfl

/-- An operation that has been told what it waits for does without caches what it does with them. -/
theorem forget_hear {n : News} (hp : p.unsettled? = some i) (ho : w.orchestrator? i = some o) :
    forget (w.hear p n) = w.bare.hear p n := by
  cases p with
  | configure | prepare =>
    cases hp
    cases n <;> first | exact forget_endSubmission ho | rfl
  | approve =>
    cases hp
    cases n <;> first | exact forget_approveWith ho | rfl
  | sign =>
    cases hp
    cases n <;> first | exact forget_endApproval ho | rfl
  | create | use | signHash | registerChallenge | registerPrompt | registerVerify | loginChallenge | loginPrompt
  | loginVerify | signed | load | toggle | toggled => cases hp

theorem bare_abandon (hp : p.unsettled? = some i) (ho : w.orchestrator? i = some o) :
    (w.abandon p).bare = w.bare.abandon p := by
  cases p with
  | configure j s =>
    cases hp
    exact congrArg (World.release · (some s.lease)) (bare_modifyOrchestrator (·.submissionDropped s) ho rfl)
  | prepare j s =>
    cases hp
    exact congrArg (World.release · (some s.lease)) (bare_modifyOrchestrator (·.submissionDropped s) ho rfl)
  | approve _ _ _ pending | sign _ _ _ pending =>
    cases hp
    exact bare_modifyOrchestrator (·.approvalAbandoned pending) ho rfl
  | create | use | signHash | registerChallenge | registerPrompt | registerVerify | loginChallenge | loginPrompt
  | loginVerify | signed | load | toggle | toggled => cases hp

theorem forget_cancel (hp : p.unsettled? = some i) (ho : w.orchestrator? i = some o) :
    (w.cancel p).map forget = w.bare.cancel p := by
  cases p with
  | configure | prepare => rfl
  | approve _ c _ pending | sign _ c _ pending =>
    cases hp
    cases c with
    | false => rfl
    | true => exact congrArg some (Prod.ext (bare_modifyOrchestrator (·.approvalAbandoned pending) ho rfl) rfl)
  | create | use | signHash | registerChallenge | registerPrompt | registerVerify | loginChallenge | loginPrompt
  | loginVerify | signed | load | toggle | toggled => cases hp

end

/-! ### What is done to operations -/

theorem tasks_beginSubmission {o : Orchestrator} {name : String} {ask : Submission → Waiting} :
    (w.beginSubmission i o name ask).1.tasks = w.tasks := by
  unfold beginSubmission
  split <;> rfl

theorem tasks_beginApproval {o : Orchestrator} {c : Bool} : (w.beginApproval i o c).1.tasks = w.tasks := by
  unfold beginApproval
  split <;> rfl

theorem tasks_start {op : Operation} (h : w.start op = some (v, q)) : v.tasks = w.tasks := by
  cases hop : op.orchestrator? with
  | none => exact (beside_start hop h).tasks
  | some j =>
    cases op with
    | submit | prepare =>
      obtain ⟨_, -, hq⟩ := Option.map_eq_some_iff.mp h
      rw [show v = _ from (congrArg Prod.fst hq).symm]
      exact tasks_beginSubmission
    | approve =>
      obtain ⟨_, -, hq⟩ := Option.map_eq_some_iff.mp h
      rw [show v = _ from (congrArg Prod.fst hq).symm]
      exact tasks_beginApproval
    | createCredential | requestAssertion | register | login | sign | fetch | refresh | toggle => cases hop

theorem tasks_endApproval {pending : PendingSession} {x : Except ClientError Receipt} :
    (w.endApproval i pending x).1.tasks = w.tasks := by
  unfold endApproval
  split
  · rfl
  · split
    · rfl
    · unfold afterApproval
      split
      · split
        · rename_i hl
          exact (beside_startFetch hl).tasks
        · rfl
      · rfl

theorem tasks_hear {n : News} : (w.hear p n).1.tasks = w.tasks := by
  unfold hear
  split
  · rename_i r
    cases r <;> rfl
  · rename_i r
    cases r <;> rfl
  · rename_i r
    cases r <;> rfl
  · exact tasks_endApproval
  · rfl

theorem tasks_abandon : (w.abandon p).tasks = w.tasks := by
  cases p <;> rfl

theorem tasks_cancel (h : w.cancel p = some (v, q)) : v.tasks = w.tasks := by
  unfold cancel at h
  split at h <;> cases h <;> rfl

/-! ### The operation on an orchestrator -/

section
variable {t : Option Waiting}

theorem on_eq_some_iff (h : w.sessions.Sound) : w.on i = some p ↔ ∃ k, w.task? k = some p ∧ p.unsettled? = some i := by
  have found : ∀ q, w.on i = some q → ∃ k, w.task? k = some q ∧ q.unsettled? = some i := by
    intro q hq
    obtain ⟨t, ht, hfilter⟩ := List.exists_of_findSome?_eq_some hq
    obtain ⟨rfl, hon⟩ := Option.filter_eq_some_iff.mp hfilter
    obtain ⟨k, hk⟩ := List.mem_iff_getElem?.mp ht
    exact ⟨k, by rw [task?, hk]; rfl, of_decide_eq_true hon⟩
  refine ⟨found p, ?_⟩
  rintro ⟨k, hk, hp⟩
  cases hon : w.on i with
  | none =>
    have hmem : some p ∈ w.tasks := List.mem_of_getElem? (Option.join_eq_some_iff.mp hk)
    have hnone := List.findSome?_eq_none_iff.mp hon (some p) hmem
    simp [hp] at hnone
  | some q =>
    -- No other operation is on the orchestrator.
    obtain ⟨j, hj, hq⟩ := found q hon
    obtain rfl : j = k := (h.settled i).alone j k q p hj hk (Waiting.orchestrator?_of_unsettled? hq)
      (Waiting.orchestrator?_of_unsettled? hp)
    rw [← hj, hk]

theorem on_ext (hw : w.sessions.Sound) (hv : v.sessions.Sound)
    (h : ∀ i p, p.unsettled? = some i → ((∃ k, v.task? k = some p) ↔ ∃ k, w.task? k = some p)) : v.on = w.on := by
  funext i
  refine Option.ext fun p => ?_
  rw [on_eq_some_iff hv, on_eq_some_iff hw, exists_and_right, exists_and_right]
  exact and_congr_left fun hp => h i p hp

/-- An operation begins or goes on that is on no orchestrator, or has settled. -/
theorem on_elsewhere (hw : w.sessions.Sound) (hv : v.sessions.Sound) (ht : v.task? = update w.task? k t)
    (old : ∀ p, w.task? k = some p → p.unsettled? = none) (new : ∀ p, t = some p → p.unsettled? = none) :
    v.on = w.on := by
  refine on_ext hw hv fun i p hp => exists_congr fun j => ?_
  rw [ht]
  by_cases hj : j = k
  · subst hj
    rw [update_self]
    exact iff_of_false (fun h => by cases (new p h).symm.trans hp) (fun h => by cases (old p h).symm.trans hp)
  · rw [update_of_ne hj]

/-- An operation on an orchestrator begins or goes on, and is the only one there. -/
theorem on_update (hw : w.sessions.Sound) (hv : v.sessions.Sound) (ht : v.task? = update w.task? k t)
    (own : ∀ j p, w.task? j = some p → p.unsettled? = some i → j = k)
    (old : ∀ p, w.task? k = some p → p.unsettled? = some i)
    (new : ∀ p, t = some p → p.unsettled? = some i ∨ p.unsettled? = none) :
    v.on = update w.on i (t.filter fun p => p.unsettled? = some i) := by
  funext j
  refine Option.ext fun p => ?_
  rw [on_eq_some_iff hv, ht]
  by_cases hj : j = i
  · subst hj
    rw [update_self, Option.filter_eq_some_iff]
    constructor
    · rintro ⟨n, hn, hp⟩
      by_cases hnk : n = k
      · subst hnk
        rw [update_self] at hn
        exact ⟨hn, decide_eq_true hp⟩
      · rw [update_of_ne hnk] at hn
        exact absurd (own n p hn hp) hnk
    · rintro ⟨h, hp⟩
      exact ⟨k, by rw [update_self, h], of_decide_eq_true hp⟩
  · rw [update_of_ne hj, on_eq_some_iff hw]
    refine exists_congr fun n => and_congr_left fun hp => ?_
    by_cases hnk : n = k
    · subst hnk
      rw [update_self]
      refine iff_of_false (fun h => ?_) (fun h => hj (Option.some.inj (hp.symm.trans (old p h))))
      rcases new p h with h | h
      · exact hj (Option.some.inj (hp.symm.trans h))
      · cases hp.symm.trans h
    · rw [update_of_ne hnk]

end

end World
end PasskeySession
