import PasskeySession.Proofs.Session.Bare

/-! # Deeds

A run as what is done in it to orchestrators and leases, in order: what is done to them at once, and how the
operations on orchestrators begin, what they are told, and when they are cancelled or dropped. Caches, gates and
their operations take no part, nor does an approval that has its receipt. -/

namespace PasskeySession
open Function (update update_self update_of_ne)

/-- Something that is done to an orchestrator or a lease. -/
inductive Deed
  /-- Something is done at once. -/
  | did (e : Event)
  | begun (op : Operation)
  /-- The operation on an orchestrator is told what it waits for. -/
  | heard (orch : Nat) (n : News)
  | cancelled (orch : Nat)
  | dropped (orch : Nat)

namespace Event

/-- The orchestrator that something is done to at once. -/
def orchestrator? : Event → Option Nat
  | dropOrchestrator i => some i
  | edit i _ => some i
  | setForm i _ => some i
  | discard i => some i
  | _ => none

/-- What is done at once to an orchestrator or a lease, without the cache of a new orchestrator. -/
def bare? : Event → Option Event
  | newOrchestrator a _ => some (newOrchestrator a none)
  | dropOrchestrator i => some (dropOrchestrator i)
  | edit i e => some (edit i e)
  | setForm i f => some (setForm i f)
  | discard i => some (discard i)
  | acquire a => some (acquire a)
  | releaseLease n => some (releaseLease n)
  | _ => none

end Event

namespace World
variable {w v : World} {i k : Nat} {e d : Event} {op : Operation} {p : Waiting} {q : Progress}

/-- What an event does to an orchestrator or a lease. Nothing is done to an orchestrator that is in use. -/
def deed? (w : World) : Event → Option Deed
  | .start op => op.orchestrator?.bind fun i => if w.inUse i then none else some (.begun op)
  | .answer k reply => (w.task? k).bind fun p => (p.news? (reply p.question)).map fun x => .heard x.1 x.2
  | .cancel k => (w.task? k).bind fun p => if p.cancellable then p.unsettled?.map .cancelled else none
  | .drop k => (w.task? k).bind fun p => p.unsettled?.map .dropped
  | e => if e.orchestrator?.any w.inUse then none else e.bare?.map .did

end World

/-! ### What deeds make -/

/-- What is left of a world without caches: its orchestrators and leases, and the unsettled operation on each
orchestrator. -/
structure Core where
  base : World
  on : Nat → Option Waiting

namespace Core

def initial : Core := ⟨.initial, fun _ => none⟩

/-- The operation on an orchestrator goes on. -/
def goOn (c : Core) (i : Nat) (r : World × Progress) : Core := ⟨r.1, update c.on i r.2.entry⟩

def after (c : Core) : Deed → Core
  | .did e => { c with base := (c.base.step e).1 }
  | .begun op =>
    match op.orchestrator?, c.base.start op with
    | some i, some r => c.goOn i r
    | _, _ => c
  | .heard i n => (c.on i).elim c fun p => c.goOn i (c.base.hear p n)
  | .cancelled i => ((c.on i).bind c.base.cancel).elim c (c.goOn i)
  | .dropped i => (c.on i).elim c fun p => ⟨c.base.abandon p, update c.on i none⟩

end Core

namespace World
variable {w v : World} {i k : Nat} {e d : Event} {op : Operation} {p : Waiting} {q : Progress}

def core (w : World) : Core := ⟨w.bare, w.on⟩

theorem on_of_tasks (h : v.tasks = w.tasks) : v.on = w.on := by
  unfold on
  rw [h]

theorem Beside.core (h : Beside w v) : v.core = w.core := by
  unfold World.core
  rw [h.bare, on_of_tasks h.tasks]

/-! ### What is done at once -/

theorem onOrchestrator_inUse {f : Orchestrator → World × Report} (h : w.inUse i = true) :
    (w.onOrchestrator i f).1 = w := by
  unfold onOrchestrator
  rw [h]
  split <;> rfl

theorem bare_did (hd : e.bare? = some d) (hfree : e.orchestrator?.any w.inUse = false) :
    (w.step e).1.bare = (w.bare.step d).1 := by
  cases e with
  | newOrchestrator a c =>
    cases hd
    simp only [step, bare, List.map_append]
    rfl
  | dropOrchestrator i =>
    cases hd
    exact bare_onOrchestrator hfree fun _ => bare_dropOrchestrator
  | edit i ed =>
    cases hd
    exact bare_onOrchestrator hfree fun _ => bare_editForm
  | setForm i f =>
    cases hd
    exact bare_onOrchestrator hfree fun _ => bare_setForm
  | discard i =>
    cases hd
    exact bare_onOrchestrator hfree fun _ => bare_discard
  | acquire a =>
    cases hd
    exact bare_acquireLease
  | releaseLease n =>
    cases hd
    exact bare_releaseLease
  | newCache | newGate | start | answer | cancel | drop => cases hd

theorem tasks_did (hd : e.bare? = some d) : (w.step e).1.tasks = w.tasks := by
  cases e with
  | newOrchestrator => rfl
  | dropOrchestrator => exact tasks_onOrchestrator fun _ => rfl
  | edit => exact tasks_onOrchestrator fun _ => tasks_editForm
  | setForm => exact tasks_onOrchestrator fun _ => tasks_setForm
  | discard => exact tasks_onOrchestrator fun _ => tasks_discard
  | acquire => exact tasks_acquireLease
  | releaseLease => exact tasks_releaseLease
  | newCache | newGate | start | answer | cancel | drop => cases hd

/-- What is done at once leaves of the world what the deed makes of what was left. -/
theorem core_did (hd : e.bare? = some d) :
    (w.step e).1.core = if e.orchestrator?.any w.inUse then w.core else w.core.after (.did d) := by
  cases hused : e.orchestrator?.any w.inUse with
  | false =>
    rw [if_neg Bool.false_ne_true, core, bare_did hd hused, on_of_tasks (tasks_did hd)]
    rfl
  | true =>
    have hsame : (w.step e).1 = w := by
      cases e with
      | dropOrchestrator | edit | setForm | discard => exact onOrchestrator_inUse hused
      | newOrchestrator | acquire | releaseLease | newCache | newGate | start | answer | cancel | drop => cases hused
    rw [if_pos rfl, hsame]

/-! ### How an operation goes on -/

/-- An operation on an orchestrator goes on there, or has settled. -/
def Onward (i : Nat) (q : Progress) : Prop :=
  ∀ p, q.entry = some p → p.unsettled? = some i ∨ ∃ r l, p = .signed i r l

theorem onward_finished {r : Except ClientError Outcome} : Onward i (.finished r) := by
  rintro _ ⟨⟩

theorem onward_waiting (h : p.unsettled? = some i) : Onward i (.waiting p) := by
  rintro _ ⟨⟩
  exact Or.inl h

theorem Onward.unsettled? (h : Onward i q) :
    ∀ p, q.entry = some p → p.unsettled? = some i ∨ p.unsettled? = none := by
  intro p hp
  rcases h p hp with h | ⟨r, l, rfl⟩
  · exact Or.inl h
  · exact Or.inr rfl

theorem Onward.filter_entry (h : Onward i q) : q.entry.filter (fun p => p.unsettled? = some i) = q.settled.entry := by
  cases q with
  | finished r => rfl
  | waiting p =>
    rcases h p rfl with hp | ⟨r, l, rfl⟩
    · have hsettled : (Progress.waiting p).settled = .waiting p := by
        cases p <;> first | rfl | cases hp
      rw [hsettled]
      exact Option.filter_some_pos (decide_eq_true hp)
    · rfl

theorem onward_start (hop : op.orchestrator? = some i) (h : w.start op = some (v, q)) : Onward i q := by
  cases op with
  | submit | prepare =>
    cases hop
    obtain ⟨_, -, hq⟩ := Option.map_eq_some_iff.mp h
    unfold beginSubmission at hq
    split at hq <;> cases hq
    · exact onward_finished
    · exact onward_waiting rfl
  | approve =>
    cases hop
    obtain ⟨_, -, hq⟩ := Option.map_eq_some_iff.mp h
    unfold beginApproval at hq
    split at hq <;> cases hq
    · exact onward_finished
    · exact onward_waiting rfl
  | createCredential | requestAssertion | register | login | sign | fetch | refresh | toggle => cases hop

theorem onward_hear {n : News} (hp : p.unsettled? = some i) : Onward i (w.hear p n).2 := by
  unfold hear
  split
  · rename_i r
    cases r <;> exact onward_finished
  · rename_i r
    cases r <;> exact onward_finished
  · rename_i r
    cases hp
    cases r with
    | error e => exact onward_finished
    | ok g => exact onward_waiting rfl
  · cases hp
    unfold endApproval
    split
    · exact onward_finished
    · split
      · exact onward_finished
      · obtain ⟨-, hq | ⟨l, hq⟩⟩ := afterApproval_cases ((w.setOrchestrator i _).release _) i _ _ _
        · rw [hq]
          exact onward_finished
        · rw [hq]
          rintro _ ⟨⟩
          exact Or.inr ⟨_, _, rfl⟩
  · exact onward_finished

theorem cancel_of_not_cancellable (h : p.cancellable = false) : w.cancel p = none := by
  unfold cancel
  split <;> first | rfl | cases h

theorem exists_cancel (h : p.cancellable = true) :
    ∃ i v e, p.unsettled? = some i ∧ w.cancel p = some (v, .failed e) := by
  unfold Waiting.cancellable at h
  split at h
  · subst h
    exact ⟨_, _, _, rfl, rfl⟩
  · subst h
    exact ⟨_, _, _, rfl, rfl⟩
  · cases h

/-! ### What operations do -/

theorem base_start {r : World × Progress} (hop : op.orchestrator? = some i) (h : w.start op = some r) :
    w.core.base.start op = some (forget r) :=
  (forget_start hop).symm.trans (congrArg (Option.map forget) h)

theorem base_cancel {o : Orchestrator} {r : World × Progress} (hp : p.unsettled? = some i)
    (ho : w.orchestrator? i = some o) (h : w.cancel p = some r) : w.core.base.cancel p = some (forget r) :=
  (forget_cancel hp ho).symm.trans (congrArg (Option.map forget) h)

theorem task?_set (hk : w.task? k = some p) (ht : v.tasks = w.tasks) (x : Option Waiting) :
    ({ v with tasks := v.tasks.set k x } : World).task? = update w.task? k x := by
  unfold task?
  dsimp only
  rw [ht]
  exact join_getElem?_set hk

theorem task?_append (ht : v.tasks = w.tasks) (x : Option Waiting) :
    ({ v with tasks := v.tasks ++ [x] } : World).task? = update w.task? w.tasks.length x := by
  unfold task?
  dsimp only
  rw [ht]
  exact join_getElem?_append

theorem bare_setTasks (w : World) (ts : List (Option Waiting)) : ({ w with tasks := ts } : World).bare = w.bare := rfl

theorem step_answer {reply : Reply} (hk : w.task? k = some p) :
    w.step (.answer k reply) =
      (goOn k (w.resume p (reply p.question)), .progress k (w.resume p (reply p.question)).2) := by
  unfold step answer
  simp only [hk]
  rfl

theorem step_cancel (hk : w.task? k = some p) :
    w.step (.cancel k) = (w.cancel p).elim (w, .unmoved k) fun r => (goOn k r, .progress k r.2) := by
  unfold step cancelTask
  simp only [hk]
  cases w.cancel p <;> rfl

theorem step_drop (hk : w.task? k = some p) :
    w.step (.drop k) = ({ w.abandon p with tasks := (w.abandon p).tasks.set k none }, .done) := by
  unfold step dropTask
  simp only [hk]

section
variable (hw : w.Reachable)
include hw

theorem Reachable.own (hk : w.task? k = some p) (hp : p.unsettled? = some i) {j : Nat} {q : Waiting}
    (hj : w.task? j = some q) (hq : q.unsettled? = some i) : j = k :=
  (hw.sound.settled i).alone j k q p hj hk (Waiting.orchestrator?_of_unsettled? hq)
    (Waiting.orchestrator?_of_unsettled? hp)

theorem Reachable.exists_orchestrator (hk : w.task? k = some p) (hp : p.unsettled? = some i) :
    ∃ o, w.orchestrator? i = some o :=
  hw.sound.manned k p i hk (Waiting.orchestrator?_of_unsettled? hp)

theorem Reachable.on_task (hk : w.task? k = some p) (hp : p.unsettled? = some i) : w.on i = some p :=
  (on_eq_some_iff hw.sound).mpr ⟨k, hk, hp⟩

theorem Reachable.fresh : w.task? w.tasks.length = none := hw.sound.freshTask _ (Nat.le_refl _)

theorem core_begun_elsewhere {x : Option Waiting} (hx : ∀ q, x = some q → q.unsettled? = none) (beside : Beside w v)
    (hv : ({ v with tasks := v.tasks ++ [x] } : World).Reachable) :
    ({ v with tasks := v.tasks ++ [x] } : World).core = w.core := by
  have hon := on_elsewhere hw.sound hv.sound (task?_append beside.tasks x)
    (fun q hq => by cases hw.fresh.symm.trans hq) hx
  rw [core, core, bare_setTasks, beside.bare, hon]

theorem core_begun (idle : w.inUse i = false) (hq : Onward i q) (ht : v.tasks = w.tasks)
    (hv : ({ v with tasks := v.tasks ++ [q.entry] } : World).Reachable) :
    ({ v with tasks := v.tasks ++ [q.entry] } : World).core = w.core.goOn i (forget (v, q)) := by
  have hidle : ∀ j r, w.task? j = some r → r.unsettled? ≠ some i := fun j r hj hr =>
    inUse_eq_false_iff.mp idle j r hj (Waiting.orchestrator?_of_unsettled? hr)
  have hon := on_update hw.sound hv.sound (task?_append ht q.entry) (fun j r hj hr => absurd hr (hidle j r hj))
    (fun r hr => by cases hw.fresh.symm.trans hr) hq.unsettled?
  rw [core, bare_setTasks, hon, hq.filter_entry]
  rfl

theorem core_elsewhere {x : Option Waiting} (hk : w.task? k = some p) (hp : p.unsettled? = none)
    (hx : ∀ q, x = some q → q.unsettled? = none) (beside : Beside w v)
    (hv : ({ v with tasks := v.tasks.set k x } : World).Reachable) :
    ({ v with tasks := v.tasks.set k x } : World).core = w.core := by
  have hon := on_elsewhere hw.sound hv.sound (task?_set hk beside.tasks x)
    (fun q hq => by cases hk.symm.trans hq; exact hp) hx
  rw [core, core, bare_setTasks, beside.bare, hon]

theorem core_onward {r : World × Progress} (hk : w.task? k = some p) (hp : p.unsettled? = some i)
    (hq : Onward i r.2) (ht : r.1.tasks = w.tasks) (hv : (World.goOn k r).Reachable) :
    (World.goOn k r).core = w.core.goOn i (forget r) := by
  have hon := on_update hw.sound hv.sound (task?_set hk ht r.2.entry) (fun j q hj hq => hw.own hk hp hj hq)
    (fun q hq => by cases hk.symm.trans hq; exact hp) hq.unsettled?
  rw [hq.filter_entry] at hon
  rw [core, hon]
  rfl

theorem core_answer {reply : Reply} :
    (w.step (.answer k reply)).1.core = (w.deed? (.answer k reply)).elim w.core w.core.after := by
  have hv : (w.step (.answer k reply)).1.Reachable := .step (.answer k reply) hw
  cases hk : w.task? k with
  | none =>
    simp only [World.step, answer, deed?, hk]
    rfl
  | some p =>
    rw [step_answer hk] at hv ⊢
    simp only [deed?, hk, Option.bind_some]
    cases hp : p.unsettled? with
    | none =>
      rw [Waiting.news?_of_settled hp]
      refine core_elsewhere hw hk hp (fun q hq => ?_) (beside_resume hp _) hv
      cases ho : p.orchestrator? with
      | none => exact Waiting.unsettled?_of_elsewhere ((resume_elsewhere ho (reply p.question)).2 q hq)
      | some j =>
        cases p with
        | signed =>
          simp only [resume] at hq
          cases hq
        | configure | prepare | approve | sign => cases hp
        | create | use | signHash | registerChallenge | registerPrompt | registerVerify | loginChallenge
        | loginPrompt | loginVerify | load | toggle | toggled => cases ho
    | some i =>
      obtain ⟨n, hn⟩ := Waiting.news?_of_unsettled? hp (reply p.question)
      obtain ⟨o, ho⟩ := hw.exists_orchestrator hk hp
      rw [resume_eq_hear hn] at hv ⊢
      have hon : w.core.on i = some p := hw.on_task hk hp
      simp only [hn, Option.map_some, Option.elim_some, Core.after, hon]
      rw [core_onward hw hk hp (onward_hear hp) tasks_hear hv]
      exact congrArg (w.core.goOn i) (forget_hear hp ho)

theorem core_cancel : (w.step (.cancel k)).1.core = (w.deed? (.cancel k)).elim w.core w.core.after := by
  have hv : (w.step (.cancel k)).1.Reachable := .step (.cancel k) hw
  cases hk : w.task? k with
  | none =>
    simp only [World.step, cancelTask, deed?, hk]
    rfl
  | some p =>
    rw [step_cancel hk] at hv ⊢
    simp only [deed?, hk, Option.bind_some]
    cases hc : p.cancellable with
    | false =>
      rw [cancel_of_not_cancellable hc]
      rfl
    | true =>
      obtain ⟨i, v, e, hp, hcancel⟩ := exists_cancel (w := w) hc
      obtain ⟨o, ho⟩ := hw.exists_orchestrator hk hp
      have hbase := base_cancel hp ho hcancel
      rw [hcancel] at hv ⊢
      have hon : w.core.on i = some p := hw.on_task hk hp
      rw [if_pos rfl, hp]
      simp only [Option.map_some, Option.elim_some, Core.after, hon, Option.bind_some, hbase]
      exact core_onward hw hk hp onward_finished (tasks_cancel hcancel) hv

theorem core_drop : (w.step (.drop k)).1.core = (w.deed? (.drop k)).elim w.core w.core.after := by
  have hv : (w.step (.drop k)).1.Reachable := .step (.drop k) hw
  cases hk : w.task? k with
  | none =>
    simp only [World.step, dropTask, deed?, hk]
    rfl
  | some p =>
    rw [step_drop hk] at hv ⊢
    simp only [deed?, hk, Option.bind_some]
    cases hp : p.unsettled? with
    | none => exact core_elsewhere hw hk hp (by rintro _ ⟨⟩) (beside_abandon hp) hv
    | some i =>
      obtain ⟨o, ho⟩ := hw.exists_orchestrator hk hp
      have hdone : Onward i (.failed SessionCache.noAccount) := onward_finished
      have hon : w.core.on i = some p := hw.on_task hk hp
      have hcore := core_onward (r := (w.abandon p, .failed SessionCache.noAccount)) hw hk hp hdone tasks_abandon hv
      refine hcore.trans ?_
      simp only [Option.map_some, Option.elim_some, Core.after, hon]
      exact congrArg (fun v => Core.mk v (update w.on i none)) (bare_abandon hp ho)

theorem core_begin : (w.step (.start op)).1.core = (w.deed? (.start op)).elim w.core w.core.after := by
  have hv : (w.begin op).1.Reachable := .step (.start op) hw
  simp only [step, deed?]
  unfold begin at hv ⊢
  cases hop : op.orchestrator? with
  | none =>
    rw [hop, Option.any_none, if_neg Bool.false_ne_true] at hv
    rw [Option.any_none, if_neg Bool.false_ne_true]
    cases hs : w.start op with
    | none => rfl
    | some r =>
      obtain ⟨v, q⟩ := r
      rw [hs] at hv
      have hentry := (start_elsewhere hop hs).2
      exact core_begun_elsewhere hw (fun p hp => Waiting.unsettled?_of_elsewhere (hentry p hp)) (beside_start hop hs) hv
  | some i =>
    rw [hop, Option.any_some] at hv
    rw [Option.any_some, Option.bind_some]
    cases hused : w.inUse i with
    | true => rfl
    | false =>
      have hbase : w.core.base.start op = (w.start op).map forget := (forget_start hop).symm
      rw [hused, if_neg Bool.false_ne_true] at hv
      rw [if_neg Bool.false_ne_true]
      simp only [Bool.false_eq_true, if_false, Option.elim_some, Core.after, hop, hbase]
      cases hs : w.start op with
      | none => rfl
      | some r =>
        obtain ⟨v, q⟩ := r
        rw [hs] at hv
        exact core_begun hw hused (onward_start hop hs) (tasks_start hs) hv

/-- What is left of the world after a step is what its deed, if it has one, makes of what was left before. -/
theorem core_step (e : Event) : (w.step e).1.core = (w.deed? e).elim w.core w.core.after := by
  cases e with
  | newCache => exact Beside.core ⟨rfl, rfl⟩
  | newGate => exact Beside.core ⟨rfl, rfl⟩
  | start op => exact core_begin hw
  | answer k reply => exact core_answer hw
  | cancel k => exact core_cancel hw
  | drop k => exact core_drop hw
  | newOrchestrator a c => exact core_did rfl
  | acquire a => exact core_did rfl
  | releaseLease n => exact core_did rfl
  | dropOrchestrator i | edit i _ | setForm i _ | discard i =>
    rw [core_did rfl]
    simp only [deed?]
    cases hused : w.inUse i <;> simp [Event.orchestrator?, Event.bare?, hused]

end

end World
end PasskeySession
