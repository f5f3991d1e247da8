import PasskeySession.Proofs.Session.Configured
import PasskeySession.Proofs.Session.Deeds
import PasskeySession.Proofs.Session.Turn

/-! # What operations return

What an operation on an orchestrator returns can be read from the deeds of a run: it is what the first of the
operations on the orchestrator to settle settles with. An approval that has its receipt has settled, and whatever
comes of the sessions that it still waits for, the receipt is all that it can return. -/

namespace PasskeySession
open Function (update update_self update_of_ne)

/-- The deeds of a run. -/
def deeds (past : List Happening) : List Deed := past.filterMap fun x => x.world.deed? x.event

section
variable {past more : List Happening} {x : Happening}

theorem deeds_append : deeds (past ++ more) = deeds past ++ deeds more := List.filterMap_append

theorem deeds_singleton : deeds [x] = (x.world.deed? x.event).toList := by
  unfold deeds
  cases h : x.world.deed? x.event <;> simp [h]

end

/-! ### Results read from deeds -/

/-- What an operation returns that has come to its end. -/
def Progress.result? : Progress → Option (Except ClientError Outcome)
  | finished r => some r
  | waiting _ => none

namespace Core
variable {c : Core} {i : Nat} {d : Deed} {ds more : List Deed}

/-- What the operation on an orchestrator settles with, if a deed settles it. -/
def result? (i : Nat) (c : Core) : Deed → Option (Except ClientError Outcome)
  | .begun op => if op.orchestrator? = some i then (c.base.start op).bind (·.2.result?) else none
  | .heard j n => if j = i then (c.on i).bind fun p => (c.base.hear p n).2.result? else none
  | .cancelled j => if j = i then ((c.on i).bind c.base.cancel).bind (·.2.result?) else none
  | .did _ | .dropped _ => none

/-- What the first operation on an orchestrator to settle settles with. -/
def firstResult? (i : Nat) : Core → List Deed → Option (Except ClientError Outcome)
  | _, [] => none
  | c, d :: ds => (c.result? i d).or (firstResult? i (c.after d) ds)

theorem firstResult?_append :
    c.firstResult? i (ds ++ more) = (c.firstResult? i ds).or ((ds.foldl after c).firstResult? i more) := by
  induction ds generalizing c with
  | nil => rfl
  | cons d ds ih => rw [List.cons_append, firstResult?, firstResult?, ih, Option.or_assoc, List.foldl_cons]

theorem firstResult?_toList {d : Option Deed} : c.firstResult? i d.toList = d.bind (c.result? i) := by
  cases d with
  | none => rfl
  | some d => exact Option.or_none

end Core

namespace World
variable {w v : World} {past : List Happening} {i k : Nat} {e : Event} {d : Deed} {op : Operation} {p : Waiting}
  {q : Progress}

theorem foldl_toList (c : Core) (d : Option Deed) : d.toList.foldl Core.after c = d.elim c c.after := by
  cases d <;> rfl

/-- What is left of a world that has come of a run is what the deeds of the run make of nothing. -/
theorem Ran.core_eq (h : w.Ran past) : w.core = (deeds past).foldl Core.after .initial := by
  induction h with
  | initial => rfl
  | @step past w e h ih =>
    rw [deeds_append, deeds_singleton, List.foldl_append, ← ih, foldl_toList]
    exact core_step h.reachable e

theorem Ran.of_concat {x : Happening} (h : v.Ran (past ++ [x])) : x.world.Ran past ∧ v = (x.world.step x.event).1 := by
  generalize hp : past ++ [x] = more at h
  cases h with
  | initial => cases List.append_eq_nil_iff.mp hp |>.2
  | step e h =>
    obtain ⟨rfl, hx⟩ := List.append_inj' hp rfl
    cases hx
    exact ⟨h, rfl⟩

/-! ### Steps of other operations -/

/-- An operation goes on by an event of its own only. -/
theorem of_progress {s t : Sessions} (m : Move s e (.progress k q) t) (hk : k < s.begun) :
    e.task? = some k ∧ ∃ p, s.task k = some p := by
  cases m with
  | begunElsewhere | opRefused | submits | approves => exact absurd hk (Nat.lt_irrefl _)
  | answeredElsewhere hk | submitted hk | submissionFailed hk | signs hk | attemptFailed hk | attemptCancelled hk
  | signed hk | loaded hk => exact ⟨rfl, _, hk⟩

section
variable (hw : w.Reachable)
include hw

/-- What is done on account of another operation does not settle the operation on an orchestrator. -/
theorem Reachable.result_of_other (hk : w.task? k = some p) (hp : p.unsettled? = some i) (he : e.task? ≠ some k)
    (hd : w.deed? e = some d) : w.core.result? i d = none := by
  cases e with
  | start op =>
    obtain ⟨j, hop, hd⟩ := Option.bind_eq_some_iff.mp hd
    split at hd
    · cases hd
    · rename_i idle
      cases hd
      refine if_neg fun hi => ?_
      cases hop.symm.trans hi
      exact inUse_eq_false_iff.mp (Bool.eq_false_iff.mpr idle) k p hk (Waiting.orchestrator?_of_unsettled? hp)
  | answer m reply =>
    obtain ⟨q, hq, hd⟩ := Option.bind_eq_some_iff.mp hd
    obtain ⟨⟨j, n⟩, hn, rfl⟩ := Option.map_eq_some_iff.mp hd
    refine if_neg fun hj => he ?_
    rw [← hw.own hk hp hq (hj ▸ Waiting.unsettled?_of_news? hn)]
    rfl
  | cancel m =>
    obtain ⟨q, hq, hd⟩ := Option.bind_eq_some_iff.mp hd
    split at hd
    · obtain ⟨j, hj, rfl⟩ := Option.map_eq_some_iff.mp hd
      refine if_neg fun hij => he ?_
      rw [← hw.own hk hp hq (hij ▸ hj)]
      rfl
    · cases hd
  | drop m =>
    obtain ⟨q, -, hd⟩ := Option.bind_eq_some_iff.mp hd
    obtain ⟨j, -, rfl⟩ := Option.map_eq_some_iff.mp hd
    rfl
  | newOrchestrator | dropOrchestrator | newCache | newGate | edit | setForm | discard | acquire | releaseLease =>
    simp only [deed?] at hd
    split at hd
    · cases hd
    · obtain ⟨_, -, rfl⟩ := Option.map_eq_some_iff.mp hd
      rfl

end

/-! ### Steps of the operation itself -/

theorem Onward.stands (h : Onward i q) (hp : q.entry = some p) :
    p.unsettled? = some i ∧ q.settled.result? = none ∨
      ∃ x l, p = .signed i x l ∧ q.settled.result? = some (.ok (.receipt x)) := by
  cases q with
  | finished r => cases hp
  | waiting p =>
    cases hp
    rcases h p rfl with hp | ⟨x, l, rfl⟩
    · refine Or.inl ⟨hp, ?_⟩
      cases p <;> first | rfl | cases hp
    · exact Or.inr ⟨x, l, rfl, rfl⟩

/-- An event of an operation on an orchestrator settles it with the result that its deed says, or not at all. -/
theorem Reachable.own_step (hw : w.Reachable) (hk : w.task? k = some p) (hp : p.unsettled? = some i)
    (he : e.task? = some k) :
    (∃ q, (w.step e).2 = .progress k q ∧ Onward i q ∧ (w.deed? e).bind (w.core.result? i) = q.settled.result?) ∨
      (∀ q, (w.step e).2 ≠ .progress k q) ∧ (w.deed? e).bind (w.core.result? i) = none ∧
        ((w.step e).1.task? k = none ∨ (w.step e).1.task? k = some p) := by
  have hon : w.core.on i = some p := hw.on_task hk hp
  obtain ⟨o, ho⟩ := hw.exists_orchestrator hk hp
  cases e with
  | answer m reply =>
    cases he
    obtain ⟨n, hn⟩ := Waiting.news?_of_unsettled? hp (reply p.question)
    have hheard : (w.core.base.hear p n).2 = (w.hear p n).2.settled := congrArg Prod.snd (forget_hear hp ho).symm
    refine Or.inl ⟨(w.hear p n).2, ?_, onward_hear hp, ?_⟩
    · rw [step_answer hk, resume_eq_hear hn]
    · simp only [deed?, hk, hn, Option.bind_some, Option.map_some, Core.result?, if_pos, hon, hheard]
  | cancel m =>
    cases he
    cases hc : p.cancellable with
    | false =>
      have hsame : w.step (.cancel k) = (w, .unmoved k) := by
        rw [step_cancel hk, cancel_of_not_cancellable hc]
        rfl
      rw [hsame]
      refine Or.inr ⟨by rintro _ ⟨⟩, ?_, Or.inr hk⟩
      simp only [deed?, hk, hc, Option.bind_some, Bool.false_eq_true, if_false, Option.bind_none]
    | true =>
      obtain ⟨j, v, err, hj, hcancel⟩ := exists_cancel (w := w) hc
      cases hp.symm.trans hj
      have hcancelled := base_cancel hp ho hcancel
      refine Or.inl ⟨.failed err, ?_, onward_finished, ?_⟩
      · rw [step_cancel hk, hcancel]
        rfl
      · simp only [deed?, hk, hc, hp, Option.bind_some, if_true, Option.map_some, Core.result?, hon, hcancelled]
        rfl
  | drop m =>
    cases he
    rw [step_drop hk]
    refine Or.inr ⟨by rintro _ ⟨⟩, ?_, Or.inl ?_⟩
    · simp only [deed?, hk, hp, Option.bind_some, Option.map_some]
      rfl
    · exact (congrFun (task?_set hk tasks_abandon none) k).trans (update_self ..)
  | newOrchestrator | dropOrchestrator | newCache | newGate | edit | setForm | discard | acquire | releaseLease
  | start => cases he

/-- An approval that has its receipt returns the receipt or nothing. -/
theorem signed_step {receipt : Receipt} {l : CacheLoad} (hk : w.task? k = some (.signed i receipt l))
    (he : e.task? = some k) :
    ((w.step e).1.task? k = none ∨ (w.step e).1.task? k = some (.signed i receipt l)) ∧
      ∀ q, (w.step e).2 = .progress k q → q = .done (.receipt receipt) := by
  cases e with
  | answer m reply =>
    cases he
    rw [step_answer hk]
    refine ⟨Or.inl ?_, ?_⟩
    · exact (congrFun (task?_set hk (beside_answerLoad (w := w) (l := l)).tasks none) k).trans (update_self ..)
    · rintro _ ⟨⟩
      rfl
  | cancel m =>
    cases he
    rw [step_cancel hk]
    exact ⟨Or.inr hk, by rintro _ ⟨⟩⟩
  | drop m =>
    cases he
    rw [step_drop hk]
    exact ⟨Or.inl ((congrFun (task?_set hk tasks_abandon none) k).trans (update_self ..)), by rintro _ ⟨⟩⟩
  | newOrchestrator | dropOrchestrator | newCache | newGate | edit | setForm | discard | acquire | releaseLease
  | start => cases he

/-! ### Steps and runs -/

/-- How an operation on an orchestrator stands, and what it has settled with. -/
structure Traced (i k : Nat) (r : Option (Except ClientError Outcome)) (w : World) : Prop where
  begun : k < w.tasks.length
  stands : ∀ p, w.task? k = some p →
    p.unsettled? = some i ∧ r = none ∨ ∃ x l, p = .signed i x l ∧ r = some (.ok (.receipt x))

section
variable {r : Option (Except ClientError Outcome)} (hw : w.Reachable)
include hw

theorem Reachable.own_task (hq : (w.step e).2 = .progress k q) : (w.step e).1.task? k = q.entry := by
  have m := World.move hw.sound.manned e
  rw [hq] at m
  exact Sessions.task_of_progress m

theorem traced_of_onward (begun : k < (w.step e).1.tasks.length) (hq : (w.step e).2 = .progress k q)
    (onward : Onward i q) : (w.step e).1.Traced i k q.settled.result? := by
  refine ⟨begun, fun p hp => onward.stands ?_⟩
  rw [← hw.own_task hq]
  exact hp

theorem traced_of_begun (hop : op.orchestrator? = some i) (hq : (w.step (.start op)).2 = .progress k q) :
    (w.step (.start op)).1.Traced i k q.settled.result? ∧
      (w.deed? (.start op)).bind (w.core.result? i) = q.settled.result? := by
  have hq' := hq
  simp only [World.step, begin, hop, Option.any_some] at hq'
  split at hq'
  · cases hq'
  · rename_i idle
    cases hs : w.start op with
    | none =>
      rw [hs] at hq'
      cases hq'
    | some s =>
      obtain ⟨v, q'⟩ := s
      rw [hs] at hq'
      cases hq'
      have hbegun : v.tasks.length < (w.step (.start op)).1.tasks.length := by
        simp only [World.step, begin, hop, Option.any_some, if_neg idle, hs, List.length_append]
        exact Nat.lt_succ_self _
      have hbare := base_start hop hs
      refine ⟨traced_of_onward hw hbegun hq (onward_start hop hs), ?_⟩
      simp only [deed?, hop, Option.bind_some, if_neg idle, Core.result?, if_pos, hbare]
      rfl

/-- A step goes on with an operation on an orchestrator, or leaves it as it is. -/
theorem Traced.step (h : w.Traced i k r) (e : Event) :
    (w.step e).1.Traced i k (r.or ((w.deed? e).bind (w.core.result? i))) ∧
      ∀ x, (w.step e).2 = .progress k (.finished x) → r.or ((w.deed? e).bind (w.core.result? i)) = some x := by
  have m := World.move hw.sound.manned e
  have begun := Nat.lt_of_lt_of_le h.begun (World.turn hw.sound e).begun_le
  have own : ∀ q, (w.step e).2 = .progress k q → e.task? = some k ∧ ∃ p, w.task? k = some p := by
    intro q hq
    rw [hq] at m
    exact of_progress m h.begun
  cases hk : w.task? k with
  | none =>
    -- The operation is over.
    refine ⟨⟨begun, fun p hp => ?_⟩, fun x hx => ?_⟩
    · have ended : (w.step e).1.task? k = none := (World.turn hw.sound e).ended h.begun hk
      cases ended.symm.trans hp
    · obtain ⟨-, p, hp⟩ := own _ hx
      cases hk.symm.trans hp
  | some p =>
    rcases h.stands p hk with ⟨hp, rfl⟩ | ⟨receipt, l, rfl, rfl⟩
    · -- It has not settled, and only an event of its own can settle it.
      rw [Option.none_or]
      by_cases he : e.task? = some k
      · rcases hw.own_step hk hp he with ⟨q, hq, onward, hr⟩ | ⟨hq, hr, htask⟩
        · rw [hr]
          refine ⟨traced_of_onward hw begun hq onward, fun x hx => ?_⟩
          rw [hq] at hx
          cases hx
          rfl
        · rw [hr]
          refine ⟨⟨begun, fun p' hp' => Or.inl ⟨?_, rfl⟩⟩, fun x hx => absurd hx (hq _)⟩
          rcases htask with hnone | hsome
          · cases hnone.symm.trans hp'
          · cases hsome.symm.trans hp'
            exact hp
      · have hr : (w.deed? e).bind (w.core.result? i) = none :=
          Option.bind_eq_none_iff.mpr fun d hd => hw.result_of_other hk hp he hd
        have same : (w.step e).1.task? k = w.task? k :=
          (hw.sound.frame m hk (Waiting.orchestrator?_of_unsettled? hp) he).2
        rw [hr]
        refine ⟨⟨begun, fun p' hp' => Or.inl ⟨?_, rfl⟩⟩, fun x hx => absurd (own _ hx).1 he⟩
        cases hk.symm.trans (same.symm.trans hp')
        exact hp
    · -- It has settled, and waits for sessions.
      rw [Option.some_or]
      by_cases he : e.task? = some k
      · obtain ⟨htask, hq⟩ := signed_step hk he
        refine ⟨⟨begun, fun p hp => Or.inr ⟨receipt, l, ?_, rfl⟩⟩, fun x hx => ?_⟩
        · rcases htask with hnone | hsome
          · cases hnone.symm.trans hp
          · exact Option.some.inj (hp.symm.trans hsome)
        · cases hq _ hx
          rfl
      · have same : (w.step e).1.task? k = w.task? k := (hw.sound.frame m hk rfl he).2
        exact ⟨⟨begun, fun p hp => Or.inr ⟨receipt, l, Option.some.inj (hp.symm.trans (same.trans hk)), rfl⟩⟩,
          fun x hx => absurd (own _ hx).1 he⟩

end

section
variable {first since : List Happening} {x : Happening}

theorem Ran.of_append (h : v.Ran (first ++ x :: since)) : x.world.Ran first := by
  induction since using List.reverseRecOn generalizing v with
  | nil => exact h.of_concat.1
  | append_singleton since y ih =>
    rw [← List.cons_append, ← List.append_assoc] at h
    exact ih h.of_concat.1

theorem Ran.core_since (h : v.Ran (first ++ x :: since)) :
    v.core = (deeds (x :: since)).foldl Core.after x.world.core := by
  rw [h.core_eq, h.of_append.core_eq, deeds_append, List.foldl_append]

/-- In every run an operation on an orchestrator returns what is read from the deeds, if it returns. -/
theorem Ran.traced (h : v.Ran (first ++ x :: since)) (hop : op.orchestrator? = some i) (hx : x.event = .start op)
    (hq : x.report = .progress k q) :
    v.Traced i k (x.world.core.firstResult? i (deeds (x :: since))) ∧
      ∀ y ∈ x :: since, ∀ r, y.report = .progress k (.finished r) →
        x.world.core.firstResult? i (deeds (x :: since)) = some r := by
  induction since using List.reverseRecOn generalizing v with
  | nil =>
    obtain ⟨before, rfl⟩ := h.of_concat
    rw [Happening.report, hx] at hq
    obtain ⟨traced, hr⟩ := traced_of_begun before.reachable hop hq
    rw [deeds_singleton, Core.firstResult?_toList, hx, hr]
    refine ⟨traced, fun y hy r hyr => ?_⟩
    cases List.mem_singleton.mp hy
    rw [Happening.report, hx, hq] at hyr
    cases hyr
    rfl
  | append_singleton since y ih =>
    rw [← List.cons_append, ← List.append_assoc] at h
    obtain ⟨before, rfl⟩ := h.of_concat
    obtain ⟨traced, returned⟩ := ih before
    rw [← List.cons_append, deeds_append, Core.firstResult?_append, ← before.core_since, deeds_singleton,
      Core.firstResult?_toList]
    obtain ⟨traced', returned'⟩ := traced.step before.reachable y.event
    refine ⟨traced', fun z hz r hzr => ?_⟩
    rcases List.mem_append.mp hz with hz | hz
    · rw [returned z hz r hzr]
      rfl
    · cases List.mem_singleton.mp hz
      exact returned' r hzr

end
end World

/-- An operation that began after some deeds has returned a result. -/
inductive Returned (op : Operation) (before : List Deed) (r : Except ClientError Outcome) : List Happening → Prop
  | intro {first since : List Happening} {x y : Happening} {k : Nat} {q : Progress} (hd : deeds first = before)
    (hx : x.event = .start op) (hq : x.report = .progress k q) (hy : y ∈ x :: since)
    (hr : y.report = .progress k (.finished r)) : Returned op before r (first ++ x :: since)

theorem Returned.read {op : Operation} {i : Nat} {before : List Deed} {r : Except ClientError Outcome}
    {past : List Happening} {w : World} (ret : Returned op before r past) (h : w.Ran past)
    (hop : op.orchestrator? = some i) :
    ∃ since, deeds past = before ++ since ∧ (before.foldl Core.after .initial).firstResult? i since = some r := by
  cases ret with
  | @intro first since x y k q hd hx hq hy hr =>
    subst hd
    refine ⟨deeds (x :: since), deeds_append, ?_⟩
    rw [← h.of_append.core_eq]
    exact (h.traced hop hx hq).2 y hy r hr

/-- Two runs with the same deeds return the same from operations that began after the same deeds. -/
theorem Returned.eq {op : Operation} {i : Nat} {before : List Deed} {r r' : Except ClientError Outcome}
    {past past' : List Happening} {w w' : World} (ret : Returned op before r past) (ret' : Returned op before r' past')
    (h : w.Ran past) (h' : w'.Ran past') (hop : op.orchestrator? = some i) (hd : deeds past = deeds past') :
    r = r' := by
  obtain ⟨since, hs, hr⟩ := ret.read h hop
  obtain ⟨since', hs', hr'⟩ := ret'.read h' hop
  have same : since = since' := List.append_cancel_left (hs.symm.trans (hd.trans hs'))
  subst same
  exact Option.some.inj (hr.symm.trans hr')

end PasskeySession
