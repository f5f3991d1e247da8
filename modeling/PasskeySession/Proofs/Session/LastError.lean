import PasskeySession.Proofs.Session.Configured

/-! # The last error

The error that an orchestrator keeps is that of the last attempt to approve its pending session that failed. Both
are read from the past: when the session was opened, and which attempts have failed since. -/

namespace PasskeySession
open Function (update update_self update_of_ne)

theorem SigningState.pending?_eq_some_iff {s : SigningState} {p : PendingSession} :
    s.pending? = some p ↔ s = .awaitingApproval p ∨ s = .signing p := by
  cases s <;> simp [pending?]

/-! ### Failures in the past -/

namespace Happening

def Pends (i : Nat) (p : PendingSession) (x : Happening) : Prop :=
  ∃ o, x.world.orchestrator? i = some o ∧ o.state.pending? = some p

/-- An answer to a submission gives an orchestrator this pending session. -/
def Begins (i : Nat) (p : PendingSession) (x : Happening) : Prop :=
  ∃ k point sub reply, x.world.task? k = some point ∧ point.submission? = some (i, sub) ∧
    x.event = .answer k reply ∧ x.report = .progress k (.done (.pending p))

/-- An answer to an attempt to approve this pending session ends it in an error. -/
def Fails (i : Nat) (p : PendingSession) (err : ClientError) (x : Happening) : Prop :=
  ∃ k point reply, x.world.task? k = some point ∧ point.attempt? = some (i, p) ∧ x.event = .answer k reply ∧
    x.report = .progress k (.failed err)

theorem Fails.unique {i : Nat} {p : PendingSession} {err err' : ClientError} {x : Happening}
    (h : x.Fails i p err) (h' : x.Fails i p err') : err = err' := by
  obtain ⟨k, point, reply, -, -, -, hr⟩ := h
  obtain ⟨k', point', reply', -, -, -, hr'⟩ := h'
  cases hr.symm.trans hr'
  rfl

end Happening

/-- The session was opened on the orchestrator, and has been pending since. -/
def Pending (i : Nat) (p : PendingSession) : List Happening → Prop :=
  Since (fun _ x => x.Begins i p) (Happening.Pends i p)

/-- An attempt to approve the session has failed since it was opened, and none after that one. -/
def Failed (i : Nat) (p : PendingSession) (err : ClientError) : List Happening → Prop :=
  Since (fun before x => Pending i p before ∧ x.Pends i p ∧ x.Fails i p err) fun x =>
    x.Pends i p ∧ ∀ err', ¬ x.Fails i p err'

/-! ### The invariant -/

namespace Sessions

/-- The past says whether an orchestrator has an error, and which. -/
structure Faulted (past : List Happening) (s : Sessions) (i : Nat) : Prop where
  clear : ∀ o, s.orchestrator i = some o → o.state.pending? = none → o.lastError = none
  pending : ∀ o p, s.orchestrator i = some o → o.state.pending? = some p → Pending i p past
  failed : ∀ o p err, s.orchestrator i = some o → o.state.pending? = some p →
    (o.lastError = some err ↔ Failed i p err past)

variable {past : List Happening} {w : World} {t : Sessions} {e : Event} {r : Report} {i j k : Nat}
  {o o' : Orchestrator} {p : PendingSession} {err : ClientError}

theorem faulted_of_clear (h : ∀ o, t.orchestrator i = some o → o.state.pending? = none ∧ o.lastError = none) :
    Faulted past t i where
  clear o ho _ := (h o ho).2
  pending o p ho hp := by cases (h o ho).1.symm.trans hp
  failed o p err ho hp := by cases (h o ho).1.symm.trans hp

theorem faulted_of_begins (ho : w.sessions.orchestrator i = some o) (hs : o.state.pending? = none)
    (ht : t.orchestrator i = some o') (hp : o'.state.pending? = some p) (he : o'.lastError = none)
    (hx : Happening.Begins i p ⟨w, e⟩) : Faulted (past ++ [⟨w, e⟩]) t i := by
  -- nothing was pending before the answer, so no attempt in the past can have been on this session
  have hpends : ∀ q, ¬ Happening.Pends i q ⟨w, e⟩ := by
    rintro q ⟨o₂, ho₂, hq⟩
    cases ho.symm.trans ho₂
    cases hs.symm.trans hq
  constructor
  · intro q hq hnone
    cases ht.symm.trans hq
    cases hp.symm.trans hnone
  · intro q p' hq hp'
    cases ht.symm.trans hq
    cases hp.symm.trans hp'
    exact .here hx
  · intro q p' err hq _
    cases ht.symm.trans hq
    rw [he, Failed, Since.concat_iff]
    constructor
    · rintro ⟨⟩
    · rintro (⟨-, h, -⟩ | ⟨⟨h, -⟩, -⟩) <;> exact absurd h (hpends p')

/-- An attempt to approve the session fails, and its error is kept. -/
theorem Faulted.failing (h : Faulted past w.sessions i) (ho : w.sessions.orchestrator i = some o)
    (hp : o.state.pending? = some p) (ht : t.orchestrator i = some (o.approvalFailed p err))
    (hx : Happening.Fails i p err ⟨w, e⟩) : Faulted (past ++ [⟨w, e⟩]) t i := by
  have hpends : Happening.Pends i p ⟨w, e⟩ := ⟨o, ho, hp⟩
  have hpending := h.pending o p ho hp
  constructor
  · intro q hq hnone
    cases ht.symm.trans hq
    cases hnone
  · intro q p' hq hp'
    cases ht.symm.trans hq
    cases hp'
    exact hpending.keep hpends
  · intro q p' err' hq hp'
    cases ht.symm.trans hq
    cases hp'
    rw [Failed, Since.concat_iff]
    constructor
    · rintro ⟨⟩
      exact Or.inl ⟨hpending, hpends, hx⟩
    · rintro (⟨-, -, hx'⟩ | ⟨⟨-, hnot⟩, -⟩)
      · exact congrArg some (hx.unique hx')
      · exact absurd hx (hnot err)

section
variable (h : Faulted past w.sessions i) (hx : ∀ p err, ¬ Happening.Fails i p err ⟨w, e⟩)
include h hx

/-- No attempt fails, and the orchestrator keeps its pending session and its error. -/
theorem Faulted.keep (same : ∀ o', t.orchestrator i = some o' → ∃ o, w.sessions.orchestrator i = some o ∧
    o.state.pending? = o'.state.pending? ∧ o.lastError = o'.lastError) : Faulted (past ++ [⟨w, e⟩]) t i := by
  constructor
  · intro o' ho' hp
    obtain ⟨o, ho, hs, he⟩ := same o' ho'
    rw [← he]
    exact h.clear o ho (hs.trans hp)
  · intro o' p ho' hp
    obtain ⟨o, ho, hs, -⟩ := same o' ho'
    exact (h.pending o p ho (hs.trans hp)).keep ⟨o, ho, hs.trans hp⟩
  · intro o' p err ho' hp
    obtain ⟨o, ho, hs, he⟩ := same o' ho'
    have hpends : Happening.Pends i p ⟨w, e⟩ := ⟨o, ho, hs.trans hp⟩
    rw [← he, h.failed o p err ho (hs.trans hp), Failed, Since.concat_iff]
    constructor
    · intro hf
      exact Or.inr ⟨⟨hpends, hx p⟩, hf⟩
    · rintro (⟨-, -, hfails⟩ | ⟨-, hf⟩)
      · exact absurd hfails (hx p err)
      · exact hf

theorem Faulted.frame (ht : t.orchestrator i = w.sessions.orchestrator i) : Faulted (past ++ [⟨w, e⟩]) t i := by
  refine h.keep hx fun o ho => ?_
  exact ⟨o, ht.symm.trans ho, rfl, rfl⟩

theorem Faulted.of_update {q : Option Orchestrator} (ht : t.orchestrator = update w.sessions.orchestrator j q)
    (own : i = j → Faulted (past ++ [⟨w, e⟩]) t i) : Faulted (past ++ [⟨w, e⟩]) t i := by
  by_cases hij : i = j
  · exact own hij
  · exact h.frame hx (by rw [ht, update_of_ne hij])

theorem Faulted.change (ho : w.sessions.orchestrator j = some o)
    (ht : t.orchestrator = update w.sessions.orchestrator j (some o'))
    (hs : o.state.pending? = o'.state.pending?) (he : o.lastError = o'.lastError) :
    Faulted (past ++ [⟨w, e⟩]) t i := by
  refine h.of_update hx ht ?_
  rintro rfl
  refine h.keep hx fun q hq => ?_
  rw [ht, update_self] at hq
  cases hq
  exact ⟨o, ho, hs, he⟩

theorem Faulted.cleared {q : Option Orchestrator} (ht : t.orchestrator = update w.sessions.orchestrator j q)
    (hq : ∀ o, q = some o → o.state.pending? = none ∧ o.lastError = none) : Faulted (past ++ [⟨w, e⟩]) t i := by
  refine h.of_update hx ht ?_
  rintro rfl
  refine faulted_of_clear fun o ho => hq o ?_
  rwa [ht, update_self] at ho

end

/-! ### Moves -/

theorem submission?_of_attempt? {point : Waiting} (h : point.attempt? = some (i, p)) : point.submission? = none := by
  rcases Waiting.attempt?_eq_some h with ⟨_, _, rfl⟩ | ⟨_, _, _, rfl⟩ <;> rfl

theorem Sound.failed_attempt (hw : w.sessions.Sound) (hx : Happening.Fails i p err ⟨w, e⟩)
    (m : Move w.sessions e (w.step e).2 t) :
    ∃ o, w.sessions.orchestrator i = some o ∧ o.state.pending? = some p ∧
      t.orchestrator i = some (o.approvalFailed p err) := by
  obtain ⟨k, point, reply, hk, hp, rfl, hr⟩ := hx
  change (w.step (.answer k reply)).2 = _ at hr
  rw [hr] at m
  cases m with
  | answeredElsewhere hk' ho =>
    cases hk.symm.trans hk'
    cases (Waiting.orchestrator?_of_attempt? hp).symm.trans ho
  | submissionFailed hk' hs =>
    cases hk.symm.trans hk'
    cases (submission?_of_attempt? hp).symm.trans hs
  | attemptFailed hk' hp' ho h =>
    cases hk.symm.trans hk'
    cases hp.symm.trans hp'
    obtain ⟨hstate, -⟩ := hw.fits_attempt hk hp ho
    exact ⟨_, ho, by rw [hstate]; rfl, update_self ..⟩
  | signed hk' ho h hq =>
    rcases hq with hq | ⟨l, hq⟩ <;> cases hq

/-- An attempt to approve that is cancelled or dropped leaves its session pending, and the error as it was. -/
theorem Sound.abandoned_attempt {s : Sessions} (hs : s.Sound) {point : Waiting} (hk : s.task k = some point)
    (hp : point.attempt? = some (i, p)) (he : e = .cancel k ∨ e = .drop k) (ho : s.orchestrator i = some o)
    (m : Move s e r t) :
    ∃ o', t.orchestrator i = some o' ∧ o'.state.pending? = some p ∧ o'.lastError = o.lastError := by
  have htask : e.task? = some k := by rcases he with rfl | rfl <;> rfl
  have hstands : o.state.pending? = some p := by rw [(hs.fits_attempt hk hp ho).1]; rfl
  cases m with
  | absent h => cases hk.symm.trans (h k htask)
  | inUse h | refused h => cases h.symm.trans htask
  | unmoved => exact ⟨o, ho, hstands, rfl⟩
  | droppedElsewhere hk' ho' =>
    cases htask
    cases hk.symm.trans hk'
    cases (Waiting.orchestrator?_of_attempt? hp).symm.trans ho'
  | submissionDropped hk' hs' =>
    cases htask
    cases hk.symm.trans hk'
    cases (submission?_of_attempt? hp).symm.trans hs'
  | attemptDropped hk' hp' ho' | attemptCancelled hk' hp' _ ho' =>
    cases htask
    cases hk.symm.trans hk'
    cases hp.symm.trans hp'
    cases ho.symm.trans ho'
    exact ⟨_, update_self .., rfl, rfl⟩
  | loadDropped hk' =>
    cases htask
    cases hk.symm.trans hk'
    cases hp
  | newCache | newGate | made | forgotten | edited | formSet | discarded | leased | returned | begunElsewhere
  | answeredElsewhere | opRefused | submits | submitted | submissionFailed | approves | signs | attemptFailed
  | signed | loaded => rcases he with he | he <;> cases he

/-- Whatever happens, the past says which error there is. -/
theorem faulted_of_move (h : ∀ i, Faulted past w.sessions i) (hw : w.sessions.Sound)
    (hr : (w.step e).2 = r) (m : Move w.sessions e r t) (i : Nat) : Faulted (past ++ [⟨w, e⟩]) t i := by
  -- only an attempt that fails puts an error there; all other moves keep it with its session or take both away
  by_cases hfails : ∃ p err, Happening.Fails i p err ⟨w, e⟩
  · obtain ⟨p, err, hx⟩ := hfails
    obtain ⟨o, ho, hp, ht⟩ := hw.failed_attempt hx (hr ▸ m)
    exact (h i).failing ho hp ht hx
  · have hx : ∀ p err, ¬ Happening.Fails i p err ⟨w, e⟩ := fun p err hx => hfails ⟨p, err, hx⟩
    cases m with
    | newCache | newGate | absent | inUse | refused | unmoved | leased | returned | begunElsewhere
    | answeredElsewhere | droppedElsewhere | opRefused | signs | loaded | loadDropped => exact (h i).frame hx rfl
    | made | discarded =>
      refine (h i).cleared hx rfl ?_
      rintro _ ⟨⟩
      exact ⟨rfl, rfl⟩
    | forgotten =>
      refine (h i).cleared hx (q := none) rfl ?_
      rintro _ ⟨⟩
    | edited ho _ he | formSet ho _ he | submits _ ho _ he =>
      exact (h i).change hx ho rfl (SigningState.pending?_of_acceptsEdits he) rfl
    | @submitted k j reply point sub o p hk hs ho =>
      refine (h i).of_update hx rfl ?_
      rintro rfl
      obtain ⟨hstate, -⟩ := hw.fits_submission hk hs ho
      exact faulted_of_begins ho (congrArg _ hstate) (update_self ..) rfl rfl ⟨k, point, sub, reply, hk, hs, rfl, hr⟩
    | submissionFailed hk hs ho =>
      obtain ⟨hstate, -⟩ := hw.fits_submission hk hs ho
      exact (h i).change hx ho rfl (by rw [hstate]; rfl) rfl
    | @submissionDropped _ _ _ sub _ hk hs ho =>
      obtain ⟨hstate, -, -, he⟩ := hw.fits_submission hk hs ho
      have hprior : sub.prior.pending? = none := SigningState.pending?_of_acceptsEdits he
      exact (h i).change hx ho rfl ((congrArg SigningState.pending? hstate).trans hprior.symm) rfl
    | approves ho _ hstate => exact (h i).change hx ho rfl (by rw [hstate]; rfl) rfl
    | @attemptFailed k j reply point p o err hk hp ho =>
      refine (h i).of_update hx rfl ?_
      rintro rfl
      exact absurd ⟨k, point, reply, hk, hp, rfl, hr⟩ (hx p err)
    | attemptDropped hk hp ho | attemptCancelled hk hp _ ho =>
      obtain ⟨hstate, -⟩ := hw.fits_attempt hk hp ho
      exact (h i).change hx ho rfl (by rw [hstate]; rfl) rfl
    | signed =>
      refine (h i).cleared hx rfl ?_
      rintro _ ⟨⟩
      exact ⟨rfl, rfl⟩

end Sessions

namespace World
variable {past : List Happening} {w : World} {i : Nat} {o : Orchestrator}

theorem Ran.faulted (h : w.Ran past) : ∀ i, w.sessions.Faulted past i := by
  induction h with
  | initial =>
    refine fun i => Sessions.faulted_of_clear fun o ho => ?_
    cases ho
  | step e h ih => exact Sessions.faulted_of_move ih h.reachable.sound rfl (h.reachable.move e)

structure LastError (past : List Happening) (w : World) (i : Nat) (o : Orchestrator) : Prop where
  /-- There is one while a session is pending and an attempt to approve it has failed, and it is that of the last
      one that has. -/
  shown : ∀ err, o.lastError = some err ↔
    ∃ p, (o.state = .awaitingApproval p ∨ o.state = .signing p) ∧ Failed i p err past
  clear : (∀ p, o.state ≠ .awaitingApproval p ∧ o.state ≠ .signing p) → o.lastError = none
  opened : ∀ p, o.state = .awaitingApproval p ∨ o.state = .signing p → Pending i p past
  /-- An attempt that is cancelled or dropped leaves it as it is. -/
  abandoned : ∀ e k point p, w.task? k = some point → point.attempt? = some (i, p) →
    e = .cancel k ∨ e = .drop k →
    ∃ o', (w.step e).1.orchestrator? i = some o' ∧ (o'.state = .awaitingApproval p ∨ o'.state = .signing p) ∧
      o'.lastError = o.lastError

/-- In every run, the error that an orchestrator keeps is that of the last failed attempt to approve the session
    that is pending. -/
theorem Ran.last_error (h : w.Ran past) (ho : w.orchestrator? i = some o) : w.LastError past i o := by
  have hf := h.faulted i
  have clear : (∀ p, o.state ≠ .awaitingApproval p ∧ o.state ≠ .signing p) → o.lastError = none := by
    intro hstate
    refine hf.clear o ho (Option.eq_none_iff_forall_ne_some.mpr fun p hp => ?_)
    rcases SigningState.pending?_eq_some_iff.mp hp with hp | hp
    · exact (hstate p).1 hp
    · exact (hstate p).2 hp
  constructor
  · intro err
    constructor
    · intro herr
      cases hp : o.state.pending? with
      | none => cases (hf.clear o ho hp).symm.trans herr
      | some p => exact ⟨p, SigningState.pending?_eq_some_iff.mp hp, (hf.failed o p err ho hp).mp herr⟩
    · rintro ⟨p, hp, hfailed⟩
      exact (hf.failed o p err ho (SigningState.pending?_eq_some_iff.mpr hp)).mpr hfailed
  · exact clear
  · intro p hp
    exact hf.pending o p ho (SigningState.pending?_eq_some_iff.mpr hp)
  · intro e k point p hk hp he
    obtain ⟨o', ho', hp', herr⟩ := h.reachable.sound.abandoned_attempt hk hp he ho (h.reachable.move e)
    exact ⟨o', ho', SigningState.pending?_eq_some_iff.mp hp', herr⟩

end World

/-- Answers of an authenticator that has no credential. -/
def Reply.withoutCredential : Reply
  | .prompt (.use ..) => .error .noCredential
  | q => Reply.asserting q

/-- An approval finds no credential, and a second one is cancelled: the error of the first is still there. -/
theorem World.last_error_cancelled : ∃ past w o p, World.Ran past w ∧ w.orchestrator? 0 = some o ∧
    o.state = .awaitingApproval p ∧ o.lastError = some (.authenticator .noCredential) ∧
    Failed 0 p (.authenticator .noCredential) past := by
  have h := ((((((Ran.initial.step (.newOrchestrator ⟨⟨List.replicate 20 0, rfl⟩, 1⟩ none)).step
    (.start (.submit 0))).step (.answer 0 Reply.asserting)).step (.start (.approve 0 false))).step
    (.answer 1 Reply.withoutCredential)).step (.start (.approve 0 true))).step (.cancel 2)
  have hlast := h.last_error (i := 0) rfl
  obtain ⟨p, hp, hfailed⟩ := (hlast.shown (.authenticator .noCredential)).mp rfl
  exact ⟨_, _, _, p, h, rfl, hp.resolve_right (by rintro ⟨⟩), rfl, hfailed⟩

end PasskeySession
