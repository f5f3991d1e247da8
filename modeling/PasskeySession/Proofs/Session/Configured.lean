import PasskeySession.Http.Exchange
import PasskeySession.Proofs.Session.Approval
import PasskeySession.Proofs.Session.Atomic

/-! # What is approved is what was configured

A session is pending, being signed or signed for the form that its orchestrator still has: the form was submitted
as it is now, what it compiles to was sent, and the answer opened the session. The form changes only by an edit
that is accepted, and while a session is under way none is. -/

namespace PasskeySession
open Function (update update_self update_of_ne)

/-! ### Histories -/

/-- An event, with the world in which it happens. -/
structure Happening where
  world : World
  event : Event

def Happening.report (x : Happening) : Report := (x.world.step x.event).2

/-- What has happened so far, and the world that has come of it. -/
inductive World.Ran : List Happening → World → Prop
  | initial : Ran [] initial
  | step {past : List Happening} {w : World} (e : Event) (h : Ran past w) : Ran (past ++ [⟨w, e⟩]) (w.step e).1

theorem World.Ran.reachable {past : List Happening} {w : World} (h : w.Ran past) : w.Reachable := by
  induction h with
  | initial => exact .initial
  | step e _ ih => exact .step e ih

/-- Something happened, and in whatever has happened since it was still so. -/
def Since (now : List Happening → Happening → Prop) (still : Happening → Prop) (past : List Happening) : Prop :=
  ∃ before x since, past = before ++ x :: since ∧ now before x ∧ ∀ y ∈ since, still y

namespace Since
variable {now : List Happening → Happening → Prop} {still : Happening → Prop} {past : List Happening} {x : Happening}

theorem here (h : now past x) : Since now still (past ++ [x]) := ⟨past, x, [], rfl, h, by rintro _ ⟨⟩⟩

theorem keep (h : Since now still past) (hx : still x) : Since now still (past ++ [x]) := by
  obtain ⟨before, y, since, rfl, hy, hs⟩ := h
  refine ⟨before, y, since ++ [x], by simp, hy, fun z hz => ?_⟩
  rcases List.mem_append.mp hz with hz | hz
  · exact hs z hz
  · rw [List.mem_singleton.mp hz]
    exact hx

theorem concat_iff : Since now still (past ++ [x]) ↔ now past x ∨ still x ∧ Since now still past := by
  constructor
  · intro h
    obtain ⟨before, y, since, hpast, hy, hs⟩ := h
    rcases List.eq_nil_or_concat' since with rfl | ⟨later, z, rfl⟩
    · obtain ⟨rfl, hxy⟩ := List.append_inj' hpast rfl
      cases hxy
      exact Or.inl hy
    · rw [← List.cons_append, ← List.append_assoc] at hpast
      obtain ⟨rfl, hxz⟩ := List.append_inj' hpast rfl
      cases hxz
      obtain ⟨hlater, hx⟩ := List.forall_mem_append.mp hs
      exact Or.inr ⟨hx x List.mem_cons_self, before, y, later, rfl, hy, hlater⟩
  · intro h
    rcases h with hx | ⟨hx, h⟩
    · exact .here hx
    · exact h.keep hx

end Since

/-! ### From the form to the signature -/

namespace Happening

/-- An orchestrator has this form. -/
def HasForm (i : Nat) (f : PolicyForm) (x : Happening) : Prop := ∃ o, x.world.orchestrator? i = some o ∧ o.form = f

/-- An orchestrator has this form, and its submission waits for an answer. -/
def Waits (i k : Nat) (f : PolicyForm) (point : Waiting) (x : Happening) : Prop :=
  x.HasForm i f ∧ x.world.task? k = some point

/-- An orchestrator has this form and this pending session. -/
def Holds (i : Nat) (f : PolicyForm) (p : PendingSession) (x : Happening) : Prop :=
  ∃ o, x.world.orchestrator? i = some o ∧ o.form = f ∧ o.state.pending? = some p

/-- The form of an orchestrator is submitted, and what it compiles to is sent. -/
structure Submits (i k : Nat) (f : PolicyForm) (point : Waiting) (x : Happening) : Prop where
  event : x.event = .start (.submit i)
  report : x.report = .progress k (.waiting point)
  sends : ∃ o r, x.world.orchestrator? i = some o ∧ o.form = f ∧ point.question = .request r ∧
    r = .configure o.account f.compile.toConfig ∧
    r.body = some (.object (Request.accountMembers o.account ++ [("sessionConfigDto", f.compile.toConfig.toJson)]))

end Happening

/-- The form was submitted, by an operation that has waited for its answer since. -/
def Asked (i k : Nat) (f : PolicyForm) (point : Waiting) : List Happening → Prop :=
  Since (fun _ x => x.Submits i k f point) (Happening.Waits i k f point)

/-- The answer to a submission of the form opens the pending session. -/
structure Happening.Opens (i : Nat) (f : PolicyForm) (p : PendingSession) (before : List Happening) (x : Happening) :
    Prop where
  kind : p.kind = .sessionCreation
  report : ∃ k, x.report = .progress k (.done (.pending p))
  answers : ∃ k point reply a r, Asked i k f point before ∧ x.Waits i k f point ∧ x.event = .answer k reply ∧
    point.question = .request (.configure a f.compile.toConfig) ∧
    reply (.request (.configure a f.compile.toConfig)) = .ok r ∧ p.hash = r.hash ∧ p.passkeyId = r.passkeyId

/-- The session was opened for the form, and has been pending since. -/
def Opened (i : Nat) (f : PolicyForm) (p : PendingSession) : List Happening → Prop :=
  Since (Happening.Opens i f p) (Happening.Holds i f p)

/-- The backend takes the signature of a pending session that was opened for the form. -/
def Happening.Signs (i : Nat) (f : PolicyForm) (r : CreationReceipt) (before : List Happening) (x : Happening) :
    Prop :=
  ∃ k reply c a p g, Opened i f p before ∧ x.Holds i f p ∧ x.world.task? k = some (.sign i c a p g) ∧
    x.event = .answer k reply ∧
    p.kind.receiptOf (reply (.request (p.kind.signedRequest a p.hash g))) = .ok (.sessionCreation r)

/-- The session was signed for the form, which the orchestrator has had since. -/
def Signed (i : Nat) (f : PolicyForm) (r : CreationReceipt) : List Happening → Prop :=
  Since (Happening.Signs i f r) (Happening.HasForm i f)

/-! ### The invariant -/

namespace Sessions

/-- The past accounts for how an orchestrator stands, and for what it falls back to. -/
structure Accounted (past : List Happening) (s : Sessions) (i : Nat) : Prop where
  pending : ∀ o p, s.orchestrator i = some o → o.state.pending? = some p → p.kind = .sessionCreation →
    Opened i o.form p past
  signed : ∀ o r, s.orchestrator i = some o → o.state = .signed (.sessionCreation r) → Signed i o.form r past
  asked : ∀ o k sub a c, s.orchestrator i = some o → s.task k = some (.configure i sub a c) →
    c = o.form.compile.toConfig ∧ Asked i k o.form (.configure i sub a c) past
  prior : ∀ o k point sub r, s.orchestrator i = some o → s.task k = some point →
    point.submission? = some (i, sub) → sub.prior = .signed (.sessionCreation r) → Signed i o.form r past

variable {past : List Happening} {w : World} {t : Sessions} {e : Event} {r : Report} {i j k : Nat}
  {o o' : Orchestrator}

/-- No submission is on an orchestrator. -/
def Unsubmitted (s : Sessions) (i : Nat) : Prop :=
  ∀ k point sub, s.task k = some point → point.submission? ≠ some (i, sub)

theorem Idle.unsubmitted {s : Sessions} (h : s.Idle i) : s.Unsubmitted i := fun k point _ hk hs =>
  h k point hk (Waiting.orchestrator?_of_submission? hs)

theorem accounted_of_unsubmitted (h : t.Unsubmitted i)
    (hpending : ∀ o p, t.orchestrator i = some o → o.state.pending? = some p → p.kind = .sessionCreation →
      Opened i o.form p past)
    (hsigned : ∀ o r, t.orchestrator i = some o → o.state = .signed (.sessionCreation r) → Signed i o.form r past) :
    Accounted past t i where
  pending := hpending
  signed := hsigned
  asked _ k _ _ _ _ hk := absurd rfl (h k _ _ hk)
  prior _ k point _ _ _ hk hs := absurd hs (h k point _ hk)

/-- An orchestrator that takes edits and has signed nothing needs no past. -/
theorem accounted_of_open (h : t.Unsubmitted i) (ho : t.orchestrator i = some o) (he : o.state.acceptsEdits = true)
    (hs : ∀ r, o.state ≠ .signed (.sessionCreation r)) : Accounted past t i := by
  refine accounted_of_unsubmitted h (fun p q hp hq => ?_) (fun p r hp hr => ?_)
  · cases ho.symm.trans hp
    rw [SigningState.pending?_of_acceptsEdits he] at hq
    cases hq
  · cases ho.symm.trans hp
    exact absurd hr (hs r)

section
variable (h : Accounted past w.sessions i) (ho : w.sessions.orchestrator i = some o)
include h ho

theorem Accounted.keep_pending {p : PendingSession} (hp : o.state.pending? = some p)
    (hkind : p.kind = .sessionCreation) : Opened i o.form p (past ++ [⟨w, e⟩]) :=
  (h.pending o p ho hp hkind).keep ⟨o, ho, rfl, hp⟩

theorem Accounted.keep_signed {r : CreationReceipt} (hr : o.state = .signed (.sessionCreation r)) :
    Signed i o.form r (past ++ [⟨w, e⟩]) :=
  (h.signed o r ho hr).keep ⟨o, ho, rfl⟩

theorem Accounted.keep_prior {point : Waiting} {sub : Submission} {r : CreationReceipt}
    (hk : w.sessions.task k = some point) (hs : point.submission? = some (i, sub))
    (hr : sub.prior = .signed (.sessionCreation r)) : Signed i o.form r (past ++ [⟨w, e⟩]) :=
  (h.prior o k point sub r ho hk hs hr).keep ⟨o, ho, rfl⟩

end

/-- Nothing happens to an orchestrator or to a submission on it. -/
theorem Accounted.frame (h : Accounted past w.sessions i) (ho : t.orchestrator i = w.sessions.orchestrator i)
    (ht : ∀ k point sub, point.submission? = some (i, sub) → t.task k = some point → w.sessions.task k = some point) :
    Accounted (past ++ [⟨w, e⟩]) t i where
  pending o p hp := h.keep_pending (ho ▸ hp)
  signed o r hp := h.keep_signed (ho ▸ hp)
  asked o k sub a c hp hk := by
    have hk := ht k _ sub rfl hk
    obtain ⟨hc, asked⟩ := h.asked o k sub a c (ho ▸ hp) hk
    exact ⟨hc, asked.keep ⟨⟨o, ho.symm.trans hp, rfl⟩, hk⟩⟩
  prior o k point sub r hp hk hs := h.keep_prior (ho ▸ hp) (ht k point sub hs hk) hs

section
variable (h : ∀ j, Accounted past w.sessions j)
include h

/-- One orchestrator changes, and with it the operation that is on it. -/
theorem accounted_of_update {p : Option Orchestrator} {q : Option Waiting}
    (ho : t.orchestrator = update w.sessions.orchestrator i p) (ht : t.task = update w.sessions.task k q)
    (hq : ∀ point j sub, q = some point → point.submission? = some (j, sub) → j = i)
    (hi : Accounted (past ++ [⟨w, e⟩]) t i) : ∀ j, Accounted (past ++ [⟨w, e⟩]) t j := by
  intro j
  by_cases hj : j = i
  · exact hj ▸ hi
  · refine (h j).frame (by rw [ho, update_of_ne hj]) fun k' point sub hs hk' => ?_
    rw [ht] at hk'
    by_cases hk : k' = k
    · rw [hk, update_self] at hk'
      exact absurd (hq point j sub hk' hs) hj
    · rwa [update_of_ne hk] at hk'

/-- An operation goes on that is no submission. -/
theorem accounted_of_task {q : Option Waiting} (ho : t.orchestrator = w.sessions.orchestrator)
    (ht : t.task = update w.sessions.task k q) (hq : ∀ point ∈ q, point.submission? = none) :
    ∀ j, Accounted (past ++ [⟨w, e⟩]) t j := by
  intro j
  refine (h j).frame (by rw [ho]) fun k' point sub hs hk' => ?_
  rw [ht] at hk'
  by_cases hk : k' = k
  · rw [hk, update_self] at hk'
    rw [hq point hk'] at hs
    cases hs
  · rwa [update_of_ne hk] at hk'

/-- An operation begins on an orchestrator that nothing is on, and changes its state. -/
theorem accounted_of_begin {point : Waiting} (idle : w.sessions.Idle i) (hi : point.orchestrator? = some i)
    (ho : t.orchestrator = update w.sessions.orchestrator i (some o'))
    (ht : t.task = update w.sessions.task w.sessions.begun (some point))
    (hpending : ∀ p, o'.state.pending? = some p → p.kind = .sessionCreation → Opened i o'.form p (past ++ [⟨w, e⟩]))
    (hsigned : ∀ r, o'.state ≠ .signed (.sessionCreation r))
    (hasked : ∀ sub a c, point = .configure i sub a c → c = o'.form.compile.toConfig ∧
      Asked i w.sessions.begun o'.form (.configure i sub a c) (past ++ [⟨w, e⟩]))
    (hprior : ∀ sub r, point.submission? = some (i, sub) → sub.prior = .signed (.sessionCreation r) →
      Signed i o'.form r (past ++ [⟨w, e⟩])) : ∀ j, Accounted (past ++ [⟨w, e⟩]) t j := by
  have here : t.orchestrator i = some o' := by rw [ho, update_self]
  have only : ∀ k q, t.task k = some q → q.orchestrator? = some i → k = w.sessions.begun ∧ q = point := by
    intro k q hk hq
    rw [ht] at hk
    by_cases hk' : k = w.sessions.begun
    · rw [hk', update_self] at hk
      exact ⟨hk', (Option.some.inj hk).symm⟩
    · rw [update_of_ne hk'] at hk
      exact absurd hq (idle k q hk)
  refine accounted_of_update h ho ht ?_ ⟨?_, ?_, ?_, ?_⟩
  · rintro _ j sub ⟨⟩ hsub
    exact Option.some.inj ((Waiting.orchestrator?_of_submission? hsub).symm.trans hi)
  · intro o p hp
    cases here.symm.trans hp
    exact hpending p
  · intro o r hp hr
    cases here.symm.trans hp
    exact absurd hr (hsigned r)
  · intro o k sub a c hp hk
    cases here.symm.trans hp
    obtain ⟨rfl, hq⟩ := only k _ hk rfl
    exact hasked sub a c hq.symm
  · intro o k q sub r hp hk hsub hr
    cases here.symm.trans hp
    obtain ⟨rfl, rfl⟩ := only k q hk (Waiting.orchestrator?_of_submission? hsub)
    exact hprior sub r hsub hr

variable (hw : w.sessions.Sound)
include hw

/-- An orchestrator that nothing is on changes by itself. -/
theorem accounted_of_idle {p : Option Orchestrator} (ho : t.orchestrator = update w.sessions.orchestrator i p)
    (ht : t.task = w.sessions.task) (hi : Accounted (past ++ [⟨w, e⟩]) t i) :
    ∀ j, Accounted (past ++ [⟨w, e⟩]) t j :=
  accounted_of_update h ho (ht.trans hw.task_same) (by rintro _ _ _ ⟨⟩) hi

/-- An operation that is on an orchestrator ends, or goes on as no submission. -/
theorem accounted_of_end {point : Waiting} {q : Option Waiting} (hk : w.sessions.task k = some point)
    (hi : point.orchestrator? = some i) (ho : t.orchestrator = update w.sessions.orchestrator i (some o'))
    (ht : t.task = update w.sessions.task k q) (hq : ∀ point ∈ q, point.submission? = none)
    (hpending : ∀ p, o'.state.pending? = some p → p.kind = .sessionCreation → Opened i o'.form p (past ++ [⟨w, e⟩]))
    (hsigned : ∀ r, o'.state = .signed (.sessionCreation r) → Signed i o'.form r (past ++ [⟨w, e⟩])) :
    ∀ j, Accounted (past ++ [⟨w, e⟩]) t j := by
  have hnone : ∀ point' j sub, q = some point' → point'.submission? = some (j, sub) → j = i := by
    intro point' j sub hp hs
    rw [hq point' hp] at hs
    cases hs
  refine accounted_of_update h ho ht hnone (accounted_of_unsubmitted ?_ ?_ ?_)
  · intro k' point' sub hk' hs
    rw [ht] at hk'
    by_cases hkk : k' = k
    · rw [hkk, update_self] at hk'
      rw [hq point' hk'] at hs
      cases hs
    · rw [update_of_ne hkk] at hk'
      exact hkk ((hw.settled i).alone k' k point' point hk' hk (Waiting.orchestrator?_of_submission? hs) hi)
  · intro o p hp
    rw [ho, update_self] at hp
    cases hp
    exact hpending p
  · intro o r hp
    rw [ho, update_self] at hp
    cases hp
    exact hsigned r

end

theorem submission?_of_elsewhere {point : Waiting} (h : point.orchestrator? = none) : point.submission? = none := by
  cases point <;> first | rfl | cases h

/-- The receipt of a new session is that of a pending session that is one. -/
theorem kind_of_receiptOf {kind : PendingKind} {a : Account} {hash : OperationHash} {g : EncodedSignature}
    {answer : (kind.signedRequest a hash g).Answer} {r : CreationReceipt}
    (h : kind.receiptOf answer = .ok (.sessionCreation r)) : kind = .sessionCreation := by
  cases kind with
  | sessionCreation => rfl
  | userOperation u => cases answer <;> cases h

/-- Whatever happens, the past accounts for it. -/
theorem accounted_of_move (h : ∀ j, Accounted past w.sessions j) (hw : w.sessions.Sound)
    (hr : (w.step e).2 = r) (m : Move w.sessions e r t) : ∀ j, Accounted (past ++ [⟨w, e⟩]) t j := by
  cases m with
  | newCache | newGate | absent | inUse | refused | unmoved | leased | returned =>
    exact fun j => (h j).frame rfl fun _ _ _ _ hk => hk
  | begunElsewhere _ hp | answeredElsewhere _ _ hp =>
    exact accounted_of_task h rfl rfl fun q hq => submission?_of_elsewhere (hp q hq)
  | droppedElsewhere | opRefused | loaded | loadDropped => exact accounted_of_task h rfl rfl (by rintro _ ⟨⟩)
  | signs =>
    refine accounted_of_task h rfl rfl ?_
    rintro _ ⟨⟩
    rfl
  | made =>
    exact accounted_of_idle h hw rfl rfl
      (accounted_of_open hw.idle_made.unsubmitted (update_self ..) rfl (by rintro _ ⟨⟩))
  | @forgotten i o ho idle =>
    have gone : update w.sessions.orchestrator i none i = none := update_self ..
    refine accounted_of_idle h hw rfl rfl (accounted_of_unsubmitted idle.unsubmitted ?_ ?_)
    · intro p _ hp
      cases gone.symm.trans hp
    · intro p _ hp
      cases gone.symm.trans hp
  | edited ho idle | formSet ho idle | discarded ho idle =>
    exact accounted_of_idle h hw rfl rfl (accounted_of_open idle.unsubmitted (update_self ..) rfl (by rintro _ ⟨⟩))
  | @submits op i o u point hop ho idle he hfree hp =>
    have hs := hp.submission? hop
    refine accounted_of_begin h idle (Waiting.orchestrator?_of_submission? hs) rfl rfl (by rintro _ ⟨⟩)
      (by rintro _ ⟨⟩) ?_ ?_
    · rintro sub a c rfl
      cases hp with
      | configure => exact ⟨rfl, .here ⟨rfl, hr, o, _, ho, rfl, rfl, rfl, rfl⟩⟩
    · intro sub r hsub hprior
      cases hs.symm.trans hsub
      exact (h i).keep_signed ho hprior
  | @submitted k i reply point sub o p hk hs ho hopens =>
    refine accounted_of_end h hw hk (Waiting.orchestrator?_of_submission? hs) rfl rfl (by rintro _ ⟨⟩) ?_
      (by rintro _ ⟨⟩)
    rintro _ ⟨⟩ hkind
    cases hopens with
    | configured hreply =>
      cases hs
      obtain ⟨rfl, asked⟩ := (h _).asked o k _ _ _ ho hk
      exact .here ⟨rfl, ⟨k, hr⟩, k, _, reply, _, _, asked, ⟨⟨o, ho, rfl⟩, hk⟩, rfl, rfl, hreply, rfl, rfl⟩
    | prepared => cases hkind
  | submissionFailed hk hs ho =>
    exact accounted_of_end h hw hk (Waiting.orchestrator?_of_submission? hs) rfl rfl (by rintro _ ⟨⟩)
      (by rintro _ ⟨⟩) (by rintro _ ⟨⟩)
  | submissionDropped hk hs ho =>
    obtain ⟨-, -, -, he⟩ := hw.fits_submission hk hs ho
    refine accounted_of_end h hw hk (Waiting.orchestrator?_of_submission? hs) rfl rfl (by rintro _ ⟨⟩) ?_ ?_
    · intro p hp
      rw [Orchestrator.submissionDropped, SigningState.pending?_of_acceptsEdits he] at hp
      cases hp
    · exact fun r hprior => (h _).keep_prior ho hk hs hprior
  | approves ho idle hstate =>
    refine accounted_of_begin h idle rfl rfl rfl ?_ (by rintro _ ⟨⟩) (by rintro _ _ _ ⟨⟩) (by rintro _ _ ⟨⟩)
    rintro _ ⟨⟩
    exact (h _).keep_pending ho (by rw [hstate]; rfl)
  | attemptFailed hk hp ho | attemptDropped hk hp ho | attemptCancelled hk hp _ ho =>
    obtain ⟨hstate, -⟩ := hw.fits_attempt hk hp ho
    refine accounted_of_end h hw hk (Waiting.orchestrator?_of_attempt? hp) rfl rfl (by rintro _ ⟨⟩) ?_
      (by rintro _ ⟨⟩)
    rintro _ ⟨⟩
    exact (h _).keep_pending ho (by rw [hstate]; rfl)
  | @signed k i reply c a p g o receipt q hk ho hreceipt hq =>
    obtain ⟨hstate, -⟩ := hw.fits_attempt hk rfl ho
    have hpending : o.state.pending? = some p := by rw [hstate]; rfl
    refine accounted_of_end h hw hk rfl rfl rfl ?_ (by rintro _ ⟨⟩) ?_
    · rintro point hpoint
      rcases hq with rfl | ⟨l, rfl⟩
      · cases hpoint
      · cases hpoint
        rfl
    · rintro r ⟨⟩
      have opened := (h i).pending o p ho hpending (kind_of_receiptOf hreceipt)
      exact .here ⟨k, reply, c, a, p, g, opened, ⟨o, ho, rfl, hpending⟩, hk, rfl, hreceipt⟩

end Sessions

theorem World.Ran.accounted {past : List Happening} {w : World} (h : w.Ran past) :
    ∀ i, w.sessions.Accounted past i := by
  induction h with
  | initial =>
    have none : ∀ i o, World.initial.sessions.orchestrator i ≠ some o := fun _ _ h => by cases h
    exact fun i => ⟨fun o _ ho => absurd ho (none i o), fun o _ ho => absurd ho (none i o),
      fun o _ _ _ _ ho => absurd ho (none i o), fun o _ _ _ _ ho => absurd ho (none i o)⟩
  | step e h ih => exact Sessions.accounted_of_move ih h.reachable.sound rfl (h.reachable.move e)

/-! ### Edits -/

namespace Event

/-- The orchestrator whose form an event is to change. -/
def edits? : Event → Option Nat
  | edit i _ => some i
  | setForm i _ => some i
  | _ => none

end Event

/-- The form of an orchestrator after an event: another one if the event is an edit that is accepted, and else the
    same. -/
inductive FormAfter (i : Nat) (o : Orchestrator) : Event → Report → PolicyForm → Prop
  | same {e : Event} {r : Report} : FormAfter i o e r o.form
  | edited {ed : Edit} {f : PolicyForm} {token : Option TokenPolicy} (he : o.state.acceptsEdits = true)
    (h : ed.change o.form = .ok (f, token)) : FormAfter i o (.edit i ed) (.edited (.ok token)) f
  | replaced {f : PolicyForm} (he : o.state.acceptsEdits = true) : FormAfter i o (.setForm i f) .done f

namespace Sessions
variable {s t : Sessions} {e : Event} {r : Report} {i j : Nat} {o p : Orchestrator}

theorem formAfter_of_same (ho : s.orchestrator i = some o) (hp : s.orchestrator i = some p) :
    FormAfter i o e r p.form := by
  cases ho.symm.trans hp
  exact .same

/-- One orchestrator changes; the others have the form that they had. -/
theorem formAfter_of_update {q : Option Orchestrator} (ho : s.orchestrator i = some o)
    (ht : t.orchestrator = update s.orchestrator j q) (hp : t.orchestrator i = some p)
    (own : i = j → q = some p → FormAfter i o e r p.form) : FormAfter i o e r p.form := by
  rw [ht] at hp
  by_cases hij : i = j
  · rw [hij, update_self] at hp
    exact own hij hp
  · rw [update_of_ne hij] at hp
    exact formAfter_of_same ho hp

/-- One orchestrator changes, but not its form. -/
theorem formAfter_of_kept {q q' : Orchestrator} (ho : s.orchestrator i = some o) (hq : s.orchestrator j = some q)
    (ht : t.orchestrator = update s.orchestrator j (some q')) (hf : q'.form = q.form)
    (hp : t.orchestrator i = some p) : FormAfter i o e r p.form := by
  refine formAfter_of_update ho ht hp fun hij hq' => ?_
  cases hij
  cases hq'
  cases ho.symm.trans hq
  exact hf ▸ .same

theorem Sound.formAfter (h : s.Sound) (m : Move s e r t) (ho : s.orchestrator i = some o)
    (hp : t.orchestrator i = some p) : FormAfter i o e r p.form := by
  cases m with
  | newCache | newGate | absent | inUse | refused | unmoved | leased | returned | begunElsewhere
  | answeredElsewhere | droppedElsewhere | opRefused | signs | loaded | loadDropped => exact formAfter_of_same ho hp
  | made => exact formAfter_of_update ho rfl hp fun hi _ => absurd hi (Nat.ne_of_lt (h.orchestrator_lt ho))
  | forgotten => exact formAfter_of_update ho rfl hp fun _ hq => by cases hq
  | @edited _ _ _ result _ hq _ he hok herr =>
    refine formAfter_of_update ho rfl hp fun hi hq' => ?_
    cases hi
    cases hq'
    cases ho.symm.trans hq
    cases result with
    | ok token => exact .edited he (hok token rfl)
    | error err => exact herr err rfl ▸ .same
  | formSet hq _ he =>
    refine formAfter_of_update ho rfl hp fun hi hq' => ?_
    cases hi
    cases hq'
    cases ho.symm.trans hq
    exact .replaced he
  | discarded hq | submits _ hq | submitted _ _ hq | submissionFailed _ _ hq | submissionDropped _ _ hq
  | approves hq | attemptFailed _ _ hq | attemptDropped _ _ hq | attemptCancelled _ _ _ hq | signed _ hq =>
    exact formAfter_of_kept ho hq rfl (by rfl) hp

end Sessions

namespace World
variable {past : List Happening} {w : World} {i : Nat} {o : Orchestrator}

theorem onOrchestrator_refused {f : Orchestrator → World × Report} {e : ClientError} (ho : w.orchestrator? i = some o)
    (hf : f o = (w, .refused e)) : (w.onOrchestrator i f).1 = w ∧
      ((w.onOrchestrator i f).2 = .inUse ∨ (w.onOrchestrator i f).2 = .refused e) := by
  rw [onOrchestrator, ho]
  dsimp only
  by_cases hused : w.inUse i = true
  · rw [if_pos hused]
    exact ⟨rfl, Or.inl rfl⟩
  · rw [if_neg hused, hf]
    exact ⟨rfl, Or.inr rfl⟩

/-- An edit that does not find the form open changes nothing at all. -/
theorem edit_refused {e : Event} {err : ClientError} (ho : w.orchestrator? i = some o) (he : e.edits? = some i)
    (hopen : o.openForm = .error err) :
    (w.step e).1 = w ∧ ((w.step e).2 = .inUse ∨ (w.step e).2 = .refused err) := by
  cases e with
  | edit j ed =>
    cases he
    exact onOrchestrator_refused ho (by rw [editForm, hopen])
  | setForm j f =>
    cases he
    exact onOrchestrator_refused ho (by rw [setForm, hopen])
  | _ => cases he

/-- What an orchestrator has to approve is what its form says. -/
structure AsConfigured (past : List Happening) (w : World) (i : Nat) (o : Orchestrator) : Prop where
  /-- A new session that waits for its approval, or is being signed, was opened for the form as it is. -/
  approved : ∀ p, o.state = .awaitingApproval p ∨ o.state = .signing p → p.kind = .sessionCreation →
    Opened i o.form p past
  /-- A new session that was signed was so for the form as it is, until the form is edited. -/
  signed : ∀ r, o.state = .signed (.sessionCreation r) → Signed i o.form r past
  /-- While a session is under way, edits are refused and change nothing. -/
  refused : (o.state = .submitting ∨ ∃ p, o.state = .awaitingApproval p ∨ o.state = .signing p) →
    o.openForm = .error (o.refusal "edit policies") ∧ ∀ e : Event, e.edits? = some i →
      (w.step e).1 = w ∧ ((w.step e).2 = .inUse ∨ (w.step e).2 = .refused (o.refusal "edit policies"))
  /-- Nothing else changes the form but an edit that is accepted. -/
  kept : ∀ e p, (w.step e).1.orchestrator? i = some p → FormAfter i o e (w.step e).2 p.form

/-- In every run, what is approved is what was configured. -/
theorem Ran.as_configured (h : w.Ran past) (ho : w.orchestrator? i = some o) : w.AsConfigured past i o := by
  have accounted := h.accounted i
  refine ⟨fun p hp hkind => accounted.pending o p ho ?_ hkind, fun r hr => accounted.signed o r ho hr,
    fun hstate => ?_, fun e p hp => h.reachable.sound.formAfter (h.reachable.move e) ho hp⟩
  · rcases hp with hp | hp <;> rw [hp] <;> rfl
  · have hclosed : o.state.acceptsEdits = false := by
      rcases hstate with hs | ⟨p, hs | hs⟩ <;> rw [hs] <;> rfl
    have hopen : o.openForm = .error (o.refusal "edit policies") := by
      rw [Orchestrator.openForm, hclosed]
      rfl
    exact ⟨hopen, fun e he => edit_refused ho he hopen⟩

/-- A form is edited and submitted, and its session waits for its approval. -/
theorem as_configured_submitted : ∃ past w o p, World.Ran past w ∧ w.orchestrator? 0 = some o ∧
    o.state = .awaitingApproval p ∧ o.form.unrestricted = true ∧ Opened 0 o.form p past := by
  have h := ((((Ran.initial.step (.newOrchestrator ⟨⟨List.replicate 20 0, rfl⟩, 1⟩ none)).step
    (.edit 0 (.unrestricted true))).step (.start (.submit 0))).step (.answer 0 Reply.asserting))
  exact ⟨_, _, _, _, h, rfl, rfl, rfl, (h.as_configured rfl).approved _ (Or.inl rfl) rfl⟩

end World
end PasskeySession
