import PasskeySession.Proofs.Session.Move

/-! # Each step is a move

What `World.step` does to what sessions see, event by event: `World.move` gives the move that it makes. -/

namespace PasskeySession

namespace World
variable {w v : World} {i k : Nat}

/-! ### Operations elsewhere -/

theorem finished_elsewhere {r : Except ClientError Outcome} :
    ∀ q ∈ (Progress.finished r).entry, q.orchestrator? = none :=
  fun q hq => absurd hq (Option.not_mem_none q)

theorem awaitLoad_elsewhere {r : Except ClientError (CacheLoad × World)}
    (h : ∀ l v, r = .ok (l, v) → v.sessions = w.sessions) :
    (w.awaitLoad r).1.sessions = w.sessions ∧ ∀ q ∈ (w.awaitLoad r).2.entry, q.orchestrator? = none := by
  unfold awaitLoad
  split
  · refine ⟨h _ _ rfl, ?_⟩
    rintro _ ⟨⟩
    rfl
  · exact ⟨rfl, finished_elsewhere⟩

theorem afterToggle_elsewhere {active : Bool} :
    (w.afterToggle i active).1.sessions = w.sessions ∧
      ∀ q ∈ (w.afterToggle i active).2.entry, q.orchestrator? = none := by
  unfold afterToggle
  dsimp only
  split
  · exact ⟨rfl, finished_elsewhere⟩
  · split
    · rename_i hl
      refine ⟨sessions_startLoad (w := w.modifyGate i (·.toggled active)) hl, ?_⟩
      rintro _ ⟨⟩
      rfl
    · exact ⟨rfl, finished_elsewhere⟩

theorem beginToggle_elsewhere (w : World) (i : Nat) (g : AccessGate) (active : Bool) :
    (w.beginToggle i g active).1.sessions = w.sessions ∧
      ∀ q ∈ (w.beginToggle i g active).2.entry, q.orchestrator? = none := by
  unfold beginToggle
  split
  · exact ⟨rfl, finished_elsewhere⟩
  · refine ⟨rfl, ?_⟩
    rintro _ ⟨⟩
    rfl

theorem start_elsewhere {op : Operation} {p : Progress} (hop : op.orchestrator? = none)
    (h : w.start op = some (v, p)) : v.sessions = w.sessions ∧ ∀ q ∈ p.entry, q.orchestrator? = none := by
  have waits : ∀ point : Waiting, point.orchestrator? = none →
      ∀ q ∈ (Progress.waiting point).entry, q.orchestrator? = none := by
    rintro point hp _ ⟨⟩
    exact hp
  cases op with
  | submit | prepare | approve => cases hop
  | createCredential | requestAssertion | register | login | sign =>
    cases h
    exact ⟨rfl, waits _ rfl⟩
  | fetch c a =>
    obtain ⟨_, -, hq⟩ := Option.map_eq_some_iff.mp h
    have he := awaitLoad_elsewhere (w := w) fun l v => sessions_startFetch (c := c) (a := a) (l := l) (v := v)
    rwa [hq] at he
  | refresh c =>
    obtain ⟨_, -, hq⟩ := Option.map_eq_some_iff.mp h
    have he := awaitLoad_elsewhere (w := w) fun l v => sessions_startLoad (c := c) (l := l) (v := v)
    rwa [hq] at he
  | toggle g active =>
    obtain ⟨gate, -, hq⟩ := Option.map_eq_some_iff.mp h
    have he := beginToggle_elsewhere w g gate active
    rwa [hq] at he

theorem proceed_elsewhere {r : Except ClientError Waiting} (h : ∀ q, r = .ok q → q.orchestrator? = none) :
    (w.proceed r).1.sessions = w.sessions ∧ ∀ q ∈ (w.proceed r).2.entry, q.orchestrator? = none := by
  unfold proceed
  split
  · refine ⟨rfl, ?_⟩
    rintro _ ⟨⟩
    exact h _ rfl
  · exact ⟨rfl, finished_elsewhere⟩

theorem registration_eq_ok {c : PasskeyChallenge} {username : String} {q : Waiting}
    (h : c.registration username = .ok q) : ∃ name bytes, q = .registerPrompt name bytes := by
  unfold PasskeyChallenge.registration at h
  cases hb : c.bytes with
  | error e =>
    rw [hb] at h
    cases h
  | ok bytes =>
    cases hn : c.nameFor username with
    | error e =>
      rw [hb, hn] at h
      cases h
    | ok name =>
      rw [hb, hn] at h
      cases h
      exact ⟨name, bytes, rfl⟩

theorem discovery_eq_ok {c : PasskeyChallenge} {q : Waiting} (h : c.discovery = .ok q) :
    ∃ bytes, q = .loginPrompt bytes := by
  unfold PasskeyChallenge.discovery at h
  cases hb : c.bytes with
  | error e =>
    rw [hb] at h
    cases h
  | ok bytes =>
    rw [hb] at h
    cases h
    exact ⟨bytes, rfl⟩

theorem resume_elsewhere {point : Waiting} (ho : point.orchestrator? = none) (answer : point.question.Answer) :
    (w.resume point answer).1.sessions = w.sessions ∧
      ∀ q ∈ (w.resume point answer).2.entry, q.orchestrator? = none := by
  cases point with
  | configure | prepare | approve | sign | signed => cases ho
  | create | use | signHash | registerVerify | loginVerify =>
    simp only [resume]
    exact ⟨trivial, finished_elsewhere⟩
  | registerChallenge username =>
    refine proceed_elsewhere fun q hq => ?_
    cases answer with
    | error e => cases hq
    | ok c =>
      simp only [Except.bind] at hq
      obtain ⟨_, _, rfl⟩ := registration_eq_ok hq
      rfl
  | loginChallenge =>
    refine proceed_elsewhere fun q hq => ?_
    cases answer with
    | error e => cases hq
    | ok c =>
      simp only [Except.bind] at hq
      obtain ⟨_, rfl⟩ := discovery_eq_ok hq
      rfl
  | registerPrompt =>
    refine proceed_elsewhere fun q hq => ?_
    cases answer <;> cases hq
    rfl
  | loginPrompt =>
    refine proceed_elsewhere fun q hq => ?_
    cases answer <;> cases hq
    rfl
  | load l => exact ⟨sessions_answerLoad, finished_elsewhere⟩
  | toggle i a url active =>
    cases answer with
    | error e => exact ⟨rfl, finished_elsewhere⟩
    | ok _ => exact afterToggle_elsewhere
  | toggled i active l => exact ⟨sessions_answerLoad, finished_elsewhere⟩

theorem abandon_elsewhere {point : Waiting} (ho : point.orchestrator? = none) :
    (w.abandon point).sessions = w.sessions := by
  cases point <;> first | rfl | cases ho

/-! ### Operations on orchestrators -/

theorem begin_sessions {s : Sessions} {t : Option Waiting} (h : v.sessions = s) :
    { v with tasks := v.tasks ++ [t] }.sessions = s.begin t := h ▸ sessions_addTask

theorem move_beginSubmission {op : Operation} {name : String} {o : Orchestrator} {ask : Submission → Waiting}
    (hop : op.submits? = some name) (hi : op.orchestrator? = some i) (ho : w.orchestrator? i = some o)
    (idle : w.sessions.Idle i) (hask : ∀ s, Waiting.Asks o s op (ask s)) {p : Progress}
    (h : w.beginSubmission i o name ask = (v, p)) :
    Move w.sessions (.start op) (.progress v.tasks.length p) { v with tasks := v.tasks ++ [p.entry] }.sessions := by
  unfold beginSubmission Orchestrator.beginSubmission at h
  by_cases he : o.state.acceptsEdits = true
  · rw [if_pos he] at h
    cases hslot : w.registry.token? o.account with
    | some t =>
      obtain ⟨q, hq, htoken⟩ := Registry.acquire_of_held hslot
      rw [hq] at h
      cases h
      have hv : { w with registry := q }.sessions = w.sessions := Sessions.ext rfl rfl rfl htoken rfl rfl
      rw [begin_sessions hv]
      exact .opRefused hi ho idle (.busy hop he hslot)
    | none =>
      obtain ⟨q, hq, htoken⟩ := Registry.acquire_of_free hslot
      rw [hq] at h
      cases h
      have hv : { w with registry := q }.sessions = w.sessions.setSlot o.account (some w.registry.nextToken) :=
        Sessions.ext rfl rfl rfl htoken rfl rfl
      have ho' : { w with registry := q }.orchestrator? i = some o := ho
      rw [begin_sessions (sessions_setOrchestrator ho'), hv]
      exact .submits hi ho idle he hslot (hask _)
  · rw [if_neg he] at h
    cases h
    rw [sessions_addTask]
    exact .opRefused hi ho idle (.notNow hop (by simpa using he))

theorem move_beginApproval {c : Bool} {o : Orchestrator} (ho : w.orchestrator? i = some o)
    (idle : w.sessions.Idle i) {p : Progress} (h : w.beginApproval i o c = (v, p)) :
    Move w.sessions (.start (.approve i c)) (.progress v.tasks.length p)
      { v with tasks := v.tasks ++ [p.entry] }.sessions := by
  unfold beginApproval Orchestrator.beginApproval at h
  cases hs : o.state with
  | awaitingApproval pending =>
    simp only [hs] at h
    cases h
    rw [begin_sessions (sessions_setOrchestrator ho)]
    exact .approves ho idle hs
  | idle | configuring | submitting | signing _ | signed _ | failed _ =>
    simp only [hs] at h
    cases h
    rw [sessions_addTask]
    exact .opRefused rfl ho idle (.nothingPending fun p hp => by rw [hs] at hp; cases hp)

theorem move_begin (op : Operation) : Move w.sessions (.start op) (w.begin op).2 (w.begin op).1.sessions := by
  unfold begin
  split
  · exact .inUse rfl
  rename_i huse
  have idle : ∀ i, op.orchestrator? = some i → w.sessions.Idle i := fun i hi =>
    inUse_eq_false_iff.mp (by simpa [hi] using huse)
  split
  · exact .absent nofun
  rename_i v p hstart
  dsimp only
  cases op with
  | submit i =>
    obtain ⟨o, ho, h⟩ := Option.map_eq_some_iff.mp hstart
    exact move_beginSubmission rfl rfl ho (idle i rfl) (fun _ => .configure) h
  | prepare i calls id =>
    obtain ⟨o, ho, h⟩ := Option.map_eq_some_iff.mp hstart
    exact move_beginSubmission rfl rfl ho (idle i rfl) (fun _ => .prepare) h
  | approve i c =>
    obtain ⟨o, ho, h⟩ := Option.map_eq_some_iff.mp hstart
    exact move_beginApproval ho (idle i rfl) h
  | createCredential | requestAssertion | register | login | sign | fetch | refresh | toggle =>
    obtain ⟨hv, hp⟩ := start_elsewhere rfl hstart
    rw [begin_sessions hv, show v.tasks.length = w.sessions.begun from congrArg Sessions.begun hv]
    exact .begunElsewhere rfl hp

theorem afterApproval_cases (w : World) (i : Nat) (o : Orchestrator) (kind : PendingKind) (r : Receipt) :
    (w.afterApproval i o kind r).1.sessions = w.sessions ∧
      ((w.afterApproval i o kind r).2 = .done (.receipt r) ∨
        ∃ l, (w.afterApproval i o kind r).2 = .waiting (.signed i r l)) := by
  unfold afterApproval
  split
  · split
    · rename_i hl
      exact ⟨sessions_startFetch hl, Or.inr ⟨_, rfl⟩⟩
    · exact ⟨rfl, Or.inl rfl⟩
  · exact ⟨rfl, Or.inl rfl⟩

theorem sessions_modifyRelease {o : Orchestrator} {f : Orchestrator → Orchestrator} {l : Option Lease}
    (h : w.orchestrator? i = some o) :
    ((w.modifyOrchestrator i f).release l).sessions = (w.sessions.setOrchestrator i (some (f o))).giveBack l := by
  rw [sessions_release, sessions_modifyOrchestrator h]

/-- The world after an operation has gone on. -/
def goOn (k : Nat) (r : World × Progress) : World := { r.1 with tasks := r.1.tasks.set k r.2.entry }

/-- An operation that goes on keeps its number. -/
theorem sessions_goOn {s : Sessions} {point : Waiting} {p : Progress} (h : v.sessions = s)
    (hk : s.task k = some point) : (goOn k (v, p)).sessions = s.setTask k p.entry := by
  subst h
  exact sessions_setTask hk

section
variable {point : Waiting} {reply : Reply} {o : Orchestrator}

theorem move_endSubmission {s : Submission} {r : Except ClientError PendingSession}
    (hk : w.task? k = some point) (hs : point.submission? = some (i, s)) (ho : w.orchestrator? i = some o)
    (h : point.Opens reply r) :
    Move w.sessions (.answer k reply) (.progress k (w.endSubmission i s r).2)
      (goOn k (w.endSubmission i s r)).sessions := by
  cases r with
  | ok p =>
    simp only [endSubmission]
    rw [sessions_goOn (sessions_modifyOrchestrator ho) hk]
    exact .submitted hk hs ho h
  | error e =>
    simp only [endSubmission]
    rw [sessions_goOn (sessions_modifyRelease ho) hk]
    exact .submissionFailed hk hs ho h

theorem move_attemptFailed {p : PendingSession} {e : ClientError} (hk : w.task? k = some point)
    (hp : point.attempt? = some (i, p)) (ho : w.orchestrator? i = some o) (h : point.Fails reply e) :
    Move w.sessions (.answer k reply) (.progress k (.failed e))
      (goOn k (w.modifyOrchestrator i (·.approvalFailed p e), .failed e)).sessions := by
  rw [sessions_goOn (sessions_modifyOrchestrator ho) hk]
  exact .attemptFailed hk hp ho h

theorem move_resume (manned : w.sessions.Manned) (hk : w.task? k = some point) :
    Move w.sessions (.answer k reply) (.progress k (w.resume point (reply point.question)).2)
      (goOn k (w.resume point (reply point.question))).sessions := by
  cases ho? : point.orchestrator? with
  | none =>
    obtain ⟨hv, hp⟩ := resume_elsewhere ho? (w := w) (reply point.question)
    rw [sessions_goOn hv hk]
    exact .answeredElsewhere hk ho? hp
  | some i =>
    obtain ⟨o, ho⟩ := manned k point i hk ho?
    replace ho : w.orchestrator? i = some o := ho
    cases point with
    | create | use | signHash | registerChallenge | registerPrompt | registerVerify | loginChallenge
    | loginPrompt | loginVerify | load | toggle | toggled => cases ho?
    | configure j s a c =>
      cases ho?
      refine move_endSubmission hk rfl ho ?_
      cases h : reply (.request (.configure a c)) with
      | ok r => exact .configured h
      | error e => exact .notConfigured h
    | prepare j s a calls id =>
      cases ho?
      refine move_endSubmission hk rfl ho ?_
      cases h : reply (.request (.createOperation a calls id)) with
      | ok r => exact .prepared h
      | error e => exact .notPrepared h
    | approve j c a p =>
      cases ho?
      simp only [resume, approveWith]
      split
      · rename_i e h
        exact move_attemptFailed hk rfl ho (.unsigned h)
      · rename_i g h
        rw [sessions_goOn rfl hk]
        exact .signs hk h
    | sign j c a p g =>
      cases ho?
      simp only [resume, endApproval]
      split
      · rename_i e h
        exact move_attemptFailed hk rfl ho (.refused h)
      · rename_i receipt h
        rw [ho]
        obtain ⟨hv, hq⟩ := afterApproval_cases ((w.setOrchestrator i (o.approved receipt)).release o.lease) i o
          p.kind receipt
        rw [sessions_release, sessions_setOrchestrator ho] at hv
        rw [sessions_goOn hv hk]
        exact .signed hk ho h hq
    | signed j receipt l =>
      simp only [resume]
      rw [sessions_goOn sessions_answerLoad hk]
      exact .loaded hk

theorem move_answer (manned : w.sessions.Manned) :
    Move w.sessions (.answer k reply) (w.answer k reply).2 (w.answer k reply).1.sessions := by
  unfold answer
  split
  · rename_i hk
    exact .absent fun _ h => Option.some.inj h ▸ hk
  · rename_i point hk
    exact move_resume manned hk

theorem move_cancel (manned : w.sessions.Manned) :
    Move w.sessions (.cancel k) (w.cancelTask k).2 (w.cancelTask k).1.sessions := by
  unfold cancelTask
  split
  · rename_i hk
    exact .absent fun _ h => Option.some.inj h ▸ hk
  rename_i point hk
  have idle : point.cancellable = false → w.cancel point = none := by
    intro h
    unfold cancel
    split <;> first | rfl | cases h
  cases hc : point.cancellable with
  | false =>
    rw [idle hc]
    exact .unmoved hk hc
  | true =>
    -- Only an approval can be cancelled, and whether it waits for a prompt or a receipt makes no difference.
    have attempt : ∃ i p, point.attempt? = some (i, p) ∧ w.cancel point =
        some (w.modifyOrchestrator i (·.approvalAbandoned p), .failed (.authenticator .cancelled)) := by
      unfold Waiting.cancellable at hc
      split at hc
      · subst hc
        exact ⟨_, _, rfl, rfl⟩
      · subst hc
        exact ⟨_, _, rfl, rfl⟩
      · cases hc
    obtain ⟨i, p, hp, hcancel⟩ := attempt
    obtain ⟨o, ho⟩ := manned k point i hk (Waiting.orchestrator?_of_attempt? hp)
    rw [hcancel]
    change Move w.sessions _ (.progress k _)
      (goOn k (w.modifyOrchestrator i (·.approvalAbandoned p), .failed (.authenticator .cancelled))).sessions
    rw [sessions_goOn (sessions_modifyOrchestrator ho) hk]
    exact .attemptCancelled hk hp hc ho

theorem move_drop (manned : w.sessions.Manned) :
    Move w.sessions (.drop k) (w.dropTask k).2 (w.dropTask k).1.sessions := by
  unfold dropTask
  split
  · rename_i hk
    exact .absent fun _ h => Option.some.inj h ▸ hk
  rename_i point hk
  dsimp only
  have gone : ∀ {s : Sessions}, (w.abandon point).sessions = s → s.task k = some point →
      { w.abandon point with tasks := (w.abandon point).tasks.set k none }.sessions = s.setTask k none := by
    rintro s rfl h
    exact sessions_setTask h
  cases ho? : point.orchestrator? with
  | none =>
    rw [gone (abandon_elsewhere ho?) hk]
    exact .droppedElsewhere hk ho?
  | some i =>
    obtain ⟨o, ho⟩ := manned k point i hk ho?
    replace ho : w.orchestrator? i = some o := ho
    cases point with
    | create | use | signHash | registerChallenge | registerPrompt | registerVerify | loginChallenge
    | loginPrompt | loginVerify | load | toggle | toggled => cases ho?
    | configure j s a c =>
      cases ho?
      rw [gone (sessions_modifyRelease ho) hk]
      exact .submissionDropped hk rfl ho
    | prepare j s a calls id =>
      cases ho?
      rw [gone (sessions_modifyRelease ho) hk]
      exact .submissionDropped hk rfl ho
    | approve j c a p =>
      cases ho?
      rw [gone (sessions_modifyOrchestrator ho) hk]
      exact .attemptDropped hk rfl ho
    | sign j c a p g =>
      cases ho?
      rw [gone (sessions_modifyOrchestrator ho) hk]
      exact .attemptDropped hk rfl ho
    | signed j receipt l =>
      rw [gone rfl hk]
      exact .loadDropped hk

end

/-! ### Orchestrators and leases -/

theorem move_onOrchestrator {e : Event} {f : Orchestrator → World × Report} (he : e.task? = none)
    (h : ∀ o, w.orchestrator? i = some o → w.sessions.Idle i → Move w.sessions e (f o).2 (f o).1.sessions) :
    Move w.sessions e (w.onOrchestrator i f).2 (w.onOrchestrator i f).1.sessions := by
  unfold onOrchestrator
  split
  · exact .absent fun k hk => by rw [he] at hk; cases hk
  · rename_i o ho
    split
    · exact .inUse he
    · rename_i hu
      exact h o ho (inUse_eq_false_iff.mp (by simpa using hu))

theorem openForm_cases {o : Orchestrator} :
    (∃ e, o.openForm = .error e) ∨
      o.state.acceptsEdits = true ∧ o.openForm = .ok { o with state := .configuring } := by
  unfold Orchestrator.openForm
  split
  · rename_i h
    exact Or.inr ⟨h, rfl⟩
  · exact Or.inl ⟨_, rfl⟩

theorem move_edit {o : Orchestrator} {ed : Edit} (ho : w.orchestrator? i = some o) (hi : w.sessions.Idle i) :
    Move w.sessions (.edit i ed) (w.editForm i ed o).2 (w.editForm i ed o).1.sessions := by
  unfold editForm
  rcases openForm_cases (o := o) with ⟨e, h⟩ | ⟨h, hopen⟩
  · rw [h]
    exact .refused rfl
  · rw [hopen]
    dsimp only
    split
    · rw [sessions_setOrchestrator ho]
      exact .edited ho hi h nofun fun _ _ => rfl
    · rename_i form token hc
      rw [sessions_setOrchestrator ho]
      refine .edited ho hi h ?_ nofun
      rintro t ⟨⟩
      exact hc

theorem move_setForm {o : Orchestrator} {form : PolicyForm} (ho : w.orchestrator? i = some o)
    (hi : w.sessions.Idle i) :
    Move w.sessions (.setForm i form) (w.setForm i form o).2 (w.setForm i form o).1.sessions := by
  unfold setForm
  rcases openForm_cases (o := o) with ⟨e, h⟩ | ⟨h, hopen⟩
  · rw [h]
    exact .refused rfl
  · rw [hopen]
    dsimp only
    rw [sessions_setOrchestrator ho]
    exact .formSet ho hi h

theorem move_discard {o : Orchestrator} (ho : w.orchestrator? i = some o) (hi : w.sessions.Idle i) :
    Move w.sessions (.discard i) (w.discard i o).2 (w.discard i o).1.sessions := by
  unfold discard Orchestrator.discard
  cases hs : o.state with
  | awaitingApproval p =>
    dsimp only
    rw [sessions_release, sessions_setOrchestrator ho]
    exact .discarded ho hi hs
  | idle | configuring | submitting | signing _ | signed _ | failed _ => exact .refused rfl

theorem move_dropOrchestrator {o : Orchestrator} (ho : w.orchestrator? i = some o) (hi : w.sessions.Idle i) :
    Move w.sessions (.dropOrchestrator i) (w.dropOrchestrator i o).2 (w.dropOrchestrator i o).1.sessions := by
  unfold dropOrchestrator
  dsimp only
  have hv : { w with orchestrators := w.orchestrators.set i none }.sessions = w.sessions.setOrchestrator i none :=
    Sessions.ext (join_getElem?_set ho) rfl rfl rfl (List.length_set ..) rfl
  rw [sessions_release, hv]
  exact .forgotten ho hi

theorem move_acquire {a : Account} :
    Move w.sessions (.acquire a) (w.acquireLease a).2 (w.acquireLease a).1.sessions := by
  unfold acquireLease
  cases hslot : w.registry.token? a with
  | some t =>
    obtain ⟨q, hq, htoken⟩ := Registry.acquire_of_held hslot
    rw [hq]
    have hv : { w with registry := q }.sessions = w.sessions := Sessions.ext rfl rfl rfl htoken rfl rfl
    dsimp only
    rw [hv]
    exact .refused rfl
  | none =>
    obtain ⟨q, hq, htoken⟩ := Registry.acquire_of_free hslot
    rw [hq]
    dsimp only
    have hv : ({ w with registry := q, leases := w.leases ++ [some ⟨a, w.registry.nextToken⟩] } : World).sessions =
        (w.sessions.setHand w.leases.length (some ⟨a, w.registry.nextToken⟩)).setSlot a
          (some w.registry.nextToken) :=
      Sessions.ext rfl rfl join_getElem?_append htoken rfl rfl
    rw [hv]
    refine .leased hslot ?_
    simp

theorem move_releaseLease {n : Nat} :
    Move w.sessions (.releaseLease n) (w.releaseLease n).2 (w.releaseLease n).1.sessions := by
  unfold releaseLease
  split
  · exact .absent nofun
  · rename_i l hl
    dsimp only
    have hv : { w with leases := w.leases.set n none }.sessions = w.sessions.setHand n none :=
      Sessions.ext rfl rfl (join_getElem?_set hl) rfl rfl rfl
    rw [sessions_release, hv]
    exact .returned hl

/-- Each step is a move. -/
theorem move (manned : w.sessions.Manned) (e : Event) : Move w.sessions e (w.step e).2 (w.step e).1.sessions := by
  cases e with
  | newOrchestrator a c =>
    have hv : { w with orchestrators := w.orchestrators ++ [some (Orchestrator.initial a c)] }.sessions =
        w.sessions.make (Orchestrator.initial a c) :=
      Sessions.ext join_getElem?_append rfl rfl rfl List.length_append rfl
    simp only [step]
    rw [hv]
    exact .made
  | dropOrchestrator i => exact move_onOrchestrator rfl fun _ => move_dropOrchestrator
  | newCache => exact .newCache
  | newGate => exact .newGate
  | edit i ed => exact move_onOrchestrator rfl fun _ => move_edit
  | setForm i form => exact move_onOrchestrator rfl fun _ => move_setForm
  | discard i => exact move_onOrchestrator rfl fun _ => move_discard
  | acquire a => exact move_acquire
  | releaseLease n => exact move_releaseLease
  | start op => exact move_begin op
  | answer k reply => exact move_answer manned
  | cancel k => exact move_cancel manned
  | drop k => exact move_drop manned

end World
end PasskeySession
