import PasskeySession.Proofs.Session.Faithful

/-! # What is signed

Every signature that an orchestrator sends is for the pending session that stands, is sent to the endpoint of
its kind, and encodes the assertion that the same attempt was given for it. An attempt sends one signature at
most. Attempts that fail change nothing of what the next one asks, and after one that succeeds nothing is sent
until another session has been opened. -/

namespace PasskeySession

/-- A question carries a signature of a pending session to the endpoint of its kind. -/
inductive Question.Carries (a : Account) (p : PendingSession) (g : EncodedSignature) : Question → Prop
  | creation (h : p.kind = .sessionCreation) : Carries a p g (.request (.signCreation a p.hash g))
  | operation {u : String} (h : p.kind = .userOperation u) :
    Carries a p g (.request (.executeOperation a p.hash g))

/-- What has gone before a question that carries a signature: the orchestrator was made for the account, the
    pending session stands, and in the same attempt it was prompted for, and the answer has this encoding. -/
structure Grounds (before : List Entry) (i k : Nat) (a : Account) (p : PendingSession) (g : EncodedSignature) :
    Prop where
  account : ∀ b, .made i b ∈ before ↔ b = a
  stands : Log.Stands i p before
  begun : ∃ c, .begun k (.approve i c) ∈ before
  prompted : .asked (some i) k p.prompt ∈ before
  signed : ∃ assertion, .answered (some i) k p.prompt (.ok assertion) ∈ before ∧
    assertion.toValidator false = .ok g

/-- What an entry has to do with those before it. -/
structure Entry.Grounded (before : List Entry) (x : Entry) : Prop where
  /-- A signature has its grounds. -/
  sends : ∀ j k q, x = .asked j k q → q.signs = true →
    ∃ i a p g, j = some i ∧ q.Carries a p g ∧ Grounds before i k a p g
  /-- The prompt of an orchestrator is for its pending session. -/
  prompts : ∀ i k q, x = .asked (some i) k (.prompt q) → ∃ p, Log.Stands i p before ∧ .prompt q = p.prompt

theorem Question.carries_signedRequest {a : Account} {p : PendingSession} {g : EncodedSignature} :
    (Question.request (p.kind.signedRequest a p.hash g)).Carries a p g := by
  cases h : p.kind with
  | sessionCreation => exact .creation h
  | userOperation => exact .operation h

theorem signatureOf_eq_ok {answer : Except AuthenticatorError Assertion} {g : EncodedSignature}
    (h : signatureOf answer = .ok g) : ∃ assertion, answer = .ok assertion ∧ assertion.toValidator false = .ok g := by
  cases answer with
  | error => cases h
  | ok assertion =>
    refine ⟨assertion, rfl, ?_⟩
    change (assertion.toValidator false).mapError ClientError.authenticator = .ok g at h
    cases hv : assertion.toValidator false with
    | error => rw [hv] at h; cases h
    | ok g' => rw [hv] at h; cases h; rfl

namespace Log
variable {log : List Entry} {x : Entry} {q : Progress} {i k : Nat}

/-- Entries that ask nothing are grounded, and so are questions of operations that are on no orchestrator. -/
theorem grounded_of_not_asked (h : ∀ j k q, x ≠ .asked j k q) : Entry.Grounded log x :=
  ⟨fun j k q hx => absurd hx (h j k q), fun _ k _ hx => absurd hx (h _ k _)⟩

theorem grounded_of_asked {j : Option Nat} {question : Question} (hs : question.signs = false)
    (hp : ∀ i prompt, j = some i → question ≠ .prompt prompt) : (Entry.asked j k question).Grounded log := by
  refine ⟨fun j' k' q h hq => ?_, fun i k' q h => ?_⟩
  · cases h
    rw [hs] at hq
    cases hq
  · cases h
    exact absurd rfl (hp i q rfl)

theorem grounded_of_elsewhere {point : Waiting} (h : point.orchestrator? = none) :
    (Entry.asked point.orchestrator? k point.question).Grounded log := by
  refine grounded_of_asked ?_ fun i prompt hi => by rw [h] at hi; cases hi
  cases point <;> first | rfl | cases h

/-- An operation has come so far: first what happened is written down, then what it asks. -/
theorem throughout_of_entry (h : Throughout Entry.Grounded log) (hx : ∀ j k q, x ≠ .asked j k q)
    (hq : ∀ point ∈ q.entry, (Entry.asked point.orchestrator? k point.question).Grounded (log ++ [x])) :
    Throughout Entry.Grounded (log ++ (x :: q.asks k)) := by
  have first := h.concat (grounded_of_not_asked hx)
  cases q with
  | finished => exact first
  | waiting point =>
    have := first.concat (hq point rfl)
    rwa [List.append_assoc] at this

theorem throughout_of_finished (h : Throughout Entry.Grounded log) (hx : ∀ j k q, x ≠ .asked j k q) :
    Throughout Entry.Grounded (log ++ [x]) := h.concat (grounded_of_not_asked hx)

end Log

namespace Sessions
variable {s t : Sessions} {log : List Entry} {e : Event} {r : Report} {i k : Nat}

theorem Faithful.stands (h : Faithful log s) {o : Orchestrator} {p : PendingSession}
    (ho : s.orchestrator i = some o) (hp : o.state.pending? = some p) : Log.Stands i p log :=
  Log.pending?_eq_some_iff.mp ((h.pending i o ho).trans hp)

/-- A signature is sent with its grounds. -/
theorem Faithful.grounds (h : Faithful log s) (hs : s.Sound) {c : Bool} {a : Account} {p : PendingSession}
    {answer : Except AuthenticatorError Assertion} {g : EncodedSignature} (hk : s.task k = some (.approve i c a p))
    (hg : signatureOf answer = .ok g) : Grounds (log ++ [.answered (some i) k p.prompt answer]) i k a p g := by
  obtain ⟨o, ho, hstate, -, rfl⟩ := (hs.settled i).fits k _ hk rfl
  obtain ⟨assertion, rfl, hv⟩ := signatureOf_eq_ok hg
  have attempt : Log.tale k log = [.begun k (.approve i c), .asked (some i) k p.prompt] :=
    ((h.told.tale_of_task hk).attempt_of_approves rfl).of_prompted
  have told : ∀ x ∈ Log.tale k log, x ∈ log ++ [.answered (some i) k p.prompt (.ok assertion)] := fun x hx =>
    List.mem_append_left _ (Log.mem_tale.mp hx).1
  refine ⟨fun b => ?_, ?_, ⟨c, told _ (by simp [attempt])⟩, told _ (by simp [attempt]), assertion, by simp, hv⟩
  · rw [← h.account i o ho b, List.mem_append]
    exact or_iff_left (by simp)
  · refine (h.stands ho (by rw [hstate]; rfl)).append ?_
    rintro _ (_ | ⟨_, ⟨⟩⟩)
    exact ⟨rfl, rfl⟩

theorem throughout_of_move (h : Faithful log s) (hs : s.Sound) (hg : Log.Throughout Entry.Grounded log)
    (m : Move s e r t) : Log.Throughout Entry.Grounded (log ++ Entry.of s.task e r) := by
  cases m with
  | newCache | newGate | leased | returned | unmoved | forgotten | edited | formSet =>
    exact (List.append_nil log).symm ▸ hg
  | absent | inUse | refused => simpa using hg
  | made | discarded | opRefused | droppedElsewhere | submissionDropped | attemptDropped | attemptCancelled
  | loadDropped => exact Log.throughout_of_finished hg nofun
  | begunElsewhere _ hp =>
    exact Log.throughout_of_entry hg nofun fun point hpoint => Log.grounded_of_elsewhere (hp point hpoint)
  | answeredElsewhere hk _ hp =>
    rw [Entry.of_answer hk]
    exact Log.throughout_of_entry hg nofun fun point hpoint => Log.grounded_of_elsewhere (hp point hpoint)
  | submits _ _ _ _ _ hp =>
    refine Log.throughout_of_entry (q := .waiting _) hg nofun ?_
    rintro _ ⟨⟩
    cases hp <;> exact Log.grounded_of_asked rfl nofun
  | submitted hk | submissionFailed hk | attemptFailed hk | loaded hk =>
    rw [Entry.of_answer hk]
    exact Log.throughout_of_finished hg nofun
  | approves ho _ hp =>
    refine Log.throughout_of_entry (q := .waiting _) hg nofun ?_
    rintro _ ⟨⟩
    refine ⟨fun j k' q hx hq => ?_, fun j k' q hx => ?_⟩
    · cases hx
      cases hq
    · cases hx
      refine ⟨_, (h.stands ho (by rw [hp]; rfl)).append ?_, rfl⟩
      rintro _ (_ | ⟨_, ⟨⟩⟩)
      exact ⟨rfl, rfl⟩
  | signs hk hsig =>
    rw [Entry.of_answer hk]
    refine Log.throughout_of_entry (q := .waiting _) hg nofun ?_
    rintro _ ⟨⟩
    refine ⟨fun j k' q hx _ => ?_, fun j k' q hx => ?_⟩
    · cases hx
      exact ⟨_, _, _, _, rfl, Question.carries_signedRequest, h.grounds hs hk hsig⟩
    · cases hx
  | signed hk _ _ hq =>
    rw [Entry.of_answer hk]
    refine Log.throughout_of_entry hg nofun ?_
    rcases hq with rfl | ⟨l, rfl⟩
    · rintro _ ⟨⟩
    · rintro _ ⟨⟩
      exact Log.grounded_of_asked rfl nofun

end Sessions

/-- What it is for the orchestrators of a run to sign their pending sessions, and nothing else. -/
structure World.SignsPending (log : List Entry) (w : World) : Prop where
  /-- Each signature that is sent has its grounds in what went before. -/
  grounds : ∀ before j k q since, log = before ++ .asked j k q :: since → q.signs = true →
    ∃ i a p g, j = some i ∧ q.Carries a p g ∧ Grounds before i k a p g
  /-- An attempt to approve prompts once at most, and sends one signature at most, -/
  single : ∀ k i c, .begun k (.approve i c) ∈ log →
    (Log.tale k log).countP Entry.prompts ≤ 1 ∧ (Log.tale k log).countP Entry.sends ≤ 1
  /-- and none if the prompt fails, or its answer cannot be encoded. -/
  unsigned : ∀ k i c j id challenge answer e, .begun k (.approve i c) ∈ log →
    .answered j k (.prompt (.use id challenge)) answer ∈ log → signatureOf answer = .error e →
    (Log.tale k log).countP Entry.sends = 0
  /-- Two attempts prompt for the same, unless a session was opened, signed or discarded in between; -/
  same : ∀ before i k q between k' q' since,
    log = before ++ .asked (some i) k (.prompt q) :: (between ++ .asked (some i) k' (.prompt q') :: since) →
    (∀ x ∈ between, x.opened? i = none ∧ x.closes i = false) → q = q'
  /-- and the pending session that stands is to be approved whenever no operation is on the orchestrator. -/
  again : ∀ i o p c, w.orchestrator? i = some o → w.inUse i = false → Log.Stands i p log →
    (w.step (.start (.approve i c))).2 = .progress w.tasks.length (.waiting (.approve i c o.account p))
  /-- After a signature that was accepted none is sent until another session has been opened. -/
  once : ∀ before i x between k q since, log = before ++ x :: (between ++ .asked (some i) k q :: since) →
    x.closes i = true → q.signs = true → ∃ y ∈ between, ∃ p, y.opened? i = some p

theorem World.Recorded.grounded {log : List Entry} {w : World} (h : w.Recorded log) :
    Log.Throughout Entry.Grounded log := by
  induction h with
  | initial => exact Log.throughout_nil
  | step e h ih => exact Sessions.throughout_of_move h.faithful h.reachable.sound ih (h.move e)

theorem Entry.opened?_of_closes {x : Entry} {i : Nat} (h : x.closes i = true) : x.opened? i = none := by
  unfold closes at h
  split at h <;> first | rfl | cases h

theorem World.approve_of_awaiting {w : World} {i : Nat} {o : Orchestrator} {p : PendingSession} (c : Bool)
    (ho : w.orchestrator? i = some o) (hu : w.inUse i = false) (hp : o.state = .awaitingApproval p) :
    (w.step (.start (.approve i c))).2 = .progress w.tasks.length (.waiting (.approve i c o.account p)) := by
  simp [step, begin, start, Operation.orchestrator?, hu, ho, beginApproval, Orchestrator.beginApproval, hp,
    setOrchestrator]

/-- In every run the orchestrators sign their pending sessions, and nothing else. -/
theorem World.Recorded.signs_pending {log : List Entry} {w : World} (h : w.Recorded log) : w.SignsPending log := by
  have grounded := h.grounded
  have attempt : ∀ k i c, .begun k (.approve i c) ∈ log → Attempt k (Log.tale k log) (w.task? k) :=
    fun k i c hb => (h.faithful.told.tale k).attempt_of_begun (Log.mem_tale.mpr ⟨hb, rfl⟩)
  refine ⟨fun before j k q since hl hq => ?_, fun k i c hb => ?_, fun k i c j id challenge answer e hb ha he => ?_,
    fun before i k q between k' q' since hl hn => ?_, fun i o p c ho hu hs => ?_,
    fun before i x between k q since hl hc hq => ?_⟩
  · exact (grounded before _ since hl).sends j k q rfl hq
  · exact ⟨(attempt k i c hb).prompts_le, (attempt k i c hb).sends_le⟩
  · exact (attempt k i c hb).sends_eq_zero (Log.mem_tale.mpr ⟨ha, rfl⟩) he
  · obtain ⟨p, hp, hq⟩ := (grounded before _ _ hl).prompts i k q rfl
    obtain ⟨p', hp', hq'⟩ := (grounded (before ++ .asked (some i) k (.prompt q) :: between) _ since
      (by rw [hl]; simp)).prompts i k' q' rfl
    have still : Log.Stands i p (before ++ .asked (some i) k (.prompt q) :: between) := by
      refine hp.append fun x hx => ?_
      rcases List.mem_cons.mp hx with rfl | hx
      · exact ⟨rfl, rfl⟩
      · exact hn x hx
    cases hp'.unique still
    exact Question.prompt.inj (hq.trans hq'.symm)
  · -- What stands in the log is what the orchestrator holds, and at rest it holds it awaiting approval.
    have idle := inUse_eq_false_iff.mp hu
    have hp : o.state.pending? = some p := (h.faithful.pending i o ho).symm.trans (Log.pending?_eq_some_iff.mpr hs)
    refine approve_of_awaiting c ho hu ?_
    rcases (h.reachable.sound.settled i).rests o ho idle with ⟨he, -⟩ | ⟨p', _, hstate, -⟩
    · rw [SigningState.pending?_of_acceptsEdits he] at hp
      cases hp
    · rw [hstate] at hp
      cases hp
      exact hstate
  · obtain ⟨i', a, p, g, hi, -, ground⟩ := (grounded (before ++ x :: between) _ since
      (by rw [hl]; simp)).sends (some i) k q rfl hq
    cases hi
    obtain ⟨y, hy, hp⟩ := ground.stands.opened_since hc (Entry.opened?_of_closes hc)
    exact ⟨y, hy, p, hp⟩

/-- Answers that configure a session and assert with a signature of two ones, and refuse everything else. -/
def Reply.asserting : Reply
  | .request (.configure ..) => .ok ⟨⟨List.replicate 32 7, rfl⟩, "key"⟩
  | .request (.challenge _) | .request (.verifyRegistration _) | .request (.verifyLogin _)
  | .request .currentUser | .request .logout | .request (.installedModules _) | .request (.signCreation ..)
  | .request (.createOperation ..) | .request (.executeOperation ..) | .request (.sessionDetails _)
  | .request (.activateEndpoint ..) => .error (.authenticator .cancelled)
  | .prompt (.create ..) => .error .cancelled
  | .prompt (.use ..) => .ok ⟨"key", ClientData.typeKey, List.replicate 37 0, [0x30, 6, 2, 1, 1, 2, 1, 1], none⟩

/-- A session that is configured and approved, as far as the signature that is sent. -/
theorem World.signs_pending_sent :
    ∃ log w, World.Recorded log w ∧ (∃ q, .asked (some 0) 1 q ∈ log ∧ q.signs = true) ∧ w.SignsPending log := by
  have h := (((((Recorded.initial.step (.newOrchestrator ⟨⟨List.replicate 20 0, rfl⟩, 1⟩ none)).step
    (.start (.submit 0))).step (.answer 0 Reply.asserting)).step (.start (.approve 0 false))).step
    (.answer 1 Reply.asserting))
  exact ⟨_, _, h, ⟨_, List.mem_append_right _ (.tail _ (.head _)), rfl⟩, h.signs_pending⟩

end PasskeySession
