import PasskeySession.Proofs.Session.Attempt

/-! # Faithful logs

A log tells how the sessions of its world stand: whose account an orchestrator has, which pending session it
holds, and how far each operation has come. Every move keeps this, together with what it writes down. -/

namespace PasskeySession
open Function (update update_self update_of_ne)

namespace Entry
variable {x : Entry} {i j k : Nat} {task : Nat → Option Waiting} {reply : Reply} {point : Waiting} {q : Progress}

@[simp] theorem of_absent {e : Event} : of task e .absent = [] := by
  cases e <;> rfl

@[simp] theorem of_inUse {e : Event} : of task e .inUse = [] := by
  cases e <;> rfl

@[simp] theorem of_refused {e : Event} {err : ClientError} : of task e (.refused err) = [] := by
  cases e <;> rfl

theorem of_answer (hk : task k = some point) : of task (.answer k reply) (.progress k q) =
    answered point.orchestrator? k point.question (reply point.question) :: q.asks k := by
  rw [of, hk]

theorem opened?_of_ne {n : Option Nat} {question : Question} {answer : question.Answer} (hn : n ≠ some i) :
    (answered n k question answer).opened? i = none := by
  cases question with
  | prompt => rfl
  | request request => cases request <;> first | rfl | cases answer <;> first | rfl | exact if_neg hn

theorem closes_of_ne {n : Option Nat} {question : Question} {answer : question.Answer} (hn : n ≠ some i) :
    (answered n k question answer).closes i = false := by
  cases question with
  | prompt => rfl
  | request request => cases request <;> first | rfl | cases answer <;> first | rfl | exact decide_eq_false hn

/-- Whether an entry says something of no orchestrator but this one. -/
def On (i : Nat) : Entry → Prop
  | made .. => False
  | discarded j => j = i
  | answered j .. => ∀ n, j = some n → n = i
  | _ => True

/-- Whether an entry says nothing of an orchestrator. -/
structure Neutral (i : Nat) (x : Entry) : Prop where
  opened : x.opened? i = none
  closes : x.closes i = false
  made : ∀ a, x ≠ .made i a

theorem On.neutral (h : x.On j) (hij : i ≠ j) : x.Neutral i := by
  cases x with
  | made => exact h.elim
  | discarded n =>
    cases h
    exact ⟨rfl, decide_eq_false (Ne.symm hij), nofun⟩
  | answered n k q a =>
    have hn : n ≠ some i := fun hn => hij (h i hn)
    exact ⟨opened?_of_ne hn, closes_of_ne hn, nofun⟩
  | _ => exact ⟨rfl, rfl, nofun⟩

theorem after_of_neutral (h : x.Neutral i) (p : Option PendingSession) : after i p x = p := by
  rw [after, h.opened, h.closes]
  rfl

theorem foldl_after_of_neutral {entries : List Entry} (h : ∀ x ∈ entries, x.Neutral i) (p : Option PendingSession) :
    entries.foldl (after i) p = p := by
  induction entries with
  | nil => rfl
  | cons x entries ih =>
    rw [List.foldl_cons, after_of_neutral (h x List.mem_cons_self)]
    exact ih fun y hy => h y (List.mem_cons_of_mem x hy)

theorem on_of_mem_asks (hx : x ∈ q.asks k) : x.On i := by
  cases q with
  | finished => cases hx
  | waiting point =>
    rw [List.mem_singleton.mp hx]
    trivial

theorem on_of_mem_cons_asks (h : x.On i) : ∀ y ∈ x :: q.asks k, y.On i := by
  intro y hy
  rcases List.mem_cons.mp hy with rfl | hy
  · exact h
  · exact on_of_mem_asks hy

theorem foldl_after_cons_asks {p : Option PendingSession} :
    (x :: q.asks k).foldl (after i) p = after i p x := by
  rw [List.foldl_cons]
  refine foldl_after_of_neutral (fun y hy => ?_) _
  exact (on_of_mem_asks (i := i + 1) hy).neutral (Nat.ne_of_lt (Nat.lt_succ_self i))

theorem on_answered {question : Question} {answer : question.Answer} :
    (answered (some i) k question answer).On i := fun _ h => (Option.some.inj h).symm

end Entry

theorem SigningState.pending?_of_acceptsEdits {st : SigningState} (h : st.acceptsEdits = true) :
    st.pending? = none := by
  cases st <;> first | rfl | cases h

namespace Sessions
variable {s t : Sessions} {e : Event} {r : Report} {i j k : Nat} {o o' : Orchestrator} {entries : List Entry}

/-- What an orchestrator is after some entries that were written down. -/
structure Follows (entries : List Entry) (i : Nat) (o o' : Orchestrator) : Prop where
  account : o'.account = o.account
  pending : entries.foldl (Entry.after i) o.state.pending? = o'.state.pending?
  made : ∀ a, .made i a ∉ entries

/-- Each orchestrator was there before and is what the entries say, or it is new; and of those that are still
    to be made the entries say nothing. -/
structure Kept (s t : Sessions) (entries : List Entry) : Prop where
  orchestrator : ∀ i o', t.orchestrator i = some o' →
    (∃ o, s.orchestrator i = some o ∧ Follows entries i o o') ∨
      (i = s.made ∧ o'.state.pending? = none ∧ entries = [.made i o'.account])
  unmade : ∀ i, t.made ≤ i → ∀ x ∈ entries, x.Neutral i

theorem follows_of_neutral (h : ∀ x ∈ entries, x.Neutral i) : Follows entries i o o :=
  ⟨rfl, Entry.foldl_after_of_neutral h _, fun a hm => (h _ hm).made a rfl⟩

theorem kept_of_same (ht : t.orchestrator = s.orchestrator) (h : ∀ i, ∀ x ∈ entries, x.On i) : Kept s t entries := by
  have neutral : ∀ i, ∀ x ∈ entries, x.Neutral i := fun i x hx =>
    (h (i + 1) x hx).neutral (Nat.ne_of_lt (Nat.lt_succ_self i))
  refine ⟨fun i o' ho' => ?_, fun i _ => neutral i⟩
  rw [ht] at ho'
  exact Or.inl ⟨o', ho', follows_of_neutral (neutral i)⟩

theorem kept_of_update (hs : s.Sound) (hj : s.orchestrator j = some o)
    (ht : t.orchestrator = update s.orchestrator j (some o')) (hm : t.made = s.made)
    (ha : o'.account = o.account) (h : ∀ x ∈ entries, x.On j)
    (hp : entries.foldl (Entry.after j) o.state.pending? = o'.state.pending?) : Kept s t entries := by
  refine ⟨fun i p hp' => ?_, fun i hi x hx => (h x hx).neutral ?_⟩
  · rw [ht] at hp'
    by_cases hij : i = j
    · subst hij
      rw [update_self] at hp'
      cases hp'
      exact Or.inl ⟨o, hj, ha, hp, fun a hm => h _ hm⟩
    · rw [update_of_ne hij] at hp'
      exact Or.inl ⟨p, hp', follows_of_neutral fun x hx => (h x hx).neutral hij⟩
  · rintro rfl
    exact Nat.not_lt_of_le (hm ▸ hi) (hs.orchestrator_lt hj)

/-- An operation begins or goes on, on an orchestrator. -/
theorem kept_of_entry {x : Entry} {q : Progress} (hs : s.Sound) (hj : s.orchestrator j = some o)
    (ht : t.orchestrator = update s.orchestrator j (some o')) (hm : t.made = s.made)
    (ha : o'.account = o.account) (h : x.On j) (hp : Entry.after j o.state.pending? x = o'.state.pending?) :
    Kept s t (x :: q.asks k) :=
  kept_of_update hs hj ht hm ha (Entry.on_of_mem_cons_asks h) (Entry.foldl_after_cons_asks.trans hp)

/-- An operation on an orchestrator is dropped or cancelled. -/
theorem kept_of_abandoned (hs : s.Sound) (hj : s.orchestrator j = some o)
    (ht : t.orchestrator = update s.orchestrator j (some o')) (hm : t.made = s.made)
    (ha : o'.account = o.account) (hp : o.state.pending? = o'.state.pending?) : Kept s t [.abandoned k] :=
  kept_of_update hs hj ht hm ha (by rintro _ (_ | ⟨_, ⟨⟩⟩); trivial) hp

/-- What an answer to a submission says of its orchestrator. -/
theorem after_of_opens {point : Waiting} {sub : Submission} {reply : Reply} {result : Except ClientError PendingSession}
    {p : Option PendingSession} (hs : point.submission? = some (i, sub)) (h : point.Opens reply result) :
    Entry.after i p (.answered point.orchestrator? k point.question (reply point.question)) = result.toOption.or p := by
  cases h with
  | configured h | prepared h | notConfigured h | notPrepared h =>
    cases hs
    rw [h]
    first | rfl | exact congrArg (Option.or · _) (if_pos rfl)

/-- A signature that is accepted ends the pending session, and one that is not leaves it. -/
theorem after_of_signed {kind : PendingKind} {a : Account} {hash : OperationHash} {g : EncodedSignature}
    {answer : (kind.signedRequest a hash g).Answer} {q : Option PendingSession} :
    Entry.after i q (.answered (some i) k (.request (kind.signedRequest a hash g)) answer) =
      match kind.receiptOf answer with
      | .ok _ => none
      | .error _ => q := by
  cases kind <;> cases answer <;> first | rfl | exact if_pos (decide_eq_true rfl)

/-- What an answer to an attempt that fails says of its orchestrator. -/
theorem after_of_fails {point : Waiting} {reply : Reply} {e : ClientError} {p : PendingSession}
    {q : Option PendingSession} (hp : point.attempt? = some (i, p)) (h : point.Fails reply e) :
    Entry.after i q (.answered point.orchestrator? k point.question (reply point.question)) = q := by
  cases h with
  | unsigned h => rfl
  | refused h =>
    cases hp
    exact after_of_signed.trans (by rw [h])

theorem kept_of_move (h : s.Sound) (m : Move s e r t) : Kept s t (Entry.of s.task e r) := by
  cases m with
  | newCache | newGate | leased | returned | unmoved => exact kept_of_same rfl (by rintro _ _ ⟨⟩)
  | absent | inUse | refused => exact kept_of_same rfl (by simp)
  | @made a c =>
    have neutral : ∀ i, i ≠ s.made → ∀ x ∈ [Entry.made s.made a], x.Neutral i := by
      intro i hi x hx
      rw [List.mem_singleton.mp hx]
      exact ⟨rfl, rfl, fun b hb => hi (Entry.made.inj hb).1.symm⟩
    refine ⟨fun i o' ho' => ?_, fun i hi => neutral i (Nat.ne_of_gt hi)⟩
    change update s.orchestrator s.made _ i = some o' at ho'
    by_cases hi : i = s.made
    · subst hi
      rw [update_self] at ho'
      cases ho'
      exact Or.inr ⟨rfl, rfl, rfl⟩
    · rw [update_of_ne hi] at ho'
      exact Or.inl ⟨o', ho', follows_of_neutral (neutral i hi)⟩
  | @forgotten i o ho hi =>
    refine ⟨fun j o' ho' => ?_, by rintro _ _ _ ⟨⟩⟩
    change update s.orchestrator i none j = some o' at ho'
    by_cases hj : j = i
    · rw [hj, update_self] at ho'
      cases ho'
    · rw [update_of_ne hj] at ho'
      exact Or.inl ⟨o', ho', follows_of_neutral (by rintro _ ⟨⟩)⟩
  | edited ho hi he | formSet ho hi he =>
    exact kept_of_update h ho rfl rfl rfl (by rintro _ ⟨⟩) (SigningState.pending?_of_acceptsEdits he)
  | discarded ho hi hp =>
    refine kept_of_update h ho rfl rfl rfl (by rintro _ (_ | ⟨_, ⟨⟩⟩); exact rfl) ?_
    simp [Entry.of, Entry.after, Entry.opened?, Entry.closes, SigningState.pending?]
  | begunElsewhere | opRefused => exact kept_of_same rfl fun i => Entry.on_of_mem_cons_asks trivial
  | answeredElsewhere hk ho hp =>
    rw [Entry.of_answer hk, ho]
    exact kept_of_same rfl fun i => Entry.on_of_mem_cons_asks (by rintro _ ⟨⟩)
  | droppedElsewhere hk ho => exact kept_of_same rfl (by rintro i _ (_ | ⟨_, ⟨⟩⟩); trivial)
  | submits _ ho _ he => exact kept_of_entry h ho rfl rfl rfl trivial (SigningState.pending?_of_acceptsEdits he)
  | submitted hk hs ho hr =>
    rw [Entry.of_answer hk]
    refine kept_of_entry h ho rfl rfl rfl ?_ (after_of_opens hs hr)
    rw [Waiting.orchestrator?_of_submission? hs]
    exact Entry.on_answered
  | submissionFailed hk hs ho hr =>
    obtain ⟨hstate, -⟩ := h.fits_submission hk hs ho
    rw [Entry.of_answer hk]
    refine kept_of_entry h ho rfl rfl rfl ?_ ((after_of_opens hs hr).trans (by rw [hstate]; rfl))
    rw [Waiting.orchestrator?_of_submission? hs]
    exact Entry.on_answered
  | submissionDropped hk hs ho =>
    obtain ⟨hstate, -, -, he⟩ := h.fits_submission hk hs ho
    refine kept_of_abandoned h ho rfl rfl rfl ?_
    rw [hstate]
    exact (SigningState.pending?_of_acceptsEdits he).symm
  | approves ho hi hp =>
    refine kept_of_entry h ho rfl rfl rfl trivial ?_
    rw [hp]
    rfl
  | signs hk | loaded hk =>
    obtain ⟨o, ho, -⟩ := (h.settled _).fits _ _ hk rfl
    rw [Entry.of_answer hk]
    exact kept_of_entry h ho (Function.update_eq_self_iff.mpr ho.symm).symm rfl rfl Entry.on_answered rfl
  | attemptFailed hk hp ho hr =>
    obtain ⟨hstate, -⟩ := h.fits_attempt hk hp ho
    rw [Entry.of_answer hk]
    refine kept_of_entry h ho rfl rfl rfl ?_ ((after_of_fails hp hr).trans (by rw [hstate]; rfl))
    rw [Waiting.orchestrator?_of_attempt? hp]
    exact Entry.on_answered
  | attemptDropped hk hp ho | attemptCancelled hk hp _ ho =>
    obtain ⟨hstate, -⟩ := h.fits_attempt hk hp ho
    refine kept_of_abandoned h ho rfl rfl rfl ?_
    rw [hstate]
    rfl
  | signed hk ho hr hq =>
    rw [Entry.of_answer hk]
    exact kept_of_entry h ho rfl rfl rfl Entry.on_answered (after_of_signed.trans (by rw [hr]; rfl))
  | loadDropped hk => exact kept_of_same rfl (by rintro i _ (_ | ⟨_, ⟨⟩⟩); trivial)

/-! ### Tales -/

theorem approves_of_elsewhere {point : Waiting} (h : point.orchestrator? = none) : point.approves = false := by
  cases point <;> first | rfl | cases h

theorem approves_of_submission? {point : Waiting} {sub : Submission} (h : point.submission? = some (i, sub)) :
    point.approves = false := by
  rcases Waiting.submission?_eq_some h with ⟨_, _, rfl⟩ | ⟨_, _, _, rfl⟩ <;> rfl

theorem approves_of_attempt? {point : Waiting} {p : PendingSession} (h : point.attempt? = some (i, p)) :
    point.approves = true := by
  rcases Waiting.attempt?_eq_some h with ⟨_, _, rfl⟩ | ⟨_, _, _, rfl⟩ <;> rfl

/-- Each operation that has begun has its tale. -/
structure Told (log : List Entry) (s : Sessions) : Prop where
  tale : ∀ k, Tale k (Log.tale k log) (s.task k)
  fresh : ∀ k, s.begun ≤ k → Log.tale k log = []

variable {log : List Entry}

theorem Told.tale_of_task (h : Told log s) {point : Waiting} (hk : s.task k = some point) :
    Tale k (Log.tale k log) (some point) := hk ▸ h.tale k

theorem told_of_same (h : Told log s) (ht : t.task = s.task) (hb : t.begun = s.begun)
    (he : ∀ x ∈ entries, x.task? = none) : Told (log ++ entries) t := by
  have same : ∀ k, Log.tale k (log ++ entries) = Log.tale k log := by
    intro k
    refine Log.tale_append_of_other fun x hx => ?_
    rw [he x hx]
    exact nofun
  refine ⟨fun k => ?_, fun k hk => ?_⟩
  · rw [same, ht]
    exact h.tale k
  · rw [same]
    exact h.fresh k (hb ▸ hk)

theorem told_of_update {next : Option Waiting} (h : Told log s) (ht : t.task = update s.task k next)
    (hb : s.begun ≤ t.begun) (hlt : k < t.begun) (he : ∀ x ∈ entries, x.task? = some k)
    (hk : Tale k (Log.tale k log ++ entries) next) : Told (log ++ entries) t := by
  have same : ∀ j, j ≠ k → Log.tale j (log ++ entries) = Log.tale j log := by
    intro j hj
    refine Log.tale_append_of_other fun x hx => ?_
    rw [he x hx]
    exact fun h => hj (Option.some.inj h).symm
  refine ⟨fun j => ?_, fun j hj => ?_⟩
  · rw [ht]
    by_cases hj : j = k
    · subst hj
      rw [Log.tale_append_of_own he, update_self]
      exact hk
    · rw [same j hj, update_of_ne hj]
      exact h.tale j
  · rw [same j (Nat.ne_of_gt (Nat.lt_of_lt_of_le hlt hj))]
    exact h.fresh j (Nat.le_trans hb hj)

theorem task?_of_mem_cons_asks {x : Entry} {q : Progress} (hx : x.task? = some k) :
    ∀ y ∈ x :: q.asks k, y.task? = some k := by
  intro y hy
  rcases List.mem_cons.mp hy with rfl | hy
  · exact hx
  · cases q with
    | finished => cases hy
    | waiting point =>
      rw [List.mem_singleton.mp hy]
      rfl

theorem not_begun_of_answered {n : Option Nat} {question : Question} {answer : question.Answer} {q : Progress}
    (i : Nat) (c : Bool) : .begun k (.approve i c) ∉ Entry.answered n k question answer :: q.asks k := by
  cases q <;> simp [Progress.asks]

/-- An operation that is no attempt to approve begins. -/
theorem tale_of_begun {op : Operation} {q : Progress} (hop : ∀ i c, op ≠ .approve i c)
    (hq : ∀ point ∈ q.entry, point.approves = false) : Tale k (.begun k op :: q.asks k) q.entry := by
  refine .other (fun i c hm => ?_) hq
  rcases List.mem_cons.mp hm with hm | hm
  · exact hop i c (Entry.begun.inj hm).2.symm
  · cases q with
    | finished => cases hm
    | waiting => cases List.mem_singleton.mp hm

theorem told_of_begun {op : Operation} {q : Progress} (h : Told log s)
    (ht : t.task = update s.task s.begun q.entry) (hb : t.begun = s.begun + 1)
    (hk : Tale s.begun (.begun s.begun op :: q.asks s.begun) q.entry) :
    Told (log ++ (.begun s.begun op :: q.asks s.begun)) t := by
  refine told_of_update h ht (hb ▸ Nat.le_succ _) (hb ▸ Nat.lt_succ_self _) (task?_of_mem_cons_asks rfl) ?_
  rw [h.fresh _ (Nat.le_refl _)]
  exact hk

theorem told_of_abandoned {point : Waiting} (h : Told log s) (hs : s.Sound) (hk : s.task k = some point)
    (ht : t.task = update s.task k none) (hb : t.begun = s.begun) : Told (log ++ [.abandoned k]) t := by
  refine told_of_update h ht (Nat.le_of_eq hb.symm) (hb ▸ hs.task_lt hk) (by rintro _ (_ | ⟨_, ⟨⟩⟩); rfl) ?_
  exact (h.tale_of_task hk).abandoned

theorem told_of_answered {point : Waiting} {reply : Reply} {q : Progress} (h : Told log s) (hs : s.Sound)
    (hk : s.task k = some point) (hp : point.approves = false) (ht : t.task = update s.task k q.entry)
    (hb : t.begun = s.begun)
    (hq : ∀ point ∈ q.entry, point.approves = false) :
    Told (log ++ Entry.of s.task (.answer k reply) (.progress k q)) t := by
  rw [Entry.of_answer hk]
  refine told_of_update h ht (Nat.le_of_eq hb.symm) (hb ▸ hs.task_lt hk) (task?_of_mem_cons_asks rfl) ?_
  exact (h.tale_of_task hk).goOn hp not_begun_of_answered hq

/-- An attempt to approve goes on as attempts do. -/
theorem told_of_attempt {point : Waiting} {reply : Reply} {q : Progress} (h : Told log s) (hs : s.Sound)
    (hk : s.task k = some point) (hp : point.approves = true) (ht : t.task = update s.task k q.entry)
    (hb : t.begun = s.begun)
    (next : ∀ tale, Attempt k tale (some point) → Attempt k (tale ++
      .answered point.orchestrator? k point.question (reply point.question) :: q.asks k) q.entry) :
    Told (log ++ Entry.of s.task (.answer k reply) (.progress k q)) t := by
  rw [Entry.of_answer hk]
  refine told_of_update h ht (Nat.le_of_eq hb.symm) (hb ▸ hs.task_lt hk) (task?_of_mem_cons_asks rfl)
    (.attempt (next _ ?_))
  exact (h.tale_of_task hk).attempt_of_approves hp

theorem told_of_move (h : Told log s) (hs : s.Sound) (m : Move s e r t) :
    Told (log ++ Entry.of s.task e r) t := by
  cases m with
  | newCache | newGate | leased | returned | unmoved | forgotten | edited | formSet =>
    exact told_of_same h rfl rfl (by rintro _ ⟨⟩)
  | absent | inUse | refused => exact told_of_same h rfl rfl (by simp)
  | made | discarded => exact told_of_same h rfl rfl (by rintro _ (_ | ⟨_, ⟨⟩⟩); rfl)
  | begunElsewhere hop hp =>
    refine told_of_begun h rfl rfl (tale_of_begun ?_ fun q hq => approves_of_elsewhere (hp q hq))
    rintro i c rfl
    cases hop
  | @opRefused op i o e =>
    refine told_of_begun h rfl rfl ?_
    cases op with
    | approve => exact .attempt .refused
    | _ => exact tale_of_begun nofun (by rintro _ ⟨⟩)
  | submits _ _ _ _ _ hp =>
    refine told_of_begun (q := .waiting _) h rfl rfl (tale_of_begun ?_ ?_)
    · rintro i c rfl
      cases hp
    · rintro q ⟨⟩
      cases hp <;> rfl
  | approves => exact told_of_begun (q := .waiting _) h rfl rfl (.attempt .prompted)
  | answeredElsewhere hk ho hp =>
    exact told_of_answered h hs hk (approves_of_elsewhere ho) rfl rfl fun q hq => approves_of_elsewhere (hp q hq)
  | submitted hk hp | submissionFailed hk hp =>
    exact told_of_answered h hs hk (approves_of_submission? hp) rfl rfl (by rintro _ ⟨⟩)
  | droppedElsewhere hk | submissionDropped hk | attemptDropped hk | attemptCancelled hk | loadDropped hk =>
    exact told_of_abandoned h hs hk rfl rfl
  | signs hk hg => exact told_of_attempt (q := .waiting _) h hs hk rfl rfl rfl fun _ attempt => .sent attempt hg
  | attemptFailed hk hp _ hr =>
    refine told_of_attempt h hs hk (approves_of_attempt? hp) rfl rfl fun _ attempt => ?_
    cases hr with
    | unsigned hg => exact .unsigned attempt hg
    | refused => exact .settled attempt
  | signed hk _ _ hq =>
    refine told_of_attempt h hs hk rfl rfl rfl fun _ attempt => ?_
    rcases hq with rfl | ⟨l, rfl⟩
    · exact .settled attempt
    · exact .followed attempt
  | loaded hk => exact told_of_attempt h hs hk rfl rfl rfl fun _ attempt => .loaded attempt

theorem made_of_move (m : Move s e r t) : s.made ≤ t.made := by
  cases m with
  | made => exact Nat.le_succ _
  | _ => exact Nat.le_refl _

/-- A log tells how sessions stand. -/
structure Faithful (log : List Entry) (s : Sessions) : Prop where
  told : Told log s
  pending : ∀ i o, s.orchestrator i = some o → Log.pending? i log = o.state.pending?
  account : ∀ i o, s.orchestrator i = some o → ∀ a, .made i a ∈ log ↔ a = o.account
  unmade : ∀ i, s.made ≤ i → Log.pending? i log = none ∧ ∀ a, .made i a ∉ log

theorem faithful_initial : Faithful [] World.initial.sessions where
  told := ⟨fun _ => .other (by simp [Log.tale]) (by rintro _ ⟨⟩), fun _ _ => rfl⟩
  pending _ _ h := by cases h
  account _ _ h := by cases h
  unmade _ _ := ⟨rfl, fun _ h => by cases h⟩

theorem Faithful.move (h : Faithful log s) (hs : s.Sound) (m : Move s e r t) :
    Faithful (log ++ Entry.of s.task e r) t := by
  have kept := kept_of_move hs m
  refine ⟨told_of_move h.told hs m, fun i o' ho' => ?_, fun i o' ho' a => ?_, fun i hi => ?_⟩
  · rw [Log.pending?_append]
    rcases kept.orchestrator i o' ho' with ⟨o, ho, follows⟩ | ⟨rfl, hnone, he⟩
    · rw [h.pending i o ho, follows.pending]
    · rw [he, (h.unmade _ (Nat.le_refl _)).1, hnone]
      rfl
  · rw [List.mem_append]
    rcases kept.orchestrator i o' ho' with ⟨o, ho, follows⟩ | ⟨rfl, -, he⟩
    · rw [h.account i o ho, follows.account]
      exact or_iff_left (follows.made a)
    · rw [he, List.mem_singleton, Entry.made.injEq]
      exact (or_iff_right ((h.unmade _ (Nat.le_refl _)).2 a)).trans (and_iff_right rfl)
  · obtain ⟨hnone, hmade⟩ := h.unmade i (Nat.le_trans (made_of_move m) hi)
    refine ⟨?_, fun a hm => ?_⟩
    · rw [Log.pending?_append, hnone]
      exact Entry.foldl_after_of_neutral (kept.unmade i hi) none
    · rcases List.mem_append.mp hm with hm | hm
      · exact hmade a hm
      · exact (kept.unmade i hi _ hm).made a rfl

end Sessions

theorem World.Recorded.move {log : List Entry} {w : World} (h : w.Recorded log) (e : Event) :
    Move w.sessions e (w.step e).2 (w.step e).1.sessions :=
  World.move h.reachable.sound.manned e

/-- Every log tells how the sessions of its world stand. -/
theorem World.Recorded.faithful {log : List Entry} {w : World} (h : w.Recorded log) :
    Sessions.Faithful log w.sessions := by
  induction h with
  | initial => exact Sessions.faithful_initial
  | step e h ih => exact ih.move h.reachable.sound (h.move e)

end PasskeySession
