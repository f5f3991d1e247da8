import PasskeySession.Proofs.Session.Display
import PasskeySession.Proofs.Session.Sound

/-! # Turns

Everything that a step of a world can do to what is displayed, with the event that does it and its report: one
case of `Turn` for each way that a call for sessions or a toggle begins, goes on or ends. A step takes one of
these turns, and whatever is displayed after every run is proved turn by turn. -/

namespace PasskeySession

namespace Event

/-- The operation that an event answers or drops. -/
def advances? : Event → Option Nat
  | answer k _ => some k
  | drop k => some k
  | _ => none

theorem task?_of_advances? (e : Event) {k : Nat} (h : e.advances? = some k) : e.task? = some k := by
  cases e <;> first | exact h | cases h

end Event

namespace Operation

/-- The cache that an operation calls for sessions at once, and the account that it turns it to, if it does. -/
def call? : Operation → Option (Nat × Option Account)
  | fetch n a => some (n, some a)
  | refresh n => some (n, none)
  | _ => none

end Operation

/-- What the backend tells of the sessions of an account. -/
def Reply.sessions (reply : Reply) (a : Account) : Except ClientError (List SessionRecord) :=
  reply (.request (.sessionDetails a))

namespace AccessGate

/-- A gate while a toggle is under way. -/
def busy (g : AccessGate) : AccessGate := { g with loading := true }

theorem start_of_loading {g : AccessGate} (h : g.loading = true) : g.start = .error .toggleInFlight := if_pos h

theorem start_of_not_loading {g : AccessGate} (h : g.loading = false) : g.start = .ok g.busy :=
  if_neg (Bool.eq_false_iff.mp h)

end AccessGate

/-- A step that no call and no toggle takes part in. -/
structure Aside (d : Displays) (e : Event) (r : Report) (d' : Displays) : Prop where
  cache : d'.cache = d.cache
  gate : d'.gate = d.gate
  caches : d'.caches = d.caches
  gates : d'.gates = d.gates
  begun : d.begun ≤ d'.begun
  task : ∀ j, d'.task j = d.task j ∨ (∀ p, d.task j = some p → p.Hidden) ∧ ∀ p, d'.task j = some p → p.Hidden
  ended : ∀ j, j < d.begun → d.task j = none → d'.task j = none
  own : ∀ k p, e.advances? = some k → d.task k = some p → p.Hidden
  next : ∀ k q p, r = .progress k q → q.entry = some p → p.Hidden
  made : ∀ a url active c, e ≠ .newGate a url active c
  toggle : ∀ i active k q, e = .start (.toggle i active) → r ≠ .progress k q

theorem Aside.seen {d d' : Displays} {e : Event} {r : Report} (h : Aside d e r d') {β : Type}
    {f : Waiting → Option β} (hf : ∀ p : Waiting, p.Hidden → f p = none) : d'.seen f = d.seen f := by
  funext k
  unfold Displays.seen
  rcases h.task k with hk | ⟨hk, hk'⟩
  · rw [hk]
  · have none_of {t : Option Waiting} (ht : ∀ p, t = some p → p.Hidden) : t.bind f = none := by
      cases t with
      | none => rfl
      | some p => exact hf p (ht p rfl)
    rw [none_of hk, none_of hk']

/-- What a step can do to what is displayed. -/
inductive Turn (d : Displays) : Event → Report → Displays → Prop
  | aside {e : Event} {r : Report} {d' : Displays} (h : Aside d e r d') : Turn d e r d'
  | cacheMade (hn : d.cache d.caches = none) : Turn d .newCache (.created d.caches) d.makeCache
  | gateMade {a : Account} {url : String} {active : Bool} {n : Option Nat} (hi : d.gate d.gates = none) :
    Turn d (.newGate a url active n) (.created d.gates) (d.makeGate (.initial a url active n))
  -- Calls for sessions.
  | called {op : Operation} {n : Nat} {fetched : Option Account} {c : SessionCache} {a : Account}
    (hop : op.call? = some (n, fetched)) (hc : d.cache n = some c) (ha : (c.turned fetched).account = some a) :
    Turn d (.start op) (.progress d.begun (.waiting (.load ⟨n, a, c.generation + 1⟩)))
      ((d.begin (some (.load ⟨n, a, c.generation + 1⟩))).modifyCache n (·.called fetched))
  | approved {k i n : Nat} {reply : Reply} {b : Bool} {a : Account} {p : PendingSession} {g : EncodedSignature}
    {receipt : Receipt} {c : SessionCache} (hk : d.task k = some (.sign i b a p g)) (hc : d.cache n = some c) :
    Turn d (.answer k reply) (.progress k (.waiting (.signed i receipt ⟨n, a, c.generation + 1⟩)))
      ((d.setTask k (some (.signed i receipt ⟨n, a, c.generation + 1⟩))).modifyCache n (·.called (some a)))
  | answered {k : Nat} {reply : Reply} {p : Waiting} {l : CacheLoad} {r : Except ClientError Outcome}
    (hk : d.task k = some p) (hl : p.call? = some l)
    (hr : ∀ i active, p = .toggled i active l → r = .ok (.toggled active)) :
    Turn d (.answer k reply) (.progress k (.finished r)) (((d.setTask k none).modifyCache l.cache
      fun c => (c.answered l.load (reply.sessions l.load.account)).2).finish p.gate?)
  | dropped {k : Nat} {p : Waiting} (hk : d.task k = some p) (hp : ¬ p.Hidden) :
    Turn d (.drop k) .done (((d.setTask k none).forget p.call?).finish p.gate?)
  -- Toggles.
  | refused {i : Nat} {active : Bool} {g : AccessGate} (hg : d.gate i = some g) (hl : g.loading = true) :
    Turn d (.start (.toggle i active)) (.progress d.begun (.failed .toggleInFlight)) (d.begin none)
  | asked {i : Nat} {active : Bool} {g : AccessGate} (hg : d.gate i = some g) (hl : g.loading = false) :
    Turn d (.start (.toggle i active)) (.progress d.begun (.waiting (.toggle i g.account g.url active)))
      ((d.begin (some (.toggle i g.account g.url active))).modifyGate i .busy)
  | failed {k i : Nat} {reply : Reply} {a : Account} {url : String} {active : Bool} {e : ClientError}
    (hk : d.task k = some (.toggle i a url active)) (h : reply (.request (.activateEndpoint a url active)) = .error e) :
    Turn d (.answer k reply) (.progress k (.failed e)) ((d.setTask k none).modifyGate i .finish)
  | confirmed {k i : Nat} {reply : Reply} {a : Account} {url : String} {active : Bool}
    (hk : d.task k = some (.toggle i a url active)) (h : reply (.request (.activateEndpoint a url active)) = .ok ())
    (hn : ∀ g n c, d.gate i = some g → g.cache = some n → d.cache n = some c → c.account = none) :
    Turn d (.answer k reply) (.progress k (.done (.toggled active)))
      ((d.setTask k none).modifyGate i fun g => (g.toggled active).finish)
  | refreshed {k i n : Nat} {reply : Reply} {a b : Account} {url : String} {active : Bool} {g : AccessGate}
    {c : SessionCache} (hk : d.task k = some (.toggle i a url active))
    (h : reply (.request (.activateEndpoint a url active)) = .ok ()) (hg : d.gate i = some g)
    (hn : g.cache = some n) (hc : d.cache n = some c) (hb : c.account = some b) :
    Turn d (.answer k reply) (.progress k (.waiting (.toggled i active ⟨n, b, c.generation + 1⟩)))
      (((d.setTask k (some (.toggled i active ⟨n, b, c.generation + 1⟩))).modifyGate i (·.toggled active)).modifyCache
        n (·.called none))

namespace Displays
variable {d : Displays} {e : Event} {r : Report} {j k : Nat} {t : Option Waiting}

theorem begin_ended (hj : j < d.begun) (h : d.task j = none) : (d.begin t).task j = none :=
  (Function.update_of_ne (Nat.ne_of_lt hj) ..).trans h

theorem setTask_ended {point : Waiting} (hk : d.task k = some point) (h : d.task j = none) :
    (d.setTask k t).task j = none := by
  refine (Function.update_of_ne ?_ ..).trans h
  rintro rfl
  cases hk.symm.trans h

theorem aside_of_same (ht : ∀ k, e.advances? = some k → d.task k = none)
    (hm : ∀ a url active c, e ≠ .newGate a url active c) (hr : ∀ k q, r ≠ .progress k q) : Aside d e r d where
  cache := rfl
  gate := rfl
  caches := rfl
  gates := rfl
  begun := Nat.le_refl _
  task _ := Or.inl rfl
  ended _ _ h := h
  own k _ hk h := by cases (ht k hk).symm.trans h
  next k q _ hq := absurd hq (hr k q)
  made := hm
  toggle _ _ k q _ := hr k q

theorem aside_of_begun {op : Operation} {q : Progress} (fresh : d.task d.begun = none)
    (hop : ∀ i active, op ≠ .toggle i active) (hq : ∀ p, q.entry = some p → p.Hidden) :
    Aside d (.start op) (.progress d.begun q) (d.begin q.entry) where
  cache := rfl
  gate := rfl
  caches := rfl
  gates := rfl
  begun := Nat.le_succ _
  task j := by
    by_cases hj : j = d.begun
    · subst hj
      refine Or.inr ⟨fun p hp => ?_, fun p hp => hq p ?_⟩
      · cases fresh.symm.trans hp
      · simpa using hp
    · exact Or.inl (Function.update_of_ne hj ..)
  ended _ hj h := begin_ended hj h
  own _ _ hk := by cases hk
  next _ _ p hr hp := by
    cases hr
    exact hq p hp
  made _ _ _ _ h := by cases h
  toggle i active _ _ he := absurd (Event.start.inj he) (hop i active)

theorem aside_of_task {point : Waiting} (hk : d.task k = some point) (hp : point.Hidden)
    (hm : ∀ p, t = some p → p.Hidden) (ht : e.task? = some k)
    (hr : ∀ j q, r = .progress j q → q.entry = t) : Aside d e r (d.setTask k t) where
  cache := rfl
  gate := rfl
  caches := rfl
  gates := rfl
  begun := Nat.le_refl _
  task j := by
    by_cases hj : j = k
    · subst hj
      refine Or.inr ⟨fun p hp' => ?_, fun p hp' => hm p ?_⟩
      · cases hk.symm.trans hp'
        exact hp
      · simpa using hp'
    · exact Or.inl (Function.update_of_ne hj ..)
  ended _ _ h := setTask_ended hk h
  own j p hj hp' := by
    cases ht.symm.trans (e.task?_of_advances? hj)
    cases hk.symm.trans hp'
    exact hp
  next j q p hq hp := hm p ((hr j q hq).symm.trans hp)
  made _ _ _ _ h := by rw [h] at ht; cases ht
  toggle _ _ _ _ h := by rw [h] at ht; cases ht

end Displays

theorem Turn.begun_le {d d' : Displays} {e : Event} {r : Report} (h : Turn d e r d') : d.begun ≤ d'.begun := by
  cases h with
  | aside h => exact h.begun
  | cacheMade | gateMade | approved | failed | confirmed | refreshed => exact Nat.le_refl _
  | answered =>
    rw [Displays.begun_finish]
    exact Nat.le_refl _
  | dropped =>
    rw [Displays.begun_finish, Displays.begun_forget]
    exact Nat.le_refl _
  | called | refused | asked => exact Nat.le_succ _

/-- An operation that is over stays so. -/
theorem Turn.ended {d d' : Displays} {e : Event} {r : Report} (h : Turn d e r d') {j : Nat} (hj : j < d.begun)
    (hn : d.task j = none) : d'.task j = none := by
  cases h with
  | aside h => exact h.ended j hj hn
  | cacheMade | gateMade => exact hn
  | called | refused | asked => exact Displays.begin_ended hj hn
  | approved hk | failed hk | confirmed hk | refreshed hk => exact Displays.setTask_ended hk hn
  | answered hk =>
    rw [Displays.task_finish]
    exact Displays.setTask_ended hk hn
  | dropped hk =>
    rw [Displays.task_finish, Displays.task_forget]
    exact Displays.setTask_ended hk hn

/-! ### Each step takes a turn -/

namespace World
variable {w v : World} {i k n : Nat} {d : Displays}

theorem displays_goOn {point : Waiting} {p : Progress} (h : v.displays = d) (hk : d.task k = some point) :
    (goOn k (v, p)).displays = d.setTask k p.entry := by
  subst h
  exact displays_setTask hk

theorem displays_begin {t : Option Waiting} (h : v.displays = d) :
    { v with tasks := v.tasks ++ [t] }.displays = d.begin t := h ▸ displays_addTask

theorem hidden_of_finished {r : Except ClientError Outcome} :
    ∀ p, (Progress.finished r).entry = some p → p.Hidden := by
  rintro _ ⟨⟩

theorem hidden_of_waiting {point : Waiting} (h : point.Hidden) :
    ∀ p, (Progress.waiting point).entry = some p → p.Hidden := by
  rintro _ ⟨⟩
  exact h

/-- An operation that begins and neither calls for sessions nor toggles a gate. -/
theorem turn_begin_aside {op : Operation} {p : Progress} (fresh : w.displays.task w.displays.begun = none)
    (hop : ∀ i active, op ≠ .toggle i active) (hv : v.displays = w.displays)
    (hp : ∀ q, p.entry = some q → q.Hidden) :
    Turn w.displays (.start op) (.progress v.tasks.length p) { v with tasks := v.tasks ++ [p.entry] }.displays := by
  rw [displays_begin hv, show v.tasks.length = w.displays.begun from congrArg Displays.begun hv]
  exact .aside (Displays.aside_of_begun fresh hop hp)

theorem turn_beginSubmission {op : Operation} {name : String} {o : Orchestrator} {ask : Submission → Waiting}
    {p : Progress} (fresh : w.displays.task w.displays.begun = none) (hop : ∀ i active, op ≠ .toggle i active)
    (hask : ∀ s, (ask s).Hidden) (h : w.beginSubmission i o name ask = (v, p)) :
    Turn w.displays (.start op) (.progress v.tasks.length p) { v with tasks := v.tasks ++ [p.entry] }.displays := by
  unfold beginSubmission at h
  split at h <;> cases h
  · exact turn_begin_aside fresh hop rfl hidden_of_finished
  · exact turn_begin_aside fresh hop rfl (hidden_of_waiting (hask _))

theorem turn_beginApproval {o : Orchestrator} {c : Bool} {p : Progress}
    (fresh : w.displays.task w.displays.begun = none) (h : w.beginApproval i o c = (v, p)) :
    Turn w.displays (.start (.approve i c)) (.progress v.tasks.length p)
      { v with tasks := v.tasks ++ [p.entry] }.displays := by
  unfold beginApproval at h
  split at h <;> cases h
  · exact turn_begin_aside fresh (fun _ _ h => by cases h) rfl hidden_of_finished
  · exact turn_begin_aside fresh (fun _ _ h => by cases h) rfl (hidden_of_waiting ⟨rfl, rfl⟩)

theorem turn_awaitLoad {op : Operation} {fetched : Option Account} {r : Except ClientError (CacheLoad × World)}
    (fresh : w.displays.task w.displays.begun = none) (hop : op.call? = some (n, fetched))
    (hr : ∀ l v, r = .ok (l, v) → ∃ c a, w.caches[n]? = some c ∧ (c.turned fetched).account = some a ∧
      l = ⟨n, a, c.generation + 1⟩ ∧ v.displays = w.displays.modifyCache n (·.called fetched))
    {p : Progress} (h : w.awaitLoad r = (v, p)) :
    Turn w.displays (.start op) (.progress v.tasks.length p) { v with tasks := v.tasks ++ [p.entry] }.displays := by
  unfold awaitLoad at h
  split at h
  · cases h
    obtain ⟨c, a, hc, ha, rfl, hv⟩ := hr _ _ rfl
    rw [displays_begin hv, show v.tasks.length = w.displays.begun from congrArg Displays.begun hv]
    exact .called hop hc ha
  · cases h
    refine turn_begin_aside fresh ?_ rfl hidden_of_finished
    rintro i active rfl
    cases hop

theorem turn_beginToggle {g : AccessGate} {active : Bool} (hg : w.gates[i]? = some g) {p : Progress}
    (h : w.beginToggle i g active = (v, p)) :
    Turn w.displays (.start (.toggle i active)) (.progress v.tasks.length p)
      { v with tasks := v.tasks ++ [p.entry] }.displays := by
  unfold beginToggle at h
  cases hl : g.loading with
  | true =>
    rw [AccessGate.start_of_loading hl] at h
    cases h
    rw [displays_addTask]
    exact .refused hg hl
  | false =>
    rw [AccessGate.start_of_not_loading hl] at h
    cases h
    have hv : (w.modifyGate i fun _ => g.busy).displays = w.displays.modifyGate i .busy := by
      rw [displays_modifyGate]
      refine Displays.ext rfl ?_ rfl rfl rfl rfl
      simp [Displays.modifyGate, hg]
    rw [displays_begin hv]
    exact .asked (g := g) hg hl

theorem turn_begin (fresh : w.displays.task w.displays.begun = none) (op : Operation) :
    Turn w.displays (.start op) (w.begin op).2 (w.begin op).1.displays := by
  have same : ∀ r : Report, (∀ k q, r ≠ .progress k q) → Turn w.displays (.start op) r w.displays := fun r hr =>
    .aside (Displays.aside_of_same (fun _ h => by cases h) (fun _ _ _ _ h => by cases h) hr)
  unfold begin
  split
  · exact same _ fun _ _ h => by cases h
  split
  · exact same _ fun _ _ h => by cases h
  rename_i v p hstart
  dsimp only
  cases op with
  | createCredential | requestAssertion | register | login | sign =>
    cases hstart
    exact turn_begin_aside fresh (fun _ _ h => by cases h) rfl (hidden_of_waiting ⟨rfl, rfl⟩)
  | submit i | prepare i =>
    obtain ⟨o, -, h⟩ := Option.map_eq_some_iff.mp hstart
    exact turn_beginSubmission fresh (fun _ _ h => by cases h) (fun _ => ⟨rfl, rfl⟩) h
  | approve i c =>
    obtain ⟨o, -, h⟩ := Option.map_eq_some_iff.mp hstart
    exact turn_beginApproval fresh h
  | fetch n a =>
    obtain ⟨_, -, h⟩ := Option.map_eq_some_iff.mp hstart
    refine turn_awaitLoad fresh rfl (fun l u hu => ?_) h
    obtain ⟨c, hc, hl, hv⟩ := startFetch_eq_ok hu
    exact ⟨c, a, hc, c.account_select a, hl, hv⟩
  | refresh n =>
    obtain ⟨_, -, h⟩ := Option.map_eq_some_iff.mp hstart
    exact turn_awaitLoad fresh rfl (fun _ _ => startLoad_eq_ok) h
  | toggle i active =>
    obtain ⟨g, hg, h⟩ := Option.map_eq_some_iff.mp hstart
    exact turn_beginToggle hg h

section
variable {point : Waiting} {reply : Reply}

/-- An operation that is answered and has to do with neither sessions nor a gate, now or next. -/
theorem turn_answer_aside {p : Progress} (hk : w.task? k = some point) (hp : point.Hidden)
    (hv : v.displays = w.displays) (hq : ∀ q, p.entry = some q → q.Hidden) :
    Turn w.displays (.answer k reply) (.progress k p) (goOn k (v, p)).displays := by
  rw [displays_goOn hv hk]
  refine .aside (Displays.aside_of_task hk hp hq rfl ?_)
  rintro _ _ ⟨⟩
  rfl

theorem turn_proceed {r : Except ClientError Waiting} (hk : w.task? k = some point) (hp : point.Hidden)
    (h : ∀ q, r = .ok q → q.Hidden) :
    Turn w.displays (.answer k reply) (.progress k (w.proceed r).2) (goOn k (w.proceed r)).displays := by
  unfold proceed
  split
  · exact turn_answer_aside hk hp rfl (hidden_of_waiting (h _ rfl))
  · exact turn_answer_aside hk hp rfl hidden_of_finished

theorem turn_endSubmission {s : Submission} {r : Except ClientError PendingSession} (hk : w.task? k = some point)
    (hp : point.Hidden) :
    Turn w.displays (.answer k reply) (.progress k (w.endSubmission i s r).2)
      (goOn k (w.endSubmission i s r)).displays := by
  unfold endSubmission
  split <;> exact turn_answer_aside hk hp rfl hidden_of_finished

theorem turn_endApproval {b : Bool} {a : Account} {p : PendingSession} {g : EncodedSignature} {q : PendingSession}
    {r : Except ClientError Receipt} (sound : w.sessions.Sound) (hk : w.task? k = some (.sign i b a p g)) :
    Turn w.displays (.answer k reply) (.progress k (w.endApproval i q r).2) (goOn k (w.endApproval i q r)).displays := by
  have ends : ∀ {v : World} {r : Receipt}, v.displays = w.displays →
      Turn w.displays (.answer k reply) (.progress k (.done (.receipt r))) (goOn k (v, .done (.receipt r))).displays :=
    fun hv => turn_answer_aside hk ⟨rfl, rfl⟩ hv hidden_of_finished
  cases r with
  | error e => exact turn_answer_aside hk ⟨rfl, rfl⟩ rfl hidden_of_finished
  | ok receipt =>
    obtain ⟨o, ho, -, -, ha⟩ := (sound.settled i).fits k _ hk rfl
    replace ho : w.orchestrator? i = some o := ho
    subst ha
    unfold endApproval
    simp only [ho]
    unfold afterApproval
    split
    · split
      · rename_i n _ l v hl
        obtain ⟨c, hc, rfl, hv⟩ := startFetch_eq_ok hl
        have hk' : w.displays.task k = some (.sign i b o.account p g) := hk
        rw [displays_goOn hv hk']
        exact .approved hk hc
      · exact ends rfl
    · exact ends rfl

theorem turn_afterToggle {a : Account} {url : String} {active : Bool} (hk : w.task? k = some (.toggle i a url active))
    (h : reply (.request (.activateEndpoint a url active)) = .ok ()) :
    Turn w.displays (.answer k reply) (.progress k (w.afterToggle i active).2)
      (goOn k (w.afterToggle i active)).displays := by
  unfold afterToggle
  dsimp only
  have hv : (w.modifyGate i (·.toggled active)).displays = w.displays.modifyGate i (·.toggled active) :=
    displays_modifyGate
  have hgate : (w.modifyGate i (·.toggled active)).gates[i]? = (w.gates[i]?).map (·.toggled active) :=
    List.getElem?_modify_eq ..
  -- A toggle that does not go on to refresh a cache is over, and the cache, if there is one, has no account.
  have ends (hn : ∀ g n c, w.displays.gate i = some g → g.cache = some n → w.displays.cache n = some c →
      c.account = none) :
      Turn w.displays (.answer k reply) (.progress k (.done (.toggled active))) (goOn k
        ((w.modifyGate i (·.toggled active)).modifyGate i AccessGate.finish, .done (.toggled active))).displays := by
    have hv' : ((w.modifyGate i (·.toggled active)).modifyGate i AccessGate.finish).displays =
        w.displays.modifyGate i fun g => (g.toggled active).finish := by
      rw [displays_modifyGate, hv, Displays.modifyGate_modifyGate]
    rw [displays_goOn hv' hk]
    exact .confirmed hk h hn
  split
  · rename_i hcache
    refine ends fun g n _ hg hn => ?_
    rw [hgate, show w.gates[i]? = some g from hg] at hcache
    cases hn.symm.trans hcache
  · rename_i n hcache
    obtain ⟨_, hg', hn⟩ := Option.bind_eq_some_iff.mp hcache
    rw [hgate] at hg'
    obtain ⟨g, hg, rfl⟩ := Option.map_eq_some_iff.mp hg'
    split
    · rename_i hl
      obtain ⟨c, b, hc, hb, rfl, hu⟩ := startLoad_eq_ok hl
      rw [hv] at hu
      rw [displays_goOn hu hk]
      exact .refreshed hk h hg hn hc hb
    · rename_i hl
      refine ends fun g' n' c hg' hn' hc => startLoad_eq_error hl c ?_
      cases hg.symm.trans hg'
      cases hn.symm.trans hn'
      exact hc

theorem turn_resume (sound : w.sessions.Sound) (hk : w.task? k = some point) :
    Turn w.displays (.answer k reply) (.progress k (w.resume point (reply point.question)).2)
      (goOn k (w.resume point (reply point.question))).displays := by
  cases point with
  | create | use | signHash | registerVerify | loginVerify =>
    exact turn_answer_aside hk ⟨rfl, rfl⟩ rfl hidden_of_finished
  | registerChallenge username =>
    refine turn_proceed hk ⟨rfl, rfl⟩ fun q hq => ?_
    cases h : reply (.request (.challenge (some username))) with
    | error e =>
      rw [h] at hq
      cases hq
    | ok c =>
      rw [h] at hq
      simp only [Except.bind] at hq
      obtain ⟨_, _, rfl⟩ := registration_eq_ok hq
      exact ⟨rfl, rfl⟩
  | loginChallenge =>
    refine turn_proceed hk ⟨rfl, rfl⟩ fun q hq => ?_
    cases h : reply (.request (.challenge none)) with
    | error e =>
      rw [h] at hq
      cases hq
    | ok c =>
      rw [h] at hq
      simp only [Except.bind] at hq
      obtain ⟨_, rfl⟩ := discovery_eq_ok hq
      exact ⟨rfl, rfl⟩
  | registerPrompt name challenge =>
    refine turn_proceed hk ⟨rfl, rfl⟩ fun q hq => ?_
    cases h : reply (.prompt (.create name challenge)) <;> rw [h] at hq <;> cases hq
    exact ⟨rfl, rfl⟩
  | loginPrompt challenge =>
    refine turn_proceed hk ⟨rfl, rfl⟩ fun q hq => ?_
    cases h : reply (.prompt (.use none challenge)) <;> rw [h] at hq <;> cases hq
    exact ⟨rfl, rfl⟩
  | configure | prepare => exact turn_endSubmission hk ⟨rfl, rfl⟩
  | approve i c a p =>
    simp only [resume, approveWith]
    split
    · exact turn_answer_aside hk ⟨rfl, rfl⟩ rfl hidden_of_finished
    · exact turn_answer_aside hk ⟨rfl, rfl⟩ rfl (hidden_of_waiting ⟨rfl, rfl⟩)
  | sign i b a p g => exact turn_endApproval sound hk
  | signed i receipt l =>
    simp only [resume]
    rw [displays_goOn displays_answerLoad hk]
    exact .answered (p := .signed i receipt l) hk rfl fun _ _ h => by cases h
  | load l =>
    simp only [resume]
    rw [displays_goOn displays_answerLoad hk]
    exact .answered (p := .load l) hk rfl fun _ _ h => by cases h
  | toggle i a url active =>
    cases h : reply (.request (.activateEndpoint a url active)) with
    | error e =>
      simp only [resume]
      rw [displays_goOn displays_modifyGate hk]
      exact .failed hk h
    | ok _ =>
      simp only [resume]
      exact turn_afterToggle hk h
  | toggled i active l =>
    simp only [resume]
    have hv {r : Except ClientError (List SessionRecord)} :
        ((w.answerLoad l r).2.modifyGate i AccessGate.finish).displays =
          (w.displays.modifyCache l.cache fun c => (c.answered l.load r).2).modifyGate i .finish := by
      rw [displays_modifyGate, displays_answerLoad]
    rw [displays_goOn hv hk]
    refine .answered (p := .toggled i active l) hk rfl ?_
    rintro _ _ ⟨⟩
    rfl

theorem turn_answer (sound : w.sessions.Sound) :
    Turn w.displays (.answer k reply) (w.answer k reply).2 (w.answer k reply).1.displays := by
  unfold answer
  split
  · rename_i hk
    refine .aside (Displays.aside_of_same ?_ (fun _ _ _ _ h => by cases h) fun _ _ h => by cases h)
    rintro _ ⟨⟩
    exact hk
  · rename_i point hk
    exact turn_resume sound hk

theorem turn_cancel : Turn w.displays (.cancel k) (w.cancelTask k).2 (w.cancelTask k).1.displays := by
  have same : ∀ r : Report, (∀ k q, r ≠ .progress k q) → Turn w.displays (.cancel k) r w.displays := fun r hr =>
    .aside (Displays.aside_of_same (fun _ h => by cases h) (fun _ _ _ _ h => by cases h) hr)
  unfold cancelTask
  split
  · exact same _ fun _ _ h => by cases h
  rename_i point hk
  split
  · exact same _ fun _ _ h => by cases h
  rename_i v p hc
  have hidden : point.Hidden ∧ v.displays = w.displays ∧ p.entry = none := by
    unfold cancel at hc
    split at hc
    · cases hc
      exact ⟨⟨rfl, rfl⟩, rfl, rfl⟩
    · cases hc
      exact ⟨⟨rfl, rfl⟩, rfl, rfl⟩
    · cases hc
  obtain ⟨hp, hv, he⟩ := hidden
  change Turn w.displays _ (.progress k p) (goOn k (v, p)).displays
  rw [displays_goOn hv hk]
  refine .aside (Displays.aside_of_task hk hp ?_ rfl ?_)
  · rw [he]
    rintro _ ⟨⟩
  · rintro _ _ ⟨⟩
    rfl

theorem turn_drop : Turn w.displays (.drop k) (w.dropTask k).2 (w.dropTask k).1.displays := by
  unfold dropTask
  split
  · rename_i hk
    refine .aside (Displays.aside_of_same ?_ (fun _ _ _ _ h => by cases h) fun _ _ h => by cases h)
    rintro _ ⟨⟩
    exact hk
  rename_i point hk
  dsimp only
  have gone : ∀ {d : Displays}, (w.abandon point).displays = d → d.task k = some point →
      { w.abandon point with tasks := (w.abandon point).tasks.set k none }.displays = d.setTask k none := by
    rintro d rfl h
    exact displays_setTask h
  cases point with
  | create | use | signHash | registerChallenge | registerPrompt | registerVerify | loginChallenge | loginPrompt
  | loginVerify | configure | prepare | approve | sign =>
    rw [gone rfl hk]
    refine .aside (Displays.aside_of_task hk ⟨rfl, rfl⟩ ?_ rfl ?_)
    · rintro _ ⟨⟩
    · rintro _ _ ⟨⟩
  | signed i receipt l =>
    rw [gone displays_dropLoad hk]
    exact .dropped (p := .signed i receipt l) hk fun h => by cases h.1
  | load l =>
    rw [gone displays_dropLoad hk]
    exact .dropped (p := .load l) hk fun h => by cases h.1
  | toggle i a url active =>
    rw [gone displays_modifyGate hk]
    exact .dropped (p := .toggle i a url active) hk fun h => by cases h.2
  | toggled i active l =>
    have hv : ((w.dropLoad l).modifyGate i AccessGate.finish).displays =
        (w.displays.modifyCache l.cache (·.dropped l.load)).modifyGate i .finish := by
      rw [displays_modifyGate, displays_dropLoad]
    rw [gone hv hk]
    exact .dropped (p := .toggled i active l) hk fun h => by cases h.2

end

theorem turn_onOrchestrator {e : Event} {f : Orchestrator → World × Report} (he : e.advances? = none)
    (hm : ∀ a url active c, e ≠ .newGate a url active c)
    (h : ∀ o, (f o).1.displays = w.displays ∧ ∀ k q, (f o).2 ≠ .progress k q) :
    Turn w.displays e (w.onOrchestrator i f).2 (w.onOrchestrator i f).1.displays := by
  have same : ∀ r : Report, (∀ k q, r ≠ .progress k q) → Turn w.displays e r w.displays := fun r hr =>
    .aside (Displays.aside_of_same (fun k hk => by rw [he] at hk; cases hk) hm hr)
  unfold onOrchestrator
  split
  · exact same _ fun _ _ h => by cases h
  · rename_i o ho
    split
    · exact same _ fun _ _ h => by cases h
    · obtain ⟨hv, hr⟩ := h o
      rw [hv]
      exact same _ hr

/-- Each step takes a turn. -/
theorem turn (sound : w.sessions.Sound) (e : Event) : Turn w.displays e (w.step e).2 (w.step e).1.displays := by
  have same : ∀ r : Report, e.advances? = none → (∀ a url active c, e ≠ .newGate a url active c) →
      (∀ k q, r ≠ .progress k q) → Turn w.displays e r w.displays := fun r ht hm hr =>
    .aside (Displays.aside_of_same (fun k hk => by rw [ht] at hk; cases hk) hm hr)
  cases e with
  | newOrchestrator a c => exact same _ rfl (fun _ _ _ _ h => by cases h) fun _ _ h => by cases h
  | dropOrchestrator i =>
    refine turn_onOrchestrator rfl (fun _ _ _ _ h => by cases h) fun o => ⟨rfl, fun _ _ h => by cases h⟩
  | newCache =>
    have hv : { w with caches := w.caches ++ [SessionCache.empty] }.displays = w.displays.makeCache :=
      Displays.ext getElem?_append_eq_update rfl rfl List.length_append rfl rfl
    simp only [step]
    rw [hv]
    exact .cacheMade (List.getElem?_eq_none (Nat.le_refl _))
  | newGate a url active c =>
    have hv : { w with gates := w.gates ++ [AccessGate.initial a url active c] }.displays =
        w.displays.makeGate (.initial a url active c) :=
      Displays.ext rfl getElem?_append_eq_update rfl rfl List.length_append rfl
    simp only [step]
    rw [hv]
    exact .gateMade (List.getElem?_eq_none (Nat.le_refl _))
  | edit i ed =>
    refine turn_onOrchestrator rfl (fun _ _ _ _ h => by cases h) fun o => ?_
    unfold editForm
    split
    · exact ⟨rfl, fun _ _ h => by cases h⟩
    · split <;> exact ⟨rfl, fun _ _ h => by cases h⟩
  | setForm i form =>
    refine turn_onOrchestrator rfl (fun _ _ _ _ h => by cases h) fun o => ?_
    unfold setForm
    split <;> exact ⟨rfl, fun _ _ h => by cases h⟩
  | discard i =>
    refine turn_onOrchestrator rfl (fun _ _ _ _ h => by cases h) fun o => ?_
    unfold discard
    split <;> exact ⟨rfl, fun _ _ h => by cases h⟩
  | acquire a =>
    simp only [step, acquireLease]
    split <;> exact same _ rfl (fun _ _ _ _ h => by cases h) fun _ _ h => by cases h
  | releaseLease n =>
    simp only [step, releaseLease]
    split <;> exact same _ rfl (fun _ _ _ _ h => by cases h) fun _ _ h => by cases h
  | start op => exact turn_begin (sound.freshTask _ (Nat.le_refl _)) op
  | answer k reply => exact turn_answer sound
  | cancel k => exact turn_cancel
  | drop k => exact turn_drop

/-! ### Runs with notes -/

/-- A run of which notes are taken, the newest first, and the world that it has come to. A note is taken of an
    event and its report, by the operations that were unfinished before. -/
inductive Noted {α : Type} (note : (Nat → Option Waiting) → Event → Report → Option α) : List α → World → Prop
  | initial : Noted note [] initial
  | step {notes : List α} {w : World} (e : Event) (h : Noted note notes w) :
    Noted note ((note w.task? e (w.step e).2).toList ++ notes) (w.step e).1

namespace Noted
variable {α : Type} {note : (Nat → Option Waiting) → Event → Report → Option α} {notes : List α}

theorem reachable (h : w.Noted note notes) : w.Reachable := by
  induction h with
  | initial => exact .initial
  | step e _ ih => exact .step e ih

/-- What holds of a world with nothing in it, and is kept by each turn, holds after every run. -/
theorem displays {holds : List α → Displays → Prop} (h : w.Noted note notes) (initial : holds [] World.initial.displays)
    (turn : ∀ notes d e r d', (∀ k, d.begun ≤ k → d.task k = none) → Turn d e r d' → holds notes d →
      holds ((note d.task e r).toList ++ notes) d') : holds notes w.displays := by
  induction h with
  | initial => exact initial
  | step e h ih =>
    have sound := h.reachable.sound
    exact turn _ _ e _ _ sound.freshTask (World.turn sound e) ih

end Noted
end World
/-- Answers that tell of some sessions, open and close every endpoint, and refuse everything else. -/
def Reply.telling (records : List SessionRecord) : Reply
  | .request (.sessionDetails _) => .ok records
  | .request (.activateEndpoint ..) => .ok ()
  | .request (.challenge _) | .request (.verifyRegistration _) | .request (.verifyLogin _)
  | .request .currentUser | .request .logout | .request (.installedModules _) | .request (.configure ..)
  | .request (.signCreation ..) | .request (.createOperation ..) | .request (.executeOperation ..) =>
    .error (.authenticator .cancelled)
  | .prompt (.create ..) | .prompt (.use ..) => .error .cancelled

end PasskeySession
