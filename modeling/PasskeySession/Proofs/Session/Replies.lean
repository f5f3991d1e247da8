import PasskeySession.Proofs.Session.Shown

/-! # What the calls on a cache give back

A fetch or a refresh gives its caller what the backend has told it, or what the cache holds if another call has
started since. Which of the two it is, and whether a refresh has an account to ask for, is read from the notes on
the calls of the cache. -/

namespace PasskeySession

/-! ### Notes -/

theorem Calls.account?_eq_none {notes : List CallNote} :
    account? notes = none ↔ ∀ x ∈ notes, x.fetched? = none := List.findSome?_eq_none_iff

/-! ### Answers -/

namespace SessionCache
variable {s : SessionCache} {notes : List CallNote} {k : Nat} {l : Load}

/-- A cache whose latest call has been answered. A fault leaves the sessions as they are. -/
def told (s : SessionCache) : Except ClientError (List SessionRecord) → SessionCache
  | .ok records => { s with loading := false, records, error := none }
  | .error e => { s with loading := false, error := some e }

theorem isLatest_iff : s.isLatest l = true ↔ s.generation = l.generation ∧ s.account = some l.account := by
  simp [isLatest]

theorem answered_of_isLatest (h : s.isLatest l = true) (r : Except ClientError (List SessionRecord)) :
    s.answered l r = (r, s.told r) := by
  unfold answered
  rw [if_pos h]
  cases r <;> rfl

namespace Awaits

theorem answered_latest (h : s.Awaits notes k l) (hk : Calls.latest? notes = some k)
    (r : Except ClientError (List SessionRecord)) : s.answered l r = (r, s.told r) := by
  have hgeneration : s.generation = l.generation := (h.latest.mpr hk).symm
  exact answered_of_isLatest (isLatest_iff.mpr ⟨hgeneration, h.account hk⟩) r

theorem answered_superseded (h : s.Awaits notes k l) (hk : Calls.latest? notes ≠ some k)
    (r : Except ClientError (List SessionRecord)) : s.answered l r = (.ok s.records, s) := by
  have hlatest : ¬ s.isLatest l = true := by
    intro hl
    obtain ⟨hgeneration, -⟩ := isLatest_iff.mp hl
    exact hk (h.latest.mp hgeneration.symm)
  exact if_neg hlatest

end Awaits
end SessionCache

namespace World
variable {w : World} {n k : Nat} {notes : List CallNote} {l : Load} {s t : SessionCache} {reply : Reply}
  {result : Except ClientError (List SessionRecord)}

/-- What an answer to a call on a cache gives, to the caller and to the caches. -/
structure Gives (w : World) (n k : Nat) (l : Load) (reply : Reply) (result : Except ClientError (List SessionRecord))
    (caches : List SessionCache) : Prop where
  gives : (w.answerLoad ⟨n, l⟩ (reply.sessions l.account)).1 = result
  leaves : (w.step (.answer k reply)).1.caches = caches
  /-- A fetch or a refresh has asked for nothing else, and is over. -/
  report : w.task? k = some (.load ⟨n, l⟩) →
    (w.step (.answer k reply)).2 = .progress k (.finished (result.map .records))

theorem answerLoad_of_some {r : Except ClientError (List SessionRecord)} (hs : w.caches[n]? = some s)
    (h : s.answered l r = (result, t)) : w.answerLoad ⟨n, l⟩ r = (result, w.setCache n t) := by
  unfold answerLoad
  simp only [hs, h]

theorem gives_of_answered {point : Waiting} (hk : w.task? k = some point) (hp : point.call? = some ⟨n, l⟩)
    (hs : w.caches[n]? = some s) (h : s.answered l (reply.sessions l.account) = (result, t)) :
    w.Gives n k l reply result (w.caches.set n t) := by
  have hload := answerLoad_of_some hs h
  refine ⟨congrArg Prod.fst hload, ?_, ?_⟩
  · -- an approval and a toggle that end with a call take its answer in as a fetch does
    simp only [step, answer, hk]
    cases point with
    | signed i receipt m | load m | toggled i active m =>
      cases hp
      exact congrArg (fun x => x.2.caches) hload
    | create | use | signHash | registerChallenge | registerPrompt | registerVerify | loginChallenge | loginPrompt
    | loginVerify | configure | prepare | approve | sign | toggle => cases hp
  · intro hload'
    simp only [step, answer, hload']
    exact congrArg (fun x => Report.progress k (.finished (x.1.map .records))) hload

/-! ### Starts -/

theorem step_fetch (hs : w.caches[n]? = some s) (a : Account) :
    (w.step (.start (.fetch n a))).2 = .progress w.tasks.length (.waiting (.load ⟨n, a, s.generation + 1⟩)) := by
  obtain ⟨v, hv, htasks⟩ := startFetch_of_some (a := a) hs
  have hstart : w.start (.fetch n a) = some (v, .waiting (.load ⟨n, a, s.generation + 1⟩)) := by
    simp only [start, hs, hv]
    rfl
  simp only [step, begin, Operation.orchestrator?, hstart, htasks]
  rfl

theorem step_refresh {a : Account} (hs : w.caches[n]? = some s) (ha : s.account = some a) :
    (w.step (.start (.refresh n))).2 = .progress w.tasks.length (.waiting (.load ⟨n, a, s.generation + 1⟩)) := by
  obtain ⟨v, hv, htasks⟩ := startLoad_of_some hs ha
  have hstart : w.start (.refresh n) = some (v, .waiting (.load ⟨n, a, s.generation + 1⟩)) := by
    simp only [start, hs, hv]
    rfl
  simp only [step, begin, Operation.orchestrator?, hstart, htasks]
  rfl

/-- A refresh without an account is over at once: nothing is asked, and nothing is changed. -/
theorem step_refresh_of_none (hs : w.caches[n]? = some s) (ha : s.account = none) :
    w.step (.start (.refresh n)) =
      ({ w with tasks := w.tasks ++ [none] }, .progress w.tasks.length (.failed SessionCache.noAccount)) := by
  have hstart : s.start = .error SessionCache.noAccount := by rw [SessionCache.start, ha]
  have hload : w.startLoad n = .error SessionCache.noAccount := by
    unfold startLoad
    simp only [hs, hstart]
  simp only [step, begin, start, hs, hload]
  rfl

theorem absent_of_none (hs : w.caches[n]? = none) {op : Operation} {fetched : Option Account}
    (hop : op.call? = some (n, fetched)) : (w.step (.start op)).2 = .absent := by
  cases op with
  | fetch m a | refresh m =>
    cases hop
    simp only [step, begin, start, hs]
    rfl
  | createCredential | requestAssertion | register | login | sign | submit | prepare | approve | toggle => cases hop

/-- A call fails at its start only if it is a refresh of a cache without an account. -/
theorem refresh_of_failed {op : Operation} {fetched : Option Account} {j : Nat} {e : ClientError}
    (hop : op.call? = some (n, fetched)) (hr : (w.step (.start op)).2 = .progress j (.failed e)) :
    op = .refresh n ∧ e = SessionCache.noAccount ∧ ∃ s, w.caches[n]? = some s ∧ s.account = none := by
  cases hs : w.caches[n]? with
  | none =>
    rw [absent_of_none hs hop] at hr
    cases hr
  | some s =>
    cases op with
    | fetch m a =>
      cases hop
      rw [step_fetch hs a] at hr
      cases hr
    | refresh m =>
      cases hop
      cases ha : s.account with
      | none =>
        rw [step_refresh_of_none hs ha] at hr
        cases hr
        exact ⟨rfl, rfl, s, rfl, ha⟩
      | some a =>
        rw [step_refresh hs ha] at hr
        cases hr
    | createCredential | requestAssertion | register | login | sign | submit | prepare | approve | toggle => cases hop

structure Replies (w : World) (n : Nat) (notes : List CallNote) : Prop where
  /-- A call that is still the latest gives what the backend has told it, and so does the cache. -/
  latest : ∀ k point l reply, w.task? k = some point → point.call? = some ⟨n, l⟩ → Calls.latest? notes = some k →
    ∃ s, w.caches[n]? = some s ∧ s.account = some l.account ∧ s.records = Calls.records notes ∧
      w.Gives n k l reply (reply.sessions l.account) (w.caches.set n (s.told (reply.sessions l.account)))
  /-- Another one gives the sessions that the cache holds, whatever the backend has told it. -/
  superseded : ∀ k point l reply, w.task? k = some point → point.call? = some ⟨n, l⟩ →
    Calls.latest? notes ≠ some k →
    ∃ s, w.caches[n]? = some s ∧ s.records = Calls.records notes ∧ w.Gives n k l reply (.ok s.records) w.caches
  asks : ∀ k point l, w.task? k = some point → point.call? = some ⟨n, l⟩ →
    point.question = .request (.sessionDetails l.account)
  fetched : ∀ s a, w.caches[n]? = some s →
    (w.step (.start (.fetch n a))).2 = .progress w.tasks.length (.waiting (.load ⟨n, a, s.generation + 1⟩))
  refreshed : ∀ s a, w.caches[n]? = some s → Calls.account? notes = some a →
    (w.step (.start (.refresh n))).2 = .progress w.tasks.length (.waiting (.load ⟨n, a, s.generation + 1⟩))
  refused : ∀ s, w.caches[n]? = some s → (∀ x ∈ notes, x.fetched? = none) →
    w.step (.start (.refresh n)) =
      ({ w with tasks := w.tasks ++ [none] }, .progress w.tasks.length (.failed SessionCache.noAccount))
  /-- Only a refresh fails at its start, and only if no account has been selected. -/
  fails : ∀ op fetched j e, op.call? = some (n, fetched) → (w.step (.start op)).2 = .progress j (.failed e) →
    op = .refresh n ∧ e = SessionCache.noAccount ∧ ∀ x ∈ notes, x.fetched? = none

/-- After every run, in whatever order calls have started and ended, a call gives its own answer or what the cache
    holds, and none fails for want of an account but a refresh of a cache that has never had one. -/
theorem Noted.replies (h : w.Noted (CallNote.of n) notes) : w.Replies n notes := by
  have hd := h.tracked
  have awaits : ∀ k point l, w.task? k = some point → point.call? = some ⟨n, l⟩ →
      ∃ s, w.caches[n]? = some s ∧ s.Awaits notes k l := by
    intro k point l hk hp
    exact hd.waits k l ((Displays.seen_of_task hk).trans (Waiting.callOn?_eq_some_iff.mpr hp))
  have never : ∀ s, w.caches[n]? = some s → (s.account = none ↔ ∀ x ∈ notes, x.fetched? = none) := by
    intro s hs
    rw [(hd.shown s hs).account, Calls.account?_eq_none]
  constructor
  case latest =>
    intro k point l reply hk hp hlatest
    obtain ⟨s, hs, hw⟩ := awaits k point l hk hp
    have hanswer := hw.answered_latest hlatest (reply.sessions l.account)
    exact ⟨s, hs, hw.account hlatest, (hd.shown s hs).records, gives_of_answered hk hp hs hanswer⟩
  case superseded =>
    intro k point l reply hk hp hlatest
    obtain ⟨s, hs, hw⟩ := awaits k point l hk hp
    have hgives := gives_of_answered hk hp hs (hw.answered_superseded hlatest (reply.sessions l.account))
    rw [caches_set_self hs] at hgives
    exact ⟨s, hs, (hd.shown s hs).records, hgives⟩
  case asks =>
    intro k point l hk hp
    exact Waiting.question_of_call? hp
  case fetched =>
    intro s a hs
    exact step_fetch hs a
  case refreshed =>
    intro s a hs ha
    exact step_refresh hs ((hd.shown s hs).account.trans ha)
  case refused =>
    intro s hs hnone
    exact step_refresh_of_none hs ((never s hs).mpr hnone)
  case fails =>
    intro op fetched j e hop hr
    obtain ⟨hrefresh, he, s, hs, ha⟩ := refresh_of_failed hop hr
    exact ⟨hrefresh, he, (never s hs).mp ha⟩

/-- A refresh that is refused, and a cache that turns to another account while the call on the first one is under
    way. -/
theorem replies_switched :
    let a : Account := ⟨⟨List.replicate 20 0, rfl⟩, 1⟩
    let b : Account := ⟨⟨List.replicate 20 0, rfl⟩, 2⟩
    let w := ((((initial.step .newCache).1.step (.start (.refresh 0))).1.step (.start (.fetch 0 a))).1.step
      (.start (.fetch 0 b))).1
    w.tasks = [none, some (.load ⟨0, a, 1⟩), some (.load ⟨0, b, 2⟩)] ∧
      w.Replies 0 [.started 2 (some b), .started 1 (some a)] := by
  intro a b w
  refine ⟨rfl, Noted.replies ?_⟩
  exact (((Noted.initial.step .newCache).step (.start (.refresh 0))).step (.start (.fetch 0 a))).step
    (.start (.fetch 0 b))

end World
end PasskeySession
