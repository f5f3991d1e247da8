import PasskeySession.Proofs.Session.View

/-! # Moves

Everything that a step of a world can do to what sessions see, with the event that does it and its report:
one case of `Move` for each way that an operation on an orchestrator begins, goes on or ends, and for each
thing that is done to an orchestrator or a lease at once. A step makes one of these moves, and whatever holds
of every run is proved move by move. -/

namespace PasskeySession

namespace Event

/-- The unfinished operation that an event is for. -/
def task? : Event → Option Nat
  | answer k _ => some k
  | cancel k => some k
  | drop k => some k
  | _ => none

end Event

namespace Operation

/-- What an operation that opens a session is called when it is refused. -/
def submits? : Operation → Option String
  | submit _ => some "submit"
  | prepare .. => some "prepare user operation"
  | _ => none

end Operation

namespace Waiting

/-- The submission that waits here, and the orchestrator it is on. -/
def submission? : Waiting → Option (Nat × Submission)
  | configure i s _ _ => some (i, s)
  | prepare i s _ _ _ => some (i, s)
  | _ => none

/-- The pending session whose signature waits here, and the orchestrator that holds it. -/
def attempt? : Waiting → Option (Nat × PendingSession)
  | approve i _ _ p => some (i, p)
  | sign i _ _ p _ => some (i, p)
  | _ => none

/-- Whether the operation may be cancelled where it stands. -/
def cancellable : Waiting → Bool
  | approve _ c _ _ => c
  | sign _ c _ _ _ => c
  | _ => false

/-- Where an operation of an orchestrator waits that opens a session. -/
inductive Asks (o : Orchestrator) (s : Submission) : Operation → Waiting → Prop
  | configure {i : Nat} : Asks o s (.submit i) (.configure i s o.account o.form.compile.toConfig)
  | prepare {i : Nat} {calls : List OperationCall} {id : String} :
    Asks o s (.prepare i calls id) (.prepare i s o.account calls id)

/-- What comes of an answer to a submission. -/
inductive Opens (reply : Reply) : Waiting → Except ClientError PendingSession → Prop
  | configured {i : Nat} {s : Submission} {a : Account} {c : SessionConfig} {r : ConfiguredSession}
    (h : reply (.request (.configure a c)) = .ok r) :
    Opens reply (.configure i s a c) (.ok ⟨r.hash, r.passkeyId, .sessionCreation⟩)
  | notConfigured {i : Nat} {s : Submission} {a : Account} {c : SessionConfig} {e : ClientError}
    (h : reply (.request (.configure a c)) = .error e) : Opens reply (.configure i s a c) (.error e)
  | prepared {i : Nat} {s : Submission} {a : Account} {calls : List OperationCall} {id : String}
    {r : PreparedOperation} (h : reply (.request (.createOperation a calls id)) = .ok r) :
    Opens reply (.prepare i s a calls id) (.ok ⟨r.hashToSign, id, .userOperation r.userOperation⟩)
  | notPrepared {i : Nat} {s : Submission} {a : Account} {calls : List OperationCall} {id : String}
    {e : ClientError} (h : reply (.request (.createOperation a calls id)) = .error e) :
    Opens reply (.prepare i s a calls id) (.error e)

/-- The error in which an attempt to approve ends with an answer. -/
inductive Fails (reply : Reply) : Waiting → ClientError → Prop
  | unsigned {i : Nat} {c : Bool} {a : Account} {p : PendingSession} {e : ClientError}
    (h : signatureOf (reply (.prompt (.use (some p.passkeyId) p.hash.bytes))) = .error e) :
    Fails reply (.approve i c a p) e
  | refused {i : Nat} {c : Bool} {a : Account} {p : PendingSession} {g : EncodedSignature} {e : ClientError}
    (h : p.kind.receiptOf (reply (.request (p.kind.signedRequest a p.hash g))) = .error e) :
    Fails reply (.sign i c a p g) e

theorem attempt?_eq_some {point : Waiting} {i : Nat} {p : PendingSession} (h : point.attempt? = some (i, p)) :
    (∃ c a, point = .approve i c a p) ∨ ∃ c a g, point = .sign i c a p g := by
  unfold attempt? at h
  split at h <;> cases h
  · exact Or.inl ⟨_, _, rfl⟩
  · exact Or.inr ⟨_, _, _, rfl⟩

theorem submission?_eq_some {point : Waiting} {i : Nat} {s : Submission} (h : point.submission? = some (i, s)) :
    (∃ a c, point = .configure i s a c) ∨ ∃ a calls id, point = .prepare i s a calls id := by
  unfold submission? at h
  split at h <;> cases h
  · exact Or.inl ⟨_, _, rfl⟩
  · exact Or.inr ⟨_, _, _, rfl⟩

theorem orchestrator?_of_attempt? {point : Waiting} {i : Nat} {p : PendingSession}
    (h : point.attempt? = some (i, p)) : point.orchestrator? = some i := by
  rcases attempt?_eq_some h with ⟨_, _, rfl⟩ | ⟨_, _, _, rfl⟩ <;> rfl

theorem orchestrator?_of_submission? {point : Waiting} {i : Nat} {s : Submission}
    (h : point.submission? = some (i, s)) : point.orchestrator? = some i := by
  rcases submission?_eq_some h with ⟨_, _, rfl⟩ | ⟨_, _, _, rfl⟩ <;> rfl

theorem Asks.orchestrator? {o : Orchestrator} {s : Submission} {op : Operation} {point : Waiting}
    (h : Asks o s op point) : point.orchestrator? = op.orchestrator? := by
  cases h <;> rfl

theorem Asks.submission? {o : Orchestrator} {s : Submission} {op : Operation} {point : Waiting} {i : Nat}
    (h : Asks o s op point) (hop : op.orchestrator? = some i) : point.submission? = some (i, s) := by
  cases h <;> cases hop <;> rfl

end Waiting

/-- Why an operation on an orchestrator is refused, where slots are filled as in `slot`. -/
inductive Barred (slot : Account → Option UInt64) (o : Orchestrator) : Operation → ClientError → Prop
  | notNow {op : Operation} {name : String} (hop : op.submits? = some name)
    (h : o.state.acceptsEdits = false) : Barred slot o op (o.refusal name)
  | busy {op : Operation} {name : String} {t : UInt64} (hop : op.submits? = some name)
    (h : o.state.acceptsEdits = true) (ht : slot o.account = some t) : Barred slot o op (.pendingBusy o.account)
  | nothingPending {i : Nat} {c : Bool} (h : ∀ p, o.state ≠ .awaitingApproval p) :
    Barred slot o (.approve i c) (o.refusal "approve")

/-- What a step can do to what sessions see. -/
inductive Move (s : Sessions) : Event → Report → Sessions → Prop
  -- Nothing that sessions see.
  | newCache {n : Nat} : Move s .newCache (.created n) s
  | newGate {a : Account} {url : String} {active : Bool} {c : Option Nat} {n : Nat} :
    Move s (.newGate a url active c) (.created n) s
  | absent {e : Event} (h : ∀ k, e.task? = some k → s.task k = none) : Move s e .absent s
  | inUse {e : Event} (h : e.task? = none) : Move s e .inUse s
  | refused {e : Event} {err : ClientError} (h : e.task? = none) : Move s e (.refused err) s
  | unmoved {k : Nat} {point : Waiting} (hk : s.task k = some point) (hc : point.cancellable = false) :
    Move s (.cancel k) (.unmoved k) s
  -- Orchestrators and leases, at once.
  | made {a : Account} {c : Option Nat} :
    Move s (.newOrchestrator a c) (.created s.made) (s.make (.initial a c))
  | forgotten {i : Nat} {o : Orchestrator} (ho : s.orchestrator i = some o) (hi : s.Idle i) :
    Move s (.dropOrchestrator i) .done ((s.setOrchestrator i none).giveBack o.lease)
  | edited {i : Nat} {o : Orchestrator} {ed : Edit} {r : Except EditError (Option TokenPolicy)} {f : PolicyForm}
    (ho : s.orchestrator i = some o) (hi : s.Idle i) (h : o.state.acceptsEdits = true)
    (hok : ∀ t, r = .ok t → ed.change o.form = .ok (f, t)) (herr : ∀ err, r = .error err → f = o.form) :
    Move s (.edit i ed) (.edited r) (s.setOrchestrator i (some { o with state := .configuring, form := f }))
  | formSet {i : Nat} {o : Orchestrator} {f : PolicyForm}
    (ho : s.orchestrator i = some o) (hi : s.Idle i) (h : o.state.acceptsEdits = true) :
    Move s (.setForm i f) .done (s.setOrchestrator i (some { o with state := .configuring, form := f }))
  | discarded {i : Nat} {o : Orchestrator} {p : PendingSession} (ho : s.orchestrator i = some o)
    (hi : s.Idle i) (h : o.state = .awaitingApproval p) :
    Move s (.discard i) .done ((s.setOrchestrator i
      (some { o with state := .configuring, lease := none, lastError := none })).giveBack o.lease)
  | leased {a : Account} {t : UInt64} {n : Nat} (h : s.slot a = none) (hn : s.hand n = none) :
    Move s (.acquire a) (.leased n ⟨a, t⟩) ((s.setHand n (some ⟨a, t⟩)).setSlot a (some t))
  | returned {n : Nat} {l : Lease} (h : s.hand n = some l) :
    Move s (.releaseLease n) .done ((s.setHand n none).giveBack (some l))
  -- Operations that are on no orchestrator.
  | begunElsewhere {op : Operation} {p : Progress} (hop : op.orchestrator? = none)
    (hp : ∀ point ∈ p.entry, point.orchestrator? = none) :
    Move s (.start op) (.progress s.begun p) (s.begin p.entry)
  | answeredElsewhere {k : Nat} {reply : Reply} {point : Waiting} {p : Progress} (hk : s.task k = some point)
    (ho : point.orchestrator? = none) (hp : ∀ point ∈ p.entry, point.orchestrator? = none) :
    Move s (.answer k reply) (.progress k p) (s.setTask k p.entry)
  | droppedElsewhere {k : Nat} {point : Waiting} (hk : s.task k = some point) (ho : point.orchestrator? = none) :
    Move s (.drop k) .done (s.setTask k none)
  -- Operations on orchestrators.
  | opRefused {op : Operation} {i : Nat} {o : Orchestrator} {e : ClientError} (hop : op.orchestrator? = some i)
    (ho : s.orchestrator i = some o) (hi : s.Idle i) (h : Barred s.slot o op e) :
    Move s (.start op) (.progress s.begun (.failed e)) (s.begin none)
  | submits {op : Operation} {i : Nat} {o : Orchestrator} {t : UInt64} {point : Waiting}
    (hop : op.orchestrator? = some i) (ho : s.orchestrator i = some o) (hi : s.Idle i)
    (h : o.state.acceptsEdits = true) (hfree : s.slot o.account = none)
    (hp : Waiting.Asks o ⟨⟨o.account, t⟩, o.state⟩ op point) :
    Move s (.start op) (.progress s.begun (.waiting point))
      (((s.begin (some point)).setOrchestrator i (some { o with state := .submitting })).setSlot o.account (some t))
  | submitted {k i : Nat} {reply : Reply} {point : Waiting} {sub : Submission} {o : Orchestrator}
    {p : PendingSession} (hk : s.task k = some point) (hs : point.submission? = some (i, sub))
    (ho : s.orchestrator i = some o) (h : point.Opens reply (.ok p)) :
    Move s (.answer k reply) (.progress k (.done (.pending p)))
      ((s.setTask k none).setOrchestrator i (some (o.submitted sub p)))
  | submissionFailed {k i : Nat} {reply : Reply} {point : Waiting} {sub : Submission} {o : Orchestrator}
    {e : ClientError} (hk : s.task k = some point) (hs : point.submission? = some (i, sub))
    (ho : s.orchestrator i = some o) (h : point.Opens reply (.error e)) :
    Move s (.answer k reply) (.progress k (.failed e))
      (((s.setTask k none).setOrchestrator i (some (o.submissionFailed e))).giveBack (some sub.lease))
  | submissionDropped {k i : Nat} {point : Waiting} {sub : Submission} {o : Orchestrator}
    (hk : s.task k = some point) (hs : point.submission? = some (i, sub)) (ho : s.orchestrator i = some o) :
    Move s (.drop k) .done
      (((s.setTask k none).setOrchestrator i (some (o.submissionDropped sub))).giveBack (some sub.lease))
  | approves {i : Nat} {c : Bool} {o : Orchestrator} {p : PendingSession} (ho : s.orchestrator i = some o)
    (hi : s.Idle i) (h : o.state = .awaitingApproval p) :
    Move s (.start (.approve i c)) (.progress s.begun (.waiting (.approve i c o.account p)))
      ((s.begin (some (.approve i c o.account p))).setOrchestrator i (some { o with state := .signing p }))
  | signs {k i : Nat} {reply : Reply} {c : Bool} {a : Account} {p : PendingSession} {g : EncodedSignature}
    (hk : s.task k = some (.approve i c a p))
    (h : signatureOf (reply (.prompt (.use (some p.passkeyId) p.hash.bytes))) = .ok g) :
    Move s (.answer k reply) (.progress k (.waiting (.sign i c a p g))) (s.setTask k (some (.sign i c a p g)))
  | attemptFailed {k i : Nat} {reply : Reply} {point : Waiting} {p : PendingSession} {o : Orchestrator}
    {e : ClientError} (hk : s.task k = some point) (hp : point.attempt? = some (i, p))
    (ho : s.orchestrator i = some o) (h : point.Fails reply e) :
    Move s (.answer k reply) (.progress k (.failed e))
      ((s.setTask k none).setOrchestrator i (some (o.approvalFailed p e)))
  | attemptDropped {k i : Nat} {point : Waiting} {p : PendingSession} {o : Orchestrator}
    (hk : s.task k = some point) (hp : point.attempt? = some (i, p)) (ho : s.orchestrator i = some o) :
    Move s (.drop k) .done ((s.setTask k none).setOrchestrator i (some (o.approvalAbandoned p)))
  | attemptCancelled {k i : Nat} {point : Waiting} {p : PendingSession} {o : Orchestrator}
    (hk : s.task k = some point) (hp : point.attempt? = some (i, p)) (hc : point.cancellable = true)
    (ho : s.orchestrator i = some o) :
    Move s (.cancel k) (.progress k (.failed (.authenticator .cancelled)))
      ((s.setTask k none).setOrchestrator i (some (o.approvalAbandoned p)))
  | signed {k i : Nat} {reply : Reply} {c : Bool} {a : Account} {p : PendingSession} {g : EncodedSignature}
    {o : Orchestrator} {receipt : Receipt} {q : Progress} (hk : s.task k = some (.sign i c a p g))
    (ho : s.orchestrator i = some o)
    (h : p.kind.receiptOf (reply (.request (p.kind.signedRequest a p.hash g))) = .ok receipt)
    (hq : q = .done (.receipt receipt) ∨ ∃ l, q = .waiting (.signed i receipt l)) :
    Move s (.answer k reply) (.progress k q)
      (((s.setTask k q.entry).setOrchestrator i (some (o.approved receipt))).giveBack o.lease)
  | loaded {k i : Nat} {reply : Reply} {receipt : Receipt} {l : CacheLoad}
    (hk : s.task k = some (.signed i receipt l)) :
    Move s (.answer k reply) (.progress k (.done (.receipt receipt))) (s.setTask k none)
  | loadDropped {k i : Nat} {receipt : Receipt} {l : CacheLoad} (hk : s.task k = some (.signed i receipt l)) :
    Move s (.drop k) .done (s.setTask k none)

/-- Each unfinished operation on an orchestrator has its orchestrator. -/
def Sessions.Manned (s : Sessions) : Prop :=
  ∀ k point i, s.task k = some point → point.orchestrator? = some i → ∃ o, s.orchestrator i = some o

end PasskeySession
