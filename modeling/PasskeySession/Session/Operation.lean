import PasskeySession.Session.World
import PasskeySession.WebAuthn.ValidatorSignature

/-! # Operations

How each operation of a client begins, and how it goes on when the answer it waits for comes. A step is the
stretch of an operation up to its next question; nothing else happens in between. So a look at the sessions of
an account is one step up to its question, though its cache is taken in hand twice there: to turn to the
account, and to start the call. -/

namespace PasskeySession

/-- An operation of a client. -/
inductive Operation
  | createCredential (name : String) (challenge : Bytes)
  | requestAssertion (id : Option String) (challenge : Bytes)
  | register (username : String)
  | login
  | sign (id : String) (hash : OperationHash)
  | submit (orch : Nat)
  | prepare (orch : Nat) (calls : List OperationCall) (passkeyId : String)
  | approve (orch : Nat) (cancellable : Bool)
  | fetch (cache : Nat) (account : Account)
  | refresh (cache : Nat)
  | toggle (gate : Nat) (active : Bool)

namespace Operation

def orchestrator? : Operation → Option Nat
  | submit orch => some orch
  | prepare orch .. => some orch
  | approve orch _ => some orch
  | _ => none

end Operation

namespace PasskeyChallenge

def bytes (c : PasskeyChallenge) : Except ClientError Bytes :=
  match Text.Base64Url.decode? c.challenge with
  | some bs => .ok bs
  | none => .error (.invalidAnswer .badBase64)

/-- The name to register: the one that was asked for, or if that is empty the one the backend gives. -/
def nameFor (c : PasskeyChallenge) (username : String) : Except ClientError String :=
  match username.isEmpty, c.user with
  | true, some user =>
    match Text.Base64Url.decode? user.id with
    | some bs => .ok (String.ofList (Text.Utf8.decodeLossy bs))
    | none => .error (.invalidAnswer .badBase64)
  | _, _ => .ok username

/-- What a registration goes on to ask, once it has its challenge. -/
def registration (c : PasskeyChallenge) (username : String) : Except ClientError Waiting := do
  let bytes ← c.bytes
  let name ← c.nameFor username
  pure (.registerPrompt name bytes)

/-- What a login goes on to ask, once it has its challenge. -/
def discovery (c : PasskeyChallenge) : Except ClientError Waiting := do
  pure (.loginPrompt (← c.bytes))

end PasskeyChallenge

namespace PendingKind

/-- The receipt that the answer to a signature holds. -/
def receiptOf : (kind : PendingKind) → {account : Account} → {hash : OperationHash} →
    {signature : EncodedSignature} → (kind.signedRequest account hash signature).Answer → Except ClientError Receipt
  | .sessionCreation, _, _, _, answer => answer.map .sessionCreation
  | .userOperation _, _, _, _, answer => answer.map .userOperation

end PendingKind

/-- The signature for the validator that the answer to a prompt holds. -/
def signatureOf : Except AuthenticatorError Assertion → Except ClientError EncodedSignature
  | .ok assertion => (assertion.toValidator false).mapError .authenticator
  | .error e => .error (.authenticator e)

namespace World

/-! ### Submissions -/

/-- Begins a submission that asks for what its request says. -/
def beginSubmission (w : World) (i : Nat) (o : Orchestrator) (operation : String)
    (ask : Submission → Waiting) : World × Progress :=
  match o.beginSubmission operation w.registry with
  | (.error e, r) => ({ w with registry := r }, .failed e)
  | (.ok (s, o), r) => ({ w with registry := r }.setOrchestrator i o, .waiting (ask s))

/-- Ends a submission with a pending session, or with the reason why there is none. -/
def endSubmission (w : World) (i : Nat) (s : Submission) :
    Except ClientError PendingSession → World × Progress
  | .ok pending => (w.modifyOrchestrator i (·.submitted s pending), .done (.pending pending))
  | .error e => ((w.modifyOrchestrator i (·.submissionFailed e)).release (some s.lease), .failed e)

/-! ### Approvals -/

def beginApproval (w : World) (i : Nat) (o : Orchestrator) (cancellable : Bool) : World × Progress :=
  match o.beginApproval with
  | .error e => (w, .failed e)
  | .ok (pending, o) => (w.setOrchestrator i o, .waiting (.approve i cancellable o.account pending))

/-- Goes on with an attempt to approve that has its signature, or the reason why there is none. -/
def approveWith (w : World) (i : Nat) (cancellable : Bool) (account : Account) (pending : PendingSession) :
    Except ClientError EncodedSignature → World × Progress
  | .error e => (w.modifyOrchestrator i (·.approvalFailed pending e), .failed e)
  | .ok signature => (w, .waiting (.sign i cancellable account pending signature))

/-- Goes on after a signature has been accepted: a new session is looked up if there is a cache for it. -/
def afterApproval (w : World) (i : Nat) (o : Orchestrator) (kind : PendingKind) (receipt : Receipt) :
    World × Progress :=
  match kind, o.cache with
  | .sessionCreation, some c =>
    match w.startFetch c o.account with
    | .ok (l, w) => (w, .waiting (.signed i receipt l))
    | .error _ => (w, .done (.receipt receipt))
  | _, _ => (w, .done (.receipt receipt))

/-- Ends an attempt to approve with a receipt, or with the reason why there is none. -/
def endApproval (w : World) (i : Nat) (pending : PendingSession) : Except ClientError Receipt → World × Progress
  | .error e => (w.modifyOrchestrator i (·.approvalFailed pending e), .failed e)
  | .ok receipt =>
    match w.orchestrator? i with
    | none => (w, .done (.receipt receipt))
    | some o =>
      ((w.setOrchestrator i (o.approved receipt)).release o.lease).afterApproval i o pending.kind receipt

/-! ### Toggles -/

def beginToggle (w : World) (i : Nat) (g : AccessGate) (active : Bool) : World × Progress :=
  match g.start with
  | .error e => (w, .failed e)
  | .ok g => (w.modifyGate i fun _ => g, .waiting (.toggle i g.account g.url active))

/-- Goes on after a gate has been opened or closed: the sessions are looked up if there is a cache for them. -/
def afterToggle (w : World) (i : Nat) (active : Bool) : World × Progress :=
  let w := w.modifyGate i (·.toggled active)
  let finish (w : World) : World × Progress := (w.modifyGate i AccessGate.finish, .done (.toggled active))
  match w.gates[i]?.bind AccessGate.cache with
  | none => finish w
  | some c =>
    match w.startLoad c with
    | .ok (l, w) => (w, .waiting (.toggled i active l))
    | .error _ => finish w

/-! ### Beginning and going on -/

/-- Waits for the sessions that a cache has asked for. -/
def awaitLoad (w : World) : Except ClientError (CacheLoad × World) → World × Progress
  | .ok (l, w) => (w, .waiting (.load l))
  | .error e => (w, .failed e)

/-- Begins an operation; none if it is on something that is not there. -/
def start (w : World) : Operation → Option (World × Progress)
  | .createCredential name challenge => some (w, .waiting (.create name challenge))
  | .requestAssertion id challenge => some (w, .waiting (.use id challenge))
  | .register username => some (w, .waiting (.registerChallenge username))
  | .login => some (w, .waiting .loginChallenge)
  | .sign id hash => some (w, .waiting (.signHash id hash))
  | .submit i => (w.orchestrator? i).map fun o =>
      w.beginSubmission i o "submit" fun s => .configure i s o.account o.form.compile.toConfig
  | .prepare i calls passkeyId => (w.orchestrator? i).map fun o =>
      w.beginSubmission i o "prepare user operation" fun s => .prepare i s o.account calls passkeyId
  | .approve i cancellable => (w.orchestrator? i).map fun o => w.beginApproval i o cancellable
  | .fetch c a => w.caches[c]?.map fun _ => w.awaitLoad (w.startFetch c a)
  | .refresh c => w.caches[c]?.map fun _ => w.awaitLoad (w.startLoad c)
  | .toggle i active => w.gates[i]?.map fun g => w.beginToggle i g active

/-- Goes on to the next question, or fails for the reason why there is none. -/
def proceed (w : World) : Except ClientError Waiting → World × Progress
  | .ok point => (w, .waiting point)
  | .error e => (w, .failed e)

/-- Goes on with an operation whose answer has come. -/
def resume (w : World) : (p : Waiting) → p.question.Answer → World × Progress
  | .create .., answer => (w, .finished ((answer.mapError .authenticator).map .credential))
  | .use .., answer => (w, .finished ((answer.mapError .authenticator).map .assertion))
  | .signHash .., answer => (w, .finished ((signatureOf answer).map .signature))
  | .registerChallenge username, answer => w.proceed (answer.bind (·.registration username))
  | .registerPrompt .., answer => w.proceed ((answer.mapError .authenticator).map .registerVerify)
  | .registerVerify credential, answer => (w, .finished (answer.map fun _ => .registered credential))
  | .loginChallenge, answer => w.proceed (answer.bind PasskeyChallenge.discovery)
  | .loginPrompt _, answer => w.proceed ((answer.mapError .authenticator).map .loginVerify)
  | .loginVerify assertion, answer => (w, .finished (answer.map fun _ => .loggedIn assertion.id))
  | .configure i s _ _, answer =>
    w.endSubmission i s (answer.map fun c => ⟨c.hash, c.passkeyId, .sessionCreation⟩)
  | .prepare i s _ _ passkeyId, answer =>
    w.endSubmission i s (answer.map fun p => ⟨p.hashToSign, passkeyId, .userOperation p.userOperation⟩)
  | .approve i cancellable account pending, answer =>
    w.approveWith i cancellable account pending (signatureOf answer)
  | .sign i _ _ pending _, answer => w.endApproval i pending (pending.kind.receiptOf answer)
  | .signed _ receipt l, answer => ((w.answerLoad l answer).2, .done (.receipt receipt))
  | .load l, answer =>
    let (result, w) := w.answerLoad l answer
    (w, .finished (result.map .records))
  | .toggle i _ _ active, answer =>
    match answer with
    | .error e => (w.modifyGate i AccessGate.finish, .failed e)
    | .ok () => w.afterToggle i active
  | .toggled i active l, answer =>
    ((w.answerLoad l answer).2.modifyGate i AccessGate.finish, .done (.toggled active))

def abandon (w : World) : Waiting → World
  | .configure i s _ _ => (w.modifyOrchestrator i (·.submissionDropped s)).release (some s.lease)
  | .prepare i s _ _ _ => (w.modifyOrchestrator i (·.submissionDropped s)).release (some s.lease)
  | .approve i _ _ pending => w.modifyOrchestrator i (·.approvalAbandoned pending)
  | .sign i _ _ pending _ => w.modifyOrchestrator i (·.approvalAbandoned pending)
  | .signed _ _ l => w.dropLoad l
  | .load l => w.dropLoad l
  | .toggle i _ _ _ => w.modifyGate i AccessGate.finish
  | .toggled i _ l => (w.dropLoad l).modifyGate i AccessGate.finish
  | _ => w

/-- Cancels an operation, if it is an approval that may be cancelled and has not been answered. -/
def cancel (w : World) : Waiting → Option (World × Progress)
  | .approve i true _ pending =>
    some (w.modifyOrchestrator i (·.approvalAbandoned pending), .failed (.authenticator .cancelled))
  | .sign i true _ pending _ =>
    some (w.modifyOrchestrator i (·.approvalAbandoned pending), .failed (.authenticator .cancelled))
  | _ => none

end World
end PasskeySession
