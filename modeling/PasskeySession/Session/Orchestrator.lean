import PasskeySession.Policy.Form
import PasskeySession.Session.Lease
import PasskeySession.Session.Signing

/-! # Orchestrators

An orchestrator takes the form of one account through submission and approval. Each function here is one
step of that way; a submission holds the lease until it succeeds, and the orchestrator holds it after. -/

namespace PasskeySession

/-- The way of one account's form to a signed session. -/
structure Orchestrator where
  account : Account
  /-- The cache that shows the sessions of the account, if there is one. -/
  cache : Option Nat
  form : PolicyForm
  state : SigningState
  lease : Option Lease
  /-- Why the last attempt to approve the pending session failed. -/
  lastError : Option ClientError

/-- A submission under way: its lease, and the state to go back to if it is dropped. -/
structure Submission where
  lease : Lease
  prior : SigningState

namespace Orchestrator

def initial (account : Account) (cache : Option Nat) : Orchestrator :=
  ⟨account, cache, .initial, .idle, none, none⟩

/-- What is not to be done in the present state. -/
def refusal (o : Orchestrator) (operation : String) : ClientError := .invalidState operation o.state.text

def openForm (o : Orchestrator) : Except ClientError Orchestrator :=
  if o.state.acceptsEdits then .ok { o with state := .configuring }
  else .error (o.refusal "edit policies")

/-- Begins a submission, for which the slot of the account has to be free. -/
def beginSubmission (o : Orchestrator) (operation : String) (r : Registry) :
    Except ClientError (Submission × Orchestrator) × Registry :=
  if o.state.acceptsEdits then
    match r.acquire o.account with
    | (.ok lease, r) => (.ok (⟨lease, o.state⟩, { o with state := .submitting }), r)
    | (.error e, r) => (.error e, r)
  else (.error (o.refusal operation), r)

def submitted (o : Orchestrator) (s : Submission) (pending : PendingSession) : Orchestrator :=
  { o with state := .awaitingApproval pending, lease := some s.lease, lastError := none }

def submissionFailed (o : Orchestrator) (e : ClientError) : Orchestrator := { o with state := .failed e }

def submissionDropped (o : Orchestrator) (s : Submission) : Orchestrator := { o with state := s.prior }

def beginApproval (o : Orchestrator) : Except ClientError (PendingSession × Orchestrator) :=
  match o.state with
  | .awaitingApproval pending => .ok (pending, { o with state := .signing pending })
  | _ => .error (o.refusal "approve")

def approvalAbandoned (o : Orchestrator) (pending : PendingSession) : Orchestrator :=
  { o with state := .awaitingApproval pending }

def approvalFailed (o : Orchestrator) (pending : PendingSession) (e : ClientError) : Orchestrator :=
  { o with state := .awaitingApproval pending, lastError := some e }

/-- Ends an attempt that succeeded. The lease is to be given back. -/
def approved (o : Orchestrator) (receipt : Receipt) : Orchestrator :=
  { o with state := .signed receipt, lease := none, lastError := none }

/-- Gives the pending session up. The lease is to be given back. -/
def discard (o : Orchestrator) : Except ClientError Orchestrator :=
  match o.state with
  | .awaitingApproval _ => .ok { o with state := .configuring, lease := none, lastError := none }
  | _ => .error (o.refusal "discard pending session")

end Orchestrator
end PasskeySession
