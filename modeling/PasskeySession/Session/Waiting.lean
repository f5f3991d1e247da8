import PasskeySession.Backend.Request
import PasskeySession.Session.Cache
import PasskeySession.Session.Orchestrator
import PasskeySession.WebAuthn.Prompt

/-! # Unfinished operations

Where an operation stands that waits for an answer, of the backend or of an authenticator: what it has asked,
and all it needs to go on. Orchestrators, caches and gates are named by their numbers. -/

namespace PasskeySession

/-- What an operation asks. -/
inductive Question
  /-- The backend is asked. -/
  | request (r : Request)
  /-- An authenticator is asked. -/
  | prompt (p : Prompt)

@[reducible] def Question.Answer : Question → Type
  | request r => r.Answer
  | prompt p => p.Answer

/-- A call for sessions, and the cache it is for. -/
structure CacheLoad where
  cache : Nat
  load : Load
  deriving DecidableEq

/-- Where an unfinished operation stands. -/
inductive Waiting
  /-- A new credential has been asked for, and nothing else. -/
  | create (userName : String) (challenge : Bytes)
  /-- An assertion has been asked for, and nothing else. -/
  | use (id : Option String) (challenge : Bytes)
  /-- A signature of a hash has been asked for. -/
  | signHash (id : String) (hash : OperationHash)
  /-- A registration has asked for a challenge. -/
  | registerChallenge (username : String)
  /-- A registration has asked for a credential. -/
  | registerPrompt (userName : String) (challenge : Bytes)
  /-- A registration has told of the new credential. -/
  | registerVerify (credential : Credential)
  /-- A login has asked for a challenge. -/
  | loginChallenge
  /-- A login has asked for an assertion. -/
  | loginPrompt (challenge : Bytes)
  /-- A login has told of the answer to the challenge. -/
  | loginVerify (assertion : Assertion)
  /-- A submission has asked for a session. -/
  | configure (orch : Nat) (s : Submission) (account : Account) (config : SessionConfig)
  /-- A submission has asked for an operation. -/
  | prepare (orch : Nat) (s : Submission) (account : Account) (calls : List OperationCall) (passkeyId : String)
  /-- An approval has asked for an assertion of the hash. -/
  | approve (orch : Nat) (cancellable : Bool) (account : Account) (pending : PendingSession)
  /-- An approval has sent a signature. -/
  | sign (orch : Nat) (cancellable : Bool) (account : Account) (pending : PendingSession)
      (signature : EncodedSignature)
  /-- An approval has succeeded and has asked for the sessions of the account. -/
  | signed (orch : Nat) (receipt : Receipt) (load : CacheLoad)
  /-- A cache has asked for sessions. -/
  | load (load : CacheLoad)
  /-- A gate has asked for the endpoint to be opened or closed. -/
  | toggle (gate : Nat) (account : Account) (url : String) (active : Bool)
  /-- A gate has been opened or closed and has asked for sessions. -/
  | toggled (gate : Nat) (active : Bool) (load : CacheLoad)

namespace PendingKind

/-- The request that carries the signature of a pending session. -/
def signedRequest (kind : PendingKind) (account : Account) (hash : OperationHash) (signature : EncodedSignature) :
    Request :=
  match kind with
  | sessionCreation => .signCreation account hash signature
  | userOperation _ => .executeOperation account hash signature

end PendingKind

namespace Waiting

@[reducible] def question : Waiting → Question
  | create userName challenge => .prompt (.create userName challenge)
  | use id challenge => .prompt (.use id challenge)
  | signHash id hash => .prompt (.use (some id) hash.bytes)
  | registerChallenge username => .request (.challenge (some username))
  | registerPrompt userName challenge => .prompt (.create userName challenge)
  | registerVerify credential => .request (.verifyRegistration credential)
  | loginChallenge => .request (.challenge none)
  | loginPrompt challenge => .prompt (.use none challenge)
  | loginVerify assertion => .request (.verifyLogin assertion)
  | configure _ _ account config => .request (.configure account config)
  | prepare _ _ account calls passkeyId => .request (.createOperation account calls passkeyId)
  | approve _ _ _ pending => .prompt (.use (some pending.passkeyId) pending.hash.bytes)
  | sign _ _ account pending signature => .request (pending.kind.signedRequest account pending.hash signature)
  | signed _ _ l => .request (.sessionDetails l.load.account)
  | load l => .request (.sessionDetails l.load.account)
  | toggle _ account url active => .request (.activateEndpoint account url active)
  | toggled _ _ l => .request (.sessionDetails l.load.account)

def orchestrator? : Waiting → Option Nat
  | configure orch .. => some orch
  | prepare orch .. => some orch
  | approve orch .. => some orch
  | sign orch .. => some orch
  | signed orch .. => some orch
  | _ => none

end Waiting

/-- What a finished operation gives. -/
inductive Outcome
  | credential (c : Credential)
  | assertion (a : Assertion)
  | registered (c : Credential)
  | loggedIn (id : String)
  | signature (s : EncodedSignature)
  | pending (p : PendingSession)
  | receipt (r : Receipt)
  | records (rs : List SessionRecord)
  | toggled (active : Bool)

/-- How far an operation has come. -/
inductive Progress
  | finished (result : Except ClientError Outcome)
  | waiting (point : Waiting)

namespace Progress

def failed (e : ClientError) : Progress := .finished (.error e)

def done (outcome : Outcome) : Progress := .finished (.ok outcome)

end Progress
end PasskeySession
