import PasskeySession.Identifier
import PasskeySession.Json.Value

/-! # Records

What the backend keeps or answers, and the handles that refer to it. -/

namespace PasskeySession

/-- A Safe account on one chain. -/
structure Account where
  address : Address
  chainId : Nat
  deriving DecidableEq

/-- Whether the endpoint of a session is open, and where it is. -/
structure EndpointState where
  active : Bool
  url : String
  deriving DecidableEq, Inhabited

/-- A session that the backend keeps. -/
structure SessionRecord where
  sessionKey : String
  permissionEnableHash : String
  permissionId : String
  /-- A text that should hold JSON of its own. -/
  sessionDetails : String
  endpoint : EndpointState
  deriving DecidableEq

/-- What a pending session is about. -/
inductive PendingKind
  | sessionCreation
  | userOperation (userOperation : String)
  deriving DecidableEq

/-- A hash that waits to be signed with a passkey. -/
structure PendingSession where
  hash : OperationHash
  passkeyId : String
  kind : PendingKind
  deriving DecidableEq

/-- The answer to a request to configure a session. -/
structure ConfiguredSession where
  hash : OperationHash
  passkeyId : String
  deriving DecidableEq

/-- The answer to a signed session. -/
structure CreationReceipt where
  transactionHash : Option String
  deriving DecidableEq, Inhabited

/-- The answer to a signed operation. -/
structure OperationReceipt where
  transactionHash : String
  userOpHash : String
  success : Bool
  deriving DecidableEq

/-- The answer to a signature. -/
inductive Receipt
  | sessionCreation (r : CreationReceipt)
  | userOperation (r : OperationReceipt)
  deriving DecidableEq

/-- Which modules an account has. -/
structure InstalledModules where
  ownableValidator : Bool
  webauthnValidator : Bool
  smartSessionsValidator : Bool
  deriving DecidableEq

/-- A Safe account and who owns it. -/
structure SafeSummary where
  address : Address
  legacyOwners : List String
  moduleOwners : Option (List String)
  modulePasskey : Option String
  deriving DecidableEq

/-- The Safe accounts of a user on one chain. -/
structure ChainSafes where
  chainId : Nat
  safes : List SafeSummary
  deriving DecidableEq

/-- A user and the accounts of that user. -/
structure UserProfile where
  id : String
  username : String
  safesByChain : List ChainSafes
  deriving DecidableEq

/-- A call of a contract that an operation is to make. -/
structure OperationCall where
  target : Address
  functionName : String
  abi : Json
  args : List Json

/-- An operation that the backend has built, and the hash to sign for it. -/
structure PreparedOperation where
  userOperation : String
  hashToSign : OperationHash
  deriving DecidableEq

/-- The user that a challenge is meant for. -/
structure ChallengeUser where
  id : String
  name : Option String
  displayName : Option String
  deriving DecidableEq

/-- A challenge to answer with a passkey. -/
structure PasskeyChallenge where
  challenge : String
  user : Option ChallengeUser
  deriving DecidableEq

namespace Account

def text (a : Account) : String := a.address.text ++ "@" ++ toString a.chainId

end Account

namespace UserProfile

def accounts (p : UserProfile) : List Account :=
  p.safesByChain.flatMap fun c => c.safes.map fun s => ⟨s.address, c.chainId⟩

end UserProfile
end PasskeySession
