import PasskeySession.Backend.Error
import PasskeySession.Policy.Codec
import PasskeySession.Record.Codec
import PasskeySession.WebAuthn.Message

/-! # Requests

What is asked of the backend, and the kind of answer each request has. -/

namespace PasskeySession

/-- The kind of an answer. -/
inductive AnswerKind
  | nothing
  | challenge
  | profile
  | modules
  | configured
  | creation
  | prepared
  | operation
  | records
  deriving DecidableEq, Repr

namespace AnswerKind

@[reducible] def Value : AnswerKind → Type
  | nothing => Unit
  | challenge => PasskeyChallenge
  | profile => UserProfile
  | modules => InstalledModules
  | configured => ConfiguredSession
  | creation => CreationReceipt
  | prepared => PreparedOperation
  | operation => OperationReceipt
  | records => List SessionRecord

/-- Reads an answer; one that holds nothing may be anything. -/
def decoder : (kind : AnswerKind) → Json.Decoder kind.Value
  | nothing => fun _ _ => .ok ()
  | challenge => PasskeyChallenge.decoder
  | profile => UserProfile.decoder
  | modules => InstalledModules.decoder
  | configured => ConfiguredSession.decoder
  | creation => CreationReceipt.decoder
  | prepared => PreparedOperation.decoder
  | operation => OperationReceipt.decoder
  | records => Json.Decoder.list SessionRecord.decoder

end AnswerKind

/-- A request to the backend. -/
inductive Request
  | challenge (username : Option String)
  | verifyRegistration (credential : Credential)
  | verifyLogin (assertion : Assertion)
  | currentUser
  | logout
  | installedModules (account : Account)
  | configure (account : Account) (config : SessionConfig)
  | signCreation (account : Account) (hash : OperationHash) (signature : EncodedSignature)
  | createOperation (account : Account) (calls : List OperationCall) (passkeyId : String)
  | executeOperation (account : Account) (hash : OperationHash) (signature : EncodedSignature)
  | sessionDetails (account : Account)
  | activateEndpoint (account : Account) (url : String) (active : Bool)

namespace Request

@[reducible] def kind : Request → AnswerKind
  | challenge _ => .challenge
  | verifyRegistration _ => .nothing
  | verifyLogin _ => .nothing
  | currentUser => .profile
  | logout => .nothing
  | installedModules _ => .modules
  | configure .. => .configured
  | signCreation .. => .creation
  | createOperation .. => .prepared
  | executeOperation .. => .operation
  | sessionDetails _ => .records
  | activateEndpoint .. => .nothing

/-- The answer to a request, or why there is none. -/
@[reducible] def Answer (r : Request) : Type := Except ClientError r.kind.Value

end Request
end PasskeySession
