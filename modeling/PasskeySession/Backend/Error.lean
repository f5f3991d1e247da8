import PasskeySession.Fault
import PasskeySession.Record.Basic
import PasskeySession.WebAuthn.Error

/-! # Why an operation fails

The causes for which an operation of the client fails, with one sentence for each. The ones that are the
backend's doing are told apart. -/

namespace PasskeySession

/-- What is wrong with an answer. -/
inductive AnswerFault
  | badBase64
  | unusableBody
  /-- The body of the answer to a request at a path does not decode. -/
  | badBody (path : String)
  | other (text : String)
  deriving DecidableEq, Repr

/-- What is wrong with the settings of the client. -/
inductive ConfigFault
  | notSet (key : String)
  | notHttp (key value : String)
  | notMilliseconds (key value : String)
  | other (text : String)
  deriving DecidableEq, Repr

/-- Why an operation of the client fails. -/
inductive ClientError
  | network (reason : String)
  | rejected (status : Nat) (message : String)
  | authenticator (e : AuthenticatorError)
  | invalidAnswer (f : AnswerFault)
  | invalidState (operation state : String)
  | pendingBusy (account : Account)
  | toggleInFlight
  | fault (f : Fault)
  | config (f : ConfigFault)
  deriving DecidableEq

namespace AnswerFault

def message : AnswerFault → String
  | badBase64 => "bad base64url"
  | unusableBody => "unusable body"
  | badBody path => path
  | other text => text

end AnswerFault

namespace ConfigFault

def message : ConfigFault → String
  | notSet key => key ++ " is not set"
  | notHttp key value => key ++ " must be an http(s) URL, got " ++ Text.quoted value
  | notMilliseconds key value => key ++ " must be milliseconds, got " ++ Text.quoted value
  | other text => text

end ConfigFault

namespace ClientError

def message : ClientError → String
  | network reason => "Network error: " ++ reason
  | rejected status message => "Backend rejected request (" ++ toString status ++ "): " ++ message
  | authenticator e => e.message
  | invalidAnswer f => "Invalid backend response: " ++ f.message
  | invalidState operation state => "Cannot " ++ operation ++ " while " ++ state
  | pendingBusy account => "A pending session is already held for " ++ account.text
  | toggleInFlight => "Endpoint access update already in progress"
  | fault f => f.message
  | config f => "Configuration error: " ++ f.message

/-- Whether the backend, or the way to it, is the cause. -/
def isBackend : ClientError → Bool
  | network _ => true
  | rejected .. => true
  | invalidAnswer _ => true
  | _ => false

end ClientError
end PasskeySession
