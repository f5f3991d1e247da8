/-! # Why a passkey gives no answer

A prompt ends without an assertion, or an assertion is not one that a validator could check. -/

namespace PasskeySession

/-- What is wrong with an assertion. -/
inductive AssertionFault
  /-- The authenticator data has so few bytes. -/
  | shortData (length : Nat)
  | noTypeKey
  | badSignature
  /-- What another authenticator says. -/
  | other (text : String)
  deriving DecidableEq, Repr

namespace AssertionFault

def message : AssertionFault → String
  | shortData length =>
    "authenticator data is " ++ toString length ++ " bytes, need at least 37"
  | noTypeKey => "client data JSON has no \"type\" key"
  | badSignature => "bad DER signature: signature error"
  | other text => text

end AssertionFault

/-- Why a passkey gives no answer. -/
inductive AuthenticatorError
  | declined (reason : String)
  | cancelled
  | noCredential
  | invalidAssertion (fault : AssertionFault)
  deriving DecidableEq, Repr

namespace AuthenticatorError

def message : AuthenticatorError → String
  | declined reason => "Authenticator declined the request: " ++ reason
  | cancelled => "Passkey prompt was cancelled"
  | noCredential => "No passkey credential available"
  | invalidAssertion fault => "Invalid assertion: " ++ fault.message

end AuthenticatorError
end PasskeySession
