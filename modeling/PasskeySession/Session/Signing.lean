import PasskeySession.Backend.Error

/-! # Where a session stands

A form is edited, submitted, approved with a passkey, and signed. -/

namespace PasskeySession

/-- Where the session of a form stands. -/
inductive SigningState
  | idle
  | configuring
  | submitting
  | awaitingApproval (pending : PendingSession)
  | signing (pending : PendingSession)
  | signed (receipt : Receipt)
  | failed (e : ClientError)
  deriving DecidableEq

namespace SigningState

def text : SigningState → String
  | idle => "idle"
  | configuring => "configuring"
  | submitting => "submitting"
  | awaitingApproval _ => "awaiting approval"
  | signing _ => "signing"
  | signed _ => "signed"
  | failed _ => "failed"

def pending? : SigningState → Option PendingSession
  | awaitingApproval p => some p
  | signing p => some p
  | _ => none

def acceptsEdits : SigningState → Bool
  | idle => true
  | configuring => true
  | signed _ => true
  | failed _ => true
  | _ => false

end SigningState
end PasskeySession
