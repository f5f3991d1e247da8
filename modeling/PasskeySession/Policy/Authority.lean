import PasskeySession.Policy.Form

/-! # What a form allows

A form with its switches resolved. A session that may do anything has no other policy beside it. -/

namespace PasskeySession

/-- One restriction of a session. -/
inductive Policy
  | valueLimit (wei : BaseUnits)
  | spendingLimits (tokens : List TokenPolicy)
  | timeFrame (start stop : Instant)
  | universalAction (usageCount : Nat)
  deriving DecidableEq

/-- What a session may do: anything, or what its policies allow. -/
inductive Authority
  | unrestricted
  | restricted (policies : List Policy)
  deriving DecidableEq

namespace PolicyForm

/-- The cap on the coin, if it is on. -/
def valuePolicies (f : PolicyForm) : List Policy :=
  match f.valueLimit.active, f.valueLimit.wei with
  | true, some wei => [.valueLimit wei]
  | _, _ => []

def spendingPolicies (f : PolicyForm) : List Policy :=
  if f.spending.active then [.spendingLimits f.spending.tokens] else []

/-- The time frame, if it is on and has both bounds. -/
def timePolicies (f : PolicyForm) : List Policy :=
  match f.timeFrame.active, f.timeFrame.window with
  | true, some (start, stop) => [.timeFrame start stop]
  | _, _ => []

def universalPolicies (f : PolicyForm) : List Policy :=
  if f.universal.active then [.universalAction f.universal.usageCount] else []

def authority (f : PolicyForm) : Authority :=
  if f.unrestricted then .unrestricted
  else .restricted (f.valuePolicies ++ f.spendingPolicies ++ f.timePolicies ++ f.universalPolicies)

end PolicyForm
end PasskeySession
