import PasskeySession.Text.Quoted

/-! # Faults of single values

Why a text is no amount, identifier or instant, or an amount no whole number of units. The refused text is
kept as it was given, before any trimming. -/

namespace PasskeySession

/-- The cause for which a value is refused. -/
inductive Fault
  | decimal (text : String)
  | precision (amount : String) (decimals : Nat)
  | address (text : String)
  | hash (text : String)
  | selector (text : String)
  | timestamp (text : String)
  deriving DecidableEq, Repr

namespace Fault

/-- The sentence that tells a reader what was refused. -/
def message : Fault → String
  | decimal text => "Invalid decimal amount: " ++ Text.quoted text
  | precision amount decimals =>
    "Amount " ++ amount ++ " has more than " ++ toString decimals ++ " fractional digits"
  | address text => "Invalid address: " ++ Text.quoted text
  | hash text => "Invalid hash: " ++ Text.quoted text
  | selector text => "Invalid selector: " ++ Text.quoted text
  | timestamp text => "Invalid timestamp: " ++ Text.quoted text

end Fault
end PasskeySession
