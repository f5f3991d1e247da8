import PasskeySession.Amount.BaseUnits
import PasskeySession.Identifier

/-! # Token limits

The cap on what a session may spend of one token, and the list of such caps in a form: at most one for each
token, in the order in which the tokens were first given. -/

namespace PasskeySession

/-- The cap on one token, as an amount and as the base units it makes. -/
structure TokenPolicy where
  address : Address
  symbol : String
  name : String
  decimals : Nat
  limit : DecimalAmount
  limitUnits : BaseUnits
  deriving DecidableEq

namespace TokenPolicy

/-- A cap; refused when the limit has a digit worth less than one base unit. -/
def make (address : Address) (symbol name : String) (decimals : Nat) (limit : DecimalAmount) :
    Except Fault TokenPolicy :=
  (limit.toBaseUnits decimals).map fun units => ⟨address, symbol, name, decimals, limit, units⟩

def setLimit (t : TokenPolicy) (limit : DecimalAmount) : Except Fault TokenPolicy :=
  (limit.toBaseUnits t.decimals).map fun units => { t with limit, limitUnits := units }

/-- Puts a cap in the place of the cap on the same token, or at the end. -/
def upsert (t : TokenPolicy) : List TokenPolicy → List TokenPolicy
  | [] => [t]
  | u :: us => if u.address = t.address then t :: us else u :: upsert t us

def find? (address : Address) (ts : List TokenPolicy) : Option TokenPolicy :=
  ts.find? fun t => t.address = address

def remove (address : Address) : List TokenPolicy → List TokenPolicy
  | [] => []
  | u :: us => if u.address = address then us else u :: remove address us

/-- The caps of a list with repeated tokens: the last cap on each, in the place of the first. -/
def ofList (ts : List TokenPolicy) : List TokenPolicy := ts.foldl (fun us t => upsert t us) []

end TokenPolicy
end PasskeySession
