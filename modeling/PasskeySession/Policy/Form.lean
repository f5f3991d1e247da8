import PasskeySession.Instant.Basic
import PasskeySession.Policy.Token

/-! # The policy form

What an operator fills in before a session is asked for. Every part of the form has a switch of its own and
keeps its entries while it is off. -/

namespace PasskeySession

/-- The caps on tokens. -/
structure SpendingLimits where
  active : Bool
  tokens : List TokenPolicy
  deriving DecidableEq

/-- The time in which the session may act; a bound may be open while the form is filled in. -/
structure TimeFrame where
  active : Bool
  start : Option Instant
  stop : Option Instant
  deriving DecidableEq

/-- How often the session may act at all. -/
structure UniversalAction where
  active : Bool
  usageCount : Nat
  deriving DecidableEq

/-- The cap on the chain's own coin, as an amount and, if it makes a whole number of them, as base units. -/
structure ValueLimit where
  active : Bool
  limit : DecimalAmount
  wei : Option BaseUnits
  deriving DecidableEq

/-- The whole form. -/
structure PolicyForm where
  unrestricted : Bool
  spending : SpendingLimits
  timeFrame : TimeFrame
  universal : UniversalAction
  valueLimit : ValueLimit
  deriving DecidableEq

namespace TimeFrame

def window (f : TimeFrame) : Option (Instant × Instant) :=
  match f.start, f.stop with
  | some start, some stop => some (start, stop)
  | _, _ => none

end TimeFrame

namespace ValueLimit

/-- The base units of a limit. A limit that makes no whole number of them is refused while it is active. -/
def scale (active : Bool) (limit : DecimalAmount) : Except Fault (Option BaseUnits) :=
  match limit.toBaseUnits DecimalAmount.nativeDecimals with
  | .ok wei => .ok (some wei)
  | .error f => if active then .error f else .ok none

def make (active : Bool) (limit : DecimalAmount) : Except Fault ValueLimit :=
  (scale active limit).map fun wei => ⟨active, limit, wei⟩

/-- Turns the cap on or off; it is not turned on with a limit that would be refused. -/
def setActive (v : ValueLimit) (active : Bool) : Except Fault ValueLimit :=
  (scale active v.limit).map fun _ => { v with active }

def setLimit (v : ValueLimit) (limit : DecimalAmount) : Except Fault ValueLimit :=
  (scale v.active limit).map fun wei => { v with limit, wei }

/-- The cap that a new form has: off, and nought. -/
def initial : ValueLimit := ⟨false, .zero, some ⟨0⟩⟩

end ValueLimit

namespace PolicyForm

/-- A new form: every part is off and empty. -/
def initial : PolicyForm :=
  ⟨false, ⟨false, []⟩, ⟨false, none, none⟩, ⟨false, 0⟩, .initial⟩

instance : Inhabited PolicyForm := ⟨initial⟩

end PolicyForm
end PasskeySession
