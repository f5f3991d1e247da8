import PasskeySession.Policy.Codec

/-! # Editing a form

An edit as an operator makes it: texts are read when the edit is applied, and an edit that is refused leaves
the form as it was. -/

namespace PasskeySession

/-- One change to a form. -/
inductive Edit
  | load (text : String)
  | unrestricted (active : Bool)
  | spending (active : Bool)
  | timeActive (active : Bool)
  | upsertToken (address : String) (symbol name : String) (decimals : Nat) (limit : String)
  | removeToken (address : String)
  | setTokenLimit (address limit : String)
  | timeStart (text : Option String)
  | timeStop (text : Option String)
  | timeBetween (start stop : String)
  | universal (active : Bool) (usageCount : Nat)
  | valueLimit (active : Bool) (limit : String)
  | valueActive (active : Bool)
  | setValueLimit (limit : String)

/-- Why an edit is refused. -/
inductive EditError
  | fault (f : Fault)
  | text (e : DecodeError)

namespace TokenPolicy

/-- A cap from its texts: the address is read first, then the limit. -/
def ofTexts (address symbol name : String) (decimals : Nat) (limit : String) : Except Fault TokenPolicy := do
  let address ← Address.parse address
  let limit ← DecimalAmount.parse limit
  make address symbol name decimals limit

end TokenPolicy

namespace PolicyForm

def withTokens (f : PolicyForm) (tokens : List TokenPolicy) : PolicyForm :=
  { f with spending := { f.spending with tokens } }

/-- The form without the cap on a token, and that cap. -/
def removeToken (f : PolicyForm) (address : Address) : PolicyForm × Option TokenPolicy :=
  match TokenPolicy.find? address f.spending.tokens with
  | none => (f, none)
  | some t => (f.withTokens (TokenPolicy.remove address f.spending.tokens), some t)

/-- The form with another limit for a token it has, and the cap with that limit. -/
def setTokenLimit (f : PolicyForm) (address : Address) (limit : String) :
    Except Fault (PolicyForm × Option TokenPolicy) :=
  match TokenPolicy.find? address f.spending.tokens with
  | none => .ok (f, none)
  | some t => do
    let limit ← DecimalAmount.parse limit
    let t ← t.setLimit limit
    .ok (f.withTokens (TokenPolicy.upsert t f.spending.tokens), some t)

end PolicyForm

namespace Edit

/-- The form after an edit, and the cap that the edit removed or changed. -/
def change (f : PolicyForm) : Edit → Except EditError (PolicyForm × Option TokenPolicy)
  | load text =>
    match PolicyForm.decoder.runText text with
    | .ok g => .ok (g, none)
    | .error e => .error (.text e)
  | unrestricted active => .ok ({ f with unrestricted := active }, none)
  | spending active => .ok ({ f with spending := { f.spending with active } }, none)
  | timeActive active => .ok ({ f with timeFrame := { f.timeFrame with active } }, none)
  | upsertToken address symbol name decimals limit => do
    let t ← (TokenPolicy.ofTexts address symbol name decimals limit).mapError .fault
    .ok (f.withTokens (TokenPolicy.upsert t f.spending.tokens), none)
  | removeToken address => do
    let address ← (Address.parse address).mapError .fault
    .ok (f.removeToken address)
  | setTokenLimit address limit => do
    let address ← (Address.parse address).mapError .fault
    (f.setTokenLimit address limit).mapError .fault
  | timeStart text => do
    let start ← (text.mapM Instant.parse).mapError .fault
    .ok ({ f with timeFrame := { f.timeFrame with start } }, none)
  | timeStop text => do
    let stop ← (text.mapM Instant.parse).mapError .fault
    .ok ({ f with timeFrame := { f.timeFrame with stop } }, none)
  | timeBetween start stop => do
    let start ← (Instant.parse start).mapError .fault
    let stop ← (Instant.parse stop).mapError .fault
    .ok ({ f with timeFrame := ⟨true, some start, some stop⟩ }, none)
  | universal active usageCount => .ok ({ f with universal := ⟨active, usageCount⟩ }, none)
  | valueLimit active limit => do
    let limit ← (DecimalAmount.parse limit).mapError .fault
    let v ← (ValueLimit.make active limit).mapError .fault
    .ok ({ f with valueLimit := v }, none)
  | valueActive active => do
    let v ← (f.valueLimit.setActive active).mapError .fault
    .ok ({ f with valueLimit := v }, none)
  | setValueLimit limit => do
    let limit ← (DecimalAmount.parse limit).mapError .fault
    let v ← (f.valueLimit.setLimit limit).mapError .fault
    .ok ({ f with valueLimit := v }, none)

end Edit
end PasskeySession
