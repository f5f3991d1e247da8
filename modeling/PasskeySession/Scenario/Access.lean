import PasskeySession.Scenario.Signing

/-! # The scenario of an endpoint

The endpoint of the first session that has one is opened or closed, looked up, and put back. -/

namespace PasskeySession.Scenario

def toggled : Outcome → Option Bool
  | .toggled active => some active
  | _ => none

/-- Flips the gate of an endpoint and puts it back. -/
def flip (account : Account) (cache : Nat) (record : SessionRecord) : Play Unit := do
  let initial := record.endpoint.active
  let gate ← Play.make (.newGate account record.endpoint.url initial (some cache))
  Play.say ("Endpoint " ++ record.endpoint.url ++ " active=" ++ ScenarioError.boolText initial)
  Play.heading "[1/2] Flipping endpoint..."
  let flipped ← Play.obtain (some "Toggle failed") toggled (.toggle gate (!initial))
  let listed := (((← Play.world).caches[cache]?).bind fun c => c.find? record.permissionId).map (·.endpoint.active)
  if flipped = initial ∨ listed ≠ some flipped then Play.fail (.notFlipped flipped listed)
  Play.heading "[2/2] Restoring endpoint..."
  let _ ← Play.obtain (some "Restore failed") toggled (.toggle gate initial)
  Play.say "✅ Endpoint access completed"

def access (account : Account) : Play Unit := do
  Play.heading "🔌 Running Endpoint Access Scenario..."
  let cache ← Play.make .newCache
  let listed ← Play.obtain (some "Listing sessions failed") records (.fetch cache account)
  match listed.find? (!·.endpoint.url.isEmpty) with
  | none => Play.say "No session exposes an endpoint, skipping"
  | some record => flip account cache record

end PasskeySession.Scenario
