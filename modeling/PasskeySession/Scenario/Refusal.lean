import PasskeySession.Scenario.Signing

/-! # The scenario of refusals

An approval without a pending session is refused, a declined prompt keeps the pending session, and a second
form for the same Safe is refused while a session is pending. -/

namespace PasskeySession.Scenario

def unrestrictedForm : PolicyForm := { PolicyForm.initial with unrestricted := true }

def refusals (account : Account) : Play Unit := do
  Play.heading "🛡️  Running Failure Scenarios..."
  Play.heading "[1/3] Approve without pending session..."
  let orch ← Play.make (.newOrchestrator account none)
  match ← Play.perform (.approve orch false) with
  | .error (.invalidState ..) => Play.say "Rejected as expected"
  | _ => Play.fail (.unexpected "Expected InvalidState")
  Play.heading "[2/3] Declined passkey prompt..."
  let _ ← Play.happen (.setForm orch unrestrictedForm)
  let _ ← Play.obtain none pending (.submit orch)
  Play.failNext (.declined "NotAllowedError")
  match ← Play.perform (.approve orch false) with
  | .error (.authenticator (.declined _)) => pure ()
  | _ => Play.fail (.unexpected "Expected a declined prompt")
  match (← Play.orchestrator orch).state with
  | .awaitingApproval p => Play.say ("Still awaiting approval of " ++ p.hash.text)
  | state => Play.fail (.unexpected ("Pending session lost, state is " ++ state.text))
  Play.heading "[3/3] Concurrent submission for the same Safe..."
  let second ← Play.make (.newOrchestrator account none)
  let _ ← Play.happen (.setForm second (← Play.orchestrator orch).form)
  match ← Play.perform (.submit second) with
  | .error (.pendingBusy busy) => Play.say ("Refused for " ++ busy.text)
  | _ => Play.fail (.unexpected "Expected PendingSessionBusy")
  let _ ← Play.happen (.discard orch)
  Play.say "✅ Failure scenarios completed"

end PasskeySession.Scenario
