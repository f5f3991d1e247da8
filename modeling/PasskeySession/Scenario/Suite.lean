import PasskeySession.Scenario.Access
import PasskeySession.Scenario.Refusal

/-! # The suite

All scenarios one after the other, with one authenticator and one user. The first failure ends the run. -/

namespace PasskeySession.Scenario

def configOf (o : Options) : ClientConfig :=
  { ClientConfig.ofUrl o.backendUrl with
    requestTimeoutMs := o.requestTimeoutMs, connectTimeoutMs := o.connectTimeoutMs }

def all (o : Options) (username : String) : Play Unit := do
  Play.say "🚀 Starting SafeLiza session scenarios..."
  Play.say ("Backend: " ++ (configOf o).backendUrl)
  Play.say ("Username: " ++ username)
  let account ← signing o username
  refusals account
  access account
  Play.heading "🎉 All scenarios completed successfully!"

/-- The suite for a user whose name is made up unless the options give one. -/
def suite (o : Options) (madeUp : String) (supply : Nat → Fresh) : Scenario (Except ScenarioError Unit) :=
  ((all o (o.username.getD madeUp)).run' (.initial (.initial o.rpId o.origin supply))).run

end PasskeySession.Scenario
