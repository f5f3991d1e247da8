import PasskeySession.Scenario.Basic
import PasskeySession.Scenario.Options

/-! # The scenario of a signed session

A passkey is registered and used to log in, a Safe is chosen, and a session with a cap on the coin is
configured and approved. At the end the list of sessions is longer than before. -/

namespace PasskeySession.Scenario

/-- The Safe that the options name, or the first one of the user. -/
def chosenAccount (o : Options) (user : UserProfile) : Except ScenarioError Account :=
  match o.safeAddress, o.chainId with
  | some safe, some chainId =>
    match Address.parse safe with
    | .ok address => .ok ⟨address, chainId⟩
    | .error f => .error (.fault f)
  | _, _ =>
    match user.accounts with
    | [] => .error (.noSafe user.username)
    | a :: _ => .ok a

def modulesText (m : InstalledModules) : String :=
  let switch := ScenarioError.boolText
  "InstalledModules \x7b ownable_validator_installed: " ++ switch m.ownableValidator ++
    ", webauthn_validator_installed: " ++ switch m.webauthnValidator ++
    ", smart_sessions_validator_installed: " ++ switch m.smartSessionsValidator ++ " \x7d"

def hashText : Option String → String
  | none => "None"
  | some h => "Some(" ++ Text.quoted h ++ ")"

/-- The cap of the session: a hundredth of a coin. -/
def hundredth : ValueLimit := ⟨true, ⟨1, 2, by decide⟩, some ⟨10000000000000000⟩⟩

def cappedForm : PolicyForm := { PolicyForm.initial with valueLimit := hundredth }

def signUp (username : String) : Play Unit := do
  Play.heading "[1/6] Registering passkey..."
  let credential ← Play.obtain (some "Passkey registration failed")
    (fun | .registered c => some c | _ => none) (.register username)
  Play.say ("Credential: " ++ credential.id)
  Play.say ("Public key: " ++ credential.publicKeyHex)
  Play.heading "[2/6] Logging in with discoverable credential..."
  let id ← Play.obtain (some "Passkey login failed") (fun | .loggedIn id => some id | _ => none) .login
  if id = credential.id then pure () else Play.fail (.otherCredential id)

def chooseSafe (o : Options) : Play Account := do
  Play.heading "[3/6] Resolving Safe..."
  let user ← Play.check (some "Fetching user failed") (← Play.ask .currentUser)
  match chosenAccount o user with
  | .error e => Play.fail e
  | .ok account => do
    Play.say ("Account: " ++ account.text)
    let modules ← Play.check (some "Fetching installed modules failed") (← Play.ask (.installedModules account))
    Play.say ("Installed modules: " ++ modulesText modules)
    pure account

/-- The records that an operation on a cache gives. -/
def records : Outcome → Option (List SessionRecord)
  | .records rs => some rs
  | _ => none

def pending : Outcome → Option PendingSession
  | .pending p => some p
  | _ => none

/-- The whole scenario; it gives the Safe it acted on. -/
def signing (o : Options) (username : String) : Play Account := do
  Play.heading "🚀 Running Happy Path Scenario..."
  signUp username
  let account ← chooseSafe o
  Play.heading "[4/6] Submitting session configuration..."
  let cache ← Play.make .newCache
  let before ← Play.obtain (some "Listing sessions failed") records (.fetch cache account)
  let orch ← Play.make (.newOrchestrator account (some cache))
  let _ ← Play.happen (.setForm orch cappedForm)
  let p ← Play.obtain (some "Configure session failed") pending (.submit orch)
  Play.say ("Pending hash: " ++ p.hash.text)
  Play.heading "[5/6] Approving with passkey..."
  let transaction ← Play.obtain (some "Approval failed")
    (fun | .receipt (.sessionCreation r) => some r.transactionHash | _ => none) (.approve orch false)
  Play.say ("Transaction: " ++ hashText transaction)
  Play.heading "[6/6] Checking session list..."
  let after := (((← Play.world).caches[cache]?).map SessionCache.records).getD []
  if after.length ≤ before.length then Play.fail (.notGrown before.length after.length)
  for r in after do
    Play.say ("  " ++ r.permissionId ++ " endpoint=" ++ r.endpoint.url ++ " active=" ++
      ScenarioError.boolText r.endpoint.active)
  Play.say "✅ Happy path completed"
  let _ ← Play.happen (.dropOrchestrator orch)
  pure account

end PasskeySession.Scenario
