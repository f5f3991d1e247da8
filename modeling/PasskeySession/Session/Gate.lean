import PasskeySession.Backend.Error

/-! # Access gates

A gate opens and closes the endpoint of one session. One toggle at a time may be under way, up to the end of
the refresh that follows it. -/

namespace PasskeySession

/-- The gate of an endpoint. -/
structure AccessGate where
  account : Account
  url : String
  active : Bool
  loading : Bool
  /-- The cache that is refreshed after a toggle, if there is one. -/
  cache : Option Nat

namespace AccessGate

def initial (account : Account) (url : String) (active : Bool) (cache : Option Nat) : AccessGate :=
  ⟨account, url, active, false, cache⟩

def start (g : AccessGate) : Except ClientError AccessGate :=
  if g.loading then .error .toggleInFlight else .ok { g with loading := true }

/-- Takes in that the backend has toggled the endpoint. -/
def toggled (g : AccessGate) (active : Bool) : AccessGate := { g with active }

def finish (g : AccessGate) : AccessGate := { g with loading := false }

end AccessGate
end PasskeySession
