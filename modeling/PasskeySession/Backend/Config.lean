import PasskeySession.Backend.Error
import PasskeySession.Text.Blank
import PasskeySession.Text.Integer

/-! # Settings of the client

Where the backend is and how long to wait for it, from an address that is given or from the environment. -/

namespace PasskeySession

/-- The settings of the client. -/
structure ClientConfig where
  backendUrl : String
  requestTimeoutMs : Nat
  connectTimeoutMs : Nat
  deriving DecidableEq, Repr

namespace ClientConfig

/-- The variable that holds the address of the backend. -/
def urlVariable : String := "SAFELIZA_BACKEND_URL"

/-- The variable that holds the time to wait for an answer. -/
def requestTimeoutVariable : String := "SAFELIZA_REQUEST_TIMEOUT_MS"

/-- The variable that holds the time to wait for a connection. -/
def connectTimeoutVariable : String := "SAFELIZA_CONNECT_TIMEOUT_MS"

/-- The time to wait for an answer, unless another is set. -/
def defaultRequestTimeout : Nat := 30000

/-- The time to wait for a connection, unless another is set. -/
def defaultConnectTimeout : Nat := 10000

/-- The settings for an address, whose slashes at the end are dropped. -/
def ofUrl (url : String) : ClientConfig :=
  ⟨String.ofList (Text.dropEndWhile (· == '/') url.toList), defaultRequestTimeout, defaultConnectTimeout⟩

/-- Whether an address begins like one of the web. -/
def isHttp (url : String) : Bool :=
  "http://".toList.isPrefixOf url.toList || "https://".toList.isPrefixOf url.toList

/-- A time that a variable sets; unset it is as by default. -/
def milliseconds (lookup : String → Option String) (key : String) (default : Nat) : Except ConfigFault Nat :=
  match lookup key with
  | none => .ok default
  | some raw =>
    match Text.naturalBelow Text.wordLimit (Text.trim raw.toList) with
    | .ok n => .ok n
    | .error _ => .error (.notMilliseconds key raw)

def urlOf (lookup : String → Option String) : Except ConfigFault String :=
  match lookup urlVariable with
  | none => .error (.notSet urlVariable)
  | some url =>
    if Text.blank url.toList then .error (.notSet urlVariable)
    else if isHttp url then .ok url
    else .error (.notHttp urlVariable url)

def ofLookup (lookup : String → Option String) : Except ConfigFault ClientConfig := do
  let url ← urlOf lookup
  let request ← milliseconds lookup requestTimeoutVariable defaultRequestTimeout
  let connect ← milliseconds lookup connectTimeoutVariable defaultConnectTimeout
  .ok { ofUrl url with requestTimeoutMs := request, connectTimeoutMs := connect }

def endpoint (c : ClientConfig) (path : String) : String := c.backendUrl ++ path

end ClientConfig
end PasskeySession
