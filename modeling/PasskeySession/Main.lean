import PasskeySession.Http.Wire
import PasskeySession.Scenario.Suite
import Std.Internal.UV.DNS
import Std.Internal.UV.TCP
import Std.Internal.UV.Timer
import Std.Time.DateTime.Timestamp

/-! # The command line

Runs the scenarios against a backend that is reached over TCP. Everything that is decided is decided by the
scenario; here lines are printed, bytes are sent and received, and random bytes are drawn. -/

namespace PasskeySession.Main

open Std.Net Std.Internal.UV

/-- Waits for what has been promised, for so many milliseconds at most. -/
def await {α : Type} (limit : Nat) (p : IO.Promise (Except IO.Error α)) : IO α := do
  let timer ← Timer.mk (UInt64.ofNat limit) false
  let alarm ← timer.next
  let first ← IO.waitAny [p.result?, alarm.result?.map fun _ => some (.error (IO.userError "operation timed out"))]
  timer.stop
  match first with
  | some (.ok a) => pure a
  | some (.error e) => throw e
  | none => throw (IO.userError "the operation was dropped")

partial def receive (limit : Nat) (socket : TCP.Socket) (received : ByteArray) : IO ByteArray := do
  match ← await limit (← socket.recv? 65536) with
  | some chunk => receive limit socket (received ++ chunk)
  | none => pure received

def address (limit : Nat) (u : Url) : IO SocketAddress := do
  let port := UInt16.ofNat (u.port.getD 80)
  let name := String.ofList (u.host.text.toList.filter fun c => c != '[' && c != ']')
  let found : Array IPAddr ← await limit (← DNS.getAddrInfo name "" 0)
  match found[0]? with
  | some (IPAddr.v4 ip) => pure (.v4 ⟨ip, port⟩)
  | some (IPAddr.v6 ip) => pure (.v6 ⟨ip, port⟩)
  | none => throw (IO.userError "the host has no address")

/-- Sends a request and takes in what comes back. -/
def exchange (config : ClientConfig) (u : Url) (r : HttpRequest) : IO Reception := do
  try
    let socket ← TCP.Socket.new
    await config.connectTimeoutMs (← socket.connect (← address config.connectTimeoutMs u))
    let host := match u.port with
      | none => u.host.text
      | some port => u.host.text ++ ":" ++ toString port
    await config.requestTimeoutMs (← socket.send #[ByteArray.mk (r.bytes host).toArray])
    pure (.ofBytes (← receive config.requestTimeoutMs socket .empty).toList)
  catch e => pure (.failed (toString e))

/-- Runs a scenario, printing its lines and sending its requests. -/
def play {α : Type} : HttpClient → Scenario α → IO α
  | _, .done a => pure a
  | c, .print line next => do
    IO.println line
    (← IO.getStdout).flush
    play c next
  | c, .ask r next => do
    match c.url? r with
    | none => play c (next (r.answerOf (.failed "builder error")))
    | some u => do
      let reception ← exchange c.config u (c.request r u)
      play (c.keep u reception) (next (r.answerOf reception))

/-- A key and a name for a new credential, from random bytes. -/
def drawFresh : IO Fresh := do
  let key ← IO.getRandomBytes 40
  let name ← IO.getRandomBytes 16
  let scalar := BigEndian.toNat key.toList % (P256.order - 1) + 1
  let rawId : Bytes := BigEndian.ofNat 16 (BigEndian.toNat name.toList)
  pure ⟨⟨scalar, by omega, by
    have : BigEndian.toNat key.toList % (P256.order - 1) < P256.order - 1 := Nat.mod_lt _ (by decide)
    have : 0 < P256.order := by decide
    omega⟩, ⟨rawId, BigEndian.length_ofNat ..⟩⟩

def drawName : IO String := do
  let bytes ← IO.getRandomBytes 4
  pure ("e2e-" ++ String.ofList (Text.toHex bytes.toList))

def now : IO Instant := do
  pure ⟨(← Std.Time.Timestamp.now).toSecondsSinceUnixEpoch.val, 0⟩

def usage : String :=
  "Usage: safeliza-tests-e2e [OPTIONS]\n\nOptions:\n" ++
    String.join (Options.names.map fun name => "      --" ++ name ++ " <VALUE>\n") ++ "  -h, --help"

/-- The environment, as far as options may be given by it. -/
def environment : IO (String → Option String) := do
  let keys := Options.names.filterMap Options.environmentKey
  let values ← keys.mapM fun key => do pure (key, ← IO.getEnv key)
  pure fun key => (values.find? (·.1 == key)).bind (·.2)

def complain (chain : List String) : IO Unit := do
  match chain with
  | [] => pure ()
  | outer :: causes => do
    IO.eprintln ("Error: " ++ outer)
    if !causes.isEmpty then IO.eprintln ("\nCaused by:\n" ++ String.join (causes.map ("    " ++ · ++ "\n")))

def runSuite (o : Options) : IO UInt32 := do
  let fresh ← drawFresh
  match ← play (.initial (Scenario.configOf o) (← now)) (Scenario.suite o (← drawName) fun _ => fresh) with
  | .ok () => pure 0
  | .error e => do
    complain e.chain
    pure 1

end PasskeySession.Main

def main (args : List String) : IO UInt32 := do
  match PasskeySession.CommandLine.parse args (← PasskeySession.Main.environment) with
  | .help => do
    IO.println PasskeySession.Main.usage
    pure 0
  | .refused => do
    IO.eprintln PasskeySession.Main.usage
    pure 2
  | .run o => PasskeySession.Main.runSuite o
