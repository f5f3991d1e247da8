import PasskeySession.Http.Exchange
import PasskeySession.Session.Event
import PasskeySession.Text.Split
import PasskeySession.WebAuthn.Authenticator

/-! # Scenarios

A scenario is a run of a client against a backend: it prints lines, asks requests, and ends with a result.
What answers the requests is left open, so the same scenario runs against a script or a network. -/

namespace PasskeySession

/-- A run that prints and asks. -/
inductive Scenario (α : Type)
  | done (a : α)
  | print (line : String) (next : Scenario α)
  | ask (r : Request) (next : r.Answer → Scenario α)

namespace Scenario
variable {α β : Type}

def andThen (f : α → Scenario β) : Scenario α → Scenario β
  | done a => f a
  | print line next => print line (next.andThen f)
  | ask r next => ask r fun a => (next a).andThen f

instance : Monad Scenario where
  pure := done
  bind s f := s.andThen f

/-- What a run against a server leaves behind. -/
structure Transcript (α : Type) where
  result : α
  requests : List HttpRequest
  lines : List String

namespace Transcript

/-- A line without a carriage return at its end. -/
def withoutReturn (line : List Char) : List Char :=
  if line.getLast? == some '\r' then line.dropLast else line

/-- What is printed before all else. A line feed in it begins another line. -/
def printed (line : String) (t : Transcript α) : Transcript α :=
  { t with lines :=
      (Text.splitBy (· == '\n') line.toList).map (fun l => String.ofList (withoutReturn l)) ++ t.lines }

end Transcript

/-- Runs a scenario against a server, which sees all requests up to the one it answers. A request without an
    address does not reach it. -/
def run (serve : List HttpRequest → Reception) : (c : HttpClient) → (sent : List HttpRequest) → Scenario α →
    Transcript α
  | _, sent, done a => ⟨a, sent, []⟩
  | c, sent, print line next => (run serve c sent next).printed line
  | c, sent, ask r next =>
    match c.url? r with
    | none => run serve c sent (next (r.answerOf (.failed "no address")))
    | some u =>
      let sent := sent ++ [c.request r u]
      let reception := serve sent
      run serve (c.keep u reception) sent (next (r.answerOf reception))

end Scenario

/-- Why a scenario fails. -/
inductive ScenarioError
  /-- An operation failed; the words tell what it was part of. -/
  | client (during : Option String) (e : ClientError)
  | fault (f : Fault)
  | otherCredential (id : String)
  | noSafe (username : String)
  | notGrown (before after : Nat)
  | notFlipped (gate : Bool) (listed : Option Bool)
  | unexpected (what : String)

namespace ScenarioError

def boolText (b : Bool) : String := if b then "true" else "false"

def choiceText : Option Bool → String
  | none => "None"
  | some b => "Some(" ++ boolText b ++ ")"

def chain : ScenarioError → List String
  | client none e => [e.message]
  | client (some during) e => [during, e.message]
  | fault f => [f.message]
  | otherCredential id => ["Login picked " ++ id ++ " instead of the new credential"]
  | noSafe username => ["User " ++ username ++ " has no Safe"]
  | notGrown before after =>
    ["Session list did not grow (" ++ toString before ++ " before, " ++ toString after ++ " after)"]
  | notFlipped gate listed =>
    ["Endpoint did not flip (gate=" ++ boolText gate ++ ", listed=" ++ choiceText listed ++ ")"]
  | unexpected what => [what]

end ScenarioError

/-! ### Plays -/

/-- Where a play is set: the world of a client, and the authenticator of its user. -/
structure Scene where
  world : World
  authenticator : Authenticator

namespace Scene

def initial (a : Authenticator) : Scene := ⟨.initial, a⟩

end Scene

abbrev Play := StateT Scene (ExceptT ScenarioError Scenario)

namespace Play

def say (line : String) : Play Unit := fun s => .print line (.done (.ok ((), s)))

def heading (line : String) : Play Unit := do
  say ""
  say line

def fail {α : Type} (e : ScenarioError) : Play α := fun _ => .done (.error e)

def ask (r : Request) : Play r.Answer := fun s => .ask r fun a => .done (.ok (a, s))

/-- Asks a question: a request of the backend, a prompt of the authenticator. -/
def answerTo : (q : Question) → Play q.Answer
  | .request r => ask r
  | .prompt p => do
    let s ← get
    let (given, authenticator) := s.authenticator.answer p
    set { s with authenticator }
    pure given

def world : Play World := do pure (← get).world

/-- The value of a result, or failure during something. -/
def check {α : Type} (during : Option String) : Except ClientError α → Play α
  | .ok a => pure a
  | .error e => fail (.client during e)

def happen (e : Event) : Play Report := do
  let (world, report) := (← world).step e
  modify ({ · with world })
  pure report

def failNext (e : AuthenticatorError) : Play Unit :=
  modify fun s => { s with authenticator := s.authenticator.scriptFailure e }

def make (e : Event) : Play Nat := do
  match ← happen e with
  | .created n => pure n
  | _ => fail (.unexpected "Nothing was made")

/-- Follows an operation to its end. At most so many questions are asked. -/
def follow : (fuel : Nat) → Progress → Play (Except ClientError Outcome)
  | _, .finished result => pure result
  | 0, .waiting _ => fail (.unexpected "The operation does not end")
  | fuel + 1, .waiting point => do
    let answer ← answerTo point.question
    let (world, p) := (← world).resume point answer
    modify ({ · with world })
    follow fuel p

def perform (op : Operation) : Play (Except ClientError Outcome) := do
  match (← world).start op with
  | none => fail (.unexpected "There is no such part")
  | some (world, p) => do
    modify ({ · with world })
    follow 3 p

/-- Performs an operation that has to succeed, and picks what it gives. -/
def obtain {α : Type} (during : Option String) (pick : Outcome → Option α) (op : Operation) : Play α := do
  match pick (← check during (← perform op)) with
  | some a => pure a
  | none => fail (.unexpected "Unexpected outcome")

def orchestrator (i : Nat) : Play Orchestrator := do
  match (← world).orchestrator? i with
  | some o => pure o
  | none => fail (.unexpected "There is no such orchestrator")

end Play
end PasskeySession
