import PasskeySession.Backend.Request

/-! # Scripts

A backend that answers from a script: for each endpoint a queue of lines, and a mark on the endpoints whose
calls are to wait. -/

namespace PasskeySession

/-- An endpoint of the backend. -/
inductive Endpoint
  | challenge
  | verify
  | currentUser
  | logout
  | installedModules
  | configure
  | signCreation
  | createOperation
  | executeOperation
  | sessionDetails
  | activateEndpoint
  deriving DecidableEq, Repr

namespace Request

def endpoint : Request → Endpoint
  | challenge _ => .challenge
  | verifyRegistration _ => .verify
  | verifyLogin _ => .verify
  | currentUser => .currentUser
  | logout => .logout
  | installedModules _ => .installedModules
  | configure .. => .configure
  | signCreation .. => .signCreation
  | createOperation .. => .createOperation
  | executeOperation .. => .executeOperation
  | sessionDetails _ => .sessionDetails
  | activateEndpoint .. => .activateEndpoint

end Request

/-- One scripted answer. -/
inductive ScriptLine
  | body (v : Json)
  | failure (e : ClientError)

/-- What is still to be answered, endpoint by endpoint, and which endpoints are on hold. -/
structure Script where
  lines : Endpoint → List ScriptLine
  held : Endpoint → Bool

namespace Script

def empty : Script := ⟨fun _ => [], fun _ => false⟩

def add (s : Script) (e : Endpoint) (lines : List ScriptLine) : Script :=
  { s with lines := fun f => if f = e then s.lines f ++ lines else s.lines f }

/-- Puts an endpoint on hold, or ends its hold. -/
def setHeld (s : Script) (e : Endpoint) (held : Bool) : Script :=
  { s with held := fun f => if f = e then held else s.held f }

/-- The next line for an endpoint, which is used up. -/
def take (s : Script) (e : Endpoint) : Option ScriptLine × Script :=
  ((s.lines e).head?, { s with lines := fun f => if f = e then (s.lines f).tail else s.lines f })

end Script

namespace ScriptLine

/-- What a line, or the lack of one, says to a request. -/
def reply (line : Option ScriptLine) (kind : AnswerKind) : Except ClientError kind.Value :=
  match line with
  | none => .error (.network "unscripted")
  | some (.failure e) => .error e
  | some (.body v) => (kind.decoder.runJson v).mapError fun _ => .invalidAnswer .unusableBody

end ScriptLine
end PasskeySession
