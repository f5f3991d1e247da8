import PasskeySession.Rehearsal.Script
import PasskeySession.Session.Event
import PasskeySession.WebAuthn.Authenticator

/-! # The stage

A world played against a script and an authenticator. An operation runs as soon as it begins, up to the first
call that has to wait; it goes on when it is polled after that call has been released. Prompts are answered
at once. -/

namespace PasskeySession

/-- A call that has been made of the backend. -/
structure Call where
  request : Request
  line : Option ScriptLine
  /-- The endpoint was on hold when the call was made. -/
  held : Bool
  released : Bool

namespace Call

def blocked (c : Call) : Bool := c.held && !c.released

end Call

/-- A world, an authenticator, and a backend that answers from a script. -/
structure Stage where
  world : World
  authenticator : Authenticator
  script : Script
  calls : List Call
  /-- The call that each operation waits for, the latest first. -/
  awaited : List (Nat × Nat)

namespace Stage

def initial (a : Authenticator) : Stage := ⟨.initial, a, .empty, [], []⟩

def call? (s : Stage) (task : Nat) : Option Call :=
  (s.awaited.find? (·.1 = task)).bind fun a => s.calls[a.2]?

def enter (s : Stage) (task : Nat) (r : Request) : Call × Stage :=
  let (line, script) := s.script.take r.endpoint
  let c : Call := ⟨r, line, s.script.held r.endpoint, false⟩
  (c, { s with script, calls := s.calls ++ [c], awaited := (task, s.calls.length) :: s.awaited })

/-- What is answered: prompts by the authenticator, requests with a line of the script. -/
def reply (s : Stage) (line : Option ScriptLine) : Reply
  | .request r => ScriptLine.reply line r.kind
  | .prompt p => (s.authenticator.answer p).1

/-- Answers the question of an operation with a line of the script. -/
def answerWith (s : Stage) (task : Nat) (line : Option ScriptLine) : Stage × Report :=
  let (world, report) := s.world.answer task (s.reply line)
  ({ s with world }, report)

/-- Plays an operation on, up to a call that has to wait. At most so many questions are answered. -/
def play (task : Nat) : (fuel : Nat) → Stage → Report → Stage × Report
  | fuel + 1, s, .progress k (.waiting point) =>
    match point.question with
    | .request r =>
      let (c, s) := s.enter task r
      if c.blocked then (s, .progress k (.waiting point))
      else
        let (s, report) := s.answerWith task c.line
        play task fuel s report
    | .prompt p =>
      let authenticator := (s.authenticator.answer p).2
      let (s, report) := s.answerWith task none
      play task fuel { s with authenticator } report
  | _, s, report => (s, report)

def mostQuestions : Nat := 3

/-- Lets something happen. An operation that begins plays on. -/
def happen (s : Stage) (e : Event) : Stage × Report :=
  let (w, report) := s.world.step e
  match report with
  | .progress task _ => play task mostQuestions { s with world := w } report
  | _ => ({ s with world := w }, report)

/-- Polls an operation: it plays on if the call it waits for has been released. -/
def poll (s : Stage) (task : Nat) : Stage × Report :=
  match s.world.task? task, s.call? task with
  | some _, some c =>
    if c.blocked then (s, .unmoved task)
    else
      let (s, report) := s.answerWith task c.line
      play task mostQuestions s report
  | _, _ => (s, .absent)

/-- Whether an operation goes on waiting after a report. -/
def waits : Report → Bool
  | .unmoved _ => true
  | .progress _ (.waiting _) => true
  | _ => false

/-- Polls an operation, and cancels it if it goes on waiting. -/
def cancel (s : Stage) (task : Nat) : Stage × Report :=
  let (s, report) := s.poll task
  if waits report then s.happen (.cancel task) else (s, report)

/-- Releases a call; tells whether it had nothing to wait for. -/
def release (s : Stage) (n : Nat) : Option (Bool × Stage) :=
  s.calls[n]?.map fun c => (!c.blocked, { s with calls := s.calls.set n { c with released := true } })

/-- Releases all calls; tells how many of them were waiting. -/
def releaseAll (s : Stage) : Nat × Stage :=
  ((s.calls.filter Call.blocked).length, { s with calls := s.calls.map ({ · with released := true }) })

/-- The latest operation that is not over, or the number of the next one. -/
def latestTask (s : Stage) : Nat :=
  let n := s.world.tasks.length
  match s.world.tasks.reverse.findIdx? (·.isSome) with
  | some i => n - 1 - i
  | none => n

end Stage
end PasskeySession
