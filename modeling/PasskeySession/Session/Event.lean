import PasskeySession.Policy.Edit
import PasskeySession.Session.Operation

/-! # What can happen

Every change of a world is one of these events, in any order: parts are made and dropped, forms are edited,
operations begin, are answered, cancelled and dropped. -/

namespace PasskeySession

abbrev Reply := (q : Question) → q.Answer

/-- Something that happens in a world. -/
inductive Event
  | newOrchestrator (account : Account) (cache : Option Nat)
  | dropOrchestrator (orch : Nat)
  | newCache
  | newGate (account : Account) (url : String) (active : Bool) (cache : Option Nat)
  | edit (orch : Nat) (e : Edit)
  | setForm (orch : Nat) (form : PolicyForm)
  | discard (orch : Nat)
  | acquire (account : Account)
  | releaseLease (lease : Nat)
  | start (op : Operation)
  | answer (task : Nat) (reply : Reply)
  | cancel (task : Nat)
  | drop (task : Nat)

/-- What an event gives back. -/
inductive Report
  | done
  /-- There is no such part, or it was dropped. -/
  | absent
  /-- An unfinished operation is on the orchestrator. -/
  | inUse
  | created (number : Nat)
  | refused (e : ClientError)
  | edited (result : Except EditError (Option TokenPolicy))
  | leased (number : Nat) (lease : Lease)
  | progress (task : Nat) (p : Progress)
  /-- Nothing comes of it: the operation goes on waiting. -/
  | unmoved (task : Nat)

namespace Progress

/-- The entry of an operation in the list of operations. -/
def entry : Progress → Option Waiting
  | finished _ => none
  | waiting p => some p

end Progress

namespace World

/-- Does something with an orchestrator that is there and not in use. -/
def onOrchestrator (w : World) (i : Nat) (f : Orchestrator → World × Report) : World × Report :=
  match w.orchestrator? i with
  | none => (w, .absent)
  | some o => if w.inUse i then (w, .inUse) else f o

/-- Edits the form of an orchestrator. An edit that is refused has still opened the form. -/
def editForm (w : World) (i : Nat) (e : Edit) (o : Orchestrator) : World × Report :=
  match o.openForm with
  | .error e => (w, .refused e)
  | .ok o =>
    match e.change o.form with
    | .error e => (w.setOrchestrator i o, .edited (.error e))
    | .ok (form, token) => (w.setOrchestrator i { o with form }, .edited (.ok token))

/-- Puts another form in the place of an orchestrator's form. -/
def setForm (w : World) (i : Nat) (form : PolicyForm) (o : Orchestrator) : World × Report :=
  match o.openForm with
  | .error e => (w, .refused e)
  | .ok o => (w.setOrchestrator i { o with form }, .done)

def discard (w : World) (i : Nat) (o : Orchestrator) : World × Report :=
  match o.discard with
  | .error e => (w, .refused e)
  | .ok p => ((w.setOrchestrator i p).release o.lease, .done)

def dropOrchestrator (w : World) (i : Nat) (o : Orchestrator) : World × Report :=
  ({ w with orchestrators := w.orchestrators.set i none }.release o.lease, .done)

def acquireLease (w : World) (a : Account) : World × Report :=
  match w.registry.acquire a with
  | (.error e, r) => ({ w with registry := r }, .refused e)
  | (.ok lease, r) =>
    ({ w with registry := r, leases := w.leases ++ [some lease] }, .leased w.leases.length lease)

/-- Gives a lease back that was taken by hand. -/
def releaseLease (w : World) (n : Nat) : World × Report :=
  match w.leases[n]?.join with
  | none => (w, .absent)
  | some lease => ({ w with leases := w.leases.set n none }.release (some lease), .done)

/-- Begins an operation and gives it a number, unless it is on an orchestrator that is in use. -/
def begin (w : World) (op : Operation) : World × Report :=
  if op.orchestrator?.any w.inUse then (w, .inUse)
  else
    match w.start op with
    | none => (w, .absent)
    | some (v, p) => ({ v with tasks := v.tasks ++ [p.entry] }, .progress v.tasks.length p)

/-- Gives an unfinished operation the answer it waits for. -/
def answer (w : World) (k : Nat) (reply : Reply) : World × Report :=
  match w.task? k with
  | none => (w, .absent)
  | some point =>
    let (v, p) := w.resume point (reply point.question)
    ({ v with tasks := v.tasks.set k p.entry }, .progress k p)

def cancelTask (w : World) (k : Nat) : World × Report :=
  match w.task? k with
  | none => (w, .absent)
  | some point =>
    match w.cancel point with
    | none => (w, .unmoved k)
    | some (v, p) => ({ v with tasks := v.tasks.set k p.entry }, .progress k p)

def dropTask (w : World) (k : Nat) : World × Report :=
  match w.task? k with
  | none => (w, .absent)
  | some point =>
    let v := w.abandon point
    ({ v with tasks := v.tasks.set k none }, .done)

def step (w : World) : Event → World × Report
  | .newOrchestrator a c =>
    ({ w with orchestrators := w.orchestrators ++ [some (.initial a c)] }, .created w.orchestrators.length)
  | .dropOrchestrator i => w.onOrchestrator i (w.dropOrchestrator i)
  | .newCache => ({ w with caches := w.caches ++ [.empty] }, .created w.caches.length)
  | .newGate a url active c =>
    ({ w with gates := w.gates ++ [.initial a url active c] }, .created w.gates.length)
  | .edit i e => w.onOrchestrator i (w.editForm i e)
  | .setForm i form => w.onOrchestrator i (w.setForm i form)
  | .discard i => w.onOrchestrator i (w.discard i)
  | .acquire a => w.acquireLease a
  | .releaseLease n => w.releaseLease n
  | .start op => w.begin op
  | .answer k reply => w.answer k reply
  | .cancel k => w.cancelTask k
  | .drop k => w.dropTask k

/-- A world that some events make of a world with nothing in it. -/
inductive Reachable : World → Prop
  | initial : Reachable initial
  | step {w : World} (e : Event) : Reachable w → Reachable (w.step e).1

end World
end PasskeySession
