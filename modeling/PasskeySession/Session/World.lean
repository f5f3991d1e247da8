import PasskeySession.Session.Gate
import PasskeySession.Session.Waiting

/-! # The world of a client

All that the operations of a client share: one registry, and lists of orchestrators, caches, gates, leases
and operations, each numbered in the order in which they came. The backend and the authenticator stand
outside: they are asked, and answer as they like. -/

namespace PasskeySession

/-- All that the operations of a client share. -/
structure World where
  registry : Registry
  /-- None for an orchestrator that has been dropped. -/
  orchestrators : List (Option Orchestrator)
  caches : List SessionCache
  gates : List AccessGate
  /-- The leases taken by hand; none for one that has been given back. -/
  leases : List (Option Lease)
  /-- None for an operation that is over. -/
  tasks : List (Option Waiting)

namespace World

def initial : World := ⟨.empty, [], [], [], [], []⟩

def orchestrator? (w : World) (i : Nat) : Option Orchestrator := w.orchestrators[i]?.join

def task? (w : World) (k : Nat) : Option Waiting := w.tasks[k]?.join

def setOrchestrator (w : World) (i : Nat) (o : Orchestrator) : World :=
  { w with orchestrators := w.orchestrators.set i (some o) }

def modifyOrchestrator (w : World) (i : Nat) (f : Orchestrator → Orchestrator) : World :=
  { w with orchestrators := w.orchestrators.modify i (·.map f) }

def setCache (w : World) (i : Nat) (c : SessionCache) : World := { w with caches := w.caches.set i c }

def modifyGate (w : World) (i : Nat) (f : AccessGate → AccessGate) : World :=
  { w with gates := w.gates.modify i f }

def release (w : World) (lease : Option Lease) : World := { w with registry := w.registry.release? lease }

def inUse (w : World) (i : Nat) : Bool := w.tasks.any fun t => (t.bind Waiting.orchestrator?) == some i

/-- Starts a call for the sessions of the account of a cache. -/
def startLoad (w : World) (i : Nat) : Except ClientError (CacheLoad × World) :=
  match w.caches[i]? with
  | none => .error SessionCache.noAccount
  | some c =>
    match c.start with
    | .error e => .error e
    | .ok (l, c) => .ok (⟨i, l⟩, w.setCache i c)

/-- Turns a cache to an account and starts a call for its sessions. -/
def startFetch (w : World) (i : Nat) (a : Account) : Except ClientError (CacheLoad × World) :=
  { w with caches := w.caches.modify i (·.select a) }.startLoad i

/-- Takes the answer to a call for sessions in, and gives the result of the call. -/
def answerLoad (w : World) (l : CacheLoad) (result : Except ClientError (List SessionRecord)) :
    Except ClientError (List SessionRecord) × World :=
  match w.caches[l.cache]? with
  | none => (result, w)
  | some c =>
    let (result, c) := c.answered l.load result
    (result, w.setCache l.cache c)

def dropLoad (w : World) (l : CacheLoad) : World :=
  { w with caches := w.caches.modify l.cache (·.dropped l.load) }

end World
end PasskeySession
