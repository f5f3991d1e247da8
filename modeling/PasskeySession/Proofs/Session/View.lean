import Mathlib.Tactic.Simps.Basic
import PasskeySession.Proofs.Session.Slots
import PasskeySession.Session.Event

/-! # What sessions see of a world

A session is opened, held and ended by orchestrators, operations, leases and slots. This file looks at a
world through these alone, each by its number, and says what the elementary updates of a world do to them.
Caches and gates are not seen. -/

namespace PasskeySession

/-- The orchestrators, unfinished operations, leases taken by hand and slots of a world. -/
@[ext] structure Sessions where
  orchestrator : Nat → Option Orchestrator
  task : Nat → Option Waiting
  hand : Nat → Option Lease
  slot : Account → Option UInt64
  /-- How many orchestrators have been made. -/
  made : Nat
  /-- How many operations have been begun. -/
  begun : Nat

/-! ### Lists as functions of numbers -/

theorem join_getElem?_set {α : Type} {l : List (Option α)} {k : Nat} {x : α} {y : Option α}
    (h : l[k]?.join = some x) :
    (fun j => (l.set k y)[j]?.join) = Function.update (fun j => l[j]?.join) k y := by
  have hk : k < l.length := by
    by_contra hk
    rw [List.getElem?_eq_none (Nat.le_of_not_lt hk)] at h
    cases h
  funext j
  by_cases hj : j = k
  · subst hj
    simp [hk]
  · rw [Function.update_of_ne hj, List.getElem?_set_ne (Ne.symm hj)]

theorem join_getElem?_append {α : Type} {l : List (Option α)} {y : Option α} :
    (fun j => (l ++ [y])[j]?.join) = Function.update (fun j => l[j]?.join) l.length y := by
  funext j
  rcases Nat.lt_trichotomy j l.length with hj | rfl | hj
  · rw [Function.update_of_ne (Nat.ne_of_lt hj), List.getElem?_append_left hj]
  · simp
  · rw [Function.update_of_ne (Nat.ne_of_gt hj), List.getElem?_eq_none (by rw [List.length_append]; exact hj),
      List.getElem?_eq_none (Nat.le_of_lt hj)]

namespace Sessions
variable (s : Sessions)

@[simps] def setOrchestrator (i : Nat) (o : Option Orchestrator) : Sessions :=
  { s with orchestrator := Function.update s.orchestrator i o }

@[simps] def setTask (k : Nat) (t : Option Waiting) : Sessions := { s with task := Function.update s.task k t }

@[simps] def setHand (n : Nat) (l : Option Lease) : Sessions := { s with hand := Function.update s.hand n l }

@[simps] def setSlot (a : Account) (t : Option UInt64) : Sessions :=
  { s with slot := Function.update s.slot a t }

/-- Gives the next number to an operation. -/
@[simps] def begin (t : Option Waiting) : Sessions :=
  { s with task := Function.update s.task s.begun t, begun := s.begun + 1 }

/-- Gives the next number to an orchestrator. -/
@[simps] def make (o : Orchestrator) : Sessions :=
  { s with orchestrator := Function.update s.orchestrator s.made (some o), made := s.made + 1 }

/-- The slots after a lease has been given back, if there is one: it frees the slot that it fills. -/
def freed (slot : Account → Option UInt64) : Option Lease → Account → Option UInt64
  | none => slot
  | some l => if slot l.account = some l.token then Function.update slot l.account none else slot

/-- Gives a lease back, if there is one. -/
@[simps] def giveBack (l : Option Lease) : Sessions := { s with slot := freed s.slot l }

/-- No unfinished operation is on an orchestrator. -/
def Idle (i : Nat) : Prop := ∀ k point, s.task k = some point → point.orchestrator? ≠ some i

end Sessions

namespace World
variable {w v : World} {i k : Nat}

/-- What sessions see of a world. -/
@[simps] def sessions (w : World) : Sessions where
  orchestrator := w.orchestrator?
  task := w.task?
  hand := fun n => w.leases[n]?.join
  slot := w.registry.token?
  made := w.orchestrators.length
  begun := w.tasks.length

theorem sessions_setOrchestrator {o p : Orchestrator} (h : w.orchestrator? i = some o) :
    (w.setOrchestrator i p).sessions = w.sessions.setOrchestrator i (some p) := by
  refine Sessions.ext ?_ rfl rfl rfl (List.length_set ..) rfl
  exact join_getElem?_set h

theorem modifyOrchestrator_eq {o : Orchestrator} {f : Orchestrator → Orchestrator} (h : w.orchestrator? i = some o) :
    w.modifyOrchestrator i f = w.setOrchestrator i (f o) := by
  have hi : w.orchestrators[i]? = some (some o) := Option.join_eq_some_iff.mp h
  have hset : w.orchestrators.modify i (·.map f) = w.orchestrators.set i (some (f o)) := by
    rw [List.modify_eq_set_getElem?, hi]
    rfl
  unfold modifyOrchestrator setOrchestrator
  rw [hset]

theorem sessions_modifyOrchestrator {o : Orchestrator} {f : Orchestrator → Orchestrator}
    (h : w.orchestrator? i = some o) :
    (w.modifyOrchestrator i f).sessions = w.sessions.setOrchestrator i (some (f o)) := by
  rw [modifyOrchestrator_eq h, sessions_setOrchestrator h]

theorem sessions_release {l : Option Lease} : (w.release l).sessions = w.sessions.giveBack l := by
  cases l with
  | none => rfl
  | some l => exact Sessions.ext rfl rfl rfl Registry.token?_release rfl rfl

theorem sessions_setTask {point : Waiting} {t : Option Waiting} (h : w.task? k = some point) :
    { w with tasks := w.tasks.set k t }.sessions = w.sessions.setTask k t := by
  refine Sessions.ext rfl ?_ rfl rfl rfl (List.length_set ..)
  exact join_getElem?_set h

theorem sessions_addTask {t : Option Waiting} :
    { w with tasks := w.tasks ++ [t] }.sessions = w.sessions.begin t := by
  refine Sessions.ext rfl ?_ rfl rfl rfl List.length_append
  exact join_getElem?_append

theorem inUse_eq_false_iff : w.inUse i = false ↔ w.sessions.Idle i := by
  simp only [inUse, List.any_eq_false, beq_iff_eq, Sessions.Idle, sessions_task, task?]
  constructor
  · intro h k point hk ho
    exact h _ (List.mem_of_getElem? (Option.join_eq_some_iff.mp hk)) ho
  · intro h t ht ho
    obtain ⟨k, hk⟩ := List.mem_iff_getElem?.mp ht
    obtain ⟨point, rfl, hp⟩ := Option.bind_eq_some_iff.mp ho
    exact h k point (by rw [hk]; rfl) hp

/-! ### Caches are not seen -/

theorem sessions_startLoad {c : Nat} {l : CacheLoad} (h : w.startLoad c = .ok (l, v)) :
    v.sessions = w.sessions := by
  unfold startLoad at h
  split at h
  · cases h
  · split at h
    · cases h
    · cases h
      rfl

theorem sessions_startFetch {c : Nat} {a : Account} {l : CacheLoad} (h : w.startFetch c a = .ok (l, v)) :
    v.sessions = w.sessions :=
  sessions_startLoad (w := { w with caches := w.caches.modify c (·.select a) }) h

theorem sessions_answerLoad {l : CacheLoad} {r : Except ClientError (List SessionRecord)} :
    (w.answerLoad l r).2.sessions = w.sessions := by
  unfold answerLoad
  split <;> rfl

end World
end PasskeySession
