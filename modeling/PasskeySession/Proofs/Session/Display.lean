import Mathlib.Tactic.Simps.Basic
import PasskeySession.Proofs.Session.View

/-! # What is displayed of a world

Caches and gates show what the backend has told. This file looks at a world through them and the unfinished
operations, each by its number, and says what the elementary updates of a world do to them. Orchestrators,
leases and slots are not seen. -/

namespace PasskeySession
open Function (update)

/-- The caches, gates and unfinished operations of a world. -/
@[ext] structure Displays where
  cache : Nat → Option SessionCache
  gate : Nat → Option AccessGate
  task : Nat → Option Waiting
  /-- How many caches have been made. -/
  caches : Nat
  /-- How many gates have been made. -/
  gates : Nat
  /-- How many operations have been begun. -/
  begun : Nat

/-! ### Lists as functions of numbers -/

theorem getElem?_modify_eq_update {α : Type} {l : List α} {i : Nat} {f : α → α} :
    (fun j => (l.modify i f)[j]?) = update (fun j => l[j]?) i (l[i]?.map f) := by
  funext j
  by_cases hj : j = i
  · subst hj
    simp
  · rw [Function.update_of_ne hj, List.getElem?_modify_ne f l (Ne.symm hj)]

theorem getElem?_append_eq_update {α : Type} {l : List α} {y : α} :
    (fun j => (l ++ [y])[j]?) = update (fun j => l[j]?) l.length (some y) := by
  funext j
  rcases Nat.lt_trichotomy j l.length with hj | rfl | hj
  · rw [Function.update_of_ne (Nat.ne_of_lt hj), List.getElem?_append_left hj]
  · simp
  · rw [Function.update_of_ne (Nat.ne_of_gt hj), List.getElem?_eq_none (by rw [List.length_append]; exact hj),
      List.getElem?_eq_none (Nat.le_of_lt hj)]

/-! ### Calls -/

namespace SessionCache

/-- A cache that turns to an account first, if a call is for one. -/
def turned (fetched : Option Account) (c : SessionCache) : SessionCache :=
  match fetched with
  | some a => c.select a
  | none => c

/-- A cache after a call has been started, for an account or for the one it shows. -/
@[simps!] def called (fetched : Option Account) (c : SessionCache) : SessionCache :=
  { c.turned fetched with generation := c.generation + 1, loading := true }

@[simp] theorem generation_select (c : SessionCache) (a : Account) : (c.select a).generation = c.generation := by
  unfold select
  split <;> rfl

@[simp] theorem generation_turned (fetched : Option Account) (c : SessionCache) :
    (c.turned fetched).generation = c.generation := by
  cases fetched with
  | none => rfl
  | some a => exact c.generation_select a

theorem account_select (c : SessionCache) (a : Account) : (c.select a).account = some a := by
  unfold select
  split
  · assumption
  · rfl

/-- A call is started for the account that the cache turns to. -/
theorem start_turned {c : SessionCache} {fetched : Option Account} {a : Account}
    (h : (c.turned fetched).account = some a) :
    (c.turned fetched).start = .ok (⟨a, c.generation + 1⟩, c.called fetched) := by
  rw [start, h]
  simp [called, h]

theorem start_eq_error {c : SessionCache} {e : ClientError} (h : c.start = .error e) : c.account = none := by
  unfold start at h
  split at h
  · assumption
  · cases h

end SessionCache

namespace Waiting

/-- The call for sessions that an operation waits for. -/
def call? : Waiting → Option CacheLoad
  | signed _ _ l => some l
  | load l => some l
  | toggled _ _ l => some l
  | _ => none

/-- The gate that an operation toggles. -/
def gate? : Waiting → Option Nat
  | toggle i .. => some i
  | toggled i .. => some i
  | _ => none

/-- An operation that waits neither for sessions nor for an endpoint. -/
def Hidden (point : Waiting) : Prop := point.call? = none ∧ point.gate? = none

/-- The sessions that the answer to a call gives. -/
theorem question_of_call? {point : Waiting} {l : CacheLoad} (h : point.call? = some l) :
    point.question = .request (.sessionDetails l.load.account) := by
  cases point <;> cases h <;> rfl

end Waiting

/-! ### Updates -/

namespace Displays
variable (d : Displays)

@[simps] def setTask (k : Nat) (t : Option Waiting) : Displays := { d with task := update d.task k t }

/-- Gives the next number to an operation. -/
@[simps] def begin (t : Option Waiting) : Displays :=
  { d with task := update d.task d.begun t, begun := d.begun + 1 }

@[simps] def modifyCache (n : Nat) (f : SessionCache → SessionCache) : Displays :=
  { d with cache := update d.cache n ((d.cache n).map f) }

@[simps] def modifyGate (i : Nat) (f : AccessGate → AccessGate) : Displays :=
  { d with gate := update d.gate i ((d.gate i).map f) }

theorem modifyCache_modifyCache (n : Nat) (f g : SessionCache → SessionCache) :
    (d.modifyCache n f).modifyCache n g = d.modifyCache n fun c => g (f c) := by
  refine Displays.ext ?_ rfl rfl rfl rfl rfl
  simp [modifyCache, Function.comp_def]

theorem modifyGate_modifyGate (i : Nat) (f g : AccessGate → AccessGate) :
    (d.modifyGate i f).modifyGate i g = d.modifyGate i fun a => g (f a) := by
  refine Displays.ext rfl ?_ rfl rfl rfl rfl
  simp [modifyGate, Function.comp_def]

/-- Gives the next number to a cache. -/
@[simps] def makeCache : Displays :=
  { d with cache := update d.cache d.caches (some .empty), caches := d.caches + 1 }

/-- Gives the next number to a gate. -/
@[simps] def makeGate (g : AccessGate) : Displays :=
  { d with gate := update d.gate d.gates (some g), gates := d.gates + 1 }

/-- Forgets the call that an operation waits for. -/
def forget : Option CacheLoad → Displays
  | none => d
  | some l => d.modifyCache l.cache (·.dropped l.load)

/-- Ends the toggle that an operation is. -/
def finish : Option Nat → Displays
  | none => d
  | some i => d.modifyGate i AccessGate.finish

/-- Something of each unfinished operation, by its number. -/
def seen {β : Type} (f : Waiting → Option β) (d : Displays) (k : Nat) : Option β := (d.task k).bind f

section
variable {d} {β : Type} {f : Waiting → Option β} {k : Nat} {t : Option Waiting}

theorem seen_of_task {point : Waiting} (h : d.task k = some point) : d.seen f k = f point := by
  rw [seen, h]
  rfl

theorem seen_of_none (h : d.task k = none) : d.seen f k = none := by
  rw [seen, h]
  rfl

theorem seen_setTask : (d.setTask k t).seen f = update (d.seen f) k (t.bind f) := by
  funext j
  by_cases hj : j = k
  · subst hj
    simp [seen]
  · simp [seen, Function.update_of_ne hj]

theorem seen_begin : (d.begin t).seen f = update (d.seen f) d.begun (t.bind f) := by
  funext j
  by_cases hj : j = d.begun
  · subst hj
    simp [seen]
  · simp [seen, Function.update_of_ne hj]

theorem seen_congr {d' : Displays} (h : d'.task = d.task) : d'.seen f = d.seen f := by
  unfold seen
  rw [h]

/-- An operation of which nothing is seen, before or after. -/
theorem seen_setTask_of_none {point : Waiting} (hk : d.task k = some point) (hp : f point = none)
    (ht : t.bind f = none) : (d.setTask k t).seen f = d.seen f := by
  rw [seen_setTask, ht]
  exact Function.update_eq_self_iff.mpr ((seen_of_task hk).trans hp).symm

theorem seen_begin_of_none (hk : d.task d.begun = none) (ht : t.bind f = none) : (d.begin t).seen f = d.seen f := by
  rw [seen_begin, ht]
  exact Function.update_eq_self_iff.mpr (seen_of_none hk).symm

end

@[simp] theorem cache_finish (i : Option Nat) : (d.finish i).cache = d.cache := by
  cases i <;> rfl

@[simp] theorem task_finish (i : Option Nat) : (d.finish i).task = d.task := by
  cases i <;> rfl

@[simp] theorem begun_finish (i : Option Nat) : (d.finish i).begun = d.begun := by
  cases i <;> rfl

@[simp] theorem gate_forget (l : Option CacheLoad) : (d.forget l).gate = d.gate := by
  cases l <;> rfl

@[simp] theorem task_forget (l : Option CacheLoad) : (d.forget l).task = d.task := by
  cases l <;> rfl

@[simp] theorem begun_forget (l : Option CacheLoad) : (d.forget l).begun = d.begun := by
  cases l <;> rfl

@[simp] theorem seen_finish {β : Type} (f : Waiting → Option β) (i : Option Nat) : (d.finish i).seen f = d.seen f := by
  cases i <;> rfl

@[simp] theorem seen_forget {β : Type} (f : Waiting → Option β) (l : Option CacheLoad) :
    (d.forget l).seen f = d.seen f := by
  cases l <;> rfl

end Displays

namespace World
variable {w v : World} {i k n : Nat}

/-- What is displayed of a world. -/
@[simps] def displays (w : World) : Displays where
  cache := fun n => w.caches[n]?
  gate := fun i => w.gates[i]?
  task := w.task?
  caches := w.caches.length
  gates := w.gates.length
  begun := w.tasks.length

theorem displays_setTask {point : Waiting} {t : Option Waiting} (h : w.task? k = some point) :
    { w with tasks := w.tasks.set k t }.displays = w.displays.setTask k t := by
  refine Displays.ext rfl rfl ?_ rfl rfl (List.length_set ..)
  exact join_getElem?_set h

theorem displays_addTask {t : Option Waiting} :
    { w with tasks := w.tasks ++ [t] }.displays = w.displays.begin t := by
  refine Displays.ext rfl rfl ?_ rfl rfl List.length_append
  exact join_getElem?_append

theorem displays_modifyGate {f : AccessGate → AccessGate} :
    (w.modifyGate i f).displays = w.displays.modifyGate i f :=
  Displays.ext rfl getElem?_modify_eq_update rfl rfl (List.length_modify ..) rfl

theorem displays_modifyCache {f : SessionCache → SessionCache} :
    { w with caches := w.caches.modify n f }.displays = w.displays.modifyCache n f :=
  Displays.ext getElem?_modify_eq_update rfl rfl (List.length_modify ..) rfl rfl

theorem displays_setCache {c : SessionCache} {f : SessionCache → SessionCache} (h : w.caches[n]? = some c) :
    (w.setCache n (f c)).displays = w.displays.modifyCache n f := by
  rw [← displays_modifyCache]
  have hset : w.caches.modify n f = w.caches.set n (f c) := by
    rw [List.modify_eq_set_getElem?, h]
    rfl
  rw [hset]
  rfl

theorem displays_answerLoad {l : CacheLoad} {r : Except ClientError (List SessionRecord)} :
    (w.answerLoad l r).2.displays = w.displays.modifyCache l.cache (fun c => (c.answered l.load r).2) := by
  unfold answerLoad
  split
  · rename_i h
    refine Displays.ext ?_ rfl rfl rfl rfl rfl
    change w.displays.cache = update w.displays.cache l.cache _
    rw [displays_cache, h]
    exact (Function.update_eq_self_iff.mpr h.symm).symm
  · rename_i c h
    exact displays_setCache (f := fun c => (c.answered l.load r).2) h

theorem displays_dropLoad {l : CacheLoad} :
    (w.dropLoad l).displays = w.displays.modifyCache l.cache (·.dropped l.load) := displays_modifyCache

/-- A call on a cache that is there and has an account. -/
theorem startLoad_eq_ok {l : CacheLoad} (h : w.startLoad n = .ok (l, v)) :
    ∃ c a, w.caches[n]? = some c ∧ c.account = some a ∧ l = ⟨n, a, c.generation + 1⟩ ∧
      v.displays = w.displays.modifyCache n (·.called none) := by
  unfold startLoad at h
  split at h
  · cases h
  · rename_i c hc
    cases ha : c.account with
    | none =>
      rw [SessionCache.start, ha] at h
      cases h
    | some a =>
      have ha' : (c.turned none).account = some a := ha
      have hs : c.start = .ok (⟨a, c.generation + 1⟩, c.called none) := SessionCache.start_turned ha'
      rw [hs] at h
      cases h
      exact ⟨c, a, hc, ha, rfl, displays_setCache (f := (·.called none)) hc⟩

theorem startLoad_eq_error {e : ClientError} (h : w.startLoad n = .error e) :
    ∀ c, w.caches[n]? = some c → c.account = none := by
  unfold startLoad at h
  split at h
  · rename_i hc
    intro c hc'
    rw [hc] at hc'
    cases hc'
  · rename_i c hc
    intro c' hc'
    cases hc.symm.trans hc'
    split at h
    · rename_i hs
      exact SessionCache.start_eq_error hs
    · cases h

theorem startFetch_eq_ok {a : Account} {l : CacheLoad} (h : w.startFetch n a = .ok (l, v)) :
    ∃ c, w.caches[n]? = some c ∧ l = ⟨n, a, c.generation + 1⟩ ∧
      v.displays = w.displays.modifyCache n (·.called (some a)) := by
  obtain ⟨c', b, hc', hb, rfl, hv⟩ := startLoad_eq_ok h
  rw [List.getElem?_modify_eq] at hc'
  obtain ⟨c, hc, rfl⟩ := Option.map_eq_some_iff.mp hc'
  cases (SessionCache.account_select c a).symm.trans hb
  refine ⟨c, hc, by rw [SessionCache.generation_select], ?_⟩
  rw [hv, displays_modifyCache, Displays.modifyCache_modifyCache]
  congr 1
  funext c
  simp [SessionCache.called, SessionCache.turned]

end World
end PasskeySession
