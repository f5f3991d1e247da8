import Mathlib.Data.List.Induction
import PasskeySession.Proofs.Session.Sound

/-! # Logs

What is written down of a run between the client and what stands outside: which orchestrators are made, which
operations begin, what each asks and is told, in this order. From a log alone it can be read which pending
session an orchestrator holds: the last one that an answer opened, unless it was signed or discarded since. -/

namespace PasskeySession

/-- A line of a log. Questions and answers name the orchestrator, if there is one, and the operation. -/
inductive Entry
  | made (orch : Nat) (account : Account)
  | discarded (orch : Nat)
  | begun (task : Nat) (op : Operation)
  | asked (orch : Option Nat) (task : Nat) (q : Question)
  | answered (orch : Option Nat) (task : Nat) (q : Question) (a : q.Answer)
  /-- The operation is cancelled or dropped. -/
  | abandoned (task : Nat)

/-- What is written down when an operation has come so far. -/
def Progress.asks (k : Nat) : Progress → List Entry
  | waiting point => [.asked point.orchestrator? k point.question]
  | finished _ => []

namespace Entry

/-- What is written down of an event and its report. -/
def of (task : Nat → Option Waiting) : Event → Report → List Entry
  | .newOrchestrator a _, .created n => [made n a]
  | .discard i, .done => [discarded i]
  | .start op, .progress k p => begun k op :: p.asks k
  | .answer k reply, .progress _ p =>
    match task k with
    | none => []
    | some point => answered point.orchestrator? k point.question (reply point.question) :: p.asks k
  | .cancel k, .progress .. => [abandoned k]
  | .drop k, .done => [abandoned k]
  | _, _ => []

/-- The pending session that an entry opens on an orchestrator. -/
def opened? (i : Nat) : Entry → Option PendingSession
  | answered j _ (.request (.configure _ _)) (.ok r) =>
    if j = some i then some ⟨r.hash, r.passkeyId, .sessionCreation⟩ else none
  | answered j _ (.request (.createOperation _ _ id)) (.ok r) =>
    if j = some i then some ⟨r.hashToSign, id, .userOperation r.userOperation⟩ else none
  | _ => none

/-- Whether an entry ends the pending session of an orchestrator: it is signed, or discarded. -/
def closes (i : Nat) : Entry → Bool
  | answered j _ (.request (.signCreation ..)) (.ok _) => j = some i
  | answered j _ (.request (.executeOperation ..)) (.ok _) => j = some i
  | discarded j => j = i
  | _ => false

/-- The pending session of an orchestrator after an entry. -/
def after (i : Nat) (p : Option PendingSession) (x : Entry) : Option PendingSession :=
  (x.opened? i).or (if x.closes i then none else p)

/-- The operation that an entry is of. -/
def task? : Entry → Option Nat
  | begun k _ => some k
  | asked _ k _ => some k
  | answered _ k _ _ => some k
  | abandoned k => some k
  | _ => none

end Entry

/-- The log of a run, and the world that the run has come to. -/
inductive World.Recorded : List Entry → World → Prop
  | initial : Recorded [] initial
  | step {log : List Entry} {w : World} (e : Event) (h : Recorded log w) :
    Recorded (log ++ Entry.of w.task? e (w.step e).2) (w.step e).1

theorem World.Recorded.reachable {log : List Entry} {w : World} (h : w.Recorded log) : w.Reachable := by
  induction h with
  | initial => exact .initial
  | step e _ ih => exact .step e ih

namespace Log
variable {log more : List Entry} {x : Entry} {i j k : Nat} {p q : PendingSession}

/-- An orchestrator's pending session, read from a log. -/
def pending? (i : Nat) (log : List Entry) : Option PendingSession := log.foldl (Entry.after i) none

/-- The last pending session that was opened on an orchestrator is this one, and since then it was neither
    signed nor discarded. -/
def Stands (i : Nat) (p : PendingSession) (log : List Entry) : Prop :=
  ∃ before x since, log = before ++ x :: since ∧ x.opened? i = some p ∧
    ∀ y ∈ since, y.opened? i = none ∧ y.closes i = false

/-- The entries of an operation. -/
def tale (k : Nat) (log : List Entry) : List Entry := log.filter (·.task? = some k)

theorem pending?_append : pending? i (log ++ more) = more.foldl (Entry.after i) (pending? i log) :=
  List.foldl_append

theorem tale_append : tale k (log ++ more) = tale k log ++ tale k more := List.filter_append ..

theorem mem_tale : x ∈ tale k log ↔ x ∈ log ∧ x.task? = some k := by
  rw [tale, List.mem_filter, decide_eq_true_iff]

theorem tale_append_of_other (h : ∀ x ∈ more, x.task? ≠ some k) : tale k (log ++ more) = tale k log := by
  have hnil : tale k more = [] := List.filter_eq_nil_iff.mpr fun x hx => by simpa using h x hx
  rw [tale_append, hnil, List.append_nil]

theorem tale_append_of_own (h : ∀ x ∈ more, x.task? = some k) : tale k (log ++ more) = tale k log ++ more := by
  have hall : tale k more = more := List.filter_eq_self.mpr fun x hx => decide_eq_true (h x hx)
  rw [tale_append, hall]

/-! ### Pending sessions -/

theorem stands_nil : ¬ Stands i p [] := by
  rintro ⟨before, x, since, h, -⟩
  cases before <;> cases h

theorem stands_concat : Stands i p (log ++ [x]) ↔
    x.opened? i = some p ∨ (x.opened? i = none ∧ x.closes i = false ∧ Stands i p log) := by
  constructor
  · rintro ⟨before, y, since, h, hy, hs⟩
    rcases List.eq_nil_or_concat' since with rfl | ⟨since, z, rfl⟩
    · obtain ⟨-, rfl⟩ := List.append_singleton_inj.mp h
      exact Or.inl hy
    · rw [← List.cons_append, ← List.append_assoc] at h
      obtain ⟨rfl, rfl⟩ := List.append_singleton_inj.mp h
      obtain ⟨hz, hz'⟩ := hs _ (List.mem_append_right _ (List.mem_singleton_self _))
      exact Or.inr ⟨hz, hz', before, y, since, rfl, hy, fun u hu => hs u (List.mem_append_left _ hu)⟩
  · rintro (hx | ⟨hx, hx', before, y, since, rfl, hy, hs⟩)
    · exact ⟨log, x, [], rfl, hx, fun _ h => nomatch h⟩
    · refine ⟨before, y, since ++ [x], by simp, hy, fun u hu => ?_⟩
      rcases List.mem_append.mp hu with hu | hu
      · exact hs u hu
      · rw [List.mem_singleton.mp hu]
        exact ⟨hx, hx'⟩

/-- What is read from a log is the pending session that stands. -/
theorem pending?_eq_some_iff : pending? i log = some p ↔ Stands i p log := by
  induction log using List.reverseRecOn with
  | nil => exact iff_of_false (fun h => nomatch h) stands_nil
  | append_singleton log x ih =>
    rw [pending?_append, stands_concat, List.foldl_cons, List.foldl_nil, Entry.after, ← ih]
    cases x.opened? i with
    | some q => simp
    | none => cases x.closes i <;> simp

theorem Stands.unique (hp : Stands i p log) (hq : Stands i q log) : p = q :=
  Option.some.inj ((pending?_eq_some_iff.mpr hp).symm.trans (pending?_eq_some_iff.mpr hq))

theorem Stands.append (h : Stands i p log) (hm : ∀ y ∈ more, y.opened? i = none ∧ y.closes i = false) :
    Stands i p (log ++ more) := by
  obtain ⟨before, x, since, rfl, hx, hs⟩ := h
  refine ⟨before, x, since ++ more, by simp, hx, fun y hy => ?_⟩
  rcases List.mem_append.mp hy with hy | hy
  · exact hs y hy
  · exact hm y hy

/-- After an end, a pending session stands only if it was opened since. -/
theorem Stands.opened_since (hc : x.closes i = true) (ho : x.opened? i = none)
    (h : Stands i p (log ++ x :: more)) : ∃ y ∈ more, y.opened? i = some p := by
  induction more using List.reverseRecOn with
  | nil =>
    rcases stands_concat.mp h with hx | ⟨-, hx, -⟩
    · rw [ho] at hx
      cases hx
    · rw [hc] at hx
      cases hx
  | append_singleton more z ih =>
    rw [← List.cons_append, ← List.append_assoc] at h
    rcases stands_concat.mp h with hz | ⟨-, -, h⟩
    · exact ⟨z, by simp, hz⟩
    · obtain ⟨y, hy, hy'⟩ := ih h
      exact ⟨y, List.mem_append_left _ hy, hy'⟩

/-! ### Statements about each entry and the log before it -/

/-- Something holds of each entry and the log before it. -/
def Throughout (P : List Entry → Entry → Prop) (log : List Entry) : Prop :=
  ∀ before x since, log = before ++ x :: since → P before x

section
variable {P : List Entry → Entry → Prop}

theorem throughout_nil : Throughout P [] := by
  intro before x since h
  cases before <;> cases h

theorem Throughout.concat (h : Throughout P log) (hx : P log x) : Throughout P (log ++ [x]) := by
  intro before y since hs
  rcases List.eq_nil_or_concat' since with rfl | ⟨since, z, rfl⟩
  · obtain ⟨rfl, rfl⟩ := List.append_singleton_inj.mp hs
    exact hx
  · rw [← List.cons_append, ← List.append_assoc] at hs
    obtain ⟨rfl, -⟩ := List.append_singleton_inj.mp hs
    exact h before y since rfl

end
end Log
end PasskeySession
