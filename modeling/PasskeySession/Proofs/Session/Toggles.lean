import PasskeySession.Proofs.Session.Turn

/-! # The toggles of one gate

What is noted of the toggles of one gate: how the gate is made, which toggle begins, what it is told and how it
goes on. A turn is a turn of one gate in one of a few ways, and each toggle takes one of a few courses. -/

namespace PasskeySession
open Function (update update_self update_of_ne)

/-- A note on the toggles of one gate. A toggle has the number of its operation. -/
inductive ToggleNote
  | made (active : Bool)
  | begun (toggle : Nat) (active : Bool) (p : Progress)
  | answered (toggle : Nat) (q : Question) (a : q.Answer) (p : Progress)
  | dropped (toggle : Nat)

/-- An operation, if it toggles a gate. -/
def Waiting.on? (i : Nat) (point : Waiting) : Option Waiting := if point.gate? = some i then some point else none

/-- The unfinished toggle of a gate that has a number. -/
abbrev Displays.toggles (i : Nat) (d : Displays) : Nat → Option Waiting := d.seen (·.on? i)

namespace ToggleNote

/-- What is noted of an event and its report. -/
def of (i : Nat) (task : Nat → Option Waiting) : Event → Report → Option ToggleNote
  | .newGate _ _ active _, .created j => if j = i then some (made active) else none
  | .start (.toggle j active), .progress k p => if j = i then some (begun k active p) else none
  | .answer k reply, .progress _ p =>
    ((task k).bind (·.on? i)).map fun point => answered k point.question (reply point.question) p
  | .drop k, .done => ((task k).bind (·.on? i)).map fun _ => dropped k
  | _, _ => none

def toggle? : ToggleNote → Option Nat
  | made _ => none
  | begun k .. => some k
  | answered k .. => some k
  | dropped k => some k

/-- The state of the endpoint that a note tells of: the one a gate is made with, or that the backend confirms. -/
def state? : ToggleNote → Option Bool
  | made active => some active
  | answered _ (.request (.activateEndpoint _ _ active)) (.ok ()) _ => some active
  | _ => none

end ToggleNote

namespace Toggles
variable {i k j : Nat} {x : ToggleNote} {notes : List ToggleNote}

/-- The state of the endpoint that was confirmed last. -/
def active? (notes : List ToggleNote) : Option Bool := notes.findSome? ToggleNote.state?

/-- The notes on one toggle. -/
def course (k : Nat) (notes : List ToggleNote) : List ToggleNote := notes.filter (·.toggle? = some k)

theorem course_cons_of_own (h : x.toggle? = some k) : course k (x :: notes) = x :: course k notes :=
  List.filter_cons_of_pos (decide_eq_true h)

theorem course_cons_of_other (h : x.toggle? ≠ some k) : course k (x :: notes) = course k notes :=
  List.filter_cons_of_neg (by simpa using h)

/-- What can be noted of a toggle of a gate, the newest first, and where it stands. A toggle is refused, or asks the
    backend for the endpoint; it is told that this has failed and ends so, or it is told of success and ends so, at
    once or after one refresh that may end as it likes; and it may be dropped while it waits. -/
inductive Course (k : Nat) : List ToggleNote → Option Waiting → Prop
  | absent : Course k [] none
  | refused {active : Bool} : Course k [.begun k active (.failed .toggleInFlight)] none
  | asked {i : Nat} {a : Account} {url : String} {active : Bool} :
    Course k [.begun k active (.waiting (.toggle i a url active))] (some (.toggle i a url active))
  | failed {i : Nat} {a : Account} {url : String} {active : Bool} {e : ClientError} {older : List ToggleNote}
    (h : Course k older (some (.toggle i a url active))) :
    Course k (.answered k (.request (.activateEndpoint a url active)) (.error e) (.failed e) :: older) none
  | confirmed {i : Nat} {a : Account} {url : String} {active : Bool} {older : List ToggleNote}
    (h : Course k older (some (.toggle i a url active))) :
    Course k (.answered k (.request (.activateEndpoint a url active)) (.ok ()) (.done (.toggled active)) :: older) none
  | refreshed {i : Nat} {a : Account} {url : String} {active : Bool} {l : CacheLoad} {older : List ToggleNote}
    (h : Course k older (some (.toggle i a url active))) :
    Course k (.answered k (.request (.activateEndpoint a url active)) (.ok ()) (.waiting (.toggled i active l)) :: older)
      (some (.toggled i active l))
  | told {i : Nat} {active : Bool} {l : CacheLoad} {r : Except ClientError (List SessionRecord)}
    {older : List ToggleNote} (h : Course k older (some (.toggled i active l))) :
    Course k (.answered k (.request (.sessionDetails l.load.account)) r (.done (.toggled active)) :: older) none
  | dropped {point : Waiting} {older : List ToggleNote} (h : Course k older (some point)) :
    Course k (.dropped k :: older) none

end Toggles

/-! ### Turns of one gate -/

/-- What a turn can be to one gate and its toggles, with the note that is taken of it. -/
inductive GateTurn (i : Nat) (d : Displays) : Option ToggleNote → Displays → Prop
  | aside {d' : Displays} (hg : d'.gate i = d.gate i) (ht : d'.toggles i = d.toggles i) : GateTurn i d none d'
  | made {d' : Displays} {a : Account} {url : String} {active : Bool} {n : Option Nat} (hn : d.gate i = none)
    (hg : d'.gate i = some (.initial a url active n)) (ht : d'.toggles i = d.toggles i) :
    GateTurn i d (some (.made active)) d'
  | refused {d' : Displays} {active : Bool} (hb : d.begun < d'.begun) (hg : d'.gate i = d.gate i)
    (ht : d'.toggles i = d.toggles i) :
    GateTurn i d (some (.begun d.begun active (.failed .toggleInFlight))) d'
  | asked {d' : Displays} {a : Account} {url : String} {active : Bool} {g : AccessGate} (hb : d.begun < d'.begun)
    (hg : d.gate i = some g) (hl : g.loading = false) (hg' : d'.gate i = some g.busy)
    (ht : d'.toggles i = update (d.toggles i) d.begun (some (.toggle i a url active))) :
    GateTurn i d (some (.begun d.begun active (.waiting (.toggle i a url active)))) d'
  | refreshed {d' : Displays} {k : Nat} {a : Account} {url : String} {active : Bool} {l : CacheLoad}
    (hk : d.toggles i k = some (.toggle i a url active)) (hg : d'.gate i = (d.gate i).map (·.toggled active))
    (ht : d'.toggles i = update (d.toggles i) k (some (.toggled i active l))) :
    GateTurn i d (some (.answered k (.request (.activateEndpoint a url active)) (.ok ())
      (.waiting (.toggled i active l)))) d'
  | confirmed {d' : Displays} {k : Nat} {a : Account} {url : String} {active : Bool}
    (hk : d.toggles i k = some (.toggle i a url active))
    (hg : d'.gate i = (d.gate i).map fun g => (g.toggled active).finish)
    (ht : d'.toggles i = update (d.toggles i) k none) :
    GateTurn i d (some (.answered k (.request (.activateEndpoint a url active)) (.ok ())
      (.done (.toggled active)))) d'
  | failed {d' : Displays} {k : Nat} {a : Account} {url : String} {active : Bool} {e : ClientError}
    (hk : d.toggles i k = some (.toggle i a url active)) (hg : d'.gate i = (d.gate i).map .finish)
    (ht : d'.toggles i = update (d.toggles i) k none) :
    GateTurn i d (some (.answered k (.request (.activateEndpoint a url active)) (.error e) (.failed e))) d'
  | told {d' : Displays} {k : Nat} {active : Bool} {l : CacheLoad} {r : Except ClientError (List SessionRecord)}
    (hk : d.toggles i k = some (.toggled i active l)) (hg : d'.gate i = (d.gate i).map .finish)
    (ht : d'.toggles i = update (d.toggles i) k none) :
    GateTurn i d (some (.answered k (.request (.sessionDetails l.load.account)) r (.done (.toggled active)))) d'
  | dropped {d' : Displays} {k : Nat} {point : Waiting} (hk : d.toggles i k = some point)
    (hg : d'.gate i = (d.gate i).map .finish) (ht : d'.toggles i = update (d.toggles i) k none) :
    GateTurn i d (some (.dropped k)) d'

namespace Waiting
variable {i : Nat} {point : Waiting}

theorem on?_of_gate? (h : point.gate? = some i) : point.on? i = some point := if_pos h

theorem on?_of_ne (h : point.gate? ≠ some i) : point.on? i = none := if_neg h

theorem on?_elsewhere {j : Nat} (h : point.gate? = some j) (hj : j ≠ i) : point.on? i = none :=
  on?_of_ne fun hi => hj (Option.some.inj (h.symm.trans hi))

theorem on?_of_none (h : point.gate? = none) : point.on? i = none := on?_of_ne (by rw [h]; rintro ⟨⟩)

end Waiting

namespace Displays
variable {d : Displays} {i j : Nat} {f : AccessGate → AccessGate}

theorem gate_modifyGate_self : (d.modifyGate i f).gate i = (d.gate i).map f := update_self ..

theorem gate_modifyGate_of_ne (h : i ≠ j) : (d.modifyGate j f).gate i = d.gate i := update_of_ne h ..

theorem gate_finish_of_ne {o : Option Nat} (h : o ≠ some i) : (d.finish o).gate i = d.gate i := by
  cases o with
  | none => rfl
  | some j => exact gate_modifyGate_of_ne fun hij => h (congrArg some hij.symm)

end Displays

namespace ToggleNote
variable {task : Nat → Option Waiting} {i k : Nat} {reply : Reply} {point : Waiting} {p : Progress}

theorem of_answer (hk : task k = some point) : of i task (.answer k reply) (.progress k p) =
    (point.on? i).map fun point => .answered k point.question (reply point.question) p := by
  rw [of, hk]
  rfl

theorem of_drop (hk : task k = some point) : of i task (.drop k) .done = (point.on? i).map fun _ => .dropped k := by
  rw [of, hk]
  rfl

end ToggleNote

theorem Aside.toggleNote {d d' : Displays} {e : Event} {r : Report} (h : Aside d e r d') (i : Nat) :
    ToggleNote.of i d.task e r = none := by
  have own : ∀ k, e.advances? = some k → (d.task k).bind (·.on? i) = none := fun k he => by
    cases hk : d.task k with
    | none => rfl
    | some point => exact Waiting.on?_of_none (h.own k point he hk).2
  unfold ToggleNote.of
  split
  · exact (h.made _ _ _ _ rfl).elim
  · exact (h.toggle _ _ _ _ rfl rfl).elim
  · rw [own _ rfl]
    rfl
  · rw [own _ rfl]
    rfl
  · rfl

/-- An answer to an operation that does not toggle the gate, now or next. -/
theorem gateTurn_elsewhere {d d' : Displays} {i k : Nat} {point : Waiting} {reply : Reply} {p : Progress}
    (hk : d.task k = some point) (hp : point.on? i = none) (hq : p.entry.bind (·.on? i) = none)
    (hg : d'.gate i = d.gate i) (ht : d'.task = update d.task k p.entry) :
    GateTurn i d (ToggleNote.of i d.task (.answer k reply) (.progress k p)) d' := by
  rw [ToggleNote.of_answer hk, hp]
  refine .aside hg ((Displays.seen_congr (d := d.setTask k p.entry) ht).trans ?_)
  exact Displays.seen_setTask_of_none hk hp hq

/-- Each turn is a turn of each gate. -/
theorem Turn.gateTurn {d d' : Displays} {e : Event} {r : Report} (h : Turn d e r d')
    (fresh : d.task d.begun = none) (i : Nat) : GateTurn i d (ToggleNote.of i d.task e r) d' := by
  cases h with
  | aside h =>
    rw [h.toggleNote i]
    exact .aside (congrFun h.gate i) (h.seen fun _ hp => Waiting.on?_of_none hp.2)
  | cacheMade => exact .aside rfl rfl
  | gateMade hn =>
    by_cases hi : d.gates = i
    · subst hi
      rw [ToggleNote.of, if_pos rfl]
      exact .made hn (update_self ..) rfl
    · rw [ToggleNote.of, if_neg hi]
      exact .aside (update_of_ne (Ne.symm hi) ..) rfl
  | @called op n fetched s a hop hs ha =>
    have hnote : ToggleNote.of i d.task (.start op)
        (.progress d.begun (.waiting (.load ⟨n, a, s.generation + 1⟩))) = none := by
      cases op <;> first | rfl | cases hop
    rw [hnote]
    exact .aside rfl (Displays.seen_begin_of_none fresh rfl)
  | approved hk hs => exact gateTurn_elsewhere hk rfl rfl rfl rfl
  | @answered k reply point l r hk hl hr =>
    cases point with
    | signed | load => exact gateTurn_elsewhere hk rfl rfl rfl rfl
    | toggled j active m =>
      cases hl
      obtain rfl := hr j active rfl
      by_cases hj : j = i
      · subst hj
        have hon : (Waiting.toggled j active l).on? j = some (.toggled j active l) := if_pos rfl
        rw [ToggleNote.of_answer hk, hon]
        exact .told ((Displays.seen_of_task hk).trans hon) Displays.gate_modifyGate_self
          Displays.seen_setTask
      · exact gateTurn_elsewhere hk (Waiting.on?_elsewhere rfl hj) rfl
          (Displays.gate_modifyGate_of_ne (Ne.symm hj)) rfl
    | create | use | signHash | registerChallenge | registerPrompt | registerVerify | loginChallenge | loginPrompt
    | loginVerify | configure | prepare | approve | sign | toggle => cases hl
  | @dropped k point hk hp =>
    rw [ToggleNote.of_drop hk]
    by_cases hi : point.gate? = some i
    · have hon := Waiting.on?_of_gate? hi
      rw [hon]
      refine .dropped ((Displays.seen_of_task hk).trans hon) ?_ ?_
      · rw [hi]
        refine Displays.gate_modifyGate_self.trans ?_
        rw [Displays.gate_forget]
        rfl
      · exact (Displays.seen_finish ..).trans ((Displays.seen_forget ..).trans Displays.seen_setTask)
    · have hon := Waiting.on?_of_ne hi
      rw [hon]
      refine .aside ?_ ?_
      · rw [Displays.gate_finish_of_ne hi, Displays.gate_forget]
        rfl
      · exact (Displays.seen_finish ..).trans ((Displays.seen_forget ..).trans
          (Displays.seen_setTask_of_none hk hon rfl))
  | @refused j active g hg hl =>
    by_cases hj : j = i
    · subst hj
      rw [ToggleNote.of, if_pos rfl]
      exact .refused (Nat.lt_succ_self _) rfl (Displays.seen_begin_of_none fresh rfl)
    · rw [ToggleNote.of, if_neg hj]
      exact .aside rfl (Displays.seen_begin_of_none fresh rfl)
  | @asked j active g hg hl =>
    by_cases hj : j = i
    · subst hj
      rw [ToggleNote.of, if_pos rfl]
      refine .asked (Nat.lt_succ_self _) hg hl ?_ ?_
      · exact Displays.gate_modifyGate_self.trans (congrArg _ hg)
      · exact Displays.seen_begin.trans (congrArg _ (Waiting.on?_of_gate? rfl))
    · have hon : (Waiting.toggle j g.account g.url active).on? i = none := Waiting.on?_elsewhere rfl hj
      rw [ToggleNote.of, if_neg hj]
      exact .aside (Displays.gate_modifyGate_of_ne (Ne.symm hj)) (Displays.seen_begin_of_none fresh hon)
  | @failed k j reply a url active e hk h =>
    by_cases hj : j = i
    · subst hj
      have hon : (Waiting.toggle j a url active).on? j = some (.toggle j a url active) := if_pos rfl
      rw [ToggleNote.of_answer hk, hon, Option.map_some, h]
      exact .failed ((Displays.seen_of_task hk).trans hon) Displays.gate_modifyGate_self Displays.seen_setTask
    · exact gateTurn_elsewhere hk (Waiting.on?_elsewhere rfl hj) rfl
        (Displays.gate_modifyGate_of_ne (Ne.symm hj)) rfl
  | @confirmed k j reply a url active hk h hn =>
    by_cases hj : j = i
    · subst hj
      have hon : (Waiting.toggle j a url active).on? j = some (.toggle j a url active) := if_pos rfl
      rw [ToggleNote.of_answer hk, hon, Option.map_some, h]
      exact .confirmed ((Displays.seen_of_task hk).trans hon) Displays.gate_modifyGate_self Displays.seen_setTask
    · exact gateTurn_elsewhere hk (Waiting.on?_elsewhere rfl hj) rfl
        (Displays.gate_modifyGate_of_ne (Ne.symm hj)) rfl
  | @refreshed k j n reply a b url active g s hk h hg hn hs hb =>
    by_cases hj : j = i
    · subst hj
      have hon : (Waiting.toggle j a url active).on? j = some (.toggle j a url active) := if_pos rfl
      rw [ToggleNote.of_answer hk, hon, Option.map_some, h]
      refine .refreshed ((Displays.seen_of_task hk).trans hon) Displays.gate_modifyGate_self ?_
      exact Displays.seen_setTask.trans (congrArg _ (Waiting.on?_of_gate? rfl))
    · exact gateTurn_elsewhere hk (Waiting.on?_elsewhere rfl hj) (Waiting.on?_elsewhere rfl hj)
        (Displays.gate_modifyGate_of_ne (Ne.symm hj)) rfl

end PasskeySession
