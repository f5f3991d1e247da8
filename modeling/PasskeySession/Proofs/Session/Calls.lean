import PasskeySession.Proofs.Session.Turn

/-! # The calls on one cache

What is noted of the calls for sessions that are made on one cache: which call starts, for which account, and
how it ends. From these notes alone it can be read what the cache has to show. The operations that make the
calls do not matter, and neither does the order in which the calls end. -/

namespace PasskeySession
open Function (update update_self update_of_ne)

/-- A note on the calls on one cache. A call has the number of the operation that makes it. -/
inductive CallNote
  /-- A call has started, on an account that the cache has been turned to or on the one that it had. -/
  | started (call : Nat) (fetched : Option Account)
  /-- A call has been told of the sessions of an account, or why there is nothing to tell. -/
  | answered (call : Nat) (account : Account) (result : Except ClientError (List SessionRecord))
  /-- A call has been dropped before its answer. -/
  | dropped (call : Nat)

namespace Waiting

/-- The call on a cache that an operation waits for. -/
def callOn? (n : Nat) (point : Waiting) : Option Load :=
  match point.call? with
  | some l => if l.cache = n then some l.load else none
  | none => none

/-- The account that an operation turns a cache to when it goes on with a call. -/
def fetches? : Waiting → Option Account
  | sign _ _ a _ _ => some a
  | _ => none

theorem callOn?_eq_some_iff {n : Nat} {point : Waiting} {l : Load} :
    point.callOn? n = some l ↔ point.call? = some ⟨n, l⟩ := by
  unfold callOn?
  constructor
  · intro h
    split at h
    · rename_i m hm
      split at h
      · rename_i hn
        cases h
        rw [hm, ← hn]
      · cases h
    · cases h
  · intro h
    rw [h]
    exact if_pos rfl

theorem callOn?_of_call? {n : Nat} {point : Waiting} {l : CacheLoad} (h : point.call? = some l) :
    point.callOn? n = if l.cache = n then some l.load else none := by
  rw [callOn?, h]

theorem callOn?_of_none {n : Nat} {point : Waiting} (h : point.call? = none) : point.callOn? n = none := by
  rw [callOn?, h]

end Waiting

/-- The call on a cache that an operation goes on to wait for. -/
def Progress.callOn? (n : Nat) (p : Progress) : Option Load := p.entry.bind (·.callOn? n)

theorem Progress.callOn?_waiting {n : Nat} {point : Waiting} :
    (Progress.waiting point).callOn? n = point.callOn? n := rfl

/-- The call on a cache that the operation of a number waits for. -/
abbrev Displays.calls (n : Nat) (d : Displays) : Nat → Option Load := d.seen (·.callOn? n)

namespace CallNote

/-- What is noted of an event and its report. -/
def of (n : Nat) (task : Nat → Option Waiting) : Event → Report → Option CallNote
  | .start op, .progress k p => (p.callOn? n).map fun _ => started k (op.call?.bind (·.2))
  | .answer k reply, .progress _ p =>
    match (task k).bind (·.callOn? n) with
    | some l => some (answered k l.account (reply.sessions l.account))
    | none => (p.callOn? n).map fun _ => started k ((task k).bind (·.fetches?))
  | .drop k, .done => ((task k).bind (·.callOn? n)).map fun _ => dropped k
  | _, _ => none

def call : CallNote → Nat
  | started k _ => k
  | answered k _ _ => k
  | dropped k => k

def starts? : CallNote → Option Nat
  | started k _ => some k
  | _ => none

def ends? : CallNote → Option Nat
  | answered k _ _ => some k
  | dropped k => some k
  | started .. => none

def fetched? : CallNote → Option Account
  | started _ fetched => fetched
  | _ => none

def records? : CallNote → Option (List SessionRecord)
  | answered _ _ (.ok records) => some records
  | _ => none

def error? : CallNote → Option ClientError
  | answered _ _ (.error e) => some e
  | _ => none

end CallNote

namespace CallNote
variable {task : Nat → Option Waiting} {n k : Nat} {op : Operation} {reply : Reply} {point : Waiting} {p : Progress}

theorem of_start : of n task (.start op) (.progress k p) =
    (p.callOn? n).map fun _ => .started k (op.call?.bind (·.2)) := rfl

theorem of_answer_of_call {l : Load} (hk : task k = some point) (hl : point.callOn? n = some l) :
    of n task (.answer k reply) (.progress k p) = some (.answered k l.account (reply.sessions l.account)) := by
  simp [of, hk, hl]

theorem of_answer_of_none (hk : task k = some point) (hl : point.callOn? n = none) :
    of n task (.answer k reply) (.progress k p) = (p.callOn? n).map fun _ => .started k point.fetches? := by
  simp [of, hk, hl]

theorem of_drop (hk : task k = some point) :
    of n task (.drop k) .done = (point.callOn? n).map fun _ => .dropped k := by
  simp [of, hk]

end CallNote

theorem Aside.callNote {d d' : Displays} {e : Event} {r : Report} (h : Aside d e r d') (n : Nat) :
    CallNote.of n d.task e r = none := by
  have next : ∀ k p, r = .progress k p → p.callOn? n = none := fun k p hr => by
    unfold Progress.callOn?
    cases hp : p.entry with
    | none => rfl
    | some point => exact Waiting.callOn?_of_none (h.next k p point hr hp).1
  have own : ∀ k, e.advances? = some k → (d.task k).bind (·.callOn? n) = none := fun k he => by
    cases hk : d.task k with
    | none => rfl
    | some point => exact Waiting.callOn?_of_none (h.own k point he hk).1
  unfold CallNote.of
  split
  · rw [next _ _ rfl]
    rfl
  · rw [own _ rfl, next _ _ rfl]
    rfl
  · rw [own _ rfl]
    rfl
  · rfl

/-! ### Reading the notes

The notes are read from the newest on. -/

namespace Calls
variable {notes : List CallNote} {k : Nat} {x : CallNote}

/-- The calls that have started. -/
def starts (notes : List CallNote) : List Nat := notes.filterMap CallNote.starts?

/-- The call that started last. -/
def latest? (notes : List CallNote) : Option Nat := (starts notes).head?

/-- The account of the last fetch. -/
def account? (notes : List CallNote) : Option Account := notes.findSome? CallNote.fetched?

/-- A call has been answered or dropped. -/
def Over (k : Nat) (notes : List CallNote) : Prop := ∃ x ∈ notes, x.ends? = some k

/-- Whether a note is of the start of a call on another account than the last one before. -/
def switches : CallNote → List CallNote → Bool
  | .started _ (some a), older => account? older ≠ some a
  | _, _ => false

/-- The notes since the account was last changed. -/
def sinceSwitch : List CallNote → List CallNote
  | [] => []
  | x :: older => if switches x older then [x] else x :: sinceSwitch older

/-- The answers to calls that were the latest when their answer came. -/
def heeded : List CallNote → List CallNote
  | [] => []
  | .answered k a r :: older => if latest? older = some k then .answered k a r :: heeded older else heeded older
  | _ :: older => heeded older

/-- The answers that count: those that were heeded, to calls that have started since the account was last changed. -/
def counted (notes : List CallNote) : List CallNote :=
  (heeded notes).filter fun x => x.call ∈ starts (sinceSwitch notes)

/-- The sessions of the last success that counts. -/
def records (notes : List CallNote) : List SessionRecord := ((counted notes).findSome? CallNote.records?).getD []

/-- The fault of the last answer that counts, if it is one. -/
def error? (notes : List CallNote) : Option ClientError := (counted notes).head?.bind CallNote.error?

end Calls

/-- A cache shows what the notes on its calls say. -/
structure SessionCache.Shows (s : SessionCache) (notes : List CallNote) : Prop where
  /-- The account is that of the last fetch. -/
  account : s.account = Calls.account? notes
  /-- The cache is loading while the latest call is neither answered nor dropped. -/
  loading : s.loading = true ↔ ∃ k, Calls.latest? notes = some k ∧ ¬ Calls.Over k notes
  /-- The sessions are those of the last success that counts. -/
  records : s.records = Calls.records notes
  /-- The fault is that of the last answer that counts. -/
  error : s.error = Calls.error? notes
  /-- The answers that count are on the account that is shown. -/
  own : ∀ k a r, .answered k a r ∈ Calls.counted notes → s.account = some a

namespace Calls
variable {notes : List CallNote} {k j : Nat} {a : Account} {fetched : Option Account} {x : CallNote}
  {r : Except ClientError (List SessionRecord)}

theorem over_cons : Over k (x :: notes) ↔ x.ends? = some k ∨ Over k notes := by
  simp [Over]

theorem over_of_mem_heeded (h : x ∈ heeded notes) : Over x.call notes := by
  induction notes with
  | nil => cases h
  | cons y older ih =>
    cases y with
    | started k fetched => exact over_cons.mpr (Or.inr (ih h))
    | dropped k => exact over_cons.mpr (Or.inr (ih h))
    | answered k a r =>
      rw [heeded] at h
      split at h
      · rcases List.mem_cons.mp h with rfl | h
        · exact over_cons.mpr (Or.inl rfl)
        · exact over_cons.mpr (Or.inr (ih h))
      · exact over_cons.mpr (Or.inr (ih h))

/-- The latest call has started since the account was last changed. -/
theorem mem_starts_of_latest? (h : latest? notes = some k) : k ∈ starts (sinceSwitch notes) := by
  induction notes with
  | nil => cases h
  | cons x older ih =>
    cases x with
    | started j fetched =>
      cases h
      rw [sinceSwitch]
      split <;> exact List.mem_cons_self
    | answered j a r => exact ih h
    | dropped j => exact ih h

/-! #### A call starts -/

theorem counted_started_of_switches (hk : ¬ Over k notes) (h : switches (.started k fetched) notes = true) :
    counted (.started k fetched :: notes) = [] := by
  refine List.filter_eq_nil_iff.mpr fun x hx => ?_
  have hne : x.call ≠ k := fun he => hk (he ▸ over_of_mem_heeded hx)
  simpa [sinceSwitch, h, starts, CallNote.starts?] using hne

theorem counted_started_of_stays (hk : ¬ Over k notes) (h : switches (.started k fetched) notes = false) :
    counted (.started k fetched :: notes) = counted notes := by
  refine List.filter_congr fun x hx => ?_
  have hne : x.call ≠ k := fun he => hk (he ▸ over_of_mem_heeded hx)
  simp [sinceSwitch, h, starts, CallNote.starts?, hne]

/-! #### A call ends -/

theorem counted_answered_of_latest (h : latest? notes = some k) :
    counted (.answered k a r :: notes) = .answered k a r :: counted notes := by
  have hk : k ∈ starts (sinceSwitch notes) := mem_starts_of_latest? h
  unfold counted
  rw [heeded, if_pos h]
  exact List.filter_cons_of_pos (decide_eq_true hk)

theorem counted_answered_of_superseded (h : latest? notes ≠ some k) :
    counted (.answered k a r :: notes) = counted notes := by
  unfold counted
  rw [heeded, if_neg h]
  rfl

theorem counted_dropped : counted (.dropped k :: notes) = counted notes := rfl

end Calls
end PasskeySession
