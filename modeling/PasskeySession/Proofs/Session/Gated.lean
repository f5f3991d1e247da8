import PasskeySession.Proofs.Session.Calls
import PasskeySession.Proofs.Session.Toggles

/-! # What a gate shows

After every run, whatever toggles of a gate begin and however they end, one toggle at most is under way, the gate
is loading while there is one, and it shows the state that the backend has confirmed last. -/

namespace PasskeySession
open Function (update update_self update_of_ne)

/-- The notes on the toggles of a gate, beside what is displayed. -/
structure Displays.Gated (i : Nat) (notes : List ToggleNote) (d : Displays) : Prop where
  manned : ∀ k, d.toggles i k ≠ none → d.gate i ≠ none
  alone : ∀ j k, d.toggles i j ≠ none → d.toggles i k ≠ none → j = k
  loading : ∀ g, d.gate i = some g → (g.loading = true ↔ ∃ k, d.toggles i k ≠ none)
  active : ∀ g, d.gate i = some g → Toggles.active? notes = some g.active
  courses : ∀ k, Toggles.Course k (Toggles.course k notes) (d.toggles i k)
  begun : ∀ k, d.begun ≤ k → Toggles.course k notes = []

namespace Displays.Gated
open Toggles
variable {i k : Nat} {notes : List ToggleNote} {d d' : Displays} {x : ToggleNote}

theorem initial : World.initial.displays.Gated i [] where
  manned _ h := absurd rfl h
  alone _ _ h := absurd rfl h
  loading _ h := by cases h
  active _ h := by cases h
  courses _ := .absent
  begun _ _ := rfl

theorem lt_begun (fresh : ∀ k, d.begun ≤ k → d.task k = none) (hk : d.toggles i k ≠ none) : k < d.begun := by
  by_contra hge
  exact hk (seen_of_none (fresh k (Nat.le_of_not_lt hge)))

theorem course_of_toggles (h : d.Gated i notes) {point : Waiting} (hk : d.toggles i k = some point) :
    Course k (course k notes) (some point) := hk ▸ h.courses k

/-- The notes on other toggles are as they were. -/
theorem begun_cons (h : d.Gated i notes) (hx : ∀ k, x.toggle? = some k → k < d'.begun) (hle : d.begun ≤ d'.begun) :
    ∀ k, d'.begun ≤ k → course k (x :: notes) = [] := fun k hk => by
  have hne : x.toggle? ≠ some k := fun he => Nat.not_lt_of_ge hk (hx k he)
  rw [course_cons_of_other hne]
  exact h.begun k (Nat.le_trans hle hk)

theorem courses_cons (h : d.Gated i notes) {t : Option Waiting} (ht : d'.toggles i = update (d.toggles i) k t)
    (hx : x.toggle? = some k) (hown : Course k (x :: course k notes) t) :
    ∀ j, Course j (course j (x :: notes)) (d'.toggles i j) := fun j => by
  by_cases hj : j = k
  · subst hj
    rw [course_cons_of_own hx, ht, update_self]
    exact hown
  · have hne : x.toggle? ≠ some j := fun he => hj (Option.some.inj (he.symm.trans hx))
    rw [course_cons_of_other hne, ht, update_of_ne hj]
    exact h.courses j

/-- A toggle ends, and with it the gate's loading. -/
theorem of_end (h : d.Gated i notes) (hlt : k < d'.begun) (hle : d.begun ≤ d'.begun) {f : AccessGate → AccessGate}
    (hk : d.toggles i k ≠ none) (hx : x.toggle? = some k) (hg : d'.gate i = (d.gate i).map f)
    (ht : d'.toggles i = update (d.toggles i) k none) (hf : ∀ g, (f g).loading = false)
    (hactive : ∀ g : AccessGate, active? notes = some g.active → active? (x :: notes) = some (f g).active)
    (hown : Course k (x :: course k notes) none) : d'.Gated i (x :: notes) := by
  have gone : ∀ j, d'.toggles i j = none := fun j => by
    by_cases hj : j = k
    · rw [ht, hj, update_self]
    · rw [ht, update_of_ne hj]
      by_contra hn
      exact hj (h.alone j k hn hk)
  exact
    { manned j hj := absurd (gone j) hj
      alone j _ hj := absurd (gone j) hj
      loading g hg' := by
        rw [hg] at hg'
        obtain ⟨g, -, rfl⟩ := Option.map_eq_some_iff.mp hg'
        exact iff_of_false (by rw [hf]; exact Bool.false_ne_true) fun ⟨j, hj⟩ => hj (gone j)
      active g hg' := by
        rw [hg] at hg'
        obtain ⟨g, hg₀, rfl⟩ := Option.map_eq_some_iff.mp hg'
        exact hactive g (h.active g hg₀)
      courses := h.courses_cons ht hx hown
      begun := by
        refine h.begun_cons (fun j hj => ?_) hle
        cases hx.symm.trans hj
        exact hlt }

/-- Each turn keeps the notes and what is displayed together. -/
theorem kept {e : Event} {r : Report} (h : d.Gated i notes) (fresh : ∀ k, d.begun ≤ k → d.task k = none)
    (hturn : Turn d e r d') : d'.Gated i ((ToggleNote.of i d.task e r).toList ++ notes) := by
  have hc := hturn.gateTurn (fresh _ (Nat.le_refl _)) i
  have lt {k : Nat} {point : Waiting} (hk : d.toggles i k = some point) : k < d'.begun :=
    Nat.lt_of_lt_of_le (lt_begun (i := i) fresh (by rw [hk]; rintro ⟨⟩)) hturn.begun_le
  revert hc
  generalize ToggleNote.of i d.task e r = x
  intro hc
  cases hc with
  | aside hg ht =>
    exact
      { manned k hk := hg ▸ h.manned k (ht ▸ hk)
        alone j k hj hk := h.alone j k (ht ▸ hj) (ht ▸ hk)
        loading g hg' := ht ▸ h.loading g (hg ▸ hg')
        active g hg' := h.active g (hg ▸ hg')
        courses k := ht ▸ h.courses k
        begun k hk := h.begun k (Nat.le_trans hturn.begun_le hk) }
  | made hn hg ht =>
    have idle : ∀ k, ¬ d'.toggles i k ≠ none := fun k hk => h.manned k (ht ▸ hk) hn
    exact
      { manned k hk := absurd hk (idle k)
        alone j _ hj := absurd hj (idle j)
        loading g hg' := by
          cases hg.symm.trans hg'
          exact iff_of_false Bool.false_ne_true fun ⟨k, hk⟩ => idle k hk
        active g hg' := by
          cases hg.symm.trans hg'
          rfl
        courses k := ht ▸ h.courses k
        begun := h.begun_cons (by rintro _ ⟨⟩) hturn.begun_le }
  | refused hb hg ht =>
    have free : d.toggles i d.begun = none := Displays.seen_of_none (fresh _ (Nat.le_refl _))
    have ht' : d'.toggles i = update (d.toggles i) d.begun none :=
      ht.trans (Function.update_eq_self_iff.mpr free.symm).symm
    exact
      { manned k hk := hg ▸ h.manned k (ht ▸ hk)
        alone j k hj hk := h.alone j k (ht ▸ hj) (ht ▸ hk)
        loading g hg' := ht ▸ h.loading g (hg ▸ hg')
        active g hg' := h.active g (hg ▸ hg')
        courses := h.courses_cons ht' rfl (by rw [h.begun _ (Nat.le_refl _)]; exact .refused)
        begun := h.begun_cons (by rintro _ ⟨⟩; exact hb) hturn.begun_le }
  | @asked d' a url active g hb hg hl hg' ht =>
    have only : ∀ k, d'.toggles i k ≠ none → k = d.begun := fun k hk => by
      by_contra hne
      rw [ht, update_of_ne hne] at hk
      rw [(h.loading g hg).mpr ⟨k, hk⟩] at hl
      cases hl
    exact
      { manned _ _ := by rw [hg']; rintro ⟨⟩
        alone j k hj hk := (only j hj).trans (only k hk).symm
        loading b hb' := by
          cases hg'.symm.trans hb'
          exact iff_of_true rfl ⟨d.begun, by rw [ht, update_self]; rintro ⟨⟩⟩
        active b hb' := by
          cases hg'.symm.trans hb'
          exact h.active g hg
        courses := h.courses_cons ht rfl (by rw [h.begun _ (Nat.le_refl _)]; exact .asked)
        begun := h.begun_cons (by rintro _ ⟨⟩; exact hb) hturn.begun_le }
  | @refreshed d' k a url active l hk hg ht =>
    have same : ∀ j, d'.toggles i j ≠ none ↔ d.toggles i j ≠ none := fun j => by
      by_cases hj : j = k
      · rw [ht, hj, update_self, hk]
        exact iff_of_true (by rintro ⟨⟩) (by rintro ⟨⟩)
      · rw [ht, update_of_ne hj]
    exact
      { manned j hj := by
          obtain ⟨g, hg'⟩ := Option.ne_none_iff_exists'.mp (h.manned j ((same j).mp hj))
          rw [hg, hg']
          rintro ⟨⟩
        alone j m hj hm := h.alone j m ((same j).mp hj) ((same m).mp hm)
        loading b hb := by
          rw [hg] at hb
          obtain ⟨g, hg', rfl⟩ := Option.map_eq_some_iff.mp hb
          exact (h.loading g hg').trans (exists_congr fun j => (same j).symm)
        active b hb := by
          rw [hg] at hb
          obtain ⟨g, -, rfl⟩ := Option.map_eq_some_iff.mp hb
          rfl
        courses := h.courses_cons ht rfl (.refreshed (h.course_of_toggles hk))
        begun := by
          refine h.begun_cons ?_ hturn.begun_le
          rintro _ ⟨⟩
          exact lt hk }
  | confirmed hk hg ht =>
    exact h.of_end (lt hk) hturn.begun_le (by rw [hk]; rintro ⟨⟩) rfl hg ht (fun _ => rfl) (fun _ _ => rfl)
      (.confirmed (h.course_of_toggles hk))
  | failed hk hg ht =>
    exact h.of_end (lt hk) hturn.begun_le (by rw [hk]; rintro ⟨⟩) rfl hg ht (fun _ => rfl) (fun _ ha => ha)
      (.failed (h.course_of_toggles hk))
  | told hk hg ht =>
    exact h.of_end (lt hk) hturn.begun_le (by rw [hk]; rintro ⟨⟩) rfl hg ht (fun _ => rfl) (fun _ ha => ha)
      (.told (h.course_of_toggles hk))
  | dropped hk hg ht =>
    exact h.of_end (lt hk) hturn.begun_le (by rw [hk]; rintro ⟨⟩) rfl hg ht (fun _ => rfl) (fun _ ha => ha)
      (.dropped (h.course_of_toggles hk))

end Displays.Gated

namespace CallNote
variable {task : Nat → Option Waiting} {n k j : Nat} {reply : Reply} {point : Waiting} {fetched : Option Account}

/-- An operation that has finished starts no call. -/
theorem of_finished {r : Except ClientError Outcome} (hk : task k = some point) :
    of n task (.answer k reply) (.progress k (.finished r)) ≠ some (.started j fetched) := by
  cases hl : point.callOn? n with
  | none =>
    rw [of_answer_of_none hk hl]
    rintro ⟨⟩
  | some l =>
    rw [of_answer_of_call hk hl]
    rintro ⟨⟩

theorem of_dropped (hk : task k = some point) : of n task (.drop k) .done ≠ some (.started j fetched) := by
  rw [of_drop hk]
  cases point.callOn? n <;> rintro ⟨⟩

end CallNote

namespace World
variable {w : World} {i k n : Nat} {e : Event} {notes : List ToggleNote}

/-- An unfinished operation toggles a gate. -/
def Toggling (w : World) (i k : Nat) : Prop := ∃ point, w.task? k = some point ∧ point.gate? = some i

/-- An event is about a toggle of a gate: the toggle begins, or it is answered or dropped. -/
def Concerns (w : World) (i : Nat) (e : Event) : Prop :=
  (∃ active, e = .start (.toggle i active)) ∨ ∃ k, e.advances? = some k ∧ w.Toggling i k

/-- An event confirms a toggle of a gate that a cache with an account is attached to. -/
def Confirms (w : World) (i n : Nat) (e : Event) : Prop :=
  ∃ k reply a url active g s, e = .answer k reply ∧ w.task? k = some (.toggle i a url active) ∧
    reply (.request (.activateEndpoint a url active)) = .ok () ∧ w.gates[i]? = some g ∧ g.cache = some n ∧
    w.caches[n]? = some s ∧ s.account ≠ none

/-- What a run leaves in a gate, by the notes on its toggles. -/
structure Guards (w : World) (i : Nat) (notes : List ToggleNote) : Prop where
  /-- One toggle at most is under way. -/
  alone : ∀ j k, w.Toggling i j → w.Toggling i k → j = k
  /-- The gate is loading while a toggle is under way, up to the end of its refresh. -/
  loading : ∀ g, w.gates[i]? = some g → (g.loading = true ↔ ∃ k, w.Toggling i k)
  /-- The gate shows the state that was confirmed last, or that it was made with. -/
  active : ∀ g, w.gates[i]? = some g → Toggles.active? notes = some g.active
  /-- Each toggle has taken one of the courses that a toggle can take. -/
  courses : ∀ k, Toggles.Course k (Toggles.course k notes) ((w.task? k).bind (·.on? i))
  /-- While a toggle is under way another one is refused. It asks nothing, and only its number is used up. -/
  refused : ∀ k active, w.Toggling i k → w.step (.start (.toggle i active)) =
    ({ w with tasks := w.tasks ++ [none] }, .progress w.tasks.length (.failed .toggleInFlight))
  /-- While none is under way a toggle asks the backend for the endpoint. -/
  asked : ∀ g active, w.gates[i]? = some g → (∀ k, ¬ w.Toggling i k) → (w.step (.start (.toggle i active))).2 =
    .progress w.tasks.length (.waiting (.toggle i g.account g.url active))
  /-- Of all that is about a toggle, only its confirmation starts a call on a cache: one call, on the cache that is
      attached to the gate, if that has an account. -/
  refreshes : ∀ e n, w.Concerns i e →
    ((∃ k fetched, CallNote.of n w.task? e (w.step e).2 = some (.started k fetched)) ↔ w.Confirms i n e)
  /-- Whatever the refresh is told, the toggle has succeeded, and the gate is only no longer loading. -/
  told : ∀ k active l reply g, w.task? k = some (.toggled i active l) → w.gates[i]? = some g →
    (w.step (.answer k reply)).2 = .progress k (.done (.toggled active)) ∧
      (w.step (.answer k reply)).1.gates[i]? = some { g with loading := false }

theorem toggling_iff : w.Toggling i k ↔ w.displays.toggles i k ≠ none := by
  rw [Option.ne_none_iff_exists']
  constructor
  · rintro ⟨point, hk, hi⟩
    exact ⟨point, (Displays.seen_of_task hk).trans (Waiting.on?_of_gate? hi)⟩
  · rintro ⟨point, hp⟩
    obtain ⟨point', hk, hon⟩ := Option.bind_eq_some_iff.mp hp
    refine ⟨point', hk, ?_⟩
    by_contra hi
    rw [Waiting.on?_of_ne hi] at hon
    cases hon

theorem Noted.gated (h : w.Noted (ToggleNote.of i) notes) : w.displays.Gated i notes :=
  h.displays .initial fun _ _ _ _ _ fresh ht hd => hd.kept fresh ht

theorem step_toggle_of_loading {g : AccessGate} {active : Bool} (hg : w.gates[i]? = some g) (hl : g.loading = true) :
    w.step (.start (.toggle i active)) =
      ({ w with tasks := w.tasks ++ [none] }, .progress w.tasks.length (.failed .toggleInFlight)) := by
  have hstart : w.start (.toggle i active) = some (w, .failed .toggleInFlight) := by
    simp only [start, hg, Option.map_some, beginToggle, AccessGate.start_of_loading hl]
  simp only [step, begin, hstart]
  rfl

theorem step_toggle_of_not_loading {g : AccessGate} {active : Bool} (hg : w.gates[i]? = some g)
    (hl : g.loading = false) : (w.step (.start (.toggle i active))).2 =
      .progress w.tasks.length (.waiting (.toggle i g.account g.url active)) := by
  have hstart : w.start (.toggle i active) =
      some (w.modifyGate i fun _ => g.busy, .waiting (.toggle i g.account g.url active)) := by
    simp only [start, hg, Option.map_some, beginToggle, AccessGate.start_of_not_loading hl]
    rfl
  simp only [step, begin, hstart]
  rfl

theorem step_toggled {active : Bool} {l : CacheLoad} {reply : Reply} {g : AccessGate}
    (hk : w.task? k = some (.toggled i active l)) (hg : w.gates[i]? = some g) :
    (w.step (.answer k reply)).2 = .progress k (.done (.toggled active)) ∧
      (w.step (.answer k reply)).1.gates[i]? = some { g with loading := false } := by
  have hgates {r : Except ClientError (List SessionRecord)} : (w.answerLoad l r).2.gates = w.gates := by
    unfold answerLoad
    split <;> rfl
  simp only [step, answer, hk, resume]
  refine ⟨trivial, ?_⟩
  change ((w.answerLoad l _).2.gates.modify i AccessGate.finish)[i]? = _
  rw [hgates, List.getElem?_modify_eq, hg]
  rfl

/-- Only the confirmation of a toggle starts a call, and it does so on the attached cache, if that has an account. -/
theorem started_iff_confirms (h : w.Reachable) (hi : w.Concerns i e) :
    (∃ k fetched, CallNote.of n w.task? e (w.step e).2 = some (.started k fetched)) ↔ w.Confirms i n e := by
  have hturn := World.turn h.sound e
  revert hturn
  generalize (w.step e).1.displays = d'
  generalize (w.step e).2 = r
  intro hturn
  cases hturn with
  | aside h =>
    rcases hi with ⟨active, rfl⟩ | ⟨k, he, point, hk, hg⟩
    · have hnone : CallNote.of n w.task? _ r = none := h.callNote n
      refine iff_of_false (fun ⟨_, _, hx⟩ => ?_) fun ⟨_, _, _, _, _, _, _, hx, _⟩ => by cases hx
      rw [hnone] at hx
      cases hx
    · cases (h.own k point he hk).2.symm.trans hg
  | cacheMade | gateMade =>
    rcases hi with ⟨_, he⟩ | ⟨_, he, _⟩ <;> cases he
  | called hop =>
    rcases hi with ⟨_, ⟨⟩⟩ | ⟨_, ⟨⟩, _⟩
    cases hop
  | approved hk =>
    rcases hi with ⟨_, ⟨⟩⟩ | ⟨_, ⟨⟩, point, hk', hg⟩
    cases hk.symm.trans hk'
    cases hg
  | answered hk hl =>
    refine iff_of_false (fun ⟨_, _, hx⟩ => CallNote.of_finished hk hx) ?_
    rintro ⟨_, _, _, _, _, _, _, ⟨⟩, hk', -⟩
    cases hk.symm.trans hk'
    cases hl
  | dropped hk =>
    refine iff_of_false (fun ⟨_, _, hx⟩ => CallNote.of_dropped hk hx) ?_
    rintro ⟨_, _, _, _, _, _, _, ⟨⟩, _⟩
  | refused | asked =>
    refine iff_of_false ?_ ?_
    · rintro ⟨_, _, ⟨⟩⟩
    · rintro ⟨_, _, _, _, _, _, _, ⟨⟩, _⟩
  | failed hk h =>
    refine iff_of_false (fun ⟨_, _, hx⟩ => CallNote.of_finished hk hx) ?_
    rintro ⟨_, _, _, _, _, _, _, ⟨⟩, hk', h', -⟩
    cases hk.symm.trans hk'
    cases h.symm.trans h'
  | confirmed hk h hn =>
    refine iff_of_false (fun ⟨_, _, hx⟩ => CallNote.of_finished hk hx) ?_
    rintro ⟨_, _, _, _, _, _, _, ⟨⟩, hk', -, hg, hc, hs, ha⟩
    cases hk.symm.trans hk'
    exact ha (hn _ _ _ hg hc hs)
  | @refreshed k j m reply a b url active g s hk h hg hc hs hb =>
    obtain rfl : j = i := by
      rcases hi with ⟨_, ⟨⟩⟩ | ⟨_, ⟨⟩, point, hk', hg'⟩
      cases hk.symm.trans hk'
      exact Option.some.inj hg'
    have hnote : CallNote.of n w.task? (.answer k reply)
        (.progress k (.waiting (.toggled j active ⟨m, b, s.generation + 1⟩))) =
          ((Waiting.toggled j active ⟨m, b, s.generation + 1⟩).callOn? n).map fun _ => .started k none :=
      CallNote.of_answer_of_none hk rfl
    by_cases hm : m = n
    · subst hm
      have hcall : (Waiting.toggled j active ⟨m, b, s.generation + 1⟩).callOn? m = some ⟨b, s.generation + 1⟩ :=
        if_pos rfl
      rw [hcall] at hnote
      refine iff_of_true ⟨_, _, hnote⟩ ⟨k, reply, a, url, active, g, s, rfl, hk, h, hg, hc, hs, ?_⟩
      rw [hb]
      rintro ⟨⟩
    · have hcall : (Waiting.toggled j active ⟨m, b, s.generation + 1⟩).callOn? n = none := if_neg hm
      rw [hcall] at hnote
      refine iff_of_false (fun ⟨_, _, hx⟩ => by cases hnote.symm.trans hx) ?_
      rintro ⟨_, _, _, _, _, _, _, ⟨⟩, hk', -, hg', hc', -⟩
      cases hk.symm.trans hk'
      cases hg.symm.trans hg'
      exact hm (Option.some.inj (hc.symm.trans hc'))

/-- After every run a gate has at most one toggle under way, shows what was confirmed last, and is refreshed after
    each confirmation and at no other time. -/
theorem Noted.guards (h : w.Noted (ToggleNote.of i) notes) : w.Guards i notes := by
  have hd := h.gated
  refine ⟨fun j k hj hk => ?_, fun g hg => ?_, hd.active, hd.courses, fun k active hk => ?_, fun g active hg hidle => ?_,
    fun e n hi => ?_, fun k active l reply g hk hg => ?_⟩
  · exact hd.alone j k (toggling_iff.mp hj) (toggling_iff.mp hk)
  · exact (hd.loading g hg).trans (exists_congr fun _ => toggling_iff.symm)
  · obtain ⟨g, hg⟩ := Option.ne_none_iff_exists'.mp (hd.manned k (toggling_iff.mp hk))
    exact step_toggle_of_loading hg ((hd.loading g hg).mpr ⟨k, toggling_iff.mp hk⟩)
  · refine step_toggle_of_not_loading hg (Bool.eq_false_iff.mpr fun hl => ?_)
    obtain ⟨k, hk⟩ := (hd.loading g hg).mp hl
    exact hidle k (toggling_iff.mpr hk)
  · exact started_iff_confirms h.reachable hi
  · exact step_toggled hk hg

/-- A toggle that is confirmed while another one is refused, and whose refresh is dropped. -/
theorem guards_dropped :
    let a : Account := ⟨⟨List.replicate 20 0, rfl⟩, 1⟩
    let r : Reply := .telling []
    let w := ((((((initial.step .newCache).1.step (.start (.fetch 0 a))).1.step (.newGate a "url" false (some 0))).1.step
      (.start (.toggle 0 true))).1.step (.start (.toggle 0 false))).1.step (.answer 1 r)).1
    let v := (w.step (.drop 1)).1
    w.gates = [⟨a, "url", true, true, some 0⟩] ∧ v.gates = [⟨a, "url", true, false, some 0⟩] ∧
      ∃ notes, v.Guards 0 notes := by
  intro a r w v
  refine ⟨rfl, rfl, _, Noted.guards (.step (.drop 1) (.step (.answer 1 r) (.step (.start (.toggle 0 false))
    (.step (.start (.toggle 0 true)) (.step (.newGate a "url" false (some 0)) (.step (.start (.fetch 0 a))
      (.step .newCache .initial)))))))⟩

end World
end PasskeySession
