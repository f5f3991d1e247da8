import PasskeySession.Json.Decoder

/-! # What decoders have read

A decoder that succeeds has read every part of its value: each item of a list with the decoder of the items,
and each field of a record with the decoder of the field, unless it is missing and may be. -/

namespace PasskeySession.Json

/-- A value that a field may have: one that it reads, or what its absence means. -/
def Field.Gives {α : Type} (field : Field α) (a : α) : Prop :=
  (∃ room t, field.decode room t = .ok a) ∨ field.absent = some a

namespace Fields
variable {α β : Type}

/-- Values that the fields may have together. -/
def Gives : {τ : Type} → Fields τ → τ → Prop
  | _, .nil, _ => True
  | _, .cons field rest, v => field.Gives v.1 ∧ rest.Gives v.2

/-- Each field that has been met holds a value that it has read. -/
def Filled : {τ : Type} → (fs : Fields τ) → fs.Slots → Prop
  | _, .nil, _ => True
  | _, .cons field rest, slots =>
    (∀ a, slots.1 = some a → ∃ room t, field.decode room t = .ok a) ∧ rest.Filled slots.2

theorem filled_empty {τ : Type} (fs : Fields τ) : fs.Filled fs.empty := by
  induction fs with
  | nil => trivial
  | cons field rest ih => exact ⟨nofun, ih⟩

theorem Filled.put {τ : Type} {fs : Fields τ} {room : Nat} {name : String} {t : Tree} {slots after : fs.Slots}
    (h : fs.Filled slots) (hp : fs.put room name t slots = .ok (some after)) : fs.Filled after := by
  induction fs with
  | nil => cases hp
  | cons field rest ih =>
    rw [Fields.put] at hp
    split at hp
    · split at hp
      · cases hp
      · split at hp
        · rename_i a ha
          cases hp
          refine ⟨fun b hb => ⟨room, t, ?_⟩, h.2⟩
          cases hb
          exact ha
        · cases hp
    · cases hr : rest.put room name t slots.2 with
      | error => rw [hr] at hp; cases hp
      | ok result =>
        rw [hr] at hp
        cases result with
        | none => cases hp
        | some slots' =>
          cases hp
          exact ⟨h.1, ih h.2 hr⟩

theorem Filled.putAll {τ : Type} {fs : Fields τ} {room : Nat} {members : List (Option String × Tree)}
    {slots after : fs.Slots} (h : fs.Filled slots) (hp : fs.putAll room slots members = .ok after) :
    fs.Filled after := by
  induction members generalizing slots with
  | nil =>
    cases hp
    exact h
  | cons member members ih =>
    obtain ⟨name, t⟩ := member
    cases name with
    | none => cases hp
    | some name =>
      rw [Fields.putAll] at hp
      split at hp
      · cases hp
      · rename_i hput
        exact ih (h.put hput) hp
      · split at hp
        · exact ih h hp
        · cases hp

theorem Filled.finish {τ : Type} {fs : Fields τ} {slots : fs.Slots} {v : τ} (h : fs.Filled slots)
    (hf : fs.finish slots = some v) : fs.Gives v := by
  induction fs with
  | nil => trivial
  | cons field rest ih =>
    rw [Fields.finish] at hf
    split at hf
    · rename_i a as ha has
      cases hf
      refine ⟨?_, ih h.2 has⟩
      cases hs : slots.1 with
      | none =>
        rw [hs] at ha
        exact Or.inr ha
      | some b =>
        rw [hs] at ha
        cases ha
        exact Or.inl (h.1 a hs)
    · cases hf

theorem gives_ofItems {τ : Type} {fs : Fields τ} {room : Nat} {ts : List Tree} {v : τ}
    (h : fs.ofItems room ts = .ok v) : fs.Gives v := by
  induction fs generalizing ts with
  | nil => trivial
  | cons field rest ih =>
    cases ts with
    | nil =>
      rw [Fields.ofItems] at h
      split at h
      · rename_i a as ha has
        cases h
        exact ⟨Or.inr ha, ih has⟩
      · cases h
    | cons t ts =>
      rw [Fields.ofItems] at h
      split at h
      · cases h
      · rename_i a ha
        cases hr : rest.ofItems room ts with
        | error => rw [hr] at h; cases h
        | ok as =>
          rw [hr] at h
          cases h
          exact ⟨Or.inl ⟨room, t, ha⟩, ih hr⟩

end Fields

namespace Decoder
variable {τ α : Type} {room : Nat} {t : Tree}

/-- A record that is read is made of values that its fields may have. -/
theorem record_eq_ok {fs : Fields τ} {make : τ → Except DecodeError α} {a : α}
    (h : record fs make room t = .ok a) : ∃ v, fs.Gives v ∧ make v = .ok a := by
  unfold record at h
  split at h
  · split at h
    · cases h
    · rename_i slots hput
      split at h
      · rename_i v hf
        exact ⟨v, ((Fields.filled_empty fs).putAll hput).finish hf, h⟩
      · cases h
  · split at h
    · cases h
    · rename_i v hv
      split at h
      · exact ⟨v, Fields.gives_ofItems hv, h⟩
      · cases h
  · cases h

theorem items_eq_ok {d : Decoder α} {ts : List Tree} {as : List α} (h : items d room ts = .ok as) :
    ∀ a ∈ as, ∃ room t, d room t = .ok a := by
  induction ts generalizing as with
  | nil =>
    cases h
    rintro _ ⟨⟩
  | cons t ts ih =>
    rw [items] at h
    split at h
    · cases h
    · rename_i a ha
      cases hr : items d room ts with
      | error => rw [hr] at h; cases h
      | ok rest =>
        rw [hr] at h
        cases h
        rintro b (_ | ⟨_, hb⟩)
        · exact ⟨room, t, ha⟩
        · exact ih hr b hb

/-- Each item of a list that is read is one that its decoder reads. -/
theorem list_eq_ok {d : Decoder α} {as : List α} (h : list d room t = .ok as) :
    ∀ a ∈ as, ∃ room t, d room t = .ok a := by
  unfold list at h
  split at h
  · split at h
    · cases h
    · rename_i hitems
      split at h <;> cases h
      exact items_eq_ok hitems
  · cases h

theorem runText_eq_ok {d : Decoder α} {text : String} {a : α} (h : d.runText text = .ok a) :
    ∃ t, d deepest t = .ok a := by
  unfold runText run at h
  dsimp only at h
  split at h
  · cases h
  · rename_i b hb
    split at h <;> cases h
    exact ⟨_, hb⟩

end Decoder
end PasskeySession.Json
