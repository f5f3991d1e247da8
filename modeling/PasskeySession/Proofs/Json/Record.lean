import PasskeySession.Json.Decoder

/-! # Records in the order of their fields

An object whose members are the fields of a record in order is read as the array of their values: each with
the decoder of its field, up to the first fault. -/

namespace PasskeySession.Json

namespace Fields
variable {α β τ : Type} {room : Nat}

def names : {τ : Type} → Fields τ → List String
  | _, .nil => []
  | _, .cons field rest => field.name :: rest.names

/-- The members that give the fields their values in order. -/
def named (fs : Fields τ) (ts : List Tree) : List (Option String × Tree) := (fs.names.map some).zip ts

/-- Members with other names pass by a field. -/
theorem putAll_cons {field : Field α} {rest : Fields β} {members : List (Option String × Tree)}
    (h : ∀ m ∈ members, m.1 ≠ some field.name) (slot : Option α) (slots : rest.Slots) :
    (Fields.cons field rest).putAll room (slot, slots) members = (rest.putAll room slots members).map (slot, ·) := by
  induction members generalizing slots with
  | nil => rfl
  | cons member members ih =>
    have ih := ih fun m hm => h m (List.mem_cons_of_mem member hm)
    have hname := h member List.mem_cons_self
    obtain ⟨name, t⟩ := member
    cases name with
    | none => rfl
    | some name =>
      have hne : ¬ field.name = name := fun heq => hname (congrArg some heq.symm)
      simp only [putAll, put, if_neg hne]
      cases rest.put room name t slots with
      | error e => rfl
      | ok result =>
        cases result with
        | none =>
          change (if t.sound then (Fields.cons field rest).putAll room (slot, slots) members else .error .mismatch) =
            (if t.sound then rest.putAll room slots members else .error .mismatch).map (slot, ·)
          split
          · exact ih slots
          · rfl
        | some after => exact ih after

theorem ofItems_eq (fs : Fields τ) (hnames : fs.names.Nodup) {ts : List Tree} (hlen : ts.length = fs.names.length) :
    fs.ofItems room ts =
      match fs.putAll room fs.empty (fs.named ts) with
      | .error e => .error e
      | .ok slots =>
        match fs.finish slots with
        | some v => .ok v
        | none => .error .mismatch := by
  induction fs generalizing ts with
  | nil =>
    obtain rfl := List.eq_nil_of_length_eq_zero hlen
    rfl
  | cons field rest ih =>
    obtain ⟨t, ts, rfl⟩ := List.exists_cons_of_length_eq_add_one hlen
    obtain ⟨hfield, hrest⟩ := List.nodup_cons.mp hnames
    have ih := ih hrest (Nat.succ.inj hlen)
    have hothers : ∀ m ∈ rest.named ts, m.1 ≠ some field.name := by
      rintro ⟨name, t⟩ hm rfl
      obtain ⟨name, hname, heq⟩ := List.mem_map.mp (List.of_mem_zip hm).1
      cases heq
      exact hfield hname
    have hnamed : (Fields.cons field rest).named (t :: ts) = (some field.name, t) :: rest.named ts := rfl
    rw [hnamed, ofItems, putAll, put, if_pos rfl, ih]
    cases field.decode room t with
    | error e => rfl
    | ok a =>
      simp only [empty, putAll_cons hothers]
      cases rest.putAll room rest.empty (rest.named ts) with
      | error e => rfl
      | ok slots =>
        simp only [Except.map, finish, Option.some_or]
        cases rest.finish slots <;> rfl

end Fields

namespace Decoder
variable {α β τ : Type} {room : Nat}

/-- What is made of a record may be made further. -/
theorem record_map (fs : Fields τ) (make : τ → Except DecodeError α) (f : α → β) (room : Nat) (t : Tree) :
    record fs (fun v => (make v).map f) room t = (record fs make room t).map f := by
  unfold record
  split
  · cases fs.putAll _ fs.empty _ with
    | error e => rfl
    | ok slots =>
      dsimp only
      split <;> rfl
  · cases fs.ofItems _ _ with
    | error e => rfl
    | ok v =>
      dsimp only
      split <;> rfl
  · rfl

/-- A record that is written in full, in the order of its fields. -/
theorem record_named {fs : Fields τ} {make : τ → Except DecodeError α} (hnames : fs.names.Nodup) (ts : List Tree)
    (hlen : ts.length = fs.names.length) :
    record fs make (room + 1) (.object (fs.named ts) true) = (fs.ofItems room ts).bind make := by
  rw [record, fs.ofItems_eq hnames hlen]
  cases fs.putAll room fs.empty (fs.named ts) with
  | error e => rfl
  | ok slots =>
    dsimp only
    cases fs.finish slots <;> rfl

/-- The items of a list that is written are read in order. -/
theorem list_ofList {d : Decoder α} {f : α → Json} {xs : List α} (h : ∀ x ∈ xs, d room (Tree.ofJson (f x)) = .ok x) :
    list d (room + 1) (Tree.ofJson (Json.ofList f xs)) = .ok xs := by
  have hitems : items d room (Tree.ofItems (xs.map f)) = .ok xs := by
    induction xs with
    | nil => rfl
    | cons x xs ih =>
      rw [List.map_cons, Tree.ofItems, items, h x List.mem_cons_self, ih fun y hy => h y (List.mem_cons_of_mem x hy)]
      rfl
  rw [Json.ofList, Tree.ofJson, list, hitems]
  rfl

end Decoder
end PasskeySession.Json
