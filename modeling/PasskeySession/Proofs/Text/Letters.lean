import PasskeySession.Identifier

/-! # Letters of either case

Identifiers are read alike whatever the case of their letters, and whatever white space stands around them. -/

namespace PasskeySession

namespace Text
variable {cs ds : List Char}

/-- The texts differ in nothing but the case of letters. -/
def Alike (cs ds : List Char) : Prop := cs.map Char.toLower = ds.map Char.toLower

theorem toNat_toLower (c : Char) :
    c.toLower.toNat = if 65 ≤ c.toNat ∧ c.toNat ≤ 90 then c.toNat + 32 else c.toNat := by
  change c.toLower.val.toNat = if 65 ≤ c.val.toNat ∧ c.val.toNat ≤ 90 then c.val.toNat + 32 else c.val.toNat
  unfold Char.toLower
  simp only [ge_iff_le, UInt32.le_iff_toNat_le]
  split
  · rename_i h
    have hcapital : 65 ≤ c.val.toNat ∧ c.val.toNat ≤ 90 := h
    have hshift : ('a'.val - 'A'.val).toNat = 32 := rfl
    rw [if_pos hcapital, UInt32.toNat_add]
    omega
  · rename_i h
    exact (if_neg h).symm

theorem hexValue?_toLower (c : Char) : hexValue? c.toLower = hexValue? c := by
  unfold hexValue?
  simp only [toNat_toLower]
  grind

theorem ofHex?_map_toLower : ∀ cs : List Char, ofHex? (cs.map Char.toLower) = ofHex? cs
  | [] => rfl
  | [_] => rfl
  | a :: b :: cs => by
    simp only [List.map_cons, ofHex?, hexValue?_toLower, ofHex?_map_toLower cs]

theorem toLower_x_iff (c : Char) : (c.toLower = 'x' ∨ c.toLower = 'X') ↔ (c = 'x' ∨ c = 'X') := by
  simp only [← Char.toNat_inj, toNat_toLower]
  have hx : 'x'.toNat = 120 ∧ 'X'.toNat = 88 := ⟨rfl, rfl⟩
  grind

theorem toLower_nought_iff (c : Char) : c.toLower = '0' ↔ c = '0' := by
  simp only [← Char.toNat_inj, toNat_toLower]
  have h0 : '0'.toNat = 48 := rfl
  grind

end Text

namespace Word
variable {n : Nat} {cs ds : List Char}

theorem digits?_cons (a b : Char) (cs : List Char) :
    digits? (a :: b :: cs) = if a = '0' ∧ (b = 'x' ∨ b = 'X') then some cs else none := by
  unfold digits?
  split
  · simp_all
  · simp_all
  · rename_i hlow hcapital
    rw [if_neg]
    rintro ⟨rfl, rfl | rfl⟩
    · exact hlow cs rfl
    · exact hcapital cs rfl

theorem digits?_map_toLower : ∀ cs : List Char,
    digits? (cs.map Char.toLower) = (digits? cs).map (·.map Char.toLower)
  | [] => rfl
  | [_] => by simp [digits?]
  | a :: b :: cs => by
    simp only [List.map_cons, digits?_cons, Text.toLower_nought_iff, Text.toLower_x_iff]
    split <;> rfl

/-- The case of letters does not matter. -/
theorem ofChars?_map_toLower (cs : List Char) : ofChars? n (cs.map Char.toLower) = ofChars? n cs := by
  rw [ofChars?, ofChars?, digits?_map_toLower]
  cases digits? cs with
  | none => rfl
  | some ds => simp only [Option.map_some, Option.bind_some, Text.ofHex?_map_toLower]

theorem ofChars?_of_alike (h : Text.Alike cs ds) : ofChars? n cs = ofChars? n ds := by
  rw [← ofChars?_map_toLower cs, h, ofChars?_map_toLower]

theorem ofText?_of_alike {s t : String} (h : Text.Alike (Text.trim s.toList) (Text.trim t.toList)) :
    ofText? n s = ofText? n t := ofChars?_of_alike h

end Word
end PasskeySession
