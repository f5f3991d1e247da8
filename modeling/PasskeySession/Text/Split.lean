/-! # Splitting

A text between its separators. Main statement: the pieces hold every other character, in order. -/

namespace PasskeySession.Text

/-- The pieces of a text between the characters of a class; one more than there are such characters. -/
def splitBy (p : Char → Bool) : List Char → List (List Char)
  | [] => [[]]
  | c :: cs =>
    if p c then [] :: splitBy p cs
    else
      match splitBy p cs with
      | [] => [[c]]
      | piece :: pieces => (c :: piece) :: pieces

theorem splitBy_ne_nil (p : Char → Bool) (cs : List Char) : splitBy p cs ≠ [] := by
  cases cs with
  | nil => simp [splitBy]
  | cons c cs =>
    rw [splitBy]
    split
    · simp
    · split <;> simp

theorem flatten_splitBy (p : Char → Bool) (cs : List Char) :
    (splitBy p cs).flatten = cs.filter (!p ·) := by
  induction cs with
  | nil => rfl
  | cons c cs ih =>
    rw [splitBy]
    split
    · rename_i h
      simp [ih, h]
    · rename_i h
      split
      · rename_i hs
        exact absurd hs (splitBy_ne_nil p cs)
      · rename_i piece pieces hs
        rw [hs] at ih
        simpa [h] using ih

end PasskeySession.Text
