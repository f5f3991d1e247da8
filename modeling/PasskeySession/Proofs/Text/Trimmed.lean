import Mathlib.Data.List.Induction
import Mathlib.Data.List.TakeWhile
import PasskeySession.Text.Blank

/-! # What trimming leaves

A text is what is left of it and the characters that were dropped from its end. Main statement: what is left is the
one beginning of the text that ends otherwise and that only such characters follow. -/

namespace PasskeySession.Text
variable {p : Char → Bool} {c : Char} {cs ds : List Char} {k : Nat}

/-- A text ends with the characters that are dropped from its end. -/
theorem exists_replicate (a : Char) (cs : List Char) :
    ∃ k, cs = dropEndWhile (· == a) cs ++ List.replicate k a := by
  induction cs using List.reverseRecOn with
  | nil => exact ⟨0, rfl⟩
  | append_singleton cs c ih =>
    by_cases hc : c = a
    · obtain ⟨k, hk⟩ := ih
      rw [dropEndWhile_append_of_pos (by simpa using hc)]
      exact ⟨k + 1, by rw [List.replicate_succ', ← List.append_assoc, ← hk, hc]⟩
    · rw [dropEndWhile_append_of_neg (by simpa using hc)]
      exact ⟨0, (List.append_nil _).symm⟩

theorem dropEndWhile_append_replicate (h : p c = true) (cs : List Char) (k : Nat) :
    dropEndWhile p (cs ++ List.replicate k c) = dropEndWhile p cs := by
  induction k with
  | zero => rw [List.replicate_zero, List.append_nil]
  | succ k ih => rw [List.replicate_succ', ← List.append_assoc, dropEndWhile_append_of_pos h, ih]

theorem getLast?_dropEndWhile_ne (a : Char) (cs : List Char) : (dropEndWhile (· == a) cs).getLast? ≠ some a := by
  intro h
  have := getLast?_dropEndWhile h
  simp at this

theorem dropEndWhile_of_getLast? (h : cs.getLast? ≠ some c) : dropEndWhile (· == c) cs = cs := by
  cases cs using List.reverseRecOn with
  | nil => rfl
  | append_singleton cs d =>
    rw [List.getLast?_concat] at h
    exact dropEndWhile_append_of_neg (by simpa using h) cs

/-- What is left is told by what was dropped. -/
theorem dropEndWhile_eq (h : cs = ds ++ List.replicate k c) (hlast : ds.getLast? ≠ some c) :
    dropEndWhile (· == c) cs = ds := by
  rw [h, dropEndWhile_append_replicate (by simp), dropEndWhile_of_getLast? hlast]

theorem dropEndWhile_eq_nil_iff : dropEndWhile p cs = [] ↔ ∀ c ∈ cs, p c = true := by
  simp [dropEndWhile, List.dropWhile_eq_nil_iff]

theorem blank_iff : blank cs = true ↔ ∀ c ∈ cs, isBlank c = true := by
  rw [blank, trim, List.isEmpty_iff, dropEndWhile_eq_nil_iff]
  constructor
  · intro h c hc
    rw [← List.takeWhile_append_dropWhile (p := isBlank) (l := cs)] at hc
    rcases List.mem_append.mp hc with hc | hc
    · exact (List.all_eq_true.mp List.all_takeWhile) c hc
    · exact h c hc
  · exact fun h c hc => h c ((List.dropWhile_sublist isBlank).subset hc)

end PasskeySession.Text
