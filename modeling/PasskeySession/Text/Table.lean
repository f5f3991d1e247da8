import PasskeySession.Text.Hex
import PasskeySession.Text.Split

/-! # Tables of characters

A table tells numbers of characters. It is written as rows with blanks between, in increasing order, all
numbers in base sixteen: `41-5A:61` is the row of a run of characters from first to last, and after a colon
come the numbers that hold for them. A row that ends its run in `/2` passes over every other character. -/

namespace PasskeySession.Text

/-- A run of characters with the numbers that hold for them. -/
structure Row where
  first : Nat
  last : Nat
  step : Nat
  values : List Nat

namespace Row

def covers (r : Row) (n : Nat) : Bool := r.first ≤ n && n ≤ r.last && (n - r.first) % r.step == 0

/-- The number that digits write; what is no digit is passed over. -/
def number (cs : List Char) : Nat := (cs.filterMap hexValue?).foldl (fun n d => n * 16 + d) 0

/-- What stands before a mark and what stands after it, which is nothing if the mark is missing. -/
def cut (mark : Char) (cs : List Char) : List Char × List Char :=
  (cs.takeWhile (· != mark), (cs.dropWhile (· != mark)).drop 1)

def ofChars (cs : List Char) : Row :=
  let (run, values) := cut ':' cs
  let (run, step) := cut '/' run
  let (first, last) := cut '-' run
  ⟨number first, number (if last.isEmpty then first else last), if step.isEmpty then 1 else number step,
    if values.isEmpty then [] else (splitBy (· == ',') values).map number⟩

end Row

abbrev Table := Array Row

namespace Table

def ofText (text : String) : Table :=
  (((splitBy (fun c => c == ' ' || c == '\n') text.toList).filter (!·.isEmpty)).map Row.ofChars).toArray

/-- The row of a character is sought among those from `low` on, below `high`. -/
def seek (t : Table) (n low : Nat) : (fuel high : Nat) → Option Row
  | 0, _ => none
  | fuel + 1, high =>
    if low < high then
      let mid := (low + high) / 2
      match t[mid]? with
      | none => none
      | some r =>
        if n < r.first then seek t n low fuel mid
        else if r.last < n then seek t n (mid + 1) fuel high
        else if r.covers n then some r else none
    else none

def row? (t : Table) (c : Char) : Option Row := seek t c.toNat 0 t.size t.size

def contains (t : Table) (c : Char) : Bool := (t.row? c).isSome

end Table
end PasskeySession.Text
