import Mathlib.Algebra.Order.Floor.Div
import Mathlib.GroupTheory.GroupAction.Ring
import Mathlib.Tactic.Common
import PasskeySession.WebAuthn.Abi

/-! # Contract arguments read back

What stands where in an encoded tuple, and that reading gives the arguments back. A piece of a buffer is told
by the bytes before it, so the place of each word and of each byte string follows from the pieces in front of
it. -/

namespace PasskeySession.Abi
variable {bs p q : Bytes} {place n : Nat}

/-- A piece stands in a buffer from a place on. -/
def At (bs : Bytes) (place : Nat) (piece : Bytes) : Prop :=
  ∃ before after, bs = before ++ piece ++ after ∧ before.length = place

/-- A byte string stands in a buffer: its length, its bytes, and noughts up to the next whole word. -/
structure Holds (bs : Bytes) (place : Nat) (string : Bytes) : Prop where
  inside : place + 32 + 32 * (string.length ⌈/⌉ 32) ≤ bs.length
  size : wordAt? bs place = some string.length
  bytes : (bs.drop (place + 32)).take string.length = string
  padding : ∀ i, place + 32 + string.length ≤ i → i < place + 32 + 32 * (string.length ⌈/⌉ 32) → bs[i]? = some 0

/-! ### Sizes -/

@[simp] theorem length_word : (word n).length = 32 := BigEndian.length_ofNat 32 n

theorem paddedLength_eq : paddedLength n = 32 * (n ⌈/⌉ 32) := by
  rw [paddedLength, Nat.ceilDiv_eq_add_pred_div, Nat.mul_comm]
  rfl

theorem le_paddedLength : n ≤ paddedLength n := by
  unfold paddedLength
  omega

@[simp] theorem length_tail : (tail bs).length = 32 + paddedLength bs.length := by
  have := le_paddedLength (n := bs.length)
  simp only [tail, List.length_append, length_word, List.length_replicate]
  omega

@[simp] theorem length_heads {vs : List Value} : (heads place vs).length = 32 * vs.length := by
  induction vs generalizing place with
  | nil => rfl
  | cons v vs ih =>
    cases v with
    | uint m | bytes m => rw [heads, List.length_append, ih, length_word, List.length_cons]; omega

/-! ### Pieces -/

theorem At.left (h : At bs place (p ++ q)) : At bs place p := by
  obtain ⟨before, after, rfl, hp⟩ := h
  exact ⟨before, q ++ after, by simp, hp⟩

theorem At.right (h : At bs place (p ++ q)) : At bs (place + p.length) q := by
  obtain ⟨before, after, rfl, rfl⟩ := h
  exact ⟨before ++ p, after, by simp, List.length_append⟩

theorem At.take (h : At bs place p) : (bs.drop place).take p.length = p := by
  obtain ⟨before, after, rfl, rfl⟩ := h
  simp

theorem At.le_length (h : At bs place p) : place + p.length ≤ bs.length := by
  obtain ⟨before, after, rfl, rfl⟩ := h
  simp

theorem At.getElem? (h : At bs place p) {i : Nat} (hi : i < p.length) : bs[place + i]? = p[i]? := by
  obtain ⟨before, after, rfl, rfl⟩ := h
  rw [List.append_assoc, List.getElem?_append_right (Nat.le_add_right ..), Nat.add_sub_cancel_left,
    List.getElem?_append_left hi]

theorem At.wordAt? (h : At bs place (word n)) (hn : n < 2 ^ 256) : wordAt? bs place = some n := by
  have hw : (bs.drop place).take 32 = word n := length_word (n := n) ▸ h.take
  have back : BigEndian.toNat (word n) = n := by
    rw [word, BigEndian.toNat_ofNat]
    exact Nat.mod_eq_of_lt hn
  simp only [Abi.wordAt?, hw, length_word, back, if_true]

theorem At.bytesAt? (h : At bs place (tail p)) (hp : p.length < 2 ^ 256) : bytesAt? bs place = some p := by
  have hsize := h.left.left.wordAt? hp
  have hbytes : (bs.drop (place + 32)).take p.length = p := by
    simpa using h.left.right.take
  simp only [Abi.bytesAt?, hsize, hbytes, Option.bind_eq_bind, Option.bind_some, if_true]

theorem At.holds (h : At bs place (tail p)) (hp : p.length < 2 ^ 256) : Holds bs place p where
  inside := by
    have := h.le_length
    rwa [length_tail, paddedLength_eq, ← Nat.add_assoc] at this
  size := h.left.left.wordAt? hp
  bytes := by simpa using h.left.right.take
  padding i hle hlt := by
    have noughts : At bs (place + (32 + p.length)) (List.replicate (paddedLength p.length - p.length) 0) := by
      simpa using h.right
    obtain ⟨j, rfl⟩ := Nat.exists_eq_add_of_le hle
    have hj : j < paddedLength p.length - p.length := by
      rw [paddedLength_eq]
      omega
    have := noughts.getElem? (i := j) (by simpa using hj)
    rw [List.getElem?_replicate_of_lt hj] at this
    rwa [Nat.add_assoc place]

/-! ### Tuples -/

def Value.kind : Value → Kind
  | uint _ => .uint
  | bytes _ => .bytes

/-- Whether a number fits a word. -/
def Value.Fits : Value → Prop
  | uint n => n < 2 ^ 256
  | bytes _ => True

/-- The words of a tuple tell where its byte strings stand, wherever both are in a buffer. -/
theorem decodeFrom?_of_at {vs : List Value} {start : Nat} (hh : At bs start (heads place vs))
    (ht : At bs place (tails vs)) (hn : ∀ v ∈ vs, v.Fits) (hlen : bs.length < 2 ^ 256) :
    decodeFrom? bs start (vs.map Value.kind) = some vs := by
  induction vs generalizing start place with
  | nil => rfl
  | cons v vs ih =>
    have hrest : ∀ u ∈ vs, u.Fits := fun u hu => hn u (List.mem_cons_of_mem v hu)
    have hnext := hh.le_length
    cases v with
    | uint m =>
      have hword := hh.left.wordAt? (hn _ List.mem_cons_self)
      have hheads : At bs (start + 32) (heads place vs) := by simpa using hh.right
      simp [decodeFrom?, Value.kind, hword, ih hheads ht hrest]
    | bytes content =>
      have hin := ht.left.le_length
      rw [length_tail] at hin
      have hword := hh.left.wordAt? (n := place) (by omega)
      have hbytes := ht.left.bytesAt? (by have := le_paddedLength (n := content.length); omega)
      have hheads : At bs (start + 32) (heads (place + 32 + paddedLength content.length) vs) := by
        simpa using hh.right
      have htails : At bs (place + 32 + paddedLength content.length) (tails vs) := by
        simpa [Nat.add_assoc] using ht.right
      simp [decodeFrom?, Value.kind, hword, hbytes, ih hheads htails hrest]

theorem at_heads (vs : List Value) : At (encode vs) 0 (heads (32 * vs.length) vs) :=
  ⟨[], tails vs, rfl, rfl⟩

theorem at_tails (vs : List Value) : At (encode vs) (32 * vs.length) (tails vs) :=
  ⟨heads (32 * vs.length) vs, [], (List.append_nil _).symm, length_heads⟩

/-- An encoded tuple reads back. -/
theorem decode?_encode {vs : List Value} (hn : ∀ v ∈ vs, v.Fits) (hlen : (encode vs).length < 2 ^ 256) :
    decode? (vs.map Value.kind) (encode vs) = some vs :=
  decodeFrom?_of_at (at_heads vs) (at_tails vs) hn hlen

end PasskeySession.Abi
