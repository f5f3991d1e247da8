import Mathlib.Algebra.Order.Group.Int
import Mathlib.Tactic.Linarith
import Mathlib.Tactic.Positivity
import Mathlib.Tactic.Ring
import PasskeySession.Proofs.Crypto.Der

/-! # The rules of DER

The format has integers of either sign, in two's complement, and lengths of any size, and of all ways to write
one it takes the shortest. Main statement: what is read is what keeps these rules for two numbers in the range
of a signature, and then it is what is written for them. -/

namespace PasskeySession

namespace BigEndian
variable {b : UInt8} {bs : Bytes} {k n : Nat}

theorem toNat_cons (b : UInt8) (bs : Bytes) : toNat (b :: bs) = b.toNat * 256 ^ bs.length + toNat bs := by
  induction bs using List.reverseRecOn with
  | nil => simp [toNat]
  | append_singleton bs c ih =>
    rw [← List.cons_append, toNat_append_singleton, toNat_append_singleton, ih, List.length_append,
      List.length_singleton, pow_succ]
    ring

theorem toNat_zero_cons (bs : Bytes) : toNat (0 :: bs) = toNat bs := by
  rw [toNat_cons, UInt8.toNat_zero, Nat.zero_mul, Nat.zero_add]

theorem toNat_lt (bs : Bytes) : toNat bs < 256 ^ bs.length := by
  induction bs using List.reverseRecOn with
  | nil => exact Nat.one_pos
  | append_singleton bs b ih =>
    have := b.toNat_lt
    rw [toNat_append_singleton, List.length_append, List.length_singleton, pow_succ]
    omega

theorem ofNat_toNat (bs : Bytes) : ofNat bs.length (toNat bs) = bs := by
  induction bs using List.reverseRecOn with
  | nil => rfl
  | append_singleton bs b ih =>
    have hb : b.toNat < 256 := b.toNat_lt
    have hdiv : (toNat bs * 256 + b.toNat) / 256 = toNat bs := by omega
    have hlast : UInt8.ofNat (toNat bs * 256 + b.toNat) = b := by
      refine UInt8.toNat_inj.mp ?_
      rw [UInt8.toNat_ofNat']
      omega
    rw [toNat_append_singleton, List.length_append, List.length_singleton, ofNat, hdiv, ih, hlast]

theorem ofNat_zero (j : Nat) : ofNat j 0 = List.replicate j 0 := by
  induction j with
  | zero => rfl
  | succ j ih =>
    rw [ofNat, Nat.zero_div, ih, List.replicate_succ']
    rfl

/-- More bytes than a number needs begin with noughts. -/
theorem ofNat_add (j : Nat) (h : n < 256 ^ k) : ofNat (j + k) n = List.replicate j 0 ++ ofNat k n := by
  induction k generalizing n with
  | zero =>
    obtain rfl : n = 0 := Nat.lt_one_iff.mp h
    rw [Nat.add_zero, ofNat_zero, ofNat, List.append_nil]
  | succ k ih =>
    have hdiv : n / 256 < 256 ^ k := by
      rw [pow_succ] at h
      omega
    rw [← Nat.add_assoc, ofNat, ih hdiv, ofNat, List.append_assoc]

theorem dropWhile_ofNat (h : bs.length ≤ k) :
    (ofNat k (toNat bs)).dropWhile (· == 0) = bs.dropWhile (· == 0) := by
  obtain ⟨j, rfl⟩ := Nat.exists_eq_add_of_le' h
  rw [ofNat_add j (toNat_lt bs), ofNat_toNat, List.dropWhile_append_of_pos]
  intro b hb
  rw [List.eq_of_mem_replicate hb]
  rfl

/-- A number below a power of 256 has no more bytes than this, noughts in front apart. -/
theorem length_lt (hb : b ≠ 0) (h : toNat (b :: bs) < 256 ^ k) : bs.length < k := by
  have hpos : 1 ≤ b.toNat := Nat.one_le_iff_ne_zero.mpr fun hz => hb (UInt8.toNat_inj.mp hz)
  have hle : 256 ^ bs.length ≤ toNat (b :: bs) := by
    rw [toNat_cons]
    exact le_add_right (Nat.le_mul_of_pos_left _ hpos)
  exact (Nat.pow_lt_pow_iff_right (by decide)).mp (hle.trans_lt h)

end BigEndian

namespace Der
open BigEndian
variable {n m : Nat} {r s r' s' : ℤ} {tag tag' : UInt8} {bs body body' rest rest' ls ls' : Bytes} {g : Signature}

/-! ### The rules -/

/-- The number that bytes write in two's complement: the first byte has a sign. -/
def signed : Bytes → ℤ
  | [] => 0
  | b :: bs => (if b < 0x80 then (b.toNat : ℤ) else b.toNat - 256) * 256 ^ bs.length + toNat bs

/-- No byte could be left away: there is one, and the first nine bits are not all alike. -/
def Shortest : Bytes → Prop
  | [] => False
  | [_] => True
  | b :: c :: _ => (b = 0 → 0x80 ≤ c) ∧ (b = 0xff → c < 0x80)

/-- The bytes of an integer. -/
structure Writes (bs : Bytes) (z : ℤ) : Prop where
  shortest : Shortest bs
  value : signed bs = z

/-- The bytes of a length: one below 128, or else the marked number of the bytes that tell it, and these. -/
inductive IsLength : Bytes → Nat → Prop
  | short {b : UInt8} (small : b < 0x80) : IsLength [b] b.toNat
  | long {b : UInt8} {bs : Bytes} (mark : b.toNat = 128 + bs.length) (free : b ≠ 0xff) (first : bs.head? ≠ some 0)
    (large : 128 ≤ toNat bs) : IsLength (b :: bs) (toNat bs)

/-- A tag, the length of what follows, and this. -/
def IsField (tag : UInt8) (body bs : Bytes) : Prop :=
  ∃ ls, IsLength ls body.length ∧ bs = tag :: (ls ++ body)

/-- A sequence of two integers and nothing else. -/
def IsPair (bs : Bytes) (r s : ℤ) : Prop :=
  ∃ first second, IsField 0x30 (first ++ second) bs ∧
    (∃ body, IsField 0x02 body first ∧ Writes body r) ∧
    ∃ body, IsField 0x02 body second ∧ Writes body s

/-! ### Integers -/

theorem signed_neg {b : UInt8} (hb : ¬ b < 0x80) (bs : Bytes) : signed (b :: bs) < 0 := by
  have hsmall : (b.toNat : ℤ) - 256 ≤ -1 := by
    have := b.toNat_lt
    omega
  have hrest : (toNat bs : ℤ) < 256 ^ bs.length := by exact_mod_cast toNat_lt bs
  have hpos : (0 : ℤ) < 256 ^ bs.length := by positivity
  rw [signed, if_neg hb]
  nlinarith

theorem signed_eq {b : UInt8} (hb : b < 0x80) (bs : Bytes) : signed (b :: bs) = toNat (b :: bs) := by
  rw [signed, if_pos hb, toNat_cons]
  push_cast
  rfl

/-- A number that is not negative is told by all its bytes, and the first does not look like a sign. -/
theorem writes_cons_iff {b : UInt8} : Writes (b :: bs) n ↔ Shortest (b :: bs) ∧ b < 0x80 ∧ toNat (b :: bs) = n := by
  constructor
  · rintro ⟨hshort, hvalue⟩
    by_cases hb : b < 0x80
    · rw [signed_eq hb] at hvalue
      exact ⟨hshort, hb, by exact_mod_cast hvalue⟩
    · have := signed_neg hb bs
      omega
  · rintro ⟨hshort, hb, rfl⟩
    exact ⟨hshort, signed_eq hb bs⟩

theorem natural?_eq_some_iff : natural? bs = some n ↔ Writes bs n := by
  match bs with
  | [] => exact iff_of_false (by rintro ⟨⟩) (fun h => h.shortest)
  | [b] =>
    have hvalue : toNat [b] = b.toNat := Nat.zero_add b.toNat
    rw [natural?, Option.ite_none_right_eq_some, writes_cons_iff, hvalue, Option.some_inj]
    exact (iff_of_eq (true_and _)).symm
  | b :: c :: cs =>
    rw [natural?, writes_cons_iff]
    by_cases hzero : b = 0
    · subst hzero
      rw [if_pos rfl, Option.ite_none_right_eq_some, toNat_zero_cons, Option.some_inj]
      constructor
      · rintro ⟨hc, hvalue⟩
        exact ⟨⟨fun _ => hc, by rintro ⟨⟩⟩, by decide, hvalue⟩
      · rintro ⟨hshort, -, hvalue⟩
        exact ⟨hshort.1 rfl, hvalue⟩
    · rw [if_neg hzero, Option.ite_none_right_eq_some, Option.some_inj]
      constructor
      · rintro ⟨hb, hvalue⟩
        refine ⟨⟨fun h => absurd h hzero, ?_⟩, hb, hvalue⟩
        rintro rfl
        exact absurd hb (by decide)
      · rintro ⟨-, hb, hvalue⟩
        exact ⟨hb, hvalue⟩

/-- The rules give a number one form. -/
theorem Writes.eq_content (h : Writes bs n) (hn : n < Nat.pow 256 32) : bs = content n := by
  match bs with
  | [] => exact h.shortest.elim
  | b :: cs =>
    obtain ⟨hshort, hb, rfl⟩ := writes_cons_iff.mp h
    by_cases hzero : b = 0
    · subst hzero
      cases cs with
      | nil => rfl
      | cons c cs =>
        have hc : ¬ c < 0x80 := UInt8.not_lt.mpr (hshort.1 rfl)
        have hne : c ≠ 0 := by
          rintro rfl
          exact hc (by decide)
        rw [toNat_zero_cons] at hn ⊢
        have hlen : (c :: cs).length ≤ 32 := length_lt hne hn
        rw [content, dropWhile_ofNat hlen, List.dropWhile_cons_of_neg (by simpa using hne)]
        exact (if_neg hc).symm
    · have hlen : (b :: cs).length ≤ 32 := length_lt hzero hn
      rw [content, dropWhile_ofNat hlen, List.dropWhile_cons_of_neg (by simpa using hzero)]
      exact (if_pos hb).symm

/-! ### Fields -/

theorem IsLength.eq_singleton (h : IsLength ls n) (hn : n < 128) : ls = [UInt8.ofNat n] := by
  cases h with
  | short small => rw [UInt8.ofNat_toNat]
  | long mark free first large => omega

theorem isLength_singleton (hn : n < 128) : IsLength [UInt8.ofNat n] n := by
  have hvalue : (UInt8.ofNat n).toNat = n := UInt8.toNat_ofNat_of_lt' (by change n < 256; omega)
  have hsmall : UInt8.ofNat n < 0x80 := by
    rw [UInt8.lt_iff_toNat_lt, hvalue]
    exact hn
  have := IsLength.short hsmall
  rwa [hvalue] at this

/-- Where a length ends is told by its bytes. -/
theorem IsLength.append_inj (h : IsLength ls n) (h' : IsLength ls' m) (heq : ls ++ rest = ls' ++ rest') :
    n = m ∧ rest = rest' := by
  cases h with
  | short small =>
    cases h' with
    | short small' =>
      obtain ⟨rfl, rfl⟩ := List.cons.inj heq
      exact ⟨rfl, rfl⟩
    | long mark =>
      obtain ⟨rfl, -⟩ := List.cons.inj heq
      have : _ < 128 := UInt8.lt_iff_toNat_lt.mp small
      omega
  | long mark =>
    cases h' with
    | short small' =>
      obtain ⟨rfl, -⟩ := List.cons.inj heq
      have : _ < 128 := UInt8.lt_iff_toNat_lt.mp small'
      omega
    | long mark' =>
      obtain ⟨rfl, htail⟩ := List.cons.inj heq
      obtain ⟨rfl, rfl⟩ := List.append_inj htail (by omega)
      exact ⟨rfl, rfl⟩

/-- Where a field ends is told by its bytes. -/
theorem IsField.append_inj (h : IsField tag body ls) (h' : IsField tag' body' ls')
    (heq : ls ++ rest = ls' ++ rest') : body = body' ∧ rest = rest' := by
  obtain ⟨told, hlen, rfl⟩ := h
  obtain ⟨told', hlen', rfl⟩ := h'
  have htail : told ++ body ++ rest = told' ++ body' ++ rest' := (List.cons.inj heq).2
  rw [List.append_assoc, List.append_assoc] at htail
  obtain ⟨hsize, hbody⟩ := hlen.append_inj hlen' htail
  exact List.append_inj hbody hsize

theorem isField_iff (h : body.length < 128) :
    IsField tag body bs ↔ bs = tag :: UInt8.ofNat body.length :: body := by
  constructor
  · rintro ⟨ls, hls, rfl⟩
    rw [hls.eq_singleton h]
    rfl
  · rintro rfl
    exact ⟨_, isLength_singleton h, rfl⟩

/-- What is read from a field is in it, and what follows is left. -/
theorem field?_eq_some (h : field? tag bs = some (body, rest)) :
    ∃ field, IsField tag body field ∧ bs = field ++ rest := by
  unfold field? at h
  split at h
  · rename_i t n bs
    split at h
    · rename_i hfield
      obtain ⟨rfl, hsmall, hlen⟩ := hfield
      cases h
      refine ⟨t :: n :: bs.take n.toNat, ⟨[n], ?_, rfl⟩, ?_⟩
      · rw [List.length_take, Nat.min_eq_left hlen]
        exact .short hsmall
      · rw [List.cons_append, List.cons_append, List.take_append_drop]
    · cases h
  · cases h

/-! ### Signatures -/

/-- Bytes write no more than one pair of numbers, and stop being a pair when more follow. -/
theorem IsPair.append_inj (h : IsPair bs r s) (h' : IsPair (bs ++ rest) r' s') : r = r' ∧ s = s' ∧ rest = [] := by
  obtain ⟨first, second, houter, ⟨cr, hfirst, hr⟩, cs, hsecond, hs⟩ := h
  obtain ⟨first', second', houter', ⟨cr', hfirst', hr'⟩, cs', hsecond', hs'⟩ := h'
  obtain ⟨hbody, rfl⟩ := houter.append_inj houter' (List.append_nil _).symm
  obtain ⟨rfl, rfl⟩ := hfirst.append_inj hfirst' hbody
  obtain ⟨rfl, -⟩ := hsecond.append_inj hsecond' (rfl : second ++ [] = second ++ [])
  exact ⟨hr.value.symm.trans hr'.value, hs.value.symm.trans hs'.value, rfl⟩

theorem IsPair.inj (h : IsPair bs r s) (h' : IsPair bs r' s') : r = r' ∧ s = s' := by
  have hnil : IsPair (bs ++ []) r' s' := by rwa [List.append_nil]
  obtain ⟨hr, hs, -⟩ := h.append_inj hnil
  exact ⟨hr, hs⟩

theorem ofPair?_eq_some {r s : Nat} (h : Signature.ofPair? r s = some g) : g.r = r ∧ g.s = s := by
  unfold Signature.ofPair? at h
  split at h
  · cases h
    exact ⟨rfl, rfl⟩
  · cases h

theorem isPair_of_decode? (h : decode? bs = some g) : IsPair bs g.r g.s := by
  simp only [decode?, Option.bind_eq_bind, Option.bind_eq_some_iff, Prod.exists] at h
  obtain ⟨body, rest, hbody, cr, after, hr, cs, last, hs, h⟩ := h
  split at h
  · rename_i hempty
    simp only [Bool.and_eq_true, List.isEmpty_iff] at hempty
    obtain ⟨rfl, rfl⟩ := hempty
    simp only [Option.bind_eq_some_iff] at h
    obtain ⟨r, hr', s, hs', hg⟩ := h
    obtain ⟨rfl, rfl⟩ := ofPair?_eq_some hg
    obtain ⟨field, houter, rfl⟩ := field?_eq_some hbody
    obtain ⟨first, hfirst, rfl⟩ := field?_eq_some hr
    obtain ⟨second, hsecond, rfl⟩ := field?_eq_some hs
    rw [List.append_nil] at houter ⊢
    exact ⟨first, second, houter, ⟨cr, hfirst, natural?_eq_some_iff.mp hr'⟩, cs, hsecond,
      natural?_eq_some_iff.mp hs'⟩
  · cases h

theorem isField_integer (h : Writes body n) (hn : n < Nat.pow 256 32) (hfield : IsField 0x02 body bs) :
    bs = integer n := by
  have hshort : (content n).length < 128 := Nat.lt_of_le_of_lt (length_content n).2 (by decide)
  rw [h.eq_content hn] at hfield
  exact (isField_iff hshort).mp hfield

/-- The rules give a signature one form, the one that is written. -/
theorem IsPair.eq_encode (h : IsPair bs g.r g.s) : bs = encode g := by
  obtain ⟨first, second, houter, ⟨cr, hfirst, hr⟩, cs, hsecond, hs⟩ := h
  obtain rfl := isField_integer hr (Nat.lt_trans g.rBelow P256.order_lt) hfirst
  obtain rfl := isField_integer hs (Nat.lt_trans g.sBelow P256.order_lt) hsecond
  have hbody : (integer g.r ++ integer g.s).length < 128 := by
    have := length_integer g.r
    have := length_integer g.s
    rw [List.length_append]
    omega
  exact (isField_iff hbody).mp houter

/-- A signature is read from the bytes that the rules give its two numbers, and from no others. -/
theorem decode?_eq_some_iff : decode? bs = some g ↔ IsPair bs g.r g.s := by
  refine ⟨isPair_of_decode?, fun h => ?_⟩
  rw [h.eq_encode]
  exact decode?_encode g

theorem isPair_encode (g : Signature) : IsPair (encode g) g.r g.s := isPair_of_decode? (decode?_encode g)

end Der
end PasskeySession
