import PasskeySession.Proofs.Text.Base64Url
import PasskeySession.Proofs.Text.Trimmed
import PasskeySession.Session.Operation

/-! # Which texts are base64url

Each sequence of bytes has one spelling without padding and one that is padded to a multiple of four. Main
statement: but for white space around them no other texts are read, and whatever is sent in place of one is
refused. -/

namespace PasskeySession.Text

namespace Base64Url
variable {c : Char} {cs ds es : List Char} {bs : Bytes} {n k : Nat} {text : String}

/-! ### Digits -/

theorem digit_of_value? (h : value? c = some n) : n < 64 ∧ digit n = c := by
  have small : ∀ m, c.toNat = m → Char.ofNat m = c := by
    rintro m rfl
    exact c.ofNat_toNat
  simp only [value?] at h
  split at h
  · cases h
    refine ⟨by omega, ?_⟩
    rw [digit, if_pos (by omega)]
    exact small _ (by omega)
  split at h
  · cases h
    refine ⟨by omega, ?_⟩
    rw [digit, if_neg (by omega), if_pos (by omega)]
    exact small _ (by omega)
  split at h
  · cases h
    refine ⟨by omega, ?_⟩
    rw [digit, if_neg (by omega), if_neg (by omega), if_pos (by omega)]
    exact small _ (by omega)
  split at h
  · rename_i hc
    cases h
    exact ⟨by decide, hc.symm⟩
  split at h
  · rename_i hc
    cases h
    exact ⟨by decide, hc.symm⟩
  · cases h

/-- What reads as bytes is how they are written. -/
theorem encode_of_decodeBare? (h : decodeBare? cs = some bs) : encode bs = cs := by
  induction cs using decodeBare?.induct generalizing bs with
  | case1 =>
    cases h
    rfl
  | case2 => cases h
  | case3 a b =>
    simp only [decodeBare?, Option.bind_eq_bind, Option.bind_eq_some_iff] at h
    obtain ⟨x, hx, y, hy, h⟩ := h
    split at h
    · cases h
      obtain ⟨hx, rfl⟩ := digit_of_value? hx
      obtain ⟨hy, rfl⟩ := digit_of_value? hy
      have hbyte : (UInt8.ofNat (x * 4 + y / 16)).toNat = x * 4 + y / 16 := toNat_byte (by omega)
      have hfirst : (x * 4 + y / 16) / 4 = x := by omega
      have hsecond : (x * 4 + y / 16) % 4 * 16 = y := by omega
      rw [encode, hbyte, hfirst, hsecond]
    · cases h
  | case4 a b c =>
    simp only [decodeBare?, Option.bind_eq_bind, Option.bind_eq_some_iff] at h
    obtain ⟨x, hx, y, hy, z, hz, h⟩ := h
    split at h
    · cases h
      obtain ⟨hx, rfl⟩ := digit_of_value? hx
      obtain ⟨hy, rfl⟩ := digit_of_value? hy
      obtain ⟨hz, rfl⟩ := digit_of_value? hz
      have hbyte : (UInt8.ofNat (x * 4 + y / 16)).toNat = x * 4 + y / 16 := toNat_byte (by omega)
      have hnext : (UInt8.ofNat (y % 16 * 16 + z / 4)).toNat = y % 16 * 16 + z / 4 := toNat_byte (by omega)
      have hfirst : (x * 4 + y / 16) / 4 = x := by omega
      have hsecond : (x * 4 + y / 16) % 4 * 16 + (y % 16 * 16 + z / 4) / 16 = y := by omega
      have hthird : (y % 16 * 16 + z / 4) % 16 * 4 = z := by omega
      rw [encode, hbyte, hnext, hfirst, hsecond, hthird]
    · cases h
  | case5 a b c d cs ih =>
    simp only [decodeBare?, Option.bind_eq_bind, Option.bind_eq_some_iff] at h
    obtain ⟨x, hx, y, hy, z, hz, w, hw, bs', hbs, h⟩ := h
    cases h
    obtain ⟨hx, rfl⟩ := digit_of_value? hx
    obtain ⟨hy, rfl⟩ := digit_of_value? hy
    obtain ⟨hz, rfl⟩ := digit_of_value? hz
    obtain ⟨hw, rfl⟩ := digit_of_value? hw
    have hbyte : (UInt8.ofNat (x * 4 + y / 16)).toNat = x * 4 + y / 16 := toNat_byte (by omega)
    have hnext : (UInt8.ofNat (y % 16 * 16 + z / 4)).toNat = y % 16 * 16 + z / 4 := toNat_byte (by omega)
    have hlast : (UInt8.ofNat (z % 4 * 64 + w)).toNat = z % 4 * 64 + w := toNat_byte (by omega)
    have hfirst : (x * 4 + y / 16) / 4 = x := by omega
    have hsecond : (x * 4 + y / 16) % 4 * 16 + (y % 16 * 16 + z / 4) / 16 = y := by omega
    have hthird : (y % 16 * 16 + z / 4) % 16 * 4 + (z % 4 * 64 + w) / 64 = z := by omega
    have hfourth : (z % 4 * 64 + w) % 64 = w := by omega
    rw [encode, hbyte, hnext, hlast, hfirst, hsecond, hthird, hfourth, ih hbs]

/-! ### Spellings -/

/-- How many signs of padding fill up the characters of bytes to a multiple of four. -/
def missing (bs : Bytes) : Nat := (4 - (encode bs).length % 4) % 4

/-- The characters of bytes, padded to a multiple of four. -/
def padded (bs : Bytes) : List Char := encode bs ++ List.replicate (missing bs) '='

/-- A text spells bytes, but for white space around it, by their characters, padded or not. -/
def Spells (text : String) (bs : Bytes) : Prop := trim text.toList = encode bs ∨ trim text.toList = padded bs

theorem length_encode_mod (bs : Bytes) : (encode bs).length % 4 ≠ 1 := by
  induction bs using encode.induct with
  | case1 | case2 | case3 => simp [encode]
  | case4 a b c bs ih =>
    simp only [encode, List.length_cons]
    omega

theorem missing_le (bs : Bytes) : missing bs ≤ 2 := by
  have := length_encode_mod bs
  unfold missing
  omega

theorem length_padded (bs : Bytes) : (padded bs).length = (encode bs).length + missing bs := by
  rw [padded, List.length_append, List.length_replicate]

theorem length_padded_mod (bs : Bytes) : (padded bs).length % 4 = 0 := by
  rw [length_padded, missing]
  omega

theorem dropEndWhile_encode (bs : Bytes) (k : Nat) :
    dropEndWhile (· == '=') (encode bs ++ List.replicate k '=') = encode bs := by
  rw [dropEndWhile_append_replicate (by decide), dropEndWhile_eq_self fun c hc => (plain_encode bs c hc).padding]

theorem decodeChars?_encode (bs : Bytes) : decodeChars? (encode bs) = some bs := by
  have hbare := dropEndWhile_encode bs 0
  rw [List.replicate_zero, List.append_nil] at hbare
  rw [decodeChars?, hbare, Nat.sub_self]
  exact decodeBare?_encode bs

theorem decodeChars?_padded (bs : Bytes) : decodeChars? (padded bs) = some bs := by
  have hbare : dropEndWhile (· == '=') (padded bs) = encode bs := dropEndWhile_encode bs (missing bs)
  have hpadding : (padded bs).length - (encode bs).length = missing bs := by
    rw [length_padded]
    omega
  rw [decodeChars?, hbare, hpadding]
  split
  · rename_i hnone
    rw [padded, hnone, List.replicate_zero, List.append_nil]
    exact decodeBare?_encode bs
  · rw [if_pos ⟨missing_le bs, length_padded_mod bs⟩]
    exact decodeBare?_encode bs

theorem decodeChars?_eq_some_iff : decodeChars? cs = some bs ↔ cs = encode bs ∨ cs = padded bs := by
  constructor
  · intro h
    obtain ⟨k, hk⟩ := exists_replicate '=' cs
    have hlength := congrArg List.length hk
    rw [List.length_append, List.length_replicate] at hlength
    simp only [decodeChars?] at h
    split at h
    · exact Or.inl (encode_of_decodeBare? h).symm
    split at h
    · rename_i hpadding
      have hbare := encode_of_decodeBare? h
      rw [← hbare] at hk hlength hpadding
      -- No more than two signs fill up to a multiple of four, so there are as many as are missing.
      have hcount : k = missing bs := by
        unfold missing
        omega
      rw [padded, ← hcount]
      exact Or.inr hk
    · cases h
  · rintro (rfl | rfl)
    · exact decodeChars?_encode bs
    · exact decodeChars?_padded bs

theorem decode?_eq_some_iff : decode? text = some bs ↔ Spells text bs := decodeChars?_eq_some_iff

/-! ### Texts that spell nothing -/

theorem Spells.exists_padding (h : Spells text bs) :
    ∃ k, trim text.toList = encode bs ++ List.replicate k '=' ∧ (k = 0 ∨ k = missing bs) := by
  rcases h with h | h
  · exact ⟨0, by simpa using h, Or.inl rfl⟩
  · exact ⟨missing bs, h, Or.inr rfl⟩

/-- A text that spells bytes is made of digits and padding. -/
theorem Spells.digit_of_mem (h : Spells text bs) (hc : c ∈ trim text.toList) : c = '=' ∨ ∃ n < 64, digit n = c := by
  obtain ⟨k, hk, -⟩ := h.exists_padding
  rw [hk, List.mem_append] at hc
  rcases hc with hc | hc
  · exact Or.inr (exists_digit bs c hc)
  · exact Or.inl (List.eq_of_mem_replicate hc)

/-- What stands before the padding is what the bytes are written as. -/
theorem Spells.eq_encode (h : Spells text bs) (hn : n < 64)
    (hk : trim text.toList = ds ++ digit n :: List.replicate k '=') : encode bs = ds ++ [digit n] := by
  obtain ⟨j, hj, -⟩ := h.exists_padding
  have same : encode bs ++ List.replicate j '=' = ds ++ [digit n] ++ List.replicate k '=' := by
    rw [← hj, hk, List.append_assoc, List.singleton_append]
  have bare := congrArg (dropEndWhile (· == '=')) same
  rwa [dropEndWhile_encode, dropEndWhile_append_replicate (by decide),
    dropEndWhile_append_of_neg (p := (· == '=')) (plain_digit hn).padding] at bare

/-- Behind a sign of padding stands nothing else. -/
theorem Spells.eq_padding (h : Spells text bs) (hk : trim text.toList = ds ++ '=' :: es) : ∀ c ∈ es, c = '=' := by
  obtain ⟨k, hj, -⟩ := h.exists_padding
  have plain : '=' ∉ encode bs := fun hmem => absurd (plain_encode bs '=' hmem).padding (by decide)
  intro c hc
  rw [hk, List.append_eq_append_iff] at hj
  obtain ⟨between, hbare, htail⟩ | ⟨between, -, htail⟩ := hj
  · cases between with
    | nil => exact List.eq_of_mem_replicate (htail ▸ List.mem_cons_of_mem '=' hc)
    | cons d between =>
      obtain ⟨rfl, -⟩ := List.cons.inj htail
      exact absurd (hbare ▸ List.mem_append_right ds List.mem_cons_self) plain
  · have hmem : c ∈ between ++ '=' :: es := List.mem_append_right between (List.mem_cons_of_mem '=' hc)
    exact List.eq_of_mem_replicate (htail ▸ hmem)

theorem digit_inj {m n : Nat} (hm : m < 64) (hn : n < 64) (h : digit m = digit n) : m = n := by
  have := congrArg value? h
  rwa [value?_digit m hm, value?_digit n hn, Option.some.injEq] at this

/-- The bits that are left over at the end of the last digit are nought. -/
theorem last_digit (hn : n < 64) (h : encode bs = ds ++ [digit n]) :
    (ds.length % 4 = 1 → n % 16 = 0) ∧ (ds.length % 4 = 2 → n % 4 = 0) := by
  induction bs using encode.induct generalizing ds with
  | case1 => simp [encode] at h
  | case2 a =>
    have h : [digit (a.toNat / 4)] ++ [digit (a.toNat % 4 * 16)] = ds ++ [digit n] := h
    obtain ⟨rfl, hlast⟩ := List.append_inj' h rfl
    have := digit_inj (by omega) hn (List.singleton_inj.mp hlast)
    simp only [List.length_cons, List.length_nil]
    omega
  | case3 a b =>
    have h : [digit (a.toNat / 4), digit (a.toNat % 4 * 16 + b.toNat / 16)] ++ [digit (b.toNat % 16 * 4)] =
      ds ++ [digit n] := h
    obtain ⟨rfl, hlast⟩ := List.append_inj' h rfl
    have := digit_inj (by omega) hn (List.singleton_inj.mp hlast)
    simp only [List.length_cons, List.length_nil]
    omega
  | case4 a b c bs ih =>
    rcases ds with - | ⟨x, - | ⟨y, - | ⟨z, - | ⟨w, ds⟩⟩⟩⟩
    case cons.cons.cons.cons =>
      simp only [encode, List.cons_append, List.cons.injEq] at h
      have := ih h.2.2.2.2
      simp only [List.length_cons]
      omega
    all_goals simp [encode] at h ⊢

/-! ### Reading is strict -/

/-- Nothing is read from a text, and what is sent as it, a challenge or the name of a user, is an unusable answer. -/
structure Refused (text : String) : Prop where
  unread : decode? text = none
  challenge : ∀ c : PasskeyChallenge, c.challenge = text → c.bytes = .error (.invalidAnswer .badBase64)
  name : ∀ (c : PasskeyChallenge) user, c.user = some user → user.id = text →
    c.nameFor "" = .error (.invalidAnswer .badBase64)

theorem refused_of_unread (h : decode? text = none) : Refused text where
  unread := h
  challenge := by
    rintro c rfl
    rw [PasskeyChallenge.bytes, h]
  name := by
    rintro c user huser rfl
    have hempty : "".isEmpty = true := rfl
    simp only [PasskeyChallenge.nameFor, huser, hempty, h]

theorem refused_of (h : ∀ bs, ¬ Spells text bs) : Refused text :=
  refused_of_unread (Option.eq_none_iff_forall_ne_some.mpr fun bs hbs => h bs (decode?_eq_some_iff.mp hbs))

/-- Which texts are read, and what is refused among the others. -/
structure Strict (text : String) : Prop where
  read_iff : ∀ bs, decode? text = some bs ↔ Spells text bs
  challenge_iff : ∀ c : PasskeyChallenge, c.challenge = text → ∀ bs, c.bytes = .ok bs ↔ Spells text bs
  refused : (∀ bs, ¬ Spells text bs) → Refused text
  /-- The standard alphabet. -/
  standard : '+' ∈ trim text.toList ∨ '/' ∈ trim text.toList → Refused text
  /-- White space inside the text. -/
  blank : (∃ c ∈ trim text.toList, isBlank c = true) → Refused text
  /-- One character more than a multiple of four. -/
  single : (trim text.toList).length % 4 = 1 → Refused text
  /-- Bits that are left over and not nought. -/
  bits : ∀ ds n k, trim text.toList = ds ++ digit n :: List.replicate k '=' → n < 64 →
    (ds.length % 4 = 1 ∧ n % 16 ≠ 0 ∨ ds.length % 4 = 2 ∧ n % 4 ≠ 0) → Refused text
  /-- Too little or too much padding. -/
  padding : ∀ bs k, trim text.toList = encode bs ++ List.replicate k '=' → k ≠ 0 → k ≠ missing bs → Refused text
  /-- Padding inside the text. -/
  inside : ∀ ds es c, trim text.toList = ds ++ '=' :: es → c ∈ es → c ≠ '=' → Refused text

theorem strict (text : String) : Strict text where
  read_iff _ := decode?_eq_some_iff
  challenge_iff := by
    rintro c rfl bs
    rw [← decode?_eq_some_iff, PasskeyChallenge.bytes]
    cases decode? c.challenge <;> simp
  refused := refused_of
  standard := by
    have foreign : ∀ n < 64, digit n ≠ '+' ∧ digit n ≠ '/' := by decide
    intro h
    refine refused_of fun bs hbs => ?_
    rcases h with h | h
    · rcases hbs.digit_of_mem h with hc | ⟨n, hn, hc⟩
      · cases hc
      · exact (foreign n hn).1 hc
    · rcases hbs.digit_of_mem h with hc | ⟨n, hn, hc⟩
      · cases hc
      · exact (foreign n hn).2 hc
  blank := by
    rintro ⟨c, hc, hblank⟩
    refine refused_of fun bs hbs => ?_
    rcases hbs.digit_of_mem hc with rfl | ⟨n, hn, rfl⟩
    · cases hblank
    · cases (plain_digit hn).blank.symm.trans hblank
  single := by
    intro h
    refine refused_of fun bs hbs => ?_
    rcases hbs with hbs | hbs
    · exact length_encode_mod bs (hbs ▸ h)
    · have := length_padded_mod bs
      rw [hbs] at h
      omega
  bits := by
    intro ds n k hk hn hbits
    refine refused_of fun bs hbs => ?_
    have := last_digit hn (hbs.eq_encode hn hk)
    omega
  padding := by
    intro bs k hk hne hmissing
    refine refused_of fun other hbs => ?_
    obtain ⟨j, hj, hcount⟩ := hbs.exists_padding
    have same : encode other ++ List.replicate j '=' = encode bs ++ List.replicate k '=' := hj.symm.trans hk
    have bare := congrArg (dropEndWhile (· == '=')) same
    rw [dropEndWhile_encode, dropEndWhile_encode] at bare
    rw [bare, List.append_cancel_left_eq] at same
    have count := congrArg List.length same
    rw [List.length_replicate, List.length_replicate] at count
    unfold missing at hcount hmissing
    rw [bare] at hcount
    omega
  inside := by
    intro ds es c hk hc hne
    exact refused_of fun bs hbs => hne (hbs.eq_padding hk c hc)

theorem decode?_ofList_padded (bs : Bytes) : decode? (String.ofList (padded bs)) = some bs := by
  have hblank : ∀ c ∈ padded bs, isBlank c = false := by
    intro c hc
    rcases List.mem_append.mp hc with hc | hc
    · exact (plain_encode bs c hc).blank
    · rw [List.eq_of_mem_replicate hc]
      decide
  rw [decode?, String.toList_ofList, trim_eq_self hblank, decodeChars?_padded]

/-- Bytes are read from either of their spellings, and from no text besides. -/
theorem decode?_strict : (∀ bs, decode? (encodeText bs) = some bs ∧ decode? (String.ofList (padded bs)) = some bs) ∧
    ∀ text, Strict text :=
  ⟨fun bs => ⟨decode?_encodeText bs, decode?_ofList_padded bs⟩, strict⟩

example : decode? " AQI=\n" = some [1, 2] ∧ decode? "AQI" = some [1, 2] ∧ decode? "AQJ" = none := by decide +kernel

end Base64Url
end PasskeySession.Text
