import PasskeySession.Proofs.Text.Digits
import PasskeySession.Proofs.Text.Letters

/-! # One text for each identifier

A text reads as an identifier exactly if, without the white space around it and in lower case, it is what the
identifier is written as. So two texts name one identifier exactly if they differ in nothing but the case of
letters and the white space around them, and identifiers stand in the order of their texts. -/

namespace PasskeySession

namespace Text
variable {c : Char} {cs : List Char} {as bs : Bytes} {n : Nat}

/-! ### Digits -/

/-- A hexadecimal digit of either case. -/
def HexDigit (c : Char) : Prop := c ∈ "0123456789abcdefABCDEF".toList

/-- What a hexadecimal digit is worth: the place of its lower-case form among the digits. -/
def digitValue (c : Char) : Nat := "0123456789abcdef".toList.idxOf c.toLower

theorem toNat_hexDigit : ∀ n < 16, (hexDigit n).toNat = if n < 10 then n + 48 else n + 87 := by decide

theorem idxOf_hexDigit : ∀ n < 16, "0123456789abcdef".toList.idxOf (hexDigit n) = n := by decide

theorem hexDigit_lt_iff : ∀ m < 16, ∀ n < 16, hexDigit m < hexDigit n ↔ m < n := by decide

theorem hexDigit_inj : ∀ m < 16, ∀ n < 16, hexDigit m = hexDigit n ↔ m = n := by decide

theorem digitValue_of_toLower (hn : n < 16) (h : c.toLower = hexDigit n) : digitValue c = n := by
  rw [digitValue, h, idxOf_hexDigit n hn]

theorem hexDigit_iff_toNat : HexDigit c ↔
    48 ≤ c.toNat ∧ c.toNat ≤ 57 ∨ 97 ≤ c.toNat ∧ c.toNat ≤ 102 ∨ 65 ≤ c.toNat ∧ c.toNat ≤ 70 := by
  have hdigits : "0123456789abcdefABCDEF".toList = ['0', '1', '2', '3', '4', '5', '6', '7', '8', '9',
    'a', 'b', 'c', 'd', 'e', 'f', 'A', 'B', 'C', 'D', 'E', 'F'] := rfl
  rw [HexDigit, hdigits]
  simp only [List.mem_cons, ← Char.toNat_inj, Char.reduceToNat, List.not_mem_nil, or_false]
  omega

theorem exists_hexValue?_iff : (∃ n, hexValue? c = some n) ↔ HexDigit c := by
  rw [hexDigit_iff_toNat, ← Option.isSome_iff_exists]
  unfold hexValue?
  grind

theorem hexValue?_eq_some_iff : hexValue? c = some n ↔ n < 16 ∧ c.toLower = hexDigit n := by
  constructor
  · intro h
    have hn : n < 16 := by
      unfold hexValue? at h
      grind
    refine ⟨hn, ?_⟩
    rw [← Char.toNat_inj, toNat_toLower, toNat_hexDigit n hn]
    unfold hexValue? at h
    grind
  · rintro ⟨hn, hc⟩
    rw [← hexValue?_toLower, hc, hexValue?_hexDigit n hn]

/-! ### Pairs of digits -/

theorem toHex_of_halves {hi lo : Nat} (hhi : hi < 16) (hlo : lo < 16) (bs : Bytes) :
    toHex (UInt8.ofNat (hi * 16 + lo) :: bs) = hexDigit hi :: hexDigit lo :: toHex bs := by
  have hbyte : (UInt8.ofNat (hi * 16 + lo)).toNat = hi * 16 + lo := by
    rw [UInt8.toNat_ofNat']
    omega
  have hdiv : (hi * 16 + lo) / 16 = hi := by omega
  have hmod : (hi * 16 + lo) % 16 = lo := by omega
  rw [toHex, hbyte, hdiv, hmod]

/-- Digits are read as the bytes that in lower case they write. -/
theorem ofHex?_eq_some_iff : ofHex? cs = some bs ↔ cs.map Char.toLower = toHex bs := by
  constructor
  · intro h
    induction cs using ofHex?.induct generalizing bs with
    | case1 =>
      cases h
      rfl
    | case2 => cases h
    | case3 a b cs hi lo rest hrest hlo hhi ih =>
      rw [ofHex?, hhi, hlo, hrest] at h
      cases h
      obtain ⟨hhi, ha⟩ := hexValue?_eq_some_iff.mp hhi
      obtain ⟨hlo, hb⟩ := hexValue?_eq_some_iff.mp hlo
      rw [toHex_of_halves hhi hlo, List.map_cons, List.map_cons, ha, hb, ih hrest]
    | case4 a b cs hnone ih =>
      rw [ofHex?] at h
      split at h
      · rename_i hi lo rest hhi hlo hrest
        exact absurd hrest (hnone hi lo rest hhi hlo)
      · cases h
  · intro h
    rw [← ofHex?_map_toLower, h, ofHex?_toHex]

/-- Bytes are read from pairs of digits, one byte from each. -/
theorem exists_ofHex?_iff :
    (∃ bs, ofHex? cs = some bs ∧ bs.length = n) ↔ cs.length = 2 * n ∧ ∀ c ∈ cs, HexDigit c := by
  constructor
  · rintro ⟨bs, h, rfl⟩
    have hlower := ofHex?_eq_some_iff.mp h
    refine ⟨by rw [← length_toHex, ← hlower, List.length_map], fun c hc => ?_⟩
    obtain ⟨d, hd, heq⟩ := exists_of_mem_toHex (hlower ▸ List.mem_map_of_mem (f := Char.toLower) hc)
    exact exists_hexValue?_iff.mp ⟨d, hexValue?_eq_some_iff.mpr ⟨hd, heq⟩⟩
  · rintro ⟨hlen, hdigits⟩
    induction n generalizing cs with
    | zero =>
      obtain rfl := List.eq_nil_of_length_eq_zero hlen
      exact ⟨[], rfl, rfl⟩
    | succ n ih =>
      obtain ⟨a, b, rest, rfl⟩ : ∃ a b rest, cs = a :: b :: rest := by
        match cs, hlen with
        | a :: b :: rest, _ => exact ⟨a, b, rest, rfl⟩
      simp only [List.forall_mem_cons, List.length_cons] at hdigits hlen
      obtain ⟨hi, hhi⟩ := exists_hexValue?_iff.mpr hdigits.1
      obtain ⟨lo, hlo⟩ := exists_hexValue?_iff.mpr hdigits.2.1
      obtain ⟨bs, hbs, hcount⟩ := ih (by omega) hdigits.2.2
      exact ⟨UInt8.ofNat (hi * 16 + lo) :: bs, by rw [ofHex?, hhi, hlo, hbs], by rw [List.length_cons, hcount]⟩

/-- The digits of a byte stand at twice its place. -/
theorem getElem?_toHex (bs : Bytes) (i : Nat) :
    (toHex bs)[2 * i]? = bs[i]?.map (fun b => hexDigit (b.toNat / 16)) ∧
      (toHex bs)[2 * i + 1]? = bs[i]?.map (fun b => hexDigit (b.toNat % 16)) := by
  induction bs generalizing i with
  | nil => exact ⟨rfl, rfl⟩
  | cons b bs ih =>
    cases i with
    | zero => exact ⟨rfl, rfl⟩
    | succ i => exact ih i

/-- Each byte is what its two digits are worth together. -/
def Worth (ds : List Char) (bs : Bytes) : Prop :=
  ∀ i b, bs[i]? = some b → ∃ hi lo, ds[2 * i]? = some hi ∧ ds[2 * i + 1]? = some lo ∧
    b.toNat = digitValue hi * 16 + digitValue lo

theorem worth_of_ofHex? (h : ofHex? cs = some bs) : Worth cs bs := by
  intro i b hb
  have hlower := ofHex?_eq_some_iff.mp h
  obtain ⟨hhi, hlo⟩ := getElem?_toHex bs i
  rw [← hlower, hb, List.getElem?_map, Option.map_some] at hhi hlo
  obtain ⟨hi, hi?, hhi⟩ := Option.map_eq_some_iff.mp hhi
  obtain ⟨lo, lo?, hlo⟩ := Option.map_eq_some_iff.mp hlo
  have hbyte : b.toNat < 256 := b.toNat_lt
  refine ⟨hi, lo, hi?, lo?, ?_⟩
  rw [digitValue_of_toLower (by omega) hhi, digitValue_of_toLower (by omega) hlo]
  omega

end Text

namespace Word
variable {n : Nat} {cs ds : List Char} {bs : Bytes} {v w : Word n} {s t : String}

/-! ### Reading -/

theorem digits?_eq_some_iff : digits? cs = some ds ↔ cs = '0' :: 'x' :: ds ∨ cs = '0' :: 'X' :: ds := by
  unfold digits?
  split <;> simp_all

theorem ofBytes?_eq_some_iff : ofBytes? n bs = some w ↔ bs = w.bytes := by
  unfold ofBytes?
  split
  · rw [Option.some.injEq, Word.mk.injEq]
  · rename_i hlen
    refine iff_of_false (by rintro ⟨⟩) fun h => hlen ?_
    rw [h, w.size]

/-- The mark of base sixteen and two digits of either case for each byte. -/
structure Spells (n : Nat) (cs ds : List Char) : Prop where
  mark : cs = '0' :: 'x' :: ds ∨ cs = '0' :: 'X' :: ds
  length : ds.length = 2 * n
  digits : ∀ c ∈ ds, Text.HexDigit c

theorem ofChars?_eq_some_iff :
    ofChars? n cs = some w ↔ ∃ ds, digits? cs = some ds ∧ Text.ofHex? ds = some w.bytes := by
  simp only [ofChars?, Option.bind_eq_some_iff, ofBytes?_eq_some_iff]
  constructor
  · rintro ⟨ds, hds, bs, hbs, rfl⟩
    exact ⟨ds, hds, hbs⟩
  · rintro ⟨ds, hds, hbs⟩
    exact ⟨ds, hds, w.bytes, hbs, rfl⟩

theorem spells_iff : Spells n cs ds ↔ digits? cs = some ds ∧ ∃ bs, Text.ofHex? ds = some bs ∧ bs.length = n := by
  rw [digits?_eq_some_iff, Text.exists_ofHex?_iff]
  exact ⟨fun h => ⟨h.mark, h.length, h.digits⟩, fun h => ⟨h.1, h.2.1, h.2.2⟩⟩

theorem exists_ofChars?_iff : (∃ w, ofChars? n cs = some w) ↔ ∃ ds, Spells n cs ds := by
  simp only [ofChars?_eq_some_iff, spells_iff]
  constructor
  · rintro ⟨w, ds, hds, hbs⟩
    exact ⟨ds, hds, w.bytes, hbs, w.size⟩
  · rintro ⟨ds, hds, bs, hbs, hlen⟩
    exact ⟨⟨bs, hlen⟩, ds, hds, hbs⟩

/-- A word is read from what it is written as, with letters of either case. -/
theorem ofChars?_iff_toLower : ofChars? n cs = some w ↔ cs.map Char.toLower = w.chars := by
  constructor
  · intro h
    obtain ⟨ds, hds, hbs⟩ := ofChars?_eq_some_iff.mp h
    have hlower := Text.ofHex?_eq_some_iff.mp hbs
    rw [chars, ← hlower]
    rcases digits?_eq_some_iff.mp hds with rfl | rfl <;> rfl
  · intro h
    rw [← ofChars?_map_toLower, h, ofChars?_chars]

/-! ### Order -/

/-- The order of bytes is that of their digits. -/
theorem below_iff (as bs : Bytes) : below as bs = true ↔ ¬ Text.toHex bs < Text.toHex as := by
  induction as generalizing bs with
  | nil => simp [below, Text.toHex]
  | cons a as ih =>
    cases bs with
    | nil => simp [below, Text.toHex]
    | cons b bs =>
      have ha : a.toNat < 256 := a.toNat_lt
      have hb : b.toNat < 256 := b.toNat_lt
      simp only [below, Text.toHex, List.cons_lt_cons_iff, Bool.or_eq_true, Bool.and_eq_true, decide_eq_true_eq,
        beq_iff_eq, ih, UInt8.lt_iff_toNat_lt, ← UInt8.toNat_inj]
      rw [Text.hexDigit_lt_iff _ (by omega) _ (by omega), Text.hexDigit_lt_iff _ (by omega) _ (by omega),
        Text.hexDigit_inj _ (by omega) _ (by omega), Text.hexDigit_inj _ (by omega) _ (by omega)]
      -- The digits of the first byte decide, unless they are equal: then the rest does.
      by_cases hrest : Text.toHex bs < Text.toHex as
      · simp only [hrest, not_true_eq_false, and_false, and_true, or_false]
        omega
      · simp only [hrest, not_false_eq_true, and_false, and_true, or_false]
        omega

theorem le_iff_text_le (v w : Word n) : v.le w = true ↔ v.text ≤ w.text := by
  have htext : ∀ u : Word n, u.text.toList = '0' :: 'x' :: Text.toHex u.bytes := fun u => String.toList_ofList
  have hlt : w.text < v.text ↔ Text.toHex w.bytes < Text.toHex v.bytes := by
    change w.text.toList < v.text.toList ↔ _
    rw [htext, htext]
    simp
  rw [le, below_iff, ← hlt]
  rfl

/-! ### Identifiers -/

/-- What reading and writing an identifier come to. -/
structure Canonical (read : String → Except Fault (Word n)) (fault : String → Fault) : Prop where
  /-- Which texts are read. -/
  accepted_iff : ∀ s, (∃ w, read s = .ok w) ↔ ∃ ds, Spells n (Text.trim s.toList) ds
  /-- Any other text is the fault, as it was given. -/
  refused : ∀ s, (∀ ds, ¬ Spells n (Text.trim s.toList) ds) → read s = .error (fault s)
  bytes : ∀ s ds w, Spells n (Text.trim s.toList) ds → read s = .ok w → Text.Worth ds w.bytes
  /-- An identifier is shown in lower case. -/
  shown : ∀ s w, read s = .ok w → w.text.toList = (Text.trim s.toList).map Char.toLower
  /-- What is shown reads as the identifier. -/
  reread : ∀ w, read w.text = .ok w
  same_iff : ∀ s t v w, read s = .ok v → read t = .ok w →
    (v = w ↔ Text.Alike (Text.trim s.toList) (Text.trim t.toList))
  ordered : ∀ v w : Word n, v.le w = true ↔ v.text ≤ w.text

theorem canonical_of {read : String → Except Fault (Word n)} {fault : String → Fault}
    (hread : ∀ s, read s = (ofText? n s).elim (.error (fault s)) .ok) : Canonical read fault := by
  have hok : ∀ s w, read s = .ok w ↔ ofChars? n (Text.trim s.toList) = some w := by
    intro s w
    rw [hread, ofText?]
    cases ofChars? n (Text.trim s.toList) <;> simp
  have hlower : ∀ s w, read s = .ok w → (Text.trim s.toList).map Char.toLower = w.chars :=
    fun s w h => ofChars?_iff_toLower.mp ((hok s w).mp h)
  constructor
  case accepted_iff =>
    intro s
    simp only [hok, exists_ofChars?_iff]
  case refused =>
    intro s hs
    have hnone : ofText? n s = none := by
      refine Option.eq_none_iff_forall_ne_some.mpr fun w hw => ?_
      obtain ⟨ds, hds⟩ := exists_ofChars?_iff.mp ⟨w, hw⟩
      exact hs ds hds
    rw [hread, hnone]
    rfl
  case bytes =>
    intro s ds w hs hw
    obtain ⟨ds', hds', hbs⟩ := ofChars?_eq_some_iff.mp ((hok s w).mp hw)
    cases (spells_iff.mp hs).1.symm.trans hds'
    exact Text.worth_of_ofHex? hbs
  case shown =>
    intro s w hw
    rw [text, String.toList_ofList, hlower s w hw]
  case reread =>
    intro w
    rw [hread, ofText?_text]
    rfl
  case same_iff =>
    intro s t v w hv hw
    rw [Text.Alike, hlower s v hv, hlower t w hw]
    refine ⟨fun h => h ▸ rfl, fun h => ?_⟩
    have hread := ofChars?_chars v
    rw [h, ofChars?_chars] at hread
    exact (Option.some.inj hread).symm
  case ordered => exact le_iff_text_le

/-- Addresses, operation hashes and selectors are read and written alike. -/
theorem canonical_parse : Canonical Address.parse .address ∧ Canonical OperationHash.parse .hash ∧
    Canonical Selector.parse .selector := by
  refine ⟨canonical_of fun s => ?_, canonical_of fun s => ?_, canonical_of fun s => ?_⟩
  · rw [Address.parse]
    cases ofText? 20 s <;> rfl
  · rw [OperationHash.parse]
    cases ofText? 32 s <;> rfl
  · rw [Selector.parse]
    cases ofText? 4 s <;> rfl

example : Selector.parse " 0Xa9059CBB\n" = .ok ⟨[0xa9, 0x05, 0x9c, 0xbb], rfl⟩ ∧
    Selector.parse "0xa9059cb" = .error (.selector "0xa9059cb") := ⟨rfl, rfl⟩

end Word
end PasskeySession
