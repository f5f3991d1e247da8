import PasskeySession.Text.Utf8

/-! # UTF-8 reads back

The bytes of a text are read as its characters, whatever these are: a first byte tells how many bytes follow it,
and the bounds of the second leave out nothing but what is no character. -/

namespace PasskeySession.Text

/-! ### Characters of one byte -/

section
variable {cs : List Char}

theorem utf8_cons (c : Char) (cs : List Char) : utf8 (c :: cs) = String.utf8EncodeChar c ++ utf8 cs :=
  List.flatMap_cons

theorem utf8_append (cs ds : List Char) : utf8 (cs ++ ds) = utf8 cs ++ utf8 ds := List.flatMap_append

theorem toNat_byte {n : Nat} (h : n < 256) : (UInt8.ofNat n).toNat = n := UInt8.toNat_ofNat_of_lt' h

theorem utf8EncodeChar_ascii {c : Char} (h : c.toNat < 128) : String.utf8EncodeChar c = [UInt8.ofNat c.toNat] := by
  have hsize : c.utf8Size = 1 := Char.utf8Size_eq_one_iff.mpr (UInt32.le_iff_toNat_le.mpr (by
    change c.toNat ≤ 127
    omega))
  rw [String.utf8EncodeChar_eq_singleton hsize]
  rfl

theorem utf8_ascii (h : ∀ c ∈ cs, c.toNat < 128) : utf8 cs = cs.map fun c => UInt8.ofNat c.toNat := by
  induction cs with
  | nil => rfl
  | cons c cs ih =>
    rw [utf8_cons, utf8EncodeChar_ascii (h c List.mem_cons_self), ih fun d hd => h d (List.mem_cons_of_mem c hd)]
    rfl

theorem Utf8.next_ascii {c : Char} (h : c.toNat < 128) (bs : Bytes) :
    next (UInt8.ofNat c.toNat) bs = (some c, bs) := by
  have hbyte : (UInt8.ofNat c.toNat).toNat = c.toNat := toNat_byte (by omega)
  rw [next, hbyte, if_pos h, Char.ofNat_toNat]

end

/-! ### Characters of several bytes -/

namespace Utf8
variable {b : UInt8} {bs rest : Bytes} {low high more acc n : Nat} {c : Char}

theorem continuation_cons (hlow : low ≤ b.toNat) (hhigh : b.toNat ≤ high) :
    continuation low high (more + 1) acc (b :: bs) = continuation 0x80 0xBF more (acc * 64 + b.toNat % 64) bs :=
  if_pos ⟨hlow, hhigh⟩

/-- What the first byte of a character says of the bytes behind it. -/
structure Leads (b : UInt8) (low high more : Nat) : Prop where
  beyond : ¬ b.toNat < 0x80
  shape : shape? b = some (low, high, more)

theorem Leads.next (h : Leads b low high more)
    (hrest : continuation low high more (leadBits b more) bs = (some c.toNat, rest)) : next b bs = (some c, rest) := by
  rw [Utf8.next, if_neg h.beyond, h.shape]
  simp only [hrest, Char.ofNat_toNat]

theorem leads_two (hn : 0x80 ≤ n) (hn' : n < 0x800) : Leads (UInt8.ofNat (n / 64 % 32 + 192)) 0x80 0xBF 1 := by
  have hb := toNat_byte (n := n / 64 % 32 + 192) (by omega)
  refine ⟨by omega, ?_⟩
  simp only [shape?, hb]
  rw [if_pos (by omega)]

/-- The second byte of three leaves out what two would do for, and halves of characters. -/
theorem leads_three (hn : 0x800 ≤ n) (hn' : n < 0x10000) (hhalf : n < 0xD800 ∨ 0xDFFF < n) :
    ∃ low high, Leads (UInt8.ofNat (n / 4096 % 16 + 224)) low high 2 ∧
      low ≤ n / 64 % 64 + 128 ∧ n / 64 % 64 + 128 ≤ high := by
  have hb := toNat_byte (n := n / 4096 % 16 + 224) (by omega)
  have hbeyond : ¬ (UInt8.ofNat (n / 4096 % 16 + 224)).toNat < 0x80 := by omega
  by_cases hfirst : n / 4096 = 0
  · refine ⟨0xA0, 0xBF, ⟨hbeyond, ?_⟩, by omega, by omega⟩
    simp only [shape?, hb]
    rw [if_neg (by omega), if_pos (by omega)]
  by_cases hhalves : n / 4096 = 13
  · refine ⟨0x80, 0x9F, ⟨hbeyond, ?_⟩, by omega, by omega⟩
    simp only [shape?, hb]
    rw [if_neg (by omega), if_neg (by omega), if_pos (by omega)]
  · refine ⟨0x80, 0xBF, ⟨hbeyond, ?_⟩, by omega, by omega⟩
    simp only [shape?, hb]
    rw [if_neg (by omega), if_neg (by omega), if_neg (by omega), if_pos (by omega)]

/-- The second byte of four leaves out what three would do for, and what is beyond all characters. -/
theorem leads_four (hn : 0x10000 ≤ n) (hn' : n < 0x110000) :
    ∃ low high, Leads (UInt8.ofNat (n / 262144 % 8 + 240)) low high 3 ∧
      low ≤ n / 4096 % 64 + 128 ∧ n / 4096 % 64 + 128 ≤ high := by
  have hb := toNat_byte (n := n / 262144 % 8 + 240) (by omega)
  have hbeyond : ¬ (UInt8.ofNat (n / 262144 % 8 + 240)).toNat < 0x80 := by omega
  by_cases hfirst : n / 262144 = 0
  · refine ⟨0x90, 0xBF, ⟨hbeyond, ?_⟩, by omega, by omega⟩
    simp only [shape?, hb]
    rw [if_neg (by omega), if_neg (by omega), if_neg (by omega), if_neg (by omega), if_pos (by omega)]
  by_cases hlast : n / 262144 = 4
  · refine ⟨0x80, 0x8F, ⟨hbeyond, ?_⟩, by omega, by omega⟩
    simp only [shape?, hb]
    rw [if_neg (by omega), if_neg (by omega), if_neg (by omega), if_neg (by omega), if_neg (by omega),
      if_neg (by omega), if_pos (by omega)]
  · refine ⟨0x80, 0xBF, ⟨hbeyond, ?_⟩, by omega, by omega⟩
    simp only [shape?, hb]
    rw [if_neg (by omega), if_neg (by omega), if_neg (by omega), if_neg (by omega), if_neg (by omega),
      if_pos (by omega)]

/-- The bytes of a character are read as the character. -/
theorem next_encodeChar (c : Char) (bs : Bytes) :
    ∃ b more, String.utf8EncodeChar c = b :: more ∧ next b (more ++ bs) = (some c, bs) := by
  have hvalid : c.toNat < 0xD800 ∨ 0xDFFF < c.toNat ∧ c.toNat < 0x110000 := c.valid
  have hval : c.val.toNat = c.toNat := rfl
  have hlast := toNat_byte (n := c.toNat % 64 + 128) (by omega)
  have hsecond := toNat_byte (n := c.toNat / 64 % 64 + 128) (by omega)
  have hfirst := toNat_byte (n := c.toNat / 4096 % 64 + 128) (by omega)
  by_cases hone : c.toNat < 0x80
  · exact ⟨UInt8.ofNat c.toNat, [], utf8EncodeChar_ascii hone, next_ascii hone bs⟩
  by_cases htwo : c.toNat < 0x800
  · have hlead := toNat_byte (n := c.toNat / 64 % 32 + 192) (by omega)
    have hread : leadBits (UInt8.ofNat (c.toNat / 64 % 32 + 192)) 1 * 64 + (c.toNat % 64 + 128) % 64 = c.toNat := by
      change (UInt8.ofNat (c.toNat / 64 % 32 + 192)).toNat % 32 * 64 + _ = _
      omega
    refine ⟨_, [UInt8.ofNat (c.toNat % 64 + 128)], ?_, (leads_two (n := c.toNat) (by omega) htwo).next ?_⟩
    · simp only [String.utf8EncodeChar, hval]
      rw [if_neg (by omega), if_pos (by omega)]
    · rw [List.singleton_append, continuation_cons (by omega) (by omega), hlast, hread, continuation]
  by_cases hthree : c.toNat < 0x10000
  · obtain ⟨low, high, hleads, hlow, hhigh⟩ := leads_three (n := c.toNat) (by omega) hthree (by omega)
    have hlead := toNat_byte (n := c.toNat / 4096 % 16 + 224) (by omega)
    have hread : (leadBits (UInt8.ofNat (c.toNat / 4096 % 16 + 224)) 2 * 64 + (c.toNat / 64 % 64 + 128) % 64) * 64 +
        (c.toNat % 64 + 128) % 64 = c.toNat := by
      change ((UInt8.ofNat (c.toNat / 4096 % 16 + 224)).toNat % 16 * 64 + _) * 64 + _ = _
      omega
    refine ⟨_, [UInt8.ofNat (c.toNat / 64 % 64 + 128), UInt8.ofNat (c.toNat % 64 + 128)], ?_, hleads.next ?_⟩
    · simp only [String.utf8EncodeChar, hval]
      rw [if_neg (by omega), if_neg (by omega), if_pos (by omega)]
    · simp only [List.cons_append, List.nil_append]
      rw [continuation_cons (by omega) (by omega), continuation_cons (by omega) (by omega), hsecond, hlast, hread,
        continuation]
  · obtain ⟨low, high, hleads, hlow, hhigh⟩ := leads_four (n := c.toNat) (by omega) (by omega)
    have hlead := toNat_byte (n := c.toNat / 262144 % 8 + 240) (by omega)
    have hread : ((leadBits (UInt8.ofNat (c.toNat / 262144 % 8 + 240)) 3 * 64 + (c.toNat / 4096 % 64 + 128) % 64) * 64 +
        (c.toNat / 64 % 64 + 128) % 64) * 64 + (c.toNat % 64 + 128) % 64 = c.toNat := by
      change (((UInt8.ofNat (c.toNat / 262144 % 8 + 240)).toNat % 8 * 64 + _) * 64 + _) * 64 + _ = _
      omega
    refine ⟨_, [UInt8.ofNat (c.toNat / 4096 % 64 + 128), UInt8.ofNat (c.toNat / 64 % 64 + 128),
      UInt8.ofNat (c.toNat % 64 + 128)], ?_, hleads.next ?_⟩
    · simp only [String.utf8EncodeChar, hval]
      rw [if_neg (by omega), if_neg (by omega), if_neg (by omega)]
    · simp only [List.cons_append, List.nil_append]
      rw [continuation_cons (by omega) (by omega), continuation_cons (by omega) (by omega),
        continuation_cons (by omega) (by omega), hfirst, hsecond, hlast, hread, continuation]

theorem scan_utf8 (cs : List Char) : scan (utf8 cs) = cs.map some := by
  induction cs with
  | nil => rw [utf8, List.flatMap_nil, scan, List.map_nil]
  | cons c cs ih =>
    obtain ⟨b, more, hbytes, hnext⟩ := next_encodeChar c (utf8 cs)
    rw [utf8_cons, hbytes, List.cons_append, scan, hnext, ih, List.map_cons]

/-- The characters of a text are read from its bytes. -/
theorem decode?_utf8 (cs : List Char) : decode? (utf8 cs) = some cs := by
  rw [decode?, scan_utf8]
  induction cs with
  | nil => rfl
  | cons c cs ih =>
    rw [List.map_cons, List.mapM_cons, ih]
    rfl

end Utf8

/-! ### Places in a text -/

section
variable {c : Char} {cs ds : List Char}

/-- No character begins in the middle of another, so the bytes of texts are in front of each other as the texts are. -/
theorem utf8_prefix_iff : utf8 ds <+: utf8 cs ↔ ds <+: cs := by
  constructor
  · intro h
    induction ds generalizing cs with
    | nil => exact List.nil_prefix
    | cons d ds ih =>
      obtain ⟨rest, hrest⟩ := h
      obtain ⟨b, more, hd, hnext⟩ := Utf8.next_encodeChar d (utf8 ds ++ rest)
      rw [utf8_cons, hd, List.append_assoc, List.cons_append] at hrest
      cases cs with
      | nil => cases hrest
      | cons c cs =>
        obtain ⟨b', more', hc, hnext'⟩ := Utf8.next_encodeChar c (utf8 cs)
        rw [utf8_cons, hc, List.cons_append] at hrest
        obtain ⟨rfl, htail⟩ := List.cons.inj hrest
        rw [htail, hnext', Prod.mk.injEq, Option.some.injEq] at hnext
        obtain ⟨rfl, hrest⟩ := hnext
        exact List.cons_prefix_cons.mpr ⟨rfl, ih ⟨rest, hrest.symm⟩⟩
  · rintro ⟨rest, rfl⟩
    exact ⟨utf8 rest, (utf8_append ds rest).symm⟩

theorem le_of_mem_encodeChar (hc : 128 ≤ c.toNat) : ∀ b ∈ String.utf8EncodeChar c, 128 ≤ b.toNat := by
  have large {n : Nat} (hlow : 128 ≤ n) (hhigh : n < 256) : 128 ≤ (UInt8.ofNat n).toNat := by
    rwa [toNat_byte hhigh]
  have hval : c.val.toNat = c.toNat := rfl
  simp only [String.utf8EncodeChar, hval]
  rw [if_neg (by omega)]
  split
  · simp only [List.forall_mem_cons]
    exact ⟨large (by omega) (by omega), large (by omega) (by omega), List.forall_mem_nil _⟩
  split
  · simp only [List.forall_mem_cons]
    exact ⟨large (by omega) (by omega), large (by omega) (by omega), large (by omega) (by omega),
      List.forall_mem_nil _⟩
  · simp only [List.forall_mem_cons]
    exact ⟨large (by omega) (by omega), large (by omega) (by omega), large (by omega) (by omega),
      large (by omega) (by omega), List.forall_mem_nil _⟩

/-- A byte of ASCII stands for its character and in no other. -/
theorem eq_of_mem_encodeChar {d : Char} (hd : d.toNat < 128) (h : UInt8.ofNat d.toNat ∈ String.utf8EncodeChar c) :
    c = d := by
  have hbyte : (UInt8.ofNat d.toNat).toNat = d.toNat := toNat_byte (by omega)
  by_cases hc : c.toNat < 128
  · rw [utf8EncodeChar_ascii hc, List.mem_singleton] at h
    rw [h, toNat_byte (by omega)] at hbyte
    exact Char.toNat_inj.mp hbyte
  · have := le_of_mem_encodeChar (by omega) _ h
    omega

end
end PasskeySession.Text
