import PasskeySession.Proofs.Text.Digits
import PasskeySession.Proofs.Text.Utf8
import PasskeySession.Text.Base64Url

/-! # Base64url reads back

Bytes that are written in base64url are read back. Each character of theirs is one byte of ASCII, and none is white
space, padding or a quote. -/

namespace PasskeySession.Text

/-! ### The alphabet -/

namespace Base64Url

theorem value?_digit : ∀ n < 64, value? (digit n) = some n := by decide

/-- A character that stands for itself wherever a spelling is put. -/
structure Plain (c : Char) : Prop where
  ascii : c.toNat < 128
  blank : isBlank c = false
  padding : (c == '=') = false
  quote : c ≠ '"'

theorem plain_digit {n : Nat} (h : n < 64) : Plain (digit n) := by
  have table : ∀ n < 64, (digit n).toNat < 128 ∧ isBlank (digit n) = false ∧ (digit n == '=') = false ∧
      digit n ≠ '"' := by decide
  obtain ⟨hascii, hblank, hpadding, hquote⟩ := table n h
  exact ⟨hascii, hblank, hpadding, hquote⟩

/-- The characters of bytes are digits. -/
theorem exists_digit (bs : Bytes) : ∀ c ∈ encode bs, ∃ n < 64, digit n = c := by
  have here {n : Nat} (h : n < 64) : ∃ m < 64, digit m = digit n := ⟨n, h, rfl⟩
  induction bs using encode.induct with
  | case1 => exact List.forall_mem_nil _
  | case2 a =>
    have ha := a.toNat_lt
    simp only [encode, List.forall_mem_cons]
    exact ⟨here (by omega), here (by omega), List.forall_mem_nil _⟩
  | case3 a b =>
    have ha := a.toNat_lt
    have hb := b.toNat_lt
    simp only [encode, List.forall_mem_cons]
    exact ⟨here (by omega), here (by omega), here (by omega), List.forall_mem_nil _⟩
  | case4 a b c bs ih =>
    have ha := a.toNat_lt
    have hb := b.toNat_lt
    have hc := c.toNat_lt
    simp only [encode, List.forall_mem_cons]
    exact ⟨here (by omega), here (by omega), here (by omega), here (by omega), ih⟩

theorem plain_encode (bs : Bytes) : ∀ c ∈ encode bs, Plain c := by
  intro c hc
  obtain ⟨n, hn, rfl⟩ := exists_digit bs c hc
  exact plain_digit hn

/-! ### Reading -/

theorem byte_of_toNat {n : Nat} {b : UInt8} (h : n = b.toNat) : UInt8.ofNat n = b := by
  rw [h, UInt8.ofNat_toNat]

theorem decodeBare?_encode (bs : Bytes) : decodeBare? (encode bs) = some bs := by
  induction bs using encode.induct with
  | case1 => rfl
  | case2 a =>
    have ha := a.toNat_lt
    have hx := value?_digit (a.toNat / 4) (by omega)
    have hy := value?_digit (a.toNat % 4 * 16) (by omega)
    have hlast : a.toNat % 4 * 16 % 16 = 0 := by omega
    have hbyte := byte_of_toNat (n := a.toNat / 4 * 4 + a.toNat % 4 * 16 / 16) (b := a) (by omega)
    simp only [encode, decodeBare?, hx, hy, hlast, hbyte, Option.bind_eq_bind, Option.bind_some, if_true]
  | case3 a b =>
    have ha := a.toNat_lt
    have hb := b.toNat_lt
    have hx := value?_digit (a.toNat / 4) (by omega)
    have hy := value?_digit (a.toNat % 4 * 16 + b.toNat / 16) (by omega)
    have hz := value?_digit (b.toNat % 16 * 4) (by omega)
    have hlast : b.toNat % 16 * 4 % 4 = 0 := by omega
    have hfirst := byte_of_toNat (n := a.toNat / 4 * 4 + (a.toNat % 4 * 16 + b.toNat / 16) / 16) (b := a) (by omega)
    have hsecond := byte_of_toNat (n := (a.toNat % 4 * 16 + b.toNat / 16) % 16 * 16 + b.toNat % 16 * 4 / 4) (b := b)
      (by omega)
    simp only [encode, decodeBare?, hx, hy, hz, hlast, hfirst, hsecond, Option.bind_eq_bind, Option.bind_some,
      if_true]
  | case4 a b c bs ih =>
    have ha := a.toNat_lt
    have hb := b.toNat_lt
    have hc := c.toNat_lt
    have hx := value?_digit (a.toNat / 4) (by omega)
    have hy := value?_digit (a.toNat % 4 * 16 + b.toNat / 16) (by omega)
    have hz := value?_digit (b.toNat % 16 * 4 + c.toNat / 64) (by omega)
    have hw := value?_digit (c.toNat % 64) (by omega)
    have hfirst := byte_of_toNat (n := a.toNat / 4 * 4 + (a.toNat % 4 * 16 + b.toNat / 16) / 16) (b := a) (by omega)
    have hsecond := byte_of_toNat (b := b)
      (n := (a.toNat % 4 * 16 + b.toNat / 16) % 16 * 16 + (b.toNat % 16 * 4 + c.toNat / 64) / 4) (by omega)
    have hthird := byte_of_toNat (n := (b.toNat % 16 * 4 + c.toNat / 64) % 4 * 64 + c.toNat % 64) (b := c) (by omega)
    simp only [encode, decodeBare?, hx, hy, hz, hw, ih, hfirst, hsecond, hthird, Option.bind_eq_bind,
      Option.bind_some]

theorem dropEndWhile_eq_self {p : Char → Bool} {cs : List Char} (h : ∀ c ∈ cs, p c = false) :
    dropEndWhile p cs = cs := by
  have hreverse : cs.reverse.dropWhile p = cs.reverse := by
    cases hcs : cs.reverse with
    | nil => rfl
    | cons c ds =>
      have hc : c ∈ cs := List.mem_reverse.mp (hcs ▸ List.mem_cons_self)
      rw [List.dropWhile_cons_of_neg (by simp [h c hc])]
  rw [dropEndWhile, hreverse, List.reverse_reverse]

/-- What is written in base64url is read back, whatever the bytes are. -/
theorem decode?_encodeText (bs : Bytes) : decode? (encodeText bs) = some bs := by
  have hbare : dropEndWhile (· == '=') (encode bs) = encode bs :=
    dropEndWhile_eq_self fun c hc => (plain_encode bs c hc).padding
  rw [decode?, encodeText, String.toList_ofList, trim_eq_self fun c hc => (plain_encode bs c hc).blank, decodeChars?,
    hbare, Nat.sub_self]
  exact decodeBare?_encode bs

end Base64Url
end PasskeySession.Text
