import PasskeySession.Proofs.WebAuthn.Abi
import PasskeySession.Proofs.WebAuthn.ClientData
import PasskeySession.WebAuthn.ValidatorSignature

/-! # What a validator reads

A validator takes the signature that it is sent apart as a tuple of two byte strings, three numbers and a
flag. It finds the assertion and the flag there, each where the layout of a tuple has it, so nothing else has
the same encoding. -/

namespace PasskeySession
open ClientData (typeKey)

/-- The arguments of the contract that checks an assertion. -/
structure ValidatorArguments where
  authenticatorData : Bytes
  clientData : Bytes
  typeIndex : Nat
  r : Nat
  s : Nat
  usePrecompiled : Bool
  deriving DecidableEq

namespace ValidatorArguments

/-- Takes a tuple apart; a flag is a word that is nought or one. -/
def decode? (bs : Bytes) : Option ValidatorArguments :=
  match Abi.decode? [.bytes, .bytes, .uint, .uint, .uint, .uint] bs with
  | some [.bytes authenticatorData, .bytes clientData, .uint typeIndex, .uint r, .uint s, .uint flag] =>
    if flag < 2 then some ⟨authenticatorData, clientData, typeIndex, r, s, flag = 1⟩ else none
  | _ => none

/-- Takes a tuple apart that is written in digits after the mark of base sixteen. -/
def ofText? (text : String) : Option ValidatorArguments :=
  match text.toList with
  | '0' :: 'x' :: ds => (Text.ofHex? ds).bind decode?
  | _ => none

end ValidatorArguments

theorem EncodedSignature.ofText?_text (e : EncodedSignature) :
    ValidatorArguments.ofText? e.text = ValidatorArguments.decode? e.bytes := by
  rw [ValidatorArguments.ofText?, EncodedSignature.text, String.toList_ofList]
  exact congrArg (·.bind ValidatorArguments.decode?) (Text.ofHex?_toHex e.bytes)

theorem Signature.below (g : Signature) : g.r < 2 ^ 256 ∧ g.s < 2 ^ 256 := by
  have order : P256.order < 2 ^ 256 := by decide
  exact ⟨g.rBelow.trans order, g.sBelow.trans order⟩

theorem Signature.low_lt (g : Signature) : 2 * g.low.s < P256.order := by
  have odd : P256.order % 2 = 1 := by decide
  unfold low
  split
  · dsimp only
    omega
  · omega

theorem AuthenticatorData.ofBytes_isOk_iff {bs : Bytes} : (∃ d, ofBytes bs = .ok d) ↔ 37 ≤ bs.length := by
  unfold ofBytes
  split
  · rename_i h
    exact iff_of_false (fun ⟨_, h⟩ => nomatch h) (Nat.not_le_of_lt h)
  · rename_i h
    exact iff_of_true ⟨_, rfl⟩ (Nat.le_of_not_lt h)

namespace Assertion
variable {a b : Assertion} {usePrecompiled other : Bool} {e : EncodedSignature} {g : Signature} {i : Nat}

/-- Both byte strings have lengths of 64 bits, as in the memory of any machine. -/
structure Held (a : Assertion) : Prop where
  authenticatorData : a.authenticatorData.length < 2 ^ 64
  clientData : a.clientData.length < 2 ^ 64

/-- An assertion is encoded if there is enough authenticator data, a type in the client data, and a signature. -/
theorem toValidator_eq_ok_iff : a.toValidator usePrecompiled = .ok e ↔
    37 ≤ a.authenticatorData.length ∧ ∃ i g, ClientData.typeIndex? a.clientData = some i ∧
      Signature.ofDer a.signature = .ok g ∧ e = ⟨Abi.encode (a.arguments i g usePrecompiled)⟩ := by
  unfold toValidator
  rw [← AuthenticatorData.ofBytes_isOk_iff]
  cases AuthenticatorData.ofBytes a.authenticatorData with
  | error f => exact iff_of_false (fun h => nomatch h) (fun ⟨⟨_, h⟩, _⟩ => nomatch h)
  | ok d =>
    cases ClientData.typeIndex? a.clientData with
    | none => exact iff_of_false (fun h => nomatch h) (fun ⟨_, _, _, h, _⟩ => nomatch h)
    | some i =>
      cases Signature.ofDer a.signature with
      | error f => exact iff_of_false (fun h => nomatch h) (fun ⟨_, _, _, _, h, _⟩ => nomatch h)
      | ok g =>
        constructor
        · intro h
          exact ⟨⟨d, rfl⟩, i, g, rfl, rfl, (Except.ok.inj h).symm⟩
        · rintro ⟨-, _, _, hi, hg, rfl⟩
          cases hi
          cases hg
          rfl

theorem low_of_ofDer {bs : Bytes} (h : Signature.ofDer bs = .ok g) : 2 * g.s < P256.order := by
  unfold Signature.ofDer at h
  split at h
  · rename_i g' _
    cases h
    exact g'.low_lt
  · cases h

theorem length_encode : (Abi.encode (a.arguments i g usePrecompiled)).length =
    32 * (8 + (a.authenticatorData.length ⌈/⌉ 32) + (a.clientData.length ⌈/⌉ 32)) := by
  simp only [Abi.encode, arguments, Abi.tails, List.length_append, Abi.length_heads, Abi.length_tail,
    Abi.paddedLength_eq, List.length_cons, List.length_nil]
  omega

/-- The encoding of an assertion that a machine holds is far from the end of what a word can tell. -/
theorem Held.length_encode_lt (h : a.Held) : (Abi.encode (a.arguments i g usePrecompiled)).length < 2 ^ 256 := by
  have hauth := h.authenticatorData
  have hclient := h.clientData
  rw [length_encode, Nat.ceilDiv_eq_add_pred_div, Nat.ceilDiv_eq_add_pred_div]
  omega

theorem Held.fits (h : a.Held) (hi : i ≤ a.clientData.length) :
    ∀ v ∈ a.arguments i g usePrecompiled, v.Fits := by
  have hclient := h.clientData
  have flag : usePrecompiled.toNat < 2 := usePrecompiled.toNat_lt
  simp only [arguments, List.forall_mem_cons, Abi.Value.Fits, List.not_mem_nil, false_imp_iff, implies_true,
    and_true, true_and, g.below]
  omega

theorem typeIndex?_le (h : ClientData.typeIndex? a.clientData = some i) : i ≤ a.clientData.length := by
  by_contra hlt
  have := (ClientData.offset?_eq_some_iff.mp h).1
  rw [Set.mem_ofPred_eq, List.drop_eq_nil_of_le (Nat.le_of_not_le hlt), List.prefix_nil] at this
  cases this

theorem Held.decode?_encode (h : a.Held) (hi : i ≤ a.clientData.length) :
    ValidatorArguments.decode? (Abi.encode (a.arguments i g usePrecompiled)) =
      some ⟨a.authenticatorData, a.clientData, i, g.r, g.s, usePrecompiled⟩ := by
  have fits : ∀ v ∈ a.arguments i g usePrecompiled, v.Fits := h.fits hi
  have back := Abi.decode?_encode fits h.length_encode_lt
  simp only [arguments, List.map, Abi.Value.kind] at back ⊢
  rw [ValidatorArguments.decode?, back]
  cases usePrecompiled <;> rfl

/-- Where the parts of an assertion stand in its encoding. -/
structure Laid (a : Assertion) (bs : Bytes) : Prop where
  first : Abi.wordAt? bs 0 = some (32 * 6)
  second : Abi.wordAt? bs 32 = some (32 * (7 + (a.authenticatorData.length ⌈/⌉ 32)))
  authenticatorData : Abi.Holds bs (32 * 6) a.authenticatorData
  clientData : Abi.Holds bs (32 * (7 + (a.authenticatorData.length ⌈/⌉ 32))) a.clientData
  length : bs.length = 32 * (8 + (a.authenticatorData.length ⌈/⌉ 32) + (a.clientData.length ⌈/⌉ 32))

theorem Held.laid (h : a.Held) : a.Laid (Abi.encode (a.arguments i g usePrecompiled)) := by
  have hlen : (Abi.encode (a.arguments i g usePrecompiled)).length < 2 ^ 256 := h.length_encode_lt
  have hauth := h.authenticatorData
  have hclient := h.clientData
  have heads := Abi.at_heads (a.arguments i g usePrecompiled)
  have tails := Abi.at_tails (a.arguments i g usePrecompiled)
  have second : 32 * 6 + 32 + Abi.paddedLength a.authenticatorData.length =
      32 * (7 + (a.authenticatorData.length ⌈/⌉ 32)) := by
    rw [Abi.paddedLength_eq]
    omega
  rw [length_encode] at hlen
  simp only [arguments, Abi.heads, Abi.tails, List.length_cons, List.length_nil, Nat.zero_add,
    Nat.reduceAdd, second] at heads tails
  refine ⟨heads.left.wordAt? (by omega), ?_, tails.left.holds (by omega), ?_, length_encode⟩
  · have := heads.right.left
    rw [Abi.length_word] at this
    exact this.wordAt? (by omega)
  · have := tails.right.left
    rw [Abi.length_tail, ← Nat.add_assoc, second] at this
    exact this.holds (by omega)

/-- What it is for the encoding of an assertion to be what a validator takes apart. -/
structure WellEncoded (a : Assertion) (usePrecompiled : Bool) : Prop where
  /-- There is an encoding if there is enough authenticator data, a type in the client data, and a signature. -/
  exists_iff : (∃ e, a.toValidator usePrecompiled = .ok e) ↔
    37 ≤ a.authenticatorData.length ∧ typeKey <:+: a.clientData ∧ ∃ g, Signature.ofDer a.signature = .ok g
  /-- It reads back as the assertion, with the first place of the type and the lesser `s`, and the flag. -/
  reads : ∀ e, a.toValidator usePrecompiled = .ok e → ∃ i g, IsLeast {j | typeKey <+: a.clientData.drop j} i ∧
    Signature.ofDer a.signature = .ok g ∧ 2 * g.s < P256.order ∧
    ValidatorArguments.ofText? e.text = some ⟨a.authenticatorData, a.clientData, i, g.r, g.s, usePrecompiled⟩
  /-- Its byte strings stand inside it where its words say, with noughts behind them. -/
  laid : ∀ e, a.toValidator usePrecompiled = .ok e → a.Laid e.bytes
  /-- No other assertion has it, save with the same data, the same two numbers and the same flag. -/
  injective : ∀ (b : Assertion) other e f, b.Held → a.toValidator usePrecompiled = .ok e →
    b.toValidator other = .ok f → e.text = f.text →
    a.authenticatorData = b.authenticatorData ∧ a.clientData = b.clientData ∧
      ClientData.typeIndex? a.clientData = ClientData.typeIndex? b.clientData ∧
      Signature.ofDer a.signature = Signature.ofDer b.signature ∧ usePrecompiled = other

/-- The arguments that the encoding of an assertion reads back as. -/
theorem Held.read (h : a.Held) (he : a.toValidator usePrecompiled = .ok e) :
    ∃ i g, ClientData.typeIndex? a.clientData = some i ∧ Signature.ofDer a.signature = .ok g ∧
      ValidatorArguments.ofText? e.text = some ⟨a.authenticatorData, a.clientData, i, g.r, g.s, usePrecompiled⟩ := by
  obtain ⟨-, i, g, hi, hg, rfl⟩ := toValidator_eq_ok_iff.mp he
  exact ⟨i, g, hi, hg, (EncodedSignature.ofText?_text _).trans (h.decode?_encode (typeIndex?_le hi))⟩

/-- An assertion is encoded as the tuple that a validator takes apart. -/
theorem Held.wellEncoded (h : a.Held) (usePrecompiled : Bool) : a.WellEncoded usePrecompiled := by
  refine ⟨?_, fun e he => ?_, fun e he => ?_, fun b other e f hb ha hbe same => ?_⟩
  · constructor
    · rintro ⟨e, he⟩
      obtain ⟨hlen, i, g, hi, hg, -⟩ := toValidator_eq_ok_iff.mp he
      exact ⟨hlen, ClientData.offset?_isSome_iff.mp ⟨i, hi⟩, g, hg⟩
    · rintro ⟨hlen, hkey, g, hg⟩
      obtain ⟨i, hi⟩ := ClientData.offset?_isSome_iff.mpr hkey
      exact ⟨_, toValidator_eq_ok_iff.mpr ⟨hlen, i, g, hi, hg, rfl⟩⟩
  · obtain ⟨i, g, hi, hg, hread⟩ := h.read he
    exact ⟨i, g, ClientData.offset?_eq_some_iff.mp hi, hg, low_of_ofDer hg, hread⟩
  · obtain ⟨-, i, g, -, -, rfl⟩ := toValidator_eq_ok_iff.mp he
    exact h.laid
  · obtain ⟨i, g, hi, hg, hread⟩ := h.read ha
    obtain ⟨j, g', hj, hg', hread'⟩ := hb.read hbe
    obtain ⟨hauth, hclient, hij, hr, hs, hflag⟩ :=
      ValidatorArguments.mk.inj (Option.some.inj (hread.symm.trans (same ▸ hread')))
    have hsig : g = g' := Signature.ext hr hs
    exact ⟨hauth, hclient, hi.trans (hij ▸ hj.symm), hg.trans (hsig ▸ hg'.symm), hflag⟩

/-- An assertion whose key follows a brace, and whose `s` is the order of the curve less one. -/
theorem wellEncoded_high :
    let a : Assertion := ⟨"key", 0x7b :: typeKey ++ [0x22, 0x22, 0x7d], List.replicate 37 0,
      [0x30, 0x26, 0x02, 0x01, 0x01, 0x02, 0x21, 0x00] ++ BigEndian.ofNat 32 (P256.order - 1), none⟩
    (∃ e, a.toValidator true = .ok e ∧ e.bytes.length = 352 ∧
      ValidatorArguments.ofText? e.text = some ⟨a.authenticatorData, a.clientData, 1, 1, 1, true⟩) ∧
      a.WellEncoded true := by
  intro a
  have h : a.WellEncoded true := Held.wellEncoded ⟨by decide, by decide⟩ true
  have hder : (Der.decode? a.signature).map Signature.low = some .ones := by decide +kernel
  obtain ⟨g, hg, hlow⟩ := Option.map_eq_some_iff.mp hder
  have hg : Signature.ofDer a.signature = .ok .ones := by
    rw [Signature.ofDer, hg, ← hlow]
  obtain ⟨e, he⟩ := h.exists_iff.mpr ⟨by decide, ⟨[0x7b], [0x22, 0x22, 0x7d], rfl⟩, _, hg⟩
  obtain ⟨i, g', hi, hg', -, hread⟩ := h.reads e he
  have first : IsLeast {j | typeKey <+: a.clientData.drop j} 1 := ClientData.offset?_eq_some_iff.mp rfl
  cases hi.unique first
  cases Except.ok.inj (hg.symm.trans hg')
  exact ⟨⟨e, he, (h.laid e he).length.trans (by decide), hread⟩, h⟩

end Assertion
end PasskeySession
