import PasskeySession.Proofs.WebAuthn.Credential
import PasskeySession.Proofs.WebAuthn.ValidatorSignature

/-! # Layouts written out

A new credential and a signature for the validator have few parts, and so they can be written byte by byte: heads of one
to three bytes for the items of an attestation, and six words before two byte strings for the contract. Main
statements: an attestation and a signature for the validator are written like this. -/

namespace PasskeySession

/-! ### Data items -/

namespace Cbor
variable {cs : List Char} {bs : Bytes}

/-- A text with its length in its first byte. -/
def shortText (cs : List Char) : Bytes := (0x60 ||| UInt8.ofNat (Text.utf8 cs).length) :: Text.utf8 cs

/-- A byte string with its length in its first byte, in one byte more, or in two. -/
def shortBytes (bs : Bytes) : Bytes :=
  if bs.length < 24 then (0x40 ||| UInt8.ofNat bs.length) :: bs
  else if bs.length < 256 then 0x58 :: UInt8.ofNat bs.length :: bs
  else 0x59 :: BigEndian.ofNat 2 bs.length ++ bs

theorem head_of_lt (major : Nat) {n : Nat} (h : n < 24) : head major n = [UInt8.ofNat (major * 32 + n)] := if_pos h

theorem head_one (major : Nat) {n : Nat} (hlow : ¬ n < 24) (h : n < 256) :
    head major n = [UInt8.ofNat (major * 32 + 24), UInt8.ofNat n] :=
  (if_neg hlow).trans (if_pos h)

theorem head_two (major : Nat) {n : Nat} (hlow : ¬ n < 256) (h : n < 2 ^ 16) :
    head major n = UInt8.ofNat (major * 32 + 25) :: BigEndian.ofNat 2 n :=
  (if_neg (by omega)).trans ((if_neg hlow).trans (if_pos h))

theorem encode_map (entries : List (Cbor × Cbor)) :
    (map entries).encode = head 5 entries.length ++ encodeEntries entries := by rw [encode]

theorem encode_text (h : (Text.utf8 cs).length < 24) : (text cs).encode = shortText cs := by
  have hlead : ∀ n < 24, UInt8.ofNat (3 * 32 + n) = 0x60 ||| UInt8.ofNat n := by decide
  rw [encode, head_of_lt 3 h, hlead _ h, shortText, List.singleton_append]

theorem encode_bytes (h : bs.length < 2 ^ 16) : (bytes bs).encode = shortBytes bs := by
  have hlead : ∀ n < 24, UInt8.ofNat (2 * 32 + n) = 0x40 ||| UInt8.ofNat n := by decide
  rw [encode, shortBytes]
  split
  · rename_i hshort
    rw [head_of_lt 2 hshort, hlead _ hshort, List.singleton_append]
  · rename_i hlong
    split
    · rename_i hone
      rw [head_one 2 hlong hone]
      rfl
    · rename_i htwo
      rw [head_two 2 htwo h]
      rfl

end Cbor

namespace Authenticator
variable {a : Authenticator} {data : Bytes}

/-- A public key: the type of the key, its algorithm and its curve, and the two coordinates under their labels. -/
def keyLayout (point : Nat × Nat) : Bytes :=
  [0xa5, 0x01, 0x02, 0x03, 0x26, 0x20, 0x01] ++
    ([0x21, 0x58, 0x20] ++ BigEndian.ofNat 32 point.1) ++ ([0x22, 0x58, 0x20] ++ BigEndian.ofNat 32 point.2)

/-- An attestation that attests nothing but the authenticator data in it. -/
def attestationLayout (data : Bytes) : Bytes :=
  0xa3 :: (Cbor.shortText "fmt".toList ++ Cbor.shortText "none".toList ++ (Cbor.shortText "attStmt".toList ++ [0xa0]) ++
    (Cbor.shortText "authData".toList ++ Cbor.shortBytes data))

theorem encode_coseKey (point : Nat × Nat) : (coseKey point).encode = keyLayout point := by
  have hword (n : Nat) : (Cbor.bytes (BigEndian.ofNat 32 n)).encode = [0x58, 0x20] ++ BigEndian.ofNat 32 n := by
    rw [Cbor.encode, BigEndian.length_ofNat]
    rfl
  unfold coseKey keyLayout
  simp only [Cbor.encode_map, Cbor.encodeEntries, hword]
  -- The coordinates are kept closed: only the bytes before them are computed.
  generalize BigEndian.ofNat 32 point.1 = x
  generalize BigEndian.ofNat 32 point.2 = y
  simp [Cbor.encode, Cbor.head]

theorem encode_attestation (h : data.length < 2 ^ 16) : (attestation data).encode = attestationLayout data := by
  have hshort : ∀ name ∈ ["fmt", "none", "attStmt", "authData"], (Text.utf8 name.toList).length < 24 := by
    decide +kernel
  have hfmt := Cbor.encode_text (hshort "fmt" (by decide))
  have hnone := Cbor.encode_text (hshort "none" (by decide))
  have hstatement := Cbor.encode_text (hshort "attStmt" (by decide))
  have hdata := Cbor.encode_text (hshort "authData" (by decide))
  unfold attestation attestationLayout
  simp only [Cbor.encode_map, Cbor.encodeEntries, hfmt, hnone, hstatement, hdata, Cbor.encode_bytes h]
  generalize Cbor.shortText "fmt".toList = fmt
  generalize Cbor.shortText "none".toList = none
  generalize Cbor.shortText "attStmt".toList = statement
  generalize Cbor.shortText "authData".toList = key
  simp [Cbor.head]

theorem attestedCredential_eq (fresh : Fresh) : attestedCredential fresh =
    List.replicate 16 0 ++ [0x00, 0x10] ++ fresh.rawId.bytes ++ keyLayout fresh.key.publicPoint := by
  rw [attestedCredential, encode_coseKey, fresh.rawId.size]
  rfl

/-- The authenticator data of a new credential. -/
def newData (a : Authenticator) (fresh : Fresh) : Bytes :=
  Sha256.digest (Text.utf8 a.rpId.toList) ++ 0x45 :: BigEndian.ofNat 4 (a.counter + 1) ++
    (List.replicate 16 0 ++ [0x00, 0x10] ++ fresh.rawId.bytes ++ keyLayout fresh.key.publicPoint)

theorem length_newData (a : Authenticator) (fresh : Fresh) : (a.newData fresh).length = 148 := by
  simp [newData, keyLayout, Sha256.length_digest, BigEndian.length_ofNat, fresh.rawId.size]

/-- A new credential is attested by bytes of this layout. -/
theorem create_layout (hfail : a.failNext = none) (userName : String) (challenge : Bytes) : ∃ credential,
    (a.create userName challenge).1 = .ok credential ∧
      credential.attestation = attestationLayout (a.newData (a.supply a.made)) := by
  have hdata : (a.nextData (userFlags ||| AuthenticatorData.attested) (attestedCredential (a.supply a.made))).bytes =
      a.newData (a.supply a.made) := by
    rw [attestedCredential_eq]
    rfl
  refine ⟨_, create_of_not_failing hfail userName challenge, ?_⟩
  change (attestation _).encode = _
  rw [hdata, encode_attestation (by rw [length_newData]; decide)]

end Authenticator

/-! ### Contract arguments -/

namespace Abi
variable {n : Nat} {bs : Bytes}

/-- A word whose number has eight bytes. -/
def shortWord (n : Nat) : Bytes := List.replicate 24 0 ++ BigEndian.ofNat 8 n

/-- A byte string after its length, with noughts behind it. -/
def shortTail (bs : Bytes) : Bytes :=
  shortWord bs.length ++ bs ++ List.replicate (paddedLength bs.length - bs.length) 0

theorem word_eq_shortWord (h : n < 2 ^ 64) : word n = shortWord n := by
  have hbytes : n < 256 ^ 8 := by omega
  exact BigEndian.ofNat_add (k := 8) 24 hbytes

theorem tail_eq_shortTail (h : bs.length < 2 ^ 64) : tail bs = shortTail bs := by
  rw [tail, word_eq_shortWord h, shortTail]

end Abi

namespace Assertion
variable {a : Assertion} {i : Nat} {g : Signature} {usePrecompiled : Bool} {e : EncodedSignature}

/-- How many words stand before the byte strings. -/
def headWords : Nat := 6

/-- A signature for the validator: where the two byte strings stand, the three numbers and the flag, and the byte
    strings. -/
def layout (a : Assertion) (typeIndex : Nat) (g : Signature) (usePrecompiled : Bool) : Bytes :=
  let first := headWords * 32
  let second := first + 32 + Abi.paddedLength a.authenticatorData.length
  Abi.shortWord first ++ Abi.shortWord second ++ Abi.shortWord typeIndex ++ Abi.word g.r ++ Abi.word g.s ++
    Abi.shortWord usePrecompiled.toNat ++ Abi.shortTail a.authenticatorData ++ Abi.shortTail a.clientData

theorem encode_arguments (hauth : a.authenticatorData.length < 2 ^ 63) (hclient : a.clientData.length < 2 ^ 63)
    (hi : i ≤ a.clientData.length) : Abi.encode (a.arguments i g usePrecompiled) = a.layout i g usePrecompiled := by
  have hpad : Abi.paddedLength a.authenticatorData.length ≤ a.authenticatorData.length + 31 := by
    unfold Abi.paddedLength
    omega
  have hflag : usePrecompiled.toNat < 2 := usePrecompiled.toNat_lt
  -- Every place, length and number but those of the signature itself is below `2 ^ 64`.
  have hfirst := Abi.word_eq_shortWord (n := 192) (by decide)
  have hsecond := Abi.word_eq_shortWord (n := 224 + Abi.paddedLength a.authenticatorData.length) (by omega)
  have hindex := Abi.word_eq_shortWord (n := i) (by omega)
  have hprecompiled := Abi.word_eq_shortWord (n := usePrecompiled.toNat) (by omega)
  have hauthTail : Abi.tail a.authenticatorData = Abi.shortTail a.authenticatorData :=
    Abi.tail_eq_shortTail (by omega)
  have hclientTail : Abi.tail a.clientData = Abi.shortTail a.clientData := Abi.tail_eq_shortTail (by omega)
  simp only [Abi.encode, arguments, Abi.heads, Abi.tails, List.length_cons, List.length_nil, Nat.zero_add,
    Nat.reduceAdd, Nat.reduceMul, hfirst, hsecond, hindex, hprecompiled, hauthTail, hclientTail, layout, headWords,
    List.append_nil, List.append_assoc]

/-- A signature for the validator is laid out like this, if the byte strings are no longer than a machine can hold. -/
theorem toValidator_layout (hauth : a.authenticatorData.length < 2 ^ 63) (hclient : a.clientData.length < 2 ^ 63)
    (h : a.toValidator usePrecompiled = .ok e) : ∃ i g, ClientData.typeIndex? a.clientData = some i ∧
      Signature.ofDer a.signature = .ok g ∧ e.bytes = a.layout i g usePrecompiled := by
  obtain ⟨-, i, g, hi, hg, rfl⟩ := toValidator_eq_ok_iff.mp h
  exact ⟨i, g, hi, hg, encode_arguments hauth hclient (typeIndex?_le hi)⟩

end Assertion
end PasskeySession
