import PasskeySession.Proofs.Crypto.Canonical
import PasskeySession.Proofs.Text.Base64Url
import PasskeySession.Proofs.WebAuthn.Journal

/-! # What a new credential says of itself

A credential gives its name and its public key twice: as they are, and within authenticator data within an attestation.
Main statement: for every key and every raw name the attestation, the authenticator data and the key in them are read to
their last byte, and what is read there is the name and the public key of the credential. -/

namespace PasskeySession

theorem BigEndian.ofNat_mod (length n : Nat) : ofNat length (n % Nat.pow 256 length) = ofNat length n := by
  have h := ofNat_toNat (ofNat length n)
  rwa [length_ofNat, toNat_ofNat] at h

namespace Cbor

def isInteger (n : Int) : Cbor → Bool
  | natural m => m = n
  | negative m => -1 - m = n
  | _ => false

/-- The value of the first entry of a map that has the given integer for its key. -/
def labelled? (n : Int) : Cbor → Option Cbor
  | map entries => (entries.find? fun entry => entry.1.isInteger n).map (·.2)
  | _ => none

end Cbor

/-! ### Attested credentials -/

/-- What a new credential adds to authenticator data, taken apart. -/
structure AttestedCredential where
  model : Bytes
  idLength : Nat
  rawId : Bytes
  key : Bytes

namespace AttestedCredential

/-- Sixteen bytes for the model, two for the length of the raw name, the name, and the key in all the rest. -/
def ofBytes? (bs : Bytes) : Option AttestedCredential := do
  let (model, bs) ← Cbor.take? 16 bs
  let (length, bs) ← Cbor.take? 2 bs
  let (rawId, key) ← Cbor.take? (BigEndian.toNat length) bs
  some ⟨model, BigEndian.toNat length, rawId, key⟩

theorem ofBytes?_append {model rawId : Bytes} (hmodel : model.length = 16) (hid : rawId.length < 2 ^ 16) (key : Bytes) :
    ofBytes? (model ++ BigEndian.ofNat 2 rawId.length ++ rawId ++ key) = some ⟨model, rawId.length, rawId, key⟩ := by
  have hvalue : BigEndian.toNat (BigEndian.ofNat 2 rawId.length) = rawId.length := by
    rw [BigEndian.toNat_ofNat]
    exact Nat.mod_eq_of_lt hid
  have hfirst := Cbor.take?_append model (BigEndian.ofNat 2 rawId.length ++ (rawId ++ key))
  have hsecond := Cbor.take?_append (BigEndian.ofNat 2 rawId.length) (rawId ++ key)
  have hthird := Cbor.take?_append rawId key
  rw [hmodel] at hfirst
  rw [BigEndian.length_ofNat] at hsecond
  rw [ofBytes?, List.append_assoc, List.append_assoc, hfirst]
  dsimp only [Option.bind_eq_bind, Option.bind_some]
  rw [hsecond]
  dsimp only [Option.bind_some]
  rw [hvalue, hthird]
  rfl

end AttestedCredential

namespace AuthenticatorData

/-- Authenticator data are read back but for the counter, of which four bytes are kept. -/
theorem ofBytes_bytes_mod {d : AuthenticatorData} (hhash : d.rpIdHash.length = 32) :
    ofBytes d.bytes = .ok { d with counter := d.counter % 2 ^ 32 } := by
  have hbytes : d.bytes = bytes { d with counter := d.counter % 2 ^ 32 } := by
    have hcounter : BigEndian.ofNat 4 (d.counter % 2 ^ 32) = BigEndian.ofNat 4 d.counter := BigEndian.ofNat_mod 4 _
    simp only [bytes, hcounter]
  rw [hbytes]
  exact ofBytes_bytes hhash (Nat.mod_lt _ (by decide))

end AuthenticatorData

/-! ### Credentials -/

/-- A credential for a key and a raw name, and what its attestation is taken apart into: one item, the authenticator
    data in it, what a new credential adds to them, the item of its key, and the coordinates in that item. -/
structure Credential.Attests (c : Credential) (rpId : String) (count : Nat) (fresh : Fresh) (data : Bytes)
    (d : AuthenticatorData) (k : AttestedCredential) (cose : Cbor) (x y : Bytes) : Prop where
  item : Cbor.decode? c.attestation = some (.map [(.text "fmt".toList, .text "none".toList),
    (.text "attStmt".toList, .map []), (.text "authData".toList, .bytes data)])
  parts : AuthenticatorData.ofBytes data = .ok d
  rpIdHash : d.rpIdHash = Sha256.digest (Text.utf8 rpId.toList)
  flags : d.flags = AuthenticatorData.userPresent ||| AuthenticatorData.userVerified ||| AuthenticatorData.attested
  counter : d.counter = count
  attested : AttestedCredential.ofBytes? d.rest = some k
  /-- The authenticator is of no model. -/
  model : k.model = List.replicate 16 0
  idLength : k.idLength = k.rawId.length
  rawId : k.rawId = fresh.rawId.bytes
  id : Text.Base64Url.decode? c.id = some k.rawId
  key : Cbor.decode? k.key = some cose
  keyType : cose.labelled? 1 = some (.natural 2)
  algorithm : cose.labelled? 3 = some (.negative 6)
  curve : cose.labelled? (-1) = some (.natural 1)
  first : cose.labelled? (-2) = some (.bytes x)
  second : cose.labelled? (-3) = some (.bytes y)
  coordinates : x.length = 32 ∧ y.length = 32
  publicKey : c.publicKey = 0x04 :: (x ++ y)
  own : c.publicKey = fresh.key.publicKey

namespace Authenticator
variable {a : Authenticator}

theorem fits_coseKey (point : Nat × Nat) : (coseKey point).Fits := by
  have small : ∀ n ≤ 32, n < 2 ^ 64 := by
    intro n hn
    omega
  have word (n : Nat) : (Cbor.bytes (BigEndian.ofNat 32 n)).Fits := by
    rw [Cbor.Fits, BigEndian.length_ofNat]
    exact small 32 (Nat.le_refl _)
  exact ⟨small 5 (by decide), small 1 (by decide), small 2 (by decide), small 3 (by decide), small 6 (by decide),
    small 0 (by decide), small 1 (by decide), small 1 (by decide), word _, small 2 (by decide), word _, trivial⟩

/-- A public key is read back from its item, and its coordinates from their labels. -/
theorem decode?_coseKey (point : Nat × Nat) : ∃ cose, Cbor.decode? (coseKey point).encode = some cose ∧
    cose.labelled? 1 = some (.natural 2) ∧ cose.labelled? 3 = some (.negative 6) ∧
    cose.labelled? (-1) = some (.natural 1) ∧ cose.labelled? (-2) = some (.bytes (BigEndian.ofNat 32 point.1)) ∧
    cose.labelled? (-3) = some (.bytes (BigEndian.ofNat 32 point.2)) :=
  ⟨coseKey point, Cbor.decode?_encode (fits_coseKey point), rfl, rfl, rfl, rfl, rfl⟩

theorem ofBytes?_attestedCredential (fresh : Fresh) : AttestedCredential.ofBytes? (attestedCredential fresh) =
    some ⟨List.replicate 16 0, fresh.rawId.bytes.length, fresh.rawId.bytes, (coseKey fresh.key.publicPoint).encode⟩ :=
  AttestedCredential.ofBytes?_append (List.length_replicate ..) (by rw [fresh.rawId.size]; decide) _

/-- The credential that an authenticator makes next. -/
def nextCredential (a : Authenticator) (challenge : Bytes) : Credential :=
  let fresh := a.supply a.made
  ⟨Text.Base64Url.encodeText fresh.rawId.bytes, ClientData.bytes .create challenge a.origin,
    (attestation (a.nextData (userFlags ||| AuthenticatorData.attested) (attestedCredential fresh)).bytes).encode,
    fresh.key.publicKey⟩

theorem create_of_not_failing (hfail : a.failNext = none) (userName : String) (challenge : Bytes) :
    (a.create userName challenge).1 = .ok (a.nextCredential challenge) := by
  rw [create, hfail]
  rfl

theorem attests_nextCredential (a : Authenticator) (challenge : Bytes) : ∃ data d k cose x y,
    (a.nextCredential challenge).Attests a.rpId ((a.counter + 1) % 2 ^ 32) (a.supply a.made) data d k cose x y := by
  obtain ⟨fresh, hfresh⟩ : ∃ fresh, a.supply a.made = fresh := ⟨_, rfl⟩
  obtain ⟨d, hd⟩ : ∃ d, a.nextData (userFlags ||| AuthenticatorData.attested) (attestedCredential fresh) = d := ⟨_, rfl⟩
  obtain ⟨point, hpoint⟩ : ∃ point, fresh.key.publicPoint = point := ⟨_, rfl⟩
  obtain ⟨cose, hcose, hkeyType, halgorithm, hcurve, hx, hy⟩ := decode?_coseKey point
  have hlength := length_attestedCredential fresh
  have hhash : d.rpIdHash.length = 32 := by
    rw [← hd]
    exact Sha256.length_digest _
  have hsize : d.bytes.length < 2 ^ 64 := by
    rw [AuthenticatorData.length_bytes hhash, ← hd]
    exact Nat.lt_trans (Nat.add_lt_add_left hlength _) (by decide)
  refine ⟨d.bytes, { d with counter := d.counter % 2 ^ 32 },
    ⟨List.replicate 16 0, fresh.rawId.bytes.length, fresh.rawId.bytes, (coseKey point).encode⟩, cose,
    BigEndian.ofNat 32 point.1, BigEndian.ofNat 32 point.2, ?_⟩
  have hmade : a.nextCredential challenge = ⟨Text.Base64Url.encodeText fresh.rawId.bytes,
      ClientData.bytes .create challenge a.origin, (attestation d.bytes).encode, fresh.key.publicKey⟩ := by
    rw [nextCredential, hfresh, hd]
  rw [hmade, hfresh]
  constructor
  case item => exact Cbor.decode?_encode (AuthenticatorData.fits_attestation hsize)
  case parts => exact AuthenticatorData.ofBytes_bytes_mod hhash
  case attested =>
    rw [← hd, ← hpoint]
    exact ofBytes?_attestedCredential fresh
  case rpIdHash | flags | counter =>
    rw [← hd]
    rfl
  case id => exact Text.Base64Url.decode?_encodeText _
  case key => exact hcose
  case keyType => exact hkeyType
  case algorithm => exact halgorithm
  case curve => exact hcurve
  case first => exact hx
  case second => exact hy
  case coordinates => exact ⟨BigEndian.length_ofNat 32 _, BigEndian.length_ofNat 32 _⟩
  case publicKey =>
    rw [← hpoint]
    rfl
  case model | idLength | rawId | own => rfl

/-- An authenticator that is not told to fail makes a credential that its attestation says the same of, whatever the
    key and the raw name are. The counter has four bytes. -/
theorem create_attests (hfail : a.failNext = none) (userName : String) (challenge : Bytes) :
    ∃ credential data d k cose x y, (a.create userName challenge).1 = .ok credential ∧
      credential.Attests a.rpId ((a.counter + 1) % 2 ^ 32) (a.supply a.made) data d k cose x y := by
  obtain ⟨data, d, k, cose, x, y, h⟩ := a.attests_nextCredential challenge
  exact ⟨_, data, d, k, cose, x, y, create_of_not_failing hfail userName challenge, h⟩

/-- The last key of the curve, a raw name of ones only, and the last number that the counter takes. -/
theorem create_attests_last :
    let key : SigningKey := ⟨P256.order - 1, by decide, by decide⟩
    let fresh : Fresh := ⟨key, List.replicate 16 0xff, rfl⟩
    let a : Authenticator := { initial "safeliza.test" none fun _ => fresh with counter := 2 ^ 32 - 2 }
    a.failNext = none ∧ ∃ credential data d k cose x y, (a.create "agent" [1, 2, 3]).1 = .ok credential ∧
      credential.Attests "safeliza.test" (2 ^ 32 - 1) fresh data d k cose x y := by
  intro key fresh a
  have hcounter : (a.counter + 1) % 2 ^ 32 = 2 ^ 32 - 1 := by decide
  have h := create_attests (a := a) rfl "agent" [1, 2, 3]
  rw [hcounter] at h
  exact ⟨rfl, h⟩

end Authenticator
end PasskeySession
