import PasskeySession.Proofs.Crypto.Der
import PasskeySession.Proofs.Text.Base64Url
import PasskeySession.Proofs.WebAuthn.ValidatorSignature
import PasskeySession.Session.Operation
import PasskeySession.WebAuthn.Authenticator

/-! # What an authenticator signs for a hash

Client data in which the origin stands as it is given still tell the type first and the challenge next, and the
challenge reads back as the hash. So the signature of a hash, taken apart by a validator, is that of the stored
key over this hash and no other. -/

namespace PasskeySession

/-! ### Client data -/

namespace ClientData
variable {challenge : Bytes} {origin : String}

/-- What client data end with, after the quote that ends the challenge. -/
def closingChars (origin : String) : List Char :=
  ",\"origin\":\"".toList ++ origin.toList ++ "\",\"crossOrigin\":false\x7d".toList

/-- What client data of a ceremony begin with: the type, and the name of the challenge. -/
def beginning (ceremony : Ceremony) : Bytes :=
  Text.utf8 ("\x7b\"type\":\"".toList ++ ceremony.text.toList ++ "\",\"challenge\":\"".toList)

/-- The challenge that client data of a ceremony tell: what stands from their beginning to the next quote, in
    base64url. -/
def challengeOf? (ceremony : Ceremony) (bs : Bytes) : Option Bytes :=
  if (beginning ceremony).isPrefixOf bs then
    (Text.Utf8.decode? ((bs.drop (beginning ceremony).length).takeWhile (· != 0x22))).bind fun cs =>
      Text.Base64Url.decode? (String.ofList cs)
  else none

theorem bytes_eq (ceremony : Ceremony) (challenge : Bytes) (origin : String) : bytes ceremony challenge origin =
    beginning ceremony ++
      (Text.utf8 (Text.Base64Url.encode challenge) ++ 0x22 :: Text.utf8 (closingChars origin)) := by
  have hquote : String.utf8EncodeChar '"' = [0x22] := Text.utf8EncodeChar_ascii (by decide)
  have hmiddle : "\",\"origin\":\"".toList = '"' :: ",\"origin\":\"".toList := by decide +kernel
  unfold bytes chars beginning closingChars
  rw [hmiddle]
  -- The texts are kept closed: only their places move.
  generalize "\x7b\"type\":\"".toList = first
  generalize "\",\"challenge\":\"".toList = second
  generalize ",\"origin\":\"".toList = third
  generalize "\",\"crossOrigin\":false\x7d".toList = last
  simp only [Text.utf8_append, Text.utf8_cons, hquote, List.append_assoc, List.cons_append, List.nil_append]

example : beginning .get = Text.utf8 "\x7b\"type\":\"webauthn.get\",\"challenge\":\"".toList := by decide +kernel

/-- The challenge is read back, whatever the origin is. -/
theorem challengeOf?_bytes (ceremony : Ceremony) (challenge : Bytes) (origin : String) :
    challengeOf? ceremony (bytes ceremony challenge origin) = some challenge := by
  have plain := Text.Base64Url.plain_encode challenge
  have hascii : ∀ c ∈ Text.Base64Url.encode challenge, c.toNat < 128 := fun c hc => (plain c hc).ascii
  have hquote : ∀ b ∈ Text.utf8 (Text.Base64Url.encode challenge), (b != 0x22) = true := by
    intro b hb
    rw [Text.utf8_ascii hascii] at hb
    obtain ⟨c, hc, rfl⟩ := List.mem_map.mp hb
    rw [bne_iff_ne]
    intro hbyte
    have hnat := congrArg UInt8.toNat hbyte
    rw [UInt8.toNat_ofNat_of_lt' (Nat.lt_of_lt_of_le (hascii c hc) (by decide))] at hnat
    exact (plain c hc).quote (Char.toNat_inj.mp hnat)
  have hprefix : (beginning ceremony).isPrefixOf (bytes ceremony challenge origin) = true := by
    rw [List.isPrefixOf_iff_prefix, bytes_eq]
    exact List.prefix_append _ _
  rw [challengeOf?, if_pos hprefix, bytes_eq, List.drop_left, List.takeWhile_append_of_pos hquote,
    List.takeWhile_cons_of_neg (by decide), List.append_nil, Text.Utf8.decode?_utf8, Option.bind_some]
  exact Text.Base64Url.decode?_encodeText challenge

/-- The type is told first, whatever else is told. -/
theorem typeIndex?_bytes : typeIndex? (bytes .get challenge origin) = some 1 := by
  obtain ⟨more, hmore⟩ : ∃ more, beginning .get = 0x7b :: (typeKey ++ more) :=
    ⟨(beginning .get).drop 8, by decide +kernel⟩
  rw [typeIndex?, bytes_eq, hmore, offset?_eq_some_iff]
  generalize Text.utf8 (Text.Base64Url.encode challenge) ++ 0x22 :: Text.utf8 (closingChars origin) = rest
  refine ⟨⟨more ++ rest, by simp⟩, fun j hj => ?_⟩
  cases j with
  | succ j => exact Nat.succ_le_succ (Nat.zero_le j)
  | zero =>
    obtain ⟨after, hafter⟩ := hj
    cases hafter

theorem length_encode_le (bs : Bytes) : (Text.Base64Url.encode bs).length ≤ 2 * bs.length := by
  induction bs using Text.Base64Url.encode.induct with
  | case1 => exact Nat.le_refl 0
  | case2 | case3 => simp [Text.Base64Url.encode]
  | case4 a b c bs ih =>
    simp only [Text.Base64Url.encode, List.length_cons]
    omega

theorem length_closing (origin : String) :
    (Text.utf8 (closingChars origin)).length = 33 + (Text.utf8 origin.toList).length := by
  have hmiddle : (Text.utf8 ",\"origin\":\"".toList).length = 11 := by decide +kernel
  have hlast : (Text.utf8 "\",\"crossOrigin\":false\x7d".toList).length = 22 := by decide +kernel
  unfold closingChars
  generalize ",\"origin\":\"".toList = middle at hmiddle ⊢
  generalize "\",\"crossOrigin\":false\x7d".toList = last at hlast ⊢
  rw [Text.utf8_append, Text.utf8_append, List.length_append, List.length_append, hmiddle, hlast]
  omega

theorem length_bytes_le (challenge : Bytes) (origin : String) : (bytes .get challenge origin).length ≤
    100 + 2 * challenge.length + (Text.utf8 origin.toList).length := by
  have hbeginning : (beginning .get).length = 36 := by decide +kernel
  have hclosing := length_closing origin
  have hencode := length_encode_le challenge
  have hascii : (Text.utf8 (Text.Base64Url.encode challenge)).length = (Text.Base64Url.encode challenge).length := by
    rw [Text.utf8_ascii fun c hc => (Text.Base64Url.plain_encode challenge c hc).ascii, List.length_map]
  rw [bytes_eq, List.length_append, List.length_append, List.length_cons, hbeginning, hclosing, hascii]
  omega

end ClientData

/-! ### Signatures -/

/-- The lesser of the two signatures that differ in the sign of `s`. -/
structure Signature.IsLow (g low : Signature) : Prop where
  r : low.r = g.r
  s : low.s = g.s ∨ low.s = P256.order - g.s
  le : low.s ≤ P256.order / 2

theorem Signature.isLow (g : Signature) : g.IsLow g.low := by
  have hparts : g.low.r = g.r ∧ (g.low.s = g.s ∨ g.low.s = P256.order - g.s) := by
    unfold low
    split
    · exact ⟨rfl, Or.inr rfl⟩
    · exact ⟨rfl, Or.inl rfl⟩
  have hle : g.low.s ≤ P256.order / 2 := by
    have := g.low_lt
    omega
  exact ⟨hparts.1, hparts.2, hle⟩

theorem Signature.ofDer_encode (g : Signature) : ∃ low, g.IsLow low ∧ ofDer (Der.encode g) = .ok low := by
  refine ⟨g.low, g.isLow, ?_⟩
  rw [ofDer, Der.decode?_encode]

namespace Authenticator
variable {a b : Authenticator} {c d : StoredCredential} {id : String} {hash other : OperationHash}
  {e f : EncodedSignature} {args args' : ValidatorArguments}

theorem length_nextData (flags : UInt8) (rest : Bytes) : (a.nextData flags rest).bytes.length = 37 + rest.length := by
  simp only [nextData, AuthenticatorData.bytes, List.length_append, List.length_cons, Sha256.length_digest,
    BigEndian.length_ofNat]

/-- An authenticator that is not told to fail answers for every credential that it has. -/
theorem answer_use (hfail : a.failNext = none) (hc : a.find? id = some c) (challenge : Bytes) :
    a.answer (.use (some id) challenge) = (.ok (a.respond c challenge), { a with counter := a.counter + 1 }) := by
  have hchoose : a.choose (some id) = some c := hc
  rw [answer, request, hfail]
  dsimp only
  rw [hchoose, ← hfail]

theorem held_respond (hsize : (Text.utf8 a.origin.toList).length < 2 ^ 63) (c : StoredCredential)
    (hash : OperationHash) : (a.respond c hash.bytes).Held := by
  constructor
  · rw [respond, length_nextData]
    decide
  · have hle := ClientData.length_bytes_le hash.bytes a.origin
    rw [hash.size] at hle
    change (ClientData.bytes .get hash.bytes a.origin).length < 2 ^ 64
    omega

/-- A validator is given the assertion with the lesser signature. -/
theorem toValidator_respond (a : Authenticator) (c : StoredCredential) (challenge : Bytes) : ∃ low,
    (c.key.sign ((a.nextData userFlags []).bytes ++
      Sha256.digest (ClientData.bytes .get challenge a.origin))).IsLow low ∧
    (a.respond c challenge).toValidator false = .ok ⟨Abi.encode ((a.respond c challenge).arguments 1 low false)⟩ := by
  obtain ⟨low, hlow, hder⟩ := Signature.ofDer_encode (c.key.sign ((a.nextData userFlags []).bytes ++
    Sha256.digest (ClientData.bytes .get challenge a.origin)))
  have hlength : 37 ≤ (a.respond c challenge).authenticatorData.length := by
    rw [respond, length_nextData]
    exact Nat.le_refl 37
  exact ⟨low, hlow, Assertion.toValidator_eq_ok_iff.mpr
    ⟨hlength, 1, low, ClientData.typeIndex?_bytes, hder, rfl⟩⟩

/-- What it is for a credential of an authenticator to sign a hash: the signature, and what a validator takes it
    apart into. -/
structure Signs (a : Authenticator) (c : StoredCredential) (hash : OperationHash) (e : EncodedSignature)
    (args : ValidatorArguments) : Prop where
  /-- The operation asks for an assertion by the credential, and with the answer it is done. -/
  signs : ∀ w : World, w.start (.sign c.id hash) = some (w, .waiting (.signHash c.id hash)) ∧
    (Waiting.signHash c.id hash).question = .prompt (.use (some c.id) hash.bytes) ∧
    w.resume (.signHash c.id hash) (a.answer (.use (some c.id) hash.bytes)).1 = (w, .done (.signature e))
  counts : (a.answer (.use (some c.id) hash.bytes)).2 = { a with counter := a.counter + 1 }
  reads : ValidatorArguments.ofText? e.text = some args
  authenticatorData : args.authenticatorData = Sha256.digest (Text.utf8 a.rpId.toList) ++
    (AuthenticatorData.userPresent ||| AuthenticatorData.userVerified) :: BigEndian.ofNat 4 (a.counter + 1)
  beginning : ClientData.beginning .get <+: args.clientData
  challenge : ClientData.challengeOf? .get args.clientData = some hash.bytes
  typeIndex : args.typeIndex = 1
  usePrecompiled : args.usePrecompiled = false
  r : 1 ≤ args.r ∧ args.r < P256.order
  s : 1 ≤ args.s ∧ args.s ≤ P256.order / 2
  /-- The two numbers are those of the stored key over the data and the digest, save for the sign of `s`. -/
  signature : args.r = (c.key.sign (args.authenticatorData ++ Sha256.digest args.clientData)).r ∧
    (args.s = (c.key.sign (args.authenticatorData ++ Sha256.digest args.clientData)).s ∨
      args.s = P256.order - (c.key.sign (args.authenticatorData ++ Sha256.digest args.clientData)).s)

theorem signs_respond (hfail : a.failNext = none) (hsize : (Text.utf8 a.origin.toList).length < 2 ^ 63)
    (hc : a.find? c.id = some c) (hash : OperationHash) : ∃ e args, a.Signs c hash e args := by
  have hanswer := answer_use hfail hc hash.bytes
  obtain ⟨low, hlow, hvalidator⟩ := a.toValidator_respond c hash.bytes
  have hread : ValidatorArguments.decode? (Abi.encode ((a.respond c hash.bytes).arguments 1 low false)) = some _ :=
    (held_respond hsize c hash).decode?_encode (Assertion.typeIndex?_le ClientData.typeIndex?_bytes)
  refine ⟨_, _, {
    signs := fun w => ⟨rfl, rfl, ?_⟩
    counts := congrArg Prod.snd hanswer
    reads := (EncodedSignature.ofText?_text _).trans hread
    authenticatorData := List.append_nil _
    beginning := ⟨_, (ClientData.bytes_eq .get hash.bytes a.origin).symm⟩
    challenge := ClientData.challengeOf?_bytes .get hash.bytes a.origin
    typeIndex := rfl
    usePrecompiled := rfl
    r := ⟨low.rPositive, low.rBelow⟩
    s := ⟨low.sPositive, hlow.le⟩
    signature := ⟨hlow.r, hlow.s⟩ }⟩
  rw [hanswer]
  change (w, Progress.finished ((signatureOf (.ok (a.respond c hash.bytes))).map .signature)) = _
  rw [signatureOf, hvalidator]
  rfl

theorem find?_of_mem (h : id ∈ a.ids) : ∃ c ∈ a.credentials, a.find? id = some c ∧ c.id = id := by
  obtain ⟨d, hd, rfl⟩ := List.mem_map.mp h
  cases hfind : a.find? d.id with
  | none => simpa using List.find?_eq_none.mp hfind d hd
  | some c => exact ⟨c, List.mem_of_find?_eq_some hfind, rfl, by simpa using List.find?_some hfind⟩

/-- Client data of a signature tell its hash. -/
theorem Signs.hash_eq (h : a.Signs c hash e args) (h' : b.Signs d other f args')
    (same : args.clientData = args'.clientData) : hash = other := by
  have hbytes : some hash.bytes = some other.bytes := by rw [← h.challenge, ← h'.challenge, same]
  cases hash
  cases other
  cases hbytes
  rfl

/-- An authenticator that is not told to fail signs every hash with every credential, whatever its origin is (a text
    in memory is shorter than `2 ^ 63` bytes), and never two hashes with the same client data. -/
theorem signs_hash (hfail : a.failNext = none) (hsize : (Text.utf8 a.origin.toList).length < 2 ^ 63) :
    (∀ id ∈ a.ids, ∃ c ∈ a.credentials, a.find? id = some c ∧ c.id = id ∧
      ∀ hash, ∃ e args, a.Signs c hash e args) ∧
    ∀ (b : Authenticator) c d hash other e f args args', a.Signs c hash e args → b.Signs d other f args' →
      hash ≠ other → args.clientData ≠ args'.clientData := by
  constructor
  · intro id hid
    obtain ⟨c, hc, hfind, rfl⟩ := find?_of_mem hid
    exact ⟨c, hc, hfind, rfl, signs_respond hfail hsize hfind⟩
  · intro b c d hash other e f args args' h h' hne same
    exact hne (h.hash_eq h' same)

/-- An authenticator whose origin ends its own text and tells another type and another challenge. -/
theorem signs_hash_injected :
    let key : SigningKey := ⟨1, by decide, by decide⟩
    let supply := fun _ : Nat => (⟨key, List.replicate 16 0, rfl⟩ : Fresh)
    let origin := "x\",\"type\":\"webauthn.create\",\"challenge\":\"AAAA"
    let a := (initial "safeliza.test" (some origin) supply).importKey "key" key []
    a.failNext = none ∧ (Text.utf8 a.origin.toList).length < 2 ^ 63 ∧ "key" ∈ a.ids ∧
      ∀ hash, ∃ c e args, a.find? "key" = some c ∧ c.key = key ∧ a.Signs c hash e args := by
  intro key supply origin a
  have hsize : (Text.utf8 a.origin.toList).length < 2 ^ 63 := by decide +kernel
  have hid : "key" ∈ a.ids := List.mem_singleton.mpr rfl
  refine ⟨rfl, hsize, hid, fun hash => ?_⟩
  obtain ⟨c, hc, hfind, -, hsigns⟩ := (signs_hash (a := a) rfl hsize).1 "key" hid
  obtain ⟨e, args, h⟩ := hsigns hash
  cases List.mem_singleton.mp hc
  exact ⟨_, e, args, hfind, rfl, h⟩

end Authenticator
end PasskeySession
