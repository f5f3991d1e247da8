import PasskeySession.Crypto.Der
import PasskeySession.Identifier
import PasskeySession.WebAuthn.AuthenticatorData
import PasskeySession.WebAuthn.Cbor
import PasskeySession.WebAuthn.ClientData
import PasskeySession.WebAuthn.Prompt

/-! # A passkey authenticator

An authenticator in software: it keeps its keys in the order in which they came, counts its prompts, and can
be told to let the next prompt fail. A prompt that fails changes nothing else. -/

namespace PasskeySession

/-- What a new credential is made of. -/
structure Fresh where
  key : SigningKey
  rawId : Word 16

/-- A key that an authenticator holds. -/
structure StoredCredential where
  id : String
  key : SigningKey
  userHandle : Bytes

/-- An authenticator. -/
structure Authenticator where
  rpId : String
  origin : String
  /-- The keys, in the order in which their names first came: the keys by their names and the order of the names are
      one list. -/
  credentials : List StoredCredential
  /-- How many prompts have succeeded. -/
  counter : Nat
  /-- How the next prompt is to fail. -/
  failNext : Option AuthenticatorError
  /-- What the new credentials are made of, one after the other. -/
  supply : Nat → Fresh
  /-- How many credentials have been made. -/
  made : Nat

namespace StoredCredential

/-- Puts a key in the place of the key of the same name, or at the end. -/
def store (c : StoredCredential) : List StoredCredential → List StoredCredential
  | [] => [c]
  | d :: ds => if d.id = c.id then c :: ds else d :: store c ds

end StoredCredential

namespace Authenticator

def initial (rpId : String) (origin : Option String) (supply : Nat → Fresh) : Authenticator :=
  ⟨rpId, origin.getD ("https://" ++ rpId), [], 0, none, supply, 0⟩

def ids (a : Authenticator) : List String := a.credentials.map (·.id)

def find? (a : Authenticator) (id : String) : Option StoredCredential := a.credentials.find? (·.id = id)

def importKey (a : Authenticator) (id : String) (key : SigningKey) (userHandle : Bytes) : Authenticator :=
  { a with credentials := StoredCredential.store ⟨id, key, userHandle⟩ a.credentials }

def scriptFailure (a : Authenticator) (e : AuthenticatorError) : Authenticator := { a with failNext := some e }

def nextData (a : Authenticator) (flags : UInt8) (rest : Bytes) : AuthenticatorData :=
  ⟨Sha256.digest (Text.utf8 a.rpId.toList), flags, a.counter + 1, rest⟩

/-- The flags of a user who was there and was recognised. -/
def userFlags : UInt8 := AuthenticatorData.userPresent ||| AuthenticatorData.userVerified

/-- A public key in the terms of COSE: an elliptic curve key for ECDSA with SHA-256 on P-256. -/
def coseKey (point : Nat × Nat) : Cbor :=
  .map [(.natural 1, .natural 2), (.natural 3, .negative 6), (.negative 0, .natural 1),
    (.negative 1, .bytes (BigEndian.ofNat 32 point.1)), (.negative 2, .bytes (BigEndian.ofNat 32 point.2))]

/-- What a new credential adds to authenticator data: no model, the raw name and the public key. -/
def attestedCredential (fresh : Fresh) : Bytes :=
  List.replicate 16 0 ++ BigEndian.ofNat 2 fresh.rawId.bytes.length ++ fresh.rawId.bytes ++
    (coseKey fresh.key.publicPoint).encode

def attestation (data : Bytes) : Cbor :=
  .map [(.text "fmt".toList, .text "none".toList), (.text "attStmt".toList, .map []),
    (.text "authData".toList, .bytes data)]

def create (a : Authenticator) (userName : String) (challenge : Bytes) :
    Except AuthenticatorError Credential × Authenticator :=
  match a.failNext with
  | some e => (.error e, { a with failNext := none })
  | none =>
    let fresh := a.supply a.made
    let id := Text.Base64Url.encodeText fresh.rawId.bytes
    let data := a.nextData (userFlags ||| AuthenticatorData.attested) (attestedCredential fresh)
    let credential : Credential :=
      ⟨id, ClientData.bytes .create challenge a.origin, (attestation data.bytes).encode, fresh.key.publicKey⟩
    (.ok credential,
      { a.importKey id fresh.key (Text.utf8 userName.toList) with counter := a.counter + 1, made := a.made + 1 })

/-- The credential that a prompt is for: the named one, or the one that came first. -/
def choose (a : Authenticator) : Option String → Option StoredCredential
  | some id => a.find? id
  | none => a.credentials.head?

def respond (a : Authenticator) (c : StoredCredential) (challenge : Bytes) : Assertion :=
  let clientData := ClientData.bytes .get challenge a.origin
  let data := (a.nextData userFlags []).bytes
  ⟨c.id, clientData, data, Der.encode (c.key.sign (data ++ Sha256.digest clientData)), some c.userHandle⟩

/-- Asks for an assertion, by a named credential or by the one that came first. -/
def request (a : Authenticator) (id : Option String) (challenge : Bytes) :
    Except AuthenticatorError Assertion × Authenticator :=
  match a.failNext with
  | some e => (.error e, { a with failNext := none })
  | none =>
    match a.choose id with
    | none => (.error .noCredential, a)
    | some c => (.ok (a.respond c challenge), { a with counter := a.counter + 1 })

def answer (a : Authenticator) : (p : Prompt) → p.Answer × Authenticator
  | .create userName challenge => a.create userName challenge
  | .use id challenge => a.request id challenge

end Authenticator
end PasskeySession
