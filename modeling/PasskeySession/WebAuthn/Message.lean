import PasskeySession.Json.Value
import PasskeySession.Text.Base64Url

/-! # Credentials and assertions

What a passkey gives when it is made and when it is used, and how a relying party is told. -/

namespace PasskeySession

/-- A new credential. -/
structure Credential where
  id : String
  clientData : Bytes
  attestation : Bytes
  publicKey : Bytes
  deriving DecidableEq

/-- An answer to a challenge. -/
structure Assertion where
  id : String
  clientData : Bytes
  authenticatorData : Bytes
  signature : Bytes
  userHandle : Option Bytes
  deriving DecidableEq

/-- A signature as a validator takes it. -/
structure EncodedSignature where
  bytes : Bytes
  deriving DecidableEq

namespace Credential

/-- The public key, with the mark of base sixteen. -/
def publicKeyHex (c : Credential) : String := String.ofList ('0' :: 'x' :: Text.toHex c.publicKey)

/-- A new credential as the relying party is told of it. -/
def toJson (c : Credential) : Json :=
  .object [("id", .string c.id),
    ("response", .object [("clientDataJSON", .string (Text.Base64Url.encodeText c.clientData)),
      ("attestationObject", .string (Text.Base64Url.encodeText c.attestation))]),
    ("publicKeyHex", .string c.publicKeyHex)]

end Credential

namespace Assertion

/-- An answer to a challenge as the relying party is told of it. -/
def toJson (a : Assertion) : Json :=
  .object [("id", .string a.id),
    ("response", .object [("clientDataJSON", .string (Text.Base64Url.encodeText a.clientData)),
      ("authenticatorData", .string (Text.Base64Url.encodeText a.authenticatorData)),
      ("signature", .string (Text.Base64Url.encodeText a.signature)),
      ("userHandle", .ofString? (a.userHandle.map Text.Base64Url.encodeText))])]

end Assertion

namespace EncodedSignature

def text (s : EncodedSignature) : String := String.ofList ('0' :: 'x' :: Text.toHex s.bytes)

/-- The number of bytes in place of the bytes. -/
def debugText (s : EncodedSignature) : String := "EncodedSignature(" ++ toString s.bytes.length ++ " bytes)"

def toJson (s : EncodedSignature) : Json := .string s.text

end EncodedSignature
end PasskeySession
