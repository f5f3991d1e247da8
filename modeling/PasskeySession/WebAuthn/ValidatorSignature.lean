import PasskeySession.Crypto.Der
import PasskeySession.WebAuthn.Abi
import PasskeySession.WebAuthn.AuthenticatorData
import PasskeySession.WebAuthn.ClientData
import PasskeySession.WebAuthn.Message

/-! # Signatures for the validator

The arguments of the contract that checks an assertion: authenticator data, client data, the place of the
type in it, the two numbers of the signature with the lesser `s`, and whether the chain's own check is to
be used. -/

namespace PasskeySession

namespace Signature

/-- The signature that bytes write, with the lesser of its two values of `s`. -/
def ofDer (bs : Bytes) : Except AuthenticatorError Signature :=
  match Der.decode? bs with
  | some g => .ok g.low
  | none => .error (.invalidAssertion .badSignature)

end Signature

namespace Assertion

def arguments (a : Assertion) (typeIndex : Nat) (g : Signature) (usePrecompiled : Bool) : List Abi.Value :=
  [.bytes a.authenticatorData, .bytes a.clientData, .uint typeIndex, .uint g.r, .uint g.s,
    .uint usePrecompiled.toNat]

def argumentKinds : List Abi.Kind := [.bytes, .bytes, .uint, .uint, .uint, .uint]

def toValidator (a : Assertion) (usePrecompiled : Bool) : Except AuthenticatorError EncodedSignature := do
  let _ ← AuthenticatorData.ofBytes a.authenticatorData
  match ClientData.typeIndex? a.clientData with
  | none => .error (.invalidAssertion .noTypeKey)
  | some typeIndex => do
    let g ← Signature.ofDer a.signature
    .ok ⟨Abi.encode (a.arguments typeIndex g usePrecompiled)⟩

end Assertion
end PasskeySession
