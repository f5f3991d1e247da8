import PasskeySession.Crypto.BigEndian
import PasskeySession.WebAuthn.Error

/-! # Authenticator data

What an authenticator signs beside the client data: the digest of the relying party's name, flags and the
number of the prompt, and after them whatever a new credential adds. -/

namespace PasskeySession

/-- Authenticator data. -/
structure AuthenticatorData where
  rpIdHash : Bytes
  flags : UInt8
  counter : Nat
  rest : Bytes
  deriving DecidableEq

namespace AuthenticatorData

def userPresent : UInt8 := 0x01

def userVerified : UInt8 := 0x04

def attested : UInt8 := 0x40

def least : Nat := 37

def bytes (d : AuthenticatorData) : Bytes := d.rpIdHash ++ d.flags :: BigEndian.ofNat 4 d.counter ++ d.rest

def ofBytes (bs : Bytes) : Except AuthenticatorError AuthenticatorData :=
  if bs.length < least then .error (.invalidAssertion (.shortData bs.length))
  else .ok ⟨bs.take 32, bs.getD 32 0, BigEndian.toNat ((bs.drop 33).take 4), bs.drop least⟩

def has (d : AuthenticatorData) (flag : UInt8) : Bool := d.flags &&& flag != 0

end AuthenticatorData
end PasskeySession
