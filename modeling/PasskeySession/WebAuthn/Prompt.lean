import PasskeySession.WebAuthn.Error
import PasskeySession.WebAuthn.Message

/-! # Prompts

What a user is asked to do with a passkey, and what may come of it. -/

namespace PasskeySession

/-- Something that a user is asked to do with a passkey. -/
inductive Prompt
  /-- To make a credential. -/
  | create (userName : String) (challenge : Bytes)
  /-- To answer a challenge, with the named credential or with any. -/
  | use (id : Option String) (challenge : Bytes)
  deriving DecidableEq

namespace Prompt

@[reducible] def Value : Prompt → Type
  | create .. => Credential
  | use .. => Assertion

/-- The answer to a prompt, or why there is none. -/
@[reducible] def Answer (p : Prompt) : Type := Except AuthenticatorError p.Value

end Prompt
end PasskeySession
