import PasskeySession.Fault
import PasskeySession.Json.Printer
import PasskeySession.Text.Integer

/-! # Why a text is no record

A text is refused because it is malformed or has the wrong shape, which needs no words, or because a value
inside it is refused for a reason of its own, which its message tells. -/

namespace PasskeySession

/-- The reason for which a value inside a well-formed text is refused. -/
inductive Refusal
  | fault (f : Fault)
  | decimalsOutOfRange
  | notDecimals (found : Json)
  | notAmount (found : Json)
  | integer (f : Text.IntegerFault)

namespace Refusal

/-- The sentence that tells a reader what was refused. -/
def message : Refusal → String
  | fault f => f.message
  | decimalsOutOfRange => "token decimals out of range"
  | notDecimals found => "expected token decimals, found " ++ found.compact
  | notAmount found => "expected decimal string, found " ++ found.compact
  | integer f => f.message

end Refusal

/-- The first fault met while a record is read from left to right. -/
inductive DecodeError
  | mismatch
  | refused (r : Refusal)

namespace DecodeError

def message? : DecodeError → Option String
  | mismatch => none
  | refused r => some r.message

end DecodeError
end PasskeySession
