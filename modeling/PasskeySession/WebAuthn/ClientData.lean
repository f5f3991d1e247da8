import PasskeySession.Text.Base64Url
import PasskeySession.Text.Utf8

/-! # Client data

What a client tells the relying party about a ceremony, and the place in it where a validator looks for its
type. The origin stands in it as it is given. -/

namespace PasskeySession

/-- Whether a passkey is made or used. -/
inductive Ceremony
  | create
  | get
  deriving DecidableEq, Repr

namespace Ceremony

def text : Ceremony → String
  | create => "webauthn.create"
  | get => "webauthn.get"

end Ceremony

namespace ClientData

def chars (ceremony : Ceremony) (challenge : Bytes) (origin : String) : List Char :=
  "\x7b\"type\":\"".toList ++ ceremony.text.toList ++ "\",\"challenge\":\"".toList ++
    Text.Base64Url.encode challenge ++ "\",\"origin\":\"".toList ++ origin.toList ++
    "\",\"crossOrigin\":false\x7d".toList

def bytes (ceremony : Ceremony) (challenge : Bytes) (origin : String) : Bytes :=
  Text.utf8 (chars ceremony challenge origin)

/-- The key `"type":` with its quotes and its colon. -/
def typeKey : Bytes := [0x22, 0x74, 0x79, 0x70, 0x65, 0x22, 0x3a]

/-- Where one sequence of bytes first stands in another. -/
def offset? (key : Bytes) : Bytes → Option Nat
  | [] => if key.isEmpty then some 0 else none
  | b :: bs => if key.isPrefixOf (b :: bs) then some 0 else (offset? key bs).map (· + 1)

def typeIndex? (bs : Bytes) : Option Nat := offset? typeKey bs

end ClientData
end PasskeySession
