import PasskeySession.Fault
import PasskeySession.Text.Blank

/-! # Identifiers

Addresses, operation hashes and function selectors: a fixed number of bytes, written as `0x` and lower-case
digits and read from digits of either case after `0x` or `0X`. -/

namespace PasskeySession

/-- Exactly `n` bytes. -/
structure Word (n : Nat) where
  bytes : Bytes
  size : bytes.length = n
  deriving DecidableEq

namespace Word
variable {n : Nat}

/-- The word of the given bytes, if there are as many as it needs. -/
def ofBytes? (n : Nat) (bs : Bytes) : Option (Word n) :=
  if h : bs.length = n then some ⟨bs, h⟩ else none

def digits? : List Char → Option (List Char)
  | '0' :: 'x' :: cs => some cs
  | '0' :: 'X' :: cs => some cs
  | _ => none

/-- Reads two digits for each byte after the mark of base sixteen. -/
def ofChars? (n : Nat) (cs : List Char) : Option (Word n) :=
  (digits? cs).bind fun ds => (Text.ofHex? ds).bind (ofBytes? n)

/-- Reads a text, without the white space around it. -/
def ofText? (n : Nat) (text : String) : Option (Word n) := ofChars? n (Text.trim text.toList)

/-- The mark of base sixteen and two lower-case digits for each byte. -/
def chars (w : Word n) : List Char := '0' :: 'x' :: Text.toHex w.bytes

def text (w : Word n) : String := String.ofList w.chars

/-- Bytes compared one by one, the first difference deciding. -/
def below : Bytes → Bytes → Bool
  | [], _ => true
  | _ :: _, [] => false
  | a :: as, b :: bs => a < b || (a == b && below as bs)

def le (v w : Word n) : Bool := below v.bytes w.bytes

end Word

abbrev Address := Word 20

/-- The hash of an operation that waits for a signature. -/
abbrev OperationHash := Word 32

/-- The first four bytes of a call, which name a function. -/
abbrev Selector := Word 4

namespace Address

def parse (text : String) : Except Fault Address :=
  match Word.ofText? 20 text with
  | some w => .ok w
  | none => .error (.address text)

/-- The text of an address with the name of its type around it. -/
def debugText (a : Address) : String := "Address(" ++ a.text ++ ")"

end Address

namespace OperationHash

def parse (text : String) : Except Fault OperationHash :=
  match Word.ofText? 32 text with
  | some w => .ok w
  | none => .error (.hash text)

/-- The text of a hash with the name of its type around it. -/
def debugText (h : OperationHash) : String := "OperationHash(" ++ h.text ++ ")"

end OperationHash

namespace Selector

def parse (text : String) : Except Fault Selector :=
  match Word.ofText? 4 text with
  | some w => .ok w
  | none => .error (.selector text)

/-- The text of a selector with the name of its type around it. -/
def debugText (s : Selector) : String := "Selector(" ++ s.text ++ ")"

end Selector
end PasskeySession
