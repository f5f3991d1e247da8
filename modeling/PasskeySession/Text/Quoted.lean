import PasskeySession.Text.Hex
import PasskeySession.Text.Unprintable

/-! # Quoted text

The form in which a message shows a text it refuses: in double quotes, with a backslash before quote and
backslash, the short escapes of NUL, tab, line feed and carriage return, and the number of every other
character that could not be seen. -/

namespace PasskeySession.Text

def quotedChar (c : Char) : List Char :=
  match c with
  | '"' => ['\\', '"']
  | '\\' => ['\\', '\\']
  | '\n' => ['\\', 'n']
  | '\r' => ['\\', 'r']
  | '\t' => ['\\', 't']
  | '\x00' => ['\\', '0']
  | c => if isUnprintable c then ['\\', 'u', '\x7b'] ++ hexNumeral c.toNat ++ ['\x7d'] else [c]

def quoted (s : String) : String :=
  String.ofList ('"' :: s.toList.flatMap quotedChar ++ ['"'])

end PasskeySession.Text
