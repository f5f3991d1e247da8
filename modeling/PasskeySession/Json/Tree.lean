import PasskeySession.Json.Value
import PasskeySession.Text.Hex

/-! # Reading JSON

A text is read into a tree up to its first malformed place; the tree shows where that is, so what reads a
record from it meets faults in the order of the text. A string whose escapes name half a character has no
text and may only be skipped. -/

namespace PasskeySession.Json

/-- What was read of a text that may be malformed. -/
inductive Tree
  | null
  | bool (b : Bool)
  | number (n : Numeral)
  /-- A string; none if it has no text. -/
  | string (s : Option String)
  /-- An array; not closed if the text is malformed after its last item. -/
  | array (items : List Tree) (closed : Bool)
  /-- An object; not closed if the text is malformed after its last member. -/
  | object (members : List (Option String × Tree)) (closed : Bool)
  /-- A malformed value. -/
  | broken
  deriving Inhabited

namespace Tree

def isSpace (c : Char) : Bool := c == ' ' || c == '\n' || c == '\t' || c == '\r'

def skip (cs : List Char) : List Char := cs.dropWhile isSpace

/-! ### Numbers -/

def exponent? (cs : List Char) : Option (Exponent × List Char) :=
  let (negative, cs) := match cs with
    | '-' :: cs => (true, cs)
    | '+' :: cs => (false, cs)
    | cs => (false, cs)
  let digits := cs.takeWhile Char.isDigit
  if digits.isEmpty then none else some (⟨negative, digits⟩, cs.dropWhile Char.isDigit)

/-- The fraction, if a point follows; at least one digit then follows the point. -/
def fraction? : List Char → Option (List Char × List Char)
  | '.' :: cs =>
    let digits := cs.takeWhile Char.isDigit
    if digits.isEmpty then none else some (digits, cs.dropWhile Char.isDigit)
  | cs => some ([], cs)

def power? : List Char → Option (Option Exponent × List Char)
  | 'e' :: cs => (exponent? cs).map fun (e, rest) => (some e, rest)
  | 'E' :: cs => (exponent? cs).map fun (e, rest) => (some e, rest)
  | cs => some (none, cs)

/-- A nought alone, or digits that do not begin with nought. -/
def whole? (cs : List Char) : Option (List Char × List Char) :=
  let digits := cs.takeWhile Char.isDigit
  if digits.isEmpty || (digits.head? == some '0' && digits.length != 1) then none
  else some (digits, cs.dropWhile Char.isDigit)

def numeral? (negative : Bool) (cs : List Char) : Option (Numeral × List Char) := do
  let (whole, cs) ← whole? cs
  let (fraction, cs) ← fraction? cs
  let (exponent, cs) ← power? cs
  some (⟨negative, whole, fraction, exponent⟩, cs)

def wholeNumeral? (cs : List Char) : Option Numeral := do
  let (n, rest) ← match cs with
    | '-' :: cs => numeral? true cs
    | cs => numeral? false cs
  if rest.isEmpty then some n else none

/-! ### Strings -/

def hex4? (a b c d : Char) : Option Nat := do
  some ((((← Text.hexValue? a) * 16 + (← Text.hexValue? b)) * 16 + (← Text.hexValue? c)) * 16 + (← Text.hexValue? d))

def shortEscape? : Char → Option Char
  | '"' => some '"'
  | '\\' => some '\\'
  | '/' => some '/'
  | 'b' => some '\x08'
  | 'f' => some '\x0c'
  | 'n' => some '\n'
  | 'r' => some '\r'
  | 't' => some '\t'
  | _ => none

/-- The code units of a string up to its closing quote, and the text after it. -/
def units? : List Char → Option (List Nat × List Char)
  | [] => none
  | '"' :: cs => some ([], cs)
  | '\\' :: 'u' :: a :: b :: c :: d :: cs =>
    match hex4? a b c d, units? cs with
    | some n, some (us, rest) => some (n :: us, rest)
    | _, _ => none
  | '\\' :: c :: cs =>
    match shortEscape? c, units? cs with
    | some e, some (us, rest) => some (e.toNat :: us, rest)
    | _, _ => none
  | c :: cs =>
    if c.toNat < 0x20 ∨ c = '\\' then none
    else match units? cs with
      | some (us, rest) => some (c.toNat :: us, rest)
      | none => none

def isHigh (n : Nat) : Bool := 0xD800 ≤ n && n ≤ 0xDBFF

def isLow (n : Nat) : Bool := 0xDC00 ≤ n && n ≤ 0xDFFF

/-- The characters of code units; none if a half has no other half. -/
def join? : List Nat → Option (List Char)
  | [] => some []
  | [n] => if isHigh n || isLow n then none else some [Char.ofNat n]
  | n :: m :: us =>
    if isHigh n then
      if isLow m then (join? us).map (Char.ofNat (0x10000 + (n - 0xD800) * 0x400 + (m - 0xDC00)) :: ·)
      else none
    else if isLow n then none
    else (join? (m :: us)).map (Char.ofNat n :: ·)

def string? (cs : List Char) : Option (Option String × List Char) :=
  (units? cs).map fun (us, rest) => ((join? us).map String.ofList, rest)

/-! ### Values -/

def word? : List Char → List Char → Option (List Char)
  | [], cs => some cs
  | c :: w, d :: cs => if c = d then word? w cs else none
  | _ :: _, [] => none

mutual

/-- The next value. The rest is empty after a malformed one. -/
def value : (fuel : Nat) → List Char → Tree × List Char
  | 0, _ => (.broken, [])
  | fuel + 1, cs =>
    match skip cs with
    | 'n' :: cs => ((word? "ull".toList cs).map ((.null, ·))).getD (.broken, [])
    | 't' :: cs => ((word? "rue".toList cs).map ((.bool true, ·))).getD (.broken, [])
    | 'f' :: cs => ((word? "alse".toList cs).map ((.bool false, ·))).getD (.broken, [])
    | '"' :: cs => ((string? cs).map fun (s, rest) => (.string s, rest)).getD (.broken, [])
    | '[' :: cs =>
      match skip cs with
      | ']' :: cs => (.array [] true, cs)
      | cs => let (items, closed, rest) := items fuel cs; (.array items closed, rest)
    | '\x7b' :: cs =>
      match skip cs with
      | '\x7d' :: cs => (.object [] true, cs)
      | cs => let (members, closed, rest) := members fuel cs; (.object members closed, rest)
    | '-' :: cs => ((numeral? true cs).map fun (n, rest) => (.number n, rest)).getD (.broken, [])
    | cs => ((numeral? false cs).map fun (n, rest) => (.number n, rest)).getD (.broken, [])

/-- The items up to the closing bracket, and whether it was found. -/
def items : (fuel : Nat) → List Char → List Tree × Bool × List Char
  | 0, _ => ([], false, [])
  | fuel + 1, cs =>
    let (item, rest) := value fuel cs
    match skip rest with
    | ']' :: rest => ([item], true, rest)
    | ',' :: rest => let (items, closed, rest) := items fuel rest; (item :: items, closed, rest)
    | _ => ([item], false, [])

/-- The members up to the closing brace, and whether it was found. -/
def members : (fuel : Nat) → List Char → List (Option String × Tree) × Bool × List Char
  | 0, _ => ([], false, [])
  | fuel + 1, cs =>
    match skip cs with
    | '"' :: cs =>
      match string? cs with
      | none => ([], false, [])
      | some (name, rest) =>
        match skip rest with
        | ':' :: rest =>
          let (item, rest) := value fuel rest
          match skip rest with
          | '\x7d' :: rest => ([(name, item)], true, rest)
          | ',' :: rest =>
            let (members, closed, rest) := members fuel rest
            ((name, item) :: members, closed, rest)
          | _ => ([(name, item)], false, [])
        | _ => ([(name, .broken)], false, [])
    | _ => ([], false, [])

end

/-- A text as a tree, and whether the text ends there. -/
structure Document where
  root : Tree
  ended : Bool

def read (cs : List Char) : Document :=
  let (root, rest) := value (2 * cs.length + 2) cs
  ⟨root, (skip rest).isEmpty⟩

end Tree
end PasskeySession.Json
