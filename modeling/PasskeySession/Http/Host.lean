import PasskeySession.Domain.Name
import PasskeySession.Text.Utf8

/-! # Hosts

The host of an address is a name, four bytes written as up to four numbers, or sixteen bytes in brackets. A
name that ends in a number has to be four bytes. -/

namespace PasskeySession

/-- A host. -/
inductive Host
  /-- A name in ASCII. -/
  | name (text : String)
  /-- Four bytes, as one number. -/
  | fourBytes (n : Nat)
  /-- Sixteen bytes, as eight numbers of two bytes. -/
  | sixteenBytes (groups : List Nat)
  deriving DecidableEq, Repr

namespace Host

def isForbidden (c : Char) : Bool :=
  c.toNat ≤ 0x20 || c.toNat == 0x7F || "\"#/:<>?@[\\]^\x60\x7b|\x7d%".toList.contains c

/-- The bytes of a text in which a percent sign and two digits stand for one. -/
def percentDecode : List Char → Bytes
  | '%' :: a :: b :: cs =>
    match Text.hexValue? a, Text.hexValue? b with
    | some hi, some lo => UInt8.ofNat (hi * 16 + lo) :: percentDecode cs
    | _, _ => 0x25 :: percentDecode (a :: b :: cs)
  | c :: cs => Text.utf8 [c] ++ percentDecode cs
  | [] => []

/-! ### Four bytes -/

def digits? (base : Nat) (cs : List Char) : Option Nat :=
  cs.foldl (fun n c => do
    let d ← Text.hexValue? c
    if d < base then some ((← n) * base + d) else none) (some 0)

/-- A number in base sixteen after `0x`, in base eight after a nought, else in base ten. -/
def number? : List Char → Option Nat
  | [] => none
  | '0' :: 'x' :: cs => digits? 16 cs
  | '0' :: cs => digits? 8 cs
  | cs => digits? 10 cs

/-- The parts between the points of a name; a point at its end does not count. -/
def labels (cs : List Char) : List (List Char) :=
  let parts := Text.splitBy (· == '.') cs
  if 1 < parts.length && parts.getLast? == some [] then parts.dropLast else parts

/-- Whether the last part of a name is a number. -/
def endsInNumber (cs : List Char) : Bool :=
  match (labels cs).getLast? with
  | none => false
  | some part => !part.isEmpty && (part.all Char.isDigit || (number? part).isSome)

/-- The number of numbers that are bytes, save the last one, which fills all the places that are left. -/
def join? : (places : Nat) → List Nat → Option Nat
  | 0, _ => none
  | _, [] => none
  | places, [n] => if n < Nat.pow 256 places then some n else none
  | places + 1, n :: ns => if n < 256 then (join? places ns).map (n * Nat.pow 256 places + ·) else none

def dotted (n : Nat) : List Char :=
  ['.'].intercalate (([16777216, 65536, 256, 1] : List Nat).map fun unit => Nat.toDigits 10 (n / unit % 256))

def fourBytes? (cs : List Char) : Option Nat := do
  let ns ← (labels cs).mapM number?
  join? 4 ns

/-! ### Sixteen bytes -/

def group? (cs : List Char) : Option Nat :=
  if 1 ≤ cs.length && cs.length ≤ 4 then digits? 16 cs else none

def byte? (cs : List Char) : Option Nat :=
  if 1 ≤ cs.length && cs.length ≤ 3 && cs.all Char.isDigit && (cs.length == 1 || cs.head? != some '0') then
    (digits? 10 cs).filter (· < 256)
  else none

/-- The groups of four bytes with points between, each written in full. -/
def dottedGroups? (cs : List Char) : Option (List Nat) :=
  match (Text.splitBy (· == '.') cs).mapM byte? with
  | some [a, b, c, d] => some [a * 256 + b, c * 256 + d]
  | _ => none

/-- The groups of parts. The last part may be four bytes, if that is allowed. -/
def groups? (last : Bool) : List (List Char) → Option (List Nat)
  | [] => some []
  | [part] => ((group? part).map ([·])).or (if last then dottedGroups? part else none)
  | part :: parts =>
    match group? part, groups? last parts with
    | some n, some ns => some (n :: ns)
    | _, _ => none

def side? (last : Bool) (cs : List Char) : Option (List Nat) :=
  if cs.isEmpty then some [] else groups? last (Text.splitBy (· == ':') cs)

/-- What stands before and after the first two colons in a row. -/
def gap? : List Char → Option (List Char × List Char)
  | ':' :: ':' :: cs => some ([], cs)
  | c :: cs => (gap? cs).map fun (before, after) => (c :: before, after)
  | [] => none

/-- Eight groups; a gap stands for those that are missing, which are noughts. -/
def sixteenBytes? (cs : List Char) : Option (List Nat) :=
  match gap? cs with
  | none => (side? true cs).filter (·.length == 8)
  | some (before, after) => do
    let before ← side? false before
    let after ← side? true after
    let missing := 8 - (before.length + after.length)
    if missing = 0 then none else some (before ++ List.replicate missing 0 ++ after)

def colons (groups : List Nat) : List Char := [':'].intercalate (groups.map Text.hexNumeral)

/-- The first of the longest runs of noughts, of at least two: where it begins and how long it is. -/
def longestRun? (groups : List Nat) : Option (Nat × Nat) :=
  ([8, 7, 6, 5, 4, 3, 2].flatMap fun size => (List.range (9 - size)).map (·, size)).find? fun (start, size) =>
    ((groups.drop start).take size).all (· == 0)

/-- Eight groups, with a gap in place of the longest run of noughts. -/
def grouped (groups : List Nat) : List Char :=
  match longestRun? groups with
  | none => colons groups
  | some (start, size) => colons (groups.take start) ++ ':' :: ':' :: colons (groups.drop (start + size))

/-! ### Hosts -/

/-- The way in which a host is written in an address. -/
def text : Host → String
  | .name text => text
  | .fourBytes n => String.ofList (dotted n)
  | .sixteenBytes groups => String.ofList ('[' :: grouped groups ++ [']'])

def parse? : List Char → Option Host
  | '[' :: cs => if cs.getLast? == some ']' then (sixteenBytes? cs.dropLast).map .sixteenBytes else none
  | cs => do
    let name ← DomainName.normalize? (Text.Utf8.decodeLossy (percentDecode cs))
    if name.isEmpty || name.any isForbidden then none
    else if endsInNumber name then (fourBytes? name).map .fourBytes
    else some (.name (String.ofList name))

def isLocal : Host → Bool
  | .name text => text == "localhost"
  | .fourBytes n => n / 16777216 == 127
  | .sixteenBytes groups => groups == [0, 0, 0, 0, 0, 0, 0, 1]

end Host
end PasskeySession
