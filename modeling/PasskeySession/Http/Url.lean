import PasskeySession.Http.Host
import PasskeySession.Text.Integer

/-! # Addresses of the web

An address is read as browsers read it: backslashes count as slashes, surplus slashes before the host are
skipped, dot segments are resolved, and characters that may not stand in a request are written as bytes. -/

namespace PasskeySession

/-- The parts of an address that a request needs. -/
structure Url where
  secure : Bool
  host : Host
  port : Option Nat
  /-- Path and query, as they are requested. -/
  target : String
  deriving DecidableEq, Repr

namespace Url

def isControlOrSpace (c : Char) : Bool := c.toNat ≤ 0x20

def isDropped (c : Char) : Bool := c == '\t' || c == '\n' || c == '\r'

def isSlash (c : Char) : Bool := c == '/' || c == '\\'

def endsAuthority (c : Char) : Bool := isSlash c || c == '?' || c == '#'

/-- What may not stand in a path as it is. -/
def escapedInPath (c : Char) : Bool :=
  c.toNat ≤ 0x20 || 0x7F ≤ c.toNat || "\"#<>?\x60\x7b\x7d".toList.contains c

/-- What may not stand in a query as it is. -/
def escapedInQuery (c : Char) : Bool :=
  c.toNat ≤ 0x20 || 0x7F ≤ c.toNat || "\"#<>'".toList.contains c

/-- A percent sign and two digits for each byte of a character that may not stand as it is. -/
def escape (p : Char → Bool) (cs : List Char) : List Char :=
  cs.flatMap fun c =>
    if p c then
      (Text.utf8 [c]).flatMap fun b => ['%', (Text.hexDigit (b.toNat / 16)).toUpper, (Text.hexDigit (b.toNat % 16)).toUpper]
    else [c]

/-- A segment that stands for the directory it is in. -/
def isDot (s : List Char) : Bool := [".", "%2e"].contains (String.ofList (s.map Char.toLower))

def isDoubleDot (s : List Char) : Bool :=
  ["..", ".%2e", "%2e.", "%2e%2e"].contains (String.ofList (s.map Char.toLower))

/-- A segment that stands for a drive: a letter, and a colon or a bar. -/
def isDrive : List Char → Bool
  | [letter, mark] => letter.isAlpha && (mark == ':' || mark == '|')
  | _ => false

/-- Leaves the latest segment for the directory above it. A drive has none above it. -/
def leave : List (List Char) → List (List Char)
  | [] => []
  | s :: before => if isDrive s then s :: before else before

/-- The segments of a path, after its first slash. -/
def segments (cs : List Char) : List (List Char) := Text.splitBy isSlash cs

/-- Resolves dot segments, onto the segments before, the latest first. -/
def resolve : (before : List (List Char)) → List (List Char) → List (List Char)
  | before, [] => before.reverse
  | before, [s] =>
    if isDoubleDot s then ([] :: leave before).reverse
    else if isDot s then ([] :: before).reverse
    else (s :: before).reverse
  | before, s :: ss =>
    if isDoubleDot s then resolve (leave before) ss
    else if isDot s then resolve before ss
    else resolve (s :: before) ss

/-- A path that begins with a slash, with its dot segments resolved. -/
def path (cs : List Char) : List Char :=
  match cs with
  | [] => ['/']
  | _ :: cs => (resolve [] (segments cs)).flatMap fun s => '/' :: escape escapedInPath s

/-- Path and query of what follows host and port. -/
def targetOf (cs : List Char) : List Char :=
  let cs := cs.takeWhile (· != '#')
  let query := cs.dropWhile (· != '?')
  path (cs.takeWhile (· != '?')) ++ (if query.isEmpty then [] else '?' :: escape escapedInQuery query.tail)

/-- The port after a host; none if there is no colon or nothing after it. -/
def port? : List Char → Option (Option Nat)
  | [] => some none
  | [':'] => some none
  | ':' :: cs =>
    if cs.all Char.isDigit then
      match Text.digitsBelow 65536 0 cs with
      | .ok n => some (some n)
      | .error _ => none
    else none
  | _ => none

def authority? (cs : List Char) : Option (Host × Option Nat) :=
  let cs := if cs.contains '@' then (cs.reverse.takeWhile (· != '@')).reverse else cs
  let size :=
    if cs.head? == some '[' then (cs.takeWhile (· != ']')).length + 1 else (cs.takeWhile (· != ':')).length
  match Host.parse? (cs.take size), port? (cs.drop size) with
  | some host, some port => some (host, port)
  | _, _ => none

/-- Whether a scheme is that of secured connections; none if it is not of the web. -/
def scheme? (cs : List Char) : Option Bool :=
  match String.ofList (cs.map Char.toLower) with
  | "http" => some false
  | "https" => some true
  | _ => none

def parse? (text : String) : Option Url := do
  let trimmed := (text.toList.dropWhile isControlOrSpace).reverse.dropWhile isControlOrSpace
  let cs := trimmed.reverse.filter fun c => !isDropped c
  let secure ← scheme? (cs.takeWhile (· != ':'))
  let rest := (cs.dropWhile (· != ':')).drop 1
  if (cs.dropWhile (· != ':')).isEmpty then none
  else
    let rest := rest.dropWhile isSlash
    let (host, port) ← authority? (rest.takeWhile (!endsAuthority ·))
    some ⟨secure, host, port, String.ofList (targetOf (rest.dropWhile (!endsAuthority ·)))⟩

/-- Whether nobody listens on the way to the host: the connection is secured, or does not leave the machine. -/
def isPrivate (u : Url) : Bool := u.secure || u.host.isLocal

end Url
end PasskeySession
