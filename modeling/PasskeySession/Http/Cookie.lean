import PasskeySession.Http.Date
import PasskeySession.Http.Host

/-! # Cookies

What a server asks to be told again. A cookie goes to the hosts of its domain and the paths below its own, and
a cookie of the same name, domain and path takes its place; one whose time is over takes it away. -/

namespace PasskeySession

/-- A cookie. -/
structure Cookie where
  name : String
  value : String
  domain : String
  path : String
  /-- Only for connections on which nobody listens. -/
  secure : Bool
  deriving DecidableEq, Repr

namespace Cookie

def parts (cs : List Char) : List (List Char) := Text.splitBy (· == ';') cs

/-- Name and value around the first equals sign, without the white space around them. -/
def pair (cs : List Char) : List Char × Option (List Char) :=
  let value := cs.dropWhile (· != '=')
  (Text.trim (cs.takeWhile (· != '=')), if value.isEmpty then none else some (Text.trim value.tail))

/-- Whether a text is a name, without regard to case. -/
def isNamed (name : String) (cs : List Char) : Bool := String.ofList (cs.map Char.toLower) == name

def hasAttribute (name : String) (ps : List (List Char)) : Bool := ps.any fun p => isNamed name (pair p).1

/-- What the last attribute of a name says, of those whose value says something. -/
def attribute? {α : Type} (name : String) (read : List Char → Option α) (ps : List (List Char)) : Option α :=
  (ps.reverse.map pair).findSome? fun (n, v) => if isNamed name n then v.bind read else none

/-- Whether a number of seconds to last is none or less; no number says nothing. -/
def lastsNoTime? : List Char → Option Bool
  | '-' :: cs => if cs.all Char.isDigit then some true else none
  | cs => if cs.all Char.isDigit then some (!cs.isEmpty && cs.all (· == '0')) else none

/-- Whether the time of a cookie is over at an instant. How long it is to last counts before its end. -/
def isOver (now : Instant) (attributes : List (List Char)) : Bool :=
  match attribute? "max-age" lastsNoTime? attributes with
  | some noTime => noTime
  | none => (attribute? "expires" HttpDate.ofChars? attributes).any (·.seconds ≤ now.seconds)

/-- The directory of a request, which is the path of a cookie that names none. -/
def directory (target : List Char) : List Char :=
  let path := target.takeWhile (· != '?')
  let parent := (path.reverse.dropWhile (· != '/')).tail.reverse
  if parent.isEmpty then ['/'] else parent

/-- Whether a path is a cookie's path or below it. -/
def covers (cookie path : List Char) : Bool :=
  cookie.isPrefixOf path &&
    (cookie.length == path.length || cookie.getLast? == some '/' || (path.drop cookie.length).head? == some '/')

def dropPoint : List Char → List Char
  | '.' :: cs => cs
  | cs => cs

/-- Whether a domain takes in a host: it is the host, or the host is a name that ends in it. -/
def takesIn (domain : String) (host : Host) : Bool :=
  domain == host.text ||
    match host with
    | .name name => ('.' :: domain.toList).isSuffixOf name.toList
    | _ => false

/-- The domain of the cookies of a host that name none. If the last four of sixteen bytes stand for a host of four
    bytes, it is not written like the host, and takes in none. -/
def ownDomain : Host → String
  | .sixteenBytes [0, 0, 0, 0, 0, 0xFFFF, a, b] =>
    "[::ffff:" ++ String.ofList (Host.dotted (a * 65536 + b)) ++ "]"
  | host => host.text

/-- The domain of a cookie of a host, from what it names as its domain; none if that does not take in the
    host. -/
def domain? (host : Host) : (named : Option (List Char)) → Option String
  | none => some (ownDomain host)
  | some cs => do
    let cs ← DomainName.normalize? (Text.trim (dropPoint cs))
    if cs.isEmpty || cs == ['.'] then some (ownDomain host)
    else some (String.ofList (dropPoint cs)) |>.filter (takesIn · host)

end Cookie

/-- The cookies that are kept, in the order in which they came. -/
structure CookieJar where
  cookies : List Cookie
  deriving DecidableEq, Repr

namespace CookieJar

def empty : CookieJar := ⟨[]⟩

def replaces (c d : Cookie) : Bool := d.name == c.name && d.domain == c.domain && d.path == c.path

/-- Puts a cookie in the place of the one that it replaces, or at the end. -/
def put (c : Cookie) : List Cookie → List Cookie
  | [] => [c]
  | d :: ds => if replaces c d then c :: ds else d :: put c ds

/-- Takes in what the answer of a host, received at an instant, asks to be kept. -/
def store (jar : CookieJar) (now : Instant) (host : Host) (target header : String) : CookieJar :=
  match Cookie.parts header.toList with
  | [] => jar
  | first :: attributes =>
    let named := Cookie.attribute? "domain" (fun v => if v.isEmpty then none else some v) attributes
    match Cookie.pair first, Cookie.domain? host named with
    | (name, some value), some domain =>
      let path := match Cookie.attribute? "path" some attributes with
        | some ('/' :: cs) => '/' :: cs
        | _ => Cookie.directory target.toList
      let c : Cookie := ⟨String.ofList name, String.ofList value, domain, String.ofList path,
        Cookie.hasAttribute "secure" attributes⟩
      if name.isEmpty then jar
      else if Cookie.isOver now attributes then ⟨jar.cookies.filter fun d => !replaces c d⟩
      else ⟨put c jar.cookies⟩
    | _, _ => jar

/-- The header that tells a host its cookies, over a connection on which nobody listens or any other. -/
def header? (jar : CookieJar) (secure : Bool) (host : Host) (target : String) : Option String :=
  let path := target.toList.takeWhile (· != '?')
  let sent := jar.cookies.filter fun c =>
    (secure || !c.secure) && Cookie.takesIn c.domain host && Cookie.covers c.path.toList path
  if sent.isEmpty then none else some ("; ".intercalate (sent.map fun c => c.name ++ "=" ++ c.value))

end CookieJar
end PasskeySession
