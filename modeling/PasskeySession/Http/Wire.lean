import PasskeySession.Http.Exchange
import PasskeySession.Json.Printer

/-! # HTTP/1.1 on the wire

A request as bytes, and the answer that the bytes of a closed connection hold. The length of a body is told
by chunks, by its header, or by the end of the connection. -/

namespace PasskeySession

namespace HttpRequest

def bytes (r : HttpRequest) (host : String) : Bytes :=
  let body := Text.utf8 ((r.body.map Json.chars).getD [])
  let lines := [r.method ++ " " ++ r.target ++ " HTTP/1.1", "host: " ++ host,
    "content-type: " ++ contentType, "accept: */*"] ++
    (r.cookie.map ("cookie: " ++ ·)).toList ++
    ["content-length: " ++ toString body.length, "connection: close", "", ""]
  Text.utf8 ("\r\n".intercalate lines).toList ++ body

end HttpRequest

namespace Reception

/-- What stands before the first line end, and what stands after it. -/
def line : Bytes → Bytes × Bytes
  | [] => ([], [])
  | 13 :: 10 :: bs => ([], bs)
  | b :: bs => let (l, rest) := line bs; (b :: l, rest)

/-- The lines up to the first empty one, and what stands after that. -/
def head : (fuel : Nat) → Bytes → List Bytes × Bytes
  | 0, bs => ([], bs)
  | fuel + 1, bs =>
    match line bs with
    | ([], rest) => ([], rest)
    | (l, rest) => let (ls, rest) := head fuel rest; (l :: ls, rest)

/-- Name and value of a header, the name in lower case. -/
def header (l : Bytes) : String × String :=
  let cs := Text.Utf8.decodeLossy l
  (String.ofList ((Text.trim (cs.takeWhile (· != ':'))).map Char.toLower),
    String.ofList (Text.trim ((cs.dropWhile (· != ':')).drop 1)))

/-- The number that hexadecimal digits write, up to the first other character. -/
def hexNumber (bs : Bytes) : Nat :=
  ((Text.Utf8.decodeLossy bs).map Text.hexValue?).takeWhile Option.isSome |>.foldl (fun n d => n * 16 + d.getD 0) 0

/-- A body that is sent in chunks; none if the last one is missing. -/
def unchunk : (fuel : Nat) → Bytes → Option Bytes
  | 0, _ => none
  | fuel + 1, bs =>
    if bs.isEmpty then none
    else
      let (l, rest) := line bs
      let size := hexNumber l
      if size = 0 then some []
      else if rest.length < size + 2 then none
      else (unchunk fuel (rest.drop (size + 2))).map (rest.take size ++ ·)

def value? (headers : List (String × String)) (name : String) : Option String :=
  (headers.find? (·.1 == name)).map (·.2)

def body (status : Nat) (headers : List (String × String)) (rest : Bytes) : Option Bytes :=
  if isBodiless status then some []
  else if value? headers "transfer-encoding" == some "chunked" then unchunk (rest.length + 1) rest
  else
    match (value? headers "content-length").map fun v => (Text.naturalBelow Text.wordLimit v.toList).toOption with
    | some (some n) => if rest.length < n then none else some (rest.take n)
    | _ => some rest

/-- The status in the first line of an answer. -/
def status? (l : Bytes) : Option Nat :=
  match (Text.Utf8.decodeLossy l).dropWhile (· != ' ') with
  | ' ' :: a :: b :: c :: _ => (Text.digitsBelow 1000 0 [a, b, c]).toOption
  | _ => none

/-- The answer proper, after at most so many that announce it. -/
def proper : (fuel : Nat) → Bytes → Reception
  | 0, _ => .failed "connection closed before message completed"
  | fuel + 1, bs =>
    match head bs.length bs with
    | ([], _) => .failed "connection closed before message completed"
    | (l :: lines, rest) =>
      match status? l with
      | none => .failed "invalid HTTP status"
      | some status =>
        if isInterim status then proper fuel rest
        else
          let headers := lines.map header
          .last status ((headers.filter (·.1 == "set-cookie")).map (·.2)) (body status headers rest)

/-- The answer that the bytes of a closed connection hold. -/
def ofBytes (bs : Bytes) : Reception := proper (bs.length + 1) bs

end Reception
end PasskeySession
