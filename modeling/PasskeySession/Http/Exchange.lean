import PasskeySession.Backend.Config
import PasskeySession.Backend.Request
import PasskeySession.Http.Cookie
import PasskeySession.Http.Url

/-! # The backend over HTTP

The route and the body of each request, and what the answer to it means. A status outside 200 to 299 is a
rejection, whatever the body; a request whose answer holds nothing does not read the body. -/

namespace PasskeySession

/-- A request as it is sent. -/
structure HttpRequest where
  method : String
  target : String
  cookie : Option String
  body : Option Json

def HttpRequest.contentType : String := "application/json"

/-- What comes back of a request. -/
inductive Reception
  /-- Nothing, or nothing that is an answer. -/
  | failed (reason : String)
  /-- An answer, with the cookies it asks to be kept; none for a body that breaks off. -/
  | response (status : Nat) (setCookies : List String) (body : Option Bytes)

namespace Reception

/-- Whether an answer only announces that the answer proper is to come. -/
def isInterim (status : Nat) : Bool := 100 ≤ status && status ≤ 199 && status != 101

/-- Whether an answer has no body, whatever it says of its length. -/
def isBodiless (status : Nat) : Bool := status == 101 || status == 204 || status == 304

/-- The last thing that is received of an answer. A status has three digits. -/
def last (status : Nat) (setCookies : List String) (body : Option Bytes) : Reception :=
  if status < 100 || 999 < status then .failed "invalid HTTP status"
  else if isInterim status then .failed "connection closed before message completed"
  else .response status setCookies (if isBodiless status then some [] else body)

end Reception

namespace Request

/-- The path of a request, relative to the address of the backend. -/
def path : Request → String
  | challenge _ => "/auth/passkey/challenge"
  | verifyRegistration _ => "/auth/passkey/verify"
  | verifyLogin _ => "/auth/passkey/verify"
  | currentUser => "/auth/user"
  | logout => "/auth/logout"
  | installedModules _ => "/safe/installed-modules"
  | configure .. => "/safe/configure-smart-session"
  | signCreation .. => "/safe/sign-session-creation"
  | createOperation .. => "/safe/create-safe-passkey-user-operation"
  | executeOperation .. => "/safe/execute-signed-passkey-user-operation"
  | sessionDetails a => "/safe/get-session-details/" ++ a.address.text ++ "/" ++ toString a.chainId
  | activateEndpoint .. => "/safe/activate-endpoint"

def method : Request → String
  | currentUser => "GET"
  | sessionDetails _ => "GET"
  | _ => "POST"

/-- The members of a body that name an account. -/
def accountMembers (a : Account) : List (String × Json) :=
  [("safeAddress", a.address.toJson), ("chainId", .ofNat a.chainId)]

def body : Request → Option Json
  | challenge username => username.map fun u => .object [("username", .string u)]
  | verifyRegistration c => some c.toJson
  | verifyLogin a => some a.toJson
  | currentUser => none
  | logout => none
  | installedModules a => some (.object (accountMembers a))
  | configure a config => some (.object (accountMembers a ++ [("sessionConfigDto", config.toJson)]))
  | signCreation a hash signature =>
    some (.object ([("hash", hash.toJson)] ++ accountMembers a ++ [("encodedSignature", signature.toJson)]))
  | createOperation a calls passkeyId =>
    some (.object [("address", a.address.toJson), ("chainId", .ofNat a.chainId),
      ("calls", .ofList OperationCall.toJson calls), ("passkeyId", .string passkeyId)])
  | executeOperation a hash signature =>
    some (.object ([("encodedSignature", signature.toJson), ("userOpHashToSign", hash.toJson)] ++ accountMembers a))
  | sessionDetails _ => none
  | activateEndpoint a url active =>
    some (.object ([("path", .string url)] ++ accountMembers a ++ [("active", .bool active)]))

/-- The text that the pieces of a body read as; `escaping` tells that a backslash waits for what it stands
    before. A piece that spells no character reads as two halves of characters the wrong way round: a string
    that is passed over may have them, and a string that is kept may not. After a backslash it is no escape. -/
def pieceChars : (escaping : Bool) → List (Option Char) → List Char
  | _, [] => []
  | escaping, some c :: pieces => c :: pieceChars (c == '\\' && !escaping) pieces
  | true, none :: pieces => '_' :: pieceChars false pieces
  | false, none :: pieces => "\\udc00\\udc00".toList ++ pieceChars false pieces

def bodyChars (bs : Bytes) : List Char := pieceChars false (Text.Utf8.scan bs)

def isAsciiBlank (b : UInt8) : Bool := b == 0x20 || b == 0x09 || b == 0x0A || b == 0x0C || b == 0x0D

def decodeBody (path : String) (kind : AnswerKind) (bs : Bytes) : Except ClientError kind.Value :=
  (kind.decoder.run (bodyChars bs)).mapError fun _ => .invalidAnswer (.badBody path)

/-- The answer of a kind that an accepted request has. A signed session may be answered by a blank body. -/
def accepted (path : String) : (kind : AnswerKind) → (body : Option Bytes) → Except ClientError kind.Value
  | .nothing, _ => .ok ()
  | _, none => .error (.network "the body breaks off")
  | .creation, some bs =>
    if bs.all isAsciiBlank then .ok ⟨none⟩ else decodeBody path .creation bs
  | kind, some bs => decodeBody path kind bs

/-- Whether a status says that a request was accepted. -/
def isSuccess (status : Nat) : Bool := 200 ≤ status && status ≤ 299

def answerOf (r : Request) : Reception → r.Answer
  | .failed reason => .error (.network reason)
  | .response status _ body =>
    if isSuccess status then accepted r.path r.kind body
    else .error (.rejected status (String.ofList (Text.Utf8.decodeLossy (body.getD []))))

end Request

/-- A client: its settings, the time at which it began, and the cookies it keeps. -/
structure HttpClient where
  config : ClientConfig
  started : Instant
  jar : CookieJar

namespace HttpClient

def initial (config : ClientConfig) (started : Instant) : HttpClient := ⟨config, started, .empty⟩

/-- Where a request goes to; none if that is no address of the backend's host that can be connected to. -/
def url? (c : HttpClient) (r : Request) : Option Url := do
  let backend ← Url.parse? c.config.backendUrl
  let u ← Url.parse? (c.config.endpoint r.path)
  if u.secure || u.host != backend.host then none else some u

/-- A request as it is sent to an address. -/
def request (c : HttpClient) (r : Request) (u : Url) : HttpRequest :=
  ⟨r.method, u.target, c.jar.header? u.isPrivate u.host u.target, r.body⟩

def keep (c : HttpClient) (u : Url) : Reception → HttpClient
  | .failed _ => c
  | .response _ setCookies _ =>
    { c with jar := setCookies.foldl (fun jar h => jar.store c.started u.host u.target h) c.jar }

end HttpClient
end PasskeySession
