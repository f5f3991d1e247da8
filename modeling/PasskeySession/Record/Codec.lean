import PasskeySession.Json.Scalar
import PasskeySession.Record.Basic

/-! # Records in JSON

How each record is read from an answer and written in a request. -/

namespace PasskeySession
open Json (Decoder Fields)

namespace Account

def decoder : Decoder Account :=
  Decoder.record
    (.cons ⟨"safeAddress", Address.decoder, none⟩ <| .cons ⟨"chainId", Decoder.word64, none⟩ .nil)
    fun (address, chainId, ()) => .ok ⟨address, chainId⟩

def toJson (a : Account) : Json := .object [("safeAddress", a.address.toJson), ("chainId", .ofNat a.chainId)]

end Account

namespace EndpointState

def decoder : Decoder EndpointState :=
  Decoder.record (.cons ⟨"active", Decoder.bool, none⟩ <| .cons ⟨"url", Decoder.string, some ""⟩ .nil)
    fun (active, url, ()) => .ok ⟨active, url⟩

def toJson (e : EndpointState) : Json := .object [("active", .bool e.active), ("url", .string e.url)]

end EndpointState

namespace SessionRecord

def fields : Fields (String × String × String × String × EndpointState × Unit) :=
  .cons ⟨"sessionKey", Decoder.string, none⟩ <|
  .cons ⟨"permissionEnableHash", Decoder.string, none⟩ <|
  .cons ⟨"permissionId", Decoder.string, none⟩ <|
  .cons ⟨"sessionDetails", Decoder.string, none⟩ <|
  .cons ⟨"endpoint", EndpointState.decoder, some ⟨false, ""⟩⟩ .nil

def decoder : Decoder SessionRecord :=
  Decoder.record fields fun (key, enableHash, id, details, endpoint, ()) =>
    .ok ⟨key, enableHash, id, details, endpoint⟩

def toJson (r : SessionRecord) : Json :=
  .object [("sessionKey", .string r.sessionKey), ("permissionEnableHash", .string r.permissionEnableHash),
    ("permissionId", .string r.permissionId), ("sessionDetails", .string r.sessionDetails),
    ("endpoint", r.endpoint.toJson)]

/-- The details of a session as JSON, if they are that. -/
def parsedDetails (r : SessionRecord) : Except DecodeError Json := Decoder.value.runText r.sessionDetails

end SessionRecord

namespace PendingKind

def operationDecoder : Decoder PendingKind :=
  Decoder.record (.cons ⟨"user_operation", Decoder.string, none⟩ .nil)
    fun (operation, ()) => .ok (.userOperation operation)

/-- Reads a kind: the name of one without content, or an object of a name and its content. -/
def decoder : Decoder PendingKind
  | _, .string (some "SessionCreation") => .ok .sessionCreation
  | _ + 1, .object [(some "SessionCreation", .null)] true => .ok .sessionCreation
  | room + 1, .object ((some "UserOperation", t) :: members) closed =>
    match operationDecoder room t with
    | .error e => .error e
    | .ok kind => if members.isEmpty && closed then .ok kind else .error .mismatch
  | _, _ => .error .mismatch

def toJson : PendingKind → Json
  | sessionCreation => .string "SessionCreation"
  | userOperation operation => .object [("UserOperation", .object [("user_operation", .string operation)])]

end PendingKind

namespace PendingSession

def decoder : Decoder PendingSession :=
  Decoder.record
    (.cons ⟨"hash", OperationHash.decoder, none⟩ <| .cons ⟨"passkeyId", Decoder.string, none⟩ <|
      .cons ⟨"kind", PendingKind.decoder, none⟩ .nil)
    fun (hash, passkeyId, kind, ()) => .ok ⟨hash, passkeyId, kind⟩

def toJson (p : PendingSession) : Json :=
  .object [("hash", p.hash.toJson), ("passkeyId", .string p.passkeyId), ("kind", p.kind.toJson)]

end PendingSession

namespace ConfiguredSession

/-- Reads the answer to a request to configure a session. -/
def decoder : Decoder ConfiguredSession :=
  Decoder.record
    (.cons ⟨"hash", OperationHash.decoder, none⟩ <| .cons ⟨"passkeyId", Decoder.string, none⟩ .nil)
    fun (hash, passkeyId, ()) => .ok ⟨hash, passkeyId⟩

def toJson (c : ConfiguredSession) : Json :=
  .object [("hash", c.hash.toJson), ("passkeyId", .string c.passkeyId)]

end ConfiguredSession

namespace CreationReceipt

def decoder : Decoder CreationReceipt :=
  Decoder.record (.cons ⟨"transactionHash", Decoder.optional Decoder.string, some none⟩ .nil)
    fun (transactionHash, ()) => .ok ⟨transactionHash⟩

def members (r : CreationReceipt) : List (String × Json) := [("transactionHash", .ofString? r.transactionHash)]

def toJson (r : CreationReceipt) : Json := .object r.members

end CreationReceipt

namespace OperationReceipt

def decoder : Decoder OperationReceipt :=
  Decoder.record
    (.cons ⟨"transactionHash", Decoder.string, none⟩ <| .cons ⟨"userOpHash", Decoder.string, none⟩ <|
      .cons ⟨"success", Decoder.bool, none⟩ .nil)
    fun (transactionHash, userOpHash, success, ()) => .ok ⟨transactionHash, userOpHash, success⟩

def members (r : OperationReceipt) : List (String × Json) :=
  [("transactionHash", .string r.transactionHash), ("userOpHash", .string r.userOpHash),
    ("success", .bool r.success)]

def toJson (r : OperationReceipt) : Json := .object r.members

end OperationReceipt

namespace Receipt

/-- A receipt in JSON, with its type beside its members. -/
def toJson : Receipt → Json
  | sessionCreation r => .object (("type", .string "sessionCreation") :: r.members)
  | userOperation r => .object (("type", .string "userOperation") :: r.members)

end Receipt

namespace InstalledModules

def decoder : Decoder InstalledModules :=
  Decoder.record
    (.cons ⟨"ownableValidatorInstalled", Decoder.bool, none⟩ <|
      .cons ⟨"webauthnValidatorInstalled", Decoder.bool, none⟩ <|
      .cons ⟨"smartSessionsValidatorInstalled", Decoder.bool, none⟩ .nil)
    fun (ownable, webauthn, smartSessions, ()) => .ok ⟨ownable, webauthn, smartSessions⟩

def toJson (m : InstalledModules) : Json :=
  .object [("ownableValidatorInstalled", .bool m.ownableValidator),
    ("webauthnValidatorInstalled", .bool m.webauthnValidator),
    ("smartSessionsValidatorInstalled", .bool m.smartSessionsValidator)]

end InstalledModules

namespace SafeSummary

def decoder : Decoder SafeSummary :=
  Decoder.record
    (.cons ⟨"safeAddress", Address.decoder, none⟩ <|
      .cons ⟨"safeLegacyOwners", Decoder.list Decoder.string, some []⟩ <|
      .cons ⟨"safeModuleOwners", Decoder.optional (Decoder.list Decoder.string), some none⟩ <|
      .cons ⟨"safeModulePasskey", Decoder.optional Decoder.string, some none⟩ .nil)
    fun (address, legacyOwners, moduleOwners, modulePasskey, ()) =>
      .ok ⟨address, legacyOwners, moduleOwners, modulePasskey⟩

def toJson (s : SafeSummary) : Json :=
  .object [("safeAddress", s.address.toJson), ("safeLegacyOwners", .ofList .string s.legacyOwners),
    ("safeModuleOwners", match s.moduleOwners with
      | none => .null
      | some owners => .ofList .string owners),
    ("safeModulePasskey", .ofString? s.modulePasskey)]

end SafeSummary

namespace ChainSafes

def decoder : Decoder ChainSafes :=
  Decoder.record
    (.cons ⟨"chainId", Decoder.word64, none⟩ <| .cons ⟨"safes", Decoder.list SafeSummary.decoder, some []⟩ .nil)
    fun (chainId, safes, ()) => .ok ⟨chainId, safes⟩

def toJson (c : ChainSafes) : Json :=
  .object [("chainId", .ofNat c.chainId), ("safes", .ofList SafeSummary.toJson c.safes)]

end ChainSafes

namespace UserProfile

def decoder : Decoder UserProfile :=
  Decoder.record
    (.cons ⟨"id", Decoder.string, none⟩ <| .cons ⟨"username", Decoder.string, none⟩ <|
      .cons ⟨"safesByChain", Decoder.list ChainSafes.decoder, some []⟩ .nil)
    fun (id, username, safesByChain, ()) => .ok ⟨id, username, safesByChain⟩

def toJson (p : UserProfile) : Json :=
  .object [("id", .string p.id), ("username", .string p.username),
    ("safesByChain", .ofList ChainSafes.toJson p.safesByChain)]

end UserProfile

namespace OperationCall

def decoder : Decoder OperationCall :=
  Decoder.record
    (.cons ⟨"to", Address.decoder, none⟩ <| .cons ⟨"functionName", Decoder.string, none⟩ <|
      .cons ⟨"abi", Decoder.value, none⟩ <| .cons ⟨"args", Decoder.list Decoder.value, some []⟩ .nil)
    fun (target, functionName, abi, args, ()) => .ok ⟨target, functionName, abi, args⟩

def toJson (c : OperationCall) : Json :=
  .object [("to", c.target.toJson), ("functionName", .string c.functionName), ("abi", c.abi),
    ("args", .array c.args)]

end OperationCall

namespace PreparedOperation

def decoder : Decoder PreparedOperation :=
  Decoder.record
    (.cons ⟨"userOperation", Decoder.string, none⟩ <|
      .cons ⟨"userOpHashToSign", OperationHash.decoder, none⟩ .nil)
    fun (userOperation, hashToSign, ()) => .ok ⟨userOperation, hashToSign⟩

def toJson (p : PreparedOperation) : Json :=
  .object [("userOperation", .string p.userOperation), ("userOpHashToSign", p.hashToSign.toJson)]

end PreparedOperation

namespace ChallengeUser

def decoder : Decoder ChallengeUser :=
  Decoder.record
    (.cons ⟨"id", Decoder.string, none⟩ <|
      .cons ⟨"name", Decoder.optional Decoder.string, some none⟩ <|
      .cons ⟨"displayName", Decoder.optional Decoder.string, some none⟩ .nil)
    fun (id, name, displayName, ()) => .ok ⟨id, name, displayName⟩

def toJson (u : ChallengeUser) : Json :=
  .object [("id", .string u.id), ("name", .ofString? u.name), ("displayName", .ofString? u.displayName)]

end ChallengeUser

namespace PasskeyChallenge

def decoder : Decoder PasskeyChallenge :=
  Decoder.record
    (.cons ⟨"challenge", Decoder.string, none⟩ <|
      .cons ⟨"user", Decoder.optional ChallengeUser.decoder, some none⟩ .nil)
    fun (challenge, user, ()) => .ok ⟨challenge, user⟩

def toJson (c : PasskeyChallenge) : Json :=
  .object [("challenge", .string c.challenge),
    ("user", match c.user with
      | none => .null
      | some user => user.toJson)]

end PasskeyChallenge
end PasskeySession
