import PasskeySession.Json.Scalar
import PasskeySession.Policy.Compiled

/-! # Policies in JSON

A form is read leniently, part by part, and written in full. Compiled policies are only written. -/

namespace PasskeySession
open Json (Decoder Fields)

/-! ### Reading a form -/

namespace TokenPolicy

/-- The decimals of a token: a string or a number, at most 255. -/
def decimalsOfJson : Json → Except DecodeError Nat
  | .string s => (Text.naturalBelow 256 (Text.trim s.toList)).mapError fun f => .refused (.integer f)
  | .number n =>
    match n.toNat? with
    | some d => if d < 256 then .ok d else .error (.refused .decimalsOutOfRange)
    | none => .error (.refused .decimalsOutOfRange)
  | v => .error (.refused (.notDecimals v))

def fields : Fields (Address × String × String × Nat × DecimalAmount × Unit) :=
  .cons ⟨"tokenAddress", Address.decoder, none⟩ <|
  .cons ⟨"tokenSymbol", Decoder.string, some ""⟩ <|
  .cons ⟨"tokenName", Decoder.string, some ""⟩ <|
  .cons ⟨"tokenDecimals", Decoder.value.andThen decimalsOfJson, none⟩ <|
  .cons ⟨"limit", DecimalAmount.decoder, none⟩ .nil

def decoder : Decoder TokenPolicy :=
  Decoder.record fields fun (address, symbol, name, decimals, limit, ()) =>
    (make address symbol name decimals limit).mapError fun f => .refused (.fault f)

end TokenPolicy

def switchField : Json.Field Bool := ⟨"active", Decoder.bool, none⟩

namespace SpendingLimits

/-- Reads the caps on tokens; of several on one token the last counts. -/
def decoder : Decoder SpendingLimits :=
  Decoder.record
    (.cons switchField <| .cons ⟨"tokenPolicies", Decoder.list TokenPolicy.decoder, some []⟩ .nil)
    fun (active, tokens, ()) => .ok ⟨active, TokenPolicy.ofList tokens⟩

end SpendingLimits

namespace TimeFrame

def decoder : Decoder TimeFrame :=
  Decoder.record
    (.cons switchField <| .cons ⟨"startTime", Instant.boundDecoder, some none⟩ <|
      .cons ⟨"endTime", Instant.boundDecoder, some none⟩ .nil)
    fun (active, start, stop, ()) => .ok ⟨active, start, stop⟩

end TimeFrame

namespace UniversalAction

def decoder : Decoder UniversalAction :=
  Decoder.record (.cons switchField <| .cons ⟨"usageCount", Decoder.word64, some 0⟩ .nil)
    fun (active, usageCount, ()) => .ok ⟨active, usageCount⟩

end UniversalAction

namespace ValueLimit

def decoder : Decoder ValueLimit :=
  Decoder.record (.cons switchField <| .cons ⟨"valueLimit", DecimalAmount.decoder, some .zero⟩ .nil)
    fun (active, limit, ()) => (make active limit).mapError fun f => .refused (.fault f)

end ValueLimit

namespace PolicyForm

/-- Reads the switch of a session that may do anything. -/
def unrestrictedDecoder : Decoder Bool :=
  Decoder.record (.cons switchField .nil) fun (active, ()) => .ok active

/-- The fields of a form; a missing part is as in a new form. -/
def fields : Fields (Bool × SpendingLimits × TimeFrame × UniversalAction × ValueLimit × Unit) :=
  .cons ⟨"sudo", unrestrictedDecoder, some initial.unrestricted⟩ <|
  .cons ⟨"spendingLimits", SpendingLimits.decoder, some initial.spending⟩ <|
  .cons ⟨"timeFrame", TimeFrame.decoder, some initial.timeFrame⟩ <|
  .cons ⟨"universalAction", UniversalAction.decoder, some initial.universal⟩ <|
  .cons ⟨"valueLimit", ValueLimit.decoder, some initial.valueLimit⟩ .nil

def decoder : Decoder PolicyForm :=
  Decoder.record fields fun (unrestricted, spending, timeFrame, universal, valueLimit, ()) =>
    .ok ⟨unrestricted, spending, timeFrame, universal, valueLimit⟩

end PolicyForm

/-! ### Writing a form -/

namespace TokenPolicy

/-- A cap in JSON; the base units are left out, as they follow from the rest. -/
def toJson (t : TokenPolicy) : Json :=
  .object [("tokenAddress", t.address.toJson), ("tokenSymbol", .string t.symbol),
    ("tokenName", .string t.name), ("tokenDecimals", .string (toString t.decimals)),
    ("limit", t.limit.toJson)]

end TokenPolicy

namespace PolicyForm

def toJson (f : PolicyForm) : Json :=
  .object [("sudo", .object [("active", .bool f.unrestricted)]),
    ("spendingLimits", .object [("active", .bool f.spending.active),
      ("tokenPolicies", .ofList TokenPolicy.toJson f.spending.tokens)]),
    ("timeFrame", .object [("active", .bool f.timeFrame.active),
      ("startTime", Instant.boundToJson f.timeFrame.start), ("endTime", Instant.boundToJson f.timeFrame.stop)]),
    ("universalAction", .object [("active", .bool f.universal.active),
      ("usageCount", .ofNat f.universal.usageCount)]),
    ("valueLimit", .object [("active", .bool f.valueLimit.active),
      ("valueLimit", f.valueLimit.limit.toJson)])]

end PolicyForm

/-! ### Writing compiled policies -/

namespace PolicyKind

def text : PolicyKind → String
  | unrestricted => "sudo"
  | spendingLimits => "spendingLimits"
  | valueLimit => "valueLimit"
  | timeFrame => "timeFrame"
  | universalAction => "universalAction"

end PolicyKind

namespace TokenLimit

def toJson (l : TokenLimit) : Json := .object [("token", l.token.toJson), ("limit", l.limit.toJson)]

end TokenLimit

namespace PolicyParams

def toJson : PolicyParams → Json
  | none => .null
  | spendingLimits limits => .ofList TokenLimit.toJson limits
  | valueLimit limit => .object [("limit", limit.toJson)]
  | timeFrame validAfter validUntil =>
    .object [("validAfter", .ofInt validAfter), ("validUntil", .ofInt validUntil)]

end PolicyParams

namespace PolicyDescriptor

def toJson (p : PolicyDescriptor) : Json :=
  .object [("policy", .string p.kind.text), ("params", p.params.toJson)]

end PolicyDescriptor

namespace ActionDescriptor

def toJson (a : ActionDescriptor) : Json :=
  .object [("actionTarget", a.target.toJson), ("actionTargetSelector", a.selector.toJson)]

end ActionDescriptor

namespace CompiledSession

def toJson (s : CompiledSession) : Json :=
  .object [("policies", .ofList PolicyDescriptor.toJson s.policies),
    ("actions", .ofList ActionDescriptor.toJson s.actions)]

end CompiledSession

namespace SessionConfig

def toJson (s : SessionConfig) : Json :=
  .object [("userOpPolicies", .ofList PolicyDescriptor.toJson s.userOpPolicies),
    ("erc7739Policies", .ofList PolicyDescriptor.toJson s.erc7739Policies),
    ("actions", .ofList ActionDescriptor.toJson s.actions)]

end SessionConfig
end PasskeySession
