import PasskeySession.Http.Exchange
import PasskeySession.Proofs.Policy.Reread

/-! # A compiled session is recovered from what is sent

The parameters of a policy are written without their kind, but each kind of them has a shape of its own: null, a
list, or an object with names that no other has. So a reader that tries one shape after the other finds what was
written. Main statement: a compiled session is read back from its text and from the body of the request that
sends it, with the same policies, caps, bounds and calls in the same order. -/

namespace PasskeySession
open Json (Decoder Fields Tree)

/-! ### Readers -/

namespace Numeral

/-- The whole number that is written without fraction or exponent. -/
def toInt? (n : Numeral) : Option Int :=
  ({ n with negative := false } : Numeral).toNat?.map fun k : Nat => if n.negative then -(k : Int) else k

end Numeral

namespace Json.Decoder
variable {α : Type}

def integer : Decoder Int
  | _, .number n =>
    match n.toInt? with
    | some i => .ok i
    | none => .error .mismatch
  | _, _ => .error .mismatch

def null (a : α) : Decoder α
  | _, .null => .ok a
  | _, _ => .error .mismatch

/-- Reads a value in one way, or else in the other. -/
def orElse (d e : Decoder α) : Decoder α := fun room t =>
  match d room t with
  | .ok a => .ok a
  | .error _ => e room t

end Json.Decoder

namespace BaseUnits

def ofText (s : String) : Except Fault BaseUnits :=
  if s.toList.all Char.isDigit && !s.toList.isEmpty then .ok ⟨Nat.ofDigitChars 10 s.toList 0⟩ else .error (.decimal s)

def decoder : Decoder BaseUnits := Decoder.text ofText

end BaseUnits

namespace PolicyKind

def all : List PolicyKind := [unrestricted, spendingLimits, valueLimit, timeFrame, universalAction]

def ofText (s : String) : Except DecodeError PolicyKind :=
  match all.find? (·.text = s) with
  | some kind => .ok kind
  | none => .error .mismatch

def decoder : Decoder PolicyKind := Decoder.string.andThen ofText

end PolicyKind

namespace TokenLimit

def decoder : Decoder TokenLimit :=
  Decoder.record (.cons ⟨"token", Address.decoder, none⟩ <| .cons ⟨"limit", BaseUnits.decoder, none⟩ .nil)
    fun (token, limit, ()) => .ok ⟨token, limit⟩

end TokenLimit

namespace PolicyParams

def capsDecoder : Decoder PolicyParams := (Decoder.list TokenLimit.decoder).andThen fun limits => .ok (.spendingLimits limits)

def valueDecoder : Decoder PolicyParams :=
  Decoder.record (.cons ⟨"limit", BaseUnits.decoder, .none⟩ .nil) fun (limit, ()) => .ok (.valueLimit limit)

def timeDecoder : Decoder PolicyParams :=
  Decoder.record (.cons ⟨"validAfter", Decoder.integer, .none⟩ <| .cons ⟨"validUntil", Decoder.integer, .none⟩ .nil)
    fun (validAfter, validUntil, ()) => .ok (.timeFrame validAfter validUntil)

/-- Reads parameters by their shape, as nothing tells their kind. -/
def decoder : Decoder PolicyParams :=
  (Decoder.null .none).orElse <| capsDecoder.orElse <| valueDecoder.orElse timeDecoder

end PolicyParams

namespace PolicyDescriptor

def decoder : Decoder PolicyDescriptor :=
  Decoder.record (.cons ⟨"policy", PolicyKind.decoder, none⟩ <| .cons ⟨"params", PolicyParams.decoder, none⟩ .nil)
    fun (kind, params, ()) => .ok ⟨kind, params⟩

end PolicyDescriptor

namespace ActionDescriptor

def decoder : Decoder ActionDescriptor :=
  Decoder.record
    (.cons ⟨"actionTarget", Address.decoder, none⟩ <| .cons ⟨"actionTargetSelector", Selector.decoder, none⟩ .nil)
    fun (target, selector, ()) => .ok ⟨target, selector⟩

end ActionDescriptor

namespace SessionConfig

def decoder : Decoder SessionConfig :=
  Decoder.record
    (.cons ⟨"userOpPolicies", Decoder.list PolicyDescriptor.decoder, none⟩ <|
      .cons ⟨"erc7739Policies", Decoder.list PolicyDescriptor.decoder, none⟩ <|
      .cons ⟨"actions", Decoder.list ActionDescriptor.decoder, none⟩ .nil)
    fun (userOp, erc7739, actions, ()) => .ok ⟨userOp, erc7739, actions⟩

/-- Reads the body of the request that sends a compiled session for an account. -/
def bodyDecoder : Decoder (Account × SessionConfig) :=
  Decoder.record
    (.cons ⟨"safeAddress", Address.decoder, none⟩ <| .cons ⟨"chainId", Decoder.integer, none⟩ <|
      .cons ⟨"sessionConfigDto", decoder, none⟩ .nil)
    fun (address, chainId, config, ()) => .ok (⟨address, chainId.toNat⟩, config)

end SessionConfig

/-! ### Single values -/

section
variable {room : Nat}

theorem Numeral.toInt?_ofInt (i : Int) : (Numeral.ofInt i).toInt? = some i := by
  have hnat : ({ Numeral.ofInt i with negative := false } : Numeral).toNat? = some i.natAbs :=
    congrArg some Nat.ofDigitChars_ten_toDigits
  rw [toInt?, hnat, Option.map_some, ofInt]
  congr 1
  split
  · rename_i h
    have := of_decide_eq_true h
    omega
  · rename_i h
    have := of_decide_eq_false (Bool.eq_false_iff.mpr h)
    omega

theorem Json.Decoder.integer_ofInt (i : Int) : Decoder.integer room (Tree.ofJson (Json.ofInt i)) = .ok i := by
  rw [Json.ofInt, Tree.ofJson, integer, Numeral.toInt?_ofInt]

theorem Json.Decoder.integer_ofNat (n : Nat) : Decoder.integer room (Tree.ofJson (Json.ofNat n)) = .ok (n : Int) :=
  integer_ofInt n

theorem Json.Decoder.orElse_of_ok {α : Type} {d e : Decoder α} {t : Tree} {a : α} (h : d room t = .ok a) :
    d.orElse e room t = .ok a := by
  rw [orElse, h]

theorem Json.Decoder.orElse_of_error {α : Type} {d e : Decoder α} {t : Tree} {f : DecodeError}
    (h : d room t = .error f) : d.orElse e room t = e room t := by
  rw [orElse, h]

theorem Selector.decoder_toJson (s : Selector) : Selector.decoder room (Tree.ofJson s.toJson) = .ok s := by
  rw [Word.toJson, Tree.ofJson, decoder, Decoder.text_string, parse, Word.ofText?_text]
  rfl

theorem BaseUnits.ofText_text (u : BaseUnits) : ofText u.text = .ok u := by
  have hnumeral := u.text_isNumeral
  have hchars : u.text.toList = Nat.toDigits 10 u.count := Nat.toList_repr
  have hall : u.text.toList.all Char.isDigit = true := List.all_eq_true.mpr hnumeral.digits
  have hnonempty : u.text.toList.isEmpty = false := List.isEmpty_eq_false_iff.mpr hnumeral.nonempty
  rw [ofText, hall, hnonempty, hchars, Nat.ofDigitChars_ten_toDigits]
  rfl

theorem BaseUnits.decoder_toJson (u : BaseUnits) : BaseUnits.decoder room (Tree.ofJson u.toJson) = .ok u := by
  rw [toJson, Tree.ofJson, decoder, Decoder.text_string, ofText_text]
  rfl

theorem PolicyKind.decoder_text (k : PolicyKind) : PolicyKind.decoder room (.string (some k.text)) = .ok k := by
  cases k <;> rfl

end

/-! ### Policies and calls -/

section
variable {room : Nat}

theorem TokenLimit.decoder_toJson (l : TokenLimit) : decoder (room + 1) (Tree.ofJson l.toJson) = .ok l := by
  refine (Decoder.record_named (by decide) [Tree.ofJson l.token.toJson, Tree.ofJson l.limit.toJson] rfl).trans ?_
  simp only [Fields.ofItems, Address.decoder_toJson, BaseUnits.decoder_toJson, Except.map, Except.bind]

namespace PolicyParams

theorem valueDecoder_toJson (u : BaseUnits) :
    valueDecoder (room + 1) (Tree.ofJson (PolicyParams.valueLimit u).toJson) = .ok (.valueLimit u) := by
  refine (Decoder.record_named (by decide) [Tree.ofJson u.toJson] rfl).trans ?_
  simp only [Fields.ofItems, BaseUnits.decoder_toJson, Except.map, Except.bind]

theorem timeDecoder_toJson (i j : Int) :
    timeDecoder (room + 1) (Tree.ofJson (PolicyParams.timeFrame i j).toJson) = .ok (.timeFrame i j) := by
  refine (Decoder.record_named (by decide) [Tree.ofJson (Json.ofInt i), Tree.ofJson (Json.ofInt j)] rfl).trans ?_
  simp only [Fields.ofItems, Decoder.integer_ofInt, Except.map, Except.bind]

theorem capsDecoder_toJson (ls : List TokenLimit) :
    capsDecoder (room + 2) (Tree.ofJson (PolicyParams.spendingLimits ls).toJson) = .ok (.spendingLimits ls) := by
  have hlist : Decoder.list TokenLimit.decoder (room + 2) (Tree.ofJson (.ofList TokenLimit.toJson ls)) = .ok ls :=
    Decoder.list_ofList fun l _ => l.decoder_toJson
  rw [capsDecoder, toJson, Decoder.andThen, hlist]

/-- Bounds of time have no member that a cap on the value has. -/
theorem valueDecoder_timeFrame (i j : Int) :
    valueDecoder (room + 1) (Tree.ofJson (PolicyParams.timeFrame i j).toJson) = .error .mismatch := rfl

/-- Parameters are read as what they are, whatever else is tried before. -/
theorem decoder_toJson (p : PolicyParams) : decoder (room + 2) (Tree.ofJson p.toJson) = .ok p := by
  -- One reader after the other refuses, until the one for this kind.
  cases p with
  | none => rfl
  | spendingLimits ls =>
    refine (Decoder.orElse_of_error (f := .mismatch) rfl).trans ?_
    exact Decoder.orElse_of_ok (capsDecoder_toJson ls)
  | valueLimit u =>
    refine (Decoder.orElse_of_error (f := .mismatch) rfl).trans ?_
    refine (Decoder.orElse_of_error (f := .mismatch) rfl).trans ?_
    exact Decoder.orElse_of_ok (valueDecoder_toJson u)
  | timeFrame i j =>
    refine (Decoder.orElse_of_error (f := .mismatch) rfl).trans ?_
    refine (Decoder.orElse_of_error (f := .mismatch) rfl).trans ?_
    refine (Decoder.orElse_of_error (valueDecoder_timeFrame i j)).trans ?_
    exact timeDecoder_toJson i j

end PolicyParams

theorem PolicyDescriptor.decoder_toJson (p : PolicyDescriptor) : decoder (room + 3) (Tree.ofJson p.toJson) = .ok p := by
  refine (Decoder.record_named (by decide) [.string (some p.kind.text), Tree.ofJson p.params.toJson] rfl).trans ?_
  simp only [Fields.ofItems, PolicyKind.decoder_text, PolicyParams.decoder_toJson, Except.map, Except.bind]

theorem ActionDescriptor.decoder_toJson (a : ActionDescriptor) : decoder (room + 1) (Tree.ofJson a.toJson) = .ok a := by
  refine (Decoder.record_named (by decide) [Tree.ofJson a.target.toJson, Tree.ofJson a.selector.toJson] rfl).trans ?_
  simp only [Fields.ofItems, Address.decoder_toJson, Selector.decoder_toJson, Except.map, Except.bind]

end

/-! ### Compiled sessions -/

theorem TokenLimit.proper_toJson (l : TokenLimit) : l.toJson.Proper := ⟨trivial, trivial, trivial⟩

theorem PolicyParams.proper_toJson (p : PolicyParams) : p.toJson.Proper := by
  cases p with
  | none => trivial
  | spendingLimits ls => exact Json.proper_ofList TokenLimit.proper_toJson ls
  | valueLimit u => exact ⟨trivial, trivial⟩
  | timeFrame i j => exact ⟨Numeral.proper_ofInt i, Numeral.proper_ofInt j, trivial⟩

theorem PolicyDescriptor.proper_toJson (p : PolicyDescriptor) : p.toJson.Proper :=
  ⟨trivial, p.params.proper_toJson, trivial⟩

theorem ActionDescriptor.proper_toJson (a : ActionDescriptor) : a.toJson.Proper := ⟨trivial, trivial, trivial⟩

namespace SessionConfig
variable {room : Nat}

theorem proper_toJson (s : SessionConfig) : s.toJson.Proper :=
  ⟨Json.proper_ofList PolicyDescriptor.proper_toJson _, Json.proper_ofList PolicyDescriptor.proper_toJson _,
    Json.proper_ofList ActionDescriptor.proper_toJson _, trivial⟩

theorem decoder_toJson (s : SessionConfig) : decoder (room + 5) (Tree.ofJson s.toJson) = .ok s := by
  have hpolicies : ∀ ps : List PolicyDescriptor, Decoder.list PolicyDescriptor.decoder (room + 4)
      (Tree.ofJson (.ofList PolicyDescriptor.toJson ps)) = .ok ps :=
    fun ps => Decoder.list_ofList fun p _ => p.decoder_toJson
  have hactions : ∀ as : List ActionDescriptor, Decoder.list ActionDescriptor.decoder (room + 4)
      (Tree.ofJson (.ofList ActionDescriptor.toJson as)) = .ok as :=
    fun as => Decoder.list_ofList fun a _ => a.decoder_toJson
  refine (Decoder.record_named (by decide) [Tree.ofJson (.ofList PolicyDescriptor.toJson s.userOpPolicies),
    Tree.ofJson (.ofList PolicyDescriptor.toJson s.erc7739Policies),
    Tree.ofJson (.ofList ActionDescriptor.toJson s.actions)] rfl).trans ?_
  simp only [Fields.ofItems, hpolicies, hactions, Except.map, Except.bind]

/-- The body of the request that sends a compiled session. -/
def sent (a : Account) (s : SessionConfig) : Json :=
  .object [("safeAddress", a.address.toJson), ("chainId", .ofNat a.chainId), ("sessionConfigDto", s.toJson)]

theorem body_configure (a : Account) (s : SessionConfig) : (Request.configure a s).body = some (sent a s) := rfl

theorem bodyDecoder_sent (a : Account) (s : SessionConfig) :
    bodyDecoder (room + 6) (Tree.ofJson (sent a s)) = .ok (a, s) := by
  refine (Decoder.record_named (by decide) [Tree.ofJson a.address.toJson, Tree.ofJson (.ofNat a.chainId),
    Tree.ofJson s.toJson] rfl).trans ?_
  simp only [Fields.ofItems, Address.decoder_toJson, Decoder.integer_ofNat, decoder_toJson, Except.map, Except.bind,
    Int.toNat_natCast]

/-- A compiled session is read from its text and from the body that it is sent in. -/
structure Recovered (s : SessionConfig) : Prop where
  text : decoder.runText s.toJson.compact = .ok s
  body : ∀ a, ∃ v, (Request.configure a s).body = some v ∧ bodyDecoder.runText v.compact = .ok (a, s)

theorem recovered (s : SessionConfig) : s.Recovered where
  text := by
    rw [Decoder.runText_compact decoder s.proper_toJson]
    exact decoder_toJson s
  body a := by
    have hproper : (sent a s).Proper := ⟨trivial, Numeral.proper_ofNat a.chainId, s.proper_toJson, trivial⟩
    refine ⟨sent a s, body_configure a s, ?_⟩
    rw [Decoder.runText_compact bodyDecoder hproper]
    exact bodyDecoder_sent a s

/-- No two compiled sessions have one text, and no two are sent in one body. -/
theorem lossless : (∀ s : SessionConfig, s.Recovered) ∧
    (∀ s t : SessionConfig, s.toJson.compact = t.toJson.compact ↔ s = t) ∧
    ∀ a b s t, (Request.configure a s).body.map Json.compact = (Request.configure b t).body.map Json.compact ↔
      a = b ∧ s = t := by
  refine ⟨recovered, fun s t => ⟨fun h => ?_, fun h => h ▸ rfl⟩, fun a b s t => ⟨fun h => ?_, ?_⟩⟩
  · have hread := (recovered s).text
    rw [h, (recovered t).text] at hread
    exact (Except.ok.inj hread).symm
  · obtain ⟨v, hv, hread⟩ := (recovered s).body a
    obtain ⟨w, hw, hread'⟩ := (recovered t).body b
    rw [hv, hw, Option.map_some, Option.map_some] at h
    rw [Option.some.inj h, hread'] at hread
    cases hread
    exact ⟨rfl, rfl⟩
  · rintro ⟨rfl, rfl⟩
    rfl

/-- Caps on no token are not mistaken for no parameters. -/
example : (PolicyParams.spendingLimits []).toJson.compact = "[]" ∧ PolicyParams.none.toJson.compact = "null" := ⟨rfl, rfl⟩

end SessionConfig
end PasskeySession
