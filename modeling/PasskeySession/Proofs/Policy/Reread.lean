import PasskeySession.Policy.Compiled
import PasskeySession.Proofs.Json.Record
import PasskeySession.Proofs.Json.Roundtrip
import PasskeySession.Proofs.Policy.Attained

/-! # Forms that are written and read again

A form that can come about is read back from its text as it was, if its bounds of time fall in the years from
0 to 9999. Any other bound is written with a sign before its year, and the text is refused for it. -/

namespace PasskeySession
open Json (Decoder Fields Tree)

/-! ### Single values -/

section
variable {room : Nat}

theorem Json.Decoder.text_string {α : Type} (read : String → Except Fault α) (s : String) (room : Nat) :
    Decoder.text read room (.string (some s)) = (read s).mapError fun f => .refused (.fault f) := by
  rw [text, string]
  dsimp only
  cases read s <;> rfl

theorem Json.Decoder.value_string (s : String) : Decoder.value room (.string (some s)) = .ok (.string s) := rfl

theorem Address.decoder_toJson (a : Address) : Address.decoder room (Tree.ofJson a.toJson) = .ok a := by
  rw [Word.toJson, Tree.ofJson, decoder, Decoder.text_string, parse_text]
  rfl

theorem DecimalAmount.decoder_toJson (a : DecimalAmount) : DecimalAmount.decoder room (Tree.ofJson a.toJson) = .ok a := by
  rw [toJson, Tree.ofJson, decoder, Decoder.andThen, Decoder.value_string]
  dsimp only
  rw [ofJson, decodeText, parse_text]
  rfl

theorem TokenPolicy.decimalsOfJson_toString {d : Nat} (h : d < 256) : decimalsOfJson (.string (toString d)) = .ok d := by
  have hchars : (toString d).toList = Nat.toDigits 10 d := Nat.toList_repr
  have hblank : ∀ c ∈ Nat.toDigits 10 d, Text.isBlank c = false :=
    fun c hc => Text.isBlank_of_isDigit (Text.isDigit_toDigits d c hc)
  rw [decimalsOfJson, hchars, Text.trim_eq_self hblank, Text.naturalBelow_toDigits h]
  rfl

theorem Json.Decoder.word64_ofNat {n : Nat} (h : n < Text.wordLimit) :
    Decoder.word64 room (Tree.ofJson (Json.ofNat n)) = .ok n := by
  have htoNat : (Numeral.ofNat n).toNat? = some n := congrArg some Nat.ofDigitChars_ten_toDigits
  rw [Json.ofNat, Tree.ofJson, word64, htoNat]
  exact if_pos h

end

namespace Instant
variable {room : Nat} {t : Instant}

theorem blank_text (t : Instant) : Text.blank t.text.toList = false := by
  rw [Text.blank, Text.trim_eq_self t.isBlank_text, toList_text]
  simp [monthChars]

theorem boundOfText_text (t : Instant) : boundOfText t.text = (parse t.text).map some := by
  rw [boundOfText, t.blank_text]
  rfl

theorem boundDecoder_string (s : String) :
    boundDecoder room (.string (some s)) = (boundOfText s).mapError fun f => .refused (.fault f) :=
  Decoder.text_string boundOfText s room

/-- A bound is read back, unless its text has a signed year. -/
theorem boundDecoder_toJson {bound : Option Instant} (h : ∀ t ∈ bound, t.Proper) :
    boundDecoder room (Tree.ofJson (boundToJson bound)) =
      match bound.toList.find? fun t => ¬ t.Plain with
      | none => .ok bound
      | some t => .error (.refused (.fault (.timestamp t.text))) := by
  cases bound with
  | none => rfl
  | some t =>
    have hproper := h t rfl
    rw [boundToJson, Option.map_some, Json.ofString?, Tree.ofJson, boundDecoder_string, boundOfText_text]
    by_cases hplain : t.Plain
    · simp [parse_text hproper hplain, hplain, Except.map, Except.mapError]
    · simp [parse_text_of_not_plain hproper hplain, hplain, Except.map, Except.mapError]

end Instant

/-! ### The parts of a form -/

section
variable {room : Nat}

namespace TokenPolicy
variable {t : TokenPolicy} {ts : List TokenPolicy}

theorem make_eq (h : t.Scaled) : make t.address t.symbol t.name t.decimals t.limit = .ok t := by
  unfold Scaled at h
  rw [make, h]
  rfl

/-- A cap is read back, its base units being those of its limit. -/
theorem decoder_toJson (h : t.Scaled) (hdecimals : t.decimals < 256) :
    decoder (room + 1) (Tree.ofJson t.toJson) = .ok t := by
  refine (Decoder.record_named (by decide) [Tree.ofJson t.address.toJson, .string (some t.symbol),
    .string (some t.name), .string (some (toString t.decimals)), Tree.ofJson t.limit.toJson] rfl).trans ?_
  simp only [fields, Fields.ofItems, Address.decoder_toJson, DecimalAmount.decoder_toJson, Decoder.andThen,
    Decoder.value_string, decimalsOfJson_toString hdecimals, Decoder.string, Except.map, Except.bind, make_eq h,
    Except.mapError]

end TokenPolicy

namespace SpendingLimits

/-- The caps on tokens as a form writes them. -/
def written (s : SpendingLimits) : Json :=
  .object [("active", .bool s.active), ("tokenPolicies", .ofList TokenPolicy.toJson s.tokens)]

theorem decoder_written {s : SpendingLimits} (hlisted : TokenPolicy.Listed s.tokens)
    (hscaled : ∀ t ∈ s.tokens, t.Scaled) : decoder (room + 3) (Tree.ofJson s.written) = .ok s := by
  have htokens : Decoder.list TokenPolicy.decoder (room + 2) (Tree.ofJson (.ofList TokenPolicy.toJson s.tokens)) =
      .ok s.tokens :=
    Decoder.list_ofList fun t ht => TokenPolicy.decoder_toJson (hscaled t ht) (hlisted.decimals t ht)
  refine (Decoder.record_named (by decide)
    [.bool s.active, Tree.ofJson (.ofList TokenPolicy.toJson s.tokens)] rfl).trans ?_
  simp only [Fields.ofItems, switchField, Decoder.bool, htokens, Except.map, Except.bind,
    TokenPolicy.ofList_eq_self hlisted.distinct]

end SpendingLimits

namespace TimeFrame

def written (f : TimeFrame) : Json :=
  .object [("active", .bool f.active), ("startTime", Instant.boundToJson f.start), ("endTime", Instant.boundToJson f.stop)]

/-- The bounds are read back, up to the first whose year has a sign. -/
theorem decoder_written {f : TimeFrame} (h : ∀ t ∈ f.bounds, t.Proper) :
    decoder (room + 1) (Tree.ofJson f.written) =
      match f.bounds.find? fun t => ¬ t.Plain with
      | none => .ok f
      | some t => .error (.refused (.fault (.timestamp t.text))) := by
  have hstart : Instant.boundDecoder room (Tree.ofJson (Instant.boundToJson f.start)) = _ :=
    Instant.boundDecoder_toJson (start_proper h)
  have hstop : Instant.boundDecoder room (Tree.ofJson (Instant.boundToJson f.stop)) = _ :=
    Instant.boundDecoder_toJson (stop_proper h)
  refine (Decoder.record_named (by decide) [.bool f.active, Tree.ofJson (Instant.boundToJson f.start),
    Tree.ofJson (Instant.boundToJson f.stop)] rfl).trans ?_
  simp only [Fields.ofItems, switchField, Decoder.bool, hstart, hstop, bounds, List.find?_append]
  cases f.start.toList.find? fun t => decide (¬ t.Plain) with
  | some t => rfl
  | none =>
    cases f.stop.toList.find? fun t => decide (¬ t.Plain) with
    | some t => rfl
    | none => rfl

end TimeFrame

namespace UniversalAction

def written (u : UniversalAction) : Json := .object [("active", .bool u.active), ("usageCount", .ofNat u.usageCount)]

theorem decoder_written {u : UniversalAction} (h : u.usageCount < Text.wordLimit) :
    decoder (room + 1) (Tree.ofJson u.written) = .ok u := by
  refine (Decoder.record_named (by decide) [.bool u.active, Tree.ofJson (.ofNat u.usageCount)] rfl).trans ?_
  simp only [Fields.ofItems, switchField, Decoder.bool, Json.Decoder.word64_ofNat h, Except.map, Except.bind]

end UniversalAction

namespace ValueLimit
variable {v : ValueLimit}

def written (v : ValueLimit) : Json := .object [("active", .bool v.active), ("valueLimit", v.limit.toJson)]

theorem scale_eq (h : v.Scaled) : scale v.active v.limit = .ok v.wei := by
  have hwei := h.wei
  rw [scale]
  cases hu : v.limit.toBaseUnits DecimalAmount.nativeDecimals with
  | ok u =>
    rw [hu] at hwei
    rw [hwei]
    rfl
  | error e =>
    rw [hu] at hwei
    -- A limit without base units is kept only while the cap is off.
    have hoff : ¬ v.active = true := fun hon => by
      obtain ⟨u, hu⟩ := h.active hon
      rw [hwei] at hu
      cases hu
    rw [hwei]
    exact if_neg hoff

theorem make_eq (h : v.Scaled) : make v.active v.limit = .ok v := by
  rw [make, scale_eq h]
  rfl

theorem decoder_written (h : v.Scaled) : decoder (room + 1) (Tree.ofJson v.written) = .ok v := by
  refine (Decoder.record_named (by decide) [.bool v.active, Tree.ofJson v.limit.toJson] rfl).trans ?_
  simp only [Fields.ofItems, switchField, Decoder.bool, DecimalAmount.decoder_toJson, Except.map, Except.bind, make_eq h,
    Except.mapError]

end ValueLimit

end

/-! ### Forms -/

namespace PolicyForm
variable {f : PolicyForm} {room : Nat}

theorem toJson_eq (f : PolicyForm) : f.toJson =
    .object [("sudo", .object [("active", .bool f.unrestricted)]), ("spendingLimits", f.spending.written),
      ("timeFrame", f.timeFrame.written), ("universalAction", f.universal.written),
      ("valueLimit", f.valueLimit.written)] := rfl

/-- A form is read back, unless a bound of its time has a year with a sign. -/
theorem decoder_toJson (h : f.Sound) : decoder (room + 4) (Tree.ofJson f.toJson) =
    match f.timeFrame.bounds.find? fun t => ¬ t.Plain with
    | none => .ok f
    | some t => .error (.refused (.fault (.timestamp t.text))) := by
  have hunrestricted : unrestrictedDecoder (room + 3) (Tree.ofJson (.object [("active", .bool f.unrestricted)])) =
      .ok f.unrestricted := rfl
  have hspending : SpendingLimits.decoder (room + 3) (Tree.ofJson f.spending.written) = .ok f.spending :=
    SpendingLimits.decoder_written h.tokens h.scaled.tokens
  have htime : TimeFrame.decoder (room + 3) (Tree.ofJson f.timeFrame.written) = _ :=
    TimeFrame.decoder_written h.bounds
  have huniversal : UniversalAction.decoder (room + 3) (Tree.ofJson f.universal.written) = .ok f.universal :=
    UniversalAction.decoder_written h.usageCount
  have hvalue : ValueLimit.decoder (room + 3) (Tree.ofJson f.valueLimit.written) = .ok f.valueLimit :=
    ValueLimit.decoder_written h.scaled.valueLimit
  rw [toJson_eq]
  refine (Decoder.record_named (by decide) [Tree.ofJson (.object [("active", .bool f.unrestricted)]),
    Tree.ofJson f.spending.written, Tree.ofJson f.timeFrame.written, Tree.ofJson f.universal.written,
    Tree.ofJson f.valueLimit.written] rfl).trans ?_
  simp only [fields, Fields.ofItems, hunrestricted, hspending, htime, huniversal, hvalue]
  cases f.timeFrame.bounds.find? fun t => decide (¬ t.Plain) with
  | some t => rfl
  | none => rfl

theorem proper_toJson (f : PolicyForm) : f.toJson.Proper := by
  have htokens : ∀ ts : List TokenPolicy, Json.ItemsProper (ts.map TokenPolicy.toJson) := by
    intro ts
    induction ts with
    | nil => trivial
    | cons t ts ih => exact ⟨⟨trivial, trivial, trivial, trivial, trivial, trivial⟩, ih⟩
  have hbound : ∀ bound : Option Instant, (Instant.boundToJson bound).Proper := by
    intro bound
    cases bound <;> trivial
  exact ⟨⟨trivial, trivial⟩, ⟨trivial, htokens f.spending.tokens, trivial⟩,
    ⟨trivial, hbound f.timeFrame.start, hbound f.timeFrame.stop, trivial⟩,
    ⟨trivial, Numeral.proper_ofNat f.universal.usageCount, trivial⟩, ⟨trivial, trivial, trivial⟩, trivial⟩

theorem Sound.runText_toJson (h : f.Sound) : decoder.runText f.toJson.compact =
    match f.timeFrame.bounds.find? fun t => ¬ t.Plain with
    | none => .ok f
    | some t => .error (.refused (.fault (.timestamp t.text))) := by
  rw [Decoder.runText_compact decoder f.proper_toJson]
  exact decoder_toJson h

/-- What becomes of a form that is written and read again. -/
structure Reread (f : PolicyForm) : Prop where
  /-- A form whose bounds of time fall in the years from 0 to 9999 is read back as it was: with the same caps in
  the same order, and with the base units that it had. -/
  same : (∀ t ∈ f.timeFrame.bounds, t.Plain) → decoder.runText f.toJson.compact = .ok f
  /-- Whatever is read is the form, and stands for the same session. -/
  session : ∀ g, decoder.runText f.toJson.compact = .ok g → g = f ∧ g.compile = f.compile
  /-- A bound of any other year makes the text unreadable; the first of them is the fault. -/
  refused : ∀ t, f.timeFrame.bounds.find? (fun t => ¬ t.Plain) = some t →
    decoder.runText f.toJson.compact = .error (.refused (.fault (.timestamp t.text)))

theorem Attained.reread (h : f.Attained) : f.Reread := by
  have hread := h.sound.runText_toJson
  refine ⟨fun hplain => ?_, fun g hg => ?_, fun t ht => ?_⟩
  · have hnone : f.timeFrame.bounds.find? (fun t => ¬ t.Plain) = none := by
      simpa using hplain
    rw [hread, hnone]
  · rw [hread] at hg
    split at hg
    · cases hg
      exact ⟨rfl, rfl⟩
    · cases hg
  · rw [hread, ht]

/-- A time frame from within a leap second to the last second before the year 10000. -/
theorem reread_last : ∃ f, Edit.change initial (.timeBetween "2016-12-31T23:59:60.5Z" "9999-12-31T22:59:59-01:00") =
    .ok (f, none) ∧ f.timeFrame = ⟨true, some ⟨1483228799, 1500000000⟩, some ⟨253402300799, 0⟩⟩ ∧
      decoder.runText f.toJson.compact = .ok f := by
  have h : Edit.change initial (.timeBetween "2016-12-31T23:59:60.5Z" "9999-12-31T22:59:59-01:00") =
      .ok ({ initial with timeFrame := ⟨true, some ⟨1483228799, 1500000000⟩, some ⟨253402300799, 0⟩⟩ }, none) := rfl
  exact ⟨_, h, rfl, (Attained.edited .initial h trivial).reread.same (by decide)⟩

/-- A start that its zone takes into the year 10000 is not read back. -/
theorem reread_late : ∃ f, Edit.change initial (.timeStart (some "9999-12-31T23:59:59-01:00")) = .ok (f, none) ∧
    f.Attained ∧ decoder.runText f.toJson.compact =
      .error (.refused (.fault (.timestamp "+10000-01-01T00:59:59+00:00"))) := by
  have h : Edit.change initial (.timeStart (some "9999-12-31T23:59:59-01:00")) =
      .ok ({ initial with timeFrame := ⟨false, some ⟨253402304399, 0⟩, none⟩ }, none) := rfl
  have attained := Attained.edited .initial h trivial
  have hfirst : (TimeFrame.bounds ⟨false, some ⟨253402304399, 0⟩, none⟩).find? (fun t => ¬ t.Plain) =
      some ⟨253402304399, 0⟩ := by decide
  have htext : Instant.text ⟨253402304399, 0⟩ = "+10000-01-01T00:59:59+00:00" := by decide
  refine ⟨_, h, attained, ?_⟩
  rw [attained.sound.runText_toJson, hfirst, ← htext]

end PolicyForm
end PasskeySession
