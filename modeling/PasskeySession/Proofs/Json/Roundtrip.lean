import PasskeySession.Json.Printer
import PasskeySession.Proofs.Amount.Value
import PasskeySession.Proofs.Json.Decoder

/-! # What is written reads back

The characters of a value read back as the value, whatever stands behind them, as long as that does not go on
with its last number. Main statement: a decoder reads from the text of a value what it reads from the value. -/

namespace PasskeySession
open Json (Tree)

/-- A numeral whose parts are digits, without surplus noughts in front. -/
structure Numeral.Proper (n : Numeral) : Prop where
  whole : ∀ c ∈ n.whole, c.isDigit = true
  nonempty : n.whole ≠ []
  leading : n.whole.head? = some '0' → n.whole = ['0']
  fraction : ∀ c ∈ n.fraction, c.isDigit = true
  exponent : ∀ e ∈ n.exponent, e.digits ≠ [] ∧ ∀ c ∈ e.digits, c.isDigit = true

theorem Numeral.proper_ofNat (n : Nat) : (Numeral.ofNat n).Proper where
  whole _ := Nat.isDigit_of_mem_toDigits (by decide) (by decide)
  nonempty := Nat.toDigits_ne_nil
  leading := toDigits_leading
  fraction := by rintro _ ⟨⟩
  exponent := by rintro _ ⟨⟩

theorem Numeral.proper_ofInt (i : Int) : (Numeral.ofInt i).Proper where
  whole := (proper_ofNat i.natAbs).whole
  nonempty := (proper_ofNat i.natAbs).nonempty
  leading := (proper_ofNat i.natAbs).leading
  fraction := by rintro _ ⟨⟩
  exponent := by rintro _ ⟨⟩

namespace Json

mutual

/-- The numbers in a value are proper. -/
def Proper : Json → Prop
  | .number n => n.Proper
  | .array items => ItemsProper items
  | .object members => MembersProper members
  | _ => True

def ItemsProper : List Json → Prop
  | [] => True
  | item :: items => Proper item ∧ ItemsProper items

def MembersProper : List (String × Json) → Prop
  | [] => True
  | (_, value) :: members => Proper value ∧ MembersProper members

end

theorem proper_ofList {α : Type} {f : α → Json} (h : ∀ x, (f x).Proper) (xs : List α) : (Json.ofList f xs).Proper := by
  change ItemsProper (xs.map f)
  induction xs with
  | nil => trivial
  | cons x xs ih => exact ⟨h x, ih⟩

namespace Tree
variable {c : Char} {cs ds rest : List Char}

/-- Whether a character goes on with a number. -/
def goesOn (c : Char) : Bool := c.isDigit || c == '.' || c == 'e' || c == 'E'

/-- What stands behind a value does not go on with a number. -/
def Stops (rest : List Char) : Prop := ∀ c ∈ rest.head?, goesOn c = false

theorem stops_nil : Stops [] := by rintro _ ⟨⟩

theorem stops_cons (h : goesOn c = false) : Stops (c :: rest) := by
  rintro _ ⟨⟩
  exact h

theorem isDigit_of_stops (h : Stops rest) : ∀ c ∈ rest.head?, c.isDigit = false := fun c hc => by
  have := h c hc
  simp only [goesOn, Bool.or_eq_false_iff] at this
  exact this.1.1.1

theorem skip_of_not_space (h : isSpace c = false) : skip (c :: cs) = c :: cs := by
  simp [skip, h]

/-! ### Numbers -/

theorem takeWhile_digits (hd : ∀ c ∈ ds, c.isDigit = true) (hr : ∀ c ∈ rest.head?, c.isDigit = false) :
    (ds ++ rest).takeWhile Char.isDigit = ds := by
  rw [List.takeWhile_append_of_pos hd]
  cases rest with
  | nil => simp
  | cons c rest => simp [hr c rfl]

theorem dropWhile_digits (hd : ∀ c ∈ ds, c.isDigit = true) (hr : ∀ c ∈ rest.head?, c.isDigit = false) :
    (ds ++ rest).dropWhile Char.isDigit = rest := by
  rw [List.dropWhile_append_of_pos hd]
  cases rest with
  | nil => rfl
  | cons c rest => simp [hr c rfl]

/-- What stands behind a mantissa is read as an exponent, or as none, and not as more of the mantissa. -/
structure Spells (after : List Char) (exponent : Option Exponent) (rest : List Char) : Prop where
  head : ∀ c ∈ after.head?, c.isDigit = false ∧ c ≠ '.'
  read : power? after = some (exponent, rest)

theorem spells_none (hr : Stops rest) : Spells rest none rest := by
  cases rest with
  | nil => exact ⟨by rintro _ ⟨⟩, rfl⟩
  | cons c rest =>
    have hc := hr c rfl
    simp only [goesOn, Bool.or_eq_false_iff, beq_eq_false_iff_ne] at hc
    obtain ⟨⟨hhead, he⟩, hE⟩ := hc
    refine ⟨?_, ?_⟩
    · rintro _ ⟨⟩
      exact hhead
    · simp only [power?]
      split <;> simp_all

theorem spells_power {n : Numeral} (hn : n.Proper) (hr : Stops rest) : Spells (n.power ++ rest) n.exponent rest := by
  have hdigit := isDigit_of_stops hr
  unfold Numeral.power
  cases he : n.exponent with
  | none => exact spells_none hr
  | some e =>
    obtain ⟨hne, hd⟩ := hn.exponent e he
    obtain ⟨negative, digits⟩ := e
    have hempty : digits.isEmpty = false := by simpa using hne
    refine ⟨by rintro _ ⟨⟩; decide, ?_⟩
    cases negative <;>
      simp [power?, exponent?, takeWhile_digits hd hdigit, dropWhile_digits hd hdigit, hempty]

theorem fraction?_fraction {n : Numeral} {after : List Char} (hn : n.Proper)
    (hhead : ∀ c ∈ after.head?, c.isDigit = false ∧ c ≠ '.') :
    fraction? ((if n.fraction.isEmpty then [] else '.' :: n.fraction) ++ after) = some (n.fraction, after) := by
  cases hf : n.fraction.isEmpty with
  | true =>
    rw [List.isEmpty_iff.mp hf]
    cases after with
    | nil => rfl
    | cons c after =>
      have hc := (hhead c rfl).2
      simp only [if_true, List.nil_append, fraction?]
      split <;> simp_all
  | false =>
    have hd := hn.fraction
    have hdigit : ∀ c ∈ after.head?, c.isDigit = false := fun c hc => (hhead c hc).1
    simp [fraction?, takeWhile_digits hd hdigit, dropWhile_digits hd hdigit, hf]

theorem whole?_whole {n : Numeral} (hn : n.Proper) (hr : ∀ c ∈ rest.head?, c.isDigit = false) :
    whole? (n.whole ++ rest) = some (n.whole, rest) := by
  have hempty : n.whole.isEmpty = false := by simpa using hn.nonempty
  have hleading : (n.whole.head? == some '0' && n.whole.length != 1) = false := by
    by_contra h
    simp only [Bool.not_eq_false, Bool.and_eq_true, beq_iff_eq, bne_iff_ne] at h
    exact h.2 (by rw [hn.leading h.1]; rfl)
  simp [whole?, takeWhile_digits hn.whole hr, dropWhile_digits hn.whole hr, hempty, hleading]

theorem numeral?_numeral {n : Numeral} {after : List Char} (hn : n.Proper) (h : Spells after n.exponent rest) :
    numeral? n.negative (n.whole ++ ((if n.fraction.isEmpty then [] else '.' :: n.fraction) ++ after)) =
      some (n, rest) := by
  have hwhole : ∀ c ∈ ((if n.fraction.isEmpty then [] else '.' :: n.fraction) ++ after).head?,
      c.isDigit = false := by
    split
    · exact fun c hc => (h.head c hc).1
    · rintro _ ⟨⟩
      decide
  simp only [numeral?, whole?_whole hn hwhole, fraction?_fraction hn h.head, h.read,
    Option.bind_eq_bind, Option.bind_some]

/-! ### Strings -/

theorem units?_plain (hquote : c ≠ '"') (hback : c ≠ '\\') (hc : ¬ c.toNat < 0x20) :
    units? (c :: cs) = (units? cs).map fun (us, rest) => (c.toNat :: us, rest) := by
  rw [units?.eq_def]
  split
  case h_1 h => cases h
  case h_2 h => exact absurd (List.cons.inj h).1 hquote
  case h_3 h => exact absurd (List.cons.inj h).1 hback
  case h_4 h => exact absurd (List.cons.inj h).1 hback
  case h_5 h =>
    obtain ⟨rfl, rfl⟩ := List.cons.inj h
    rw [if_neg (not_or.mpr ⟨hc, hback⟩)]
    cases units? cs <;> rfl

theorem units?_short {d : Char} (h : shortEscape? c = some d) :
    units? ('\\' :: c :: cs) = (units? cs).map fun (us, rest) => (d.toNat :: us, rest) := by
  rw [units?.eq_def]
  split
  case h_1 he => cases he
  case h_2 he => cases (List.cons.inj he).1
  case h_3 he =>
    obtain ⟨rfl, -⟩ := List.cons.inj (List.cons.inj he).2
    cases h
  case h_4 he =>
    obtain ⟨rfl, rfl⟩ := List.cons.inj (List.cons.inj he).2
    rw [h]
    cases units? cs <;> rfl
  case h_5 hno he =>
    obtain ⟨rfl, rfl⟩ := List.cons.inj he
    exact absurd rfl (hno c cs rfl)

theorem units?_control (hc : c.toNat < 0x20) :
    units? ('\\' :: 'u' :: '0' :: '0' :: Text.hexDigit (c.toNat / 16) :: Text.hexDigit (c.toNat % 16) :: cs) =
      (units? cs).map fun (us, rest) => (c.toNat :: us, rest) := by
  have hhi := Text.hexValue?_hexDigit (c.toNat / 16) (by omega)
  have hlo := Text.hexValue?_hexDigit (c.toNat % 16) (by omega)
  have hzero : Text.hexValue? '0' = some 0 := rfl
  have hsum : c.toNat / 16 * 16 + c.toNat % 16 = c.toNat := by omega
  cases h : units? cs <;> simp [units?, hex4?, hhi, hlo, hzero, hsum, h]

/-- An escaped character is read back as its number. -/
theorem units?_escapeChar (c : Char) (cs : List Char) :
    units? (escapeChar c ++ cs) = (units? cs).map fun (us, rest) => (c.toNat :: us, rest) := by
  unfold escapeChar
  split
  case h_8 hquote hback _ _ _ _ _ =>
    split
    · rename_i hc
      exact units?_control hc
    · rename_i hc
      exact units?_plain hquote hback hc
  all_goals exact units?_short rfl

theorem units?_escaped (cs rest : List Char) :
    units? (cs.flatMap escapeChar ++ '"' :: rest) = some (cs.map Char.toNat, rest) := by
  induction cs with
  | nil => simp [units?]
  | cons c cs ih =>
    rw [List.flatMap_cons, List.append_assoc, units?_escapeChar, ih]
    rfl

/-- No character is half of one. -/
theorem not_half (c : Char) : isHigh c.toNat = false ∧ isLow c.toNat = false := by
  have hvalid := c.valid
  have hnat : c.toNat = c.val.toNat := rfl
  simp only [UInt32.isValidChar, Nat.isValidChar] at hvalid
  simp only [isHigh, isLow, Bool.and_eq_false_iff, decide_eq_false_iff_not, hnat]
  omega

theorem join?_toNat (cs : List Char) : join? (cs.map Char.toNat) = some cs := by
  induction cs with
  | nil => rfl
  | cons c cs ih =>
    obtain ⟨hhigh, hlow⟩ := not_half c
    cases cs with
    | nil => simp [join?, hhigh, hlow]
    | cons d cs =>
      simp only [List.map_cons] at ih ⊢
      simp [join?, hhigh, hlow, ih]

theorem string?_quote (s : String) (rest : List Char) :
    string? (s.toList.flatMap escapeChar ++ '"' :: rest) = some (some s, rest) := by
  rw [string?, units?_escaped]
  simp [join?_toNat]

/-! ### Values -/

theorem not_space_of_isDigit (hd : c.isDigit = true) : isSpace c = false := by
  cases h : isSpace c with
  | false => rfl
  | true =>
    simp only [isSpace, Bool.or_eq_true, beq_iff_eq] at h
    obtain ((rfl | rfl) | rfl) | rfl := h <;> cases hd

theorem value_digit {fuel : Nat} (hd : c.isDigit = true) :
    value (fuel + 1) (c :: cs) =
      ((numeral? false (c :: cs)).map fun (n, rest) => (.number n, rest)).getD (.broken, []) := by
  rw [value, skip_of_not_space (not_space_of_isDigit hd)]
  split
  case h_8 => rfl
  all_goals
    rename_i h
    obtain ⟨rfl, -⟩ := List.cons.inj h
    cases hd

theorem mantissa_append (n : Numeral) (rest : List Char) : n.mantissa ++ rest =
    (if n.negative then ['-'] else []) ++
      (n.whole ++ ((if n.fraction.isEmpty then [] else '.' :: n.fraction) ++ rest)) := by
  simp only [Numeral.mantissa, List.append_assoc]

theorem value_mantissa {fuel : Nat} {n : Numeral} {after : List Char} (hn : n.Proper)
    (h : Spells after n.exponent rest) : value (fuel + 1) (n.mantissa ++ after) = (.number n, rest) := by
  have hread := numeral?_numeral hn h
  rw [mantissa_append]
  cases hsign : n.negative with
  | true =>
    rw [hsign] at hread
    generalize n.whole ++ _ = body at hread ⊢
    change value (fuel + 1) ('-' :: body) = _
    rw [value, skip_of_not_space (by decide)]
    simp [hread]
  | false =>
    rw [hsign] at hread
    obtain ⟨d, ds, hwhole⟩ := List.exists_cons_of_ne_nil hn.nonempty
    have hd : d.isDigit = true := hn.whole d (by simp [hwhole])
    rw [hwhole, List.cons_append] at hread ⊢
    change value (fuel + 1) (d :: _) = _
    rw [value_digit hd, hread]
    rfl

theorem value_number {fuel : Nat} {n : Numeral} (hn : n.Proper) (hr : Stops rest) :
    value (fuel + 1) (n.chars ++ rest) = (.number n, rest) := by
  rw [Numeral.chars, List.append_assoc]
  exact value_mantissa hn (spells_power hn hr)

theorem quote_append (s : String) : quote s ++ rest = '"' :: (s.toList.flatMap escapeChar ++ '"' :: rest) := by
  simp [quote]

theorem value_string {fuel : Nat} (s : String) :
    value (fuel + 1) (quote s ++ rest) = (.string (some s), rest) := by
  have hread := string?_quote s rest
  rw [quote_append, value, skip_of_not_space (by decide)]
  simp [hread]

/-- A value begins with neither white space nor a bracket that closes a list. -/
theorem chars_begins (v : Json) (h : v.Proper) : ∃ c cs, v.chars = c :: cs ∧ isSpace c = false ∧ c ≠ ']' := by
  cases v with
  | null => exact ⟨_, _, rfl, by decide, by decide⟩
  | bool b => cases b <;> exact ⟨_, _, rfl, by decide, by decide⟩
  | string s => exact ⟨_, _, rfl, by decide, by decide⟩
  | array items => exact ⟨_, _, rfl, by decide, by decide⟩
  | object members => exact ⟨_, _, rfl, by decide, by decide⟩
  | number n =>
    obtain ⟨d, ds, hwhole⟩ := List.exists_cons_of_ne_nil h.nonempty
    have hd : d.isDigit = true := h.whole d (by simp [hwhole])
    have hchars : chars (.number n) = n.mantissa ++ n.power := rfl
    rw [hchars, mantissa_append, hwhole]
    cases n.negative with
    | true => exact ⟨'-', _, rfl, by decide, by decide⟩
    | false =>
      refine ⟨d, _, rfl, not_space_of_isDigit hd, ?_⟩
      rintro rfl
      cases hd

theorem itemChars_cons (v w : Json) (vs : List Json) :
    itemChars (v :: w :: vs) = chars v ++ ',' :: itemChars (w :: vs) := rfl

theorem memberChars_cons (name : String) (v : Json) (m : String × Json) (ms : List (String × Json)) :
    memberChars ((name, v) :: m :: ms) = quote name ++ ':' :: chars v ++ ',' :: memberChars (m :: ms) := rfl

/-- The last member of an object. -/
theorem members_last {fuel : Nat} {name : Option String} {body : List Char} {t : Tree}
    (hname : string? cs = some (name, ':' :: body)) (hvalue : value fuel body = (t, '\x7d' :: rest)) :
    members (fuel + 1) ('"' :: cs) = ([(name, t)], true, rest) := by
  rw [members]
  simp [skip_of_not_space, isSpace, hname, hvalue]

/-- A member that another follows. -/
theorem members_next {fuel : Nat} {name : Option String} {body after : List Char} {t : Tree}
    {ms : List (Option String × Tree)} {closed : Bool} (hname : string? cs = some (name, ':' :: body))
    (hvalue : value fuel body = (t, ',' :: after)) (hmembers : members fuel after = (ms, closed, rest)) :
    members (fuel + 1) ('"' :: cs) = ((name, t) :: ms, closed, rest) := by
  rw [members]
  simp [skip_of_not_space, isSpace, hname, hvalue, hmembers]

/-- An object that has a member. -/
theorem value_object {fuel : Nat} {ms : List (Option String × Tree)} {closed : Bool}
    (hmembers : members fuel ('"' :: cs) = (ms, closed, rest)) :
    value (fuel + 1) ('\x7b' :: '"' :: cs) = (.object ms closed, rest) := by
  rw [value, skip_of_not_space (by decide)]
  simp only [skip_of_not_space (c := '"') (by decide)]
  simp [hmembers]

theorem stops_comma : Stops (',' :: rest) := stops_cons (by decide)

theorem stops_bracket : Stops (']' :: rest) := stops_cons (by decide)

theorem stops_brace : Stops ('\x7d' :: rest) := stops_cons (by decide)

theorem itemChars_begins {items : List Json} (hne : items ≠ []) (h : ItemsProper items) (rest : List Char) :
    ∃ c cs, itemChars items ++ ']' :: rest = c :: cs ∧ isSpace c = false ∧ c ≠ ']' := by
  cases items with
  | nil => cases hne rfl
  | cons v vs =>
    obtain ⟨c, cs, hchars, hspace, hclose⟩ := chars_begins v h.1
    cases vs with
    | nil => exact ⟨c, _, by rw [itemChars, hchars]; rfl, hspace, hclose⟩
    | cons w ws => exact ⟨c, _, by rw [itemChars_cons, hchars]; rfl, hspace, hclose⟩

theorem memberChars_begins {ms : List (String × Json)} (hne : ms ≠ []) (rest : List Char) :
    ∃ cs, memberChars ms ++ rest = '"' :: cs := by
  cases ms with
  | nil => cases hne rfl
  | cons m ms =>
    obtain ⟨name, v⟩ := m
    cases ms with
    | nil => exact ⟨_, by rw [memberChars, quote]; rfl⟩
    | cons m ms => exact ⟨_, by rw [memberChars_cons, quote]; rfl⟩

mutual

/-- The characters of a value read as its tree. Each character pays for two steps of the reader: one takes
an item of a list or a member of an object, the other its value. -/
theorem value_chars : (v : Json) → v.Proper → ∀ (fuel : Nat) (rest : List Char), 2 * v.chars.length < fuel →
    Stops rest → value fuel (v.chars ++ rest) = (ofJson v, rest)
  | .null, _, fuel + 1, rest, _, _ => rfl
  | .bool b, _, fuel + 1, rest, _, _ => by cases b <;> rfl
  | .number n, h, fuel + 1, rest, _, hr => value_number h hr
  | .string s, _, fuel + 1, rest, _, _ => value_string s
  | .array [], _, fuel + 1, rest, _, _ => rfl
  | .array (v :: vs), h, fuel + 1, rest, hfuel, _ => by
    have hlen : (chars (.array (v :: vs))).length = (itemChars (v :: vs)).length + 2 := by simp [chars]
    have hitems := items_itemChars (v :: vs) h (by simp) fuel rest (by omega)
    obtain ⟨c, cs, hcs, hspace, hclose⟩ := itemChars_begins (List.cons_ne_nil v vs) h rest
    have hchars : chars (.array (v :: vs)) ++ rest = '[' :: (itemChars (v :: vs) ++ ']' :: rest) := by
      simp [chars]
    rw [hcs] at hitems hchars
    rw [hchars, value, skip_of_not_space (by decide)]
    simp only [skip_of_not_space hspace]
    simp [hclose, hitems, ofJson]
  | .object [], _, fuel + 1, rest, _, _ => rfl
  | .object (m :: ms), h, fuel + 1, rest, hfuel, _ => by
    have hlen : (chars (.object (m :: ms))).length = (memberChars (m :: ms)).length + 2 := by simp [chars]
    have hmembers := members_memberChars (m :: ms) h (by simp) fuel rest (by omega)
    obtain ⟨cs, hcs⟩ := memberChars_begins (List.cons_ne_nil m ms) ('\x7d' :: rest)
    have hchars : chars (.object (m :: ms)) ++ rest = '\x7b' :: (memberChars (m :: ms) ++ '\x7d' :: rest) := by
      simp [chars]
    rw [hcs] at hmembers hchars
    rw [hchars]
    exact value_object hmembers

theorem items_itemChars : (vs : List Json) → ItemsProper vs → vs ≠ [] → ∀ (fuel : Nat) (rest : List Char),
    2 * (itemChars vs).length + 1 < fuel → items fuel (itemChars vs ++ ']' :: rest) = (ofItems vs, true, rest)
  | [], _, hne, _, _, _ => absurd rfl hne
  | [v], h, _, fuel + 1, rest, hfuel => by
    have hv := value_chars v h.1 fuel (']' :: rest) (by simp only [itemChars] at hfuel; omega) stops_bracket
    rw [itemChars, items, hv]
    simp [skip_of_not_space, isSpace, ofItems]
  | v :: w :: ws, h, _, fuel + 1, rest, hfuel => by
    rw [itemChars_cons] at hfuel ⊢
    simp only [List.length_append, List.length_cons] at hfuel
    have hv := value_chars v h.1 fuel (',' :: (itemChars (w :: ws) ++ ']' :: rest)) (by omega) stops_comma
    have hvs := items_itemChars (w :: ws) h.2 (by simp) fuel rest (by omega)
    rw [items, List.append_assoc, List.cons_append, hv]
    simp [skip_of_not_space, isSpace, hvs, ofItems]

theorem members_memberChars : (ms : List (String × Json)) → MembersProper ms → ms ≠ [] →
    ∀ (fuel : Nat) (rest : List Char), 2 * (memberChars ms).length + 1 < fuel →
      members fuel (memberChars ms ++ '\x7d' :: rest) = (ofMembers ms, true, rest)
  | [], _, hne, _, _, _ => absurd rfl hne
  | [(name, v)], h, _, fuel + 1, rest, hfuel => by
    have hv := value_chars v h.1 fuel ('\x7d' :: rest)
      (by simp only [memberChars, List.length_append, List.length_cons] at hfuel; omega) stops_brace
    rw [memberChars, List.append_assoc, List.cons_append, quote_append]
    exact members_last (string?_quote name _) hv
  | (name, v) :: m :: ms, h, _, fuel + 1, rest, hfuel => by
    rw [memberChars_cons] at hfuel ⊢
    simp only [List.length_append, List.length_cons] at hfuel
    have hv := value_chars v h.1 fuel (',' :: (memberChars (m :: ms) ++ '\x7d' :: rest)) (by omega) stops_comma
    have hms := members_memberChars (m :: ms) h.2 (by simp) fuel rest (by omega)
    rw [List.append_assoc, List.append_assoc, List.cons_append, List.cons_append, quote_append]
    exact members_next (string?_quote name _) hv hms

end

theorem read_chars {v : Json} (h : v.Proper) : read v.chars = ⟨ofJson v, true⟩ := by
  have hv := value_chars v h (2 * v.chars.length + 2) [] (by omega) stops_nil
  rw [List.append_nil] at hv
  simp [read, hv, skip]

end Tree

/-- A decoder reads from the text of a value what it reads from the value. -/
theorem Decoder.runText_compact {α : Type} (d : Decoder α) {v : Json} (h : v.Proper) :
    d.runText v.compact = d.runJson v := by
  rw [runText, compact, String.toList_ofList, run, Tree.read_chars h, runJson]
  dsimp only
  cases d deepest (Tree.ofJson v) <;> rfl

end Json
end PasskeySession
