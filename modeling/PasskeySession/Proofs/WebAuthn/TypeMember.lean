import PasskeySession.Proofs.Json.Literal
import PasskeySession.Proofs.Text.Utf8
import PasskeySession.Proofs.WebAuthn.ValidatorSignature

/-! # The type among the members of client data

Client data are a JSON object without white space. The key that is looked for in their bytes begins with a quote,
and a quote that is followed by a letter opens a name or a string or stands escaped in a string; behind a string
there is no colon. Main statement: the key is found where the first member named `type` begins, whatever stands in
the strings before it. -/

namespace PasskeySession.ClientData
open Json (Tree)

/-! ### Compact objects -/

/-- The characters between the quotes of a string: quote, backslash and control characters stand only escaped. -/
inductive Escaped : List Char → Prop
  | nil : Escaped []
  | plain {c cs} : c ≠ '"' → c ≠ '\\' → 0x20 ≤ c.toNat → Escaped cs → Escaped (c :: cs)
  | short {c d cs} : Tree.shortEscape? c = some d → Escaped cs → Escaped ('\\' :: c :: cs)
  | unicode {a b c d n cs} : Tree.hex4? a b c d = some n → Escaped cs →
    Escaped ('\\' :: 'u' :: a :: b :: c :: d :: cs)

/-- A value without parts, as it is written. -/
inductive Scalar
  | string (content : List Char) (escaped : Escaped content)
  | number (t : Json.Literal)
  | bool (b : Bool)
  | null

/-- A member of an object, as it is written. -/
structure Member where
  name : List Char
  plain : ∀ c ∈ name, c ≠ '"' ∧ c ≠ '\\'
  value : Scalar

def Scalar.chars : Scalar → List Char
  | string content _ => '"' :: (content ++ ['"'])
  | number t => t.chars
  | bool b => Json.chars (.bool b)
  | null => Json.chars .null

def Member.chars (m : Member) : List Char := '"' :: (m.name ++ '"' :: ':' :: m.value.chars)

/-- What stands in an object before the member that follows the given ones. -/
def before (ms : List Member) : List Char := '\x7b' :: ms.flatMap fun m => m.chars ++ [',']

/-- What stands in an object behind a member that the given ones follow. -/
def behind : List Member → List Char
  | [] => ['\x7d']
  | m :: ms => ',' :: (m.chars ++ behind ms)

/-- An object with the given members, without white space. -/
def compact : List Member → List Char
  | [] => ['\x7b', '\x7d']
  | m :: ms => '\x7b' :: (m.chars ++ behind ms)

theorem behind_append (ms : List Member) (m : Member) (after : List Member) : behind (ms ++ m :: after) =
    ',' :: ms.flatMap (fun d => d.chars ++ [',']) ++ (m.chars ++ behind after) := by
  induction ms with
  | nil => rfl
  | cons d ms ih => simp [behind, ih]

theorem compact_append (ms : List Member) (m : Member) (after : List Member) :
    compact (ms ++ m :: after) = before ms ++ (m.chars ++ behind after) := by
  cases ms with
  | nil => rfl
  | cons d ms => simp [compact, before, behind_append]

/-! ### Where the key may stand -/

variable {c : Char} {cs ds p q name content : List Char}

/-- The key with its quotes and its colon. -/
def keyChars : List Char := ['"', 't', 'y', 'p', 'e', '"', ':']

theorem utf8_keyChars : Text.utf8 keyChars = typeKey := by decide +kernel

/-- The key begins nowhere in the first of two pieces that stand one behind the other. -/
def Quiet : List Char → List Char → Prop
  | [], _ => True
  | c :: p, q => ¬ keyChars <+: c :: (p ++ q) ∧ Quiet p q

theorem quiet_append : Quiet (p ++ ds) q ↔ Quiet p (ds ++ q) ∧ Quiet ds q := by
  induction p with
  | nil => simp [Quiet]
  | cons c p ih => simp only [List.cons_append, Quiet, List.append_assoc, ih, and_assoc]

/-- The key begins with a quote. -/
theorem not_prefix_of_ne (h : c ≠ '"') : ¬ keyChars <+: c :: cs := fun hp =>
  h (List.cons_prefix_cons.mp hp).1.symm

theorem quiet_of_no_quote (h : '"' ∉ p) : Quiet p q := by
  induction p with
  | nil => trivial
  | cons c p ih =>
    exact ⟨not_prefix_of_ne (List.ne_of_not_mem_cons h).symm, ih (List.not_mem_of_not_mem_cons h)⟩

/-! ### Strings -/

/-- Letters in front of a quote and a colon do not begin the rest of a string: its quote is the last thing in it,
    and behind it stands no colon. -/
theorem not_prefix_of_escaped (h : Escaped content) {word : List Char} (hquote : '"' ∉ word) (hback : '\\' ∉ word)
    (hq : ':' ∉ q.head?) : ¬ word ++ ['"', ':'] <+: content ++ '"' :: q := by
  induction word generalizing content with
  | nil =>
    intro hp
    cases h with
    | nil =>
      obtain ⟨-, rest, rfl⟩ := List.cons_prefix_cons.mp hp
      exact hq rfl
    | plain hquote => exact hquote (List.cons_prefix_cons.mp hp).1.symm
    | short | unicode => cases (List.cons_prefix_cons.mp hp).1
  | cons c word ih =>
    intro hp
    have hcquote := List.ne_of_not_mem_cons hquote
    have hcback := List.ne_of_not_mem_cons hback
    cases h with
    | nil => exact hcquote (List.cons_prefix_cons.mp hp).1.symm
    | plain _ _ _ hcontent =>
      exact ih hcontent (List.not_mem_of_not_mem_cons hquote) (List.not_mem_of_not_mem_cons hback)
        (List.cons_prefix_cons.mp hp).2
    | short | unicode => exact hcback (List.cons_prefix_cons.mp hp).1.symm

theorem not_key_of_escaped (h : Escaped content) (hq : ':' ∉ q.head?) :
    ¬ keyChars <+: '"' :: (content ++ '"' :: q) := by
  have hquote : '"' ∉ ['t', 'y', 'p', 'e'] := by decide
  have hback : '\\' ∉ ['t', 'y', 'p', 'e'] := by decide
  exact fun hp => not_prefix_of_escaped h hquote hback hq (List.cons_prefix_cons.mp hp).2

theorem ne_quote_of_hex4? {a b c d : Char} {n : Nat} (h : Tree.hex4? a b c d = some n) :
    a ≠ '"' ∧ b ≠ '"' ∧ c ≠ '"' ∧ d ≠ '"' := by
  have hnone : Text.hexValue? '"' = none := rfl
  refine ⟨?_, ?_, ?_, ?_⟩
  all_goals
    rintro rfl
    simp [Tree.hex4?, hnone] at h

/-- The key begins nowhere in a string. -/
theorem quiet_string (h : Escaped content) (hcolon : ':' ∉ q.head?) (hletter : 't' ∉ q.head?) :
    Quiet (content ++ ['"']) q := by
  induction h with
  | nil =>
    refine ⟨fun hp => ?_, trivial⟩
    obtain ⟨-, hp⟩ := List.cons_prefix_cons.mp hp
    cases q with
    | nil => cases List.prefix_nil.mp hp
    | cons c q =>
      obtain ⟨rfl, -⟩ := List.cons_prefix_cons.mp hp
      exact hletter rfl
  | plain hquote hback hcontrol hcontent ih => exact ⟨not_prefix_of_ne hquote, ih⟩
  | @short c d cs hshort hcontent ih =>
    refine ⟨not_prefix_of_ne (by decide), fun hp => ?_, ih⟩
    -- An escaped quote may begin the key, but the string goes on behind it.
    obtain ⟨rfl, -⟩ := List.cons_prefix_cons.mp hp
    exact not_key_of_escaped hcontent hcolon (by simpa using hp)
  | unicode hhex hcontent ih =>
    obtain ⟨ha, hb, hc, hd⟩ := ne_quote_of_hex4? hhex
    exact ⟨not_prefix_of_ne (by decide), not_prefix_of_ne (by decide), not_prefix_of_ne ha, not_prefix_of_ne hb,
      not_prefix_of_ne hc, not_prefix_of_ne hd, ih⟩

theorem ne_quote_of_isDigit (h : c.isDigit = true) : c ≠ '"' := by
  rintro rfl
  cases h

/-- A number is written without quotes. -/
theorem ne_quote_of_mem_literal (t : Json.Literal) : ∀ c ∈ t.chars, c ≠ '"' := by
  obtain ⟨n, proper, capital, plus⟩ := t
  have hmantissa : ∀ c ∈ n.mantissa, c ≠ '"' := by
    intro c hc
    simp only [Numeral.mantissa, List.mem_append] at hc
    rcases hc with (hc | hc) | hc
    · split at hc
      · rintro rfl
        simp at hc
      · cases hc
    · exact ne_quote_of_isDigit (proper.whole c hc)
    · split at hc
      · cases hc
      · rcases List.mem_cons.mp hc with rfl | hc
        · decide
        · exact ne_quote_of_isDigit (proper.fraction c hc)
  intro c hc
  rw [Json.Literal.chars, List.mem_append] at hc
  rcases hc with hc | hc
  · exact hmantissa c hc
  · cases hexp : n.exponent with
    | none => simp [Json.Literal.power, hexp] at hc
    | some e =>
      simp only [Json.Literal.power, hexp, List.mem_cons, List.mem_append] at hc
      rcases hc with rfl | hc | hc
      · split <;> decide
      · revert hc
        cases e.negative <;> cases plus <;> simp +contextual [Json.Literal.sign]
      · exact ne_quote_of_isDigit ((proper.exponent e hexp).2 c hc)

/-- The key begins nowhere in a value, if a comma or a brace follows it. -/
theorem Scalar.quiet (v : Scalar) (hcolon : ':' ∉ q.head?) (hletter : 't' ∉ q.head?) : Quiet v.chars q := by
  cases v with
  | string content escaped =>
    have hopen := not_key_of_escaped escaped hcolon
    refine ⟨?_, quiet_string escaped hcolon hletter⟩
    rwa [List.append_assoc, List.singleton_append]
  | number t => exact quiet_of_no_quote fun hc => ne_quote_of_mem_literal t '"' hc rfl
  | bool b =>
    cases b with
    | true | false => exact quiet_of_no_quote (by decide)
  | null => exact quiet_of_no_quote (by decide)

/-! ### Members -/

/-- A word without quotes in front of a quote is the name in front of one. -/
theorem eq_of_prefix_quote {word : List Char} (hword : '"' ∉ word) (hname : '"' ∉ name)
    (h : word ++ '"' :: p <+: name ++ '"' :: q) : name = word := by
  induction word generalizing name with
  | nil =>
    cases name with
    | nil => rfl
    | cons d name => exact absurd (List.cons_prefix_cons.mp h).1 (List.ne_of_not_mem_cons hname)
  | cons c word ih =>
    cases name with
    | nil => exact absurd (List.cons_prefix_cons.mp h).1.symm (List.ne_of_not_mem_cons hword)
    | cons d name =>
      obtain ⟨rfl, htail⟩ := List.cons_prefix_cons.mp h
      rw [ih (List.not_mem_of_not_mem_cons hword) (List.not_mem_of_not_mem_cons hname) htail]

/-- The name that the key asks for. -/
def typeName : List Char := ['t', 'y', 'p', 'e']

namespace Member

def IsType (m : Member) : Prop := m.name = typeName

theorem chars_append (m : Member) (q : List Char) :
    m.chars ++ q = '"' :: (m.name ++ '"' :: ':' :: (m.value.chars ++ q)) := by
  simp [chars]

theorem quote_not_mem (m : Member) : '"' ∉ m.name := fun hc => (m.plain '"' hc).1 rfl

/-- The key begins at a member if this is named `type`. -/
theorem key_prefix_iff (m : Member) (q : List Char) : keyChars <+: m.chars ++ q ↔ m.IsType := by
  have hword : '"' ∉ typeName := by decide
  rw [chars_append]
  constructor
  · intro h
    exact eq_of_prefix_quote (p := [':']) hword m.quote_not_mem (List.cons_prefix_cons.mp h).2
  · intro h
    rw [h]
    exact ⟨m.value.chars ++ q, rfl⟩

/-- In a member that is named otherwise the key begins nowhere. -/
theorem quiet (m : Member) (h : ¬ m.IsType) (hcolon : ':' ∉ q.head?) (hletter : 't' ∉ q.head?) : Quiet m.chars q := by
  have hopen := (m.key_prefix_iff q).not.mpr h
  have hvalue := m.value.quiet hcolon hletter
  have hname : Quiet m.name ('"' :: ':' :: m.value.chars ++ q) := quiet_of_no_quote m.quote_not_mem
  have hclose : ¬ keyChars <+: '"' :: ':' :: (m.value.chars ++ q) := fun hp => by
    cases (List.cons_prefix_cons.mp (List.cons_prefix_cons.mp hp).2).1
  refine ⟨?_, ?_⟩
  · simpa [chars] using hopen
  · rw [quiet_append]
    exact ⟨hname, hclose, not_prefix_of_ne (by decide), hvalue⟩

end Member

theorem head_behind (ms : List Member) : ':' ∉ (behind ms).head? ∧ 't' ∉ (behind ms).head? := by
  cases ms with
  | nil | cons => exact ⟨by simp [behind], by simp [behind]⟩

theorem quiet_before {ms : List Member} (h : ∀ m ∈ ms, ¬ m.IsType) (q : List Char) : Quiet (before ms) q := by
  refine ⟨not_prefix_of_ne (by decide), ?_⟩
  induction ms with
  | nil => trivial
  | cons m ms ih =>
    obtain ⟨hm, hms⟩ := List.forall_mem_cons.mp h
    rw [List.flatMap_cons, quiet_append, quiet_append]
    exact ⟨⟨m.quiet hm (by simp) (by simp), not_prefix_of_ne (by decide), trivial⟩, ih hms⟩

theorem quiet_behind {ms : List Member} (h : ∀ m ∈ ms, ¬ m.IsType) : Quiet (behind ms) [] := by
  induction ms with
  | nil => exact ⟨not_prefix_of_ne (by decide), trivial⟩
  | cons m ms ih =>
    obtain ⟨hm, hms⟩ := List.forall_mem_cons.mp h
    obtain ⟨hcolon, hletter⟩ := head_behind ms
    refine ⟨not_prefix_of_ne (by decide), ?_⟩
    rw [quiet_append]
    exact ⟨m.quiet hm (by simpa using hcolon) (by simpa using hletter), ih hms⟩

theorem quiet_compact {ms : List Member} (h : ∀ m ∈ ms, ¬ m.IsType) : Quiet (compact ms) [] := by
  cases ms with
  | nil => exact quiet_of_no_quote (by decide)
  | cons m ms => exact ⟨not_prefix_of_ne (by decide), (quiet_behind h).2⟩

/-! ### Bytes -/

theorem offset?_of_no_quote {p q : Bytes} (h : ∀ b ∈ p, b ≠ 0x22) :
    offset? typeKey (p ++ q) = (offset? typeKey q).map (· + p.length) := by
  induction p with
  | nil => simp
  | cons b p ih =>
    obtain ⟨hb, hp⟩ := List.forall_mem_cons.mp h
    have hfirst : ¬ typeKey.isPrefixOf (b :: (p ++ q)) := fun hprefix =>
      hb (List.cons_prefix_cons.mp (List.isPrefixOf_iff_prefix.mp hprefix)).1.symm
    rw [List.cons_append, offset?, if_neg hfirst, ih hp, Option.map_map]
    rfl

theorem typeIndex?_cons (h : ¬ keyChars <+: c :: cs) : typeIndex? (Text.utf8 (c :: cs)) =
    (typeIndex? (Text.utf8 cs)).map (· + (String.utf8EncodeChar c).length) := by
  by_cases hc : c = '"'
  · have hfirst : ¬ typeKey.isPrefixOf (Text.utf8 (c :: cs)) := by
      rwa [List.isPrefixOf_iff_prefix, ← utf8_keyChars, Text.utf8_prefix_iff]
    have hquote : String.utf8EncodeChar '"' = [0x22] := Text.utf8EncodeChar_ascii (by decide)
    rw [Text.utf8_cons, hc, hquote, List.singleton_append] at hfirst ⊢
    rw [typeIndex?, offset?, if_neg hfirst]
    rfl
  · rw [Text.utf8_cons]
    refine offset?_of_no_quote ?_
    rintro b hb rfl
    exact hc (Text.eq_of_mem_encodeChar (d := '"') (by decide) hb)

/-- What a piece without the key adds to a place is its length. -/
theorem typeIndex?_append (h : Quiet p q) :
    typeIndex? (Text.utf8 (p ++ q)) = (typeIndex? (Text.utf8 q)).map (· + (Text.utf8 p).length) := by
  induction p with
  | nil => simp [Text.utf8]
  | cons c p ih =>
    rw [List.cons_append, typeIndex?_cons h.1, ih h.2, Option.map_map, Text.utf8_cons, List.length_append]
    exact congrArg (Option.map · _) (funext fun i => by simp only [Function.comp_apply]; omega)

/-! ### Reading compact objects -/

theorem units?_escaped (h : Escaped content) (q : List Char) :
    ∃ us, Tree.units? (content ++ '"' :: q) = some (us, q) := by
  induction h with
  | nil => exact ⟨[], by simp [Tree.units?]⟩
  | @plain c cs hquote hback hcontrol hcontent ih =>
    obtain ⟨us, hus⟩ := ih
    exact ⟨c.toNat :: us, by rw [List.cons_append, Tree.units?_plain hquote hback (by omega), hus]; rfl⟩
  | short hshort hcontent ih =>
    obtain ⟨us, hus⟩ := ih
    exact ⟨_, by rw [List.cons_append, List.cons_append, Tree.units?_short hshort, hus]; rfl⟩
  | unicode hhex hcontent ih =>
    obtain ⟨us, hus⟩ := ih
    exact ⟨_, by simp [Tree.units?, hhex, hus]; rfl⟩

/-- A name is read as it is. -/
theorem string?_name (hplain : ∀ c ∈ name, c ≠ '"' ∧ c ≠ '\\') (hcontrol : ∀ c ∈ name, 0x20 ≤ c.toNat) (q : List Char) :
    Tree.string? (name ++ '"' :: q) = some (some (String.ofList name), q) := by
  have hunits : Tree.units? (name ++ '"' :: q) = some (name.map Char.toNat, q) := by
    induction name with
    | nil => simp [Tree.units?]
    | cons c name ih =>
      obtain ⟨⟨hquote, hback⟩, hname⟩ := List.forall_mem_cons.mp hplain
      obtain ⟨hc, hcontrol⟩ := List.forall_mem_cons.mp hcontrol
      rw [List.cons_append, Tree.units?_plain hquote hback (by omega), ih hname hcontrol]
      rfl
  simp only [Tree.string?, hunits, Option.map_some, Tree.join?_toNat]

theorem Scalar.value_chars (v : Scalar) (fuel : Nat) (hq : Tree.Stops q) :
    ∃ t, Tree.sound t = true ∧ Tree.value (fuel + 1) (v.chars ++ q) = (t, q) := by
  cases v with
  | string content escaped =>
    obtain ⟨us, hus⟩ := units?_escaped escaped q
    refine ⟨.string ((Tree.join? us).map String.ofList), rfl, ?_⟩
    have hread : Tree.string? (content ++ '"' :: q) = some ((Tree.join? us).map String.ofList, q) := by
      rw [Tree.string?, hus]
      rfl
    have hchars : (Scalar.string content escaped).chars ++ q = '"' :: (content ++ '"' :: q) := by
      simp [chars]
    rw [hchars, Tree.value, Tree.skip_of_not_space (by decide)]
    simp [hread]
  | number t => exact ⟨.number t.numeral, rfl, t.value_chars fuel hq⟩
  | bool b => exact ⟨.bool b, rfl, by cases b <;> rfl⟩
  | null => exact ⟨.null, rfl, rfl⟩

theorem stops_behind (ms : List Member) : Tree.Stops (behind ms) := by
  cases ms with
  | nil => exact Tree.stops_brace
  | cons => exact Tree.stops_comma

/-- The members of an object are read one after the other. -/
theorem members_behind {ms : List Member} (hcontrol : ∀ m ∈ ms, ∀ c ∈ m.name, 0x20 ≤ c.toNat) {m : Member}
    (hm : ∀ c ∈ m.name, 0x20 ≤ c.toNat) {fuel : Nat} (hfuel : ms.length < fuel) :
    ∃ ts : List (Option String × Tree), Tree.members (fuel + 1) (m.chars ++ behind ms) = (ts, true, []) ∧
      ts.map Prod.fst = (m :: ms).map (fun d => some (String.ofList d.name)) ∧ Tree.membersSound ts = true := by
  induction ms generalizing m fuel with
  | nil =>
    obtain ⟨fuel, rfl⟩ := Nat.exists_eq_add_of_lt hfuel
    obtain ⟨t, ht, hvalue⟩ := m.value.value_chars (0 + fuel) (stops_behind [])
    have hname := string?_name m.plain hm (':' :: (m.value.chars ++ behind []))
    refine ⟨[(some (String.ofList m.name), t)], ?_, rfl, ?_⟩
    · rw [m.chars_append]
      exact Tree.members_last hname hvalue
    · rw [Tree.membersSound, ht]
      rfl
  | cons d ms ih =>
    obtain ⟨hd, hcontrol⟩ := List.forall_mem_cons.mp hcontrol
    obtain ⟨fuel, rfl⟩ := Nat.exists_eq_add_of_lt hfuel
    rw [List.length_cons] at hfuel
    obtain ⟨t, ht, hvalue⟩ := m.value.value_chars ((d :: ms).length + fuel) (stops_behind (d :: ms))
    have hname := string?_name m.plain hm (':' :: (m.value.chars ++ behind (d :: ms)))
    have hmore : ms.length < (d :: ms).length + fuel := by
      rw [List.length_cons]
      omega
    obtain ⟨ts, hts, hnames, hsound⟩ := ih hcontrol hd hmore
    refine ⟨(some (String.ofList m.name), t) :: ts, ?_, ?_, ?_⟩
    · rw [m.chars_append]
      exact Tree.members_next hname hvalue hts
    · rw [List.map_cons, hnames]
      rfl
    · rw [Tree.membersSound, ht, hsound]
      rfl

theorem length_le_behind (ms : List Member) : ms.length < (behind ms).length := by
  induction ms with
  | nil => exact Nat.one_pos
  | cons m ms ih =>
    simp only [behind, List.length_cons, List.length_append]
    omega

/-- A reader of JSON finds the members with their names in order, and nothing wrong. -/
theorem read_compact {ms : List Member} (hcontrol : ∀ m ∈ ms, ∀ c ∈ m.name, 0x20 ≤ c.toNat) :
    ∃ ts : List (Option String × Tree), Tree.read (compact ms) = ⟨.object ts true, true⟩ ∧
      ts.map Prod.fst = ms.map (fun m => some (String.ofList m.name)) ∧ (Tree.object ts true).sound = true := by
  cases ms with
  | nil => exact ⟨[], rfl, rfl, rfl⟩
  | cons m ms =>
    obtain ⟨hm, hcontrol⟩ := List.forall_mem_cons.mp hcontrol
    have hfuel : ms.length < 2 * (compact (m :: ms)).length := by
      have := length_le_behind ms
      simp only [compact, List.length_cons, List.length_append]
      omega
    obtain ⟨ts, hts, hnames, hsound⟩ := members_behind hcontrol hm hfuel
    refine ⟨ts, ?_, hnames, ?_⟩
    · rw [m.chars_append] at hts
      have hvalue := Tree.value_object hts
      rw [← m.chars_append] at hvalue
      rw [Tree.read]
      generalize 2 * (compact (m :: ms)).length = fuel at hvalue ⊢
      rw [compact, hvalue]
      rfl
    · rw [Tree.sound, hsound]
      rfl

/-! ### The index of the type -/

instance (m : Member) : Decidable m.IsType := inferInstanceAs (Decidable (m.name = typeName))

theorem typeIndex?_of_first {m : Member} (hm : m.IsType) {ds : List Member} (hds : ∀ d ∈ ds, ¬ d.IsType)
    (after : List Member) :
    typeIndex? (Text.utf8 (compact (ds ++ m :: after))) = some (Text.utf8 (before ds)).length := by
  have here : typeIndex? (Text.utf8 (m.chars ++ behind after)) = some 0 := by
    have hkey := Text.utf8_prefix_iff.mpr ((m.key_prefix_iff (behind after)).mpr hm)
    rw [utf8_keyChars] at hkey
    exact offset?_eq_some_iff.mpr ⟨hkey, fun j _ => Nat.zero_le j⟩
  rw [compact_append, typeIndex?_append (quiet_before hds _), here, Option.map_some, Nat.zero_add]

theorem typeIndex?_of_absent {ms : List Member} (h : ∀ m ∈ ms, ¬ m.IsType) :
    typeIndex? (Text.utf8 (compact ms)) = none := by
  rw [← List.append_nil (compact ms), typeIndex?_append (quiet_compact h)]
  rfl

/-- There is a first member that is named `type`, or there is none. -/
theorem exists_first (ms : List Member) : (∀ m ∈ ms, ¬ m.IsType) ∨
    ∃ ds m after, ms = ds ++ m :: after ∧ m.IsType ∧ ∀ d ∈ ds, ¬ d.IsType := by
  cases hfind : ms.find? fun m => decide m.IsType with
  | none => exact Or.inl fun m hm => by simpa using List.find?_eq_none.mp hfind m hm
  | some m =>
    obtain ⟨hm, ds, after, hms, hds⟩ := List.find?_eq_some_iff_append.mp hfind
    exact Or.inr ⟨ds, m, after, hms, of_decide_eq_true hm, fun d hd => by simpa using hds d hd⟩

/-- Where the type of client data that are a compact object is found. -/
structure Located (ms : List Member) : Prop where
  /-- The index points to the quote with which the first member named `type` begins. -/
  first : ∀ ds m after, ms = ds ++ m :: after → m.IsType → (∀ d ∈ ds, ¬ d.IsType) →
    typeIndex? (Text.utf8 (compact ms)) = some (Text.utf8 (before ds)).length ∧
      compact ms = before ds ++ (m.chars ++ behind after)
  absent : (∀ m ∈ ms, ¬ m.IsType) → typeIndex? (Text.utf8 (compact ms)) = none
  /-- The names are those that a reader of JSON finds. -/
  reads : (∀ m ∈ ms, ∀ c ∈ m.name, 0x20 ≤ c.toNat) → ∃ ts : List (Option String × Tree),
    Tree.read (compact ms) = ⟨.object ts true, true⟩ ∧
      ts.map Prod.fst = ms.map (fun m => some (String.ofList m.name)) ∧ (Tree.object ts true).sound = true
  /-- A validator is sent this index, and nothing if there is no such member. -/
  sent : ∀ (a : Assertion) usePrecompiled e, a.Held → a.clientData = Text.utf8 (compact ms) →
    a.toValidator usePrecompiled = .ok e → ∃ ds m after args, ms = ds ++ m :: after ∧ m.IsType ∧
      (∀ d ∈ ds, ¬ d.IsType) ∧ ValidatorArguments.ofText? e.text = some args ∧
        args.typeIndex = (Text.utf8 (before ds)).length
  unsent : ∀ (a : Assertion) usePrecompiled, a.clientData = Text.utf8 (compact ms) → (∀ m ∈ ms, ¬ m.IsType) →
    37 ≤ a.authenticatorData.length → a.toValidator usePrecompiled = .error (.invalidAssertion .noTypeKey)

/-- The type of client data is found by its member, and not by what stands in a string. -/
theorem typeIndex?_compact (ms : List Member) : Located ms where
  first := by
    rintro ds m after rfl hm hds
    exact ⟨typeIndex?_of_first hm hds after, compact_append ds m after⟩
  absent := typeIndex?_of_absent
  reads := read_compact
  sent := by
    intro a usePrecompiled e held hdata he
    obtain ⟨i, g, hi, -, hread⟩ := held.read he
    rw [hdata] at hi
    obtain habsent | ⟨ds, m, after, rfl, hm, hds⟩ := exists_first ms
    · cases (typeIndex?_of_absent habsent).symm.trans hi
    · exact ⟨ds, m, after, _, rfl, hm, hds, hread, Option.some.inj (hi.symm.trans (typeIndex?_of_first hm hds after))⟩
  unsent := by
    intro a usePrecompiled hdata habsent hlength
    obtain ⟨d, hd⟩ := AuthenticatorData.ofBytes_isOk_iff.mpr hlength
    rw [Assertion.toValidator, hd, hdata, typeIndex?_of_absent habsent]
    rfl

example : typeIndex? (Text.utf8 "\x7b\"origin\":\"\\\"type\\\":\",\"type\":\"webauthn.get\"\x7d".toList) = some 22 := by
  decide +kernel

end PasskeySession.ClientData
