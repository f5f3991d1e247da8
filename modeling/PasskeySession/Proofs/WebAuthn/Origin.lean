import PasskeySession.Proofs.Json.Roundtrip
import PasskeySession.Proofs.Text.Base64Url
import PasskeySession.WebAuthn.ClientData

/-! # Client data as an object

Client data are put together from their parts, and the origin stands in them as it is given. Main statement: they
are the text of an object with the type, the challenge and the origin if no character of the origin has to be
escaped in a string, and otherwise of no such object, for a string never reads as the text that it is written by
when there is an escape in it. -/

namespace PasskeySession

namespace Json

/-- A character that stands for itself in a string. -/
def Unescaped (c : Char) : Prop := c ≠ '"' ∧ c ≠ '\\' ∧ 0x20 ≤ c.toNat

instance (c : Char) : Decidable (Unescaped c) := inferInstanceAs (Decidable (_ ∧ _))

theorem escapeChar_of_unescaped {c : Char} (h : Unescaped c) : escapeChar c = [c] := by
  obtain ⟨hquote, hback, hcontrol⟩ := h
  have hlow : ¬ c.toNat < 0x20 := by omega
  unfold escapeChar
  split
  case h_8 => rw [if_neg hlow]
  all_goals first
    | exact absurd rfl hquote
    | exact absurd rfl hback
    | exact absurd (by decide) hlow

theorem quote_of_unescaped {s : String} (h : ∀ c ∈ s.toList, Unescaped c) : quote s = '"' :: (s.toList ++ ['"']) := by
  have hself : s.toList.flatMap escapeChar = s.toList := by
    generalize s.toList = cs at h
    induction cs with
    | nil => rfl
    | cons c cs ih =>
      obtain ⟨hc, hcs⟩ := List.forall_mem_cons.mp h
      rw [List.flatMap_cons, escapeChar_of_unescaped hc, ih hcs, List.singleton_append]
  rw [quote, hself, List.cons_append]

namespace Tree
variable {cs ds rest : List Char} {us : List Nat}

/-- What is read of a string is no longer than how it is written, and as long only if nothing in it is escaped. -/
theorem exists_content (h : units? cs = some (us, rest)) : ∃ content, cs = content ++ '"' :: rest ∧
    us.length ≤ content.length ∧ (us.length = content.length → ∀ c ∈ content, Unescaped c) := by
  fun_induction units? cs generalizing us with
  | case1 => cases h
  | case2 cs =>
    cases h
    exact ⟨[], rfl, Nat.le_refl 0, fun _ => List.forall_mem_nil _⟩
  | case3 a b c d cs n vs more hcs hhex ih =>
    cases h
    obtain ⟨content, rfl, hle, -⟩ := ih hcs
    refine ⟨'\\' :: 'u' :: a :: b :: c :: d :: content, rfl, ?_, fun heq => ?_⟩
    · simp only [List.length_cons]
      omega
    · simp only [List.length_cons] at heq
      omega
  | case5 c cs hno e vs more hcs hshort ih =>
    cases h
    obtain ⟨content, rfl, hle, -⟩ := ih hcs
    refine ⟨'\\' :: c :: content, rfl, ?_, fun heq => ?_⟩
    · simp only [List.length_cons]
      omega
    · simp only [List.length_cons] at heq
      omega
  | case8 c cs hquote hno hno' hplain vs more hcs ih =>
    cases h
    obtain ⟨content, rfl, hle, hall⟩ := ih hcs
    rw [not_or] at hplain
    refine ⟨c :: content, rfl, ?_, fun heq => ?_⟩
    · simp only [List.length_cons]
      omega
    · simp only [List.length_cons] at heq
      exact List.forall_mem_cons.mpr ⟨⟨hquote, hplain.2, by omega⟩, hall (by omega)⟩
  | case4 | case6 | case7 | case9 => cases h

theorem length_join?_le (h : join? us = some cs) : cs.length ≤ us.length := by
  fun_induction join? us generalizing cs with
  | case1 | case3 =>
    cases h
    simp
  | case4 n m us _ _ ih =>
    obtain ⟨ds, hds, rfl⟩ := Option.map_eq_some_iff.mp h
    have := ih hds
    simp only [List.length_cons]
    omega
  | case7 n m us _ _ ih =>
    obtain ⟨ds, hds, rfl⟩ := Option.map_eq_some_iff.mp h
    have := ih hds
    simp only [List.length_cons] at this ⊢
    omega
  | case2 | case5 | case6 => cases h

/-- A member that is a string and is not the last of a closed object: a comma stands behind the string. -/
theorem exists_comma {fuel : Nat} {name : Option String} {body : List Char} {t u : Option String × Tree}
    {ms : List (Option String × Tree)} (hname : string? cs = some (name, ':' :: '"' :: body))
    (h : members (fuel + 2) ('"' :: cs) = (t :: u :: ms, true, rest)) :
    ∃ s after, string? body = some (s, after) ∧ t = (name, .string s) ∧ ',' ∈ (skip after).head? := by
  rw [members, skip_of_not_space (by decide)] at h
  simp only [hname, skip_of_not_space (c := ':') (by decide)] at h
  cases hbody : string? body with
  | none =>
    have hvalue : value (fuel + 1) ('"' :: body) = (.broken, []) := by
      rw [value, skip_of_not_space (by decide)]
      simp only [hbody]
      rfl
    simp [hvalue, skip] at h
  | some found =>
    obtain ⟨s, after⟩ := found
    have hvalue : value (fuel + 1) ('"' :: body) = (.string s, after) := by
      rw [value, skip_of_not_space (by decide)]
      simp only [hbody]
      rfl
    refine ⟨s, after, rfl, ?_⟩
    simp only [hvalue] at h
    split at h
    · cases h
    · rename_i hskip
      rw [hskip]
      exact ⟨(List.cons.inj (Prod.mk.inj h).1).1.symm, rfl⟩
    · cases h

end Tree
end Json

namespace ClientData
open Json (Unescaped Tree)
variable {ceremony : Ceremony} {challenge : Bytes} {origin : String}

/-! ### The text -/

/-- What stands behind the origin, from the quote that ends it. -/
def closing : List Char := "\",\"crossOrigin\":false\x7d".toList

theorem unescaped_encode (challenge : Bytes) : ∀ c ∈ Text.Base64Url.encode challenge, Unescaped c := by
  have table : ∀ n < 64, Unescaped (Text.Base64Url.digit n) := by decide
  intro c hc
  obtain ⟨n, hn, rfl⟩ := Text.Base64Url.exists_digit challenge c hc
  exact table n hn

/-- Type and challenge are members as JSON writes them; the origin stands between quotes as it is. -/
theorem chars_eq (ceremony : Ceremony) (challenge : Bytes) (origin : String) : chars ceremony challenge origin =
    '\x7b' :: (Json.quote "type" ++ ':' :: (Json.quote ceremony.text ++ ',' ::
      (Json.quote "challenge" ++ ':' :: (Json.quote (Text.Base64Url.encodeText challenge) ++ ',' ::
        (Json.quote "origin" ++ ':' :: '"' :: (origin.toList ++ closing)))))) := by
  have htype : "\x7b\"type\":\"".toList = '\x7b' :: (Json.quote "type" ++ [':', '"']) := by decide +kernel
  have hchallenge : "\",\"challenge\":\"".toList = '"' :: ',' :: (Json.quote "challenge" ++ [':', '"']) := by
    decide +kernel
  have horigin : "\",\"origin\":\"".toList = '"' :: ',' :: (Json.quote "origin" ++ [':', '"']) := by decide +kernel
  have hceremony : Json.quote ceremony.text = '"' :: (ceremony.text.toList ++ ['"']) := by
    cases ceremony with
    | create | get => decide +kernel
  have hencode : Json.quote (Text.Base64Url.encodeText challenge) =
      '"' :: (Text.Base64Url.encode challenge ++ ['"']) := by
    rw [Json.quote_of_unescaped, Text.Base64Url.encodeText, String.toList_ofList]
    rw [Text.Base64Url.encodeText, String.toList_ofList]
    exact unescaped_encode challenge
  unfold chars closing
  rw [htype, hchallenge, horigin, hceremony, hencode]
  -- The texts are kept closed: only their places move.
  generalize Json.quote "type" = type
  generalize Json.quote "challenge" = name
  generalize Json.quote "origin" = name'
  generalize "\",\"crossOrigin\":false\x7d".toList = last
  simp only [List.append_assoc, List.cons_append, List.nil_append]

def members (ceremony : Ceremony) (encoded origin : String) : List (String × Json) :=
  [("type", .string ceremony.text), ("challenge", .string encoded), ("origin", .string origin),
    ("crossOrigin", .bool false)]

/-- Client data as an object. -/
def object (ceremony : Ceremony) (encoded origin : String) : Json := .object (members ceremony encoded origin)

theorem chars_of_unescaped (h : ∀ c ∈ origin.toList, Unescaped c) : chars ceremony challenge origin =
    (object ceremony (Text.Base64Url.encodeText challenge) origin).chars := by
  have hclosing : closing =
      '"' :: ',' :: (Json.quote "crossOrigin" ++ ':' :: (Json.chars (.bool false) ++ ['\x7d'])) := by
    decide +kernel
  have horigin : Json.quote origin = '"' :: (origin.toList ++ ['"']) := Json.quote_of_unescaped h
  have hobject : (object ceremony (Text.Base64Url.encodeText challenge) origin).chars =
      '\x7b' :: (Json.quote "type" ++ ':' :: Json.quote ceremony.text ++ ',' ::
        (Json.quote "challenge" ++ ':' :: Json.quote (Text.Base64Url.encodeText challenge) ++ ',' ::
          (Json.quote "origin" ++ ':' :: Json.quote origin ++ ',' ::
            (Json.quote "crossOrigin" ++ ':' :: Json.chars (.bool false))))) ++ ['\x7d'] := rfl
  rw [chars_eq, hclosing, hobject, horigin]
  generalize Json.quote "type" = type
  generalize Json.quote "challenge" = name
  generalize Json.quote "origin" = name'
  generalize Json.quote "crossOrigin" = last
  simp only [List.append_assoc, List.cons_append, List.nil_append]

/-! ### Reading -/

/-- Type and challenge are read whatever the origin is. -/
theorem read_chars (ceremony : Ceremony) (challenge : Bytes) (origin : String) : ∃ fuel,
    ∀ ms closed rest, Tree.members (fuel + 2) (Json.quote "origin" ++ ':' :: '"' :: (origin.toList ++ closing)) =
        (ms, closed, rest) → Tree.read (chars ceremony challenge origin) =
      ⟨.object ((some "type", .string (some ceremony.text)) ::
        (some "challenge", .string (some (Text.Base64Url.encodeText challenge))) :: ms) closed,
        (Tree.skip rest).isEmpty⟩ := by
  obtain ⟨fuel, hfuel⟩ : ∃ fuel, 2 * (chars ceremony challenge origin).length + 2 = fuel + 5 := by
    have hlength := congrArg List.length (chars_eq ceremony challenge origin)
    simp only [List.length_append, List.length_cons] at hlength
    exact ⟨2 * (chars ceremony challenge origin).length - 3, by omega⟩
  refine ⟨fuel, fun ms closed rest hthird => ?_⟩
  rw [Tree.read, hfuel, chars_eq]
  generalize Json.quote "origin" ++ ':' :: '"' :: (origin.toList ++ closing) = tail at hthird
  have hsecond : Tree.members (fuel + 3)
      (Json.quote "challenge" ++ ':' :: (Json.quote (Text.Base64Url.encodeText challenge) ++ ',' :: tail)) =
      ((some "challenge", .string (some (Text.Base64Url.encodeText challenge))) :: ms, closed, rest) := by
    rw [Tree.quote_append "challenge"]
    exact Tree.members_next (Tree.string?_quote "challenge" _) (Tree.value_string _) hthird
  generalize Json.quote "challenge" ++ ':' :: (Json.quote (Text.Base64Url.encodeText challenge) ++ ',' :: tail) = tail'
    at hsecond
  have hfirst : Tree.members (fuel + 4) (Json.quote "type" ++ ':' :: (Json.quote ceremony.text ++ ',' :: tail')) =
      ((some "type", .string (some ceremony.text)) ::
        (some "challenge", .string (some (Text.Base64Url.encodeText challenge))) :: ms, closed, rest) := by
    rw [Tree.quote_append "type"]
    exact Tree.members_next (Tree.string?_quote "type" _) (Tree.value_string _) hsecond
  rw [Tree.quote_append "type"] at hfirst ⊢
  rw [Tree.value_object hfirst]

/-- In the text behind an origin no quote ends a string that a comma follows, but the first. -/
theorem closing_quotes : ∀ k < closing.length, k ≠ 0 → closing[k]? = some '"' →
    ',' ∉ (Tree.skip (closing.drop (k + 1))).head? := by
  decide +kernel

/-- An origin that is read back from the string that begins with it, where a comma follows the string. -/
theorem unescaped_of_string? {after : List Char}
    (h : Tree.string? (origin.toList ++ closing) = some (some origin, after))
    (hcomma : ',' ∈ (Tree.skip after).head?) : ∀ c ∈ origin.toList, Unescaped c := by
  obtain ⟨⟨us, after⟩, hus, hfound⟩ := Option.map_eq_some_iff.mp h
  simp only [Prod.mk.injEq] at hfound
  obtain ⟨hjoin, rfl⟩ := hfound
  obtain ⟨cs, hcs, hread⟩ := Option.map_eq_some_iff.mp hjoin
  obtain ⟨content, hcontent, hle, hall⟩ := Tree.exists_content hus
  have hshort := Tree.length_join?_le hcs
  have hlength : cs.length = origin.toList.length := by rw [← hread, String.toList_ofList]
  -- The string ends with the first quote behind the origin or before it, and it is as long as the origin.
  have hends : content.length ≤ origin.toList.length := by
    obtain ⟨between, rfl, hclosing⟩ | ⟨between, horigin, -⟩ := List.append_eq_append_iff.mp hcontent
    · have hquote : closing[between.length]? = some '"' := by simp [hclosing]
      have hrest : closing.drop (between.length + 1) = after := by simp [hclosing]
      have hlt : between.length < closing.length := by simp [hclosing]
      by_contra hlong
      rw [List.length_append] at hlong
      exact closing_quotes between.length hlt (by omega) hquote (hrest ▸ hcomma)
    · rw [horigin, List.length_append]
      omega
  have heq : origin.toList = content := List.append_inj_left hcontent (by omega)
  rw [heq]
  exact hall (by omega)

theorem unescaped_of_read {ts : List (Option String × Tree)} {ended : Bool} {encoded : String}
    (h : Tree.read (chars ceremony challenge origin) = ⟨.object ts true, ended⟩)
    (hts : ts.Perm (Tree.ofMembers (members ceremony encoded origin))) : ∀ c ∈ origin.toList, Unescaped c := by
  obtain ⟨fuel, hread⟩ := read_chars ceremony challenge origin
  obtain ⟨ms, closed, rest, hms⟩ : ∃ ms closed rest, Tree.members (fuel + 2)
      (Json.quote "origin" ++ ':' :: '"' :: (origin.toList ++ closing)) = (ms, closed, rest) := ⟨_, _, _, rfl⟩
  rw [hread ms closed rest hms, Tree.Document.mk.injEq, Tree.object.injEq] at h
  obtain ⟨⟨rfl, rfl⟩, -⟩ := h
  simp only [members, Tree.ofMembers, Tree.ofJson] at hts
  have hencoded : Text.Base64Url.encodeText challenge = encoded := by
    simpa using hts.subset (List.mem_cons_of_mem _ List.mem_cons_self)
  rw [hencoded] at hts
  have hlast := hts.cons_inv.cons_inv
  obtain ⟨t, u, rfl⟩ := List.length_eq_two.mp hlast.length_eq
  rw [Tree.quote_append "origin"] at hms
  obtain ⟨s, after, hs, rfl, hcomma⟩ := Tree.exists_comma (Tree.string?_quote "origin" _) hms
  have horigin : s = some origin := by simpa using hlast.subset List.mem_cons_self
  rw [horigin] at hs
  exact unescaped_of_string? hs hcomma

theorem read_of_unescaped (h : ∀ c ∈ origin.toList, Unescaped c) : Tree.read (chars ceremony challenge origin) =
    ⟨Tree.ofJson (object ceremony (Text.Base64Url.encodeText challenge) origin), true⟩ := by
  rw [chars_of_unescaped h]
  exact Tree.read_chars ⟨trivial, trivial, trivial, trivial, trivial⟩

/-- Bytes are the text of an object that has the four members of client data and no others, with the given type and
    origin, and with a challenge that reads as the given one. -/
def Tells (bs : Bytes) (ceremony : Ceremony) (challenge : Bytes) (origin : String) : Prop :=
  ∃ cs encoded ts, Text.Utf8.decode? bs = some cs ∧ Tree.read cs = ⟨.object ts true, true⟩ ∧
    ts.Perm (Tree.ofMembers (members ceremony encoded origin)) ∧ Text.Base64Url.decode? encoded = some challenge

theorem tells_of_unescaped (h : ∀ c ∈ origin.toList, Unescaped c) :
    Tells (bytes ceremony challenge origin) ceremony challenge origin :=
  ⟨_, _, _, Text.Utf8.decode?_utf8 _, read_of_unescaped h, List.Perm.refl _,
    Text.Base64Url.decode?_encodeText challenge⟩

theorem Tells.unescaped (h : Tells (bytes ceremony challenge origin) ceremony challenge origin) :
    ∀ c ∈ origin.toList, Unescaped c := by
  obtain ⟨cs, encoded, ts, hcs, hread, hts, -⟩ := h
  cases (Text.Utf8.decode?_utf8 _).symm.trans hcs
  exact unescaped_of_read hread hts

/-- Bytes are a text that begins an object with the given type and challenge, whatever becomes of it. -/
def Begins (bs : Bytes) (ceremony : Ceremony) (challenge : Bytes) : Prop :=
  ∃ cs encoded ms closed ended, Text.Utf8.decode? bs = some cs ∧
    Tree.read cs = ⟨.object ((some "type", .string (some ceremony.text)) ::
      (some "challenge", .string (some encoded)) :: ms) closed, ended⟩ ∧
    Text.Base64Url.decode? encoded = some challenge

theorem begins_bytes (ceremony : Ceremony) (challenge : Bytes) (origin : String) :
    Begins (bytes ceremony challenge origin) ceremony challenge := by
  obtain ⟨fuel, hread⟩ := read_chars ceremony challenge origin
  exact ⟨_, _, _, _, _, Text.Utf8.decode?_utf8 _, hread _ _ _ rfl, Text.Base64Url.decode?_encodeText challenge⟩

/-- Client data tell type and challenge for every origin, and all of their parts exactly for those in which no
    character has to be escaped; then they are the compact text of the object. -/
theorem tells_iff (ceremony : Ceremony) (challenge : Bytes) (origin : String) :
    Begins (bytes ceremony challenge origin) ceremony challenge ∧
    (Tells (bytes ceremony challenge origin) ceremony challenge origin ↔ ∀ c ∈ origin.toList, Unescaped c) ∧
    ((∀ c ∈ origin.toList, Unescaped c) → chars ceremony challenge origin =
      (object ceremony (Text.Base64Url.encodeText challenge) origin).chars) :=
  ⟨begins_bytes ceremony challenge origin, ⟨Tells.unescaped, tells_of_unescaped⟩, chars_of_unescaped⟩

/-- An origin that is a quote ends its own string. -/
theorem not_tells_quote : ¬ Tells (bytes .get [] "\"") .get [] "\"" := by
  intro h
  exact absurd (h.unescaped '"' (List.mem_singleton.mpr rfl)) (by decide)

end ClientData
end PasskeySession
