import PasskeySession.Proofs.Text.Utf8
import PasskeySession.Scenario.Basic

/-! # What an answer means

Every request takes what comes back by the same rule: no answer at all is a failure of the network, a status outside
200 to 299 is a rejection with that status, and an accepted answer is what the whole of its body decodes to. A
request that asks for nothing does not look at the body, and a signed session may be answered by a blank body, which
decodes to nothing for any request. Whatever goes wrong is the doing of the backend. -/

namespace PasskeySession
namespace Json.Decoder
variable {α : Type}

/-- A text decodes if it is one value, with nothing but white space after it, and that value decodes. -/
theorem run_eq_ok_iff {d : Decoder α} {cs : List Char} {a : α} :
    d.run cs = .ok a ↔ ∃ t, Tree.read cs = ⟨t, true⟩ ∧ d deepest t = .ok a := by
  unfold run
  generalize Tree.read cs = doc
  obtain ⟨root, ended⟩ := doc
  dsimp only
  constructor
  · intro h
    split at h
    · cases h
    · rename_i b hb
      split at h
      · rename_i hended
        cases h
        exact ⟨root, congrArg _ hended, hb⟩
      · cases h
  · rintro ⟨t, heq, ha⟩
    cases heq
    simp [ha]

end Json.Decoder

namespace Request
variable {r : Request} {kind : AnswerKind} {path : String} {body : Option Bytes} {bs : Bytes} {v : kind.Value}

/-- The whole of a body decodes to a value: it is one tree with nothing but white space after it. -/
def Decodes (kind : AnswerKind) (bs : Bytes) (v : kind.Value) : Prop :=
  ∃ t, Json.Tree.read (bodyChars bs) = ⟨t, true⟩ ∧ kind.decoder Json.deepest t = .ok v

/-- The value that the body of an accepted answer gives; none for a body that breaks off. -/
def Gives : (kind : AnswerKind) → (body : Option Bytes) → kind.Value → Prop
  | .nothing, _, _ => True
  | _, none, _ => False
  | .creation, some bs, v => if bs.all isAsciiBlank then v = ⟨none⟩ else Decodes .creation bs v
  | kind, some bs, v => Decodes kind bs v

/-- The text of a body, as far as it has one; a body that breaks off counts as empty. -/
def bodyText (body : Option Bytes) : String := String.ofList (Text.Utf8.decodeLossy (body.getD []))

/-- What a request makes of what comes back, said by each way in which it can end. -/
structure Answers (r : Request) (e : Reception) (a : r.Answer) : Prop where
  network : (∃ reason, a = .error (.network reason)) ↔
    (∃ reason, e = .failed reason) ∨
      r.kind ≠ .nothing ∧ ∃ status cookies, 200 ≤ status ∧ status ≤ 299 ∧ e = .response status cookies none
  rejected : ∀ status message, a = .error (.rejected status message) ↔
    (status < 200 ∨ 299 < status) ∧ ∃ cookies body, e = .response status cookies body ∧ message = bodyText body
  ok : ∀ v, a = .ok v ↔
    ∃ status cookies body, 200 ≤ status ∧ status ≤ 299 ∧ e = .response status cookies body ∧ Gives r.kind body v
  invalid : ∀ f, a = .error (.invalidAnswer f) ↔ f = .badBody r.path ∧
    ∃ status cookies bs, 200 ≤ status ∧ status ≤ 299 ∧ e = .response status cookies (some bs) ∧
      ∀ v, ¬ Gives r.kind (some bs) v
  backend : ∀ err, a = .error err → err.isBackend = true

/-! ### Blank bodies -/

theorem scan_of_lt : ∀ {bs : Bytes}, (∀ b ∈ bs, b.toNat < 128) →
    Text.Utf8.scan bs = (bs.map fun b => Char.ofNat b.toNat).map some
  | [], _ => by rw [Text.Utf8.scan]; rfl
  | b :: bs, h => by
    obtain ⟨hb, hbs⟩ := List.forall_mem_cons.mp h
    rw [Text.Utf8.scan, Text.Utf8.next, if_pos hb, scan_of_lt hbs]
    rfl

theorem pieceChars_some (escaping : Bool) (cs : List Char) : pieceChars escaping (cs.map some) = cs := by
  induction cs generalizing escaping with
  | nil => cases escaping <;> rfl
  | cons c cs ih =>
    have hrest := ih (c == '\\' && !escaping)
    cases escaping <;> exact congrArg (c :: ·) hrest

/-- A body in UTF-8 is read as its text. -/
theorem bodyChars_utf8 (cs : List Char) : bodyChars (Text.utf8 cs) = cs := by
  rw [bodyChars, Text.Utf8.scan_utf8, pieceChars_some]

theorem decodes_utf8 {cs : List Char} : Decodes kind (Text.utf8 cs) v ↔ kind.decoder.run cs = .ok v := by
  rw [Decodes, bodyChars_utf8, Json.Decoder.run_eq_ok_iff]

/-- White space without a text in it is read as a value that is malformed. -/
theorem value_of_blank (fuel : Nat) {cs : List Char} (h : ∀ c ∈ cs, Json.Tree.isSpace c = true ∨ c = '\x0c') :
    Json.Tree.value (fuel + 1) cs = (.broken, []) := by
  have hrest : Json.Tree.skip cs = [] ∨ ∃ tail, Json.Tree.skip cs = '\x0c' :: tail := by
    induction cs with
    | nil => exact Or.inl rfl
    | cons c cs ih =>
      obtain ⟨hc, hcs⟩ := List.forall_mem_cons.mp h
      rcases hc with hc | rfl
      · simpa [Json.Tree.skip, hc] using ih hcs
      · exact Or.inr ⟨cs, rfl⟩
  rw [Json.Tree.value]
  rcases hrest with hrest | ⟨tail, hrest⟩
  · rw [hrest]
    rfl
  · rw [hrest]
    rfl

theorem chars_of_blank (h : ∀ b ∈ bs, isAsciiBlank b = true) :
    ∀ c ∈ bodyChars bs, Json.Tree.isSpace c = true ∨ c = '\x0c' := by
  have hcases : ∀ b, isAsciiBlank b = true →
      b.toNat < 128 ∧ (Json.Tree.isSpace (Char.ofNat b.toNat) = true ∨ Char.ofNat b.toNat = '\x0c') := by
    intro b hb
    simp only [isAsciiBlank, Bool.or_eq_true, beq_iff_eq] at hb
    rcases hb with (((rfl | rfl) | rfl) | rfl) | rfl <;> decide
  rw [bodyChars, scan_of_lt fun b hb => (hcases b (h b hb)).1, pieceChars_some]
  intro c hc
  obtain ⟨b, hb, rfl⟩ := List.mem_map.mp hc
  exact (hcases b (h b hb)).2

/-- No blank body decodes, whatever the request asks for. -/
theorem not_decodes_of_blank (hkind : kind ≠ .nothing) (h : ∀ b ∈ bs, isAsciiBlank b = true) (v : kind.Value) :
    ¬ Decodes kind bs v := by
  rintro ⟨t, hread, hv⟩
  obtain rfl : Json.Tree.broken = t := by
    have hvalue := value_of_blank (2 * (bodyChars bs).length + 1) (chars_of_blank h)
    rw [Json.Tree.read, hvalue] at hread
    cases hread
    rfl
  cases kind <;> first | exact hkind rfl | cases hv

/-! ### Accepted answers -/

theorem decodeBody_eq_ok_iff : decodeBody path kind bs = .ok v ↔ Decodes kind bs v := by
  rw [Decodes, ← Json.Decoder.run_eq_ok_iff, decodeBody]
  cases kind.decoder.run (bodyChars bs) with
  | ok u => constructor <;> rintro ⟨⟩ <;> rfl
  | error f => constructor <;> rintro ⟨⟩

theorem decodeBody_cases (path : String) (kind : AnswerKind) (bs : Bytes) :
    (∃ v, decodeBody path kind bs = .ok v) ∨ decodeBody path kind bs = .error (.invalidAnswer (.badBody path)) := by
  rw [decodeBody]
  cases kind.decoder.run (bodyChars bs) with
  | ok v => exact Or.inl ⟨v, rfl⟩
  | error f => exact Or.inr rfl

theorem accepted_none (hkind : kind ≠ .nothing) :
    accepted path kind none = .error (.network "the body breaks off") := by
  cases kind <;> first | exact absurd rfl hkind | rfl

theorem accepted_some (hkind : kind ≠ .nothing) (hcreation : kind ≠ .creation) :
    accepted path kind (some bs) = decodeBody path kind bs := by
  cases kind <;> first | exact absurd rfl hkind | exact absurd rfl hcreation | rfl

theorem accepted_creation : accepted path .creation (some bs) =
    if bs.all isAsciiBlank then .ok ⟨none⟩ else decodeBody path .creation bs := rfl

theorem not_gives_none (hkind : kind ≠ .nothing) : ¬ Gives kind none v := by
  cases kind <;> first | exact absurd rfl hkind | exact id

theorem gives_some (hkind : kind ≠ .nothing) (hcreation : kind ≠ .creation) :
    Gives kind (some bs) v ↔ Decodes kind bs v := by
  cases kind <;> first | exact absurd rfl hkind | exact absurd rfl hcreation | exact Iff.rfl

/-- An accepted answer gives a value exactly if its body does. -/
theorem accepted_eq_ok_iff : accepted path kind body = .ok v ↔ Gives kind body v := by
  by_cases hkind : kind = .nothing
  · subst hkind
    exact iff_of_true rfl trivial
  · cases body with
    | none =>
      rw [accepted_none hkind]
      exact iff_of_false (by simp) (not_gives_none hkind)
    | some bs =>
      by_cases hcreation : kind = .creation
      · subst hcreation
        rw [accepted_creation, Gives]
        split
        · simp [eq_comm]
        · exact decodeBody_eq_ok_iff
      · rw [accepted_some hkind hcreation, gives_some hkind hcreation, decodeBody_eq_ok_iff]

/-- What can come of an accepted answer: a value, a body that breaks off, or one that is no answer. -/
theorem accepted_cases (path : String) (kind : AnswerKind) (body : Option Bytes) :
    (∃ v, accepted path kind body = .ok v ∧ (kind ≠ .nothing → body ≠ none)) ∨
      (kind ≠ .nothing ∧ body = none ∧ ∃ reason, accepted path kind body = .error (.network reason)) ∨
      (∃ bs, body = some bs ∧ accepted path kind body = .error (.invalidAnswer (.badBody path))) := by
  by_cases hkind : kind = .nothing
  · subst hkind
    exact Or.inl ⟨(), rfl, fun h => absurd rfl h⟩
  · cases body with
    | none => exact Or.inr (Or.inl ⟨hkind, rfl, _, accepted_none hkind⟩)
    | some bs =>
      have hdecoded := decodeBody_cases path kind bs
      by_cases hcreation : kind = .creation
      · subst hcreation
        rw [accepted_creation]
        split
        · exact Or.inl ⟨_, rfl, by simp⟩
        · rcases hdecoded with ⟨v, hv⟩ | hinvalid
          · exact Or.inl ⟨v, hv, by simp⟩
          · exact Or.inr (Or.inr ⟨bs, rfl, hinvalid⟩)
      · rw [accepted_some hkind hcreation]
        rcases hdecoded with ⟨v, hv⟩ | hinvalid
        · exact Or.inl ⟨v, hv, by simp⟩
        · exact Or.inr (Or.inr ⟨bs, rfl, hinvalid⟩)

theorem accepted_network_iff : (∃ reason, accepted path kind body = .error (.network reason)) ↔
    kind ≠ .nothing ∧ body = none := by
  constructor
  · rintro ⟨reason, hreason⟩
    rcases accepted_cases path kind body with ⟨v, hv, -⟩ | ⟨hkind, hbody, -⟩ | ⟨bs, -, hf⟩
    · rw [hv] at hreason
      cases hreason
    · exact ⟨hkind, hbody⟩
    · rw [hf] at hreason
      cases hreason
  · rintro ⟨hkind, rfl⟩
    exact ⟨_, accepted_none hkind⟩

theorem accepted_invalid_iff {f : AnswerFault} : accepted path kind body = .error (.invalidAnswer f) ↔
    f = .badBody path ∧ ∃ bs, body = some bs ∧ ∀ v, ¬ Gives kind (some bs) v := by
  rcases accepted_cases path kind body with ⟨v, hv, -⟩ | ⟨-, rfl, reason, hreason⟩ | ⟨bs, rfl, hf⟩
  · refine iff_of_false (by simp [hv]) ?_
    rintro ⟨-, bs, rfl, hnone⟩
    exact hnone v (accepted_eq_ok_iff.mp hv)
  · exact iff_of_false (by simp [hreason]) (by simp)
  · rw [hf]
    constructor
    · rintro ⟨⟩
      refine ⟨rfl, bs, rfl, fun v hv => ?_⟩
      rw [accepted_eq_ok_iff.mpr hv] at hf
      cases hf
    · rintro ⟨rfl, -⟩
      rfl

/-! ### All answers -/

theorem answers_failed (r : Request) (reason : String) : r.Answers (.failed reason) (r.answerOf (.failed reason)) where
  network := by simp [answerOf]
  rejected := by simp [answerOf]
  ok := by simp [answerOf]
  invalid := by simp [answerOf]
  backend := by simp [answerOf, ClientError.isBackend]

theorem answers_rejected (r : Request) {status : Nat} (cookies : List String) (body : Option Bytes)
    (hstatus : status < 200 ∨ 299 < status) :
    r.Answers (.response status cookies body) (r.answerOf (.response status cookies body)) := by
  have hrange : ∀ {s c b}, Reception.response status cookies body = .response s c b → ¬ (200 ≤ s ∧ s ≤ 299) := by
    rintro _ _ _ ⟨⟩
    omega
  have hfails : isSuccess status = false := by
    simp only [isSuccess, Bool.and_eq_false_iff, decide_eq_false_iff_not]
    omega
  simp only [answerOf, hfails, Bool.false_eq_true, if_false]
  constructor
  · refine iff_of_false (by simp) ?_
    rintro (⟨reason, ⟨⟩⟩ | ⟨-, s, c, hlow, hhigh, heq⟩)
    exact hrange heq ⟨hlow, hhigh⟩
  · intro s message
    constructor
    · rintro ⟨⟩
      exact ⟨hstatus, cookies, body, rfl, rfl⟩
    · rintro ⟨-, c, b, ⟨⟩, rfl⟩
      rfl
  · intro v
    refine iff_of_false (by simp) ?_
    rintro ⟨s, c, b, hlow, hhigh, heq, -⟩
    exact hrange heq ⟨hlow, hhigh⟩
  · intro f
    refine iff_of_false (by simp) ?_
    rintro ⟨-, s, c, bs, hlow, hhigh, heq, -⟩
    exact hrange heq ⟨hlow, hhigh⟩
  · rintro _ ⟨⟩
    rfl

theorem answers_accepted (r : Request) {status : Nat} (cookies : List String) (body : Option Bytes)
    (hlow : 200 ≤ status) (hhigh : status ≤ 299) :
    r.Answers (.response status cookies body) (r.answerOf (.response status cookies body)) := by
  have hsuccess : isSuccess status = true := by simp [isSuccess, hlow, hhigh]
  simp only [answerOf, hsuccess, if_true]
  constructor
  · rw [accepted_network_iff]
    constructor
    · rintro ⟨hkind, rfl⟩
      exact Or.inr ⟨hkind, status, cookies, hlow, hhigh, rfl⟩
    · rintro (⟨reason, ⟨⟩⟩ | ⟨hkind, s, c, -, -, ⟨⟩⟩)
      exact ⟨hkind, rfl⟩
  · intro s message
    constructor
    · intro hmessage
      rcases accepted_cases r.path r.kind body with ⟨v, hv, -⟩ | ⟨-, -, reason, hreason⟩ | ⟨bs, -, hf⟩
      · simp [hv] at hmessage
      · simp [hreason] at hmessage
      · simp [hf] at hmessage
    · rintro ⟨hs, c, b, ⟨⟩, -⟩
      omega
  · intro v
    rw [accepted_eq_ok_iff]
    constructor
    · intro hgives
      exact ⟨status, cookies, body, hlow, hhigh, rfl, hgives⟩
    · rintro ⟨s, c, b, -, -, ⟨⟩, hgives⟩
      exact hgives
  · intro f
    rw [accepted_invalid_iff]
    constructor
    · rintro ⟨hf, bs, rfl, hnone⟩
      exact ⟨hf, status, cookies, bs, hlow, hhigh, rfl, hnone⟩
    · rintro ⟨hf, s, c, bs, -, -, ⟨⟩, hnone⟩
      exact ⟨hf, bs, rfl, hnone⟩
  · intro err herr
    rcases accepted_cases r.path r.kind body with ⟨v, hv, -⟩ | ⟨-, -, reason, hreason⟩ | ⟨bs, -, hf⟩
    · simp [hv] at herr
    · rw [hreason] at herr
      cases herr
      rfl
    · rw [hf] at herr
      cases herr
      rfl

/-- What comes back of a request is taken by the one rule. -/
theorem answers_answerOf (r : Request) (e : Reception) : r.Answers e (r.answerOf e) := by
  cases e with
  | failed reason => exact answers_failed r reason
  | response status cookies body =>
    by_cases hstatus : 200 ≤ status ∧ status ≤ 299
    · exact answers_accepted r cookies body hstatus.1 hstatus.2
    · exact answers_rejected r cookies body (by omega)

end Request

/-! ### Whole runs -/

namespace Scenario
variable {α : Type}

/-- A scenario, from a client and the requests that it has sent, comes to a result and to all requests: one that has an
    address is sent to the server, with the cookies that came back before, and is answered by the rule for what the
    server gives; one that has none is a failure of the network. -/
inductive Answered (serve : List HttpRequest → Reception) :
    HttpClient → List HttpRequest → Scenario α → α → List HttpRequest → Prop
  | done {c : HttpClient} {sent : List HttpRequest} (a : α) : Answered serve c sent (.done a) a sent
  | print {c : HttpClient} {sent all : List HttpRequest} {line : String} {next : Scenario α} {a : α}
    (h : Answered serve c sent next a all) : Answered serve c sent (.print line next) a all
  | missed {c : HttpClient} {sent all : List HttpRequest} {r : Request} {next : r.Answer → Scenario α} {a : α}
    {reason : String} (hurl : c.url? r = none) (h : Answered serve c sent (next (.error (.network reason))) a all) :
    Answered serve c sent (.ask r next) a all
  | asked {c : HttpClient} {sent all : List HttpRequest} {r : Request} {next : r.Answer → Scenario α} {a : α} {u : Url}
    {answer : r.Answer} (hurl : c.url? r = some u) (hanswer : r.Answers (serve (sent ++ [c.request r u])) answer)
    (h : Answered serve (c.keep u (serve (sent ++ [c.request r u]))) (sent ++ [c.request r u]) (next answer) a all) :
    Answered serve c sent (.ask r next) a all

/-- Every request of a run is answered by the rule for what the server gives. -/
theorem answered_run (serve : List HttpRequest → Reception) (c : HttpClient) (sent : List HttpRequest)
    (s : Scenario α) : Answered serve c sent s (run serve c sent s).result (run serve c sent s).requests := by
  induction s generalizing c sent with
  | done a => exact .done a
  | print line next ih => exact .print (ih c sent)
  | ask r next ih =>
    rw [run]
    cases hurl : c.url? r with
    | none => exact .missed hurl (ih ..)
    | some u => exact .asked hurl (Request.answers_answerOf r _) (ih ..)

end Scenario

/-- Every request takes what comes back by the one rule, in every run and whatever the server does. A body in UTF-8 is
what its text is, and the blank bodies that a signed session takes are no answers to any request that asks for a
value. -/
theorem Request.answers_by_rule :
    (∀ (r : Request) (e : Reception), r.Answers e (r.answerOf e)) ∧
    (∀ (kind : AnswerKind) (cs : List Char) (v : kind.Value),
      Decodes kind (Text.utf8 cs) v ↔ kind.decoder.run cs = .ok v) ∧
    (∀ (kind : AnswerKind) (bs : Bytes) (v : kind.Value), Decodes kind bs v →
      kind = .nothing ∨ ∃ b ∈ bs, isAsciiBlank b = false) ∧
    (∀ {α : Type} (serve : List HttpRequest → Reception) (c : HttpClient) (sent : List HttpRequest) (s : Scenario α),
      Scenario.Answered serve c sent s (s.run serve c sent).result (s.run serve c sent).requests) := by
  refine ⟨answers_answerOf, fun kind cs v => decodes_utf8, fun kind bs v hv => ?_,
    fun serve c sent s => Scenario.answered_run serve c sent s⟩
  by_cases hkind : kind = .nothing
  · exact Or.inl hkind
  · have hvisible : ¬ ∀ b ∈ bs, isAsciiBlank b = true := fun hblank => not_decodes_of_blank hkind hblank v hv
    simpa using Or.inr hvisible

/-- A body with white space around it, an escape, a letter of two bytes, and a member that nobody asks for. -/
theorem Request.answers_by_rule_profile :
    let text := " \x7b\"username\":\"Zo\\u00eb\",\"id\":\"é\",\"more\":[1e9]\x7d\n"
    let profile : UserProfile := ⟨"é", "Zoë", []⟩
    Request.currentUser.answerOf (.response 203 [] (some (Text.utf8 text.toList))) = .ok profile ∧
      ∃ b ∈ Text.utf8 text.toList, isAsciiBlank b = false := by
  intro text profile
  have hread : (AnswerKind.profile.decoder.run text.toList).toOption = some profile := by decide +kernel
  have hrun : AnswerKind.profile.decoder.run text.toList = .ok profile := by
    generalize AnswerKind.profile.decoder.run text.toList = result at hread ⊢
    cases result with
    | error f => cases hread
    | ok p => exact congrArg Except.ok (Option.some.inj hread)
  have hdecodes : Decodes .profile (Text.utf8 text.toList) profile := (answers_by_rule.2.1 .profile _ _).mpr hrun
  have hanswers := answers_by_rule.1 .currentUser (.response 203 [] (some (Text.utf8 text.toList)))
  refine ⟨(hanswers.ok profile).mpr ⟨203, [], _, by decide, by decide, rfl, hdecodes⟩, ?_⟩
  exact (answers_by_rule.2.2.1 _ _ _ hdecodes).resolve_left (by decide)

end PasskeySession
