import PasskeySession.Http.Exchange
import PasskeySession.Proofs.Session.Passage
import PasskeySession.Proofs.WebAuthn.Authenticator
import PasskeySession.Proofs.WebAuthn.Credential

/-! # What ceremonies return

A ceremony stops at the first failure and returns it, and it returns a success when nothing has failed, and only then.
What it tells the backend in the end is what it returns; and if the passkey is of an authenticator in software, it is
about the very bytes of the challenge that the backend gave. -/

namespace PasskeySession

/-! ### Bodies -/

namespace Json

/-- The value of the first member of an object that has the given name. -/
def member? (name : String) : Json → Option Json
  | object members => (members.find? fun member => member.1 = name).map (·.2)
  | _ => none

/-- The text that is found under some names, one within the other. -/
def textAt? : List String → Json → Option String
  | [], string s => some s
  | [], _ => none
  | name :: names, j => (j.member? name).bind (textAt? names)

end Json

/-- A body that names what is returned: a credential with its public key, or the credential that was used. -/
inductive Json.Names (body : Json) : Outcome → Prop
  | registered {credential : Credential} (hid : body.textAt? ["id"] = some credential.id)
      (hkey : body.textAt? ["publicKeyHex"] = some credential.publicKeyHex) : Names body (.registered credential)
  | loggedIn {id : String} (hid : body.textAt? ["id"] = some id) : Names body (.loggedIn id)

/-- A body with client data of a ceremony, whose challenge reads back as these bytes. -/
structure Json.Tells (body : Json) (ceremony : Ceremony) (challenge : Bytes) (text : String) (data : Bytes) : Prop where
  member : body.textAt? ["response", "clientDataJSON"] = some text
  decodes : Text.Base64Url.decode? text = some data
  begins : ClientData.beginning ceremony <+: data
  tells : ClientData.challengeOf? ceremony data = some challenge

namespace Prompt

def clientData : (p : Prompt) → p.Value → Bytes
  | create .., credential => credential.clientData
  | use .., assertion => assertion.clientData

/-- Whether an authenticator in software gives a value, whatever has become of it before. -/
def InSoftware (p : Prompt) (v : p.Value) : Prop := ∃ a : Authenticator, (a.answer p).1 = .ok v

/-- The body that tells the backend what came of a prompt. -/
theorem exists_body (p : Prompt) (v : p.Value) : ∃ body, (p.verify v).body = some body ∧
    body.Names (p.outcome v) ∧
    body.textAt? ["response", "clientDataJSON"] = some (Text.Base64Url.encodeText (p.clientData v)) := by
  cases p with
  | create => exact ⟨v.toJson, rfl, .registered rfl rfl, rfl⟩
  | use => exact ⟨v.toJson, rfl, .loggedIn rfl, rfl⟩

theorem path_verify (p : Prompt) (v : p.Value) : (p.verify v).path = "/auth/passkey/verify" := by
  cases p <;> rfl

end Prompt

namespace Authenticator
variable {a : Authenticator}

theorem clientData_create {name : String} {challenge : Bytes} {credential : Credential}
    (h : (a.create name challenge).1 = .ok credential) :
    credential.clientData = ClientData.bytes .create challenge a.origin := by
  cases hfail : a.failNext with
  | some e =>
    rw [create, hfail] at h
    cases h
  | none =>
    cases h.symm.trans (create_of_not_failing hfail name challenge)
    rfl

theorem clientData_request {id : Option String} {challenge : Bytes} {assertion : Assertion}
    (h : (a.request id challenge).1 = .ok assertion) :
    assertion.clientData = ClientData.bytes .get challenge a.origin := by
  unfold request at h
  split at h
  · cases h
  · split at h
    · cases h
    · cases h
      rfl

end Authenticator

namespace Rite
variable {r : Rite} {ch : PasskeyChallenge} {p : Prompt} {v : p.Value} {c : Passage}

/-- What a ceremony tells the backend of a passkey in software is about the challenge that the backend gave. -/
theorem Prompts.tells (h : r.Prompts ch p) (hv : p.InSoftware v) : ∃ bytes origin,
    Text.Base64Url.decode? ch.challenge = some bytes ∧
      p.clientData v = ClientData.bytes r.ceremony bytes origin := by
  obtain ⟨a, ha⟩ := hv
  cases h with
  | registration hbytes => exact ⟨_, a.origin, hbytes, Authenticator.clientData_create ha⟩
  | login hbytes => exact ⟨_, a.origin, hbytes, Authenticator.clientData_request ha⟩

end Rite

theorem Json.tells_bytes {body : Json} {ceremony : Ceremony} {challenge : Bytes} {origin : String}
    (h : body.textAt? ["response", "clientDataJSON"] =
      some (Text.Base64Url.encodeText (ClientData.bytes ceremony challenge origin))) :
    body.Tells ceremony challenge (Text.Base64Url.encodeText (ClientData.bytes ceremony challenge origin))
      (ClientData.bytes ceremony challenge origin) where
  member := h
  decodes := Text.Base64Url.decode?_encodeText _
  begins := ⟨_, (ClientData.bytes_eq ceremony challenge origin).symm⟩
  tells := ClientData.challengeOf?_bytes ceremony challenge origin

/-- Why an exchange is a failure. -/
def Exchange.failure? : Exchange → Option ClientError
  | ⟨.request _, .error e⟩ => some e
  | ⟨.prompt _, .error e⟩ => some (.authenticator e)
  | _ => none

namespace Rite

/-- The request that ends a ceremony. -/
structure Verifies (r : Rite) (c : Passage) (req : Request) (ch : PasskeyChallenge) (p : Prompt) (v : p.Value)
    (body : Json) : Prop where
  told : c.told.take 2 = [⟨.request (.challenge r.username?), .ok ch⟩, ⟨.prompt p, .ok v⟩]
  prompts : r.Prompts ch p
  request : req = p.verify v
  path : req.path = "/auth/passkey/verify"
  sends : req.body = some body
  names : ∀ o, .returned (.ok o) ∈ c.ends → body.Names o
  tells : p.InSoftware v → ∃ bytes text data, Text.Base64Url.decode? ch.challenge = some bytes ∧
    body.Tells r.ceremony bytes text data

/-- What holds of the passage of a ceremony. -/
structure Keeps (r : Rite) (c : Passage) : Prop where
  /-- It asks for a challenge, for one prompt, and whether that is taken, and may stop before. -/
  asks : c.asked = [.request (.challenge r.username?)] ∨
    (∃ p, c.asked = [.request (.challenge r.username?), .prompt p]) ∨
    ∃ p v, c.asked = [.request (.challenge r.username?), .prompt p, .request (p.verify v)]
  /-- It is told in the order in which it asks. -/
  told : c.told.map (·.question) <+: c.asked
  /-- It asks one thing at a time, until it ends. -/
  waits : c.ends = [] → ∃ q, c.asked = c.told.map (·.question) ++ [q]
  /-- It ends once. -/
  ends : c.ends.length ≤ 1
  /-- A failure is the last thing that it is told, and what it returns. -/
  stops : ∀ x ∈ c.told, ∀ e, x.failure? = some e →
    c.told.getLast? = some x ∧ c.asked = c.told.map (·.question) ∧ c.ends = [.returned (.error e)]
  /-- With a challenge that it cannot use it stops as well. -/
  unusable : ∀ ch, c.told.head? = some ⟨.request (.challenge r.username?), .ok ch⟩ → ¬ r.Usable ch → c.asked =
    [.request (.challenge r.username?)] ∧ c.ends = [.returned (.error (.invalidAnswer .badBase64))]
  /-- With any other it goes on to the prompt that this leads to. -/
  prompts : ∀ p, .prompt p ∈ c.asked →
    ∃ ch, c.told.head? = some ⟨.request (.challenge r.username?), .ok ch⟩ ∧ r.Prompts ch p
  /-- It returns no other error. -/
  fails : ∀ e, .returned (.error e) ∈ c.ends → (∃ x, c.told.getLast? = some x ∧ x.failure? = some e) ∨
    e = .invalidAnswer .badBase64 ∧ ∃ ch, c.told = [⟨.request (.challenge r.username?), .ok ch⟩] ∧ ¬ r.Usable ch
  /-- It returns a success when nothing has failed, and only then. -/
  returns : ∀ o, .returned (.ok o) ∈ c.ends ↔ ∃ ch p v u, r.Usable ch ∧
    c.told = [⟨.request (.challenge r.username?), .ok ch⟩, ⟨.prompt p, .ok v⟩, ⟨.request (p.verify v), .ok u⟩] ∧
    o = p.outcome v
  /-- The request after the first tells what is returned, and of a passkey in software, that it is about the
      challenge. -/
  verifies : ∀ req, .request req ∈ c.asked → req = .challenge r.username? ∨
    ∃ ch p v body, r.Verifies c req ch p v body

/-! ### Each passage keeps this -/

variable {r : Rite} {c : Passage} {ch : PasskeyChallenge} {p : Prompt}

theorem Prompts.exists_body (hp : r.Prompts ch p) {v : p.Value}
    (htold : c.told.take 2 = [⟨.request (.challenge r.username?), .ok ch⟩, ⟨.prompt p, .ok v⟩])
    (hends : ∀ o, .returned (.ok o) ∈ c.ends → o = p.outcome v) : ∃ body, r.Verifies c (p.verify v) ch p v body := by
  obtain ⟨body, hbody, hnames, htext⟩ := p.exists_body v
  refine ⟨body, htold, hp, rfl, p.path_verify v, hbody, fun o ho => hends o ho ▸ hnames, fun hv => ?_⟩
  obtain ⟨bytes, origin, hbytes, hdata⟩ := hp.tells hv
  rw [hdata] at htext
  exact ⟨bytes, _, _, hbytes, Json.tells_bytes htext⟩

theorem Prompts.verifies (hp : r.Prompts ch p) {v : p.Value} {req : Request}
    (hasked : c.asked = [.request (.challenge r.username?), .prompt p, .request (p.verify v)])
    (htold : c.told.take 2 = [⟨.request (.challenge r.username?), .ok ch⟩, ⟨.prompt p, .ok v⟩])
    (hends : ∀ o, .returned (.ok o) ∈ c.ends → o = p.outcome v) (hreq : .request req ∈ c.asked) :
    req = .challenge r.username? ∨ ∃ ch p v body, r.Verifies c req ch p v body := by
  rw [hasked] at hreq
  have hcases : req = .challenge r.username? ∨ req = p.verify v := by simpa using hreq
  rcases hcases with hfirst | rfl
  · exact Or.inl hfirst
  · exact Or.inr ⟨ch, p, v, hp.exists_body htold hends⟩

section
variable {x : Exchange} {e : ClientError} (h : r.Takes c)
include h

theorem Takes.asks : c.asked = [.request (.challenge r.username?)] ∨
    (∃ p, c.asked = [.request (.challenge r.username?), .prompt p]) ∨
    ∃ p v, c.asked = [.request (.challenge r.username?), .prompt p, .request (p.verify v)] := by
  cases h with
  | waits h | dropped h =>
    cases h with
    | challenge => exact Or.inl rfl
    | prompt => exact Or.inr (Or.inl ⟨_, rfl⟩)
    | verify => exact Or.inr (Or.inr ⟨_, _, rfl⟩)
  | refused | unusable => exact Or.inl rfl
  | cancelled => exact Or.inr (Or.inl ⟨_, rfl⟩)
  | rejected | verified => exact Or.inr (Or.inr ⟨_, _, rfl⟩)

theorem Takes.told : c.told.map (·.question) <+: c.asked := by
  cases h with
  | waits h | dropped h => cases h <;> exact ⟨[_], rfl⟩
  | _ => exact ⟨[], rfl⟩

theorem Takes.waiting (hends : c.ends = []) : ∃ q, c.asked = c.told.map (·.question) ++ [q] := by
  cases h with
  | waits h => cases h <;> exact ⟨_, rfl⟩
  | _ => cases hends

theorem Takes.ends : c.ends.length ≤ 1 := by
  cases h with
  | waits h => cases h <;> exact Nat.zero_le 1
  | _ => exact Nat.le_refl 1

theorem Takes.stops (hx : x ∈ c.told) (he : x.failure? = some e) :
    c.told.getLast? = some x ∧ c.asked = c.told.map (·.question) ∧ c.ends = [.returned (.error e)] := by
  cases h with
  | waits h | dropped h =>
    -- Nothing has failed yet.
    cases h with
    | challenge => cases hx
    | prompt | verify =>
      simp only [List.mem_cons, List.not_mem_nil, or_false] at hx
      rcases hx with rfl | rfl <;> cases he
  | refused =>
    cases List.mem_singleton.mp hx
    cases he
    exact ⟨rfl, rfl, rfl⟩
  | unusable =>
    cases List.mem_singleton.mp hx
    cases he
  | cancelled =>
    simp only [List.mem_cons, List.not_mem_nil, or_false] at hx
    rcases hx with rfl | rfl <;> cases he
    exact ⟨rfl, rfl, rfl⟩
  | rejected =>
    simp only [List.mem_cons, List.not_mem_nil, or_false] at hx
    rcases hx with rfl | rfl | rfl <;> cases he
    exact ⟨rfl, rfl, rfl⟩
  | verified =>
    simp only [List.mem_cons, List.not_mem_nil, or_false] at hx
    rcases hx with rfl | rfl | rfl <;> cases he

theorem Takes.fails (he : .returned (.error e) ∈ c.ends) :
    (∃ x, c.told.getLast? = some x ∧ x.failure? = some e) ∨
      e = .invalidAnswer .badBase64 ∧ ∃ ch, c.told = [⟨.request (.challenge r.username?), .ok ch⟩] ∧ ¬ r.Usable ch := by
  cases h with
  | waits h => cases h <;> cases he
  | dropped | verified => cases List.mem_singleton.mp he
  | unusable h =>
    cases List.mem_singleton.mp he
    exact Or.inr ⟨rfl, _, rfl, h⟩
  | refused | cancelled | rejected =>
    cases List.mem_singleton.mp he
    exact Or.inl ⟨_, rfl, rfl⟩

theorem Takes.of_unusable (hch : c.told.head? = some ⟨.request (.challenge r.username?), .ok ch⟩)
    (hno : ¬ r.Usable ch) : c.asked = [.request (.challenge r.username?)] ∧
      c.ends = [.returned (.error (.invalidAnswer .badBase64))] := by
  cases h with
  | waits h | dropped h =>
    cases h with
    | challenge => cases hch
    | prompt hp | verify hp =>
      cases hch
      exact absurd hp.usable hno
  | refused => cases hch
  | unusable => exact ⟨rfl, rfl⟩
  | cancelled hp | rejected hp | verified hp =>
    cases hch
    exact absurd hp.usable hno

theorem Takes.prompts (hp : .prompt p ∈ c.asked) :
    ∃ ch, c.told.head? = some ⟨.request (.challenge r.username?), .ok ch⟩ ∧ r.Prompts ch p := by
  cases h with
  | waits h | dropped h =>
    cases h with
    | challenge => cases List.mem_singleton.mp hp
    | prompt h | verify h =>
      simp only [List.mem_cons, List.not_mem_nil, or_false, reduceCtorEq, false_or, Question.prompt.injEq] at hp
      exact ⟨_, rfl, hp ▸ h⟩
  | refused | unusable => cases List.mem_singleton.mp hp
  | cancelled h | rejected h | verified h =>
    simp only [List.mem_cons, List.not_mem_nil, or_false, reduceCtorEq, false_or, Question.prompt.injEq] at hp
    exact ⟨_, rfl, hp ▸ h⟩

theorem Takes.returns (o : Outcome) : .returned (.ok o) ∈ c.ends ↔ ∃ ch p v u, r.Usable ch ∧
    c.told = [⟨.request (.challenge r.username?), .ok ch⟩, ⟨.prompt p, .ok v⟩, ⟨.request (p.verify v), .ok u⟩] ∧
    o = p.outcome v := by
  constructor
  · intro ho
    cases h with
    | waits h => cases h <;> cases ho
    | verified hp =>
      cases List.mem_singleton.mp ho
      exact ⟨_, _, _, _, hp.usable, rfl, rfl⟩
    | _ => cases List.mem_singleton.mp ho
  · rintro ⟨ch, p, v, u, hu, htold, rfl⟩
    cases h with
    | waits h | dropped h => cases h <;> cases htold
    | verified hp =>
      cases htold
      exact List.mem_singleton_self _
    | _ => cases htold

theorem Takes.verifies {req : Request} (hreq : .request req ∈ c.asked) : req = .challenge r.username? ∨
    ∃ ch p v body, r.Verifies c req ch p v body := by
  cases h with
  | waits h | dropped h =>
    cases h with
    | challenge => exact Or.inl (by simpa using hreq)
    | prompt => exact Or.inl (by simpa using hreq)
    | verify hp => exact hp.verifies rfl rfl (fun o ho => by simp at ho) hreq
  | refused | unusable | cancelled => exact Or.inl (by simpa using hreq)
  | rejected hp => exact hp.verifies rfl rfl (fun o ho => by simp at ho) hreq
  | verified hp => exact hp.verifies rfl rfl (fun o ho => by simpa using ho) hreq

theorem Takes.keeps : r.Keeps c where
  asks := h.asks
  told := h.told
  waits := h.waiting
  ends := h.ends
  stops _ hx _ he := h.stops hx he
  unusable _ hch hno := h.of_unusable hch hno
  prompts _ hp := h.prompts hp
  fails _ he := h.fails he
  returns := h.returns
  verifies _ hreq := h.verifies hreq

end

end Rite

namespace World
variable {v : World} {first since : List Happening} {x : Happening} {r : Rite}

/-- In every run, whatever else happens in it, a registration and a login keep to this. -/
theorem Ran.ceremony (h : v.Ran (first ++ x :: since)) (hx : x.event = .start r.operation) :
    r.Keeps (passage x.world.tasks.length (x :: since)) :=
  (h.conducts hx).stands.takes.keeps

end World

/-- Answers that give a challenge and take what comes of it, with an authenticator for the prompts. -/
def Reply.of (ch : PasskeyChallenge) (a : Authenticator) : Reply
  | .request (.challenge _) => .ok ch
  | .request (.verifyRegistration _) => .ok ()
  | .request (.verifyLogin _) => .ok ()
  | .prompt p => (a.answer p).1
  | q => Reply.asserting q

/-- A registration of no name, with a challenge and a name that the backend gives. -/
theorem World.ceremony_registration :
    let key : SigningKey := ⟨1, by decide, by decide⟩
    let a := Authenticator.initial "safeliza.test" none fun _ => ⟨key, List.replicate 16 0, rfl⟩
    let reply := Reply.of ⟨"AQID", some ⟨"YWdlbnQ=", none, none⟩⟩ a
    ∃ x since v, World.Ran ([] ++ x :: since) v ∧ x.event = .start (Rite.registration "").operation ∧
      since.map (·.event) = List.replicate 3 (.answer 0 reply) ∧
      (∃ credential, (passage 0 (x :: since)).ends = [.returned (.ok (.registered credential))]) ∧
      (Rite.registration "").Keeps (passage 0 (x :: since)) := by
  intro key a reply
  have h : World.Ran ([] ++ ⟨.initial, .start (Rite.registration "").operation⟩ :: [_, _, _]) _ :=
    (((Ran.initial.step _).step (.answer 0 reply)).step (.answer 0 reply)).step (.answer 0 reply)
  exact ⟨_, _, _, h, rfl, rfl, ⟨_, rfl⟩, h.ceremony rfl⟩

end PasskeySession
