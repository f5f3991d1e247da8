import PasskeySession.Proofs.Session.CacheBlind

/-! # The passages of a ceremony

A registration and a login ask three questions one after the other: for a challenge, for what a passkey makes of it,
and whether the backend takes that. Each way in which this can go is a passage: what is asked, what is told, and how
the operation ends. In every run, whatever else happens in between, a ceremony takes one of these passages. -/

namespace PasskeySession

/-! ### What is seen of an operation -/

/-- A question, and what was told to the operation that asked it. -/
structure Exchange where
  question : Question
  answer : question.Answer

def Reply.exchange (reply : Reply) (q : Question) : Exchange := ⟨q, reply q⟩

/-- How an operation ends. -/
inductive Ending
  | returned (result : Except ClientError Outcome)
  | dropped

/-- What is seen of an operation: what it asks, what it is told, and how it ends. -/
structure Passage where
  asked : List Question
  told : List Exchange
  ends : List Ending

namespace Passage

def nothing : Passage := ⟨[], [], []⟩

/-- One passage, and what is seen after it. -/
def followed (c more : Passage) : Passage := ⟨c.asked ++ more.asked, c.told ++ more.told, c.ends ++ more.ends⟩

theorem followed_nothing (c : Passage) : c.followed nothing = c := by
  simp only [followed, nothing, List.append_nil]

end Passage

/-- What is seen of an operation that has been told something and has then come so far. -/
def Progress.passage (told : List Exchange) : Progress → Passage
  | waiting point => ⟨[point.question], told, []⟩
  | finished result => ⟨[], told, [.returned result]⟩

namespace Happening
variable {w : World} {k : Nat} {point : Waiting} {reply : Reply} {op : Operation} {q : Progress}
  {e : Event}

/-- What an operation asks when something happens. -/
def question? (k : Nat) (x : Happening) : Option Question :=
  match x.report with
  | .progress j (.waiting point) => if j = k then some point.question else none
  | _ => none

/-- What an operation is told by what happens. -/
def exchange? (k : Nat) (x : Happening) : Option Exchange :=
  match x.event with
  | .answer j reply => if j = k then (x.world.task? k).map fun point => reply.exchange point.question else none
  | _ => none

/-- How an operation ends with what happens, if it does. -/
def ending? (k : Nat) (x : Happening) : Option Ending :=
  match x.report, x.event with
  | .progress j (.finished result), _ => if j = k then some (.returned result) else none
  | .done, .drop j => if j = k then some .dropped else none
  | _, _ => none

/-- What is seen of an operation in one thing that happens. -/
def passage (k : Nat) (x : Happening) : Passage :=
  ⟨(x.question? k).toList, (x.exchange? k).toList, (x.ending? k).toList⟩

theorem passage_progress (hq : (w.step e).2 = .progress k q) :
    passage k ⟨w, e⟩ = q.passage (exchange? k ⟨w, e⟩).toList := by
  cases q <;> simp only [passage, question?, ending?, report, hq, if_pos] <;> rfl

theorem passage_start (hq : (w.step (.start op)).2 = .progress k q) : passage k ⟨w, .start op⟩ = q.passage [] :=
  passage_progress hq

theorem passage_answer (hk : w.task? k = some point) (hq : (w.step (.answer k reply)).2 = .progress k q) :
    passage k ⟨w, .answer k reply⟩ = q.passage [reply.exchange point.question] := by
  have htold : exchange? k ⟨w, .answer k reply⟩ = some (reply.exchange point.question) := by
    simp only [exchange?, if_pos, hk, Option.map_some]
  rw [passage_progress hq, htold]
  rfl

theorem passage_drop (hr : (w.step (.drop k)).2 = .done) : passage k ⟨w, .drop k⟩ = ⟨[], [], [.dropped]⟩ := by
  simp only [passage, question?, exchange?, ending?, report, hr, if_pos]
  rfl

theorem passage_unmoved (hr : (w.step (.cancel k)).2 = .unmoved k) : passage k ⟨w, .cancel k⟩ = .nothing := by
  simp only [passage, question?, exchange?, ending?, report, hr]
  rfl

/-- Nothing is seen of an operation when nothing is reported of it and it is not what the event is for. -/
theorem passage_quiet (hq : ∀ q, (w.step e).2 ≠ .progress k q) (he : e.task? = some k → w.task? k = none) :
    passage k ⟨w, e⟩ = .nothing := by
  have hquestion : question? k ⟨w, e⟩ = none := by
    unfold question?
    split
    · rename_i j point hr
      exact if_neg fun hj => hq _ (hj ▸ hr)
    · rfl
  have hexchange : exchange? k ⟨w, e⟩ = none := by
    unfold exchange?
    split
    · rename_i j reply hx
      cases hx
      refine ite_eq_right_iff.mpr fun hj => ?_
      rw [he (congrArg some hj), Option.map_none]
    · rfl
  have hending : ending? k ⟨w, e⟩ = none := by
    unfold ending?
    split
    · rename_i j result hr
      exact if_neg fun hj => hq _ (hj ▸ hr)
    · rename_i j hr hx
      cases hx
      refine if_neg fun hj => ?_
      subst hj
      -- An operation that is over cannot be dropped.
      have habsent : (w.step (.drop j)).2 = .absent := by
        simp only [World.step, World.dropTask, he rfl]
      cases hr.symm.trans habsent
    · rfl
  rw [passage, hquestion, hexchange, hending]
  rfl

end Happening

/-- What is seen of an operation in all that happens. -/
def passage (k : Nat) (past : List Happening) : Passage :=
  ⟨past.filterMap (Happening.question? k), past.filterMap (Happening.exchange? k),
    past.filterMap (Happening.ending? k)⟩

section
variable {past : List Happening} {x : Happening} {k : Nat}

theorem passage_singleton : passage k [x] = x.passage k := by
  have single : ∀ {β : Type} (f : Happening → Option β), [x].filterMap f = (f x).toList := by
    intro β f
    cases hx : f x <;> simp [hx]
  simp only [passage, single, Happening.passage]

theorem passage_concat : passage k (past ++ [x]) = (passage k past).followed (x.passage k) := by
  rw [← passage_singleton]
  simp only [passage, Passage.followed, List.filterMap_append]

end

/-! ### Ceremonies -/

namespace PasskeyChallenge

/-- The name of a new credential: the one that is asked for, or if that is empty and the backend gives one, that. -/
inductive Names (ch : PasskeyChallenge) (username : String) : String → Prop
  | own (h : username = "" → ch.user = none) : Names ch username username
  | given {user : ChallengeUser} {bs : Bytes} (hempty : username = "") (huser : ch.user = some user)
      (hbytes : Text.Base64Url.decode? user.id = some bs) :
      Names ch username (String.ofList (Text.Utf8.decodeLossy bs))

theorem bytes_cases (ch : PasskeyChallenge) :
    (∃ bs, Text.Base64Url.decode? ch.challenge = some bs ∧ ch.bytes = .ok bs) ∨
      Text.Base64Url.decode? ch.challenge = none ∧ ch.bytes = .error (.invalidAnswer .badBase64) := by
  unfold bytes
  cases h : Text.Base64Url.decode? ch.challenge with
  | none => exact Or.inr ⟨rfl, rfl⟩
  | some bs => exact Or.inl ⟨bs, rfl, rfl⟩

theorem nameFor_cases (ch : PasskeyChallenge) (username : String) :
    (∃ name, ch.Names username name ∧ ch.nameFor username = .ok name) ∨
      (∃ user, username = "" ∧ ch.user = some user ∧ Text.Base64Url.decode? user.id = none) ∧
        ch.nameFor username = .error (.invalidAnswer .badBase64) := by
  unfold nameFor
  split
  · rename_i user hempty huser
    have hempty := String.isEmpty_iff.mp hempty
    cases h : Text.Base64Url.decode? user.id with
    | none => exact Or.inr ⟨⟨user, hempty, huser, h⟩, rfl⟩
    | some bs => exact Or.inl ⟨_, .given hempty huser h, rfl⟩
  · rename_i hno
    refine Or.inl ⟨username, .own fun hempty => ?_, rfl⟩
    cases huser : ch.user with
    | none => rfl
    | some user => exact (hno user (String.isEmpty_iff.mpr hempty) huser).elim

end PasskeyChallenge

namespace Prompt

/-- The request that tells the backend what came of a prompt. -/
def verify : (p : Prompt) → p.Value → Request
  | create .., credential => .verifyRegistration credential
  | use .., assertion => .verifyLogin assertion

/-- What is returned when the backend takes it. -/
def outcome : (p : Prompt) → p.Value → Outcome
  | create .., credential => .registered credential
  | use .., assertion => .loggedIn assertion.id

/-- Where a ceremony waits for a prompt. -/
def point : Prompt → Waiting
  | create name challenge => .registerPrompt name challenge
  | use _ challenge => .loginPrompt challenge

/-- Where a ceremony waits for the backend to take what came of a prompt. -/
def verifying : (p : Prompt) → p.Value → Waiting
  | create .., credential => .registerVerify credential
  | use .., assertion => .loginVerify assertion

end Prompt

/-- A registration, or a login. -/
inductive Rite
  | registration (username : String)
  | login

namespace Rite

def operation : Rite → Operation
  | registration username => .register username
  | login => .login

/-- The name that a challenge is asked for. -/
def username? : Rite → Option String
  | registration username => some username
  | login => none

def ceremony : Rite → Ceremony
  | registration _ => .create
  | login => .get

/-- Where a ceremony waits for a challenge. -/
def opening : Rite → Waiting
  | registration username => .registerChallenge username
  | login => .loginChallenge

/-- What a ceremony goes on to with a challenge. -/
def next : Rite → PasskeyChallenge → Except ClientError Waiting
  | registration username, ch => ch.registration username
  | login, ch => ch.discovery

/-- Whether a ceremony can go on with a challenge: it is in base64url, and so is the name that it gives to a
    registration of no name. -/
structure Usable (r : Rite) (ch : PasskeyChallenge) : Prop where
  challenge : ∃ bs, Text.Base64Url.decode? ch.challenge = some bs
  user : r.username? = some "" → ∀ user, ch.user = some user → ∃ bs, Text.Base64Url.decode? user.id = some bs

/-- The prompt that a challenge leads to. -/
inductive Prompts : Rite → PasskeyChallenge → Prompt → Prop
  | registration {username name : String} {ch : PasskeyChallenge} {bytes : Bytes}
      (hbytes : Text.Base64Url.decode? ch.challenge = some bytes) (hname : ch.Names username name) :
      Prompts (.registration username) ch (.create name bytes)
  | login {ch : PasskeyChallenge} {bytes : Bytes} (hbytes : Text.Base64Url.decode? ch.challenge = some bytes) :
      Prompts .login ch (.use none bytes)

/-- A passage up to a question, and where the operation then waits. -/
inductive Awaits (r : Rite) : Passage → Waiting → Prop
  | challenge : Awaits r ⟨[.request (.challenge r.username?)], [], []⟩ r.opening
  | prompt {ch : PasskeyChallenge} {p : Prompt} (h : r.Prompts ch p) :
      Awaits r ⟨[.request (.challenge r.username?), .prompt p], [⟨.request (.challenge r.username?), .ok ch⟩], []⟩
        p.point
  | verify {ch : PasskeyChallenge} {p : Prompt} {v : p.Value} (h : r.Prompts ch p) :
      Awaits r ⟨[.request (.challenge r.username?), .prompt p, .request (p.verify v)],
        [⟨.request (.challenge r.username?), .ok ch⟩, ⟨.prompt p, .ok v⟩], []⟩ (p.verifying v)

/-- The passages of a ceremony. -/
inductive Takes (r : Rite) : Passage → Prop
  | waits {c : Passage} {point : Waiting} (h : r.Awaits c point) : Takes r c
  | dropped {asked : List Question} {told : List Exchange} {point : Waiting} (h : r.Awaits ⟨asked, told, []⟩ point) :
      Takes r ⟨asked, told, [.dropped]⟩
  | refused {e : ClientError} :
      Takes r ⟨[.request (.challenge r.username?)], [⟨.request (.challenge r.username?), .error e⟩],
        [.returned (.error e)]⟩
  | unusable {ch : PasskeyChallenge} (h : ¬ r.Usable ch) :
      Takes r ⟨[.request (.challenge r.username?)], [⟨.request (.challenge r.username?), .ok ch⟩],
        [.returned (.error (.invalidAnswer .badBase64))]⟩
  | cancelled {ch : PasskeyChallenge} {p : Prompt} {e : AuthenticatorError} (h : r.Prompts ch p) :
      Takes r ⟨[.request (.challenge r.username?), .prompt p],
        [⟨.request (.challenge r.username?), .ok ch⟩, ⟨.prompt p, .error e⟩],
        [.returned (.error (.authenticator e))]⟩
  | rejected {ch : PasskeyChallenge} {p : Prompt} {v : p.Value} {e : ClientError} (h : r.Prompts ch p) :
      Takes r ⟨[.request (.challenge r.username?), .prompt p, .request (p.verify v)],
        [⟨.request (.challenge r.username?), .ok ch⟩, ⟨.prompt p, .ok v⟩, ⟨.request (p.verify v), .error e⟩],
        [.returned (.error e)]⟩
  | verified {ch : PasskeyChallenge} {p : Prompt} {v : p.Value} {u : (p.verify v).kind.Value} (h : r.Prompts ch p) :
      Takes r ⟨[.request (.challenge r.username?), .prompt p, .request (p.verify v)],
        [⟨.request (.challenge r.username?), .ok ch⟩, ⟨.prompt p, .ok v⟩, ⟨.request (p.verify v), .ok u⟩],
        [.returned (.ok (p.outcome v))]⟩

/-- A ceremony has taken a passage, and waits where that leads, or is over. -/
structure Stands (r : Rite) (c : Passage) (t : Option Waiting) : Prop where
  takes : r.Takes c
  awaits : ∀ point, t = some point → r.Awaits c point

variable {r : Rite} {ch : PasskeyChallenge} {p : Prompt} {c : Passage} {point : Waiting}

theorem stands_of_awaits (h : r.Awaits c point) : r.Stands c (some point) :=
  ⟨.waits h, fun _ hpoint => Option.some.inj hpoint ▸ h⟩

theorem stands_of_takes (h : r.Takes c) : r.Stands c none := ⟨h, fun _ hpoint => by cases hpoint⟩

/-! ### Steps of a ceremony -/

theorem Prompts.bytes (h : r.Prompts ch p) : ∃ bs, Text.Base64Url.decode? ch.challenge = some bs := by
  cases h with
  | registration hbytes | login hbytes => exact ⟨_, hbytes⟩

theorem Prompts.usable (h : r.Prompts ch p) : r.Usable ch := by
  refine ⟨h.bytes, fun hname user huser => ?_⟩
  cases h with
  | login => cases hname
  | registration hbytes hnames =>
    cases hname
    cases hnames with
    | own hno => cases huser.symm.trans (hno rfl)
    | given _ huser' hbytes =>
      cases huser.symm.trans huser'
      exact ⟨_, hbytes⟩

theorem not_usable_of_decode? (h : Text.Base64Url.decode? ch.challenge = none) : ¬ r.Usable ch := by
  rintro ⟨⟨bs, hbs⟩, -⟩
  cases h.symm.trans hbs

/-- With a challenge a ceremony goes on to its prompt, or it cannot use the challenge. -/
theorem next_cases (r : Rite) (ch : PasskeyChallenge) :
    (∃ p, r.Prompts ch p ∧ r.next ch = .ok p.point) ∨
      ¬ r.Usable ch ∧ r.next ch = .error (.invalidAnswer .badBase64) := by
  cases r with
  | registration username =>
    rcases ch.bytes_cases with ⟨bs, hdecode, hbytes⟩ | ⟨hdecode, hbytes⟩
    · rcases ch.nameFor_cases username with ⟨name, hnames, hname⟩ | ⟨⟨user, rfl, huser, hid⟩, hname⟩
      · refine Or.inl ⟨.create name bs, .registration hdecode hnames, ?_⟩
        rw [next, PasskeyChallenge.registration, hbytes, hname]
        rfl
      · refine Or.inr ⟨fun h => ?_, ?_⟩
        · obtain ⟨bs, hbs⟩ := h.user rfl user huser
          cases hid.symm.trans hbs
        · rw [next, PasskeyChallenge.registration, hbytes, hname]
          rfl
    · refine Or.inr ⟨not_usable_of_decode? hdecode, ?_⟩
      rw [next, PasskeyChallenge.registration, hbytes]
      rfl
  | login =>
    rcases ch.bytes_cases with ⟨bs, hdecode, hbytes⟩ | ⟨hdecode, hbytes⟩
    · refine Or.inl ⟨.use none bs, .login hdecode, ?_⟩
      rw [next, PasskeyChallenge.discovery, hbytes]
      rfl
    · refine Or.inr ⟨not_usable_of_decode? hdecode, ?_⟩
      rw [next, PasskeyChallenge.discovery, hbytes]
      rfl

theorem question_opening (r : Rite) : r.opening.question = .request (.challenge r.username?) := by
  cases r <;> rfl

theorem question_point (h : r.Prompts ch p) : p.point.question = .prompt p := by
  cases h <;> rfl

theorem question_verifying (p : Prompt) (v : p.Value) : (p.verifying v).question = .request (p.verify v) := by
  cases p <;> rfl

variable {w : World} {reply : Reply}

theorem resume_opening : w.resume r.opening (reply r.opening.question) =
    w.proceed ((reply (.request (.challenge r.username?))).bind r.next) := by
  cases r <;> rfl

theorem resume_point (h : r.Prompts ch p) : w.resume p.point (reply p.point.question) =
    w.proceed (((reply (.prompt p)).mapError .authenticator).map p.verifying) := by
  cases h <;> rfl

theorem resume_verifying {v : p.Value} : w.resume (p.verifying v) (reply (p.verifying v).question) =
    (w, .finished ((reply (.request (p.verify v))).map fun _ => p.outcome v)) := by
  cases p <;> rfl

theorem exchange_eq {q : Question} {answer : q.Answer} (h : reply q = answer) : reply.exchange q = ⟨q, answer⟩ := by
  rw [Reply.exchange, h]

/-- With an answer a ceremony goes on along one of its passages. -/
theorem Awaits.resume (h : r.Awaits c point) (w : World) (reply : Reply) :
    r.Stands (c.followed ((w.resume point (reply point.question)).2.passage [reply.exchange point.question]))
      (w.resume point (reply point.question)).2.entry := by
  cases h with
  | challenge =>
    rw [resume_opening, question_opening]
    cases hreply : reply (.request (.challenge r.username?)) with
    | error e =>
      rw [exchange_eq hreply]
      exact stands_of_takes .refused
    | ok ch =>
      rw [exchange_eq hreply]
      rcases r.next_cases ch with ⟨p, hp, hnext⟩ | ⟨hno, hnext⟩
      · rw [Except.bind, hnext, World.proceed, Progress.passage, question_point hp]
        exact stands_of_awaits (.prompt hp)
      · rw [Except.bind, hnext]
        exact stands_of_takes (.unusable hno)
  | @prompt ch p hp =>
    rw [resume_point hp, question_point hp]
    cases hreply : reply (.prompt p) with
    | error e =>
      rw [exchange_eq hreply]
      exact stands_of_takes (.cancelled hp)
    | ok v =>
      have hnext : ((.ok v : p.Answer).mapError ClientError.authenticator).map p.verifying = .ok (p.verifying v) :=
        rfl
      rw [exchange_eq hreply, hnext, World.proceed, Progress.passage, question_verifying]
      exact stands_of_awaits (.verify hp)
  | @verify ch p v hp =>
    rw [resume_verifying, question_verifying]
    cases hreply : reply (.request (p.verify v)) with
    | error e =>
      rw [exchange_eq hreply]
      exact stands_of_takes (.rejected hp)
    | ok u =>
      rw [exchange_eq hreply]
      exact stands_of_takes (.verified hp)

theorem Awaits.drop (h : r.Awaits c point) : r.Takes (c.followed ⟨[], [], [.dropped]⟩) := by
  cases h with
  | challenge => exact .dropped .challenge
  | prompt hp => exact .dropped (.prompt hp)
  | verify hp => exact .dropped (.verify hp)

theorem Awaits.not_cancellable (h : r.Awaits c point) : point.cancellable = false := by
  cases h with
  | challenge => cases r <;> rfl
  | @prompt ch p | @verify ch p => cases p <;> rfl

end Rite

/-! ### Steps and runs -/

namespace World
variable {w v : World} {r : Rite} {k : Nat} {c : Passage} {q : Progress}

/-- An operation that has begun conducts a ceremony. -/
structure Conducts (r : Rite) (k : Nat) (c : Passage) (w : World) : Prop where
  begun : k < w.tasks.length
  stands : r.Stands c (w.task? k)

/-- A step goes on with a ceremony, or leaves it as it is. -/
theorem Conducts.step (h : w.Conducts r k c) (hw : w.Reachable) (e : Event) :
    (w.step e).1.Conducts r k (c.followed (Happening.passage k ⟨w, e⟩)) := by
  have m := World.move hw.sound.manned e
  refine ⟨Nat.lt_of_lt_of_le h.begun (World.turn hw.sound e).begun_le, ?_⟩
  by_cases own : e.task? = some k ∧ ∃ point, w.task? k = some point
  · obtain ⟨he, point, hk⟩ := own
    have awaits := h.stands.awaits point hk
    cases e with
    | answer j reply =>
      cases he
      have hreport : (w.step (.answer k reply)).2 = .progress k (w.resume point (reply point.question)).2 := by
        rw [step_answer hk]
      rw [hw.own_task hreport, Happening.passage_answer hk hreport]
      exact awaits.resume w reply
    | cancel j =>
      cases he
      have hsame : w.step (.cancel k) = (w, .unmoved k) := by
        rw [step_cancel hk, cancel_of_not_cancellable awaits.not_cancellable]
        rfl
      rw [Happening.passage_unmoved (congrArg Prod.snd hsame), hsame, Passage.followed_nothing]
      exact h.stands
    | drop j =>
      cases he
      have hnone : (w.step (.drop k)).1.task? k = none := by
        rw [step_drop hk]
        exact (congrFun (task?_set hk tasks_abandon none) k).trans (Function.update_self ..)
      have hreport : (w.step (.drop k)).2 = .done := by rw [step_drop hk]
      rw [hnone, Happening.passage_drop hreport]
      exact Rite.stands_of_takes awaits.drop
    | newOrchestrator | dropOrchestrator | newCache | newGate | edit | setForm | discard | acquire | releaseLease
    | start => cases he
  · -- Nothing is done to the operation, or it is over.
    have hreport : ∀ q, (w.step e).2 ≠ .progress k q := by
      intro q hq
      rw [hq] at m
      exact own (of_progress m h.begun)
    have hover : e.task? = some k → w.task? k = none := by
      intro he
      cases hk : w.task? k with
      | none => rfl
      | some point => exact absurd ⟨he, point, hk⟩ own
    rw [Happening.passage_quiet hreport hover, Passage.followed_nothing]
    refine ⟨h.stands.takes, fun point hpoint => ?_⟩
    rcases task_cases m hpoint with hk | hq
    · exact h.stands.awaits point hk
    · exact absurd hq (hreport _)

theorem start_operation : w.start r.operation = some (w, .waiting r.opening) := by
  cases r <;> rfl

theorem step_operation : w.step (.start r.operation) =
    ({ w with tasks := w.tasks ++ [some r.opening] }, .progress w.tasks.length (.waiting r.opening)) := by
  have helsewhere : r.operation.orchestrator? = none := by cases r <;> rfl
  rw [step, begin, helsewhere, start_operation]
  rfl

/-- A ceremony begins with its first question. -/
theorem conducts_start (w : World) (r : Rite) : (w.step (.start r.operation)).1.Conducts r w.tasks.length
    (Happening.passage w.tasks.length ⟨w, .start r.operation⟩) := by
  have hreport : (w.step (.start r.operation)).2 = .progress w.tasks.length (.waiting r.opening) := by
    rw [step_operation]
  rw [Happening.passage_start hreport, step_operation, Progress.passage, r.question_opening]
  refine ⟨?_, ?_⟩
  · rw [List.length_append]
    exact Nat.lt_succ_self _
  · have htask : ({ w with tasks := w.tasks ++ [some r.opening] } : World).task? w.tasks.length = some r.opening :=
      (congrFun (task?_append rfl (some r.opening)) w.tasks.length).trans (Function.update_self ..)
    rw [htask]
    exact Rite.stands_of_awaits .challenge

/-- In every run a ceremony takes one of its passages. -/
theorem Ran.conducts {first since : List Happening} {x : Happening} (h : v.Ran (first ++ x :: since))
    (hx : x.event = .start r.operation) :
    v.Conducts r x.world.tasks.length (PasskeySession.passage x.world.tasks.length (x :: since)) := by
  induction since using List.reverseRecOn generalizing v with
  | nil =>
    obtain ⟨before, rfl⟩ := h.of_concat
    obtain ⟨w, e⟩ := x
    cases hx
    rw [passage_singleton]
    exact conducts_start w r
  | append_singleton since y ih =>
    rw [← List.cons_append, ← List.append_assoc] at h
    obtain ⟨before, rfl⟩ := h.of_concat
    rw [← List.cons_append, passage_concat]
    exact (ih before).step before.reachable y.event

end World
end PasskeySession
