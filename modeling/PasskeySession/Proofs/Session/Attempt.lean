import PasskeySession.Proofs.Session.Log

/-! # Attempts to approve

What the log of a run holds of one attempt to approve: a prompt for the pending session, and if its answer can
be encoded one call that carries the signature, and after that at most the sessions of the account. Every
attempt that is in a log has one of these tales, so it asks for one signature and sends one at most. -/

namespace PasskeySession
open Function (update update_self update_of_ne)

/-- What an authenticator is asked in order to approve a pending session. -/
@[reducible] def PendingSession.prompt (p : PendingSession) : Question := .prompt (.use (some p.passkeyId) p.hash.bytes)

/-- Whether a question carries a signature: the one for a new session, or the one for an operation. -/
def Question.signs : Question → Bool
  | request (.signCreation ..) => true
  | request (.executeOperation ..) => true
  | _ => false

namespace Entry

/-- Whether a prompt is asked. -/
def prompts : Entry → Bool
  | asked _ _ (.prompt _) => true
  | _ => false

/-- Whether a signature is sent. -/
def sends : Entry → Bool
  | asked _ _ q => q.signs
  | _ => false

end Entry

/-- Whether an operation is an attempt to approve where it stands. -/
def Waiting.approves : Waiting → Bool
  | approve .. => true
  | sign .. => true
  | signed .. => true
  | _ => false

/-- The entries of an attempt to approve, and where it stands after them. -/
inductive Attempt (k : Nat) : List Entry → Option Waiting → Prop
  | refused {i : Nat} {c : Bool} : Attempt k [.begun k (.approve i c)] none
  | prompted {i : Nat} {c : Bool} {a : Account} {p : PendingSession} :
    Attempt k [.begun k (.approve i c), .asked (some i) k p.prompt] (some (.approve i c a p))
  | unsigned {i : Nat} {c : Bool} {a : Account} {p : PendingSession} {tale : List Entry}
    {answer : Except AuthenticatorError Assertion} {e : ClientError}
    (h : Attempt k tale (some (.approve i c a p))) (hs : signatureOf answer = .error e) :
    Attempt k (tale ++ [.answered (some i) k p.prompt answer]) none
  | sent {i : Nat} {c : Bool} {a : Account} {p : PendingSession} {tale : List Entry}
    {answer : Except AuthenticatorError Assertion} {g : EncodedSignature}
    (h : Attempt k tale (some (.approve i c a p))) (hs : signatureOf answer = .ok g) :
    Attempt k (tale ++ [.answered (some i) k p.prompt answer,
      .asked (some i) k (.request (p.kind.signedRequest a p.hash g))]) (some (.sign i c a p g))
  | settled {i : Nat} {c : Bool} {a : Account} {p : PendingSession} {g : EncodedSignature} {tale : List Entry}
    {answer : (p.kind.signedRequest a p.hash g).Answer} (h : Attempt k tale (some (.sign i c a p g))) :
    Attempt k (tale ++ [.answered (some i) k (.request (p.kind.signedRequest a p.hash g)) answer]) none
  | followed {i : Nat} {c : Bool} {a : Account} {p : PendingSession} {g : EncodedSignature} {r : Receipt}
    {l : CacheLoad} {tale : List Entry} {answer : (p.kind.signedRequest a p.hash g).Answer}
    (h : Attempt k tale (some (.sign i c a p g))) :
    Attempt k (tale ++ [.answered (some i) k (.request (p.kind.signedRequest a p.hash g)) answer,
      .asked (some i) k (.request (.sessionDetails l.load.account))]) (some (.signed i r l))
  | loaded {i : Nat} {r : Receipt} {l : CacheLoad} {tale : List Entry}
    {answer : (Request.sessionDetails l.load.account).Answer} (h : Attempt k tale (some (.signed i r l))) :
    Attempt k (tale ++ [.answered (some i) k (.request (.sessionDetails l.load.account)) answer]) none
  | abandoned {point : Waiting} {tale : List Entry} (h : Attempt k tale (some point)) :
    Attempt k (tale ++ [.abandoned k]) none

namespace Attempt
variable {k i : Nat} {c : Bool} {a : Account} {p : PendingSession} {g : EncodedSignature} {tale : List Entry}
  {point : Option Waiting}

theorem of_prompted (h : Attempt k tale (some (.approve i c a p))) :
    tale = [.begun k (.approve i c), .asked (some i) k p.prompt] := by
  cases h
  rfl

/-- An attempt asks for one signature at most. -/
theorem prompts_le (h : Attempt k tale point) : tale.countP Entry.prompts ≤ 1 := by
  induction h with
  | refused => exact Nat.zero_le _
  | prompted => exact Nat.le_refl _
  | unsigned _ _ ih | sent _ _ ih | settled _ ih | followed _ ih | loaded _ ih | abandoned _ ih =>
    rw [List.countP_append]
    exact ih

/-- An attempt sends one signature at most. -/
theorem sends_le (h : Attempt k tale point) : tale.countP Entry.sends ≤ 1 := by
  induction h with
  | refused | prompted => exact Nat.zero_le _
  | unsigned _ _ ih | settled _ ih | followed _ ih | loaded _ ih | abandoned _ ih =>
    rw [List.countP_append]
    exact ih
  | sent h =>
    rw [h.of_prompted]
    exact List.countP_le_length (l := [_])

/-- An attempt that has no signature sends none. -/
theorem sends_eq_zero (h : Attempt k tale point) {j : Option Nat} {id : Option String} {challenge : Bytes}
    {answer : Except AuthenticatorError Assertion} {e : ClientError}
    (hm : .answered j k (.prompt (.use id challenge)) answer ∈ tale) (hs : signatureOf answer = .error e) :
    tale.countP Entry.sends = 0 := by
  induction h with
  | refused | prompted => simp at hm
  | unsigned h =>
    rw [h.of_prompted]
    rfl
  | @sent _ _ _ _ _ answer' _ h hs' =>
    have same : answer = answer' := by
      rw [h.of_prompted] at hm
      simp only [List.cons_append, List.nil_append, List.mem_cons, reduceCtorEq, Entry.answered.injEq, false_or,
        List.not_mem_nil, or_false] at hm
      exact eq_of_heq hm.2.2.2
    rw [same, hs'] at hs
    cases hs
  | settled _ ih | followed _ ih | loaded _ ih | abandoned _ ih =>
    rw [List.countP_append]
    exact ih ((List.mem_append.mp hm).resolve_right (by simp))

end Attempt

/-- The entries of an operation, and where it stands after them. -/
inductive Tale (k : Nat) : List Entry → Option Waiting → Prop
  | attempt {tale : List Entry} {point : Option Waiting} (h : Attempt k tale point) : Tale k tale point
  | other {tale : List Entry} {point : Option Waiting} (h : ∀ i c, .begun k (.approve i c) ∉ tale)
    (hp : ∀ q ∈ point, q.approves = false) : Tale k tale point

namespace Tale
variable {k i : Nat} {tale more : List Entry} {point : Waiting} {next : Option Waiting}

/-- An operation that is no attempt to approve goes on. -/
theorem goOn (h : Tale k tale (some point)) (hp : point.approves = false)
    (hm : ∀ i c, .begun k (.approve i c) ∉ more) (hn : ∀ q ∈ next, q.approves = false) :
    Tale k (tale ++ more) next := by
  cases h with
  | attempt h => cases h <;> cases hp
  | other h =>
    refine .other (fun i c hx => ?_) hn
    rcases List.mem_append.mp hx with hx | hx
    · exact h i c hx
    · exact hm i c hx

theorem attempt_of_approves (h : Tale k tale (some point)) (hp : point.approves = true) :
    Attempt k tale (some point) := by
  cases h with
  | attempt h => exact h
  | other _ hp' =>
    rw [hp' point rfl] at hp
    cases hp

theorem attempt_of_begun (h : Tale k tale next) {c : Bool} (hb : .begun k (.approve i c) ∈ tale) :
    Attempt k tale next := by
  cases h with
  | attempt h => exact h
  | other h => exact absurd hb (h i c)

/-- An operation is dropped, or an attempt cancelled. -/
theorem abandoned (h : Tale k tale (some point)) : Tale k (tale ++ [.abandoned k]) none := by
  cases h with
  | attempt h => exact .attempt (.abandoned h)
  | other h hp => exact goOn (.other h hp) (hp point rfl) (by simp) (by rintro _ ⟨⟩)

end Tale
end PasskeySession
