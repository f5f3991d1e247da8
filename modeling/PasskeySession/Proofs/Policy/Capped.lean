import PasskeySession.Policy.Compiled

/-! # What is granted is capped

Policies are compiled one after the other, and each adds at the end what it contributes by itself, so a list is
compiled as its parts are. Main statement: only a session that nothing restricts may do anything, and what the
others may call are the three functions of each token, once for every cap on it that is sent along. -/

namespace PasskeySession

namespace Policy

/-- The tokens that a policy caps, as often as it does. -/
def tokens : Policy → List TokenPolicy
  | .spendingLimits tokens => tokens
  | _ => []

end Policy

namespace PolicyDescriptor

/-- The caps on tokens that a compiled policy holds. -/
def caps : PolicyDescriptor → List TokenLimit
  | ⟨.spendingLimits, .spendingLimits limits⟩ => limits
  | _ => []

end PolicyDescriptor

namespace TokenLimit

/-- The calls that go with a cap. -/
def calls (l : TokenLimit) : List ActionDescriptor :=
  [⟨l.token, .transfer⟩, ⟨l.token, .transferFrom⟩, ⟨l.token, .balanceOf⟩]

end TokenLimit

namespace CompiledSession

def empty : CompiledSession := ⟨[], []⟩

/-- Two sessions one after the other. -/
def append (s t : CompiledSession) : CompiledSession := ⟨s.policies ++ t.policies, s.actions ++ t.actions⟩

/-- A session with what one more policy contributes. -/
def add (s : CompiledSession) (p : Policy) : CompiledSession := s.append ⟨p.descriptors, p.actions⟩

/-- The caps on tokens that a session holds. -/
def caps (s : CompiledSession) : List TokenLimit := s.policies.flatMap PolicyDescriptor.caps

theorem append_assoc (s t u : CompiledSession) : (s.append t).append u = s.append (t.append u) := by
  simp only [append, List.append_assoc]

theorem append_empty (s : CompiledSession) : s.append empty = s := by
  simp only [append, empty, List.append_nil]

theorem empty_append (s : CompiledSession) : empty.append s = s := rfl

end CompiledSession

/-! ### What one policy contributes -/

namespace Policy
variable {p : Policy} {d : PolicyDescriptor}

theorem kind_of_mem_descriptors (h : d ∈ p.descriptors) : d.kind ≠ .unrestricted := by
  unfold descriptors at h
  split at h <;> cases h <;> first | contradiction | rintro ⟨⟩

theorem caps_descriptors (p : Policy) :
    p.descriptors.flatMap PolicyDescriptor.caps = p.tokens.map TokenPolicy.toLimit := by
  cases p with
  | spendingLimits tokens =>
    cases tokens with
    | nil => rfl
    | cons t ts => exact List.append_nil _
  | valueLimit | timeFrame | universalAction => rfl

theorem actions_eq (p : Policy) :
    p.actions = (p.descriptors.flatMap PolicyDescriptor.caps).flatMap TokenLimit.calls := by
  rw [caps_descriptors, List.flatMap_map]
  cases p <;> rfl

end Policy

/-! ### What a list of policies comes to -/

namespace Authority
variable {ps : List Policy} {a : Authority}

/-- What policies are compiled onto stands before what they contribute. -/
theorem foldl_add (ps : List Policy) (s : CompiledSession) :
    ps.foldl CompiledSession.add s = s.append (restricted ps).compile := by
  induction ps generalizing s with
  | nil => exact s.append_empty.symm
  | cons p ps ih => rw [List.foldl_cons, ih, CompiledSession.add, CompiledSession.append_assoc]; rfl

theorem compile_restricted (ps : List Policy) : (restricted ps).compile = ps.foldl CompiledSession.add .empty := by
  rw [foldl_add, CompiledSession.empty_append]

theorem compile_append (ps qs : List Policy) :
    (restricted (ps ++ qs)).compile = (restricted ps).compile.append (restricted qs).compile := by
  rw [compile_restricted, List.foldl_append, ← compile_restricted, foldl_add]

theorem kind_of_mem_compile {d : PolicyDescriptor} (h : d ∈ (restricted ps).compile.policies) :
    d.kind ≠ .unrestricted := by
  obtain ⟨p, -, hd⟩ := List.mem_flatMap.mp h
  exact Policy.kind_of_mem_descriptors hd

theorem isUnrestricted_iff : a.compile.isUnrestricted = true ↔ a = .unrestricted := by
  cases a with
  | unrestricted => exact iff_of_true rfl rfl
  | restricted ps =>
    refine iff_of_false (fun h => ?_) (fun h => by cases h)
    unfold CompiledSession.isUnrestricted at h
    split at h
    · rename_i d hd
      exact kind_of_mem_compile (hd ▸ List.mem_singleton_self d) (beq_iff_eq.mp h)
    · cases h

theorem caps_restricted (ps : List Policy) :
    (restricted ps).compile.caps = ps.flatMap fun p => p.descriptors.flatMap PolicyDescriptor.caps :=
  List.flatMap_assoc

theorem caps_compile (ps : List Policy) :
    (restricted ps).compile.caps = (ps.flatMap Policy.tokens).map TokenPolicy.toLimit := by
  rw [caps_restricted, List.map_flatMap]
  exact congrArg (ps.flatMap ·) (funext Policy.caps_descriptors)

theorem actions_compile (a : Authority) : a.compile.actions = a.compile.caps.flatMap TokenLimit.calls := by
  cases a with
  | unrestricted => rfl
  | restricted ps =>
    rw [caps_restricted, List.flatMap_assoc]
    exact congrArg (ps.flatMap ·) (funext Policy.actions_eq)

theorem exists_of_mem_caps {s : CompiledSession} {l : TokenLimit} (h : l ∈ s.caps) :
    ∃ limits, ⟨.spendingLimits, .spendingLimits limits⟩ ∈ s.policies ∧ l ∈ limits := by
  obtain ⟨d, hd, hl⟩ := List.mem_flatMap.mp h
  unfold PolicyDescriptor.caps at hl
  split at hl
  · exact ⟨_, hd, hl⟩
  · cases hl

/-- What it is for a session to grant no call without a cap. -/
structure Capped (a : Authority) : Prop where
  /-- A session may do anything exactly if nothing restricts it. -/
  unrestricted_iff : a.compile.isUnrestricted = true ↔ a = .unrestricted
  /-- No policy among others lifts the restrictions. -/
  kinds : ∀ ps, a = .restricted ps → ∀ d ∈ a.compile.policies, d.kind ≠ .unrestricted
  /-- More policies add at the end what they come to by themselves. -/
  append : ∀ ps qs, a = .restricted ps →
    (restricted (ps ++ qs)).compile.policies = a.compile.policies ++ (restricted qs).compile.policies ∧
      (restricted (ps ++ qs)).compile.actions = a.compile.actions ++ (restricted qs).compile.actions
  /-- A call is one of three functions of a token that has a cap in a policy that is sent along. -/
  capped : ∀ x ∈ a.compile.actions, x.selector ∈ [Selector.transfer, .transferFrom, .balanceOf] ∧
    ∃ limits, ⟨.spendingLimits, .spendingLimits limits⟩ ∈ a.compile.policies ∧ ∃ l ∈ limits, l.token = x.target
  /-- The calls are the three functions for each cap, cap by cap and nothing else. -/
  calls : a.compile.actions = a.compile.caps.flatMap TokenLimit.calls
  /-- Every token is capped as often as a policy says. -/
  caps : ∀ ps, a = .restricted ps → a.compile.caps = (ps.flatMap Policy.tokens).map TokenPolicy.toLimit

/-- Whatever is compiled grants no call without a cap. -/
theorem compile_capped (a : Authority) : a.Capped := by
  refine ⟨isUnrestricted_iff, ?_, ?_, fun x hx => ?_, a.actions_compile, ?_⟩
  · rintro ps rfl d hd
    exact kind_of_mem_compile hd
  · rintro ps qs rfl
    rw [compile_append]
    exact ⟨rfl, rfl⟩
  · rw [actions_compile] at hx
    obtain ⟨l, hl, hx⟩ := List.mem_flatMap.mp hx
    obtain ⟨limits, hpolicy, hlimits⟩ := exists_of_mem_caps hl
    simp only [TokenLimit.calls, List.mem_cons, List.not_mem_nil, or_false] at hx
    rcases hx with rfl | rfl | rfl <;> exact ⟨by simp, limits, hpolicy, l, hlimits, rfl⟩
  · rintro ps rfl
    exact caps_compile ps

end Authority
end PasskeySession
