import PasskeySession.Policy.Authority

/-! # Compiled sessions

A session in the terms of the backend: policies with parameters, and the calls that are allowed at all. Each
policy contributes on its own, so a list of policies compiles to the contributions one after the other. -/

namespace PasskeySession

/-- The kind of a compiled policy. -/
inductive PolicyKind
  | unrestricted
  | spendingLimits
  | valueLimit
  | timeFrame
  | universalAction
  deriving DecidableEq, Repr

/-- The cap on one token, in base units. -/
structure TokenLimit where
  token : Address
  limit : BaseUnits
  deriving DecidableEq

/-- The parameters of a compiled policy. -/
inductive PolicyParams
  | none
  | spendingLimits (limits : List TokenLimit)
  | valueLimit (limit : BaseUnits)
  | timeFrame (validAfter validUntil : Int)
  deriving DecidableEq

/-- A compiled policy. -/
structure PolicyDescriptor where
  kind : PolicyKind
  params : PolicyParams
  deriving DecidableEq

/-- A function of a contract that a session may call. -/
structure ActionDescriptor where
  target : Address
  selector : Selector
  deriving DecidableEq

/-- A compiled session. -/
structure CompiledSession where
  policies : List PolicyDescriptor
  actions : List ActionDescriptor
  deriving DecidableEq

/-- A compiled session as it is sent. -/
structure SessionConfig where
  userOpPolicies : List PolicyDescriptor
  erc7739Policies : List PolicyDescriptor
  actions : List ActionDescriptor
  deriving DecidableEq

namespace Selector

def transfer : Selector := ⟨[0xa9, 0x05, 0x9c, 0xbb], rfl⟩

def transferFrom : Selector := ⟨[0x23, 0xb8, 0x72, 0xdd], rfl⟩

def balanceOf : Selector := ⟨[0x70, 0xa0, 0x82, 0x31], rfl⟩

/-- The functions of a token that a capped session may call. -/
def ofToken : List Selector := [transfer, transferFrom, balanceOf]

end Selector

namespace PolicyDescriptor

def unrestricted : PolicyDescriptor := ⟨.unrestricted, .none⟩

end PolicyDescriptor

namespace TokenPolicy

def toLimit (t : TokenPolicy) : TokenLimit := ⟨t.address, t.limitUnits⟩

def actions (t : TokenPolicy) : List ActionDescriptor := Selector.ofToken.map (⟨t.address, ·⟩)

end TokenPolicy

namespace Policy

/-- The compiled policies that a policy contributes: none for caps on no token and for a count of uses. -/
def descriptors : Policy → List PolicyDescriptor
  | .valueLimit wei => [⟨.valueLimit, .valueLimit wei⟩]
  | .spendingLimits [] => []
  | .spendingLimits tokens => [⟨.spendingLimits, .spendingLimits (tokens.map TokenPolicy.toLimit)⟩]
  | .timeFrame start stop => [⟨.timeFrame, .timeFrame start.seconds stop.seconds⟩]
  | .universalAction _ => []

/-- The calls that a policy allows: those on the tokens it caps. -/
def actions : Policy → List ActionDescriptor
  | .spendingLimits tokens => tokens.flatMap TokenPolicy.actions
  | _ => []

end Policy

namespace Authority

def compile : Authority → CompiledSession
  | .unrestricted => ⟨[.unrestricted], []⟩
  | .restricted policies => ⟨policies.flatMap Policy.descriptors, policies.flatMap Policy.actions⟩

end Authority

namespace PolicyForm

def compile (f : PolicyForm) : CompiledSession := f.authority.compile

end PolicyForm

namespace CompiledSession

/-- Whether the session may do anything: its one policy is of that kind. -/
def isUnrestricted (s : CompiledSession) : Bool :=
  match s.policies with
  | [p] => p.kind == .unrestricted
  | _ => false

def toConfig (s : CompiledSession) : SessionConfig := ⟨s.policies, [], s.actions⟩

end CompiledSession
end PasskeySession
