import PasskeySession.Backend.Error

/-! # The cache of sessions

The sessions of one account as the backend last told them. Only the answer to the call that was started last
counts; the answers to earlier calls change nothing. -/

namespace PasskeySession

/-- The sessions of an account. -/
structure SessionCache where
  account : Option Account
  /-- How many calls have been started. -/
  generation : Nat
  records : List SessionRecord
  loading : Bool
  error : Option ClientError

/-- A call for the sessions of an account. -/
structure Load where
  account : Account
  generation : Nat
  deriving DecidableEq

namespace SessionCache

def empty : SessionCache := ⟨none, 0, [], false, none⟩

/-- Turns to an account. The sessions of another one are forgotten. -/
def select (c : SessionCache) (a : Account) : SessionCache :=
  if c.account = some a then c else { c with account := some a, records := [], error := none }

def noAccount : ClientError := .invalidState "refresh sessions" "no account selected"

/-- Starts a call for the sessions of the account. -/
def start (c : SessionCache) : Except ClientError (Load × SessionCache) :=
  match c.account with
  | none => .error noAccount
  | some a => .ok (⟨a, c.generation + 1⟩, { c with generation := c.generation + 1, loading := true })

/-- Whether a call is the one that was started last. -/
def isLatest (c : SessionCache) (l : Load) : Bool := c.generation == l.generation && c.account == some l.account

/-- Takes the answer to a call in, and gives the result of the call. -/
def answered (c : SessionCache) (l : Load) (result : Except ClientError (List SessionRecord)) :
    Except ClientError (List SessionRecord) × SessionCache :=
  if c.isLatest l then
    match result with
    | .ok records => (.ok records, { c with loading := false, records, error := none })
    | .error e => (.error e, { c with loading := false, error := some e })
  else (.ok c.records, c)

/-- Forgets a call that is dropped before its answer. -/
def dropped (c : SessionCache) (l : Load) : SessionCache :=
  if c.generation = l.generation then { c with loading := false } else c

def find? (c : SessionCache) (permissionId : String) : Option SessionRecord :=
  c.records.find? (·.permissionId = permissionId)

end SessionCache
end PasskeySession
