import PasskeySession.Backend.Error

/-! # Leases

An account has at most one pending session. Whoever is to have it takes a lease, which fills the slot of the
account until the same lease is given back. -/

namespace PasskeySession

/-- The right to the pending session of an account. Tokens have 64 bits and begin again after the last. -/
structure Lease where
  account : Account
  token : UInt64
  deriving DecidableEq

/-- The slots that are filled, with the token of the lease that fills each, and the next token. -/
structure Registry where
  slots : List (Account × UInt64)
  nextToken : UInt64
  /-- An account has one slot. -/
  distinct : (slots.map (·.1)).Nodup
  deriving DecidableEq

namespace Registry

def empty : Registry := ⟨[], 0, .nil⟩

def token? (r : Registry) (a : Account) : Option UInt64 := (r.slots.find? (·.1 = a)).map (·.2)

def isHeld (r : Registry) (a : Account) : Bool := (r.token? a).isSome

theorem not_mem_of_not_isHeld {r : Registry} {a : Account} (h : ¬ r.isHeld a) : a ∉ r.slots.map (·.1) := by
  simpa [isHeld, token?] using h

/-- Takes a lease on a free slot. A token is used up either way. -/
def acquire (r : Registry) (a : Account) : Except ClientError Lease × Registry :=
  if h : r.isHeld a then (.error (.pendingBusy a), { r with nextToken := r.nextToken + 1 })
  else (.ok ⟨a, r.nextToken⟩,
    ⟨(a, r.nextToken) :: r.slots, r.nextToken + 1, List.nodup_cons.mpr ⟨not_mem_of_not_isHeld h, r.distinct⟩⟩)

/-- Gives a lease back; a slot that another lease fills stays as it is. -/
def release (r : Registry) (lease : Lease) : Registry where
  slots := r.slots.filter fun s => s != (lease.account, lease.token)
  nextToken := r.nextToken
  distinct := r.distinct.sublist (List.filter_sublist.map _)

def release? (r : Registry) : Option Lease → Registry
  | none => r
  | some lease => r.release lease

end Registry
end PasskeySession
