import NxTutors.DemoAgent.Machine

/-!
# Conversation ownership

Exactly one agent owns a WhatsApp conversation at a time. Ownership is a row, checked on the
outbound path. `acquire` takes it, from an owner we may accept from; `transfer` hands it on,
to an owner we may hand to.
-/

namespace NxTutors.DemoAgent

/-- Who currently owns the conversation. -/
inductive Owner
  | leadIntake | tutorMatch | demoCommandCenter | onboarding | human | released
  deriving DecidableEq, Repr

/-- The name an owner is stored under. -/
def Owner.value : Owner → String
  | .leadIntake => "lead_intake_agent"
  | .tutorMatch => "tutor_match_meta"
  | .demoCommandCenter => "demo_command_center_agent"
  | .onboarding => "onboarding_agent"
  | .human => "human_operator"
  | .released => "released"

/-- This service. -/
def SELF : Owner := .demoCommandCenter

/-- Owners we may accept the conversation from. -/
def ACCEPT_FROM : List Owner := [.leadIntake, .released, .human]

/-- Owners we may hand the conversation to. -/
def TRANSFER_TO : List Owner := [.onboarding, .human, .released]

/-- How long a transfer is held before it lapses. -/
def DEFAULT_LEASE : Time := hour

/-- The current ownership record for one conversation. -/
structure Ownership where
  conversationRef : String
  owner : Owner
  since : Time
  /-- none means an indefinite hold -/
  leaseExpiresAt : Option Time := none
  /-- the previous owners, oldest first, at most eight -/
  previous : List Owner := []
  deriving DecidableEq, Repr

/-- An ownership rule was violated. -/
structure OwnershipError where
  reason : String
  deriving DecidableEq, Repr

namespace Ownership

def expired (o : Ownership) (now : Time) : Bool := o.leaseExpiresAt.any (· ≤ now)

def heldByUs (o : Ownership) (now : Time) : Bool := o.owner = SELF && !o.expired now

/-- The last `n` entries of a list, `l[-n:]`. -/
def lastOf {α : Type} (n : Nat) (l : List α) : List α := l.drop (l.length - n)

/-- `now + lease if lease else None`: a lease of no length is no lease. -/
def leaseFrom (now : Time) : Option Time → Option Time
  | none => none
  | some lease => if lease = 0 then none else some (now + lease)

/-- Take ownership. Idempotent when we already hold it. -/
def acquire (o : Ownership) (now : Time) (lease : Option Time) :
    Except OwnershipError Ownership :=
  if o.owner = SELF && !o.expired now then .ok o
  else if o.owner ∉ ACCEPT_FROM && o.owner ≠ SELF then
    .error ⟨"cannot take conversation from " ++ o.owner.value⟩
  else
    .ok { conversationRef := o.conversationRef, owner := SELF, since := now,
          leaseExpiresAt := leaseFrom now lease, previous := lastOf 8 (o.previous ++ [o.owner]) }

/-- Hand the conversation on. Only from us, only to an allowed owner. -/
def transfer (o : Ownership) (dest : Owner) (now : Time) (lease : Option Time) :
    Except OwnershipError Ownership :=
  if o.owner ≠ SELF then
    .error ⟨"cannot transfer a conversation owned by " ++ o.owner.value⟩
  else if dest ∉ TRANSFER_TO then .error ⟨"transfer to " ++ dest.value ++ " is not permitted"⟩
  else
    .ok { conversationRef := o.conversationRef, owner := dest, since := now,
          leaseExpiresAt := if dest = .released then none else leaseFrom now lease,
          previous := lastOf 8 (o.previous ++ [SELF]) }

/-- What the outbound boundary asks before every business message. -/
def assertMaySend (o : Ownership) (now : Time) : Except OwnershipError Unit :=
  if o.heldByUs now then .ok ()
  else .error ⟨"not the conversation owner (owner=" ++ o.owner.value ++ ", expired=" ++
    (if o.expired now then "True" else "False") ++ ")"⟩

/-- The starting record for a conversation nobody has claimed. -/
def unowned (conversationRef : String) (now : Time) : Ownership :=
  { conversationRef, owner := .released, since := now }

end Ownership

end NxTutors.DemoAgent
