import Polymesh.Governance.Storage

/-!
# The group pallet

Active members are kept as a sorted list of identities, and members that were disabled as a list of
records that is sorted by identity (`pallets/group/src/lib.rs`). Whoever is to know of a change of
the active members is told of it in the middle of the change; what it does is a parameter.
-/

namespace Polymesh

open Transactional Tx SortedLists

namespace Governance.Group

/-- The largest limit on the number of active members. -/
def committeeMembersMax : ℕ := 500

def isMemberExpired (member : InactiveMember) (now : Moment) : Bool :=
  match member.expiry with
  | some expiry => expiry ≤ now
  | none => false

def isMember (did : IdentityId) (s : Storage) : Bool := did ∈ s.group.activeMembers

def searchActive (who : IdentityId) (s : Storage) : Except ℕ ℕ :=
  binarySearch place s.group.activeMembers (place who)

def searchInactive (who : IdentityId) (members : List InactiveMember) : Except ℕ ℕ :=
  binarySearch (fun m => place m.id) members (place who)

def putActive (members : List IdentityId) : Storage → Storage :=
  Storage.mapGroup fun g => { g with activeMembers := members }

def putInactive (members : List InactiveMember) : Storage → Storage :=
  Storage.mapGroup fun g => { g with inactiveMembers := members }

def ensureWithinActiveMembersLimit (members : List IdentityId) (s : Storage) :
    Except Error Unit :=
  ensure (members.length ≤ s.group.activeMembersLimit) .activeMembersLimitExceeded

/-- Whoever has to be told of a change: the incoming and the outgoing members, and all of them. -/
abbrev MembershipChanged := List IdentityId → List IdentityId → List IdentityId → Dispatch Unit

section Changes

variable (changed : MembershipChanged)

def addMember (who : IdentityId) : Dispatch Unit := do
  let s ← get
  match searchActive who s with
  | .ok _ => fail .duplicateMember
  | .error location =>
    let members := s.group.activeMembers.insertIdx location who
    Tx.read (ensureWithinActiveMembersLimit members)
    Tx.modify (putActive members)
    changed [who] [] members

def baseRemoveActiveMember (who : IdentityId) : Dispatch Unit := do
  let s ← get
  match searchActive who s with
  | .error _ => fail .noSuchMember
  | .ok location =>
    let members := s.group.activeMembers.eraseIdx location
    Tx.modify (putActive members)
    changed [] [who] members

def baseRemoveInactiveMember (env : Env) (who : IdentityId) : Dispatch Unit := do
  let s ← get
  match searchInactive who s.group.inactiveMembers with
  | .error _ => fail .noSuchMember
  | .ok position =>
    Tx.modify (putInactive (swapRemove s.group.inactiveMembers position))
    Tx.ensure env.currentIdentity.isSome .missingCurrentIdentity

/-- Remove an active member, or else an inactive one. An active member that is not found has left
nothing behind. -/
def baseRemoveMember (env : Env) (who : IdentityId) : Dispatch Unit := do
  let s ← get
  match searchActive who s with
  | .ok _ => baseRemoveActiveMember changed who
  | .error _ => baseRemoveInactiveMember env who

/-- The list with the record of an inactive member, in the place of an earlier one. -/
def updateInactive (member : InactiveMember) (members : List InactiveMember) :
    List InactiveMember :=
  match searchInactive member.id members with
  | .ok idx => members.set idx member
  | .error _ => sortOn (fun m => place m.id) (members ++ [member])

/-- The inactive members when one more is disabled. Those that have expired are removed. -/
def disabled (member : InactiveMember) (now : Moment) (members : List InactiveMember) :
    List InactiveMember :=
  updateInactive member (members.filter (!isMemberExpired · now))

def disableMember (who : IdentityId) (expiry deactivation : Option Moment) : Dispatch Unit := do
  baseRemoveActiveMember changed who
  Tx.modify fun s =>
    let member : InactiveMember := ⟨who, deactivation.getD s.now, expiry⟩
    putInactive (disabled member s.now s.group.inactiveMembers) s

def swapMember (remove add : IdentityId) : Dispatch Unit :=
  onlyIf (remove ≠ add) do
    let s ← get
    match searchActive remove s with
    | .error _ => fail .noSuchMember
    | .ok location =>
      match searchActive add s with
      | .ok _ => fail .duplicateMember
      | .error _ =>
        let members := sortOn place (s.group.activeMembers.set location add)
        Tx.modify (putActive members)
        changed [add] [remove] members

/-- The members are written last: what whoever is told writes there is lost. -/
def resetMembers (env : Env) (members : List IdentityId) : Dispatch Unit := do
  Tx.read (ensureWithinActiveMembersLimit members)
  let s ← get
  let newMembers := sortOn place members
  let (incoming, outgoing) := env.membersDiff s.group.activeMembers newMembers
  changed incoming outgoing newMembers
  Tx.modify (putActive newMembers)

def abdicateMembership (env : Env) (origin : Origin) : Dispatch Unit := do
  let (who, removeId) ← Tx.read fun _ => env.ensureDid origin
  Tx.ensure (env.isPrimaryKey removeId who) .onlyPrimaryKeyAllowed
  let s ← get
  Tx.ensure (1 < s.group.activeMembers.length) .lastMemberCannotQuit
  match searchActive removeId s with
  | .error _ => fail .noSuchMember
  | .ok _ =>
    let members := s.group.activeMembers.filter (· ≠ removeId)
    Tx.modify (putActive members)
    changed [] [removeId] members

end Changes

def setActiveMembersLimit (limit : ℕ) : Dispatch Unit := do
  Tx.ensure (limit ≤ committeeMembersMax) .activeMembersLimitOverflow
  Tx.modify (Storage.mapGroup fun g => { g with activeMembersLimit := limit })

end Governance.Group

end Polymesh
