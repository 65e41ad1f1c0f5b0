import Mathlib.Tactic.Simps.Basic
import Polymesh.Library.SortedLists
import Polymesh.Library.Transaction
import Polymesh.Primitives

/-!
# Storage of a committee and of its membership

A committee (`pallets/committee/src/lib.rs`) is told of its members by an instance of the group
pallet (`pallets/group/src/lib.rs`), and motions of the committee may change that group. The two are
one storage here, with the calls that a motion can make.

The identity pallet answers who signs for whom, and keeps the claims that members get; nothing of it
is stored here.
-/

namespace Polymesh

open Transactional

namespace Governance

structure Hash where
  bytes : Fin (2 ^ 256)
deriving DecidableEq

structure InactiveMember where
  id : IdentityId
  deactivatedAt : Moment
  expiry : Option Moment
deriving DecidableEq

/-- The place of an identity in the order of identities. -/
abbrev place (did : IdentityId) : ℕ := did.bytes.val

theorem place_injective : Function.Injective place := by
  intro a b h
  cases a
  cases b
  exact congrArg IdentityId.mk (Fin.val_injective h)

/-- What happens when a call of a batch fails. -/
inductive BatchMode
  | interrupted
  | atomic
  | optimistic
deriving DecidableEq

/-- The calls that concern a group and its committee. -/
inductive Call
  -- group
  | setActiveMembersLimit (limit : ℕ)
  | disableMember (who : IdentityId) (expiry deactivation : Option Moment)
  | addMember (who : IdentityId)
  | removeMember (who : IdentityId)
  | swapMember (remove add : IdentityId)
  | resetMembers (members : List IdentityId)
  | abdicateMembership
  -- committee
  | setVoteThreshold (n d : ℕ)
  | setReleaseCoordinator (id : IdentityId)
  | setExpiresAfter (expiry : Option BlockNumber)
  | voteOrPropose (approve : Bool) (call : Call)
  | vote (proposal : Hash) (index : ℕ) (approve : Bool)
  -- utility, and all other pallets
  | batch (mode : BatchMode) (calls : List Call)
  | other (number : ℕ)

structure PolymeshVotes where
  index : ℕ
  ayes : List IdentityId
  nays : List IdentityId
  expiry : Option BlockNumber
deriving DecidableEq

/-- What was decided on a motion: the events `Approved`, `Rejected` and `FinalVotes`, with the
members at the time. -/
structure FinalVotes where
  proposal : Hash
  approved : Bool
  ayes : List IdentityId
  nays : List IdentityId
  members : List IdentityId
deriving DecidableEq

structure GroupStorage where
  activeMembers : List IdentityId
  inactiveMembers : List InactiveMember
  activeMembersLimit : ℕ

structure CommitteeStorage where
  proposals : List Hash
  proposalOf : Hash → Option Call
  voting : Hash → Option PolymeshVotes
  proposalCount : ℕ
  members : List IdentityId
  voteThreshold : ℕ × ℕ
  releaseCoordinator : Option IdentityId
  expiresAfter : Option BlockNumber
  finalVotes : List FinalVotes

structure Storage where
  group : GroupStorage
  committee : CommitteeStorage
  blockNumber : BlockNumber
  now : Moment

@[simps] def Storage.mapGroup (g : GroupStorage → GroupStorage) (s : Storage) : Storage :=
  { s with group := g s.group }

@[simps] def Storage.mapCommittee (g : CommitteeStorage → CommitteeStorage) (s : Storage) :
    Storage :=
  { s with committee := g s.committee }

inductive Error
  | badOrigin
  -- group
  | onlyPrimaryKeyAllowed
  | duplicateMember
  | noSuchMember
  | lastMemberCannotQuit
  | missingCurrentIdentity
  | activeMembersLimitExceeded
  | activeMembersLimitOverflow
  -- committee
  | duplicateVote
  | notAMember
  | noSuchProposal
  | proposalExpired
  | duplicateProposal
  | mismatchedVotingIndex
  | invalidProportion
  | firstVoteReject
  | proposalsLimitReached
  -- any other
  | other
deriving DecidableEq

abbrev Dispatch (α : Type) := Tx Storage Error α

/-- Who calls: a key, the root, the committee by a motion, or the governance committee by one. -/
inductive Origin
  | signed (account : AccountId)
  | root
  | endorsed
  | governance
deriving DecidableEq

/-- The instances of the group pallet: the governance committee, a committee that manages its own
members, and the providers of customer due diligence, who are no committee. -/
inductive Instance
  | governanceCommittee
  | specialCommittee
  | cddProviders
deriving DecidableEq

namespace Instance

/-- From where members are added, removed and swapped. -/
def managed (inst : Instance) (origin : Origin) : Prop :=
  match inst with
  | .specialCommittee => origin = .endorsed
  | _ => origin = .root

/-- From where the members are reset. No committee resets its own. -/
def reset (inst : Instance) (origin : Origin) : Prop :=
  match inst with
  | .specialCommittee => origin = .governance
  | _ => origin = .root

instance (inst : Instance) (origin : Origin) : Decidable (inst.managed origin) :=
  match inst with
  | .specialCommittee => inferInstanceAs (Decidable (origin = .endorsed))
  | .governanceCommittee | .cddProviders => inferInstanceAs (Decidable (origin = .root))

instance (inst : Instance) (origin : Origin) : Decidable (inst.reset origin) :=
  match inst with
  | .specialCommittee => inferInstanceAs (Decidable (origin = .governance))
  | .governanceCommittee | .cddProviders => inferInstanceAs (Decidable (origin = .root))

theorem not_reset_endorsed (inst : Instance) : ¬ inst.reset .endorsed := by
  cases inst <;> simp [reset]

end Instance

/-- What the identity pallet and the calls of other pallets answer. -/
structure Env where
  /-- The identity for which a key may make the current call. -/
  callPermissions : AccountId → Option IdentityId
  /-- The identity that a key acts for in the current call. -/
  currentIdentityOr : AccountId → Option IdentityId
  isPrimaryKey : IdentityId → AccountId → Bool
  /-- The identity of the current call, if there is one. -/
  currentIdentity : Option IdentityId
  hashOf : Call → Hash
  /-- `compute_members_diff_sorted`, which is not part of the repository: who is new, and who is
  outgoing. -/
  membersDiff : List IdentityId → List IdentityId → List IdentityId × List IdentityId
  /-- Who is left out is outgoing. -/
  mem_outgoing {old new : List IdentityId} {id : IdentityId} (hold : id ∈ old) (hnew : id ∉ new) :
    id ∈ (membersDiff old new).2
  /-- Whether a call of another pallet succeeds. -/
  otherSucceeds : Origin → ℕ → Bool

namespace Env

variable (env : Env)

def ensurePerms (origin : Origin) : Except Error IdentityId :=
  match origin with
  | .signed account => okOr (env.callPermissions account) .other
  | _ => .error .badOrigin

def ensureDid (origin : Origin) : Except Error (AccountId × IdentityId) :=
  match origin with
  | .signed account => (account, ·) <$> okOr (env.currentIdentityOr account) .other
  | _ => .error .badOrigin

end Env

end Governance

end Polymesh
