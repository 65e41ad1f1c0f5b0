import Polymesh.Library.Runs
import Polymesh.Pallets.Committee
import Polymesh.Pallets.Group

/-!
# Runs of a group and its committee

Calls reach the two pallets from keys, from the root, and from motions that pass. A motion runs in
the middle of the call that made it pass, so that motions may run inside one another; how deep they
may do so is part of the step, and a motion beyond that depth fails.
-/

namespace Polymesh

open Transactional Tx SortedLists

namespace Governance

/-- Whoever is told that the members have changed. Providers of customer due diligence only have
claims added or revoked. -/
def membershipChanged (inst : Instance) (execute : Call → Dispatch Unit) :
    Group.MembershipChanged :=
  match inst with
  | .cddProviders => fun _ _ _ => pure ()
  | _ => Committee.changeMembersSorted execute

section Dispatch

variable (inst : Instance) (env : Env) (execute : Call → Dispatch Unit) (origin : Origin)

/-- Whether the origin is that of the committee itself. -/
def ensureCommittee : Dispatch Unit := Tx.ensure (origin = .endorsed) .badOrigin

mutual

/-- What a call runs, when motions are run as given. -/
def dispatchWith : Call → Dispatch Unit
  | .setActiveMembersLimit limit => do
    Tx.ensure (origin = .root) .badOrigin
    Group.setActiveMembersLimit limit
  | .disableMember who expiry deactivation => do
    Tx.ensure (inst.managed origin) .badOrigin
    Group.disableMember (membershipChanged inst execute) who expiry deactivation
  | .addMember who => do
    Tx.ensure (inst.managed origin) .badOrigin
    Group.addMember (membershipChanged inst execute) who
  | .removeMember who => do
    Tx.ensure (inst.managed origin) .badOrigin
    Group.baseRemoveMember (membershipChanged inst execute) env who
  | .swapMember remove add => do
    Tx.ensure (inst.managed origin) .badOrigin
    Group.swapMember (membershipChanged inst execute) remove add
  | .resetMembers members => do
    Tx.ensure (inst.reset origin) .badOrigin
    Group.resetMembers (membershipChanged inst execute) env members
  | .abdicateMembership => Group.abdicateMembership (membershipChanged inst execute) env origin
  | .setVoteThreshold n d => do
    ensureCommittee origin
    Committee.setVoteThreshold n d
  | .setReleaseCoordinator id => do
    ensureCommittee origin
    Committee.setReleaseCoordinator id
  | .setExpiresAfter expiry => do
    ensureCommittee origin
    Committee.setExpiresAfter expiry
  | .voteOrPropose approve call => Committee.voteOrPropose execute env origin approve call
  | .vote proposal index approve => Committee.vote execute env origin proposal index approve
  | .batch mode calls => dispatchBatch mode calls
  | .other number => Tx.ensure (env.otherSucceeds origin number) .other

/-- The calls of a batch, one after the other. -/
def dispatchBatch (mode : BatchMode) : List Call → Dispatch Unit
  | [] => pure ()
  | call :: calls => do
    match ← attempt (transaction (dispatchWith call)) with
    | .ok _ => dispatchBatch mode calls
    | .error e =>
      match mode with
      | .interrupted => pure ()
      | .atomic => fail e
      | .optimistic => dispatchBatch mode calls

end

end Dispatch

/-- Run a motion, with the origin of the committee. Motions run inside one another to the given
depth. -/
def executeMotion (inst : Instance) (env : Env) : ℕ → Call → Dispatch Unit
  | 0 => fun _ => fail .other
  | depth + 1 => dispatchWith inst env (executeMotion inst env depth) .endorsed

/-- What a call runs. -/
def dispatch (inst : Instance) (env : Env) (depth : ℕ) (origin : Origin) : Call → Dispatch Unit :=
  dispatchWith inst env (executeMotion inst env depth) origin

/-- What can happen next: a call, or a new block. -/
inductive Action
  | extrinsic (env : Env) (depth : ℕ) (origin : Origin) (call : Call)
  | nextBlock (elapsed : Moment)

/-- One step. A call that fails leaves everything as it was. -/
def step (inst : Instance) : Action → Storage → Storage
  | .extrinsic env depth origin call, s =>
    (transaction (dispatch inst env depth origin call) s).2
  | .nextBlock elapsed, s => { s with blockNumber := s.blockNumber + 1, now := s.now + elapsed }

/-- A chain that starts with the given members, a limit on their number and a threshold. -/
def genesis (members : List IdentityId) (limit : ℕ) (threshold : ℕ × ℕ) : Storage where
  group :=
    { activeMembers := sortOn place members
      inactiveMembers := []
      activeMembersLimit := limit }
  committee :=
    { proposals := []
      proposalOf := fun _ => none
      voting := fun _ => none
      proposalCount := 0
      members := sortOn place members
      voteThreshold := threshold
      releaseCoordinator := none
      expiresAfter := none
      finalVotes := [] }
  blockNumber := 0
  now := 0

/-- An environment to run the chain in: every key acts for the identity of the same number, and a
motion is known by a number in it. -/
def Env.consenting : Env where
  callPermissions account := some ⟨account.bytes⟩
  currentIdentityOr account := some ⟨account.bytes⟩
  isPrimaryKey _ _ := true
  currentIdentity := some ⟨0⟩
  hashOf
    | .addMember who => ⟨who.bytes⟩
    | .other number => ⟨Fin.ofNat _ number⟩
    | _ => ⟨0⟩
  membersDiff old new := (new.filter (· ∉ old), old.filter (· ∉ new))
  mem_outgoing hold hnew := by simpa using ⟨hold, hnew⟩
  otherSucceeds _ _ := true

/-- A call in that environment. -/
def Action.calls (origin : Origin) (call : Call) : Action :=
  .extrinsic .consenting 1 origin call

theorem step_of_ok {inst : Instance} {env : Env} {depth : ℕ} {origin : Origin} {call : Call}
    {s s' : Storage} (h : dispatch inst env depth origin call s = (.ok (), s')) :
    step inst (.extrinsic env depth origin call) s = s' := by
  simp only [step, Tx.transaction, h]

theorem step_extrinsic (inst : Instance) (env : Env) (depth : ℕ) (origin : Origin) (call : Call)
    (s : Storage) :
    step inst (.extrinsic env depth origin call) s = s ∨
      dispatch inst env depth origin call s =
        (.ok (), step inst (.extrinsic env depth origin call) s) := by
  simp only [step, Tx.transaction]
  rcases dispatch inst env depth origin call s with ⟨_ | u, s'⟩
  · exact .inl rfl
  · exact .inr rfl

end Governance

end Polymesh
