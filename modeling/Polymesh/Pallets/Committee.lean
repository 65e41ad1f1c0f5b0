import Polymesh.Governance.Storage

/-!
# The committee pallet

Members propose motions and vote on them (`pallets/committee/src/lib.rs`). A motion that passes is
run with the origin of the committee, in the middle of the vote or of the change of members that
made it pass. How a motion is run is a parameter.
-/

namespace Polymesh

open Transactional Tx SortedLists

namespace Governance.Committee

/-- The largest number of motions. -/
def proposalsMax : ℕ := 500

/-- Unchecked multiplication of 32-bit numbers. -/
def wrapMul (a b : ℕ) : ℕ := a * b % 2 ^ 32

def ensureDidIsMember (who : IdentityId) (s : Storage) : Except Error Unit :=
  ensure (binarySearch place s.committee.members (place who)).isOk .notAMember

def ensureIsMember (env : Env) (origin : Origin) (s : Storage) : Except Error IdentityId := do
  let did ← env.ensurePerms origin
  ensureDidIsMember did s
  return did

def isThresholdSatisfied (votes total : ℕ) (threshold : ℕ × ℕ) : Bool :=
  wrapMul threshold.1 total ≤ wrapMul votes threshold.2

/-! ## Votes -/

variable (id : IdentityId) (proposal : Hash)

/-- The list without the vote of a member, if it is there. -/
def withoutVote (votes : List IdentityId) : Option (List IdentityId) :=
  (votes.idxOf? id).map (swapRemove votes)

/-- The votes without that of a member, if they have one. -/
def retract (v : PolymeshVotes) : Option PolymeshVotes :=
  match withoutVote id v.ayes with
  | some ayes => some { v with ayes }
  | none => (withoutVote id v.nays).map fun nays => { v with nays }

/-- The votes with that of a member, who may have voted otherwise before. -/
def castVote (did : IdentityId) (approve : Bool) (v : PolymeshVotes) : PolymeshVotes :=
  if approve then
    { v with ayes := v.ayes ++ [did], nays := (withoutVote did v.nays).getD v.nays }
  else { v with nays := v.nays ++ [did], ayes := (withoutVote did v.ayes).getD v.ayes }

def setVoting (v : Option PolymeshVotes) : Storage → Storage :=
  Storage.mapCommittee fun c => { c with voting := Function.update c.voting proposal v }

/-- Remove the vote of a member from a motion, and say whether there was one. -/
def removeVoteFrom (s : Storage) : Bool × Storage :=
  match (s.committee.voting proposal).bind (retract id) with
  | some v => (true, setVoting proposal (some v) s)
  | none => (false, s)

/-- Remove the vote of the first of the members that has one. -/
def removeAnyVoteFrom (proposal : Hash) : List IdentityId → Storage → Bool × Storage
  | [], s => (false, s)
  | id :: ids, s =>
    let r := removeVoteFrom id proposal s
    if r.1 then r else removeAnyVoteFrom proposal ids s

/-! ## Motions -/

def setProposalOf (call : Option Call) : Storage → Storage :=
  Storage.mapCommittee fun c => { c with proposalOf := Function.update c.proposalOf proposal call }

def clearProposal : Storage → Storage :=
  Storage.mapCommittee fun c =>
    { c with
      voting := Function.update c.voting proposal none
      proposals := c.proposals.filter (· ≠ proposal) }

def expired (expiry : Option BlockNumber) (s : Storage) : Prop := ∃ e ∈ expiry, e ≤ s.blockNumber

instance (expiry : Option BlockNumber) (s : Storage) : Decidable (expired expiry s) :=
  match expiry with
  | none => isFalse (by simp [expired])
  | some e => decidable_of_iff (e ≤ s.blockNumber) (by simp [expired])

/-- A motion that has expired is pruned, and what was to be done with it fails. -/
def ensureNotExpired (expiry : Option BlockNumber) : Dispatch Unit := fun s =>
  if expired expiry s then
    (.error .proposalExpired, setProposalOf proposal none (clearProposal proposal s))
  else (.ok (), s)

section Execution

variable (execute : Call → Dispatch Unit)

/-- Run a motion, whether or not it succeeds. -/
def runMotion (call : Call) : Dispatch Unit := do
  let _ ← attempt (transaction (execute call))
  return ()

/-- Run a motion, assuming it exists. -/
def runIfExists : Option Call → Dispatch Unit
  | some call => runMotion execute call
  | none => pure ()

/-- Note the votes by which a motion is decided. -/
def noteFinalVotes (approved : Bool) (proposal : Hash) : Storage → Storage :=
  Storage.mapCommittee fun c =>
    { c with
      finalVotes := c.finalVotes ++ (c.voting proposal).toList.map fun v =>
        ⟨proposal, approved, v.ayes, v.nays, c.members⟩ }

def finalizeProposal (approved : Bool) (proposal : Hash) : Dispatch Unit := do
  Tx.modify (noteFinalVotes approved proposal)
  let s ← get
  Tx.modify (setProposalOf proposal none)
  onlyIf approved (runIfExists execute (s.committee.proposalOf proposal))
  Tx.modify (clearProposal proposal)

/-- Whether the votes of one side settle the motion. -/
def satisfied (main other : List IdentityId) (s : Storage) : Bool :=
  other.length ≤ main.length &&
    isThresholdSatisfied main.length s.committee.members.length s.committee.voteThreshold

def executeIfPassed (proposal : Hash) : Dispatch Unit := do
  let s ← get
  match s.committee.voting proposal with
  | none => pure ()
  | some v =>
    match ← attempt (ensureNotExpired proposal v.expiry) with
    | .error _ => pure ()
    | .ok _ =>
      let approved := satisfied v.ayes v.nays s
      let rejected := satisfied v.nays v.ayes s
      onlyIf (approved ∨ rejected) (finalizeProposal execute approved proposal)

def vote (env : Env) (origin : Origin) (proposal : Hash) (index : ℕ) (approve : Bool) :
    Dispatch Unit := do
  let did ← Tx.read (ensureIsMember env origin)
  let s ← get
  let v ← Tx.read fun _ => okOr (s.committee.voting proposal) .noSuchProposal
  Tx.ensure (v.index = index) .mismatchedVotingIndex
  ensureNotExpired proposal v.expiry
  Tx.ensure (did ∉ if approve then v.ayes else v.nays) .duplicateVote
  Tx.modify (setVoting proposal (some (castVote did approve v)))
  executeIfPassed execute proposal

/-- Write a new motion, with the vote of its proposer. -/
def insertProposal (proposal : Hash) (call : Call) (did : IdentityId) (s : Storage) : Storage :=
  s.mapCommittee fun c =>
    { c with
      proposalCount := c.proposalCount + 1
      proposals := c.proposals ++ [proposal]
      proposalOf := Function.update c.proposalOf proposal (some call)
      voting := Function.update c.voting proposal (some
        { index := c.proposalCount
          ayes := [did]
          nays := []
          expiry := c.expiresAfter.map (· + s.blockNumber) }) }

def propose (env : Env) (origin : Origin) (call : Call) : Dispatch Unit := do
  let did ← Tx.read (ensureIsMember env origin)
  let s ← get
  Tx.ensure (s.committee.proposalCount < proposalsMax) .proposalsLimitReached
  let proposal := env.hashOf call
  Tx.ensure (s.committee.proposalOf proposal).isNone .duplicateProposal
  if s.committee.members.length < 2 then runMotion execute call
  else Tx.modify (insertProposal proposal call did)

def voteOrPropose (env : Env) (origin : Origin) (approve : Bool) (call : Call) :
    Dispatch Unit := do
  let s ← get
  match s.committee.voting (env.hashOf call) with
  | some v => vote execute env origin (env.hashOf call) v.index approve
  | none => if approve then propose execute env origin call else fail .firstVoteReject

/-! ## Changes of members -/

/-- Remove the votes of outgoing members from a motion; if there was one, see whether the motion
passes. -/
def retractVotes (outgoing : List IdentityId) (proposal : Hash) : Dispatch Unit := do
  let s ← get
  let r := removeAnyVoteFrom proposal outgoing s
  Tx.modify fun _ => r.2
  onlyIf r.1 (executeIfPassed execute proposal)

def putMembers (members : List IdentityId) : Storage → Storage :=
  Storage.mapCommittee fun c => { c with members }

/-- A release coordinator who leaves is one no more. -/
def releaseOutgoing (outgoing : List IdentityId) : Storage → Storage :=
  Storage.mapCommittee fun c =>
    { c with releaseCoordinator := c.releaseCoordinator.filter (· ∉ outgoing) }

def changeMembersSorted (_incoming outgoing new : List IdentityId) : Dispatch Unit := do
  Tx.modify (putMembers new)
  let s ← get
  forM s.committee.proposals (retractVotes execute outgoing)
  Tx.modify (releaseOutgoing outgoing)

end Execution

/-! ## Settings -/

def setVoteThreshold (n d : ℕ) : Dispatch Unit := do
  Tx.ensure (0 < d ∧ n ≤ d) .invalidProportion
  Tx.modify (Storage.mapCommittee fun c => { c with voteThreshold := (n, d) })

def setReleaseCoordinator : Dispatch Unit := do
  Tx.read (ensureDidIsMember id)
  Tx.modify (Storage.mapCommittee fun c => { c with releaseCoordinator := some id })

def setExpiresAfter (expiry : Option BlockNumber) : Dispatch Unit :=
  Tx.modify (Storage.mapCommittee fun c => { c with expiresAfter := expiry })

end Governance.Committee

end Polymesh
