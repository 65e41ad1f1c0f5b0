import Mathlib.Data.List.AList
import Polymesh.Pallets.Locks

/-!
# The PIPs pallet

Improvement proposals are made by a committee, or by anyone with a deposit; on the latter everybody
can vote with a deposit (`pallets/pips/src/lib.rs`). The votes decide a place in a queue, from which
the governance committee takes a snapshot to approve, reject or skip proposals from the top. What is
approved is scheduled, and dispatched by a task of the scheduler; what is pending for too long
expires, by another. Deposits are locked, and released when a proposal is closed.

A dispatched proposal succeeds or fails as the environment says, and may call the pallet in turn.
Deposits, refunds and dispatches are noted in a history that no function reads.
-/

namespace Polymesh

open Transactional Tx Currency
open Tx (ensure read)

namespace Pips

/-! ## Storage -/

structure PipId where
  number : Fin (2 ^ 32)
deriving DecidableEq, Fintype

inductive Committee
  | technical
  | upgrade
deriving DecidableEq

inductive Proposer
  | community (proposer : AccountId)
  | committee (committee : Committee)
deriving DecidableEq

/-- A call of another pallet. -/
structure Proposal where
  number : ℕ
deriving DecidableEq

structure Pip where
  id : PipId
  proposal : Proposal
  proposer : Proposer
deriving DecidableEq

structure VotingResult where
  ayesCount : ℕ
  ayesStake : ℕ
  naysCount : ℕ
  naysStake : ℕ
deriving DecidableEq

def VotingResult.default : VotingResult := ⟨0, 0, 0, 0⟩

/-- A vote for or against a proposal, and its weight. -/
structure Vote where
  direction : Bool
  stake : ℕ
deriving DecidableEq

inductive ProposalState
  | pending
  | rejected
  | scheduled
  | failed
  | executed
  | expired
deriving DecidableEq

structure DepositInfo where
  owner : AccountId
  amount : ℕ
deriving DecidableEq

/-- A proposal in a queue. The flag of the weight is its sign, and set if it is not negative. -/
structure SnapshottedPip where
  id : PipId
  weight : Bool × ℕ
deriving DecidableEq

structure SnapshotMetadata where
  createdAt : BlockNumber
  madeBy : AccountId
  id : ℕ
deriving DecidableEq

inductive SnapshotResult
  | approve
  | reject
  | skip
deriving DecidableEq

inductive Error
  | badOrigin
  | unauthorizedCaller
  | missingCurrentIdentity
  | tooLong
  | counterOverflow
  | chargeFailed
  | insufficientDeposit
  | lockOverflow
  | insufficientBalance
  | rescheduleNotByReleaseCoordinator
  | notFromCommunity
  | notByCommittee
  | tooManyActivePips
  | incorrectDeposit
  | noSuchProposal
  | notACommitteeMember
  | invalidFutureBlockNumber
  | numberOfVotesExceeded
  | stakeAmountOfVotesExceeded
  | incorrectProposalState
  | cannotSkipPip
  | snapshotResultTooLarge
  | snapshotIdMismatch
  | scheduledProposalDoesntExist
  | proposalNotInScheduledState
  /-- The deposit of a closed proposal is not locked: the code panics. -/
  | refundUnwrap
  /-- A new proposal is in the queue: the code panics. -/
  | queueUnwrapErr
deriving DecidableEq

/-- What the maps of the pallet hold under one id. -/
structure PipStorage where
  /-- `Deposits`. -/
  deposits : AList fun _ : AccountId => DepositInfo
  /-- `Proposals`. -/
  proposal : Option Pip
  /-- `ProposalResult`. -/
  result : VotingResult
  /-- `ProposalVotes`. -/
  votes : AList fun _ : AccountId => Vote
  /-- `PipToSchedule`. -/
  schedule : Option BlockNumber
  /-- `PipSkipCount`. -/
  skipCount : ℕ
  /-- `ProposalStates`. -/
  state : Option ProposalState

def PipStorage.empty : PipStorage := ⟨∅, none, .default, ∅, none, 0, none⟩

/-- What an account has deposited for the proposal. -/
def PipStorage.depositOf (p : PipStorage) (who : AccountId) : ℕ :=
  (p.deposits.lookup who).elim 0 (·.amount)

/-- What is noted of a proposal. -/
inductive Event
  | deposited (id : PipId) (who : AccountId) (amount : ℕ)
  | refunded (id : PipId) (who : AccountId) (amount : ℕ)
  | dispatched (id : PipId)
deriving DecidableEq

structure Storage where
  pruneHistoricalPips : Bool
  minimumProposalDeposit : ℕ
  defaultEnactmentPeriod : BlockNumber
  maxPipSkipCount : ℕ
  activePipLimit : ℕ
  pipIdSequence : PipId
  snapshotIdSequence : ℕ
  activePipCount : ℕ
  pips : PipId → PipStorage
  liveQueue : List SnapshottedPip
  snapshotQueue : List SnapshottedPip
  snapshotMeta : Option SnapshotMetadata
  committeePips : List PipId
  locks : AccountId → List NamedLock
  history : List Event

inductive Origin
  | signed (sender : AccountId)
  | root
  | collective (number : ℕ)
deriving DecidableEq

/-- What the configuration, the chain and other pallets answer. -/
structure Env where
  technicalCommitteeVMO : Origin → Bool
  upgradeCommitteeVMO : Origin → Bool
  votingMajorityOrigin : Origin → Bool
  /-- The primary identity of a key that may make the call. -/
  ensureCallPermissions : AccountId → Option IdentityId
  currentIdentity : Option IdentityId
  releaseCoordinator : Option IdentityId
  isMember : IdentityId → Bool
  /-- Whether the url and the description are short enough. -/
  stringsLimited : Bool
  chargesFee : Bool
  freeBalance : AccountId → ℕ
  blockNumber : BlockNumber
  /-- Whether a proposal succeeds when it is dispatched. -/
  dispatches : Proposal → Bool

abbrev Dispatch (α : Type) := Tx Storage Error α

def pipsLockId : LockIdentifier := ⟨0x7069707320202020⟩

namespace Storage

/-- Change what is stored under an id. -/
def mapPip (id : PipId) (f : PipStorage → PipStorage) (s : Storage) : Storage :=
  { s with pips := Function.update s.pips id (f (s.pips id)) }

/-- Note an event. -/
def note (event : Event) (s : Storage) : Storage := { s with history := s.history ++ [event] }

def putLocks (who : AccountId) (locks : List NamedLock) (s : Storage) : Storage :=
  { s with locks := Function.update s.locks who locks }

end Storage

/-! ## Origins -/

def ensureRoot : Origin → Except Error Unit
  | .root => .ok ()
  | _ => .error .badOrigin

section Origins

variable (env : Env)

/-- `VotingMajorityOrigin::ensure_origin`. -/
def ensureVotingMajority (origin : Origin) : Except Error Unit :=
  ensure (env.votingMajorityOrigin origin) .badOrigin

/-- The signer of a call and its identity. -/
def ensureOriginCallPermissions : Origin → Except Error (AccountId × IdentityId)
  | .signed sender => do
    let did ← okOr (env.ensureCallPermissions sender) .unauthorizedCaller
    return (sender, did)
  | _ => .error .badOrigin

/-- The committee that an origin stands for. -/
def committeeOf (origin : Origin) : Except Error Committee :=
  if env.technicalCommitteeVMO origin then .ok .technical
  else if env.upgradeCommitteeVMO origin then .ok .upgrade
  else .error .badOrigin

/-- The proposer that an origin stands for: whoever has signed it, or a committee. -/
def ensureInferProposer (origin : Origin) : Except Error Proposer :=
  match origin with
  | .signed sender => do
    let _ ← okOr (env.ensureCallPermissions sender) .unauthorizedCaller
    return .community sender
  | _ => do
    let committee ← committeeOf env origin
    let _ ← okOr env.currentIdentity .missingCurrentIdentity
    return .committee committee

end Origins

/-! ## Locks -/

/-- What is locked for all proposals together may not exceed the free balance. -/
def increaseLock (env : Env) (who : AccountId) (amount : ℕ) : Dispatch Unit := do
  let locks ← read fun s => Currency.increaseLock .lockOverflow pipsLockId amount .all
    (fun sum => ensure (sum ≤ env.freeBalance who) .insufficientDeposit) (s.locks who)
  Tx.modify (Storage.putLocks who locks)

variable (origin : Origin) (id : PipId) (who : AccountId) (state : ProposalState) (s : Storage)

def reduceLock (amount : ℕ) : Dispatch Unit := do
  let locks ← read fun s =>
    (Currency.reduceLock pipsLockId amount (s.locks who)).mapError fun _ => .insufficientBalance
  Tx.modify (Storage.putLocks who locks)

/-! ## Votes -/

/-- Take an earlier vote off the result. The arithmetic is not checked. -/
def VotingResult.withdraw (vote : Vote) (stats : VotingResult) : VotingResult :=
  if vote.direction then
    { stats with
      ayesCount := wrapSub 32 stats.ayesCount 1
      ayesStake := wrapSub 128 stats.ayesStake vote.stake }
  else
    { stats with
      naysCount := wrapSub 32 stats.naysCount 1
      naysStake := wrapSub 128 stats.naysStake vote.stake }

/-- Add a vote to the result. -/
def VotingResult.cast (vote : Vote) (stats : VotingResult) : Except Error VotingResult :=
  if vote.direction then do
    let ayesCount ← okOr (checkedAdd 32 stats.ayesCount 1) .numberOfVotesExceeded
    let ayesStake ← okOr (checkedAdd 128 stats.ayesStake vote.stake) .stakeAmountOfVotesExceeded
    return { stats with ayesCount, ayesStake }
  else do
    let naysCount ← okOr (checkedAdd 32 stats.naysCount 1) .numberOfVotesExceeded
    let naysStake ← okOr (checkedAdd 128 stats.naysStake vote.stake) .stakeAmountOfVotesExceeded
    return { stats with naysCount, naysStake }

/-- The result with the vote of an account changed. -/
def PipStorage.revote (voter : AccountId) (vote : Vote) (p : PipStorage) :
    Except Error VotingResult :=
  match p.votes.lookup voter with
  | some old => (p.result.withdraw old).cast vote
  | none => p.result.cast vote

def unsafeVote (voter : AccountId) (vote : Vote) : Dispatch Unit := do
  let stats ← read fun s => (s.pips id).revote voter vote
  Tx.modify (Storage.mapPip id fun p => { p with
    result := stats
    votes := p.votes.insert voter vote })

/-- Record a deposit. -/
def putDeposit (amount : ℕ) (s : Storage) : Storage :=
  (s.mapPip id fun p => { p with deposits := p.deposits.insert who ⟨who, amount⟩ }).note
    (.deposited id who amount)

/-! ## The queue -/

def VotingResult.weight (stats : VotingResult) : Bool × ℕ :=
  if stats.naysStake ≤ stats.ayesStake then (true, stats.ayesStake - stats.naysStake)
  else (false, stats.naysStake - stats.ayesStake)

def aggregateResult : SnapshottedPip := ⟨id, (s.pips id).result.weight⟩

/-- The order of a queue, with the highest priority last. A negative weight comes before every other,
and of two proposals with one weight the later one comes first. -/
def compareSpip (l r : SnapshottedPip) : Ordering :=
  (compare l.weight.1 r.weight.1).then
    ((if l.weight.1 then compare l.weight.2 r.weight.2 else compare r.weight.2 l.weight.2).then
      (compare r.id.number l.id.number))

/-- The place of a proposal in the order as a number. -/
def priority (p : SnapshottedPip) : ℤ :=
  (if p.weight.1 then (p.weight.2 : ℤ) else -(p.weight.2 : ℤ) - 1) * 2 ^ 32 - p.id.number.val

/-- Binary search by `compareSpip`, which is the order of `priority`. -/
def searchQueue (queue : List SnapshottedPip) (p : SnapshottedPip) : Except ℕ ℕ :=
  SortedLists.binarySearch priority queue (priority p)

/-- The queue with one entry moved. An entry that is not found is not removed, and one that is found
is not inserted again. -/
def moveEntry (old new : SnapshottedPip) (queue : List SnapshottedPip) : List SnapshottedPip :=
  let queue := match searchQueue queue old with
    | .ok pos => queue.eraseIdx pos
    | .error _ => queue
  match searchQueue queue new with
  | .ok _ => queue
  | .error pos => queue.insertIdx pos new

def adjustLiveQueue (old : SnapshottedPip) (s : Storage) : Storage :=
  { s with liveQueue := moveEntry old (aggregateResult id s) s.liveQueue }

def insertLiveQueue : Dispatch Unit := do
  let s ← get
  let new := aggregateResult id s
  match searchQueue s.liveQueue new with
  | .ok _ => Tx.fail .queueUnwrapErr
  | .error pos => Tx.modify fun s => { s with liveQueue := s.liveQueue.insertIdx pos new }

/-! ## States -/

def isActive : Bool := state = .pending ∨ state = .scheduled

def isProposalState : Except Error Unit := do
  let proposalState ← okOr (s.pips id).state .noSuchProposal
  ensure (proposalState = state) .incorrectProposalState

def decrementCountIfActive : Storage :=
  if isActive state then { s with activePipCount := s.activePipCount - 1 } else s

def updateProposalState (newState : ProposalState) (s : Storage) : Storage :=
  match (s.pips id).state with
  | some state =>
    (if isActive newState then s else decrementCountIfActive state s).mapPip id
      fun p => { p with state := some newState }
  | none => s

/-- Release one deposit. -/
def refundDeposit (info : DepositInfo) : Dispatch Unit := do
  orError (reduceLock info.owner info.amount) .refundUnwrap
  Tx.modify (Storage.note (.refunded id info.owner info.amount))

/-- Release all deposits for a proposal. -/
def refundProposal : Dispatch Unit := do
  let s ← get
  forM ((s.pips id).deposits.entries.map (·.2)) (refundDeposit id)
  Tx.modify (Storage.mapPip id fun p => { p with deposits := ∅ })

/-- Whether a stored proposal is by a committee. -/
def PipStorage.byCommittee (p : PipStorage) : Bool :=
  match p.proposal with
  | some ⟨_, _, .committee _⟩ => true
  | _ => false

/-- Remove what is stored of a proposal, save when it is scheduled for. -/
def removePip : Storage :=
  { s with
    committeePips :=
      if (s.pips id).byCommittee then s.committeePips.filter (· ≠ id) else s.committeePips
    pips := Function.update s.pips id
      { s.pips id with
        result := .default
        votes := ∅
        proposal := none
        skipCount := 0
        state := none } }

def pruneData (prune : Bool) : Dispatch Unit := do
  refundProposal id
  Tx.modify (decrementCountIfActive state)
  onlyIf prune (Tx.modify (removePip id))

def maybePrune (newState : ProposalState) : Dispatch Unit := do
  Tx.modify (updateProposalState id newState)
  let s ← get
  pruneData id newState s.pruneHistoricalPips

def unsafeRejectProposal : Dispatch Unit := maybePrune id .rejected

/-- The enactment period is one block at least. -/
def enactmentBlock (env : Env) (s : Storage) : BlockNumber :=
  saturatingAdd 32 (max s.defaultEnactmentPeriod 1) env.blockNumber

def schedulePipForExecution (env : Env) (id : PipId) (s : Storage) : Storage :=
  updateProposalState id .scheduled
    (s.mapPip id fun p => { p with schedule := some (enactmentBlock env s) })

def maybeUnschedulePip : Storage :=
  if state = .scheduled then s.mapPip id fun p => { p with schedule := none } else s

def maybeUnsnapshotPip : Storage :=
  if state = .pending then
    { s with
      liveQueue := s.liveQueue.filter (·.id ≠ id)
      snapshotQueue :=
        if s.snapshotMeta.isSome then s.snapshotQueue.filter (·.id ≠ id) else s.snapshotQueue }
  else s

/-! ## Settings -/

/-- The root changes a setting. -/
def config (change : Storage → Storage) : Dispatch Unit := do
  read fun _ => ensureRoot origin
  Tx.modify change

def setPruneHistoricalPips (prune : Bool) : Dispatch Unit :=
  config origin fun s => { s with pruneHistoricalPips := prune }

def setMinProposalDeposit (deposit : ℕ) : Dispatch Unit :=
  config origin fun s => { s with minimumProposalDeposit := deposit }

def setDefaultEnactmentPeriod (duration : BlockNumber) : Dispatch Unit :=
  config origin fun s => { s with defaultEnactmentPeriod := duration }

def setMaxPipSkipCount (max : ℕ) : Dispatch Unit :=
  config origin fun s => { s with maxPipSkipCount := max }

def setActivePipLimit (limit : ℕ) : Dispatch Unit :=
  config origin fun s => { s with activePipLimit := limit }

section Calls

variable (env : Env)

/-! ## Proposals and votes -/

def chargeFee : Dispatch Unit := ensure env.chargesFee .chargeFailed

variable (origin : Origin) (id : PipId) (s : Storage) (deposit : ℕ)

/-- Lock the deposit of a community proposal; a committee has none. Both pay the fee. -/
def takeDeposit : Proposer → Dispatch Unit
  | .community proposer => do
    read fun s => ensure (s.activePipLimit = 0 ∨ s.activePipCount < s.activePipLimit)
      .tooManyActivePips
    read fun s => ensure (s.minimumProposalDeposit ≤ deposit) .incorrectDeposit
    transaction do
      increaseLock env proposer deposit
      chargeFee env
  | .committee _ => do
    ensure (deposit = 0) .notFromCommunity
    chargeFee env

/-- A new proposal. -/
def createPip (seq : PipId) (pip : Pip) (s : Storage) : Storage :=
  { (s.mapPip pip.id fun p => { p with proposal := some pip, state := some .pending }) with
    pipIdSequence := seq
    activePipCount := wrapAdd 32 s.activePipCount 1 }

/-- The deposit of a community proposal is a vote for it. -/
def enterPip : Proposer → Dispatch Unit
  | .community proposer => do
    Tx.modify (putDeposit id proposer deposit)
    unsafeVote id proposer ⟨true, deposit⟩
    insertLiveQueue id
  | .committee _ => Tx.modify fun s => { s with committeePips := s.committeePips ++ [id] }

def propose (proposal : Proposal) (deposit : ℕ) : Dispatch Unit := do
  let proposer ← read fun _ => ensureInferProposer env origin
  ensure env.stringsLimited .tooLong
  let s ← get
  let id := s.pipIdSequence
  let seq ← read fun _ => okOr (checkedInc id.number) .counterOverflow
  takeDeposit env deposit proposer
  Tx.modify (createPip ⟨seq⟩ ⟨id, proposal, proposer⟩)
  enterPip id deposit proposer

/-- Lock or release the difference to an earlier deposit. -/
def changeDeposit (voter : AccountId) (deposit : ℕ) : Dispatch Unit := do
  let s ← get
  let currDeposit := (s.pips id).depositOf voter
  if deposit < currDeposit then reduceLock voter (currDeposit - deposit)
  else increaseLock env voter (deposit - currDeposit)

/-- The account that has made a community proposal. -/
def communityProposer : Except Error AccountId := do
  let pip ← okOr (s.pips id).proposal .noSuchProposal
  match pip.proposer with
  | .committee _ => .error .notFromCommunity
  | .community proposer => .ok proposer

def vote (ayeOrNay : Bool) (deposit : ℕ) : Dispatch Unit := do
  let (voter, _) ← read fun _ => ensureOriginCallPermissions env origin
  let proposer ← read (communityProposer id)
  onlyIf (proposer = voter) (read fun s =>
    ensure (s.minimumProposalDeposit ≤ deposit) .incorrectDeposit)
  read (isProposalState id .pending)
  let s ← get
  let oldRes := aggregateResult id s
  transaction do
    changeDeposit env id voter deposit
    unsafeVote id voter ⟨ayeOrNay, deposit⟩
  Tx.modify (adjustLiveQueue id oldRes)
  Tx.modify (putDeposit id voter deposit)

/-! ## The governance committee -/

def approveCommitteeProposal : Dispatch Unit := do
  read fun _ => ensureVotingMajority env origin
  read (isProposalState id .pending)
  let _ ← read fun s => okOr (s.pips id).proposal .noSuchProposal
  read fun s => ensure (s.pips id).byCommittee .notByCommittee
  Tx.modify (schedulePipForExecution env id)

def rejectProposal : Dispatch Unit := do
  read fun _ => ensureVotingMajority env origin
  let state ← read fun s => okOr (s.pips id).state .noSuchProposal
  ensure (isActive state) .incorrectProposalState
  Tx.modify (maybeUnschedulePip id state)
  Tx.modify (maybeUnsnapshotPip id state)
  unsafeRejectProposal id

def pruneProposal : Dispatch Unit := do
  read fun _ => ensureVotingMajority env origin
  let state ← read fun s => okOr (s.pips id).state .noSuchProposal
  ensure (isActive state = false) .incorrectProposalState
  pruneData id state true

def rescheduleExecution (till : Option BlockNumber) : Dispatch Unit := do
  let (_, did) ← read fun _ => ensureOriginCallPermissions env origin
  ensure (some did = env.releaseCoordinator) .rescheduleNotByReleaseCoordinator
  read (isProposalState id .scheduled)
  let nextBlock := env.blockNumber + 1
  let newUntil := till.getD nextBlock
  ensure (nextBlock ≤ newUntil) .invalidFutureBlockNumber
  Tx.modify (Storage.mapPip id fun p => { p with schedule := some newUntil })

def clearSnapshot : Dispatch Unit := do
  let (_, did) ← read fun _ => ensureOriginCallPermissions env origin
  ensure (env.isMember did) .notACommitteeMember
  let s ← get
  onlyIf s.snapshotMeta.isSome
    (Tx.modify fun s => { s with snapshotMeta := none, snapshotQueue := [] })

def snapshot : Dispatch Unit := do
  let (madeBy, did) ← read fun _ => ensureOriginCallPermissions env origin
  ensure (env.isMember did) .notACommitteeMember
  let s ← get
  let seq ← read fun _ => okOr (checkedAdd 32 s.snapshotIdSequence 1) .counterOverflow
  Tx.modify fun s => { s with
    snapshotIdSequence := seq
    snapshotMeta := some ⟨env.blockNumber, madeBy, s.snapshotIdSequence⟩
    snapshotQueue := s.liveQueue }

/-- What is left of a snapshot, and what is to be done with the proposals that are taken from it. -/
structure Enactment where
  queue : List SnapshottedPip
  toBumpSkipped : List (PipId × ℕ)
  toReject : List PipId
  toApprove : List PipId

/-- Set a result against the last proposal of the queue. -/
def enactResult (acc : Enactment) (r : PipId × SnapshotResult) : Except Error Enactment :=
  match acc.queue.getLast? with
  | none => .error .snapshotResultTooLarge
  | some p =>
    if p.id ≠ r.1 then .error .snapshotIdMismatch
    else
      let acc := { acc with queue := acc.queue.dropLast }
      match r.2 with
      | .skip => do
        let count := (s.pips r.1).skipCount
        ensure (count < s.maxPipSkipCount) .cannotSkipPip
        return { acc with toBumpSkipped := acc.toBumpSkipped ++ [(r.1, count + 1)] }
      | .reject => .ok { acc with toReject := acc.toReject ++ [r.1] }
      | .approve => .ok { acc with toApprove := acc.toApprove ++ [r.1] }

def bumpSkipped (bumped : List (PipId × ℕ)) (s : Storage) : Storage :=
  bumped.foldl (fun s b => s.mapPip b.1 fun p => { p with skipCount := b.2 }) s

def enactSnapshotResults (results : List (PipId × SnapshotResult)) : Dispatch Unit := do
  read fun _ => ensureVotingMajority env origin
  let r ← read fun s => results.foldlM (enactResult s) ⟨s.snapshotQueue, [], [], []⟩
  Tx.modify (bumpSkipped r.toBumpSkipped)
  Tx.modify fun s => { s with
    liveQueue := s.liveQueue.filter fun e => ¬ (e.id ∈ r.toReject ∨ e.id ∈ r.toApprove) }
  forM r.toReject unsafeRejectProposal
  forM r.toApprove fun id => Tx.modify (schedulePipForExecution env id)
  Tx.modify fun s => { s with snapshotQueue := r.queue }

/-! ## Tasks -/

/-- Dispatch a proposal, which runs `inner`. -/
def executeProposal (inner : Dispatch Unit) : Dispatch Unit := do
  let pip ← read fun s => okOr (s.pips id).proposal .scheduledProposalDoesntExist
  let state ← read fun s => okOr (s.pips id).state .scheduledProposalDoesntExist
  ensure (state = .scheduled) .proposalNotInScheduledState
  Tx.modify (Storage.note (.dispatched id))
  inner
  maybePrune id (if env.dispatches pip.proposal then .executed else .failed)

def executeScheduledPip (inner : Dispatch Unit) : Dispatch Unit := do
  read fun _ => ensureRoot origin
  Tx.modify (Storage.mapPip id fun p => { p with schedule := none })
  executeProposal env id inner

end Calls

/-- What is not pending any more does not expire. -/
def expireScheduledPip : Dispatch Unit := do
  read fun _ => ensureRoot origin
  let s ← get
  onlyIf ((s.pips id).state = some .pending) do
    Tx.modify (maybeUnsnapshotPip id .pending)
    maybePrune id .expired

end Pips

end Polymesh
