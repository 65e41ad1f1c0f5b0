import Polymesh.Currency.Locks
import Polymesh.Library.Runs
import Polymesh.Pallets.Pips

/-!
# Runs of the PIPs pallet

The calls of the pallet, of which a call that fails changes nothing. The tasks of the scheduler are
calls by the root: whatever is due when, a run may have them at any time and for any proposal. A
proposal that is dispatched may make further calls of any origin, and these may dispatch proposals
again. Other pallets change their own locks as they like.
-/

namespace Polymesh

open Transactional Tx Currency

namespace Pips

inductive Call
  | setPruneHistoricalPips (prune : Bool)
  | setMinProposalDeposit (deposit : ℕ)
  | setDefaultEnactmentPeriod (duration : BlockNumber)
  | setMaxPipSkipCount (max : ℕ)
  | setActivePipLimit (limit : ℕ)
  | propose (proposal : Proposal) (deposit : ℕ)
  | vote (id : PipId) (ayeOrNay : Bool) (deposit : ℕ)
  | approveCommitteeProposal (id : PipId)
  | rejectProposal (id : PipId)
  | pruneProposal (id : PipId)
  | rescheduleExecution (id : PipId) (till : Option BlockNumber)
  | clearSnapshot
  | snapshot
  | enactSnapshotResults (results : List (PipId × SnapshotResult))
  | executeScheduledPip (id : PipId)
  | expireScheduledPip (id : PipId)

/-- What a call does, when the proposal that it dispatches runs `inner`. -/
def dispatch (env : Env) (origin : Origin) (inner : Dispatch Unit) : Call → Dispatch Unit
  | .setPruneHistoricalPips prune => setPruneHistoricalPips origin prune
  | .setMinProposalDeposit deposit => setMinProposalDeposit origin deposit
  | .setDefaultEnactmentPeriod duration => setDefaultEnactmentPeriod origin duration
  | .setMaxPipSkipCount max => setMaxPipSkipCount origin max
  | .setActivePipLimit limit => setActivePipLimit origin limit
  | .propose proposal deposit => propose env origin proposal deposit
  | .vote id ayeOrNay deposit => vote env origin id ayeOrNay deposit
  | .approveCommitteeProposal id => approveCommitteeProposal env origin id
  | .rejectProposal id => rejectProposal env origin id
  | .pruneProposal id => pruneProposal env origin id
  | .rescheduleExecution id till => rescheduleExecution env origin id till
  | .clearSnapshot => clearSnapshot env origin
  | .snapshot => snapshot env origin
  | .enactSnapshotResults results => enactSnapshotResults env origin results
  | .executeScheduledPip id => executeScheduledPip env origin id inner
  | .expireScheduledPip id => expireScheduledPip origin id

/-- What happens on the chain. A call comes with what the proposal does that it dispatches, if it
dispatches one: nothing of the pallet if the proposal fails, as its writes are taken back. -/
inductive Action
  | call (env : Env) (origin : Origin) (call : Call) (inner : List Action)
  | otherLock (who : AccountId) (id : LockIdentifier) (change : LockChange)

/-- Whether the code panics. -/
def Error.isPanic : Error → Bool
  | .refundUnwrap | .queueUnwrapErr => true
  | _ => false

/-- A call within another one: what fails is taken back, but a panic is not caught. -/
def nested (x : Dispatch Unit) : Dispatch Unit := fun s =>
  match x s with
  | (.ok (), s') => (.ok (), s')
  | (.error e, _) => if e.isPanic then (.error e, s) else (.ok (), s)

mutual

/-- What an action does. -/
def perform : Action → Dispatch Unit
  | .call env origin call inner => dispatch env origin (performAll inner) call
  | .otherLock who id change => Tx.modify fun s =>
    if id = pipsLockId then s else s.putLocks who (change.apply id (s.locks who))

/-- The actions of a proposal, one after the other. -/
def performAll : List Action → Dispatch Unit
  | [] => pure ()
  | a :: as => do
    nested (perform a)
    performAll as

end

/-- What is left of an action. -/
def step (a : Action) (s : Storage) : Storage := (transaction (perform a) s).2

/-- What the first block is made from. -/
structure GenesisConfig where
  pruneHistoricalPips : Bool
  minProposalDeposit : ℕ
  defaultEnactmentPeriod : BlockNumber
  maxPipSkipCount : ℕ
  activePipLimit : ℕ

def genesis (config : GenesisConfig) : Storage where
  pruneHistoricalPips := config.pruneHistoricalPips
  minimumProposalDeposit := config.minProposalDeposit
  defaultEnactmentPeriod := config.defaultEnactmentPeriod
  maxPipSkipCount := config.maxPipSkipCount
  activePipLimit := config.activePipLimit
  pipIdSequence := ⟨0⟩
  snapshotIdSequence := 0
  activePipCount := 0
  pips := fun _ => .empty
  liveQueue := []
  snapshotQueue := []
  snapshotMeta := none
  committeePips := []
  locks := fun _ => []
  history := []

end Pips

end Polymesh
