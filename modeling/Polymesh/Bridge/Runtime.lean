import Polymesh.Library.Runs
import Polymesh.Pallets.Bridge

/-!
# Runs of the bridge

The calls of the bridge, the tasks of the scheduler, and the blocks that go by. A call that fails
changes nothing. A task is run when it is due, or later, and is then forgotten; what becomes of it
is ignored. Other pallets change balances as they like.
-/

namespace Polymesh

open Transactional Tx

namespace Bridge

inductive Call
  | changeController (controller : AccountId)
  | changeAdmin (admin : AccountId)
  | changeTimelock (timelock : BlockNumber)
  | freeze
  | unfreeze
  | changeBridgeLimit (amount : ℕ) (duration : BlockNumber)
  | changeBridgeExempted (exempted : List (IdentityId × Bool))
  | forceHandleBridgeTx (bridgeTx : BridgeTx)
  | handleBridgeTx (bridgeTx : BridgeTx)
  | freezeTxs (bridgeTxs : List BridgeTx)
  | unfreezeTxs (bridgeTxs : List BridgeTx)
  | handleScheduledBridgeTx (bridgeTx : BridgeTx)
  | addFreezeAdmin (freezeAdmin : AccountId)
  | removeFreezeAdmin (freezeAdmin : AccountId)
  | removeTxs (bridgeTxs : List BridgeTx)

def dispatch (env : Env) (origin : Origin) : Call → Dispatch Unit
  | .changeController controller => baseChangeController env origin controller
  | .changeAdmin admin => baseChangeAdmin env origin admin
  | .changeTimelock timelock => baseChangeTimelock env origin timelock
  | .freeze => setFreeze env origin true
  | .unfreeze => setFreeze env origin false
  | .changeBridgeLimit amount duration => baseChangeBridgeLimit env origin amount duration
  | .changeBridgeExempted exempted => baseChangeBridgeExempted env origin exempted
  | .forceHandleBridgeTx bridgeTx => baseForceHandleBridgeTx env origin bridgeTx
  | .handleBridgeTx bridgeTx => baseHandleBridgeTx env origin bridgeTx
  | .freezeTxs bridgeTxs => baseFreezeTxs env origin bridgeTxs
  | .unfreezeTxs bridgeTxs => baseUnfreezeTxs env origin bridgeTxs
  | .handleScheduledBridgeTx bridgeTx => baseHandleScheduledBridgeTx env origin bridgeTx
  | .addFreezeAdmin freezeAdmin => baseAddFreezeAdmin env origin freezeAdmin
  | .removeFreezeAdmin freezeAdmin => baseRemoveFreezeAdmin env origin freezeAdmin
  | .removeTxs bridgeTxs => baseRemoveTxs env origin bridgeTxs

inductive Action
  | call (env : Env) (origin : Origin) (call : Call)
  | task (env : Env) (index : ℕ)
  | nextBlock
  | otherPallets (balances : Currency.Storage)

/-- The task of the agenda that is due, if it is. -/
def dueTask (index : ℕ) (s : Storage) : Option BridgeTx :=
  match s.agenda[index]? with
  | some (block, bridgeTx) => if block ≤ s.block then some bridgeTx else none
  | none => none

def forgetTask (index : ℕ) (s : Storage) : Storage := { s with agenda := s.agenda.eraseIdx index }

def step : Action → Storage → Storage
  | .call env origin call, s => (transaction (dispatch env origin call) s).2
  | .task env index, s =>
    match dueTask index s with
    | some bridgeTx =>
      (transaction (dispatch env .root (.handleScheduledBridgeTx bridgeTx)) (forgetTask index s)).2
    | none => s
  | .nextBlock, s => { s with block := s.block + 1 }
  | .otherPallets balances, s => { s with balances }

/-- What the first block is made from. -/
structure GenesisConfig where
  controller : Option AccountId
  admin : Option AccountId
  timelock : BlockNumber
  bridgeLimit : ℕ × BlockNumber
  completeTxs : List BridgeTx
  balances : Currency.Storage

/-- The transactions that were completed before the first block are handled. Their deposits are part
of the balances that the chain begins with. -/
def genesis (config : GenesisConfig) : Storage where
  controller := config.controller
  details := config.completeTxs.foldl (fun details bridgeTx =>
    Function.update details bridgeTx.key ⟨bridgeTx.amount, .handled, 0, bridgeTx.txHash⟩)
    fun _ => .default
  admin := config.admin
  frozen := false
  freezeAdmins := fun _ => false
  timelock := config.timelock
  bridgeLimit := config.bridgeLimit
  polyxBridged := fun _ => (0, 0)
  bridgeLimitExempted := fun _ => false
  balances := config.balances
  block := 0
  agenda := []
  history := []

end Bridge

end Polymesh
