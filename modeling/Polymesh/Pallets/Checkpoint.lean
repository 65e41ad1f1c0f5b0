import Polymesh.Library.Snapshots
import Polymesh.Library.SortedLists
import Polymesh.Pallets.ExternalAgents

/-!
# Checkpoints

The balances and the supply of a ticker at its checkpoints, and the schedules that make
checkpoints (`pallets/asset/src/checkpoint/mod.rs`). The balance of a holder is recorded at the
last checkpoint when it is about to change for the first time after it. Whatever is about to
change a balance first makes the checkpoints that are due; a checkpoint may also be made by hand.
-/

namespace Polymesh

open Transactional Collections Snapshots

/-! ## A question to the asset pallet -/

/-- The supply of a ticker, zero where there is no asset. -/
def Asset.totalSupply (ticker : Ticker) (s : Storage) : ℕ :=
  (s.asset.tokens ticker).elim 0 SecurityToken.totalSupply

namespace TickerCheckpoints

variable (c : TickerCheckpoints)

/-! ## Reading -/

/-- `find_ceiling`: the first number from the given one on, in a sorted list that has one. -/
def findCeiling (arr : List ℕ) (key : ℕ) : Option ℕ :=
  match SortedLists.binarySearch id arr key with
  | .ok i | .error i => arr[i]?

/-- The balance of a holder at a checkpoint, as recorded with the first change since; none if
nothing has changed since. -/
def balanceAt (did : IdentityId) (cp : ℕ) : Option ℕ :=
  let updates := c.balanceUpdates did
  if (0 < cp ∧ cp ≤ c.checkpointIdSequence) ∧ updates ≠ [] ∧ cp ≤ updates.getLastD 0 then
    (findCeiling updates cp).map fun id => (c.balance id did).getD 0
  else none

/-! ## Recording balances -/

/-- Record a balance at the last checkpoint, unless one has been recorded there. -/
def recordBalance (c : TickerCheckpoints) (update : IdentityId × ℕ) : TickerCheckpoints :=
  let lastCp := c.checkpointIdSequence
  if c.balance lastCp update.1 = none then
    { c with
      balance := update₂ c.balance lastCp update.1 (some update.2)
      balanceUpdates := Function.update c.balanceUpdates update.1
        (c.balanceUpdates update.1 ++ [lastCp]) }
  else c

/-- Record balances, if there is a checkpoint. -/
def updateBalances (updates : List (IdentityId × ℕ)) : TickerCheckpoints :=
  if c.checkpointIdSequence < 1 then c else updates.foldl recordBalance c

/-! ## Making checkpoints -/

/-- Record the supply and the time of a checkpoint. -/
def createAt (id : ℕ) (supply : ℕ) (at_ : Moment) : TickerCheckpoints :=
  { c with
    totalSupply := Function.update c.totalSupply id supply
    timestamps := Function.update c.timestamps id at_ }

variable (now : Moment) (supply : ℕ) (a : Advance) (scheduleId : ScheduleId)

/-- One more checkpoint of a schedule. -/
def appendSchedulePoint (id : ℕ) : TickerCheckpoints :=
  { c with schedulePoints :=
      Function.update c.schedulePoints scheduleId (c.schedulePoints scheduleId ++ [id]) }

/-- Store what is left of a schedule; one that is finished is removed. -/
def setSchedule (schedule : Option ScheduleCheckpoints) : TickerCheckpoints :=
  { c with scheduledCheckpoints :=
      Function.update c.scheduledCheckpoints scheduleId schedule }

/-- What the loops of `advance_schedules` carry. -/
structure Advance where
  store : TickerCheckpoints
  cached : NextCheckpoints
  cpId : ℕ

/-- Make the checkpoint of a schedule for one due time. -/
def Advance.createPoint (a : Advance) (at_ : Moment) : Query Advance := do
  let id ← okOr (checkedAdd 64 a.cpId 1) .counterOverflow
  return { a with
    store := (a.store.createAt id supply at_).appendSchedulePoint scheduleId id
    cpId := id }

/-- Take the due times out of a schedule. -/
def Advance.removeExpired (schedule : ScheduleCheckpoints) (a : Advance) : Advance :=
  let left := schedule.notDue now
  let dueCount := (schedule.due now).length
  match left.next with
  | some next =>
    { a with
      cached := (a.cached.addScheduleNext scheduleId next).decTotalPending dueCount
      store := a.store.setSchedule scheduleId (some left) }
  | none =>
    { a with
      cached := a.cached.decTotalPending dueCount
      store := a.store.setSchedule scheduleId none }

/-- Advance one schedule. -/
def Advance.advanceSchedule : Query Advance :=
  match a.store.scheduledCheckpoints scheduleId with
  | some schedule =>
    (schedule.due now).foldlM (createPoint supply scheduleId)
      (a.removeExpired now scheduleId schedule)
  | none => .ok a

/-- Store the cache, unless it has become empty, and the number of checkpoints. -/
def Advance.save : TickerCheckpoints :=
  { a.store with
    cachedNextCheckpoints := if a.cached.isEmpty then none else some a.cached
    checkpointIdSequence := a.cpId }

/-- Make the checkpoints that are due. -/
def advanceSchedules : Query TickerCheckpoints :=
  match c.cachedNextCheckpoints with
  | none => .ok c
  | some cached =>
    if cached.expired now then do
      let (scheduleIds, cached) := cached.expiredSchedules now
      let a ← scheduleIds.foldlM (Advance.advanceSchedule now supply)
        ⟨c, cached, c.checkpointIdSequence⟩
      return a.save
    else .ok c

/-- Make them, then record balances. -/
def advanceUpdateBalances (updates : List (IdentityId × ℕ)) : Query TickerCheckpoints := do
  let c ← c.advanceSchedules now supply
  return c.updateBalances updates

end TickerCheckpoints

namespace Checkpoint

variable (env : Env) (origin : RuntimeOrigin) (ticker : Ticker) (id : ScheduleId)
  (schedule : ScheduleCheckpoints)

/-- Make the checkpoints of a ticker that are due, and record balances at the last one. -/
def advanceUpdateBalances (updates : List (IdentityId × ℕ)) : Dispatch Unit := do
  let c ← Tx.read fun s => (s.checkpoint.ofTicker ticker).advanceUpdateBalances s.system.now
    (Asset.totalSupply ticker s) updates
  Tx.modify (Storage.setCheckpoints ticker c)

/-! ## Calls -/

/-- `create_checkpoint`, which does not look at the schedules. -/
def createCheckpoint : Dispatch Unit := do
  let _ ← Tx.read fun _ => ExternalAgents.ensurePerms env origin ticker
  let s ← Tx.get
  let c := s.checkpoint.ofTicker ticker
  let id ← Tx.read fun _ => okOr (checkedAdd 64 c.checkpointIdSequence 1) .counterOverflow
  Tx.modify <| Storage.setCheckpoints ticker <|
    { c with checkpointIdSequence := id }.createAt id (Asset.totalSupply ticker s) s.system.now

/-- The root bounds the schedules. -/
def setSchedulesMaxComplexity (maxComplexity : ℕ) : Dispatch Unit := do
  Tx.read fun _ => ensure (origin = .root) .badOrigin
  Tx.modify fun s =>
    { s with checkpoint := { s.checkpoint with schedulesMaxComplexity := maxComplexity } }

/-- The cache of a ticker, empty where there is none. -/
def cachedNext (c : TickerCheckpoints) : NextCheckpoints :=
  c.cachedNextCheckpoints.getD .default

/-- The writes of a new schedule. -/
def insertSchedule (nextAt : Moment) (refCount : ℕ) (c : TickerCheckpoints) : TickerCheckpoints :=
  { c.setSchedule id (some schedule) with
    cachedNextCheckpoints :=
      some (((cachedNext c).addScheduleNext id nextAt).incTotalPending schedule.len)
    scheduleRefCount := Function.update c.scheduleRefCount id refCount
    scheduleIdSequence := id }

/-- A new schedule within the bound. -/
def baseCreateSchedule (refCount : ℕ) : Dispatch Unit := do
  let nextAt ← Tx.read fun _ => okOr schedule.next (.checkpoint .scheduleIsEmpty)
  let s ← Tx.get
  let c := s.checkpoint.ofTicker ticker
  Tx.ensure (schedule.len ≤ s.checkpoint.schedulesMaxComplexity)
    (.checkpoint .schedulesOverMaxComplexity)
  Tx.ensure (saturatingAdd 64 (cachedNext c).totalPending schedule.len ≤
      s.checkpoint.schedulesMaxComplexity)
    (.checkpoint .schedulesOverMaxComplexity)
  Tx.ensure (schedule.ensureNoExpired s.system.now)
    (.checkpoint .scheduleHasExpiredCheckpoints)
  let id ← Tx.read fun _ => okOr (checkedInc c.scheduleIdSequence) .counterOverflow
  Tx.read (env.chargeFees [.checkpointCreateSchedule])
  Tx.modify (Storage.setCheckpoints ticker (insertSchedule id schedule nextAt refCount c))

/-- An agent makes a schedule. -/
def createSchedule : Dispatch Unit := do
  let _ ← Tx.read fun _ => ExternalAgents.ensurePerms env origin ticker
  baseCreateSchedule env ticker schedule 0

/-- The writes of the removal of a schedule. The cache stays when it becomes empty. -/
def eraseSchedule (c : TickerCheckpoints) : TickerCheckpoints :=
  { c.setSchedule id none with
    scheduleRefCount := Function.update c.scheduleRefCount id 0
    cachedNextCheckpoints := c.cachedNextCheckpoints.map fun cached =>
      (cached.removeSchedule id).decTotalPending schedule.len }

/-- Remove a schedule without references. -/
def baseRemoveSchedule : Dispatch Unit := do
  let s ← Tx.get
  let c := s.checkpoint.ofTicker ticker
  let schedule ← Tx.read fun _ =>
    okOr (c.scheduledCheckpoints id) (.checkpoint .noSuchSchedule)
  Tx.ensure (c.scheduleRefCount id = 0) (.checkpoint .scheduleNotRemovable)
  Tx.modify (Storage.setCheckpoints ticker (eraseSchedule id schedule c))

/-- An agent removes a schedule. -/
def removeSchedule : Dispatch Unit := do
  let _ ← Tx.read fun _ => ExternalAgents.ensurePerms env origin ticker
  baseRemoveSchedule ticker id

end Checkpoint

end Polymesh
