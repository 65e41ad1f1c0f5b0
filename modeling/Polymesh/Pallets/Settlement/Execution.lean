import Polymesh.Pallets.Settlement.Affirmation
import Mathlib.Data.List.Sort

/-!
# Settlement: execution and rejection

Executing an instruction releases its locks and performs its legs in one storage
transaction; a pruned instruction keeps only its final status
(`pallets/settlement/src/lib.rs`).
-/

namespace Polymesh

open Transactional Collections
open Function (update)

namespace Settlement

/-! ## Execution -/

variable (env : Env) (origin : RuntimeOrigin) (id : InstructionId) (legs : List (LegId × Leg))
  (portfolio : Option PortfolioId)

/-- All mediators have affirmed, and an expiry lies in the past. -/
def ensureNonExpiredAffirmations (s : Storage) : Query Unit :=
  forM (env.mediatorOrder (s.mediators id)) fun m =>
    match m.2 with
    | .affirmed (some expiry) =>
      ensure (expiry < s.system.now) (.settlement .mediatorAffirmationExpired)
    | .affirmed none => .ok ()
    | .unknown | .pending => .error (.settlement .notAllAffirmationsHaveBeenReceived)

/-- The assets allow the venue. -/
def ensureAllowedVenue (venueId : VenueId) (s : Storage) :
    List (LegId × Leg) → List Ticker → Query Unit
  | [], _ => .ok ()
  | l :: legs, tickers => do
    let tickers ← ensureVenueFiltering tickers l.2.ticker venueId s
    ensureAllowedVenue venueId s legs tickers

/-- Release the lock of a leg that waits for execution; an error is ignored. -/
def releaseLock (s : Storage) (l : LegId × Leg) : Storage :=
  match s.settlement.instructionLegStatus id l.1 with
  | .executionPending => (unlockViaLeg l.2 s).2
  | .executionToBeSkipped _ _ | .pendingTokenLock => s

/-- Release the locks of all legs. -/
def uncheckedReleaseLocks (s : Storage) : Storage :=
  legs.foldl (releaseLock id) s

/-- Perform a leg. -/
def transferLeg : Leg → Dispatch Unit
  | .fungible sender receiver ticker amount =>
    Asset.baseTransfer env sender receiver ticker amount
  | .nonFungible sender receiver nfts => NFT.baseNftTransfer env sender receiver nfts
  | .offChain .. => pure ()

/-- Perform a leg that waits for execution; any other leg is passed over. -/
def transferPendingLeg (l : LegId × Leg) : Dispatch Unit := do
  let s ← Tx.get
  onlyIf (s.settlement.instructionLegStatus id l.1 = .executionPending)
    (transferLeg env l.2)

/-- Release and perform all legs, or none. -/
def releaseAssetLocksAndTransferPendingLegs : Dispatch Unit :=
  Tx.transaction do
    Tx.modify (uncheckedReleaseLocks id legs)
    forM legs (transferPendingLeg env id)

/-- The legs of an instruction in the order of their ids. -/
def sortedLegs (s : Storage) : List (LegId × Leg) :=
  (env.legOrder (s.legs id)).insertionSort fun a b => a.1 ≤ b.1

/-- Perform a complete instruction. -/
def executeInstruction : Dispatch Unit := do
  let s ← Tx.get
  Tx.ensure (s.settlement.instructionAffirmsPending id = 0)
    (.settlement .notAllAffirmationsHaveBeenReceived)
  Tx.read (ensureNonExpiredAffirmations env id)
  let status := s.settlement.instructionStatuses id
  Tx.ensure (status = .pending ∨ status = .failed)
    (.settlement .invalidInstructionStatusForExecution)
  let legs := sortedLegs env id s
  Tx.ensure (env.withinWeightLimit s id) (.settlement .weightLimitExceeded)
  Tx.read fun s =>
    ensureAllowedVenue (s.settlement.instructionDetails id).venueId s legs []
  (releaseAssetLocksAndTransferPendingLegs env id legs).orError
    (.settlement .failedToReleaseLockOrTransferAssets)

/-! ## Pruning -/

/-- The portfolios of an on-chain leg. -/
def legPortfolios (leg : Leg) : List PortfolioId := leg.sender?.toList ++ leg.receiver?.toList

/-- Write the status of an instruction. -/
def setStatus (status : InstructionStatus) (t : SettlementStorage) : SettlementStorage :=
  { t with instructionStatuses := update t.instructionStatuses id status }

/-- Remove what is stored about an instruction except its status. -/
def removeInstruction (t : SettlementStorage) : SettlementStorage :=
  { t with
    instructionLegs := update t.instructionLegs id ∅
    instructionDetails := update t.instructionDetails id default
    instructionAffirmsPending := update t.instructionAffirmsPending id 0
    instructionLegStatus :=
      update t.instructionLegStatus id fun _ => .pendingTokenLock
    offChainAffirmations := update t.offChainAffirmations id fun _ => .unknown
    affirmsReceived := update t.affirmsReceived id fun _ => .unknown
    instructionMediatorsAffirmations :=
      update t.instructionMediatorsAffirmations id ∅
    userAffirmations :=
      insertAll₂ ((t.instructionLegs id).entries.flatMap fun e => legPortfolios e.2) id .unknown
        t.userAffirmations }

/-- Forget all but the final status. -/
def pruneInstruction (executed : Bool) (s : Storage) : Storage :=
  let status : InstructionStatus :=
    if executed then .success s.system.blockNumber else .rejected s.system.blockNumber
  s.mapSettlement fun t => setStatus id status (removeInstruction id t)

/-- Prune an executed instruction, or mark it as failed and report the error. -/
def concludeExecution : Query Unit → Dispatch Unit
  | .error e => do
    Tx.modify (Storage.mapSettlement (setStatus id .failed))
    Tx.fail e
  | .ok _ => Tx.modify (pruneInstruction id true)

/-- Execute. A failure is only noted. -/
def executeInstructionRetryable : Dispatch Unit := do
  let outcome ← Tx.attempt (executeInstruction env id)
  concludeExecution id outcome

/-! ## Entry points -/

/-- A scheduled execution reports success whatever happened, so that its writes stay. -/
def baseExecuteScheduledInstruction : Dispatch Unit := do
  let _ ← Tx.attempt (executeInstructionRetryable env id)

/-- The scheduler, or the root, executes. -/
def executeScheduledInstruction : Dispatch Unit := do
  Tx.read fun _ => Asset.ensureRoot origin
  Tx.ensure env.validWeightLimit (.settlement .inputWeightIsLessThanMinimum)
  baseExecuteScheduledInstruction env id

/-- The portfolio is in some leg. -/
def isPortfolioPresent (portfolio : PortfolioId) : Bool :=
  legs.any fun l => portfolio ∈ legPortfolios l.2

/-- The identity is in an off-chain leg. -/
def isOffchainParty (did : IdentityId) : Bool :=
  legs.any fun l =>
    match l.2 with
    | .offChain sender receiver _ _ => sender = did ∨ receiver = did
    | _ => false

/-- The caller of a manual execution is a party or the creator of the venue. -/
def ensureManualCaller (originData : PermissionedCallOriginData) (venueId : VenueId) (s : Storage) :
    Query Unit :=
  match portfolio with
  | some portfolio => do
    Portfolio.ensurePortfolioCustodyAndPermission portfolio originData.primaryDid
      originData.secondaryKey s
    ensure (isPortfolioPresent legs portfolio) (.settlement .callerIsNotAParty)
  | none =>
    match venueForManagement venueId originData.primaryDid s with
    | .ok _ => .ok ()
    | .error _ =>
      ensure (isOffchainParty legs originData.primaryDid) (.settlement .unauthorized)

/-- A party, or the creator of the venue, executes. -/
def executeManualInstruction (inputCost : AssetCount) : Dispatch Unit := do
  Tx.ensure env.validWeightLimit (.settlement .inputWeightIsLessThanMinimum)
  let (originData, details) ←
    Tx.read (ensureOriginPermAndInstructionValidity env origin id true)
  let s ← Tx.get
  let legs := env.legOrder (s.legs id)
  Tx.read (ensureManualCaller legs portfolio originData details.venueId)
  Tx.read fun _ => ensureValidCost (.fromLegs legs) inputCost
  executeInstructionRetryable env id

/-- The caller of a rejection is a party or a mediator. -/
def ensureRejectCaller (originData : PermissionedCallOriginData) (s : Storage) : Query Unit :=
  match portfolio with
  | some portfolio => do
    ensure (isPortfolioPresent legs portfolio) (.settlement .callerIsNotAParty)
    Portfolio.ensurePortfolioCustodyAndPermission portfolio originData.primaryDid
      originData.secondaryKey s
  | none =>
    ensure (mediatorAffirmation id originData.primaryDid s ≠ .unknown)
      (.settlement .callerIsNotAMediator)

/-- There are no more than were named, if so. -/
def ensureOptionalCost (realCost : AssetCount) (count : Option AssetCount) : Query Unit :=
  match count with
  | none => .ok ()
  | some count => ensureValidCost realCost count

/-- `base_reject_instruction`: for a portfolio, or as a mediator. -/
def rejectInstruction (count : Option AssetCount) : Dispatch Unit := do
  let s ← Tx.get
  Tx.ensure (s.settlement.instructionStatuses id ≠ .unknown) (.settlement .unknownInstruction)
  let legs := env.legOrder (s.legs id)
  Tx.read fun _ => ensureOptionalCost (.fromLegs legs) count
  let originData ← Tx.read fun _ => env.ensureOriginCallPermissions origin
  Tx.read (ensureRejectCaller id legs portfolio originData)
  Tx.modify (uncheckedReleaseLocks id legs)
  Tx.modify (Storage.mapSystem (cancelNamed id))
  Tx.modify (pruneInstruction id false)

/-- Execute an instruction that settles on affirmation, once nothing is pending. -/
def executeSettleOnAffirmationInstruction : Dispatch Unit := do
  let s ← Tx.get
  onlyIf ((s.settlement.instructionDetails id).settlementType = .settleOnAffirmation ∧
      s.settlement.instructionAffirmsPending id = 0)
    (executeInstruction env id)

/-- Affirm for portfolios, and for an off-chain leg if there is a receipt. -/
def affirmWithOptionalReceipt (receipt : Option ReceiptDetails) (portfolios : List PortfolioId) :
    Dispatch Unit :=
  match receipt with
  | some receipt => baseAffirmWithReceipts env origin id [receipt] portfolios none
  | none => baseAffirmInstruction env origin id portfolios none

/-- `affirm_and_execute_instruction`. The instruction is pruned as a success whether or not
it has been executed. -/
def affirmAndExecuteInstruction (receipt : Option ReceiptDetails) (portfolios : List PortfolioId) :
    Dispatch Unit := do
  affirmWithOptionalReceipt env origin id receipt portfolios
  executeSettleOnAffirmationInstruction env id
  Tx.modify (pruneInstruction id true)

/-! ## Calls that add an instruction -/

/-- The creator of a venue adds an instruction. -/
def addInstruction (venueId : VenueId) (settlementType : SettlementType)
    (tradeDate valueDate : Option Moment) (legs : List Leg) (mediators : List IdentityId) :
    Dispatch Unit := do
  let did ← Tx.read fun _ => env.ensurePerms origin
  let _ ← baseAddInstruction env did venueId settlementType tradeDate valueDate legs mediators

/-- Add an instruction, and affirm it. -/
def addAndAffirmInstruction (venueId : VenueId) (settlementType : SettlementType)
    (tradeDate valueDate : Option Moment) (legs : List Leg) (portfolios : List PortfolioId)
    (mediators : List IdentityId) : Dispatch Unit := do
  let did ← Tx.read fun _ => env.ensurePerms origin
  let id ←
    baseAddInstruction env did venueId settlementType tradeDate valueDate legs mediators
  affirmAndMaybeScheduleInstruction env origin id portfolios none

end Settlement

end Polymesh
