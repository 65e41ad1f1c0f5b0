import Polymesh.Pallets.Settlement.Instructions

/-!
# Settlement: affirming and withdrawing

The parties of an instruction affirm it and withdraw their affirmation
(`pallets/settlement/src/lib.rs`). Affirming for a portfolio locks what its legs send,
affirming with a receipt marks an off-chain leg, and a mediator affirms until a moment.
-/

namespace Polymesh

open Transactional Collections

namespace Settlement

open Storage (mapSettlement mapSystem)

/-! ## Locks -/

/-- Lock what a leg sends. -/
def lockViaLeg : Leg → Dispatch Unit
  | .fungible sender _ ticker amount => Portfolio.lockTokens sender ticker amount
  | .nonFungible sender _ nfts =>
    Tx.transaction (forM nfts.tokens (Portfolio.lockNft sender))
  | .offChain .. => Tx.fail (.settlement .offChainAssetCantBeLocked)

/-- Release what a leg has locked. -/
def unlockViaLeg : Leg → Dispatch Unit
  | .fungible sender _ ticker amount => Portfolio.unlockTokens sender ticker amount
  | .nonFungible sender _ nfts =>
    Tx.transaction (forM nfts.tokens (Portfolio.unlockNft sender))
  | .offChain .. => Tx.fail (.settlement .offChainAssetCantBeLocked)

/-! ## Writes -/

variable (env : Env) (did : IdentityId) (origin : RuntimeOrigin) (id : InstructionId)
  (portfolios : List PortfolioId)

/-- Write the status of a leg. -/
def setLegStatus (legId : LegId) (status : LegStatus) (t : SettlementStorage) : SettlementStorage :=
  { t with instructionLegStatus := update₂ t.instructionLegStatus id legId status }

/-- Write how many affirmations are missing. -/
def setAffirmsPending (count : ℕ) (t : SettlementStorage) : SettlementStorage :=
  { t with instructionAffirmsPending := Function.update t.instructionAffirmsPending id count }

/-- Record the status of a set of portfolios. -/
def setAffirmations (user received : AffirmationStatus) (t : SettlementStorage) :
    SettlementStorage :=
  { t with
    userAffirmations := insertAll₂ portfolios id user t.userAffirmations
    affirmsReceived := Function.update t.affirmsReceived id
      (insertAll portfolios received (t.affirmsReceived id)) }

/-- Record the status of a mediator. -/
def setMediatorAffirmation (did : IdentityId) (status : MediatorAffirmationStatus)
    (t : SettlementStorage) : SettlementStorage :=
  { t with
    instructionMediatorsAffirmations := Function.update t.instructionMediatorsAffirmations id
      ((t.instructionMediatorsAffirmations id).insert did status) }

/-! ## Checks -/

/-- It is not too late to affirm, or too early to execute. -/
def ensureSettlementBlock (settlementType : SettlementType) (isExecute : Bool)
    (now : BlockNumber) : Query Unit :=
  match settlementType, isExecute with
  | .settleOnBlock block, true =>
    ensure (block ≤ now) (.settlement .instructionSettleBlockNotReached)
  | .settleOnBlock block, false =>
    ensure (now < block) (.settlement .instructionSettleBlockPassed)
  | .settleManual block, true =>
    ensure (block ≤ now) (.settlement .instructionSettleBlockNotReached)
  | _, _ => .ok ()

/-- The instruction is known, and it is time. -/
def ensureInstructionValidity (isExecute : Bool) (s : Storage) : Query Instruction := do
  let details := s.settlement.instructionDetails id
  ensure (s.settlement.instructionStatuses id ≠ .unknown) (.settlement .unknownInstruction)
  ensureSettlementBlock details.settlementType isExecute s.system.blockNumber
  return details

/-- So it is, and the caller has permission. -/
def ensureOriginPermAndInstructionValidity (isExecute : Bool) (s : Storage) :
    Query (PermissionedCallOriginData × Instruction) := do
  let originData ← env.ensureOriginCallPermissions origin
  let details ← ensureInstructionValidity id isExecute s
  return (originData, details)

/-- The portfolios are in custody, and have affirmed or not. -/
def ensurePortfoliosAndAffirmationStatus (did : IdentityId) (secondaryKey : Option SecondaryKey)
    (expected : AffirmationStatus) (s : Storage) : Query Unit :=
  forM portfolios fun portfolio => do
    Portfolio.ensurePortfolioCustodyAndPermission portfolio did secondaryKey s
    ensure (s.settlement.userAffirmations portfolio id = expected)
      (.settlement .unexpectedAffirmationStatus)

/-- The legs that the portfolios send. -/
def filteredLegs (s : Storage) : FilteredLegs :=
  .filterSender (env.legOrder (s.legs id)) portfolios

/-- There are no more assets than the caller has named. -/
def ensureValidCost (realCost inputCost : AssetCount) : Query Unit := do
  ensure (realCost.nonFungible ≤ inputCost.nonFungible)
    (.settlement .numberOfTransferredNFTsUnderestimated)
  ensure (realCost.fungible ≤ inputCost.fungible)
    (.settlement .numberOfFungibleTransfersUnderestimated)
  ensure (realCost.offChain ≤ inputCost.offChain)
    (.settlement .numberOfOffChainTransfersUnderestimated)

/-- No more than was named for an affirmation, if so. -/
def ensureValidAffirmationCount (legs : FilteredLegs) (count : Option AffirmationCount) :
    Query Unit :=
  match count with
  | none => .ok ()
  | some count => do
    ensureValidCost legs.senderAssetCount count.senderAssetCount
    ensureValidCost legs.receiverAssetCount count.receiverAssetCount
    ensure (legs.unfilteredAssetCount.offChain ≤ count.offchainCount)
      (.settlement .numberOfOffChainTransfersUnderestimated)

/-! ## Affirming -/

/-- Lock what a leg sends and mark it for execution. -/
def lockLeg (l : LegId × Leg) : Dispatch Unit := do
  lockViaLeg l.2
  Tx.modify (mapSettlement (setLegStatus id l.1 .executionPending))

/-- Affirm for portfolios, and lock. -/
def unsafeAffirmInstruction (secondaryKey : Option SecondaryKey) (count : Option AffirmationCount) :
    Dispatch Unit := do
  Tx.read (ensurePortfoliosAndAffirmationStatus id portfolios did secondaryKey .pending)
  let s ← Tx.get
  let legs := filteredLegs env id portfolios s
  Tx.read fun _ => ensureValidAffirmationCount legs count
  forM legs.senderSubset (lockLeg id)
  Tx.modify (mapSettlement (setAffirmations id portfolios .affirmed .affirmed))
  Tx.modify <| mapSettlement fun t =>
    setAffirmsPending id (t.instructionAffirmsPending id - portfolios.length) t

/-- The caller affirms. -/
def baseAffirmInstruction (count : Option AffirmationCount) : Dispatch Unit := do
  let (originData, _) ← Tx.read (ensureOriginPermAndInstructionValidity env origin id false)
  unsafeAffirmInstruction env originData.primaryDid id (orderedSet portfolios)
    originData.secondaryKey count

/-- Schedule an instruction that settles on affirmation, once nothing is pending. -/
def maybeScheduleInstruction (s : Storage) : Storage :=
  if s.settlement.instructionAffirmsPending id = 0 ∧
      (s.settlement.instructionDetails id).settlementType = .settleOnAffirmation then
    s.mapSystem fun y => scheduleInstruction id (y.blockNumber + 1) y
  else s

/-- Affirm, and schedule what is complete. -/
def affirmAndMaybeScheduleInstruction (count : Option AffirmationCount) : Dispatch Unit := do
  baseAffirmInstruction env origin id portfolios count
  Tx.modify (maybeScheduleInstruction id)

/-! ## Affirming with receipts -/

/-- The receipt is for this leg. -/
def ensureReceiptLeg (receipt : ReceiptDetails) (leg : Leg) (s : Storage) : Query Unit :=
  match leg with
  | .offChain sender receiver ticker amount => do
    ensure (s.settlement.offChainAffirmations id receipt.legId = .pending)
      (.settlement .unexpectedAffirmationStatus)
    ensure (env.verifySignature receipt.signature
        ⟨receipt.uid, id, receipt.legId, sender, receiver, ticker, amount⟩ receipt.signer)
      (.settlement .invalidSignature)
  | _ => .error (.settlement .receiptForInvalidLegType)

/-- Check the receipts in order; the two lists are what the receipts before have used. -/
def ensureValidReceiptsDetails (env : Env) (venueId : VenueId) (id : InstructionId)
    (s : Storage) : List ReceiptDetails → List (AccountId × ℕ) → List LegId → Query Unit
  | [], _, _ => .ok ()
  | receipt :: receipts, uids, legIds => do
    ensure (receipt.instructionId = id) (.settlement .receiptInstructionIdMissmatch)
    ensure ((receipt.signer, receipt.uid) ∉ uids) (.settlement .duplicateReceiptUid)
    ensure (receipt.legId ∉ legIds) (.settlement .multipleReceiptsForOneLeg)
    ensure (s.settlement.venueSigners venueId receipt.signer) (.settlement .unauthorizedSigner)
    ensure (s.settlement.receiptsUsed receipt.signer receipt.uid = false)
      (.settlement .receiptAlreadyClaimed)
    let leg ← okOr ((s.settlement.instructionLegs id).lookup receipt.legId)
      (.settlement .legNotFound)
    ensureReceiptLeg env id receipt leg s
    ensureValidReceiptsDetails env venueId id s receipts
      ((receipt.signer, receipt.uid) :: uids) (receipt.legId :: legIds)

/-- The writes of one receipt. -/
def claimReceipt (t : SettlementStorage) (receipt : ReceiptDetails) : SettlementStorage :=
  { t with
    instructionLegStatus := update₂ t.instructionLegStatus id receipt.legId
      (.executionToBeSkipped receipt.signer receipt.uid)
    offChainAffirmations := update₂ t.offChainAffirmations id receipt.legId .affirmed
    receiptsUsed := update₂ t.receiptsUsed receipt.signer receipt.uid true }

/-- Affirm with receipts for off-chain legs. -/
def baseAffirmWithReceipts (receipts : List ReceiptDetails) (portfolios : List PortfolioId)
    (count : Option AffirmationCount) : Dispatch Unit := do
  Tx.ensure (receipts.length ≤ env.maxNumberOfOffChainAssets)
    (.settlement .maxNumberOfReceiptsExceeded)
  let (originData, details) ←
    Tx.read (ensureOriginPermAndInstructionValidity env origin id false)
  let portfolios := orderedSet portfolios
  Tx.read (ensurePortfoliosAndAffirmationStatus id portfolios originData.primaryDid
    originData.secondaryKey .pending)
  Tx.read fun s => ensureValidReceiptsDetails env details.venueId id s receipts [] []
  let s ← Tx.get
  let legs := filteredLegs env id portfolios s
  Tx.read fun _ => ensureValidAffirmationCount legs count
  forM legs.senderSubset (lockLeg id)
  Tx.modify <| mapSettlement fun t =>
    setAffirmsPending id
      (t.instructionAffirmsPending id - portfolios.length - receipts.length) t
  Tx.modify <| mapSettlement fun t => receipts.foldl (claimReceipt id) t
  Tx.modify (mapSettlement (setAffirmations id portfolios .affirmed .affirmed))

/-- Affirm with receipts, and schedule what is complete. -/
def affirmWithReceiptsAndMaybeScheduleInstruction (receipts : List ReceiptDetails)
    (portfolios : List PortfolioId) (count : Option AffirmationCount) : Dispatch Unit := do
  baseAffirmWithReceipts env origin id receipts portfolios count
  Tx.modify (maybeScheduleInstruction id)

/-! ## Withdrawing -/

/-- Release what a leg of the given status sends. -/
def unlockByStatus (leg : Leg) : LegStatus → Dispatch Unit
  | .executionToBeSkipped _ _ => Tx.fail (.settlement .unexpectedLegStatus)
  | .executionPending => unlockViaLeg leg
  | .pendingTokenLock => Tx.fail (.settlement .instructionNotAffirmed)

/-- Release what a leg sends and mark it as not locked. -/
def unlockLeg (l : LegId × Leg) : Dispatch Unit := do
  let s ← Tx.get
  unlockByStatus l.2 (s.settlement.instructionLegStatus id l.1)
  Tx.modify (mapSettlement (setLegStatus id l.1 .pendingTokenLock))

/-- Withdraw for portfolios, and release. -/
def unsafeWithdrawInstructionAffirmation (secondaryKey : Option SecondaryKey)
    (count : Option AffirmationCount) : Dispatch Unit := do
  let portfolios := orderedSet portfolios
  Tx.read (ensurePortfoliosAndAffirmationStatus id portfolios did secondaryKey .affirmed)
  let s ← Tx.get
  let legs := filteredLegs env id portfolios s
  Tx.read fun _ => ensureValidAffirmationCount legs count
  forM legs.senderSubset (unlockLeg id)
  Tx.modify (mapSettlement (setAffirmations id portfolios .pending .unknown))
  Tx.modify <| mapSettlement fun t =>
    setAffirmsPending id (t.instructionAffirmsPending id + portfolios.length) t

/-- The caller withdraws. -/
def withdrawAffirmation (count : Option AffirmationCount) : Dispatch Unit := do
  let (originData, details) ←
    Tx.read (ensureOriginPermAndInstructionValidity env origin id false)
  unsafeWithdrawInstructionAffirmation env originData.primaryDid id portfolios
    originData.secondaryKey count
  onlyIf (details.settlementType = .settleOnAffirmation)
    (Tx.modify (mapSystem (cancelNamed id)))

/-! ## Mediators -/

/-- The recorded status of a mediator; unknown for an identity that is none. -/
def mediatorAffirmation (did : IdentityId) (s : Storage) : MediatorAffirmationStatus :=
  ((s.settlement.instructionMediatorsAffirmations id).lookup did).getD .unknown

/-- A mediator affirms. -/
def affirmInstructionAsMediator (expiry : Option Moment) : Dispatch Unit := do
  let (originData, details) ←
    Tx.read (ensureOriginPermAndInstructionValidity env origin id false)
  let did := originData.primaryDid
  let s ← Tx.get
  let status := mediatorAffirmation id did s
  Tx.ensure (status ≠ .unknown) (.settlement .callerIsNotAMediator)
  Tx.ensure (∀ e ∈ expiry, s.system.now < e) (.settlement .invalidExpiryDate)
  Tx.modify (mapSettlement (setMediatorAffirmation id did (.affirmed expiry)))
  onlyIf (status = .pending) <| Tx.modify <| mapSettlement fun t =>
    setAffirmsPending id (t.instructionAffirmsPending id - 1) t
  onlyIf (details.settlementType = .settleOnAffirmation)
    (Tx.modify (maybeScheduleInstruction id))

/-- The mediator has affirmed. -/
def ensureMediatorAffirmed : MediatorAffirmationStatus → Query Unit
  | .unknown => .error (.settlement .callerIsNotAMediator)
  | .pending => .error (.settlement .unexpectedAffirmationStatus)
  | .affirmed _ => .ok ()

/-- A mediator withdraws. -/
def withdrawAffirmationAsMediator : Dispatch Unit := do
  let (originData, details) ←
    Tx.read (ensureOriginPermAndInstructionValidity env origin id false)
  let did := originData.primaryDid
  let s ← Tx.get
  Tx.read fun s => ensureMediatorAffirmed (mediatorAffirmation id did s)
  Tx.modify (mapSettlement (setMediatorAffirmation id did .pending))
  Tx.modify <| mapSettlement fun t =>
    setAffirmsPending id (t.instructionAffirmsPending id + 1) t
  onlyIf (s.settlement.instructionAffirmsPending id = 0 ∧
      details.settlementType = .settleOnAffirmation)
    (Tx.modify (mapSystem (cancelNamed id)))

end Settlement

end Polymesh
