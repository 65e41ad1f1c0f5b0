import Polymesh.Library.Runs
import Polymesh.Pallets.Sto
import Polymesh.Pallets.CapitalDistribution

/-!
# The runtime

The calls of the modelled pallets, and the runs of the chain: signed and root calls in any
order, with any environment, interleaved with new blocks and with the executions that the
scheduler has due. A call that fails leaves the storage as it was.
-/

namespace Polymesh

open Transactional OrderedLists

inductive Call
  -- portfolio
  | createPortfolio (name : PortfolioName)
  | deletePortfolio (num : PortfolioNumber)
  | renamePortfolio (num : PortfolioNumber) (toName : PortfolioName)
  | quitPortfolioCustody (pid : PortfolioId)
  | acceptPortfolioCustody (authId : ℕ)
  | movePortfolioFunds (sender receiver : PortfolioId) (funds : List FundDescription)
  | preApprovePortfolio (ticker : Ticker) (pid : PortfolioId)
  | removePortfolioPreApproval (ticker : Ticker) (pid : PortfolioId)
  | allowIdentityToCreatePortfolios (did : IdentityId)
  | revokeCreatePortfoliosPermission (did : IdentityId)
  | createCustodyPortfolio (owner : IdentityId) (name : PortfolioName)
  -- asset
  | registerTicker (ticker : Ticker)
  | acceptTickerTransfer (authId : ℕ)
  | acceptAssetOwnershipTransfer (authId : ℕ)
  | createAsset (ticker : Ticker) (divisible : Bool) (assetType : AssetType)
  | issue (ticker : Ticker) (amount : ℕ) (kind : PortfolioKind)
  | redeem (ticker : Ticker) (value : ℕ) (kind : PortfolioKind)
  | controllerTransfer (ticker : Ticker) (value : ℕ) (sender : PortfolioId)
  | makeDivisible (ticker : Ticker)
  | updateAssetType (ticker : Ticker) (assetType : AssetType)
  | setFreeze (ticker : Ticker) (freeze : Bool)
  | exemptTickerAffirmation (ticker : Ticker)
  | removeTickerAffirmationExemption (ticker : Ticker)
  | preApproveTicker (ticker : Ticker)
  | removeTickerPreApproval (ticker : Ticker)
  | addMandatoryMediators (ticker : Ticker) (mediators : List IdentityId)
  | removeMandatoryMediators (ticker : Ticker) (mediators : List IdentityId)
  -- checkpoints
  | createCheckpoint (ticker : Ticker)
  | setSchedulesMaxComplexity (maxComplexity : ℕ)
  | createSchedule (ticker : Ticker) (schedule : ScheduleCheckpoints)
  | removeSchedule (ticker : Ticker) (id : ScheduleId)
  -- statistics
  | setActiveAssetStats (ticker : Ticker) (statTypes : StatTypes)
  | batchUpdateAssetStats (ticker : Ticker) (statType : StatType) (values : List StatUpdate)
  | setAssetTransferCompliance (ticker : Ticker) (conditions : TransferConditions)
  -- nft
  | createNftCollection (ticker : Ticker) (hasNftType : Bool) (keys : List AssetMetadataKey)
  | issueNft (ticker : Ticker) (attributes : List AssetMetadataKey) (kind : PortfolioKind)
  | redeemNft (ticker : Ticker) (nftId : NFTId) (kind : PortfolioKind)
  | nftControllerTransfer (ticker : Ticker) (nfts : NFTs) (source : PortfolioId)
      (kind : PortfolioKind)
  -- settlement
  | createVenue (signers : List AccountId) (typ : VenueType)
  | updateVenueType (id : VenueId) (typ : VenueType)
  | updateVenueSigners (id : VenueId) (signers : List AccountId) (addSigners : Bool)
  | setVenueFiltering (ticker : Ticker) (enabled : Bool)
  | allowVenues (ticker : Ticker) (venues : List VenueId)
  | disallowVenues (ticker : Ticker) (venues : List VenueId)
  | addInstruction (venueId : VenueId) (settlementType : SettlementType)
      (tradeDate valueDate : Option Moment) (legs : List Leg) (mediators : List IdentityId)
  | addAndAffirmInstruction (venueId : VenueId) (settlementType : SettlementType)
      (tradeDate valueDate : Option Moment) (legs : List Leg) (portfolios : List PortfolioId)
      (mediators : List IdentityId)
  | affirmInstruction (id : InstructionId) (portfolios : List PortfolioId)
      (count : Option AffirmationCount)
  | affirmWithReceipts (id : InstructionId) (receipts : List ReceiptDetails)
      (portfolios : List PortfolioId) (count : Option AffirmationCount)
  | withdrawAffirmation (id : InstructionId) (portfolios : List PortfolioId)
      (count : Option AffirmationCount)
  | affirmInstructionAsMediator (id : InstructionId) (expiry : Option Moment)
  | withdrawAffirmationAsMediator (id : InstructionId)
  | rejectInstruction (id : InstructionId) (portfolio : Option PortfolioId)
      (count : Option AssetCount)
  | executeManualInstruction (id : InstructionId) (portfolio : Option PortfolioId)
      (inputCost : AssetCount)
  | executeScheduledInstruction (id : InstructionId)
  -- sto
  | createFundraiser (offeringPortfolio : PortfolioId) (offeringAsset : Ticker)
      (raisingPortfolio : PortfolioId) (raisingAsset : Ticker) (tiers : List PriceTier)
      (venueId : VenueId) (start end_ : Option Moment) (minimumInvestment : ℕ)
  | invest (investmentPortfolio fundingPortfolio : PortfolioId) (offeringAsset : Ticker)
      (id : FundraiserId) (purchaseAmount : ℕ) (maxPrice : Option ℕ)
      (receipt : Option ReceiptDetails)
  | setFrozen (offeringAsset : Ticker) (id : FundraiserId) (frozen : Bool)
  | modifyFundraiserWindow (offeringAsset : Ticker) (id : FundraiserId) (start : Moment)
      (end_ : Option Moment)
  | stop (offeringAsset : Ticker) (id : FundraiserId)
  -- capital distribution
  | distribute (caId : CAId) (portfolio : PortfolioKind) (currency : Ticker)
      (perShare amount : ℕ) (paymentAt : Moment) (expiresAt : Option Moment)
  | initiateCorporateActionAndDistribute (ticker : Ticker) (portfolio : PortfolioKind)
      (currency : Ticker) (perShare amount : ℕ) (paymentAt : Moment)
      (expiresAt : Option Moment)
  | claim (caId : CAId)
  | pushBenefit (caId : CAId) (holder : IdentityId)
  | reclaim (caId : CAId)
  | removeDistribution (caId : CAId)
  | removeCa (caId : CAId)

/-- What a call runs. -/
def dispatch (env : Env) (origin : RuntimeOrigin) : Call → Dispatch Unit
  | .createPortfolio name => Portfolio.createPortfolio env origin name
  | .deletePortfolio num => Portfolio.deletePortfolio env origin num
  | .renamePortfolio num toName => Portfolio.renamePortfolio env origin num toName
  | .quitPortfolioCustody pid => Portfolio.quitPortfolioCustody env origin pid
  | .acceptPortfolioCustody authId => Portfolio.acceptPortfolioCustody env origin authId
  | .movePortfolioFunds sender receiver funds =>
    Portfolio.movePortfolioFunds env origin sender receiver funds
  | .preApprovePortfolio ticker pid => Portfolio.preApprovePortfolio env origin ticker pid
  | .removePortfolioPreApproval ticker pid =>
    Portfolio.removePortfolioPreApproval env origin ticker pid
  | .allowIdentityToCreatePortfolios did =>
    Portfolio.allowIdentityToCreatePortfolios env origin did
  | .revokeCreatePortfoliosPermission did =>
    Portfolio.revokeCreatePortfoliosPermission env origin did
  | .createCustodyPortfolio owner name =>
    Portfolio.createCustodyPortfolio env origin owner name
  | .registerTicker ticker => Asset.registerTicker env origin ticker
  | .acceptTickerTransfer authId => Asset.acceptTickerTransfer env origin authId
  | .acceptAssetOwnershipTransfer authId => Asset.acceptAssetOwnershipTransfer env origin authId
  | .createAsset ticker divisible assetType =>
    Asset.createAsset env origin ticker divisible assetType
  | .issue ticker amount kind => Asset.baseIssue env origin ticker amount kind
  | .redeem ticker value kind => Asset.baseRedeem env origin ticker value kind
  | .controllerTransfer ticker value sender =>
    Asset.baseControllerTransfer env origin ticker value sender
  | .makeDivisible ticker => Asset.makeDivisible env origin ticker
  | .updateAssetType ticker assetType => Asset.updateAssetType env origin ticker assetType
  | .setFreeze ticker freeze => Asset.setFreeze env origin ticker freeze
  | .exemptTickerAffirmation ticker => Asset.exemptTickerAffirmation origin ticker
  | .removeTickerAffirmationExemption ticker =>
    Asset.removeTickerAffirmationExemption origin ticker
  | .preApproveTicker ticker => Asset.preApproveTicker env origin ticker
  | .removeTickerPreApproval ticker => Asset.removeTickerPreApproval env origin ticker
  | .addMandatoryMediators ticker mediators =>
    Asset.addMandatoryMediators env origin ticker mediators
  | .removeMandatoryMediators ticker mediators =>
    Asset.removeMandatoryMediators env origin ticker mediators
  | .createCheckpoint ticker => Checkpoint.createCheckpoint env origin ticker
  | .setSchedulesMaxComplexity maxComplexity =>
    Checkpoint.setSchedulesMaxComplexity origin maxComplexity
  | .createSchedule ticker schedule => Checkpoint.createSchedule env origin ticker schedule
  | .removeSchedule ticker id => Checkpoint.removeSchedule env origin ticker id
  | .setActiveAssetStats ticker statTypes =>
    Statistics.setActiveAssetStats env origin ticker statTypes
  | .batchUpdateAssetStats ticker statType values =>
    Statistics.batchUpdateAssetStats env origin ticker statType values
  | .setAssetTransferCompliance ticker conditions =>
    Statistics.setAssetTransferCompliance env origin ticker conditions
  | .createNftCollection ticker hasNftType keys =>
    NFT.createNftCollection env origin ticker hasNftType keys
  | .issueNft ticker attributes kind => NFT.issueNft env origin ticker attributes kind
  | .redeemNft ticker nftId kind => NFT.redeemNft env origin ticker nftId kind
  | .nftControllerTransfer ticker nfts source kind =>
    NFT.controllerTransfer env origin ticker nfts source kind
  | .createVenue signers typ => Settlement.createVenue env origin signers typ
  | .updateVenueType id typ => Settlement.updateVenueType env origin id typ
  | .updateVenueSigners id signers addSigners =>
    Settlement.updateVenueSigners env origin id signers addSigners
  | .setVenueFiltering ticker enabled => Settlement.setVenueFiltering env origin ticker enabled
  | .allowVenues ticker venues => Settlement.allowVenues env origin ticker venues
  | .disallowVenues ticker venues => Settlement.disallowVenues env origin ticker venues
  | .addInstruction venueId settlementType tradeDate valueDate legs mediators =>
    Settlement.addInstruction env origin venueId settlementType tradeDate valueDate legs
      mediators
  | .addAndAffirmInstruction venueId settlementType tradeDate valueDate legs portfolios
      mediators =>
    Settlement.addAndAffirmInstruction env origin venueId settlementType tradeDate valueDate
      legs portfolios mediators
  | .affirmInstruction id portfolios count =>
    Settlement.affirmAndMaybeScheduleInstruction env origin id portfolios count
  | .affirmWithReceipts id receipts portfolios count =>
    Settlement.affirmWithReceiptsAndMaybeScheduleInstruction env origin id receipts portfolios
      count
  | .withdrawAffirmation id portfolios count =>
    Settlement.withdrawAffirmation env origin id portfolios count
  | .affirmInstructionAsMediator id expiry =>
    Settlement.affirmInstructionAsMediator env origin id expiry
  | .withdrawAffirmationAsMediator id =>
    Settlement.withdrawAffirmationAsMediator env origin id
  | .rejectInstruction id portfolio count =>
    Settlement.rejectInstruction env origin id portfolio count
  | .executeManualInstruction id portfolio inputCost =>
    Settlement.executeManualInstruction env origin id portfolio inputCost
  | .executeScheduledInstruction id => Settlement.executeScheduledInstruction env origin id
  | .createFundraiser offeringPortfolio offeringAsset raisingPortfolio raisingAsset tiers
      venueId start end_ minimumInvestment =>
    Sto.createFundraiser env origin offeringPortfolio offeringAsset raisingPortfolio
      raisingAsset tiers venueId start end_ minimumInvestment
  | .invest investmentPortfolio fundingPortfolio offeringAsset id purchaseAmount maxPrice
      receipt =>
    Sto.invest env origin investmentPortfolio fundingPortfolio offeringAsset id purchaseAmount
      maxPrice receipt
  | .setFrozen offeringAsset id frozen => Sto.setFrozen env origin offeringAsset id frozen
  | .modifyFundraiserWindow offeringAsset id start end_ =>
    Sto.modifyFundraiserWindow env origin offeringAsset id start end_
  | .stop offeringAsset id => Sto.stop env origin offeringAsset id
  | .distribute caId portfolio currency perShare amount paymentAt expiresAt =>
    CapitalDistribution.distribute env origin caId portfolio currency perShare amount paymentAt
      expiresAt
  | .initiateCorporateActionAndDistribute ticker portfolio currency perShare amount paymentAt
      expiresAt =>
    CapitalDistribution.initiateCorporateActionAndDistribute env origin ticker portfolio
      currency perShare amount paymentAt expiresAt
  | .claim caId => CapitalDistribution.claim env origin caId
  | .pushBenefit caId holder => CapitalDistribution.pushBenefit env origin caId holder
  | .reclaim caId => CapitalDistribution.reclaim env origin caId
  | .removeDistribution caId => CapitalDistribution.removeDistribution env origin caId
  | .removeCa caId => CapitalDistribution.removeCa env origin caId

/-- What can happen next on the chain. -/
inductive Action
  /-- A call of the given origin. -/
  | extrinsic (env : Env) (origin : RuntimeOrigin) (call : Call)
  /-- The scheduler executes the instruction if that is due. -/
  | scheduled (env : Env) (id : InstructionId)
  /-- A new block, later by the given time. -/
  | nextBlock (elapsed : Moment)

/-- Whether the scheduler has the execution of the instruction due. -/
def taskDue (id : InstructionId) (s : Storage) : Bool :=
  (s.system.agenda id).any (· ≤ s.system.blockNumber)

def step : Action → Storage → Storage
  | .extrinsic env origin call, s => (Tx.transaction (dispatch env origin call) s).2
  | .scheduled env id, s =>
    if taskDue id s then
      (Tx.transaction (Settlement.executeScheduledInstruction env .root id)
        (s.mapSystem (Settlement.cancelNamed id))).2
    else s
  | .nextBlock elapsed, s =>
    s.mapSystem fun y => { y with blockNumber := y.blockNumber + 1, now := y.now + elapsed }

/-- A ticker without checkpoints. -/
def TickerCheckpoints.initial : TickerCheckpoints where
  totalSupply := fun _ => 0
  balance := fun _ _ => none
  checkpointIdSequence := 0
  balanceUpdates := fun _ => []
  timestamps := fun _ => 0
  scheduleIdSequence := 0
  cachedNextCheckpoints := none
  scheduledCheckpoints := fun _ => none
  scheduleRefCount := fun _ => 0
  schedulePoints := fun _ => []

/-- The empty chain. Venue and instruction ids start at one, and the schedules of a ticker may
have a year of weekly checkpoints. -/
def genesis : Storage where
  system := ⟨0, 0, fun _ => none⟩
  portfolio :=
    { nextPortfolioNumber := fun _ => ⟨1⟩
      portfolios := fun _ _ => none
      nameToNumber := fun _ _ => none
      portfolioAssetCount := fun _ => 0
      portfolioAssetBalances := fun _ _ => 0
      portfolioLockedAssets := fun _ _ => 0
      portfolioCustodian := fun _ => none
      portfoliosInCustody := fun _ _ => false
      portfolioNFT := fun _ => ∅
      portfolioLockedNFT := fun _ => ∅
      preApprovedPortfolios := fun _ _ => false
      allowedCustodians := fun _ _ => false }
  asset :=
    { tokens := fun _ => none
      balanceOf := fun _ _ => 0
      frozen := fun _ => false
      mandatoryMediators := fun _ => []
      tickersExemptFromAffirmation := fun _ => false
      preApprovedTicker := fun _ _ => false
      tickers := fun _ => none
      assetOwnershipRelations := fun _ _ => .notOwned }
  checkpoint := ⟨52, fun _ => .initial⟩
  statistics := ⟨fun _ => ⟨.empty _, fun _ _ => 0, .empty _⟩⟩
  nft :=
    { numberOfNFTs := fun _ _ => 0
      collectionTicker := fun _ => none
      collectionKeys := fun _ => []
      nextCollectionId := ⟨0⟩
      nextNFTId := fun _ => ⟨0⟩
      nftsInCollection := fun _ => 0
      nftOwner := fun _ _ => none }
  settlement :=
    { venueInfo := fun _ => none
      venueSigners := fun _ _ => false
      numberOfVenueSigners := fun _ => 0
      instructionDetails := fun _ => default
      instructionLegStatus := fun _ _ => .pendingTokenLock
      instructionAffirmsPending := fun _ => 0
      affirmsReceived := fun _ _ => .unknown
      userAffirmations := fun _ _ => .unknown
      receiptsUsed := fun _ _ => false
      venueFiltering := fun _ => false
      venueAllowList := fun _ _ => false
      venueCounter := ⟨1⟩
      instructionCounter := ⟨1⟩
      instructionStatuses := fun _ => .unknown
      instructionLegs := fun _ => ∅
      offChainAffirmations := fun _ _ => .unknown
      instructionMediatorsAffirmations := fun _ => ∅ }
  sto := ⟨fun _ _ => none, fun _ => ⟨0⟩⟩
  distribution := ⟨fun _ => none, fun _ _ => false⟩

/-- The states of the chain in every run from the empty one. -/
abbrev Reachable (s : Storage) : Prop := TransitionSystem.Reachable step genesis s

/-- The states of the runs all of whose steps meet a condition. -/
abbrev ReachableBy (P : Storage → Action → Prop) (s : Storage) : Prop :=
  TransitionSystem.ReachableBy step P genesis s

/-- The arithmetic that rounds every result down. -/
def Permill.rounded : Permill where
  fromRational p q := min p (max q 1) * 1000000 / max q 1
  fromRational_le_iff {p q m} h := by
    rw [min_eq_left (h.trans (le_max_left q 1)), ← Nat.lt_succ_iff,
      Nat.div_lt_iff_lt_mul (lt_max_of_lt_right Nat.one_pos)]
  mul parts x := x * parts / 1000000

/-- An environment in which the pallets that are not modelled consent: an account acts for the
identity of the same bytes, and an identity is a full agent of the ticker of the same bytes. -/
def Env.consenting : Env where
  maxNumberOfFungibleAssets := 10
  maxNumberOfNFTs := 100
  maxNumberOfNFTsCount := 10
  maxNumberOfCollectionKeys := 10
  maxNumberOfOffChainAssets := 10
  maxNumberOfVenueSigners := 50
  maxAssetMediators := 4
  maxStatsPerAsset := 10
  maxTransferConditionsPerAsset := 4
  registrationLength := some 5184000000
  legOrder := id
  legOrder_perm := fun _ => .refl _
  mediatorOrder := id
  mediatorOrder_perm := fun _ => .refl _
  ensureOriginCallPermissions := fun
    | .signed account => .ok ⟨⟨account.bytes⟩, none⟩
    | _ => .error .badOrigin
  groupOfAgent := fun ticker did =>
    if ticker.bytes.val = did.bytes.val then some .full else none
  groupPermissions := fun _ _ => none
  currentPalletName := "Asset"
  currentDispatchableName := "issue"
  ensureStringLimited := fun _ => .ok ()
  portfolioCustodyAuthorization := fun _ _ => .error .unauthorized
  isCompliant := fun _ _ _ _ => .ok true
  verifyTransferRestrictions := fun _ _ _ _ _ => .ok ()
  transferTickerAuthorization := fun _ _ => .error .unauthorized
  transferAssetOwnershipAuthorization := fun _ _ => .error .unauthorized
  fetchClaim := fun _ _ _ _ => none
  permill := .rounded
  withinStatisticsWeight := fun _ _ => true
  chargeFees := fun _ _ => .ok ()
  ensureCreateAsset := fun _ _ _ => .ok ()
  verifyTickerCharacters := fun t => ensure t.Valid (.asset .invalidTickerCharacter)
  verifyTickerCharacters_ok := fun _ => ensure_eq_ok.mp
  ensureTickerLength := fun _ => .ok ()
  ensureTokenDidFresh := fun _ _ => .ok ()
  ensureAssetTypeValid := fun _ => .ok ()
  checkAssetMetadataKeyExists := fun _ _ _ => true
  verifySignature := fun _ _ _ => true
  validWeightLimit := true
  withinWeightLimit := fun _ _ => true
  corporateAction := fun _ _ => some ⟨true, some ⟨0, .existing 0⟩, fun _ => true, fun _ => 0⟩
  initiateCorporateAction := fun _ _ ticker => .ok ⟨ticker, ⟨0⟩⟩

/-- A call of the identity with the given bytes, where everybody consents. -/
def Action.calls (caller : Fin (2 ^ 256)) (call : Call) : Action :=
  .extrinsic .consenting (.signed ⟨caller⟩) call

/-- A call either fails and leaves the storage as it was, or succeeds and leaves what its
dispatch wrote. -/
theorem step_extrinsic (env : Env) (origin : RuntimeOrigin) (call : Call) (s : Storage) :
    step (.extrinsic env origin call) s = s ∨
      dispatch env origin call s = (.ok (), step (.extrinsic env origin call) s) := by
  simp only [step, Tx.transaction]
  rcases dispatch env origin call s with ⟨_ | u, s'⟩
  · exact .inl rfl
  · exact .inr rfl

variable {env : Env} {origin : RuntimeOrigin} {call : Call} {s : Storage} {β : Type}

theorem dispatch_of_ok (h : (dispatch env origin call s).1 = .ok ()) :
    dispatch env origin call s = (.ok (), step (.extrinsic env origin call) s) := by
  simp only [step, Tx.transaction]
  rcases hrun : dispatch env origin call s with ⟨_ | u, s'⟩
  · rw [hrun] at h
    cases h
  · rfl

/-- What is counted of the calls that succeed: the value of a function at the call, and nothing
for any other action. -/
def Action.onSuccess {β : Type} (f : Env → RuntimeOrigin → Call → List β) (s : Storage) :
    Action → List β
  | .extrinsic env origin call =>
    match (dispatch env origin call s).1 with
    | .ok _ => f env origin call
    | .error _ => []
  | _ => []

theorem onSuccess_of_ok {f : Env → RuntimeOrigin → Call → List β} {s' : Storage}
    (h : dispatch env origin call s = (.ok (), s')) :
    (Action.extrinsic env origin call).onSuccess f s = f env origin call := by
  simp only [Action.onSuccess, h]

theorem ok_of_onSuccess {f : Env → RuntimeOrigin → Call → List β} {a : Action}
    (h : a.onSuccess f s ≠ []) :
    ∃ env origin call, a = .extrinsic env origin call ∧ f env origin call ≠ [] ∧
      dispatch env origin call s = (.ok (), step a s) := by
  cases a with
  | extrinsic env origin call =>
    rcases hrun : dispatch env origin call s with ⟨_ | u, s'⟩
    · simp [Action.onSuccess, hrun] at h
    · rw [onSuccess_of_ok hrun] at h
      exact ⟨env, origin, call, rfl, h, by simp [step, Tx.transaction, hrun]⟩
  | scheduled env id | nextBlock elapsed => exact absurd rfl h

end Polymesh
