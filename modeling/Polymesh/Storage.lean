import Mathlib.Data.Finset.Basic
import Mathlib.Data.List.AList
import Mathlib.Tactic.Simps.Basic
import Polymesh.Library.Transaction
import Polymesh.Primitives.Checkpoint
import Polymesh.Primitives.Statistics

/-!
# Storage, errors and the environment of a call

The storage of the runtime is one record with a part for every pallet. A map with a default
value is a total function, a map to `bool` that is only ever set and removed is the finite
set of its keys, and a map that a loop iterates is an association list.

Pallets that only answer a question of the modelled ones (identities, keys and their claims,
external agents, compliance, fees, corporate action records) are part of the environment of a
call, about which nothing is assumed but that iterating a storage prefix visits every entry
once.
-/

namespace Polymesh

open Transactional OrderedLists

/-! ## Storage -/

structure PortfolioStorage where
  nextPortfolioNumber : IdentityId → PortfolioNumber
  portfolios : IdentityId → PortfolioNumber → Option PortfolioName
  nameToNumber : IdentityId → PortfolioName → Option PortfolioNumber
  portfolioAssetCount : PortfolioId → ℕ
  portfolioAssetBalances : PortfolioId → Ticker → ℕ
  portfolioLockedAssets : PortfolioId → Ticker → ℕ
  portfolioCustodian : PortfolioId → Option IdentityId
  portfoliosInCustody : IdentityId → PortfolioId → Bool
  portfolioNFT : PortfolioId → Finset (Ticker × NFTId)
  portfolioLockedNFT : PortfolioId → Finset (Ticker × NFTId)
  preApprovedPortfolios : PortfolioId → Ticker → Bool
  allowedCustodians : IdentityId → IdentityId → Bool

structure AssetStorage where
  tokens : Ticker → Option SecurityToken
  balanceOf : Ticker → IdentityId → ℕ
  frozen : Ticker → Bool
  mandatoryMediators : Ticker → List IdentityId
  tickersExemptFromAffirmation : Ticker → Bool
  preApprovedTicker : IdentityId → Ticker → Bool
  tickers : Ticker → Option TickerRegistration
  assetOwnershipRelations : IdentityId → Ticker → AssetOwnershipRelation

/-- The checkpoints and the checkpoint schedules of one ticker. Checkpoints are numbered from
one; the next number is checked to fit 64 bits. -/
structure TickerCheckpoints where
  totalSupply : ℕ → ℕ
  balance : ℕ → IdentityId → Option ℕ
  checkpointIdSequence : ℕ
  balanceUpdates : IdentityId → List ℕ
  timestamps : ℕ → Moment
  scheduleIdSequence : ScheduleId
  cachedNextCheckpoints : Option NextCheckpoints
  scheduledCheckpoints : ScheduleId → Option ScheduleCheckpoints
  scheduleRefCount : ScheduleId → ℕ
  schedulePoints : ScheduleId → List ℕ

structure CheckpointStorage where
  schedulesMaxComplexity : ℕ
  ofTicker : Ticker → TickerCheckpoints

/-- The statistics of one ticker and the conditions that read them. -/
structure TickerStatistics where
  activeAssetStats : StatTypes
  assetStats : StatType → Stat2ndKey → ℕ
  assetTransferCompliance : TransferConditions

structure StatisticsStorage where
  ofTicker : Ticker → TickerStatistics

structure NFTStorage where
  numberOfNFTs : Ticker → IdentityId → ℕ
  collectionTicker : Ticker → Option NFTCollectionId
  collectionKeys : NFTCollectionId → List AssetMetadataKey
  nextCollectionId : NFTCollectionId
  nextNFTId : NFTCollectionId → NFTId
  nftsInCollection : Ticker → ℕ
  nftOwner : Ticker → NFTId → Option PortfolioId

structure SettlementStorage where
  venueInfo : VenueId → Option Venue
  venueSigners : VenueId → AccountId → Bool
  numberOfVenueSigners : VenueId → ℕ
  instructionDetails : InstructionId → Instruction
  instructionLegStatus : InstructionId → LegId → LegStatus
  instructionAffirmsPending : InstructionId → ℕ
  affirmsReceived : InstructionId → PortfolioId → AffirmationStatus
  userAffirmations : PortfolioId → InstructionId → AffirmationStatus
  receiptsUsed : AccountId → ℕ → Bool
  venueFiltering : Ticker → Bool
  venueAllowList : Ticker → VenueId → Bool
  venueCounter : VenueId
  instructionCounter : InstructionId
  instructionStatuses : InstructionId → InstructionStatus
  instructionLegs : InstructionId → AList fun _ : LegId => Leg
  offChainAffirmations : InstructionId → LegId → AffirmationStatus
  instructionMediatorsAffirmations :
    InstructionId → AList fun _ : IdentityId => MediatorAffirmationStatus

inductive FundraiserStatus
  | live
  | frozen
  | closed
  | closedEarly
deriving DecidableEq

structure PriceTier where
  total : ℕ
  price : ℕ
deriving DecidableEq

structure FundraiserTier where
  total : ℕ
  price : ℕ
  remaining : ℕ
deriving DecidableEq

structure Fundraiser where
  creator : IdentityId
  offeringPortfolio : PortfolioId
  offeringAsset : Ticker
  raisingPortfolio : PortfolioId
  raisingAsset : Ticker
  tiers : List FundraiserTier
  venueId : VenueId
  start : Moment
  end_ : Option Moment
  status : FundraiserStatus
  minimumInvestment : ℕ
deriving DecidableEq

def Fundraiser.isClosed (f : Fundraiser) : Bool :=
  f.status = .closed ∨ f.status = .closedEarly

structure StoStorage where
  fundraisers : Ticker → FundraiserId → Option Fundraiser
  fundraiserCount : Ticker → FundraiserId

/-- A capital distribution: what is paid per share, from where, and what is left. -/
structure Distribution where
  from_ : PortfolioId
  currency : Ticker
  perShare : ℕ
  amount : ℕ
  remaining : ℕ
  reclaimed : Bool
  paymentAt : Moment
  expiresAt : Option Moment
deriving DecidableEq

structure DistributionStorage where
  distributions : CAId → Option Distribution
  holderPaid : CAId → IdentityId → Bool

/-- The clock, and the scheduler's agenda of instruction executions by name. -/
structure SystemStorage where
  blockNumber : BlockNumber
  now : Moment
  agenda : InstructionId → Option BlockNumber

structure Storage where
  system : SystemStorage
  portfolio : PortfolioStorage
  asset : AssetStorage
  checkpoint : CheckpointStorage
  statistics : StatisticsStorage
  nft : NFTStorage
  settlement : SettlementStorage
  sto : StoStorage
  distribution : DistributionStorage

/-! ## Errors -/

inductive PortfolioError
  | portfolioDoesNotExist
  | insufficientPortfolioBalance
  | destinationIsSamePortfolio
  | portfolioNameAlreadyInUse
  | secondaryKeyNotAuthorizedForPortfolio
  | unauthorizedCustodian
  | insufficientTokensLocked
  | portfolioNotEmpty
  | differentIdentityPortfolios
  | noDuplicateAssetsAllowed
  | nftNotFoundInPortfolio
  | nftAlreadyLocked
  | nftNotLocked
  | invalidTransferNFTNotOwned
  | invalidTransferNFTIsLocked
  | emptyTransfer
  | missingOwnersPermission
deriving DecidableEq

inductive AssetError
  | tickerAlreadyRegistered
  | tickerRegistrationExpired
  | assetAlreadyCreated
  | totalSupplyAboveLimit
  | noSuchAsset
  | alreadyFrozen
  | balanceOverflow
  | totalSupplyOverflow
  | invalidGranularity
  | notFrozen
  | invalidTransfer
  | insufficientBalance
  | assetAlreadyDivisible
  | senderSameAsReceiver
  | unexpectedNonFungibleToken
  | incompatibleAssetTypeUpdate
  | numberOfAssetMediatorsExceeded
  | invalidTickerCharacter
deriving DecidableEq

inductive CheckpointError
  | noSuchSchedule
  | scheduleNotRemovable
  | schedulesOverMaxComplexity
  | scheduleIsEmpty
  | scheduleHasExpiredCheckpoints
  | scheduleFinished
deriving DecidableEq

inductive StatisticsError
  | statTypeMissing
  | statTypeLimitReached
  | cannotRemoveStatTypeInUse
  | transferConditionLimitReached
  | weightLimitExceeded
  | invalidTransfer
deriving DecidableEq

inductive NFTError
  | balanceOverflow
  | balanceUnderflow
  | collectionAlredyRegistered
  | collectionNotFound
  | duplicateMetadataKey
  | duplicatedNFTId
  | invalidAssetType
  | invalidMetadataAttribute
  | invalidNFTTransferCollectionNotFound
  | invalidNFTTransferSamePortfolio
  | invalidNFTTransferNFTNotOwned
  | invalidNFTTransferCountOverflow
  | invalidNFTTransferComplianceFailure
  | invalidNFTTransferFrozenAsset
  | invalidNFTTransferInsufficientCount
  | maxNumberOfKeysExceeded
  | maxNumberOfNFTsPerLegExceeded
  | nftNotFound
  | unregisteredMetadataKey
  | zeroCount
  | supplyOverflow
  | supplyUnderflow
  | invalidNFTTransferNFTIsLocked
deriving DecidableEq

inductive SettlementError
  | invalidVenue
  | unauthorized
  | instructionNotAffirmed
  | unauthorizedSigner
  | receiptAlreadyClaimed
  | unauthorizedVenue
  | instructionDatesInvalid
  | instructionSettleBlockPassed
  | invalidSignature
  | sameSenderReceiver
  | settleOnPastBlock
  | unexpectedAffirmationStatus
  | unknownInstruction
  | signerAlreadyExists
  | signerDoesNotExist
  | zeroAmount
  | instructionSettleBlockNotReached
  | callerIsNotAParty
  | maxNumberOfNFTsExceeded
  | numberOfTransferredNFTsUnderestimated
  | receiptForInvalidLegType
  | weightLimitExceeded
  | maxNumberOfFungibleAssetsExceeded
  | maxNumberOfOffChainAssetsExceeded
  | numberOfFungibleTransfersUnderestimated
  | unexpectedOFFChainAsset
  | offChainAssetCantBeLocked
  | numberOfOffChainTransfersUnderestimated
  | legNotFound
  | inputWeightIsLessThanMinimum
  | maxNumberOfReceiptsExceeded
  | notAllAffirmationsHaveBeenReceived
  | invalidInstructionStatusForExecution
  | failedToReleaseLockOrTransferAssets
  | duplicateReceiptUid
  | receiptInstructionIdMissmatch
  | multipleReceiptsForOneLeg
  | unexpectedLegStatus
  | numberOfVenueSignersExceeded
  | callerIsNotAMediator
  | invalidExpiryDate
  | mediatorAffirmationExpired
deriving DecidableEq

inductive StoError
  | unauthorized
  | overflow
  | insufficientTokensRemaining
  | fundraiserNotFound
  | fundraiserNotLive
  | fundraiserClosed
  | fundraiserExpired
  | invalidVenue
  | invalidPriceTiers
  | invalidOfferingWindow
  | maxPriceExceeded
  | investmentAmountTooLow
deriving DecidableEq

inductive DistributionError
  | caNotBenefit
  | alreadyExists
  | expiryBeforePayment
  | holderAlreadyPaid
  | noSuchDistribution
  | cannotClaimBeforeStart
  | cannotClaimAfterExpiry
  | balancePerShareProductOverflowed
  | notDistributionCreator
  | alreadyReclaimed
  | notExpired
  | distributionStarted
  | insufficientRemainingAmount
  | distributionAmountIsZero
  | distributionPerShareIsZero
deriving DecidableEq

inductive ExternalAgentsError
  | noSuchAG
  | unauthorizedAgent
  | alreadyAnAgent
  | notAnAgent
  | removingLastFullAgent
  | secondaryKeyNotAuthorizedForAsset
deriving DecidableEq

inductive CorporateActionError
  | detailsTooLong
  | duplicateDidTax
  | tooManyDidTaxes
  | tooManyTargetIds
  | noSuchCheckpointId
  | noSuchCA
  | noRecordDate
  | recordDateAfterStart
  | declDateAfterRecordDate
  | declDateInFuture
  | notTargetedByCA
deriving DecidableEq

inductive BallotError
  | caNotNotice
  | alreadyExists
  | noSuchBallot
  | startAfterEnd
  | nowAfterEnd
  | numberOfChoicesOverflow
  | votingAlreadyStarted
  | votingNotStarted
  | votingAlreadyEnded
  | wrongVoteCount
  | insufficientVotes
  | noSuchRCVFallback
  | rcvSelfCycle
  | rcvNotAllowed
deriving DecidableEq

inductive DispatchError
  | badOrigin
  | counterOverflow
  /-- The authorization was not given by the right identity. -/
  | unauthorized
  | portfolio (e : PortfolioError)
  | asset (e : AssetError)
  | checkpoint (e : CheckpointError)
  | statistics (e : StatisticsError)
  | nft (e : NFTError)
  | settlement (e : SettlementError)
  | sto (e : StoError)
  | distribution (e : DistributionError)
  | externalAgents (e : ExternalAgentsError)
  | corporateAction (e : CorporateActionError)
  | ballot (e : BallotError)
  /-- An error of a pallet of the environment. -/
  | other (code : ℕ)
deriving DecidableEq

/-- Computations over the storage of the runtime. -/
abbrev Dispatch (α : Type) := Tx Storage DispatchError α

/-- Checks and queries of the storage. -/
abbrev Query (α : Type) := Except DispatchError α

/-! ## The environment of a call -/

inductive RuntimeOrigin
  | root
  | signed (account : AccountId)
  | none
deriving DecidableEq

/-- The operations of the modelled pallets that a protocol fee is charged for. -/
inductive ProtocolOp
  | assetRegisterTicker
  | assetIssue
  | assetCreateAsset
  | checkpointCreateSchedule
  | capitalDistributionDistribute
deriving DecidableEq

/-- The checkpoint of a record date. -/
inductive CACheckpoint
  /-- The one that a schedule makes after the given number of others. -/
  | scheduled (id : ScheduleId) (idx : ℕ)
  | existing (id : ℕ)

/-- When the holdings of a ticker count for a corporate action. -/
structure RecordDate where
  date : Moment
  checkpoint : CACheckpoint

/-- What a capital distribution reads of the corporate action it belongs to. -/
structure CorporateAction where
  isBenefit : Bool
  recordDate : Option RecordDate
  targets : IdentityId → Bool
  /-- The withholding tax of an identity, in parts per million. -/
  taxOf : IdentityId → Fin 1000001

/-- **The arithmetic of `Permill`**, which is not part of the repository. -/
structure Permill where
  /-- A ratio in parts per million. -/
  fromRational : ℕ → ℕ → ℕ
  /-- A ratio of at most one is rounded down. -/
  fromRational_le_iff {p q m : ℕ} (h : p ≤ q) :
    fromRational p q ≤ m ↔ p * 1000000 < (m + 1) * max q 1
  /-- The product of some parts and an amount. -/
  mul : ℕ → ℕ → ℕ

/-- **The environment of a call**: the runtime constants, the order in which storage
prefixes are iterated, and the answers of the pallets that are not modelled. The answers
may depend on the storage in any way. -/
structure Env where
  maxNumberOfFungibleAssets : ℕ
  maxNumberOfNFTs : ℕ
  maxNumberOfNFTsCount : ℕ
  maxNumberOfCollectionKeys : ℕ
  maxNumberOfOffChainAssets : ℕ
  maxNumberOfVenueSigners : ℕ
  maxAssetMediators : ℕ
  maxStatsPerAsset : ℕ
  maxTransferConditionsPerAsset : ℕ
  /-- How long a ticker is registered; for ever if there is no length. -/
  registrationLength : Option Moment
  /-- The order in which the legs of an instruction are iterated. -/
  legOrder : List (LegId × Leg) → List (LegId × Leg)
  legOrder_perm : ∀ legs, (legOrder legs).Perm legs
  /-- The order in which the mediators of an instruction are iterated. -/
  mediatorOrder : List (IdentityId × MediatorAffirmationStatus) →
    List (IdentityId × MediatorAffirmationStatus)
  mediatorOrder_perm : ∀ entries, (mediatorOrder entries).Perm entries
  /-- The identity that a call acts for, if its key may make the call. -/
  ensureOriginCallPermissions : RuntimeOrigin → Query PermissionedCallOriginData
  groupOfAgent : Ticker → IdentityId → Option AgentGroup
  groupPermissions : Ticker → AGId → Option ExtrinsicPermissions
  currentPalletName : PalletName
  currentDispatchableName : DispatchableName
  ensureStringLimited : PortfolioName → Query Unit
  /-- Who authorized the identity, by the authorization of the given id, to take custody of
  which portfolio. -/
  portfolioCustodyAuthorization : IdentityId → ℕ → Query (IdentityId × PortfolioId)
  /-- Who authorized the identity to take over which ticker. -/
  transferTickerAuthorization : IdentityId → ℕ → Query (IdentityId × Ticker)
  /-- Who authorized the identity to take over which asset. -/
  transferAssetOwnershipAuthorization : IdentityId → ℕ → Query (IdentityId × Ticker)
  /-- The claim of the given type and scope that the issuer has made about an identity. -/
  fetchClaim : IdentityId → ClaimType → IdentityId → Scope → Option Claim
  isCompliant : Storage → Ticker → IdentityId → IdentityId → Query Bool
  verifyTransferRestrictions : Storage → Ticker → IdentityId → IdentityId → ℕ → Query Unit
  permill : Permill
  /-- Whether the weight of updating the statistics of a ticker is within the limit. -/
  withinStatisticsWeight : Storage → Ticker → Bool
  /-- Charges the fee for some operations to the payer. -/
  chargeFees : List ProtocolOp → Storage → Query Unit
  /-- The checks on the name, the identifiers and the funding round of a new asset. -/
  ensureCreateAsset : Storage → IdentityId → Ticker → Query Unit
  verifyTickerCharacters : Ticker → Query Unit
  verifyTickerCharacters_ok : ∀ t, verifyTickerCharacters t = .ok () → t.Valid
  ensureTickerLength : Ticker → Query Unit
  /-- That the identity of a ticker has not been used. -/
  ensureTokenDidFresh : Storage → Ticker → Query Unit
  ensureAssetTypeValid : AssetType → Query Unit
  checkAssetMetadataKeyExists : Storage → Ticker → AssetMetadataKey → Bool
  /-- Whether the signature is that of the account under the receipt. -/
  verifySignature : ℕ → Receipt → AccountId → Bool
  /-- Whether the weight limit that the caller gives is at least the minimum charge. -/
  validWeightLimit : Bool
  /-- Whether the weight of executing an instruction fits the caller's limit. -/
  withinWeightLimit : Storage → InstructionId → Bool
  corporateAction : Storage → CAId → Option CorporateAction
  /-- The id of a corporate action that the identity initiates for a ticker. -/
  initiateCorporateAction : Storage → IdentityId → Ticker → Query CAId

/-- The identity that a call acts for. -/
def Env.ensurePerms (env : Env) (origin : RuntimeOrigin) : Query IdentityId :=
  PermissionedCallOriginData.primaryDid <$> env.ensureOriginCallPermissions origin

/-! ## Views and parts of the storage -/

namespace Storage

/-- Change the part of the portfolio pallet. -/
@[simps] def mapPortfolio (f : PortfolioStorage → PortfolioStorage) (s : Storage) : Storage :=
  { s with portfolio := f s.portfolio }

/-- Change the part of the asset pallet. -/
@[simps] def mapAsset (f : AssetStorage → AssetStorage) (s : Storage) : Storage :=
  { s with asset := f s.asset }

/-- Change the checkpoints of one ticker. -/
@[simps] def setCheckpoints (ticker : Ticker) (c : TickerCheckpoints) (s : Storage) : Storage :=
  { s with checkpoint :=
      { s.checkpoint with ofTicker := Function.update s.checkpoint.ofTicker ticker c } }

/-- Change the statistics of one ticker. -/
@[simps] def setStatistics (ticker : Ticker) (c : TickerStatistics) (s : Storage) : Storage :=
  { s with statistics := ⟨Function.update s.statistics.ofTicker ticker c⟩ }

/-- Change the part of the NFT pallet. -/
@[simps] def mapNFT (f : NFTStorage → NFTStorage) (s : Storage) : Storage :=
  { s with nft := f s.nft }

/-- Change the clock or the agenda. -/
@[simps] def mapSystem (f : SystemStorage → SystemStorage) (s : Storage) : Storage :=
  { s with system := f s.system }

/-- Change the part of the STO pallet. -/
@[simps] def mapSto (f : StoStorage → StoStorage) (s : Storage) : Storage :=
  { s with sto := f s.sto }

/-- Change the part of the capital distribution pallet. -/
@[simps] def mapDistribution (f : DistributionStorage → DistributionStorage) (s : Storage) :
    Storage :=
  { s with distribution := f s.distribution }

/-- Change the part of the settlement pallet. -/
@[simps] def mapSettlement (f : SettlementStorage → SettlementStorage) (s : Storage) : Storage :=
  { s with settlement := f s.settlement }

variable (s : Storage)

/-- The stored legs of an instruction. -/
def legs (id : InstructionId) : List (LegId × Leg) :=
  (s.settlement.instructionLegs id).entries.map fun e => (e.1, e.2)

/-- The stored mediators of an instruction with their affirmations. -/
def mediators (id : InstructionId) : List (IdentityId × MediatorAffirmationStatus) :=
  (s.settlement.instructionMediatorsAffirmations id).entries.map fun e => (e.1, e.2)

end Storage

/-- All that is stored about one instruction. -/
@[ext] structure InstructionRecord where
  status : InstructionStatus
  details : Instruction
  legs : AList fun _ : LegId => Leg
  legStatus : LegId → LegStatus
  affirmsPending : ℕ
  userAffirmations : PortfolioId → AffirmationStatus
  offChainAffirmations : LegId → AffirmationStatus
  mediators : AList fun _ : IdentityId => MediatorAffirmationStatus

/-- The record of an instruction, gathered from the maps that store it. -/
@[simps] def SettlementStorage.instruction (t : SettlementStorage) (id : InstructionId) :
    InstructionRecord where
  status := t.instructionStatuses id
  details := t.instructionDetails id
  legs := t.instructionLegs id
  legStatus := t.instructionLegStatus id
  affirmsPending := t.instructionAffirmsPending id
  userAffirmations := fun p => t.userAffirmations p id
  offChainAffirmations := t.offChainAffirmations id
  mediators := t.instructionMediatorsAffirmations id

end Polymesh
