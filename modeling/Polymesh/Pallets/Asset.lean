import Polymesh.Pallets.Portfolio
import Polymesh.Pallets.Checkpoint
import Polymesh.Pallets.Statistics

/-!
# The asset pallet

Tickers and their registration, issuing, redeeming and transferring fungible assets, and the
settings of an asset (`pallets/asset/src/lib.rs`).
-/

namespace Polymesh

open Transactional Collections
open Function (update)
open Tx (ensure read)
open Storage (mapAsset)

namespace Asset

/-! ## Checks -/

variable (env : Env) (origin : RuntimeOrigin) (ticker : Ticker) (did : IdentityId) (s : Storage)

/-- The description of an asset. -/
def tokenDetails : Query SecurityToken :=
  okOr (s.asset.tokens ticker) (.asset .noSuchAsset)

/-- There is such an asset. -/
def ensureAssetExists : Query Unit :=
  ensure (s.asset.tokens ticker).isSome (.asset .noSuchAsset)

/-- There is no such asset yet. -/
def ensureAssetFresh : Query Unit :=
  ensure (s.asset.tokens ticker = none) (.asset .assetAlreadyCreated)

/-- The supply is not too large. -/
def ensureWithinMaxSupply (supply : ℕ) : Query Unit :=
  ensure (supply ≤ maxSupply) (.asset .totalSupplyAboveLimit)

/-- Whether an asset that exists is one of tokens. -/
def nftAsset : Option Bool :=
  (s.asset.tokens ticker).map fun token => token.assetType.isNonFungible

/-- The portfolio of the caller's identity of the given kind, if the caller is a permissioned
agent of the ticker with access to that portfolio. -/
def ensureOriginTickerAndPortfolioPermissions (kind : PortfolioKind) (ensureCustody : Bool)
    (s : Storage) : Query PortfolioId := do
  let originData ← ExternalAgents.ensureAgentAssetPerms env origin ticker
  let pid : PortfolioId := ⟨originData.primaryDid, kind⟩
  Portfolio.ensurePortfolioValidity pid s
  onlyIf ensureCustody (Portfolio.ensurePortfolioCustody pid originData.primaryDid s)
  Portfolio.ensureUserPortfolioPermission originData.secondaryKey pid
  return pid

/-! ## Writes -/

/-- Write the balance of an identity. -/
def setBalanceOf (new : ℕ) (a : AssetStorage) : AssetStorage :=
  { a with balanceOf := update₂ a.balanceOf ticker did new }

/-- Write the description of an asset. -/
def setToken (token : SecurityToken) (a : AssetStorage) : AssetStorage :=
  { a with tokens := update a.tokens ticker (some token) }

/-! ## Issuing and redeeming -/

/-- `_mint`. The two balances grow by unchecked additions. -/
def mint (issuer : PortfolioId) (value : ℕ) (chargeFee : Bool) : Dispatch Unit := do
  read (ensureGranular ticker value)
  let token ← read (tokenDetails ticker)
  ensure token.assetType.isFungible (.asset .unexpectedNonFungibleToken)
  let supply ← read fun _ =>
    okOr (checkedAdd 128 token.totalSupply value) (.asset .totalSupplyOverflow)
  read fun _ => ensureWithinMaxSupply supply
  let s ← Tx.get
  let current := s.asset.balanceOf ticker issuer.did
  let updated := wrapAdd 128 current value
  let updatedPortfolio := wrapAdd 128 (s.portfolio.portfolioAssetBalances issuer ticker) value
  Tx.transaction do
    onlyIf chargeFee (read (env.chargeFees [.assetIssue]))
    Checkpoint.advanceUpdateBalances ticker [(issuer.did, current)]
  Tx.modify (mapAsset (setBalanceOf ticker issuer.did updated))
  Tx.modify
    (Storage.mapPortfolio (Portfolio.setPortfolioBalance issuer ticker updatedPortfolio))
  Tx.modify (mapAsset (setToken ticker { token with totalSupply := supply }))
  Statistics.updateAssetStats env ticker ⟨none, some issuer.did, none, some updated, value⟩

/-- An agent issues to a portfolio. -/
def baseIssue (amount : ℕ) (kind : PortfolioKind) : Dispatch Unit := do
  let pid ← read (ensureOriginTickerAndPortfolioPermissions env origin ticker kind false)
  mint env ticker pid amount true

/-- `base_redeem`. The balance of the identity shrinks by an unchecked subtraction. -/
def baseRedeem (value : ℕ) (kind : PortfolioKind) : Dispatch Unit := do
  let pid ← read (ensureOriginTickerAndPortfolioPermissions env origin ticker kind true)
  read (ensureGranular ticker value)
  let token ← read (tokenDetails ticker)
  ensure token.assetType.isFungible (.asset .unexpectedNonFungibleToken)
  let supply ← Tx.transaction do
    Portfolio.reducePortfolioBalance pid ticker value
    let supply ← read fun _ =>
      okOr (checkedSub token.totalSupply value) (.asset .totalSupplyOverflow)
    let s ← Tx.get
    Checkpoint.advanceUpdateBalances ticker [(pid.did, s.asset.balanceOf ticker pid.did)]
    return supply
  let s ← Tx.get
  let updated := wrapSub 128 (s.asset.balanceOf ticker pid.did) value
  Tx.modify (mapAsset (setBalanceOf ticker pid.did updated))
  Tx.modify (mapAsset (setToken ticker { token with totalSupply := supply }))
  Statistics.updateAssetStats env ticker ⟨some pid.did, none, some updated, none, value⟩

/-! ## Transfers -/

/-- Why a transfer is refused. -/
inductive TransferStatus
  | transfersHalted
  | portfolioFailure
  | transferManagerFailure
  | complianceManagerFailure
  | transferSuccess
deriving DecidableEq

/-- The restrictions forbid the transfer. -/
def statisticsFailures (sender receiver : IdentityId) (value : ℕ) (s : Storage) : Bool :=
  match env.verifyTransferRestrictions s ticker sender receiver value with
  | .ok _ => false
  | .error _ => true

/-- The portfolios do not allow the transfer. -/
def portfolioFailure (sender receiver : PortfolioId) (ticker : Ticker) (value : ℕ)
    (s : Storage) : Bool :=
  match Portfolio.ensurePortfolioTransferValidity sender receiver ticker value s with
  | .ok _ => false
  | .error _ => true

/-- `_is_valid_transfer`. -/
def isValidTransfer (sender receiver : PortfolioId) (value : ℕ) (s : Storage) :
    Query TransferStatus :=
  if s.asset.frozen ticker then .ok .transfersHalted
  else if portfolioFailure sender receiver ticker value s then .ok .portfolioFailure
  else if statisticsFailures env ticker sender.did receiver.did value s then
    .ok .transferManagerFailure
  else do
    let compliant ← env.isCompliant s ticker sender.did receiver.did
    return if compliant then .transferSuccess else .complianceManagerFailure

/-- The writes of a transfer. -/
def writeTransfer (sender receiver : PortfolioId) (ticker : Ticker) (value fromBalance
    toBalance : ℕ) (s : Storage) : Storage :=
  let s := s.mapAsset (setBalanceOf ticker sender.did fromBalance)
  let s := s.mapAsset (setBalanceOf ticker receiver.did toBalance)
  s.mapPortfolio (Portfolio.uncheckedTransferPortfolioBalance sender receiver ticker value)

/-- Transfer what may be transferred. -/
def unsafeTransfer (sender receiver : PortfolioId) (ticker : Ticker) (value : ℕ) :
    Dispatch Unit := do
  read (ensureGranular ticker value)
  let token ← read (tokenDetails ticker)
  ensure token.assetType.isFungible (.asset .unexpectedNonFungibleToken)
  ensure (sender.did ≠ receiver.did) (.asset .senderSameAsReceiver)
  let s ← Tx.get
  let fromTotal := s.asset.balanceOf ticker sender.did
  ensure (value ≤ fromTotal) (.asset .insufficientBalance)
  let toTotal := s.asset.balanceOf ticker receiver.did
  let updatedTo ← read fun _ => okOr (checkedAdd 128 toTotal value) (.asset .balanceOverflow)
  read (Portfolio.ensureSufficientBalance sender ticker value)
  Checkpoint.advanceUpdateBalances ticker [(sender.did, fromTotal), (receiver.did, toTotal)]
  Tx.modify (writeTransfer sender receiver ticker value (fromTotal - value) updatedTo)
  Statistics.updateAssetStats env ticker
    ⟨some sender.did, some receiver.did, some (fromTotal - value), some updatedTo, value⟩

/-- The transfer of the settlement engine, which has checked the custody itself. -/
def baseTransfer (sender receiver : PortfolioId) (ticker : Ticker) (value : ℕ) : Dispatch Unit := do
  let status ← read (isValidTransfer env ticker sender receiver value)
  ensure (status = .transferSuccess) (.asset .invalidTransfer)
  unsafeTransfer env sender receiver ticker value

/-- An agent takes from any portfolio. -/
def baseControllerTransfer (value : ℕ) (sender : PortfolioId) : Dispatch Unit := do
  let receiver ←
    read (ensureOriginTickerAndPortfolioPermissions env origin ticker .default false)
  unsafeTransfer env sender receiver ticker value

/-! ## Tickers -/

/-- Whose a ticker is. -/
inductive TickerRegistrationStatus
  | registeredByOther
  | available
  | registeredByDid
deriving DecidableEq

/-- Whose the ticker is for an identity. -/
def isTickerAvailableOrRegisteredTo : TickerRegistrationStatus :=
  match s.asset.tickers ticker with
  | some registration =>
    if ∃ expiry ∈ registration.expiry, expiry < s.system.now then .available
    else if registration.owner = did then .registeredByDid
    else .registeredByOther
  | none => .available

/-- Write the relation to a ticker. -/
def setOwnership (ticker : Ticker) (relation : AssetOwnershipRelation) (a : AssetStorage) :
    AssetStorage :=
  { a with assetOwnershipRelations := update₂ a.assetOwnershipRelations did ticker relation }

/-- Write a registration. -/
def setTicker (registration : TickerRegistration) (a : AssetStorage) : AssetStorage :=
  { a with tickers := update a.tickers ticker (some registration) }

/-- Register a ticker, and take it from who had it. -/
def unverifiedRegisterTicker (owner : IdentityId) (expiry : Option Moment) (a : AssetStorage) :
    AssetStorage :=
  let a := match a.tickers ticker with
    | some registration => setOwnership registration.owner ticker .notOwned a
    | none => a
  setOwnership owner ticker .tickerOwned (setTicker ticker ⟨owner, expiry⟩ a)

/-- A registration that is kept for an asset does not expire. -/
def clearExpiry (a : AssetStorage) : AssetStorage :=
  { a with
    tickers := update a.tickers ticker
      ((a.tickers ticker).map fun registration => { registration with expiry := none }) }

/-- `ticker_registration_checks`, for a registration that its owner may renew. -/
def tickerRegistrationChecks (toDid : IdentityId) (s : Storage) : Query (Option Moment) := do
  env.verifyTickerCharacters ticker
  ensureAssetFresh ticker s
  env.ensureTickerLength ticker
  ensure (isTickerAvailableOrRegisteredTo ticker toDid s ≠ .registeredByOther)
    (.asset .tickerAlreadyRegistered)
  return env.registrationLength.map (s.system.now + ·)

/-- The caller registers a ticker. -/
def registerTicker : Dispatch Unit := do
  let toDid ← read fun _ => env.ensurePerms origin
  let expiry ← read (tickerRegistrationChecks env ticker toDid)
  read (env.chargeFees [.assetRegisterTicker])
  Tx.modify (mapAsset (unverifiedRegisterTicker ticker toDid expiry))

/-- The writes of a transfer of a ticker, or of the asset that it is the ticker of. -/
def transferTicker (registration : TickerRegistration) (ticker : Ticker) (toDid : IdentityId)
    (relation : AssetOwnershipRelation) (a : AssetStorage) : AssetStorage :=
  setTicker ticker { registration with owner := toDid }
    (setOwnership toDid ticker relation (setOwnership registration.owner ticker .notOwned a))

/-- `accept_ticker_transfer`, which does not ask whether the registration has expired. -/
def acceptTickerTransfer (authId : ℕ) : Dispatch Unit := do
  let toDid ← read fun _ => env.ensurePerms origin
  let (authBy, ticker) ← read fun _ => env.transferTickerAuthorization toDid authId
  read (ensureAssetFresh ticker)
  let registration ← read fun s =>
    okOr (s.asset.tickers ticker) (.asset .tickerRegistrationExpired)
  ensure (authBy = registration.owner) .unauthorized
  Tx.modify (mapAsset (transferTicker registration ticker toDid .tickerOwned))

/-- `accept_asset_ownership_transfer`, authorized by an agent that need not be the owner. -/
def acceptAssetOwnershipTransfer (authId : ℕ) : Dispatch Unit := do
  let toDid ← read fun _ => env.ensurePerms origin
  let (authBy, ticker) ← read fun _ => env.transferAssetOwnershipAuthorization toDid authId
  let token ← read (tokenDetails ticker)
  read fun _ => ExternalAgents.ensureAgentPermissioned env ticker authBy
  let registration ← read fun s => okOr (s.asset.tickers ticker) (.asset .noSuchAsset)
  Tx.modify (mapAsset (transferTicker registration ticker toDid .assetOwned))
  Tx.modify (mapAsset (setToken ticker { token with ownerDid := toDid }))

/-! ## Settings -/

/-- Whether the ticker of a new asset has to be registered first. -/
def ensureTickerForAsset : Query Bool :=
  match isTickerAvailableOrRegisteredTo ticker did s with
  | .registeredByOther => .error (.asset .tickerAlreadyRegistered)
  | .registeredByDid => .ok false
  | .available => .ok true

/-- Create an asset, and register its ticker if need be. -/
def unsafeCreateAsset (secondaryKey : Option SecondaryKey) (ticker : Ticker) (divisible : Bool)
    (assetType : AssetType) : Dispatch Unit := do
  read fun s => env.ensureCreateAsset s did ticker
  read fun _ => env.ensureAssetTypeValid assetType
  read (ensureAssetFresh ticker)
  read fun _ => env.ensureTickerLength ticker
  let available ← read (ensureTickerForAsset ticker did)
  onlyIf available (read fun _ => env.verifyTickerCharacters ticker)
  read fun s => env.ensureTokenDidFresh s ticker
  read (Portfolio.ensurePortfolioCustodyAndPermission (.defaultPortfolio did) did
    secondaryKey)
  onlyIf available (read (env.chargeFees [.assetRegisterTicker, .assetCreateAsset]))
  Tx.modify <| mapAsset fun a =>
    if available then unverifiedRegisterTicker ticker did none a else clearExpiry ticker a
  Tx.modify <| mapAsset fun a =>
    setOwnership did ticker .assetOwned (setToken ticker ⟨0, did, divisible, assetType⟩ a)

/-- The caller creates an asset. -/
def createAsset (divisible : Bool) (assetType : AssetType) : Dispatch Unit := do
  let originData ← read fun _ => env.ensureOriginCallPermissions origin
  unsafeCreateAsset env originData.primaryDid originData.secondaryKey ticker divisible assetType

/-- Amounts of the asset may be split from now on. -/
def makeDivisible : Dispatch Unit := do
  let _ ← read fun _ => ExternalAgents.ensurePerms env origin ticker
  let token ← read (tokenDetails ticker)
  ensure token.assetType.isFungible (.asset .unexpectedNonFungibleToken)
  ensure (token.divisible = false) (.asset .assetAlreadyDivisible)
  Tx.modify (mapAsset (setToken ticker { token with divisible := true }))

/-- Change the type, though not between tokens and amounts. -/
def updateAssetType (assetType : AssetType) : Dispatch Unit := do
  read (ensureAssetExists ticker)
  read fun _ => env.ensureAssetTypeValid assetType
  let _ ← read fun _ => ExternalAgents.ensurePerms env origin ticker
  let token ← read (tokenDetails ticker)
  ensure (token.assetType.isFungible = assetType.isFungible)
    (.asset .incompatibleAssetTypeUpdate)
  Tx.modify (mapAsset (setToken ticker { token with assetType := assetType }))

/-- Freeze or unfreeze transfers. -/
def setFreeze (freeze : Bool) : Dispatch Unit := do
  let _ ← read fun _ => ExternalAgents.ensurePerms env origin ticker
  read (ensureAssetExists ticker)
  let s ← Tx.get
  ensure (s.asset.frozen ticker ≠ freeze)
    (.asset (if freeze then .alreadyFrozen else .notFrozen))
  Tx.modify <| mapAsset fun a =>
    { a with frozen := update a.frozen ticker freeze }

/-- Only the root may call. -/
def ensureRoot : Query Unit := ensure (origin = .root) .badOrigin

/-- The root sets whether receivers have to affirm. -/
def setTickerAffirmationExemption (exempt : Bool) : Dispatch Unit := do
  read fun _ => ensureRoot origin
  Tx.modify <| mapAsset fun a =>
    { a with tickersExemptFromAffirmation :=
        update a.tickersExemptFromAffirmation ticker exempt }

/-- No receiver has to affirm. -/
def exemptTickerAffirmation : Dispatch Unit :=
  setTickerAffirmationExemption origin ticker true

/-- Receivers have to affirm again. -/
def removeTickerAffirmationExemption : Dispatch Unit :=
  setTickerAffirmationExemption origin ticker false

/-- Whether the caller affirms in advance. -/
def setTickerPreApproval (approved : Bool) : Dispatch Unit := do
  let callerDid ← read fun _ => env.ensurePerms origin
  Tx.modify <| mapAsset fun a =>
    { a with preApprovedTicker := update₂ a.preApprovedTicker callerDid ticker approved }

/-- The caller affirms in advance. -/
def preApproveTicker : Dispatch Unit :=
  setTickerPreApproval env origin ticker true

/-- The caller takes that back. -/
def removeTickerPreApproval : Dispatch Unit :=
  setTickerPreApproval env origin ticker false

/-- Write the mediators of an asset. -/
def setMandatoryMediators (mediators : List IdentityId) (a : AssetStorage) : AssetStorage :=
  { a with mandatoryMediators := update a.mandatoryMediators ticker mediators }

/-- Add mediators of an asset one by one; a set that would exceed its bound refuses. -/
def addMandatoryMediators (newMediators : List IdentityId) : Dispatch Unit := do
  let _ ← read fun _ => ExternalAgents.ensurePerms env origin ticker
  let s ← Tx.get
  let mediators := orderedSet (s.asset.mandatoryMediators ticker ++ newMediators)
  ensure (mediators.length ≤ env.maxAssetMediators)
    (.asset .numberOfAssetMediatorsExceeded)
  Tx.modify (mapAsset (setMandatoryMediators ticker mediators))

/-- An agent removes mediators. -/
def removeMandatoryMediators (mediators : List IdentityId) : Dispatch Unit := do
  let _ ← read fun _ => ExternalAgents.ensurePerms env origin ticker
  let s ← Tx.get
  Tx.modify (mapAsset (setMandatoryMediators ticker
    ((s.asset.mandatoryMediators ticker).filter (· ∉ mediators))))

end Asset

end Polymesh
