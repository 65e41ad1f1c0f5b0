import Polymesh.Storage

/-!
# The portfolio pallet

Balances, locks, custody and non-fungible holdings by portfolio
(`pallets/portfolio/src/lib.rs`). A check is a query of the storage, an unchecked write a
function on the pallet's part of it.
-/

namespace Polymesh

open Transactional Collections
open Function (update)
open Storage (mapPortfolio)
open Tx (ensure read)

/-! ## Questions to the asset pallet -/

namespace Asset

variable (ticker : Ticker) (s : Storage)

/-- Whether amounts of the asset may be split. -/
def isDivisible : Bool :=
  (s.asset.tokens ticker).any SecurityToken.divisible

/-- A whole number of units. -/
def isUnitMultiple (value : ℕ) : Bool := value % oneUnit = 0

/-- The asset is divisible, or the amount is in whole units. -/
def ensureGranular (value : ℕ) (s : Storage) : Query Unit :=
  ensure (isDivisible ticker s ∨ isUnitMultiple value) (.asset .invalidGranularity)

/-- Nobody has to affirm to receive the asset. -/
def tickerAffirmationExemption : Bool :=
  s.asset.tickersExemptFromAffirmation ticker

/-- The identity does not have to affirm to receive it. -/
def skipTickerAffirmation (did : IdentityId) (ticker : Ticker) (s : Storage) : Bool :=
  tickerAffirmationExemption ticker s || s.asset.preApprovedTicker did ticker

end Asset

namespace Portfolio

/-! ## Balances -/

/-- The number of assets of a portfolio after one of its balances changed. -/
def transitionAssetCount (old new : ℕ) (count : ℕ) : ℕ :=
  if old = 0 ∧ new ≠ 0 then saturatingAdd 64 count 1
  else if old ≠ 0 ∧ new = 0 then count - 1
  else count

variable (env : Env) (origin : RuntimeOrigin) (pid : PortfolioId) (did : IdentityId)
  (ticker : Ticker)

/-- Write a balance, and count the assets anew. -/
def setPortfolioBalance (new : ℕ) (p : PortfolioStorage) : PortfolioStorage :=
  { p with
    portfolioAssetCount := update p.portfolioAssetCount pid
      (transitionAssetCount (p.portfolioAssetBalances pid ticker) new
        (p.portfolioAssetCount pid))
    portfolioAssetBalances := update₂ p.portfolioAssetBalances pid ticker new }

/-- Move a balance, in saturating steps. -/
def uncheckedTransferPortfolioBalance (sender receiver : PortfolioId) (ticker : Ticker)
    (amount : ℕ) (p : PortfolioStorage) : PortfolioStorage :=
  let p := setPortfolioBalance sender ticker (p.portfolioAssetBalances sender ticker - amount) p
  setPortfolioBalance receiver ticker (satAdd (p.portfolioAssetBalances receiver ticker) amount) p

/-! ## Checks -/

/-- Who has custody: the owner, if nobody else. -/
def custodian (s : Storage) : IdentityId :=
  (s.portfolio.portfolioCustodian pid).getD pid.did

/-- The portfolio exists. -/
def ensurePortfolioValidity (s : Storage) : Query Unit :=
  match pid.kind with
  | .default => .ok ()
  | .user num =>
    ensure ((s.portfolio.portfolios pid.did num).isSome) (.portfolio .portfolioDoesNotExist)

/-- The name of a numbered portfolio. -/
def ensureUserPortfolioValidity (num : PortfolioNumber) (s : Storage) : Query PortfolioName :=
  okOr (s.portfolio.portfolios did num) (.portfolio .portfolioDoesNotExist)

/-- The key has access to the portfolio. -/
def ensureUserPortfolioPermission (secondaryKey : Option SecondaryKey) (pid : PortfolioId) :
    Query Unit :=
  match secondaryKey with
  | none => .ok ()
  | some sk =>
    ensure (sk.hasPortfolioPermission pid) (.portfolio .secondaryKeyNotAuthorizedForPortfolio)

/-- The identity has custody. -/
def ensurePortfolioCustody (s : Storage) : Query Unit :=
  ensure (custodian pid s = did) (.portfolio .unauthorizedCustodian)

/-- The identity has custody, and its key access. -/
def ensurePortfolioCustodyAndPermission (secondaryKey : Option SecondaryKey) (s : Storage) :
    Query Unit := do
  ensurePortfolioCustody pid did s
  ensureUserPortfolioPermission secondaryKey pid

/-- The amount is free: held, and not locked. -/
def ensureSufficientBalance (amount : ℕ) (s : Storage) : Query Unit := do
  Asset.ensureGranular ticker amount s
  let free := s.portfolio.portfolioAssetBalances pid ticker -
    s.portfolio.portfolioLockedAssets pid ticker
  let _ ← okOr (checkedSub free amount) (.portfolio .insufficientPortfolioBalance)

/-- Two portfolios that exist, and enough is free. -/
def ensurePortfolioTransferValidity (sender receiver : PortfolioId) (ticker : Ticker)
    (amount : ℕ) (s : Storage) : Query Unit := do
  ensure (sender ≠ receiver) (.portfolio .destinationIsSamePortfolio)
  ensurePortfolioValidity sender s
  ensurePortfolioValidity receiver s
  ensureSufficientBalance sender ticker amount s

/-- A short name that is not in use. -/
def ensureNameUnique (name : PortfolioName) (s : Storage) : Query Unit := do
  env.ensureStringLimited name
  ensure (s.portfolio.nameToNumber did name = none) (.portfolio .portfolioNameAlreadyInUse)

/-- Whether the receiver's affirmation of a leg is given in advance. -/
def skipPortfolioAffirmation (s : Storage) : Bool :=
  if (s.portfolio.portfolioCustodian pid).isSome then
    Asset.tickerAffirmationExemption ticker s || s.portfolio.preApprovedPortfolios pid ticker
  else
    Asset.skipTickerAffirmation pid.did ticker s || s.portfolio.preApprovedPortfolios pid ticker

/-! ## Locks -/

/-- Take from what is free. -/
def reducePortfolioBalance (amount : ℕ) : Dispatch Unit := do
  let s ← Tx.get
  let remaining ← read fun _ =>
    okOr ((checkedSub (s.portfolio.portfolioAssetBalances pid ticker) amount).filter
        (s.portfolio.portfolioLockedAssets pid ticker ≤ ·))
      (.portfolio .insufficientPortfolioBalance)
  Tx.modify (mapPortfolio (setPortfolioBalance pid ticker remaining))

/-- Write how much of an asset is locked. -/
def setLocked (locked : ℕ) (p : PortfolioStorage) : PortfolioStorage :=
  { p with portfolioLockedAssets := update₂ p.portfolioLockedAssets pid ticker locked }

/-- Lock an amount, in a saturating sum. -/
def uncheckedLockTokens (amount : ℕ) (p : PortfolioStorage) : PortfolioStorage :=
  setLocked pid ticker (satAdd (p.portfolioLockedAssets pid ticker) amount) p

/-- Lock an amount that is free. -/
def lockTokens (amount : ℕ) : Dispatch Unit := do
  read (ensureSufficientBalance pid ticker amount)
  Tx.modify (mapPortfolio (uncheckedLockTokens pid ticker amount))

/-- Release a part of what is locked. -/
def unlockTokens (amount : ℕ) : Dispatch Unit := do
  let s ← Tx.get
  let locked := s.portfolio.portfolioLockedAssets pid ticker
  ensure (amount ≤ locked) (.portfolio .insufficientTokensLocked)
  Tx.modify (mapPortfolio (setLocked pid ticker (locked - amount)))

/-- Mark a token as locked. -/
def insertLockedNFT (nft : Ticker × NFTId) (p : PortfolioStorage) : PortfolioStorage :=
  { p with portfolioLockedNFT :=
      update p.portfolioLockedNFT pid (insert nft (p.portfolioLockedNFT pid)) }

/-- Mark a token as free. -/
def removeLockedNFT (nft : Ticker × NFTId) (p : PortfolioStorage) : PortfolioStorage :=
  { p with portfolioLockedNFT :=
      update p.portfolioLockedNFT pid ((p.portfolioLockedNFT pid).erase nft) }

/-- Lock a token that is held and free. -/
def lockNft (nft : Ticker × NFTId) : Dispatch Unit := do
  let s ← Tx.get
  ensure (nft ∈ s.portfolio.portfolioNFT pid) (.portfolio .nftNotFoundInPortfolio)
  ensure (nft ∉ s.portfolio.portfolioLockedNFT pid) (.portfolio .nftAlreadyLocked)
  Tx.modify (mapPortfolio (insertLockedNFT pid nft))

/-- Release a token. -/
def unlockNft (nft : Ticker × NFTId) : Dispatch Unit := do
  let s ← Tx.get
  ensure (nft ∈ s.portfolio.portfolioLockedNFT pid) (.portfolio .nftNotLocked)
  Tx.modify (mapPortfolio (removeLockedNFT pid nft))

/-- Put a token in. -/
def insertNFT (nft : Ticker × NFTId) (p : PortfolioStorage) : PortfolioStorage :=
  { p with portfolioNFT := update p.portfolioNFT pid (insert nft (p.portfolioNFT pid)) }

/-- Take a token out. -/
def removeNFT (nft : Ticker × NFTId) (p : PortfolioStorage) : PortfolioStorage :=
  { p with portfolioNFT := update p.portfolioNFT pid ((p.portfolioNFT pid).erase nft) }

/-! ## Moving funds between the portfolios of an identity -/

/-- The tokens are held and free. -/
def ensureValidNfts (nfts : NFTs) (s : Storage) : Query Unit :=
  forM nfts.tokens fun nft => do
    ensure (nft ∈ s.portfolio.portfolioNFT pid) (.portfolio .invalidTransferNFTNotOwned)
    ensure (nft ∉ s.portfolio.portfolioLockedNFT pid) (.portfolio .invalidTransferNFTIsLocked)

/-- Check the funds in order; `uniqueTickers` are the fungible tickers seen so far. -/
def ensureValidFunds (sender : PortfolioId) (s : Storage) :
    List FundDescription → List Ticker → Query Unit
  | [], _ => .ok ()
  | .fungible ticker amount :: funds, uniqueTickers => do
    ensure (0 < amount) (.portfolio .emptyTransfer)
    ensure (ticker ∉ uniqueTickers) (.portfolio .noDuplicateAssetsAllowed)
    ensureSufficientBalance sender ticker amount s
    ensureValidFunds sender s funds (ticker :: uniqueTickers)
  | .nonFungible nfts :: funds, uniqueTickers => do
    ensure (0 < nfts.ids.length) (.portfolio .emptyTransfer)
    ensureValidNfts sender nfts s
    ensureValidFunds sender s funds uniqueTickers

/-- The hook into the NFT pallet: record the new owner of a token. -/
def movePortfolioOwner (nft : Ticker × NFTId) (owner : PortfolioId) (n : NFTStorage) :
    NFTStorage :=
  { n with nftOwner := update₂ n.nftOwner nft.1 nft.2 (some owner) }

/-- Move a token, with its owner. -/
def uncheckedMoveNft (sender receiver : PortfolioId) (s : Storage) (nft : Ticker × NFTId) :
    Storage :=
  let s := s.mapPortfolio fun p => insertNFT receiver nft (removeNFT sender nft p)
  s.mapNFT (movePortfolioOwner nft receiver)

/-- Move one fund. -/
def uncheckedMoveFund (sender receiver : PortfolioId) (s : Storage) :
    FundDescription → Storage
  | .fungible ticker amount =>
    s.mapPortfolio (uncheckedTransferPortfolioBalance sender receiver ticker amount)
  | .nonFungible nfts => nfts.tokens.foldl (uncheckedMoveNft sender receiver) s

/-- Move funds one after the other. -/
def uncheckedMoveFunds (sender receiver : PortfolioId) (funds : List FundDescription)
    (s : Storage) : Storage :=
  funds.foldl (uncheckedMoveFund sender receiver) s

/-- The caller may move between the portfolios. -/
def ensurePortfoliosValidityAndPermissions (sender receiver : PortfolioId) (s : Storage) :
    Query IdentityId := do
  let originData ← env.ensureOriginCallPermissions origin
  ensure (sender ≠ receiver) (.portfolio .destinationIsSamePortfolio)
  ensure (sender.did = receiver.did) (.portfolio .differentIdentityPortfolios)
  ensurePortfolioValidity receiver s
  ensurePortfolioCustodyAndPermission sender originData.primaryDid originData.secondaryKey s
  ensureUserPortfolioPermission originData.secondaryKey receiver
  return originData.primaryDid

/-- Move funds between portfolios of one owner. -/
def movePortfolioFunds (sender receiver : PortfolioId) (funds : List FundDescription) :
    Dispatch Unit := do
  let _ ← read (ensurePortfoliosValidityAndPermissions env origin sender receiver)
  read fun s => ensureValidFunds sender s funds []
  Tx.modify (uncheckedMoveFunds sender receiver funds)

/-! ## Portfolios and their custody -/

/-- Register a portfolio under the next number of its owner. Numbers wrap around. -/
def insertPortfolio (name : PortfolioName) (p : PortfolioStorage) : PortfolioStorage :=
  let number := p.nextPortfolioNumber did
  { p with
    nextPortfolioNumber := update p.nextPortfolioNumber did ⟨number.num + 1⟩
    nameToNumber := update₂ p.nameToNumber did name (some number)
    portfolios := update₂ p.portfolios did number (some name) }

/-- A new portfolio with a new name. -/
def baseCreatePortfolio (name : PortfolioName) : Dispatch Unit := do
  read (ensureNameUnique env did name)
  Tx.modify (mapPortfolio (insertPortfolio did name))

/-- The caller gets a new portfolio. -/
def createPortfolio (name : PortfolioName) : Dispatch Unit := do
  let callersDid ← read fun _ => env.ensurePerms origin
  baseCreatePortfolio env callersDid name

/-- Forget a portfolio, with its balance and lock prefixes and its custodian. -/
def removePortfolio (num : PortfolioNumber) (name : PortfolioName) (holder : IdentityId)
    (p : PortfolioStorage) : PortfolioStorage :=
  let pid := PortfolioId.userPortfolio did num
  { p with
    portfolios := update₂ p.portfolios did num none
    nameToNumber := update₂ p.nameToNumber did name none
    portfolioAssetCount := update p.portfolioAssetCount pid 0
    portfolioAssetBalances := update p.portfolioAssetBalances pid fun _ => 0
    portfolioLockedAssets := update p.portfolioLockedAssets pid fun _ => 0
    portfoliosInCustody := update₂ p.portfoliosInCustody holder pid false
    portfolioCustodian := update p.portfolioCustodian pid none }

/-- Delete a portfolio without assets. -/
def deletePortfolio (num : PortfolioNumber) : Dispatch Unit := do
  let originData ← read fun _ => env.ensureOriginCallPermissions origin
  let did := originData.primaryDid
  let pid := PortfolioId.userPortfolio did num
  let s ← Tx.get
  ensure (s.portfolio.portfolioAssetCount pid = 0) (.portfolio .portfolioNotEmpty)
  ensure (s.portfolio.portfolioNFT pid = ∅) (.portfolio .portfolioNotEmpty)
  ensure (s.portfolio.portfolioLockedNFT pid = ∅) (.portfolio .portfolioNotEmpty)
  let name ← read (ensureUserPortfolioValidity did num)
  read (ensurePortfolioCustodyAndPermission pid did originData.secondaryKey)
  Tx.modify (mapPortfolio (removePortfolio did num name (custodian pid s)))

/-- Give a portfolio a new name. -/
def renamePortfolio (num : PortfolioNumber) (toName : PortfolioName) : Dispatch Unit := do
  let originData ← read fun _ => env.ensureOriginCallPermissions origin
  let did := originData.primaryDid
  read fun _ =>
    ensureUserPortfolioPermission originData.secondaryKey (.userPortfolio did num)
  let oldName ← read (ensureUserPortfolioValidity did num)
  read (ensureNameUnique env did toName)
  Tx.modify <| mapPortfolio fun p =>
    { p with
      portfolios := update₂ p.portfolios did num (some toName)
      nameToNumber :=
        update₂ (update₂ p.nameToNumber did oldName none) did toName (some num) }

/-- The custodian returns custody. -/
def quitPortfolioCustody : Dispatch Unit := do
  let did ← read fun _ => env.ensurePerms origin
  let s ← Tx.get
  ensure (did = custodian pid s) (.portfolio .unauthorizedCustodian)
  Tx.modify <| mapPortfolio fun p =>
    { p with
      portfolioCustodian := update p.portfolioCustodian pid none
      portfoliosInCustody := update₂ p.portfoliosInCustody did pid false }

/-- Write the new custodian to both maps. -/
def unverifiedTakePortfolioCustody (newCustodian : IdentityId) (p : PortfolioStorage) :
    PortfolioStorage :=
  { p with
    portfolioCustodian := update p.portfolioCustodian pid (some newCustodian)
    portfoliosInCustody := update₂ p.portfoliosInCustody newCustodian pid true }

/-- Take custody by an authorization. -/
def acceptPortfolioCustody (authId : ℕ) : Dispatch Unit := do
  let did ← read fun _ => env.ensurePerms origin
  let (authorizer, pid) ← read fun _ => env.portfolioCustodyAuthorization did authId
  let s ← Tx.get
  let curr := custodian pid s
  ensure (authorizer = curr) .unauthorized
  Tx.modify <| mapPortfolio fun p =>
    let p := { p with portfoliosInCustody := update₂ p.portfoliosInCustody curr pid false }
    if pid.did = did then
      { p with portfolioCustodian := update p.portfolioCustodian pid none }
    else
      unverifiedTakePortfolioCustody pid did p

/-- A new portfolio of another, in custody. -/
def createCustodyPortfolio (ownerId : IdentityId) (name : PortfolioName) : Dispatch Unit := do
  let callersDid ← read fun _ => env.ensurePerms origin
  let s ← Tx.get
  ensure (s.portfolio.allowedCustodians ownerId callersDid)
    (.portfolio .missingOwnersPermission)
  let pid := PortfolioId.userPortfolio ownerId (s.portfolio.nextPortfolioNumber ownerId)
  baseCreatePortfolio env ownerId name
  Tx.modify (mapPortfolio (unverifiedTakePortfolioCustody pid callersDid))

/-- Allow or revoke the creation of custody portfolios by an identity. -/
def setAllowedCustodian (allowed : Bool) : Dispatch Unit := do
  let callersDid ← read fun _ => env.ensurePerms origin
  Tx.modify <| mapPortfolio fun p =>
    { p with allowedCustodians := update₂ p.allowedCustodians callersDid did allowed }

/-- Allow somebody to make such portfolios. -/
def allowIdentityToCreatePortfolios (trustedIdentity : IdentityId) : Dispatch Unit :=
  setAllowedCustodian env origin trustedIdentity true

/-- Forbid it again. -/
def revokeCreatePortfoliosPermission : Dispatch Unit :=
  setAllowedCustodian env origin did false

/-- Set or remove the advance affirmation of a portfolio for a ticker. -/
def setPreApproval (pid : PortfolioId) (approved : Bool) : Dispatch Unit := do
  let originData ← read fun _ => env.ensureOriginCallPermissions origin
  read (ensurePortfolioValidity pid)
  read
    (ensurePortfolioCustodyAndPermission pid originData.primaryDid originData.secondaryKey)
  Tx.modify <| mapPortfolio fun p =>
    { p with preApprovedPortfolios := update₂ p.preApprovedPortfolios pid ticker approved }

/-- Affirm in advance for a portfolio. -/
def preApprovePortfolio (pid : PortfolioId) : Dispatch Unit :=
  setPreApproval env origin ticker pid true

/-- Take an advance affirmation back. -/
def removePortfolioPreApproval (pid : PortfolioId) : Dispatch Unit :=
  setPreApproval env origin ticker pid false

end Portfolio

end Polymesh
