import Polymesh.Pallets.Asset

/-!
# The NFT pallet

Collections, issuing, redeeming and transferring non-fungible tokens
(`pallets/nft/src/lib.rs`). The owner of a token is stored twice, by token and by portfolio,
and counted twice, by identity and by collection.
-/

namespace Polymesh

open Transactional Collections

namespace NFT

/-! ## Writes -/

variable (env : Env) (origin : RuntimeOrigin) (ticker : Ticker) (nfts : NFTs)

/-- Write how many tokens an identity owns. -/
def setNumberOfNFTs (did : IdentityId) (count : ℕ) (n : NFTStorage) : NFTStorage :=
  { n with numberOfNFTs := update₂ n.numberOfNFTs ticker did count }

/-- Write how many tokens there are. -/
def setNFTsInCollection (count : ℕ) (n : NFTStorage) : NFTStorage :=
  { n with nftsInCollection := Function.update n.nftsInCollection ticker count }

/-- Write who owns a token. -/
def setNFTOwner (nft : Ticker × NFTId) (owner : Option PortfolioId) (n : NFTStorage) :
    NFTStorage :=
  { n with nftOwner := update₂ n.nftOwner nft.1 nft.2 owner }

/-- Write the number of the next token. -/
def setNextNFTId (collection : NFTCollectionId) (id : NFTId) (n : NFTStorage) : NFTStorage :=
  { n with nextNFTId := Function.update n.nextNFTId collection id }

/-! ## Collections -/

/-- The caller of `create_nft_collection`, and whether the asset has to be created. -/
def ensureCollectionCaller (s : Storage) : Query Bool :=
  match Asset.nftAsset ticker s with
  | some isNftAsset => do
    ensure isNftAsset (.nft .invalidAssetType)
    let _ ← ExternalAgents.ensureAgentAssetPerms env origin ticker
    return false
  | none => do
    let _ ← env.ensurePerms origin
    return true

/-- Store a new collection. -/
def insertCollection (collection : NFTCollectionId) (keys : List AssetMetadataKey)
    (n : NFTStorage) : NFTStorage :=
  { n with
    nextCollectionId := collection
    collectionKeys := Function.update n.collectionKeys collection keys
    collectionTicker := Function.update n.collectionTicker ticker (some collection) }

/-- A collection for an asset, new or not. -/
def createNftCollection (hasNftType : Bool) (keys : List AssetMetadataKey) : Dispatch Unit := do
  let createAsset ← Tx.read (ensureCollectionCaller env origin ticker)
  let s ← Tx.get
  Tx.ensure (s.nft.collectionTicker ticker = none) (.nft .collectionAlredyRegistered)
  Tx.ensure (keys.length ≤ env.maxNumberOfCollectionKeys) (.nft .maxNumberOfKeysExceeded)
  Tx.ensure keys.Nodup (.nft .duplicateMetadataKey)
  Tx.ensure (∀ key ∈ keys, env.checkAssetMetadataKeyExists s ticker key)
    (.nft .unregisteredMetadataKey)
  onlyIf createAsset do
    Tx.ensure hasNftType (.nft .invalidAssetType)
    Asset.createAsset env origin ticker false .nonFungible
  let collection ← Tx.read fun s => okOr (checkedInc s.nft.nextCollectionId.id) .counterOverflow
  Tx.modify (Storage.mapNFT (insertCollection ticker ⟨collection⟩ keys))

/-! ## Issuing and redeeming -/

/-- A value for each key, and for no other. -/
def ensureMetadataAttributes (mandatoryKeys attributes : List AssetMetadataKey) :
    Query Unit := do
  ensure (mandatoryKeys.length = attributes.length) (.nft .invalidMetadataAttribute)
  ensure attributes.Nodup (.nft .duplicateMetadataKey)
  ensure (∀ key ∈ attributes, key ∈ mandatoryKeys) (.nft .invalidMetadataAttribute)

/-- The collection of a ticker. -/
def collectionOf (e : NFTError) (s : Storage) : Query NFTCollectionId :=
  okOr (s.nft.collectionTicker ticker) (.nft e)

/-- The writes of an issuance. -/
def writeIssue (nft : Ticker × NFTId) (collection : NFTCollectionId) (owner : PortfolioId)
    (supply count : ℕ) (s : Storage) : Storage :=
  let s := s.mapNFT fun n =>
    setNumberOfNFTs nft.1 owner.did count
      (setNFTsInCollection nft.1 supply (setNextNFTId collection nft.2 n))
  let s := s.mapPortfolio (Portfolio.insertNFT owner nft)
  s.mapNFT (setNFTOwner nft (some owner))

/-- An agent issues a token. -/
def issueNft (attributes : List AssetMetadataKey) (kind : PortfolioKind) : Dispatch Unit := do
  let collection ← Tx.read (collectionOf ticker .collectionNotFound)
  let owner ←
    Tx.read (Asset.ensureOriginTickerAndPortfolioPermissions env origin ticker kind false)
  Tx.read (Portfolio.ensurePortfolioValidity owner)
  let s ← Tx.get
  Tx.read fun _ => ensureMetadataAttributes (s.nft.collectionKeys collection) attributes
  let supply ← Tx.read fun _ =>
    okOr (checkedAdd 64 (s.nft.nftsInCollection ticker) 1) (.nft .supplyOverflow)
  let count ← Tx.read fun _ =>
    okOr (checkedAdd 64 (s.nft.numberOfNFTs ticker owner.did) 1) (.nft .balanceOverflow)
  let id ← Tx.read fun _ => okOr (checkedInc (s.nft.nextNFTId collection).id) .counterOverflow
  Tx.modify (writeIssue (ticker, ⟨id⟩) collection owner supply count)

/-- The writes of a redemption. The lock of the token stays as it is. -/
def writeRedeem (nft : Ticker × NFTId) (owner : PortfolioId) (supply count : ℕ)
    (s : Storage) : Storage :=
  let s := s.mapNFT fun n =>
    setNumberOfNFTs nft.1 owner.did count (setNFTsInCollection nft.1 supply n)
  let s := s.mapPortfolio (Portfolio.removeNFT owner nft)
  s.mapNFT (setNFTOwner nft none)

/-- An agent redeems a token. -/
def redeemNft (nftId : NFTId) (kind : PortfolioKind) : Dispatch Unit := do
  let _ ← Tx.read (collectionOf ticker .collectionNotFound)
  let owner ←
    Tx.read (Asset.ensureOriginTickerAndPortfolioPermissions env origin ticker kind true)
  let s ← Tx.get
  -- the token has to be in the portfolio, but nothing asks whether it is locked there
  Tx.ensure ((ticker, nftId) ∈ s.portfolio.portfolioNFT owner) (.nft .nftNotFound)
  let supply ← Tx.read fun _ =>
    okOr (checkedSub (s.nft.nftsInCollection ticker) 1) (.nft .supplyUnderflow)
  let count ← Tx.read fun _ =>
    okOr (checkedSub (s.nft.numberOfNFTs ticker owner.did) 1) (.nft .balanceUnderflow)
  Tx.modify (writeRedeem (ticker, nftId) owner supply count)

/-! ## Transfers -/

/-- There are some tokens, and not too many. -/
def ensureWithinNftsTransferLimits : Query Unit := do
  ensure (0 < nfts.ids.length) (.nft .zeroCount)
  ensure (nfts.ids.length ≤ env.maxNumberOfNFTsCount) (.nft .maxNumberOfNFTsPerLegExceeded)

/-- No token twice. -/
def ensureNoDuplicateNfts : Query Unit :=
  ensure nfts.ids.Nodup (.nft .duplicatedNFTId)

/-- The sender has the tokens, and they are free. -/
def validateNftOwnership (sender receiver : PortfolioId) (nfts : NFTs) (s : Storage) :
    Query Unit := do
  let _ ← collectionOf nfts.ticker .invalidNFTTransferCollectionNotFound s
  ensure (sender ≠ receiver) (.nft .invalidNFTTransferSamePortfolio)
  ensure (nfts.ids.length ≤ s.nft.numberOfNFTs nfts.ticker sender.did)
    (.nft .invalidNFTTransferInsufficientCount)
  ensureWithinNftsTransferLimits env nfts
  ensureNoDuplicateNfts nfts
  forM nfts.tokens fun nft => do
    ensure (nft ∈ s.portfolio.portfolioNFT sender) (.nft .invalidNFTTransferNFTNotOwned)
    ensure (nft ∉ s.portfolio.portfolioLockedNFT sender) (.nft .invalidNFTTransferNFTIsLocked)
  let _ ← okOr (checkedAdd 64 (s.nft.numberOfNFTs nfts.ticker receiver.did) nfts.ids.length)
    (.nft .invalidNFTTransferCountOverflow)

/-- All that a transfer of tokens needs. -/
def validateNftTransfer (sender receiver : PortfolioId) (nfts : NFTs) (s : Storage) :
    Query Unit := do
  ensure (s.asset.frozen nfts.ticker = false) (.nft .invalidNFTTransferFrozenAsset)
  validateNftOwnership env sender receiver nfts s
  let compliant ← env.isCompliant s nfts.ticker sender.did receiver.did
  ensure compliant (.nft .invalidNFTTransferComplianceFailure)

/-- The counters of a transfer, changed without a check. -/
def transferCounts (sender receiver : IdentityId) (nfts : NFTs) (n : NFTStorage) :
    NFTStorage :=
  let amount := nfts.ids.length
  let n := setNumberOfNFTs nfts.ticker sender
    (wrapSub 64 (n.numberOfNFTs nfts.ticker sender) amount) n
  setNumberOfNFTs nfts.ticker receiver
    (wrapAdd 64 (n.numberOfNFTs nfts.ticker receiver) amount) n

/-- Move the tokens, and count. -/
def unverifiedNftsTransfer (sender receiver : PortfolioId) (nfts : NFTs) (s : Storage) :
    Storage :=
  let s := s.mapNFT (transferCounts sender.did receiver.did nfts)
  nfts.tokens.foldl (Portfolio.uncheckedMoveNft sender receiver) s

/-- Transfer tokens. -/
def baseNftTransfer (sender receiver : PortfolioId) (nfts : NFTs) : Dispatch Unit := do
  Tx.read (validateNftTransfer env sender receiver nfts)
  Tx.modify (unverifiedNftsTransfer sender receiver nfts)

/-- `base_controller_transfer`: the permission is checked for `ticker`, the tokens are those
of `nfts`. -/
def controllerTransfer (source : PortfolioId) (kind : PortfolioKind) : Dispatch Unit := do
  let receiver ←
    Tx.read (Asset.ensureOriginTickerAndPortfolioPermissions env origin ticker kind true)
  Tx.read (validateNftOwnership env source receiver nfts)
  Tx.modify (unverifiedNftsTransfer source receiver nfts)

end NFT

end Polymesh
