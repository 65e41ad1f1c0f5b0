import Polymesh.Library.Registries
import Polymesh.Runtime

/-!
# Asset metadata

The types of metadata, the values that assets have for them and the locks of these values
(`pallets/asset/src/lib.rs`, `primitives/src/asset_metadata.rs`). A type is registered under a key, for
one asset or for all. The collections of the NFT pallet hold lists of such keys, and each of their
tokens has values for them.

The storage is that of the chain together with that of the metadata. What the NFT pallet asks about keys
is answered from it.
-/

namespace Polymesh

open Transactional Tx Collections Registries

namespace Metadata

open Tx (ensure read)

/-! ## Types, values and their details -/

abbrev AssetMetadataName := List UInt8

abbrev AssetMetadataValue := List UInt8

structure AssetMetadataSpec where
  url : Option (List UInt8)
  description : Option (List UInt8)
  typeDef : Option (List UInt8)
deriving DecidableEq

inductive AssetMetadataLockStatus
  | unlocked
  | locked
  | lockedUntil (until_ : Moment)
deriving DecidableEq

def AssetMetadataLockStatus.isLocked (now : Moment) : AssetMetadataLockStatus → Bool
  | unlocked => false
  | locked => true
  | lockedUntil until_ => now < until_

structure AssetMetadataValueDetail where
  expire : Option Moment
  lockStatus : AssetMetadataLockStatus
deriving DecidableEq

def AssetMetadataValueDetail.isLocked (now : Moment) (d : AssetMetadataValueDetail) : Bool :=
  d.lockStatus.isLocked now

/-- The number of a local or of a global key. -/
abbrev KeyNumber := Fin (2 ^ 64)

/-! ## Storage -/

/-- The types of one asset, or the global ones, with the last key that was given. -/
structure TypeStorage where
  registry : Registry AssetMetadataName KeyNumber AssetMetadataSpec
  nextKey : KeyNumber

structure Storage where
  chain : Polymesh.Storage
  localTypes : Ticker → TypeStorage
  globalTypes : TypeStorage
  values : Ticker → AssetMetadataKey → Option AssetMetadataValue
  valueDetails : Ticker → AssetMetadataKey → Option AssetMetadataValueDetail
  /-- `MetadataValue` of the NFT pallet. -/
  nftMetadata : NFTCollectionId → NFTId → AssetMetadataKey → Option AssetMetadataValue

inductive Error
  | chain (e : DispatchError)
  | tooLong
  | assetMetadataNameMaxLengthExceeded
  | assetMetadataValueMaxLengthExceeded
  | assetMetadataTypeDefMaxLengthExceeded
  | assetMetadataKeyIsMissing
  | assetMetadataValueIsLocked
  | assetMetadataLocalKeyAlreadyExists
  | assetMetadataGlobalKeyAlreadyExists
  | assetMetadataKeyBelongsToNFTCollection
  | assetMetadataValueIsEmpty
deriving DecidableEq

abbrev Dispatch (α : Type) := Tx Storage Error α

abbrev Query (α : Type) := Except Error α

def now (s : Storage) : Moment := s.chain.system.now

variable (origin : RuntimeOrigin) (ticker : Ticker) (name : AssetMetadataName)
  (spec : AssetMetadataSpec) (key : AssetMetadataKey)

def setValue (value : Option AssetMetadataValue) (s : Storage) : Storage :=
  { s with values := update₂ s.values ticker key value }

def setValueDetails (detail : Option AssetMetadataValueDetail) (s : Storage) : Storage :=
  { s with valueDetails := update₂ s.valueDetails ticker key detail }

def setLocalTypes (types : TypeStorage) (s : Storage) : Storage :=
  { s with localTypes := Function.update s.localTypes ticker types }

def setNftMetadata (collection : NFTCollectionId) (nft : NFTId)
    (values : AssetMetadataKey → Option AssetMetadataValue) (s : Storage) : Storage :=
  { s with nftMetadata := update₂ s.nftMetadata collection nft values }

/-- A check or a query of the chain. -/
def ofChain {α : Type} (x : Polymesh.Query α) : Query α := x.mapError .chain

/-- A computation over the storage of the chain. -/
def onChain {α : Type} (x : Polymesh.Dispatch α) : Dispatch α := fun s =>
  (ofChain (x s.chain).1, { s with chain := (x s.chain).2 })

@[simp] theorem ofChain_eq_ok {α : Type} {x : Polymesh.Query α} {a : α} :
    ofChain x = .ok a ↔ x = .ok a := by
  cases x <;> simp [ofChain, Except.mapError]

@[simp] theorem onChain_ok {α : Type} {x : Polymesh.Dispatch α} {s s' : Storage} {a : α} :
    onChain x s = (.ok a, s') ↔ ∃ c, x s.chain = (.ok a, c) ∧ s' = { s with chain := c } := by
  simp only [onChain, Prod.ext_iff, ofChain_eq_ok]
  constructor
  · rintro ⟨hok, hs'⟩
    exact ⟨(x s.chain).2, ⟨hok, rfl⟩, hs'.symm⟩
  · rintro ⟨c, ⟨hok, hc⟩, rfl⟩
    exact ⟨hok, by rw [hc]⟩

/-! ## Checks -/

def isAssetMetadataLocked (s : Storage) : Bool :=
  (s.valueDetails ticker key).any (·.isLocked (now s))

/-- The name of a key of an asset. -/
def nameOf : AssetMetadataKey → Storage → Option AssetMetadataName
  | .global key, s => s.globalTypes.registry.keyToName key
  | .local key, s => (s.localTypes ticker).registry.keyToName key

def checkAssetMetadataKeyExists (s : Storage) : Bool :=
  (nameOf ticker key s).isSome

/-- `is_collection_key` of the NFT pallet. -/
def isCollectionKey (chain : Polymesh.Storage) : Bool :=
  (chain.nft.collectionTicker ticker).any (key ∈ chain.nft.collectionKeys ·)

def ensureAssetMetadataValueLimited (value : AssetMetadataValue) : Query Unit :=
  ensure (value.length ≤ 8 * 1024) .assetMetadataValueMaxLengthExceeded

def ensureAssetMetadataNameLimited : Query Unit :=
  ensure (name.length ≤ 256) .assetMetadataNameMaxLengthExceeded

/-- `ensure_opt_string_limited` of the base pallet. -/
def ensureOptStringLimited (text : Option (List UInt8)) : Query Unit :=
  ensure (∀ t ∈ text, t.length ≤ 2048) .tooLong

def ensureAssetMetadataSpecLimited : Query Unit := do
  ensureOptStringLimited spec.url
  ensureOptStringLimited spec.description
  ensure (∀ t ∈ spec.typeDef, t.length ≤ 8 * 1024) .assetMetadataTypeDefMaxLengthExceeded

def ensurePerms (env : Env) (origin : RuntimeOrigin) (ticker : Ticker) : Query IdentityId :=
  ofChain (ExternalAgents.ensurePerms env origin ticker)

/-! ## Values -/

def unverifiedSetAssetMetadata (value : AssetMetadataValue)
    (detail : Option AssetMetadataValueDetail) : Dispatch Unit := do
  read fun _ => ensureAssetMetadataValueLimited value
  let s ← Tx.get
  ensure (checkAssetMetadataKeyExists ticker key s) .assetMetadataKeyIsMissing
  ensure (¬ isAssetMetadataLocked ticker key s) .assetMetadataValueIsLocked
  Tx.modify (setValue ticker key (some value))
  onlyIf detail.isSome (Tx.modify (setValueDetails ticker key detail))

def setAssetMetadata (env : Env) (origin : RuntimeOrigin) (ticker : Ticker)
    (key : AssetMetadataKey) (value : AssetMetadataValue)
    (detail : Option AssetMetadataValueDetail) : Dispatch Unit := do
  let _ ← read fun _ => ensurePerms env origin ticker
  unverifiedSetAssetMetadata ticker key value detail

def setAssetMetadataDetails (env : Env) (origin : RuntimeOrigin) (ticker : Ticker)
    (key : AssetMetadataKey) (detail : AssetMetadataValueDetail) : Dispatch Unit := do
  let _ ← read fun _ => ensurePerms env origin ticker
  let s ← Tx.get
  ensure (checkAssetMetadataKeyExists ticker key s) .assetMetadataKeyIsMissing
  ensure (¬ isAssetMetadataLocked ticker key s) .assetMetadataValueIsLocked
  -- a lock needs a value
  ensure (detail.isLocked (now s) → (s.values ticker key).isSome) .assetMetadataValueIsEmpty
  Tx.modify (setValueDetails ticker key (some detail))

def removeMetadataValue (env : Env) (origin : RuntimeOrigin) (ticker : Ticker)
    (key : AssetMetadataKey) : Dispatch Unit := do
  let _ ← read fun _ => ensurePerms env origin ticker
  let s ← Tx.get
  ensure (checkAssetMetadataKeyExists ticker key s) .assetMetadataKeyIsMissing
  ensure (¬ isAssetMetadataLocked ticker key s) .assetMetadataValueIsLocked
  Tx.modify (setValue ticker key none)
  Tx.modify (setValueDetails ticker key none)

/-! ## Types -/

/-- A type under the next key, unless its name is in use. -/
def TypeStorage.register (inUse : Error) (types : TypeStorage) : Query TypeStorage := do
  ensure (types.registry.nameToKey name = none) inUse
  let key ← okOr (checkedInc types.nextKey) (.chain .counterOverflow)
  return ⟨types.registry.insert name key spec, key⟩

def unverifiedRegisterAssetMetadataLocalType : Dispatch AssetMetadataKey := do
  read fun _ => ensureAssetMetadataNameLimited name
  read fun _ => ensureAssetMetadataSpecLimited spec
  let types ← read fun s =>
    (s.localTypes ticker).register name spec .assetMetadataLocalKeyAlreadyExists
  Tx.modify (setLocalTypes ticker types)
  return .local types.nextKey

def registerAssetMetadataLocalType (env : Env) (origin : RuntimeOrigin) (ticker : Ticker)
    (name : AssetMetadataName) (spec : AssetMetadataSpec) : Dispatch Unit := do
  let _ ← read fun _ => ensurePerms env origin ticker
  let _ ← unverifiedRegisterAssetMetadataLocalType ticker name spec

def registerAndSetLocalAssetMetadata (env : Env) (origin : RuntimeOrigin) (ticker : Ticker)
    (name : AssetMetadataName) (spec : AssetMetadataSpec) (value : AssetMetadataValue)
    (detail : Option AssetMetadataValueDetail) : Dispatch Unit := do
  let _ ← read fun _ => ensurePerms env origin ticker
  let key ← unverifiedRegisterAssetMetadataLocalType ticker name spec
  unverifiedSetAssetMetadata ticker key value detail

def registerAssetMetadataGlobalType : Dispatch Unit := do
  read fun _ => ensureAssetMetadataNameLimited name
  read fun _ => ensureAssetMetadataSpecLimited spec
  ensure (origin = .root) (.chain .badOrigin)
  let types ← read fun s =>
    s.globalTypes.register name spec .assetMetadataGlobalKeyAlreadyExists
  Tx.modify fun s => { s with globalTypes := types }

def TypeStorage.remove (key : KeyNumber) (types : TypeStorage) : TypeStorage :=
  { types with registry := types.registry.erase name key }

def removeLocalMetadataKey (env : Env) (origin : RuntimeOrigin) (ticker : Ticker)
    (localKey : KeyNumber) : Dispatch Unit := do
  let _ ← read fun _ => ensurePerms env origin ticker
  let s ← Tx.get
  let name ← read fun _ =>
    okOr ((s.localTypes ticker).registry.keyToName localKey) .assetMetadataKeyIsMissing
  ensure (¬ isAssetMetadataLocked ticker (.local localKey) s) .assetMetadataValueIsLocked
  ensure (¬ isCollectionKey ticker (.local localKey) s.chain)
    .assetMetadataKeyBelongsToNFTCollection
  Tx.modify (setValue ticker (.local localKey) none)
  Tx.modify (setValueDetails ticker (.local localKey) none)
  Tx.modify (setLocalTypes ticker ((s.localTypes ticker).remove name localKey))

/-! ## Collections -/

/-- The environment of a call to the chain, which finds the keys in the storage. -/
def Storage.env (s : Storage) (env : Env) : Env :=
  { env with checkAssetMetadataKeyExists := fun _ ticker key =>
      Metadata.checkAssetMetadataKeyExists ticker key s }

def createNftCollection (env : Env) (origin : RuntimeOrigin) (ticker : Ticker)
    (hasNftType : Bool) (keys : List AssetMetadataKey) : Dispatch Unit := do
  let s ← Tx.get
  onChain (NFT.createNftCollection (s.env env) origin ticker hasNftType keys)

/-- The values of a new token, for keys that are in the list once. -/
def attributeValues (attributes : List (AssetMetadataKey × AssetMetadataValue))
    (key : AssetMetadataKey) : Option AssetMetadataValue :=
  (attributes.find? (·.1 = key)).map Prod.snd

/-- `issue_nft`, with the number of the new token read back from the storage. -/
def issueNft (env : Env) (origin : RuntimeOrigin) (ticker : Ticker)
    (attributes : List (AssetMetadataKey × AssetMetadataValue)) (kind : PortfolioKind) :
    Dispatch Unit := do
  onChain (NFT.issueNft env origin ticker (attributes.map Prod.fst) kind)
  let s ← Tx.get
  let collection ← read fun _ => ofChain (NFT.collectionOf ticker .collectionNotFound s.chain)
  let nft := s.chain.nft.nextNFTId collection
  Tx.modify (setNftMetadata collection nft fun key =>
    (attributeValues attributes key).or (s.nftMetadata collection nft key))

def redeemNft (env : Env) (origin : RuntimeOrigin) (ticker : Ticker) (nft : NFTId)
    (kind : PortfolioKind) : Dispatch Unit := do
  let collection ← read fun s => ofChain (NFT.collectionOf ticker .collectionNotFound s.chain)
  onChain (NFT.redeemNft env origin ticker nft kind)
  Tx.modify (setNftMetadata collection nft fun _ => none)

/-! ## Steps -/

inductive Call
  | setAssetMetadata (ticker : Ticker) (key : AssetMetadataKey) (value : AssetMetadataValue)
      (detail : Option AssetMetadataValueDetail)
  | setAssetMetadataDetails (ticker : Ticker) (key : AssetMetadataKey)
      (detail : AssetMetadataValueDetail)
  | removeMetadataValue (ticker : Ticker) (key : AssetMetadataKey)
  | registerAssetMetadataLocalType (ticker : Ticker) (name : AssetMetadataName)
      (spec : AssetMetadataSpec)
  | registerAndSetLocalAssetMetadata (ticker : Ticker) (name : AssetMetadataName)
      (spec : AssetMetadataSpec) (value : AssetMetadataValue)
      (detail : Option AssetMetadataValueDetail)
  | registerAssetMetadataGlobalType (name : AssetMetadataName) (spec : AssetMetadataSpec)
  | removeLocalMetadataKey (ticker : Ticker) (localKey : KeyNumber)
  | createNftCollection (ticker : Ticker) (hasNftType : Bool) (keys : List AssetMetadataKey)
  | issueNft (ticker : Ticker) (attributes : List (AssetMetadataKey × AssetMetadataValue))
      (kind : PortfolioKind)
  | redeemNft (ticker : Ticker) (nft : NFTId) (kind : PortfolioKind)

def dispatch (env : Env) (origin : RuntimeOrigin) : Call → Dispatch Unit
  | .setAssetMetadata ticker key value detail =>
    setAssetMetadata env origin ticker key value detail
  | .setAssetMetadataDetails ticker key detail =>
    setAssetMetadataDetails env origin ticker key detail
  | .removeMetadataValue ticker key => removeMetadataValue env origin ticker key
  | .registerAssetMetadataLocalType ticker name spec =>
    registerAssetMetadataLocalType env origin ticker name spec
  | .registerAndSetLocalAssetMetadata ticker name spec value detail =>
    registerAndSetLocalAssetMetadata env origin ticker name spec value detail
  | .registerAssetMetadataGlobalType name spec =>
    registerAssetMetadataGlobalType origin name spec
  | .removeLocalMetadataKey ticker localKey => removeLocalMetadataKey env origin ticker localKey
  | .createNftCollection ticker hasNftType keys =>
    createNftCollection env origin ticker hasNftType keys
  | .issueNft ticker attributes kind => issueNft env origin ticker attributes kind
  | .redeemNft ticker nft kind => redeemNft env origin ticker nft kind

/-- The collections are the same. -/
structure SameCollections (c c' : Polymesh.Storage) : Prop where
  collectionTicker : c'.nft.collectionTicker = c.nft.collectionTicker
  collectionKeys : c'.nft.collectionKeys = c.nft.collectionKeys
  nextCollectionId : c'.nft.nextCollectionId = c.nft.nextCollectionId

/-- A call of another pallet, or another call of the NFT pallet: none of them writes to the metadata, to
the collections or to the clock. -/
structure OtherCall where
  run : Polymesh.Storage → Polymesh.Storage
  collections : ∀ c, SameCollections c (run c)
  clock : ∀ c, (run c).system.now = c.system.now

inductive Action
  | extrinsic (env : Env) (origin : RuntimeOrigin) (call : Call)
  | other (call : OtherCall)
  | nextBlock (elapsed : ℕ)

def step (a : Action) (s : Storage) : Storage :=
  match a with
  | .extrinsic env origin call => (Tx.transaction (dispatch env origin call) s).2
  | .other call => { s with chain := call.run s.chain }
  | .nextBlock elapsed => { s with chain := Polymesh.step (.nextBlock elapsed) s.chain }

def genesis : Storage where
  chain := Polymesh.genesis
  localTypes := fun _ => ⟨.empty, 0⟩
  globalTypes := ⟨.empty, 0⟩
  values := fun _ _ => none
  valueDetails := fun _ _ => none
  nftMetadata := fun _ _ _ => none

end Metadata

end Polymesh
