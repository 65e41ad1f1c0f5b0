import Mathlib.Data.Set.Insert
import Mathlib.Logic.Relation
import Polymesh.Checkpoints.Advance
import Polymesh.Runtime

/-!
# The effects of a call

Whatever a call does to balances, locks and tokens is a sequence of a few effects: to mint,
to redeem, to transfer, to move between the portfolios of one identity, to forget an empty
portfolio, to issue, transfer and move tokens, to lock and to unlock. An invariant of the
holdings is then checked once for every effect, and not for every call. With a change of balances
go the due checkpoints, which an effect of their own makes before it, and the transfer statistics.

What else is stored falls into aspects, and most calls leave most of them alone. Which ones is the
footprint of a call, together with the environments that it reads and the portfolios that it may
send tokens to without asking whether they exist.

Redeeming a token is kept apart: it is the one change that does not ask for a lock.
-/

namespace Polymesh

open Transactional Tx Collections Relation Snapshots

/-! ## What a change leaves alone -/

/-- The ticker is registered, or that of an asset. -/
def Storage.known (s : Storage) (t : Ticker) : Bool :=
  (s.asset.tokens t).isSome || (s.asset.tickers t).isSome

/-- The characters of the tickers that are known were checked. -/
def TickersValid (s : Storage) : Prop := ∀ t, s.known t → t.Valid

/-- The balances, locks, supplies and tokens are the same, and no ticker is new but valid ones. -/
structure SameHoldings (s s' : Storage) : Prop where
  supply : ∀ t, Asset.totalSupply t s' = Asset.totalSupply t s := by intro; rfl
  balanceOf : s'.asset.balanceOf = s.asset.balanceOf := by rfl
  count : s'.portfolio.portfolioAssetCount = s.portfolio.portfolioAssetCount := by rfl
  balances : s'.portfolio.portfolioAssetBalances = s.portfolio.portfolioAssetBalances := by rfl
  locked : s'.portfolio.portfolioLockedAssets = s.portfolio.portfolioLockedAssets := by rfl
  held : s'.portfolio.portfolioNFT = s.portfolio.portfolioNFT := by rfl
  lockedNFT : s'.portfolio.portfolioLockedNFT = s.portfolio.portfolioLockedNFT := by rfl
  nft : s'.nft = s.nft := by rfl
  valid : TickersValid s → TickersValid s'

/-- The holdings of a state, as one value. -/
def Storage.holdings (s : Storage) :=
  (fun t => Asset.totalSupply t s, s.asset.balanceOf, s.portfolio.portfolioAssetCount,
    s.portfolio.portfolioAssetBalances, s.portfolio.portfolioLockedAssets,
    s.portfolio.portfolioNFT, s.portfolio.portfolioLockedNFT, s.nft, s.known)

theorem SameHoldings.of_eq {s s' : Storage} (h : s'.holdings = s.holdings) : SameHoldings s s' := by
  simp only [Storage.holdings, Prod.mk.injEq] at h
  obtain ⟨h₁, h₂, h₃, h₄, h₅, h₆, h₇, h₈, h₉⟩ := h
  exact ⟨congrFun h₁, h₂, h₃, h₄, h₅, h₆, h₇, h₈, fun hs t ht => hs t (h₉ ▸ ht)⟩

/-- The clock, the instructions, the fundraisers and the distributions are the same. -/
structure SameRecords (s s' : Storage) : Prop where
  system : s'.system = s.system := by rfl
  instruction : s'.settlement.instruction = s.settlement.instruction := by rfl
  instructionCounter : s'.settlement.instructionCounter = s.settlement.instructionCounter := by
    rfl
  sto : s'.sto = s.sto := by rfl
  distribution : s'.distribution = s.distribution := by rfl

/-- The records of a state, as one value. -/
def Storage.records (s : Storage) :=
  (s.system, s.settlement.instruction, s.settlement.instructionCounter, s.sto, s.distribution)

theorem SameRecords.of_eq {s s' : Storage} (h : s'.records = s.records) : SameRecords s s' := by
  simp only [Storage.records, Prod.mk.injEq] at h
  obtain ⟨h₁, h₂, h₃, h₄, h₅⟩ := h
  exact ⟨h₁, h₂, h₃, h₄, h₅⟩

theorem SameRecords.trans {s₁ s₂ s₃ : Storage} (h : SameRecords s₁ s₂) (h' : SameRecords s₂ s₃) :
    SameRecords s₁ s₃ where
  system := h'.system.trans h.system
  instruction := h'.instruction.trans h.instruction
  instructionCounter := h'.instructionCounter.trans h.instructionCounter
  sto := h'.sto.trans h.sto
  distribution := h'.distribution.trans h.distribution

/-! ## Aspects of the storage -/

variable (p : PortfolioId) (t : Ticker) (v : ℕ)

/-- A portfolio that may hold assets. -/
def PortfolioExists (s : Storage) : Prop :=
  match p.kind with
  | .default => True
  | .user num => (s.portfolio.portfolios p.did num).isSome

/-- An amount of a ticker that may be moved, in whole units unless the ticker is divisible. -/
def Granular (s : Storage) : Prop :=
  Asset.isDivisible t s ∨ Asset.isUnitMultiple v

/-- What is stored of the venues, except for their types. -/
def SettlementStorage.venues (t : SettlementStorage) :=
  (t.venueCounter, fun id => (t.venueInfo id).isSome, t.venueSigners, t.numberOfVenueSigners)

/-- The custodians of portfolios, and the portfolios of custodians. -/
def PortfolioStorage.custody (p : PortfolioStorage) := (p.portfolioCustodian, p.portfoliosInCustody)

/-- The portfolios of every identity by number and by name, and its next number. -/
def PortfolioStorage.registry (p : PortfolioStorage) :=
  (p.portfolios, p.nameToNumber, p.nextPortfolioNumber)

/-- Parts of the storage that only some calls change. -/
inductive Aspect
  /-- The portfolios that exist. -/
  | portfolios
  /-- The names and the numbers of portfolios. -/
  | registry
  /-- Who has custody of which portfolio. -/
  | custody
  /-- The assets that exist, and the divisible ones among them. -/
  | divisibility
  /-- The owners of tickers and assets. -/
  | ownership
  /-- The venues that exist, and their signers. -/
  | venues
  /-- The legs of the instructions. -/
  | legs
  /-- The receipts that have been used, and the legs that are marked with one. -/
  | receipts
  | distributions
  | checkpoints
  | statistics
  | clock
deriving DecidableEq

/-- The aspect is the same after a change, or has only grown. -/
def Aspect.Kept : Aspect → Storage → Storage → Prop
  | .portfolios, s, s' => ∀ p, PortfolioExists p s → PortfolioExists p s'
  | .registry, s, s' => s'.portfolio.registry = s.portfolio.registry
  | .custody, s, s' => s'.portfolio.custody = s.portfolio.custody
  | .divisibility, s, s' => ∀ t token, s.asset.tokens t = some token →
      ∃ token', s'.asset.tokens t = some token' ∧ (token.divisible → token'.divisible)
  | .ownership, s, s' =>
      (∀ t, (s'.asset.tokens t).map SecurityToken.ownerDid =
        (s.asset.tokens t).map SecurityToken.ownerDid) ∧
      s'.asset.tickers = s.asset.tickers ∧
      s'.asset.assetOwnershipRelations = s.asset.assetOwnershipRelations
  | .venues, s, s' => s'.settlement.venues = s.settlement.venues
  | .legs, s, s' => s'.settlement.instructionLegs = s.settlement.instructionLegs
  | .receipts, s, s' => s'.settlement.receiptsUsed = s.settlement.receiptsUsed ∧
      ∀ id legId signer uid,
        s'.settlement.instructionLegStatus id legId = .executionToBeSkipped signer uid →
        s.settlement.instructionLegStatus id legId = .executionToBeSkipped signer uid
  | .distributions, s, s' => s'.distribution = s.distribution
  | .checkpoints, s, s' => s'.checkpoint = s.checkpoint
  | .statistics, s, s' => s'.statistics = s.statistics
  | .clock, s, s' => s'.system.now = s.system.now

/-- The parts of the storage that make up the aspect are the same. -/
def Aspect.Same : Aspect → Storage → Storage → Prop
  | .portfolios, s, s' => s'.portfolio.portfolios = s.portfolio.portfolios
  | .registry, s, s' => s'.portfolio.registry = s.portfolio.registry
  | .custody, s, s' => s'.portfolio.custody = s.portfolio.custody
  | .divisibility, s, s' => s'.asset.tokens = s.asset.tokens
  | .ownership, s, s' =>
      (s'.asset.tokens, s'.asset.tickers, s'.asset.assetOwnershipRelations) =
        (s.asset.tokens, s.asset.tickers, s.asset.assetOwnershipRelations)
  | .venues, s, s' => s'.settlement.venues = s.settlement.venues
  | .legs, s, s' => s'.settlement.instructionLegs = s.settlement.instructionLegs
  | .receipts, s, s' =>
      (s'.settlement.receiptsUsed, s'.settlement.instructionLegStatus) =
        (s.settlement.receiptsUsed, s.settlement.instructionLegStatus)
  | .distributions, s, s' => s'.distribution = s.distribution
  | .checkpoints, s, s' => s'.checkpoint = s.checkpoint
  | .statistics, s, s' => s'.statistics = s.statistics
  | .clock, s, s' => s'.system.now = s.system.now

theorem Aspect.Kept.of_same {r : Aspect} {s s' : Storage} (h : r.Same s s') : r.Kept s s' := by
  cases r with
  | portfolios =>
    intro p hp
    rwa [PortfolioExists, show s'.portfolio.portfolios = s.portfolio.portfolios from h]
  | divisibility =>
    intro t token htoken
    exact ⟨token, by rw [show s'.asset.tokens = s.asset.tokens from h, htoken], id⟩
  | ownership =>
    obtain ⟨htokens, htickers, hrelations⟩ := by simpa only [Aspect.Same, Prod.mk.injEq] using h
    exact ⟨fun t => by rw [htokens], htickers, hrelations⟩
  | receipts =>
    obtain ⟨hused, hstatus⟩ := by simpa only [Aspect.Same, Prod.mk.injEq] using h
    exact ⟨hused, fun _ _ _ _ hmark => by rwa [hstatus] at hmark⟩
  | _ => exact h

theorem Aspect.kept_refl (r : Aspect) (s : Storage) : r.Kept s s := by
  cases r <;> exact .of_same rfl

theorem Aspect.Kept.trans {r : Aspect} {s₁ s₂ s₃ : Storage} (h : r.Kept s₁ s₂)
    (h' : r.Kept s₂ s₃) : r.Kept s₁ s₃ := by
  cases r with
  | portfolios => exact fun p hp => h' p (h p hp)
  | divisibility =>
    intro t token htoken
    obtain ⟨token₂, htoken₂, hdiv⟩ := h t token htoken
    obtain ⟨token₃, htoken₃, hdiv'⟩ := h' t token₂ htoken₂
    exact ⟨token₃, htoken₃, fun hd => hdiv' (hdiv hd)⟩
  | ownership =>
    exact ⟨fun t => (h'.1 t).trans (h.1 t), h'.2.1.trans h.2.1, h'.2.2.trans h.2.2⟩
  | receipts =>
    exact ⟨h'.1.trans h.1, fun id l signer uid hmark => h.2 id l signer uid (h'.2 _ _ _ _ hmark)⟩
  | registry | custody | venues | legs | distributions | checkpoints | statistics | clock =>
    exact Eq.trans h' h

/-- Every aspect of a set is kept. -/
def Keeps (kept : Set Aspect) (s s' : Storage) : Prop := ∀ r ∈ kept, r.Kept s s'

/-- The parts of a state that make up its aspects, as one value. -/
def Storage.aspects (s : Storage) :=
  (s.portfolio.portfolios, s.asset.tokens, s.asset.tickers, s.asset.assetOwnershipRelations,
    s.settlement.venues, s.settlement.instructionLegs, s.settlement.receiptsUsed,
    s.settlement.instructionLegStatus, s.distribution, s.checkpoint, s.statistics, s.system.now,
    s.portfolio.custody, s.portfolio.registry)

theorem Keeps.of_eq {kept : Set Aspect} {s s' : Storage} (h : s'.aspects = s.aspects) :
    Keeps kept s s' := by
  simp only [Storage.aspects, Prod.mk.injEq] at h
  obtain ⟨h₁, h₂, h₃, h₄, h₅, h₆, h₇, h₈, h₉, h₁₀, h₁₁, h₁₂, h₁₃, h₁₄⟩ := h
  refine fun r _ => .of_same ?_
  cases r with
  | portfolios => exact h₁
  | registry => exact h₁₄
  | custody => exact h₁₃
  | divisibility => exact h₂
  | ownership => simp only [Aspect.Same, h₂, h₃, h₄]
  | venues => exact h₅
  | legs => exact h₆
  | receipts => simp only [Aspect.Same, h₇, h₈]
  | distributions => exact h₉
  | checkpoints => exact h₁₀
  | statistics => exact h₁₁
  | clock => exact h₁₂

/-! ### Writes of one part -/

section Parts

variable {kept : Set Aspect} {s : Storage}

theorem keeps_setRegistry (hf : .registry ∉ kept) {g : PortfolioStorage → PortfolioStorage}
    (h : ∀ p, PortfolioExists p s → PortfolioExists p (s.mapPortfolio g))
    (hcustody : (g s.portfolio).custody = s.portfolio.custody) :
    Keeps kept s (s.mapPortfolio g) := by
  intro r hr
  cases r with
  | portfolios => exact h
  | registry => exact absurd hr hf
  | custody => exact hcustody
  | _ => exact .of_same rfl

theorem keeps_setCustody (h : .custody ∉ kept) (g : PortfolioStorage → PortfolioStorage)
    (hg : ∀ p, (g p).registry = p.registry) : Keeps kept s (s.mapPortfolio g) := by
  intro r hr
  cases r with
  | portfolios => exact .of_same (congrArg Prod.fst (hg s.portfolio))
  | registry => exact hg s.portfolio
  | custody => exact absurd hr h
  | _ => exact .of_same rfl

theorem keeps_mapDistribution (h : .distributions ∉ kept)
    (g : DistributionStorage → DistributionStorage) : Keeps kept s (s.mapDistribution g) := by
  intro r hr
  cases r with
  | distributions => exact absurd hr h
  | _ => exact .of_same rfl

theorem keeps_setCheckpoints (h : .checkpoints ∉ kept) (t : Ticker) (c : TickerCheckpoints) :
    Keeps kept s (s.setCheckpoints t c) := by
  intro r hr
  cases r with
  | checkpoints => exact absurd hr h
  | _ => exact .of_same rfl

theorem keeps_setStatistics (h : .statistics ∉ kept) (t : Ticker) (c : TickerStatistics) :
    Keeps kept s (s.setStatistics t c) := by
  intro r hr
  cases r with
  | statistics => exact absurd hr h
  | _ => exact .of_same rfl

end Parts

/-! ## Footprints -/

/-- What the effects of a call may read and change: the environments that they read, the aspects
that they keep, and the portfolios that are sent tokens without a check that they exist. The
checkpoints and the statistics are kept if they are changed only along with a change of
balances. -/
structure Footprint where
  envs : Set Env
  kept : Set Aspect
  receivers : Set PortfolioId

/-- The footprint of any effects. -/
def Footprint.any : Footprint := ⟨Set.univ, ∅, Set.univ⟩

theorem Footprint.env_mem_any (env : Env) : env ∈ any.envs := Set.mem_univ env

theorem Footprint.notMem_any (r : Aspect) : r ∉ any.kept := Set.notMem_empty r

theorem Footprint.receiver_mem_any : p ∈ any.receivers := Set.mem_univ p

/-! ## Effects -/

/-- The unlocked balance of a portfolio. -/
def freeBalance (s : Storage) : ℕ :=
  s.portfolio.portfolioAssetBalances p t - s.portfolio.portfolioLockedAssets p t

/-- The writes of an issuance of `v` tokens. -/
def writeMint (token : SecurityToken) (s : Storage) : Storage :=
  ((s.mapAsset
    (Asset.setBalanceOf t p.did (wrapAdd 128 (s.asset.balanceOf t p.did) v))).mapPortfolio
    (Portfolio.setPortfolioBalance p t
      (wrapAdd 128 (s.portfolio.portfolioAssetBalances p t) v))).mapAsset
    (Asset.setToken t { token with totalSupply := token.totalSupply + v })

/-- The writes of a redemption of `v` tokens. -/
def writeRedeem (token : SecurityToken) (s : Storage) : Storage :=
  ((s.mapPortfolio
    (Portfolio.setPortfolioBalance p t (s.portfolio.portfolioAssetBalances p t - v))).mapAsset
    (Asset.setBalanceOf t p.did (wrapSub 128 (s.asset.balanceOf t p.did) v))).mapAsset
    (Asset.setToken t { token with totalSupply := token.totalSupply - v })

/-- The write of the transfer statistics that goes with a change of balances. -/
def writeStatistics (env : Env) (t : Ticker) (ch : Statistics.Change) (s : Storage) : Storage :=
  s.setStatistics t
    (if ch.amount = 0 then s.statistics.ofTicker t
    else Statistics.updateActiveStats env t ch (s.statistics.ofTicker t))

/-- The change of balances of an issuance. -/
def mintChange (s : Storage) : Statistics.Change :=
  ⟨none, some p.did, none, some (wrapAdd 128 (s.asset.balanceOf t p.did) v), v⟩

/-- The change of balances of a redemption. -/
def redeemChange (s : Storage) : Statistics.Change :=
  ⟨some p.did, none, some (wrapSub 128 (s.asset.balanceOf t p.did) v), none, v⟩

/-- The change of balances of a transfer. -/
def transferChange (q : PortfolioId) (t : Ticker) (v : ℕ) (s : Storage) : Statistics.Change :=
  ⟨some p.did, some q.did, some (s.asset.balanceOf t p.did - v),
    some (s.asset.balanceOf t q.did + v), v⟩

/-- A change of holdings that touches no lock and no record, with what has been checked
before it. -/
inductive Movement (f : Footprint) : Storage → Storage → Prop
  | other {s s'} : SameHoldings s s' → SameRecords s s' → Keeps f.kept s s' → Movement f s s'
  | checkpoint {s} (t : Ticker) (dids : List IdentityId) (c : TickerCheckpoints) :
      Advanced t dids c s → Movement f s (s.setCheckpoints t c)
  | mint {s} (env : Env) (p : PortfolioId) (t : Ticker) (v : ℕ) (token : SecurityToken) :
      env ∈ f.envs → s.asset.tokens t = some token → token.totalSupply + v ≤ maxSupply →
      Granular t v s → PortfolioExists p s → CheckpointsReady t [p.did] s →
      Movement f s (writeStatistics env t (mintChange p t v s) (writeMint p t v token s))
  | redeem {s} (env : Env) (p : PortfolioId) (t : Ticker) (v : ℕ) (token : SecurityToken) :
      env ∈ f.envs → s.asset.tokens t = some token → v ≤ token.totalSupply →
      v + s.portfolio.portfolioLockedAssets p t ≤ s.portfolio.portfolioAssetBalances p t →
      Granular t v s → CheckpointsReady t [p.did] s →
      Movement f s (writeStatistics env t (redeemChange p t v s) (writeRedeem p t v token s))
  | transfer {s} (env : Env) (p q : PortfolioId) (t : Ticker) (v : ℕ) :
      env ∈ f.envs → p.did ≠ q.did → v ≤ s.asset.balanceOf t p.did → v ≤ freeBalance p t s →
      Granular t v s → PortfolioExists q s → CheckpointsReady t [p.did, q.did] s →
      Movement f s (writeStatistics env t (transferChange p q t v s)
        (Asset.writeTransfer p q t v (s.asset.balanceOf t p.did - v)
          (s.asset.balanceOf t q.did + v) s))
  | move {s} (p q : PortfolioId) (t : Ticker) (v : ℕ) :
      p ≠ q → p.did = q.did → v ≤ freeBalance p t s → Granular t v s → PortfolioExists q s →
      Movement f s (s.mapPortfolio (Portfolio.uncheckedTransferPortfolioBalance p q t v))
  | delete {s} (did : IdentityId) (num : PortfolioNumber) (name : PortfolioName)
      (holder : IdentityId) :
      .portfolios ∉ f.kept → s.portfolio.portfolioAssetCount (.userPortfolio did num) = 0 →
      s.portfolio.portfolioNFT (.userPortfolio did num) = ∅ → .custody ∉ f.kept →
      .registry ∉ f.kept →
      Movement f s (s.mapPortfolio (Portfolio.removePortfolio did num name holder))
  | newCollection {s} (t : Ticker) (c : NFTCollectionId) (keys : List AssetMetadataKey) :
      s.nft.collectionTicker t = none → checkedInc s.nft.nextCollectionId.id = some c.id →
      Movement f s (s.mapNFT (NFT.insertCollection t c keys))
  | issueNft {s} (p : PortfolioId) (x : Ticker × NFTId) (c : NFTCollectionId) :
      s.nft.collectionTicker x.1 = some c → checkedInc (s.nft.nextNFTId c).id = some x.2.id →
      s.nft.numberOfNFTs x.1 p.did + 1 < 2 ^ 64 → PortfolioExists p s →
      Movement f s (NFT.writeIssue x c p (s.nft.nftsInCollection x.1 + 1)
        (s.nft.numberOfNFTs x.1 p.did + 1) s)
  | transferNfts {s} (p q : PortfolioId) (nfts : NFTs) :
      p ≠ q → nfts.ids.Nodup → nfts.ids.length ≤ s.nft.numberOfNFTs nfts.ticker p.did →
      s.nft.numberOfNFTs nfts.ticker q.did + nfts.ids.length < 2 ^ 64 →
      (∀ x ∈ nfts.tokens, x ∈ s.portfolio.portfolioNFT p ∧ x ∉ s.portfolio.portfolioLockedNFT p) →
      PortfolioExists q s ∨ q ∈ f.receivers →
      Movement f s (NFT.unverifiedNftsTransfer p q nfts s)
  | moveNft {s} (p q : PortfolioId) (x : Ticker × NFTId) :
      p ≠ q → p.did = q.did → x ∈ s.portfolio.portfolioNFT p ∨ x ∈ s.portfolio.portfolioNFT q →
      x ∉ s.portfolio.portfolioLockedNFT p → PortfolioExists q s →
      Movement f s (Portfolio.uncheckedMoveNft p q s x)

/-- One effect of a call, with what has been checked before it. -/
inductive Effect (f : Footprint) : Storage → Storage → Prop
  | record {s s'} : SameHoldings s s' → Keeps f.kept s s' → Effect f s s'
  | movement {s s'} : Movement f s s' → Effect f s s'
  | lock {s} (p : PortfolioId) (t : Ticker) (v : ℕ) :
      v ≤ freeBalance p t s → Effect f s (s.mapPortfolio (Portfolio.uncheckedLockTokens p t v))
  | unlock {s} (p : PortfolioId) (t : Ticker) (v : ℕ) :
      v ≤ s.portfolio.portfolioLockedAssets p t →
      Effect f s (s.mapPortfolio
        (Portfolio.setLocked p t (s.portfolio.portfolioLockedAssets p t - v)))
  | lockNft {s} (p : PortfolioId) (x : Ticker × NFTId) :
      x ∈ s.portfolio.portfolioNFT p → x ∉ s.portfolio.portfolioLockedNFT p →
      Effect f s (s.mapPortfolio (Portfolio.insertLockedNFT p x))
  | unlockNft {s} (p : PortfolioId) (x : Ticker × NFTId) :
      Effect f s (s.mapPortfolio (Portfolio.removeLockedNFT p x))

/-- A sequence of movements within a footprint. -/
abbrev MovementsIn (f : Footprint) : Storage → Storage → Prop := ReflTransGen (Movement f)

/-- A sequence of effects within a footprint. -/
abbrev EffectsIn (f : Footprint) : Storage → Storage → Prop := ReflTransGen (Effect f)

/-- A sequence of movements. -/
abbrev Movements : Storage → Storage → Prop := MovementsIn .any

/-- A sequence of effects. -/
abbrev Effects : Storage → Storage → Prop := EffectsIn .any

variable {f : Footprint}

theorem Movement.movements {s s' : Storage} (h : Movement f s s') : MovementsIn f s s' := .single h

theorem Effect.effects {s s' : Storage} (h : Effect f s s') : EffectsIn f s s' := .single h

theorem MovementsIn.effects {s s' : Storage} (h : MovementsIn f s s') : EffectsIn f s s' :=
  ReflTransGen.mono (p := Effect f) (fun _ _ => Effect.movement) _ _ h

/-! ### What effects leave alone -/

theorem sameRecords_moveNfts (q : PortfolioId) (xs : List (Ticker × NFTId)) (s : Storage) :
    SameRecords s (xs.foldl (Portfolio.uncheckedMoveNft p q) s) := by
  induction xs generalizing s with
  | nil => exact .of_eq rfl
  | cons x xs ih =>
    have hone : SameRecords s (Portfolio.uncheckedMoveNft p q s x) := .of_eq rfl
    exact hone.trans (ih _)

theorem Movement.sameRecords {s s' : Storage} (h : Movement f s s') : SameRecords s s' := by
  cases h with
  | other _ h _ => exact h
  | transferNfts p q nfts =>
    have hcounts : SameRecords s (s.mapNFT (NFT.transferCounts p.did q.did nfts)) := .of_eq rfl
    exact hcounts.trans (sameRecords_moveNfts p q nfts.tokens _)
  | _ => exact .of_eq rfl

theorem MovementsIn.sameRecords {s s' : Storage} (h : MovementsIn f s s') : SameRecords s s' := by
  induction h with
  | refl => exact .of_eq rfl
  | tail _ h ih => exact ih.trans h.sameRecords

theorem kept_divisibility {s s' : Storage} {t : Ticker} {token token' : SecurityToken}
    (htoken : s.asset.tokens t = some token)
    (h : s'.asset.tokens = Function.update s.asset.tokens t (some token'))
    (hdiv : token.divisible → token'.divisible) :
    Aspect.Kept .divisibility s s' := by
  intro t' token₁ htoken₁
  rw [h]
  by_cases ht : t' = t
  · subst ht
    rw [htoken] at htoken₁
    cases htoken₁
    exact ⟨token', Function.update_self .., hdiv⟩
  · exact ⟨token₁, by rw [Function.update_of_ne ht, htoken₁], id⟩

theorem kept_ownership {s s' : Storage} {t : Ticker} {token token' : SecurityToken}
    (htoken : s.asset.tokens t = some token)
    (h : s'.asset.tokens = Function.update s.asset.tokens t (some token'))
    (howner : token'.ownerDid = token.ownerDid) (htickers : s'.asset.tickers = s.asset.tickers)
    (hrelations : s'.asset.assetOwnershipRelations = s.asset.assetOwnershipRelations) :
    Aspect.Kept .ownership s s' := by
  refine ⟨fun t' => ?_, htickers, hrelations⟩
  rw [h]
  by_cases ht : t' = t
  · subst ht
    simp [htoken, howner]
  · rw [Function.update_of_ne ht]

theorem kept_moveNfts (r : Aspect) (p q : PortfolioId) (xs : List (Ticker × NFTId))
    (s : Storage) : r.Kept s (xs.foldl (Portfolio.uncheckedMoveNft p q) s) := by
  induction xs generalizing s with
  | nil => exact r.kept_refl s
  | cons x xs ih =>
    have hone : Keeps {r} s (Portfolio.uncheckedMoveNft p q s x) := .of_eq rfl
    exact (hone r rfl).trans (ih _)

/-- Movements keep the aspects of their footprint that they do not have constructors for. -/
theorem Movement.kept {s s' : Storage} (h : Movement f s s') {r : Aspect} (hr : r ∈ f.kept)
    (hcp : r ≠ .checkpoints) (hst : r ≠ .statistics) : r.Kept s s' := by
  cases h with
  | other _ _ h => exact h r hr
  | mint env p t v token _ htoken | redeem env p t v token _ htoken =>
    cases r with
    | divisibility => exact kept_divisibility htoken rfl id
    | ownership => exact kept_ownership htoken rfl rfl rfl rfl
    | statistics => exact absurd rfl hst
    | _ => exact .of_same rfl
  | delete did num name holder hfree _ _ hcustody hregistry =>
    cases r with
    | portfolios => exact absurd hr hfree
    | custody => exact absurd hr hcustody
    | registry => exact absurd hr hregistry
    | _ => exact .of_same rfl
  | transferNfts p q nfts =>
    have hcounts : Keeps {r} s (s.mapNFT (NFT.transferCounts p.did q.did nfts)) := .of_eq rfl
    exact (hcounts r rfl).trans (kept_moveNfts r p q nfts.tokens _)
  | checkpoint t dids c =>
    cases r with
    | checkpoints => exact absurd rfl hcp
    | _ => exact .of_same rfl
  | transfer env p q t v =>
    cases r with
    | statistics => exact absurd rfl hst
    | _ => exact .of_same rfl
  | _ => cases r <;> exact .of_same rfl

theorem Effect.kept {s s' : Storage} (h : Effect f s s') {r : Aspect} (hr : r ∈ f.kept)
    (hcp : r ≠ .checkpoints) (hst : r ≠ .statistics) : r.Kept s s' := by
  cases h with
  | record _ h => exact h r hr
  | movement h => exact h.kept hr hcp hst
  | _ => cases r <;> exact .of_same rfl

/-- **Effects leave the aspects outside of their footprint as they are.** -/
theorem EffectsIn.kept {s s' : Storage} (h : EffectsIn f s s') {r : Aspect} (hr : r ∈ f.kept)
    (hcp : r ≠ .checkpoints) (hst : r ≠ .statistics) : r.Kept s s' := by
  induction h with
  | refl => exact r.kept_refl s
  | tail _ h ih => exact ih.trans (h.kept hr hcp hst)

/-! ### Effects in a larger footprint -/

theorem Movement.any {s s' : Storage} (h : Movement f s s') : Movement .any s s' := by
  cases h with
  | other hh hr _ => exact .other hh hr fun r h => absurd h (Footprint.notMem_any r)
  | checkpoint t dids c h => exact .checkpoint t dids c h
  | mint env p t v token _ h₁ h₂ h₃ h₄ h₅ => exact .mint env p t v token trivial h₁ h₂ h₃ h₄ h₅
  | redeem env p t v token _ h₁ h₂ h₃ h₄ h₅ => exact .redeem env p t v token trivial h₁ h₂ h₃ h₄ h₅
  | transfer env p q t v _ h₁ h₂ h₃ h₄ h₅ h₆ =>
    exact .transfer env p q t v trivial h₁ h₂ h₃ h₄ h₅ h₆
  | move p q t v h₁ h₂ h₃ h₄ h₅ => exact .move p q t v h₁ h₂ h₃ h₄ h₅
  | delete did num name holder _ h₁ h₂ _ =>
    exact .delete did num name holder (Footprint.notMem_any _) h₁ h₂ (Footprint.notMem_any _)
      (Footprint.notMem_any _)
  | newCollection t c keys h₁ h₂ => exact .newCollection t c keys h₁ h₂
  | issueNft p x c h₁ h₂ h₃ h₄ => exact .issueNft p x c h₁ h₂ h₃ h₄
  | transferNfts p q nfts h₁ h₂ h₃ h₄ h₅ _ =>
    exact .transferNfts p q nfts h₁ h₂ h₃ h₄ h₅ (.inr trivial)
  | moveNft p q x h₁ h₂ h₃ h₄ h₅ => exact .moveNft p q x h₁ h₂ h₃ h₄ h₅

theorem Effect.any {s s' : Storage} (h : Effect f s s') : Effect .any s s' := by
  cases h with
  | record hh _ => exact .record hh fun r h => absurd h (Footprint.notMem_any r)
  | movement h => exact .movement h.any
  | lock p t v h => exact .lock p t v h
  | unlock p t v h => exact .unlock p t v h
  | lockNft p x h₁ h₂ => exact .lockNft p x h₁ h₂
  | unlockNft p x => exact .unlockNft p x

theorem EffectsIn.any {s s' : Storage} (h : EffectsIn f s s') : Effects s s' :=
  ReflTransGen.mono (p := Effect .any) (fun _ _ => Effect.any) _ _ h

/-! ### Writes of a computation -/

/-- What a write elsewhere leaves alone, as one value. -/
def Storage.view (s : Storage) := (s.holdings, s.records, s.aspects)

theorem respects_modify_other {g : Storage → Storage} (hh : ∀ s, SameHoldings s (g s))
    (hr : ∀ s, SameRecords s (g s)) (hk : ∀ s, Keeps f.kept s (g s)) :
    Respects (MovementsIn f) (Tx.modify g : Dispatch Unit) :=
  .modify fun s => (Movement.other (hh s) (hr s) (hk s)).movements

theorem respects_write_elsewhere {g : Storage → Storage} (h : ∀ s, (g s).view = s.view) :
    Respects (MovementsIn f) (Tx.modify g : Dispatch Unit) :=
  respects_modify_other (fun s => .of_eq (congrArg Prod.fst (h s)))
    (fun s => .of_eq (congrArg (fun v => v.2.1) (h s)))
    fun s => .of_eq (congrArg (fun v => v.2.2) (h s))

theorem respects_effects {α : Type} {x : Dispatch α} (h : Respects (MovementsIn f) x) :
    Respects (EffectsIn f) x :=
  fun _ _ _ hs => (h hs).effects

theorem respects_modify_record {g : Storage → Storage} (hh : ∀ s, SameHoldings s (g s))
    (hk : ∀ s, Keeps f.kept s (g s)) : Respects (EffectsIn f) (Tx.modify g : Dispatch Unit) :=
  .modify fun s => (Effect.record (hh s) (hk s)).effects

theorem respects_write_record {g : Storage → Storage}
    (h : ∀ s, ((g s).holdings, (g s).aspects) = (s.holdings, s.aspects)) :
    Respects (EffectsIn f) (Tx.modify g : Dispatch Unit) :=
  respects_modify_record (fun s => .of_eq (congrArg Prod.fst (h s)))
    fun s => .of_eq (congrArg Prod.snd (h s))

end Polymesh
