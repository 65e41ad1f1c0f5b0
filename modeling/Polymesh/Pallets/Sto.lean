import Polymesh.Pallets.Settlement.Execution

/-!
# The STO pallet

Fundraisers that sell an asset for another one at tiered prices (`pallets/sto/src/lib.rs`).
A fundraiser locks what it offers; an investment is settled by an instruction that is added,
affirmed for both sides and executed within one call.
-/

namespace Polymesh

open Transactional Collections
open Tx (ensure read)

namespace Sto

/-- How many tiers there may be. -/
def maxTiers : ℕ := 10

/-- Store a fundraiser. -/
def setFundraiser (ticker : Ticker) (id : FundraiserId) (f : Fundraiser) (o : StoStorage) :
    StoStorage :=
  { o with fundraisers := update₂ o.fundraisers ticker id (some f) }

/-- There is such a fundraiser. -/
def ensureFundraiser (ticker : Ticker) (id : FundraiserId) (s : Storage) : Query Fundraiser :=
  okOr (s.sto.fundraisers ticker id) (.sto .fundraiserNotFound)

/-- What the tiers offer altogether, if that is a `u128`. -/
def offeringAmount : List PriceTier → ℕ → Option ℕ
  | [], total => some total
  | tier :: tiers, total => (checkedAdd 128 total tier.total).bind (offeringAmount tiers)

/-- A tier of which nothing is sold. -/
def PriceTier.into (tier : PriceTier) : FundraiserTier := ⟨tier.total, tier.price, tier.total⟩

/-- A venue for offerings that the identity has created. -/
def ensureStoVenue (venueId : VenueId) (did : IdentityId) (s : Storage) : Query Unit :=
  ensure (∃ v ∈ s.settlement.venueInfo venueId, v.creator = did ∧ v.venueType = .sto)
    (.sto .invalidVenue)

variable (env : Env) (origin : RuntimeOrigin) (f : Fundraiser) (offeringAsset : Ticker)
  (id : FundraiserId)

/-- Offer tokens, and lock them. -/
def createFundraiser (offeringPortfolio : PortfolioId) (offeringAsset : Ticker)
    (raisingPortfolio : PortfolioId) (raisingAsset : Ticker) (tiers : List PriceTier)
    (venueId : VenueId) (start end_ : Option Moment) (minimumInvestment : ℕ) : Dispatch Unit := do
  let originData ← read fun _ => ExternalAgents.ensureAgentAssetPerms env origin offeringAsset
  let did := originData.primaryDid
  read (ensureStoVenue venueId did)
  read (Portfolio.ensurePortfolioCustodyAndPermission raisingPortfolio did
    originData.secondaryKey)
  read (Portfolio.ensurePortfolioCustodyAndPermission offeringPortfolio did
    originData.secondaryKey)
  ensure (1 ≤ tiers.length ∧ tiers.length ≤ maxTiers ∧ ∀ tier ∈ tiers, 0 < tier.total)
    (.sto .invalidPriceTiers)
  let amount ← read fun _ => okOr (offeringAmount tiers 0) (.sto .invalidPriceTiers)
  let s ← Tx.get
  let start := start.getD s.system.now
  ensure (∀ e ∈ end_, start < e) (.sto .invalidOfferingWindow)
  let id := s.sto.fundraiserCount offeringAsset
  let next ← read fun _ => okOr (checkedInc id.id) .counterOverflow
  Portfolio.lockTokens offeringPortfolio offeringAsset amount
  Tx.modify <| Storage.mapSto fun o =>
    { o with fundraiserCount := Function.update o.fundraiserCount offeringAsset ⟨next⟩ }
  Tx.modify <| Storage.mapSto <| setFundraiser offeringAsset id
    { creator := did, offeringPortfolio, offeringAsset, raisingPortfolio, raisingAsset,
      tiers := tiers.map PriceTier.into, venueId, start, end_, status := .live,
      minimumInvestment }

/-- One million base units of the raised asset buy a token at price one. -/
def priceDivisor : ℕ := 1000000

/-- Buy from the tiers in order: the tiers after the purchase, what could not be bought, and
the cost. -/
def purchaseTiers : List FundraiserTier → ℕ → ℕ →
    Query (List FundraiserTier × ℕ × ℕ)
  | [], remaining, cost => .ok ([], remaining, cost)
  | tier :: tiers, remaining, cost =>
    if remaining = 0 ∨ tier.remaining = 0 then do
      let (tiers, remaining, cost) ← purchaseTiers tiers remaining cost
      return (tier :: tiers, remaining, cost)
    else do
      let amount := if remaining ≤ tier.remaining then remaining else tier.remaining
      let product ← okOr (checkedMul 128 amount tier.price) (.sto .overflow)
      let cost ← okOr (checkedAdd 128 cost (product / priceDivisor)) (.sto .overflow)
      let (tiers, remaining, cost) ← purchaseTiers tiers (remaining - amount) cost
      return ({ tier with remaining := tier.remaining - amount } :: tiers, remaining, cost)

/-- The two legs of an investment. -/
def investmentLegs (investmentPortfolio fundingPortfolio : PortfolioId) (purchaseAmount cost : ℕ) :
    List Leg :=
  [.fungible f.offeringPortfolio investmentPortfolio f.offeringAsset purchaseAmount,
    .fungible fundingPortfolio f.raisingPortfolio f.raisingAsset cost]

/-- Settle an investment: release the offered tokens, add the instruction, affirm it for the
fundraiser and for the investor, and execute it. -/
def settleInvestment (investmentPortfolio fundingPortfolio : PortfolioId)
    (purchaseAmount cost : ℕ) (receipt : Option ReceiptDetails) : Dispatch Unit :=
  Tx.transaction do
    Portfolio.unlockTokens f.offeringPortfolio f.offeringAsset purchaseAmount
    let instructionId ← Settlement.baseAddInstruction env f.creator f.venueId
      .settleOnAffirmation none none
      (investmentLegs f investmentPortfolio fundingPortfolio purchaseAmount cost) []
    Settlement.unsafeAffirmInstruction env f.creator instructionId
      (orderedSet [f.offeringPortfolio, f.raisingPortfolio]) none none
    Settlement.affirmAndExecuteInstruction env origin instructionId receipt
      [investmentPortfolio, fundingPortfolio]

/-- Buy at the prices of the tiers. -/
def invest (investmentPortfolio fundingPortfolio : PortfolioId) (offeringAsset : Ticker)
    (id : FundraiserId) (purchaseAmount : ℕ) (maxPrice : Option ℕ)
    (receipt : Option ReceiptDetails) : Dispatch Unit := do
  let originData ← read fun _ => env.ensureOriginCallPermissions origin
  let did := originData.primaryDid
  read (Portfolio.ensurePortfolioCustodyAndPermission investmentPortfolio did
    originData.secondaryKey)
  read (Portfolio.ensurePortfolioCustodyAndPermission fundingPortfolio did
    originData.secondaryKey)
  let f ← read (ensureFundraiser offeringAsset id)
  ensure (f.status = .live) (.sto .fundraiserNotLive)
  let s ← Tx.get
  ensure (f.start ≤ s.system.now ∧ ∀ e ∈ f.end_, s.system.now < e) (.sto .fundraiserExpired)
  let (tiers, remaining, cost) ← read fun _ => purchaseTiers f.tiers purchaseAmount 0
  ensure (remaining = 0) (.sto .insufficientTokensRemaining)
  ensure (f.minimumInvestment ≤ cost) (.sto .investmentAmountTooLow)
  ensure (∀ price ∈ maxPrice, cost ≤ satMul price purchaseAmount / priceDivisor)
    (.sto .maxPriceExceeded)
  settleInvestment env origin f investmentPortfolio fundingPortfolio purchaseAmount cost receipt
  Tx.modify (Storage.mapSto (setFundraiser offeringAsset id { f with tiers := tiers }))

/-- Freeze or unfreeze a fundraiser that is not closed. -/
def setFrozen (frozen : Bool) : Dispatch Unit := do
  let _ ← read fun _ => ExternalAgents.ensurePerms env origin offeringAsset
  let f ← read (ensureFundraiser offeringAsset id)
  ensure (f.isClosed = false) (.sto .fundraiserClosed)
  Tx.modify <| Storage.mapSto <| setFundraiser offeringAsset id
    { f with status := if frozen then .frozen else .live }

/-- Change when the fundraiser is open. -/
def modifyFundraiserWindow (start : Moment) (end_ : Option Moment) : Dispatch Unit := do
  let _ ← read fun _ => ExternalAgents.ensurePerms env origin offeringAsset
  let f ← read (ensureFundraiser offeringAsset id)
  ensure (f.isClosed = false) (.sto .fundraiserClosed)
  let s ← Tx.get
  ensure (∀ e ∈ f.end_, s.system.now < e) (.sto .fundraiserExpired)
  ensure (∀ e ∈ end_, start < e) (.sto .invalidOfferingWindow)
  Tx.modify <| Storage.mapSto <| setFundraiser offeringAsset id
    { f with start := start, end_ := end_ }

/-- What is left in the tiers, added up without a check. -/
def remainingAmount (tiers : List FundraiserTier) : ℕ :=
  tiers.foldl (fun total tier => wrapAdd 128 total tier.remaining) 0

/-- The status of a fundraiser that is stopped at `now`. -/
def closedStatus (now : Moment) : FundraiserStatus :=
  if ∃ e ∈ f.end_, now < e then .closedEarly else .closed

/-- Close the fundraiser, and release the rest. -/
def stop : Dispatch Unit := do
  let f ← read (ensureFundraiser offeringAsset id)
  let originData ← read fun _ => ExternalAgents.ensureAssetPerms env origin offeringAsset
  onlyIf (f.creator ≠ originData.primaryDid) <| read fun _ =>
    ExternalAgents.ensureAgentPermissioned env offeringAsset originData.primaryDid
  ensure (f.isClosed = false) (.sto .fundraiserClosed)
  Portfolio.unlockTokens f.offeringPortfolio f.offeringAsset (remainingAmount f.tiers)
  Tx.modify fun s => s.mapSto <| setFundraiser offeringAsset id
    { f with status := closedStatus f s.system.now }

end Sto

end Polymesh
