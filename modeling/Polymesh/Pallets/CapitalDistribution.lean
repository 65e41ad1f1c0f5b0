import Polymesh.Pallets.Asset

/-!
# Capital distributions

Distributions of a currency to the holders of an asset
(`pallets/corporate-actions/src/distribution/mod.rs`), and the removal of a corporate action
with its distribution (`pallets/corporate-actions/src/lib.rs`). A distribution locks its
amount until it is claimed, reclaimed or removed.
-/

namespace Polymesh

open Transactional Collections
open Tx (ensure read)

namespace CapitalDistribution

/-- The parts that a unit is counted in. -/
def perSharePrecision : ℕ := 1000000

/-- The distribution is over. -/
def expired (expiry : Option Moment) (now : Moment) : Bool := ∃ e ∈ expiry, e ≤ now

variable (env : Env) (origin : RuntimeOrigin) (caId : CAId) (s : Storage) (holder : IdentityId)

/-- Store or remove a distribution. -/
def setDistribution (dist : Option Distribution) (d : DistributionStorage) : DistributionStorage :=
  { d with distributions := Function.update d.distributions caId dist }

/-- The holder has been paid. -/
def setHolderPaid (d : DistributionStorage) : DistributionStorage :=
  { d with holderPaid := update₂ d.holderPaid caId holder true }

/-! ## Checks -/

/-- There is such a distribution. -/
def ensureDistributionExists : Query Distribution :=
  okOr (s.distribution.distributions caId) (.distribution .noSuchDistribution)

/-- There is such an action. -/
def ensureCaExists : Query CorporateAction :=
  okOr (env.corporateAction s caId) (.corporateAction .noSuchCA)

/-- The record date is not after the start. -/
def ensureRecordDateBeforeStart (ca : CorporateAction) (start : Moment) : Query Unit := do
  let rd ← okOr ca.recordDate (.corporateAction .noRecordDate)
  ensure (rd.date ≤ start) (.corporateAction .recordDateAfterStart)

/-- The distribution has begun, and is not over. -/
def ensureActiveDistribution : Query Distribution := do
  let dist ← ensureDistributionExists caId s
  ensure (dist.paymentAt ≤ s.system.now) (.distribution .cannotClaimBeforeStart)
  ensure (expired dist.expiresAt s.system.now = false) (.distribution .cannotClaimAfterExpiry)
  return dist

/-- The distribution has not begun. -/
def ensureDistributionNotStarted (dist : Distribution) (s : Storage) : Query Unit :=
  ensure (s.system.now < dist.paymentAt) (.distribution .distributionStarted)

/-! ## Distributing -/

/-- Lock the amount, and store the distribution. -/
def unverifiedDistribute (originData : PermissionedCallOriginData) (caId : CAId)
    (portfolio : PortfolioKind) (currency : Ticker) (perShare amount : ℕ) (paymentAt : Moment)
    (expiresAt : Option Moment) : Dispatch Unit := do
  ensure (amount ≠ 0) (.distribution .distributionAmountIsZero)
  ensure (perShare ≠ 0) (.distribution .distributionPerShareIsZero)
  ensure (expired expiresAt paymentAt = false) (.distribution .expiryBeforePayment)
  let s ← Tx.get
  ensure (s.distribution.distributions caId = none) (.distribution .alreadyExists)
  let pid : PortfolioId := ⟨originData.primaryDid, portfolio⟩
  read (Portfolio.ensurePortfolioCustodyAndPermission pid originData.primaryDid
    originData.secondaryKey)
  read (Portfolio.ensurePortfolioValidity pid)
  let ca ← read (ensureCaExists env caId)
  ensure ca.isBenefit (.distribution .caNotBenefit)
  read fun _ => ensureRecordDateBeforeStart ca paymentAt
  read (Portfolio.ensureSufficientBalance pid currency amount)
  read (env.chargeFees [.capitalDistributionDistribute])
  Tx.modify (Storage.mapPortfolio (Portfolio.uncheckedLockTokens pid currency amount))
  Tx.modify <| Storage.mapDistribution <| setDistribution caId <| some
    { from_ := pid, currency, perShare, amount, remaining := amount, reclaimed := false,
      paymentAt, expiresAt }

/-- Distribute for an action. -/
def distribute (portfolio : PortfolioKind) (currency : Ticker) (perShare amount : ℕ)
    (paymentAt : Moment) (expiresAt : Option Moment) : Dispatch Unit := do
  let originData ← read fun _ => ExternalAgents.ensureAgentAssetPerms env origin caId.ticker
  unverifiedDistribute env originData caId portfolio currency perShare amount paymentAt expiresAt

/-- Distribute for a new action. -/
def initiateCorporateActionAndDistribute (ticker : Ticker) (portfolio : PortfolioKind)
    (currency : Ticker) (perShare amount : ℕ) (paymentAt : Moment) (expiresAt : Option Moment) :
    Dispatch Unit := do
  let originData ← read fun _ => ExternalAgents.ensureAgentAssetPerms env origin ticker
  Tx.transaction do
    let caId ← read fun s => env.initiateCorporateAction s originData.primaryDid ticker
    unverifiedDistribute env originData caId portfolio currency perShare amount paymentAt
      expiresAt

/-! ## Claiming -/

/-- Release a part of what is locked. -/
def unlock (dist : Distribution) (amount : ℕ) : Dispatch Unit :=
  Portfolio.unlockTokens dist.from_ dist.currency amount

/-- The checkpoint of the record date, if it has been made. A distribution is made only where there
is a record date. -/
def recordDateCp (ca : CorporateAction) : Option ℕ :=
  ca.recordDate.bind fun rd =>
    match rd.checkpoint with
    | .existing id => some id
    | .scheduled id idx => ((s.checkpoint.ofTicker caId.ticker).schedulePoints id)[idx]?

/-- The balance at a checkpoint, and the current one if nothing has happened since. -/
def balanceAtCp (cp : Option ℕ) : ℕ :=
  (cp.bind ((s.checkpoint.ofTicker caId.ticker).balanceAt holder)).getD
    (s.asset.balanceOf caId.ticker holder)

/-- The benefit of a balance. -/
def benefitOf (balance perShare : ℕ) : Query ℕ := do
  let product ← okOr (checkedMul 128 balance perShare)
    (.distribution .balancePerShareProductOverflowed)
  return product / perSharePrecision

/-- What the holder gets of a benefit after the tax, in whole tokens of an indivisible
currency. -/
def gainOf (ca : CorporateAction) (holder : IdentityId) (currency : Ticker)
    (benefit : ℕ) (s : Storage) : ℕ :=
  let gain := benefit - env.permill.mul (ca.taxOf holder).val benefit
  if Asset.isDivisible currency s then gain else gain / oneUnit * oneUnit

/-- Pay a holder once. -/
def transferBenefit (caId : CAId) : Dispatch Unit := do
  let s ← Tx.get
  ensure (s.distribution.holderPaid caId holder = false) (.distribution .holderAlreadyPaid)
  let dist ← read (ensureActiveDistribution caId)
  let ca ← read (ensureCaExists env caId)
  ensure (ca.targets holder) (.corporateAction .notTargetedByCA)
  let benefit ← read fun s =>
    benefitOf (balanceAtCp caId s holder (recordDateCp caId s ca)) dist.perShare
  let remaining ← read fun _ =>
    okOr (checkedSub dist.remaining benefit) (.distribution .insufficientRemainingAmount)
  Tx.transaction do
    unlock dist benefit
    Asset.baseTransfer env dist.from_ (.defaultPortfolio holder) dist.currency
      (gainOf env ca holder dist.currency benefit s)
  Tx.modify (Storage.mapDistribution (setHolderPaid caId holder))
  Tx.modify <| Storage.mapDistribution <|
    setDistribution caId (some { dist with remaining := remaining })

/-- A holder asks to be paid. -/
def claim : Dispatch Unit := do
  let did ← read fun _ => env.ensurePerms origin
  transferBenefit env did caId

/-- An agent pays a holder. -/
def pushBenefit : Dispatch Unit := do
  let _ ← read fun _ => ExternalAgents.ensurePerms env origin caId.ticker
  transferBenefit env holder caId

/-! ## Reclaiming and removing -/

/-- What is left in the end is released. -/
def reclaim : Dispatch Unit := do
  let originData ← read fun _ => ExternalAgents.ensureAgentAssetPerms env origin caId.ticker
  let dist ← read (ensureDistributionExists caId)
  ensure (dist.reclaimed = false) (.distribution .alreadyReclaimed)
  let s ← Tx.get
  ensure (expired dist.expiresAt s.system.now) (.distribution .notExpired)
  read (Portfolio.ensurePortfolioCustodyAndPermission dist.from_ originData.primaryDid
    originData.secondaryKey)
  unlock dist dist.remaining
  Tx.modify <| Storage.mapDistribution <|
    setDistribution caId (some { dist with reclaimed := true, remaining := 0 })

/-- The whole amount is unlocked: nothing has been claimed before the payment date. -/
def unverifiedRemoveDistribution (dist : Distribution) : Dispatch Unit := do
  read (ensureDistributionNotStarted dist)
  unlock dist dist.amount
  Tx.modify (Storage.mapDistribution (setDistribution caId none))

/-- Remove one that has not begun. -/
def removeDistribution : Dispatch Unit := do
  let _ ← read fun _ => ExternalAgents.ensurePerms env origin caId.ticker
  let dist ← read (ensureDistributionExists caId)
  unverifiedRemoveDistribution caId dist

/-- Remove a distribution, if there is one. -/
def removeDistributionIfAny : Option Distribution → Dispatch Unit
  | some dist => unverifiedRemoveDistribution caId dist
  | none => pure ()

/-- `remove_ca`, which takes the distribution of a benefit with it. -/
def removeCa : Dispatch Unit := do
  let _ ← read fun _ => ExternalAgents.ensurePerms env origin caId.ticker
  let ca ← read (ensureCaExists env caId)
  let s ← Tx.get
  onlyIf ca.isBenefit (removeDistributionIfAny caId (s.distribution.distributions caId))

end CapitalDistribution

end Polymesh
