import Polymesh.Pallets.ExternalAgents

/-!
# Transfer statistics

The number of investors of an asset and their balances, in all or by a claim
(`pallets/statistics/src/lib.rs`). They are updated with every change of a balance, from the two
balances after the change: an investor has come if the new balance is the amount, and has gone if
it is zero.
-/

namespace Polymesh

open Transactional Collections

namespace Statistics

/-- The numbers kept for one kind of statistics. -/
abbrev Stats := Stat2ndKey → ℕ

variable (env : Env) (ticker : Ticker)

/-- What an identity is counted under. -/
def fetchClaimAsKey (statType : StatType) (did : Option IdentityId) : Stat2ndKey :=
  match statType.claimIssuer with
  | some (claimType, issuer) =>
    .newFrom claimType (did.bind fun did => env.fetchClaim did claimType issuer (.ticker ticker))
  | none => .noClaimStat

/-- `saturating_sub` on one number. -/
def subAt (key : Stat2ndKey) (amount : ℕ) (stats : Stats) : Stats :=
  Function.update stats key (stats key - amount)

/-- `saturating_add` on one number. -/
def addAt (key : Stat2ndKey) (amount : ℕ) (stats : Stats) : Stats :=
  Function.update stats key (satAdd (stats key) amount)

/-- Move an amount between numbers. -/
def updateAssetBalanceStats (fromKey toKey : Stat2ndKey) (fromBalance toBalance : Option ℕ)
    (amount : ℕ) (stats : Stats) : Stats :=
  if fromKey = toKey ∧ fromBalance.isSome ∧ toBalance.isSome then stats
  else
    let stats := if fromBalance.isSome then subAt fromKey amount stats else stats
    if toBalance.isSome then addAt toKey amount stats else stats

/-- Count who enters and who leaves. -/
def updateAssetCountStats (fromKey toKey : Stat2ndKey) (changes : Bool × Bool)
    (stats : Stats) : Stats :=
  match changes with
  | (true, true) => if fromKey = toKey then stats else addAt toKey 1 (subAt fromKey 1 stats)
  | (false, false) => stats
  | (true, false) => subAt fromKey 1 stats
  | (false, true) => addAt toKey 1 stats

/-- Whether the sender has sent all and the receiver had nothing; nothing if neither. -/
def investorCountChanges (fromBalance toBalance : Option ℕ) (amount : ℕ) :
    Option (Bool × Bool) :=
  match decide (fromBalance = some 0), decide (toBalance = some amount) with
  | false, false => none
  | fromChange, toChange => some (fromChange, toChange)

/-- A change of balances: who sends and who receives, with the balances after it. There is no
sender in an issuance and no receiver in a redemption. -/
structure Change where
  fromDid : Option IdentityId
  toDid : Option IdentityId
  fromBalance : Option ℕ
  toBalance : Option ℕ
  amount : ℕ

/-- Update the numbers of one kind of statistics. -/
def updateStats (ch : Change) (statType : StatType) (stats : Stats) : Stats :=
  let fromKey := fetchClaimAsKey env ticker statType ch.fromDid
  let toKey := fetchClaimAsKey env ticker statType ch.toDid
  match statType.op with
  | .count =>
    match investorCountChanges ch.fromBalance ch.toBalance ch.amount with
    | some changes => updateAssetCountStats fromKey toKey changes stats
    | none => stats
  | .balance =>
    updateAssetBalanceStats fromKey toKey ch.fromBalance ch.toBalance ch.amount stats

/-- The loop of `update_asset_stats` over the active kinds. -/
def updateActiveStats (ch : Change) (c : TickerStatistics) : TickerStatistics :=
  let update (stats : StatType → Stats) (statType : StatType) : StatType → Stats :=
    Function.update stats statType (updateStats env ticker ch statType (stats statType))
  { c with assetStats := c.activeAssetStats.elems.foldl update c.assetStats }

/-- `update_asset_stats`. The weight is checked at once for all kinds: who runs out of it takes
everything back. -/
def updateAssetStats (ch : Change) : Dispatch Unit := do
  onlyIf (ch.amount ≠ 0) do
    Tx.read fun s =>
      ensure (env.withinStatisticsWeight s ticker) (.statistics .weightLimitExceeded)
    Tx.modify fun s =>
      s.setStatistics ticker (updateActiveStats env ticker ch (s.statistics.ofTicker ticker))

/-! ## Transfer restrictions -/

/-- The identity has the claim. -/
def hasMatchingClaim (did : IdentityId) (statType : StatType) (key2 : Stat2ndKey) : Bool :=
  fetchClaimAsKey env ticker statType (some did) = key2

/-- Not too many investors. -/
def verifyAssetCountRestriction (stats : Stats) (changes : Option (Bool × Bool)) (maxCount : ℕ) :
    Bool :=
  match changes with
  | some (true, true) | some (false, false) | none | some (true, false) => true
  | some (false, true) => stats .noClaimStat < maxCount

/-- Not too many with a claim, nor too few. -/
def verifyClaimCountRestriction (statType : StatType) (stats : Stats) (key2 : Stat2ndKey)
    (fromDid toDid : IdentityId) (changes : Option (Bool × Bool)) (min : ℕ) (max : Option ℕ) :
    Bool :=
  match changes with
  | none => true
  | some (fromChange, toChange) =>
    let fromMatches := hasMatchingClaim env ticker fromDid statType key2
    let toMatches := hasMatchingClaim env ticker toDid statType key2
    if (fromChange ∧ toChange) ∧ fromMatches = toMatches then true
    else if ¬ fromChange ∧ ¬ toChange then true
    else if (0 < min ∧ fromChange ∧ fromMatches) ∧ stats key2 ≤ min then false
    else if toChange ∧ toMatches ∧ ∃ m ∈ max, m ≤ stats key2 then false
    else true

/-- `verify_ownership_restriction`. The balance grows by an unchecked addition. -/
def verifyOwnershipRestriction (value receiverBalance totalSupply : ℕ) (max : Percentage) : Bool :=
  env.permill.fromRational (wrapAdd 128 receiverBalance value) totalSupply ≤ max

/-- Those with a claim own neither too much nor too little. -/
def verifyClaimOwnershipRestriction (statType : StatType) (stats : Stats) (key2 : Stat2ndKey)
    (fromDid toDid : IdentityId) (value totalSupply : ℕ) (min max : Percentage) : Bool :=
  match hasMatchingClaim env ticker fromDid statType key2,
    hasMatchingClaim env ticker toDid statType key2 with
  | true, true | false, false => true
  | false, true => env.permill.fromRational (satAdd (stats key2) value) totalSupply ≤ max
  | true, false => min ≤ env.permill.fromRational (stats key2 - value) totalSupply

variable (exempt : TransferConditionExemptKey → IdentityId → Bool)

/-- The sender or the receiver is exempt, by the kind of condition. -/
def isExempt (condition : TransferCondition) (senderDid receiverDid : IdentityId) : Bool :=
  let key := condition.getExemptKey ticker
  match key.op with
  | .count => exempt key senderDid
  | .balance => exempt key receiverDid

/-- `check_transfer_condition`, by the statistics of the ticker. -/
def checkTransferCondition (assetStats : StatType → Stats) (condition : TransferCondition)
    (fromDid toDid : IdentityId) (toBalance amount totalSupply : ℕ)
    (countChanges : Option (Bool × Bool)) : Bool :=
  let statType := condition.getStatType
  let passed := match condition with
    | .maxInvestorCount maxCount =>
      verifyAssetCountRestriction (assetStats statType) countChanges maxCount
    | .maxInvestorOwnership max => 
      verifyOwnershipRestriction env amount toBalance totalSupply max
    | .claimCount claim _ min max =>
      verifyClaimCountRestriction env ticker statType (assetStats statType) (.claim claim)
        fromDid toDid countChanges min max
    | .claimOwnership claim _ min max =>
      verifyClaimOwnershipRestriction env ticker statType (assetStats statType) (.claim claim)
        fromDid toDid amount totalSupply min max
  passed || isExempt ticker exempt condition fromDid toDid

/-- All conditions hold. -/
def verifyRequirements (c : TickerStatistics) (senderDid receiverDid : IdentityId)
    (senderBalance receiverBalance amount totalSupply : ℕ) : Query Unit :=
  let changes := investorCountChanges (some (senderBalance - amount))
    (some (satAdd receiverBalance amount)) amount
  forM c.assetTransferCompliance.elems fun condition =>
    ensure (checkTransferCondition env ticker exempt c.assetStats condition senderDid receiverDid
      receiverBalance amount totalSupply changes) (.statistics .invalidTransfer)

/-- All conditions hold, or are paused. -/
def verifyTransferRestrictions (paused : Bool) (c : TickerStatistics)
    (senderDid receiverDid : IdentityId) (senderBalance receiverBalance amount totalSupply : ℕ) :
    Query Unit :=
  if paused then .ok ()
  else verifyRequirements env ticker exempt c senderDid receiverDid senderBalance receiverBalance
    amount totalSupply

/-! ## Calls -/

/-- Choose what is counted. -/
def setActiveAssetStats (origin : RuntimeOrigin) (ticker : Ticker) (statTypes : StatTypes) :
    Dispatch Unit := do
  let _ ← Tx.read fun _ => ExternalAgents.ensurePerms env origin ticker
  Tx.ensure (statTypes.elems.length ≤ env.maxStatsPerAsset) (.statistics .statTypeLimitReached)
  let s ← Tx.get
  let c := s.statistics.ofTicker ticker
  let requiredTypes := c.assetTransferCompliance.elems.map TransferCondition.getStatType
  let removeTypes := c.activeAssetStats.elems.filter (· ∉ statTypes.elems)
  Tx.ensure (∀ statType ∈ removeTypes, statType ∉ requiredTypes)
    (.statistics .cannotRemoveStatTypeInUse)
  Tx.modify <| Storage.setStatistics ticker
    { c with
      assetStats := insertAll removeTypes (fun _ => 0) c.assetStats
      activeAssetStats := statTypes }

/-- Set one number; a number that is removed reads as zero. -/
def setStat (stats : Stats) (update : StatUpdate) : Stats :=
  Function.update stats update.key2 (update.value.getD 0)

/-- Set numbers by hand. -/
def batchUpdateAssetStats (origin : RuntimeOrigin) (ticker : Ticker) (statType : StatType)
    (values : List StatUpdate) : Dispatch Unit := do
  let _ ← Tx.read fun _ => ExternalAgents.ensurePerms env origin ticker
  let s ← Tx.get
  let c := s.statistics.ofTicker ticker
  Tx.ensure (statType ∈ c.activeAssetStats.elems) (.statistics .statTypeMissing)
  Tx.modify <| Storage.setStatistics ticker
    { c with
      assetStats :=
        Function.update c.assetStats statType (values.foldl setStat (c.assetStats statType)) }

/-- Choose the conditions. -/
def setAssetTransferCompliance (origin : RuntimeOrigin) (ticker : Ticker)
    (conditions : TransferConditions) : Dispatch Unit := do
  let _ ← Tx.read fun _ => ExternalAgents.ensurePerms env origin ticker
  Tx.ensure (conditions.elems.length ≤ env.maxTransferConditionsPerAsset)
    (.statistics .transferConditionLimitReached)
  let s ← Tx.get
  let c := s.statistics.ofTicker ticker
  Tx.ensure (∀ condition ∈ conditions.elems,
      condition.getStatType ∈ c.activeAssetStats.elems) (.statistics .statTypeMissing)
  Tx.modify (Storage.setStatistics ticker { c with assetTransferCompliance := conditions })

end Statistics

end Polymesh
