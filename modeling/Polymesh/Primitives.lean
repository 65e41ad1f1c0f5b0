import Mathlib.Tactic.DeriveFintype
import Mathlib.Data.Fintype.Prod
import Mathlib.Data.Fintype.Sigma
import Mathlib.Data.Fintype.Sum
import Polymesh.Library.Collections

/-!
# Primitive types

The identifiers and records shared by the pallets (`primitives/src`). Identifiers are the
fixed-width values of the source, so that a storage map is a total function on a finite
type and a sum over all identities or portfolios is a finite sum. Balances, moments and
block numbers are natural numbers; the arithmetic that saturates or wraps says so where it
is used.
-/

namespace Polymesh

open Collections

/-! ## Numbers -/

/-- Milliseconds of the timestamp pallet. -/
abbrev Moment := ℕ

abbrev BlockNumber := ℕ

/-- The largest `u128`. -/
def balanceMax : ℕ := 2 ^ 128 - 1

/-- `u128::saturating_add`. -/
def satAdd (a b : ℕ) : ℕ := min (a + b) balanceMax

/-- `saturating_add` of `w`-bit numbers. -/
def saturatingAdd (w a b : ℕ) : ℕ := min (a + b) (2 ^ w - 1)

/-- `checked_add` of `w`-bit numbers. -/
def checkedAdd (w a b : ℕ) : Option ℕ := if a + b < 2 ^ w then some (a + b) else none

/-- `u128::saturating_mul`. -/
def satMul (a b : ℕ) : ℕ := min (a * b) balanceMax

/-- `checked_mul` of `w`-bit numbers. -/
def checkedMul (w a b : ℕ) : Option ℕ := if a * b < 2 ^ w then some (a * b) else none

/-- `checked_sub`. -/
def checkedSub (a b : ℕ) : Option ℕ := if b ≤ a then some (a - b) else none

/-- Unchecked addition of `w`-bit numbers. -/
def wrapAdd (w a b : ℕ) : ℕ := (a + b) % 2 ^ w

/-- Unchecked subtraction of `w`-bit numbers. -/
def wrapSub (w a b : ℕ) : ℕ := (a + 2 ^ w - b) % 2 ^ w

/-- The successor of a fixed-width counter, unless it overflows. -/
def checkedInc {n : ℕ} (i : Fin n) : Option (Fin n) :=
  if h : i.val + 1 < n then some ⟨i.val + 1, h⟩ else none

variable {a b w c : ℕ}

theorem satAdd_eq (h : a + b ≤ balanceMax) : satAdd a b = a + b :=
  min_eq_left h

@[simp] theorem checkedAdd_eq_some :
    checkedAdd w a b = some c ↔ a + b < 2 ^ w ∧ a + b = c := by
  simp [checkedAdd]

@[simp] theorem checkedMul_eq_some :
    checkedMul w a b = some c ↔ a * b < 2 ^ w ∧ a * b = c := by
  simp [checkedMul]

@[simp] theorem checkedSub_eq_some :
    checkedSub a b = some c ↔ b ≤ a ∧ a - b = c := by
  simp [checkedSub]

theorem wrapAdd_eq (h : a + b < 2 ^ w) : wrapAdd w a b = a + b :=
  Nat.mod_eq_of_lt h

theorem wrapSub_eq (ha : a < 2 ^ w) (hb : b ≤ a) : wrapSub w a b = a - b := by
  have hsub : a + 2 ^ w - b = a - b + 2 ^ w := by omega
  rw [wrapSub, hsub, Nat.add_mod_right, Nat.mod_eq_of_lt (by omega)]

theorem checkedInc_val {n : ℕ} {i j : Fin n} (h : checkedInc i = some j) :
    j.val = i.val + 1 := by
  unfold checkedInc at h
  split at h
  · cases h
    rfl
  · cases h

/-! ## Identifiers -/

-- Named instances for the widths in use: a numeral of a fixed-width type then carries a constant
-- and not a proof of its own.

instance neZero_width_32 : NeZero (2 ^ 32) := ⟨(Nat.two_pow_pos 32).ne'⟩

instance neZero_width_64 : NeZero (2 ^ 64) := ⟨(Nat.two_pow_pos 64).ne'⟩

instance neZero_width_96 : NeZero (2 ^ 96) := ⟨(Nat.two_pow_pos 96).ne'⟩

instance neZero_width_256 : NeZero (2 ^ 256) := ⟨(Nat.two_pow_pos 256).ne'⟩

instance neZero_parts : NeZero 1000001 := ⟨Nat.succ_ne_zero 1000000⟩

structure IdentityId where
  bytes : Fin (2 ^ 256)
deriving DecidableEq, Fintype

structure AccountId where
  bytes : Fin (2 ^ 256)
deriving DecidableEq

/-- Twelve bytes, numbered so that the strings of allowed characters come first. -/
structure Ticker where
  bytes : Fin (2 ^ 96)
deriving DecidableEq, Fintype

/-- How many strings there are of one to twelve of the forty characters that tickers may have. -/
def validTickers : ℕ := (40 ^ 13 - 40) / 39

/-- The characters of the ticker are allowed. -/
def Ticker.Valid (t : Ticker) : Prop := t.bytes.val < validTickers

instance (t : Ticker) : Decidable t.Valid := inferInstanceAs (Decidable (_ < _))

theorem card_le_validTickers {p : Ticker → Prop} [DecidablePred p] (h : ∀ t, p t → t.Valid) :
    (Finset.univ.filter p).card ≤ validTickers := by
  rw [← Finset.card_range validTickers]
  refine Finset.card_le_card_of_injOn (fun t => t.bytes.val) (fun t ht => ?_) fun t _ t' _ heq => ?_
  · exact Finset.mem_coe.mpr (Finset.mem_range.mpr (h t (Finset.mem_filter.mp ht).2))
  · cases t
    cases t'
    simpa [Fin.ext_iff] using heq

structure PortfolioNumber where
  num : Fin (2 ^ 64)
deriving DecidableEq, Fintype

inductive PortfolioKind
  | default
  | user (num : PortfolioNumber)
deriving DecidableEq, Fintype

@[ext] structure PortfolioId where
  did : IdentityId
  kind : PortfolioKind
deriving DecidableEq, Fintype

/-- The default portfolio of an identity. -/
def PortfolioId.defaultPortfolio (did : IdentityId) : PortfolioId := ⟨did, .default⟩

/-- The numbered portfolio of an identity. -/
def PortfolioId.userPortfolio (did : IdentityId) (num : PortfolioNumber) : PortfolioId :=
  ⟨did, .user num⟩

instance : OrderedKey IdentityId := ⟨fun did => did.bytes.val⟩

instance : OrderedKey PortfolioId where
  key p := p.did.bytes.val * (2 ^ 64 + 1) +
    match p.kind with
    | .default => 0
    | .user num => num.num.val + 1

abbrev PortfolioName := String

structure NFTId where
  id : Fin (2 ^ 64)
deriving DecidableEq, Fintype

structure NFTCollectionId where
  id : Fin (2 ^ 64)
deriving DecidableEq, Fintype

/-- A list of tokens of one collection. The list may hold an id twice. -/
structure NFTs where
  ticker : Ticker
  ids : List NFTId
deriving DecidableEq

/-- The tokens of the list, each with its ticker. -/
def NFTs.tokens (nfts : NFTs) : List (Ticker × NFTId) :=
  nfts.ids.map fun id => (nfts.ticker, id)

inductive AssetMetadataKey
  | global (key : Fin (2 ^ 64))
  | local (key : Fin (2 ^ 64))
deriving DecidableEq

structure VenueId where
  id : Fin (2 ^ 64)
deriving DecidableEq

structure InstructionId where
  id : Fin (2 ^ 64)
deriving DecidableEq, Fintype

/-- The position of a leg in its instruction. -/
abbrev LegId := ℕ

structure FundraiserId where
  id : Fin (2 ^ 64)
deriving DecidableEq, Fintype

structure LocalCAId where
  id : Fin (2 ^ 32)
deriving DecidableEq, Fintype

structure CAId where
  ticker : Ticker
  localId : LocalCAId
deriving DecidableEq, Fintype

/-! ## Settlement -/

inductive InstructionStatus
  | unknown
  | pending
  | failed
  | success (at_ : BlockNumber)
  | rejected (at_ : BlockNumber)
deriving DecidableEq

inductive LegStatus
  | pendingTokenLock
  | executionPending
  | executionToBeSkipped (signer : AccountId) (uid : ℕ)
deriving DecidableEq

inductive AffirmationStatus
  | unknown
  | pending
  | affirmed
deriving DecidableEq

inductive MediatorAffirmationStatus
  | unknown
  | pending
  | affirmed (expiry : Option Moment)
deriving DecidableEq

inductive SettlementType
  | settleOnAffirmation
  | settleOnBlock (block : BlockNumber)
  | settleManual (block : BlockNumber)
deriving DecidableEq

inductive VenueType
  | other
  | distribution
  | sto
  | exchange
deriving DecidableEq

structure Venue where
  creator : IdentityId
  venueType : VenueType
deriving DecidableEq

/-- The stored details of an instruction. -/
structure Instruction where
  instructionId : InstructionId
  venueId : VenueId
  settlementType : SettlementType
  createdAt : Option Moment
  tradeDate : Option Moment
  valueDate : Option Moment
deriving DecidableEq

/-- What a read of a removed instruction returns. -/
instance : Inhabited Instruction := ⟨⟨⟨0⟩, ⟨0⟩, .settleOnAffirmation, none, none, none⟩⟩

inductive Leg
  | fungible (sender receiver : PortfolioId) (ticker : Ticker) (amount : ℕ)
  | nonFungible (sender receiver : PortfolioId) (nfts : NFTs)
  | offChain (senderIdentity receiverIdentity : IdentityId) (ticker : Ticker)
      (amount : ℕ)
deriving DecidableEq

namespace Leg

def isOffChain : Leg → Bool
  | .offChain .. => true
  | _ => false

def ticker : Leg → Ticker
  | .fungible _ _ ticker _ => ticker
  | .nonFungible _ _ nfts => nfts.ticker
  | .offChain _ _ ticker _ => ticker

/-- The portfolio that an on-chain leg takes from. -/
def sender? : Leg → Option PortfolioId
  | .fungible sender _ _ _ => some sender
  | .nonFungible sender _ _ => some sender
  | .offChain .. => none

/-- The portfolio that an on-chain leg delivers to. -/
def receiver? : Leg → Option PortfolioId
  | .fungible _ receiver _ _ => some receiver
  | .nonFungible _ receiver _ => some receiver
  | .offChain .. => none

end Leg

/-- A claim that an off-chain leg has been settled, signed by a venue signer. -/
structure ReceiptDetails where
  uid : ℕ
  instructionId : InstructionId
  legId : LegId
  signer : AccountId
  signature : ℕ
deriving DecidableEq

/-- What the signer of a receipt has signed. -/
structure Receipt where
  uid : ℕ
  instructionId : InstructionId
  legId : LegId
  senderIdentity : IdentityId
  receiverIdentity : IdentityId
  ticker : Ticker
  amount : ℕ
deriving DecidableEq

structure AssetCount where
  fungible : ℕ := 0
  nonFungible : ℕ := 0
  offChain : ℕ := 0
deriving DecidableEq

namespace AssetCount

def addFungible (c : AssetCount) : AssetCount := { c with fungible := c.fungible + 1 }

def addNonFungible (c : AssetCount) (nfts : NFTs) : AssetCount :=
  { c with nonFungible := c.nonFungible + nfts.ids.length }

def addOffChain (c : AssetCount) : AssetCount := { c with offChain := c.offChain + 1 }

def addLeg (c : AssetCount) : Leg → AssetCount
  | .fungible .. => c.addFungible
  | .nonFungible _ _ nfts => c.addNonFungible nfts
  | .offChain .. => c.addOffChain

/-- Add one leg, refusing more than 1024 assets of its kind. -/
def tryAddLeg (c : AssetCount) (leg : Leg) : Option AssetCount :=
  match leg with
  | .fungible .. => if c.fungible + 1 > 1024 then none else some c.addFungible
  | .nonFungible _ _ nfts =>
    if nfts.ids.length + c.nonFungible > 1024 then none else some (c.addNonFungible nfts)
  | .offChain .. => if c.offChain + 1 > 1024 then none else some c.addOffChain

def fromLegs (legs : List (LegId × Leg)) : AssetCount :=
  legs.foldl (fun c l => c.addLeg l.2) {}

end AssetCount

/-- What `ensure_valid_legs` learns about the legs of a new instruction. The sets are
duplicate-free lists. -/
structure InstructionInfo where
  instructionAssetCount : AssetCount
  portfoliosPendingApproval : List PortfolioId
  portfoliosPreApproved : List PortfolioId
  mediators : List IdentityId

namespace InstructionInfo

def portfoliosPreApprovedDifference (info : InstructionInfo) : List PortfolioId :=
  info.portfoliosPreApproved.filter (· ∉ info.portfoliosPendingApproval)

def numberOfPendingAffirmations (info : InstructionInfo) : ℕ :=
  info.portfoliosPendingApproval.length + info.instructionAssetCount.offChain +
    info.mediators.length

def extendMediators (info : InstructionInfo) (newMediators : List IdentityId) :
    InstructionInfo :=
  { info with mediators := orderedSet (info.mediators ++ newMediators) }

end InstructionInfo

/-- The legs of an instruction as seen by a set of portfolios. -/
structure FilteredLegs where
  senderSubset : List (LegId × Leg)
  senderAssetCount : AssetCount
  receiverAssetCount : AssetCount
  unfilteredAssetCount : AssetCount

namespace FilteredLegs

/-- Whether the leg takes from one of the portfolios. -/
def isSender (portfolioSet : List PortfolioId) (leg : Leg) : Bool :=
  leg.sender?.any (· ∈ portfolioSet)

/-- Whether the leg only delivers to one of the portfolios. -/
def isReceiverOnly (portfolioSet : List PortfolioId) (leg : Leg) : Bool :=
  !isSender portfolioSet leg && leg.receiver?.any (· ∈ portfolioSet)

def filterSender (originalSet : List (LegId × Leg)) (portfolioSet : List PortfolioId) :
    FilteredLegs where
  senderSubset := originalSet.filter fun l => isSender portfolioSet l.2
  senderAssetCount :=
    .fromLegs (originalSet.filter fun l => isSender portfolioSet l.2)
  receiverAssetCount :=
    .fromLegs (originalSet.filter fun l => isReceiverOnly portfolioSet l.2)
  unfilteredAssetCount := .fromLegs originalSet

end FilteredLegs

structure AffirmationCount where
  senderAssetCount : AssetCount
  receiverAssetCount : AssetCount
  offchainCount : ℕ
deriving DecidableEq

/-! ## Assets -/

inductive AssetType
  | equityCommon
  | equityPreferred
  | commodity
  | fixedIncome
  | reit
  | fund
  | revenueShareAgreement
  | structuredProduct
  | derivative
  | custom (id : ℕ)
  | stableCoin
  | nonFungible
deriving DecidableEq

def AssetType.isNonFungible : AssetType → Bool
  | .nonFungible => true
  | _ => false

def AssetType.isFungible (t : AssetType) : Bool := !t.isNonFungible

structure SecurityToken where
  totalSupply : ℕ
  ownerDid : IdentityId
  divisible : Bool
  assetType : AssetType
deriving DecidableEq

/-- Who has registered a ticker, and until when. -/
structure TickerRegistration where
  owner : IdentityId
  expiry : Option Moment
deriving DecidableEq

inductive AssetOwnershipRelation
  | notOwned
  | tickerOwned
  | assetOwned
deriving DecidableEq

/-- One million base units make a whole token. -/
def oneUnit : ℕ := 1000000

/-- No asset may have more than a trillion tokens. -/
def maxSupply : ℕ := oneUnit * 1000000000000

/-- What a holder moves between two portfolios. -/
inductive FundDescription
  | fungible (ticker : Ticker) (amount : ℕ)
  | nonFungible (nfts : NFTs)
deriving DecidableEq

/-! ## Permissions -/

/-- A subset of an open universe. -/
inductive SubsetRestriction (A : Type)
  | whole
  | these (elems : List A)
  | except (elems : List A)

/-- Whether the subset has the element. -/
def SubsetRestriction.permits {A : Type} [DecidableEq A] : SubsetRestriction A → A → Bool
  | .whole, _ => true
  | .these elems, a => a ∈ elems
  | .except elems, a => a ∉ elems

abbrev PalletName := String

abbrev DispatchableName := String

structure PalletPermissions where
  palletName : PalletName
  dispatchableNames : SubsetRestriction DispatchableName

def PalletPermissions.entirePallet (name : PalletName) : PalletPermissions := ⟨name, .whole⟩

abbrev ExtrinsicPermissions := SubsetRestriction PalletPermissions

/-- Whether the permissions admit the call of `pallet::dispatchable`. -/
def ExtrinsicPermissions.sufficientFor (perms : ExtrinsicPermissions) (pallet : PalletName)
    (dispatchable : DispatchableName) : Bool :=
  let matchesAny (elems : List PalletPermissions) : Bool :=
    elems.any fun perm =>
      perm.palletName == pallet && perm.dispatchableNames.permits dispatchable
  match perms with
  | .whole => true
  | .these elems => matchesAny elems
  | .except elems => !matchesAny elems

/-- The restrictions of a key that is not the primary key of its identity. -/
structure SecondaryKey where
  asset : SubsetRestriction Ticker
  portfolio : SubsetRestriction PortfolioId

def SecondaryKey.hasAssetPermission (sk : SecondaryKey) (ticker : Ticker) : Bool :=
  sk.asset.permits ticker

def SecondaryKey.hasPortfolioPermission (sk : SecondaryKey) (portfolio : PortfolioId) : Bool :=
  sk.portfolio.permits portfolio

/-- The identity behind a signed call, and its key unless that is the primary key. -/
structure PermissionedCallOriginData where
  primaryDid : IdentityId
  secondaryKey : Option SecondaryKey

structure AGId where
  id : Fin (2 ^ 32)
deriving DecidableEq

inductive AgentGroup
  | full
  | custom (id : AGId)
  | exceptMeta
  | polymeshV1CAA
  | polymeshV1PIA
deriving DecidableEq

end Polymesh
