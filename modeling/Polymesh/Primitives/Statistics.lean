import Polymesh.Library.OrderedLists
import Polymesh.Primitives

/-!
# Claims and statistics

The claims about an identity (`primitives/src/identity_claim.rs`), the kinds of statistics of an
asset and their keys (`primitives/src/statistics.rs`), and the transfer conditions that read them
(`primitives/src/transfer_compliance.rs`). A set is a list without repetition.
-/

namespace Polymesh

open OrderedLists

/-! ## Claims -/

inductive Scope
  | identity (did : IdentityId)
  | ticker (ticker : Ticker)
  | custom (bytes : List (Fin 256))
deriving DecidableEq

/-- A country, by its place in the list of the source. -/
structure CountryCode where
  index : Fin 256
deriving DecidableEq

structure CustomClaimTypeId where
  id : Fin (2 ^ 32)
deriving DecidableEq

inductive Claim
  | accredited (scope : Scope)
  | affiliate (scope : Scope)
  | buyLockup (scope : Scope)
  | sellLockup (scope : Scope)
  | customerDueDiligence (cddId : ℕ)
  | knowYourCustomer (scope : Scope)
  | jurisdiction (country : CountryCode) (scope : Scope)
  | exempted (scope : Scope)
  | blocked (scope : Scope)
  | custom (id : CustomClaimTypeId) (scope : Option Scope)
deriving DecidableEq

inductive ClaimType
  | accredited
  | affiliate
  | buyLockup
  | sellLockup
  | customerDueDiligence
  | knowYourCustomer
  | jurisdiction
  | exempted
  | blocked
  | custom (id : CustomClaimTypeId)
deriving DecidableEq

/-! ## Statistics -/

inductive StatOpType
  /-- The number of investors. -/
  | count
  /-- The balance of all investors together. -/
  | balance
deriving DecidableEq

/-- What is counted; `claimIssuer` splits the investors by a claim of that issuer. -/
structure StatType where
  op : StatOpType
  claimIssuer : Option (ClaimType × IdentityId)
deriving DecidableEq

inductive StatClaim
  | accredited (has : Bool)
  | affiliate (has : Bool)
  | jurisdiction (country : Option CountryCode)
deriving DecidableEq

def StatClaim.claimType : StatClaim → ClaimType
  | .accredited _ => .accredited
  | .affiliate _ => .affiliate
  | .jurisdiction _ => .jurisdiction

/-- The investors that a number is kept for. -/
inductive Stat2ndKey
  | noClaimStat
  | claim (c : StatClaim)
deriving DecidableEq

/-- The key of an investor with the given claim, if there is one. -/
def Stat2ndKey.newFrom : ClaimType → Option Claim → Stat2ndKey
  | .accredited, none => .claim (.accredited false)
  | .affiliate, none => .claim (.affiliate false)
  | .accredited, some (.accredited _) => .claim (.accredited true)
  | .affiliate, some (.affiliate _) => .claim (.affiliate true)
  | .jurisdiction, some (.jurisdiction country _) => .claim (.jurisdiction (some country))
  | .jurisdiction, none => .claim (.jurisdiction none)
  | _, _ => .noClaimStat

/-- A set of kinds of statistics. -/
abbrev StatTypes := OrderedList fun a b : StatType => a ≠ b

structure StatUpdate where
  key2 : Stat2ndKey
  value : Option ℕ
deriving DecidableEq

/-! ## Transfer conditions -/

/-- Parts per million. -/
abbrev Percentage := Fin 1000001

inductive TransferCondition
  | maxInvestorCount (max : ℕ)
  | maxInvestorOwnership (max : Percentage)
  | claimCount (claim : StatClaim) (issuer : IdentityId) (min : ℕ) (max : Option ℕ)
  | claimOwnership (claim : StatClaim) (issuer : IdentityId) (min max : Percentage)
deriving DecidableEq

/-- The statistics that a condition reads. -/
def TransferCondition.getStatType : TransferCondition → StatType
  | .maxInvestorCount _ => ⟨.count, none⟩
  | .maxInvestorOwnership _ => ⟨.balance, none⟩
  | .claimCount claim issuer _ _ => ⟨.count, some (claim.claimType, issuer)⟩
  | .claimOwnership claim issuer _ _ => ⟨.balance, some (claim.claimType, issuer)⟩

/-- The conditions of an asset that an identity may be exempt from. -/
structure TransferConditionExemptKey where
  asset : Ticker
  op : StatOpType
  claimType : Option ClaimType
deriving DecidableEq

def TransferCondition.getExemptKey (asset : Ticker) : TransferCondition → TransferConditionExemptKey
  | .maxInvestorCount _ => ⟨asset, .count, none⟩
  | .maxInvestorOwnership _ => ⟨asset, .balance, none⟩
  | .claimCount claim _ _ _ => ⟨asset, .count, some claim.claimType⟩
  | .claimOwnership claim _ _ _ => ⟨asset, .balance, some claim.claimType⟩

/-- A set of conditions. -/
abbrev TransferConditions := OrderedList fun a b : TransferCondition => a ≠ b

end Polymesh
