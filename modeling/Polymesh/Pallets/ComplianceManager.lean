import Polymesh.Library.Transaction
import Polymesh.Primitives.Statistics

/-!
# Compliance

The conditions that an asset puts on senders and receivers (`primitives/src/condition.rs`,
`primitives/src/proposition`), and the two ways in which the compliance manager checks them
(`pallets/compliance-manager/src/lib.rs`): lazily for a verdict, and all of them for a report. The
claims about identities are those that the identity pallet finds.
-/

namespace Polymesh

open Transactional

namespace ComplianceManager

/-! ## Claims -/

def claimType : Claim → ClaimType
  | .accredited _ => .accredited
  | .affiliate _ => .affiliate
  | .buyLockup _ => .buyLockup
  | .sellLockup _ => .sellLockup
  | .customerDueDiligence _ => .customerDueDiligence
  | .knowYourCustomer _ => .knowYourCustomer
  | .jurisdiction _ _ => .jurisdiction
  | .exempted _ => .exempted
  | .blocked _ => .blocked
  | .custom id _ => .custom id

def asScope : Claim → Option Scope
  | .accredited scope | .affiliate scope | .buyLockup scope | .sellLockup scope
  | .knowYourCustomer scope | .jurisdiction _ scope | .exempted scope | .blocked scope => some scope
  | .custom _ scope => scope
  | .customerDueDiligence _ => none

/-! ## Conditions -/

inductive TargetIdentity
  | externalAgent
  | specific (did : IdentityId)
deriving DecidableEq

inductive ConditionType
  | isPresent (claim : Claim)
  | isAbsent (claim : Claim)
  | isAnyOf (claims : List Claim)
  | isNoneOf (claims : List Claim)
  | isIdentity (target : TargetIdentity)
deriving DecidableEq

inductive TrustedFor
  | any
  | specific (types : List ClaimType)
deriving DecidableEq

structure TrustedIssuer where
  issuer : IdentityId
  trustedFor : TrustedFor
deriving DecidableEq

def TrustedIssuer.isTrustedFor (i : TrustedIssuer) (type : ClaimType) : Bool :=
  match i.trustedFor with
  | .any => true
  | .specific okTypes => okTypes.contains type

structure Condition where
  conditionType : ConditionType
  issuers : List TrustedIssuer
deriving DecidableEq

structure ComplianceRequirement where
  senderConditions : List Condition
  receiverConditions : List Condition
  id : ℕ
deriving DecidableEq

structure AssetCompliance where
  paused : Bool
  requirements : List ComplianceRequirement
deriving DecidableEq

structure ConditionResult where
  condition : Condition
  result : Bool
deriving DecidableEq

structure ComplianceRequirementResult where
  senderConditions : List ConditionResult
  receiverConditions : List ConditionResult
  id : ℕ
  result : Bool
deriving DecidableEq

structure AssetComplianceResult where
  paused : Bool
  requirements : List ComplianceRequirementResult
  result : Bool
deriving DecidableEq

def ConditionResult.ofCondition (condition : Condition) : ConditionResult := ⟨condition, true⟩

def ComplianceRequirementResult.ofRequirement (r : ComplianceRequirement) :
    ComplianceRequirementResult where
  senderConditions := r.senderConditions.map .ofCondition
  receiverConditions := r.receiverConditions.map .ofCondition
  id := r.id
  result := true

def AssetComplianceResult.ofCompliance (c : AssetCompliance) : AssetComplianceResult where
  paused := c.paused
  requirements := c.requirements.map .ofRequirement
  result := c.paused

/-! ## Propositions -/

/-- The claims that were found about an identity. -/
structure Context where
  claims : List Claim
  id : IdentityId

/-- Whether the claim is in the context. The default identity of a due diligence stands for any. -/
def existsClaim (claim : Claim) (context : Context) : Bool :=
  match claim with
  | .customerDueDiligence 0 => context.claims.any fun
    | .customerDueDiligence _ => true
    | _ => false
  | _ => context.claims.any (· == claim)

def anyClaim (claims : List Claim) (context : Context) : Bool :=
  context.claims.any fun found => claims.any (found == ·)

/-- Whether the condition holds in the context. -/
def runProposition (condition : Condition) (context : Context) (eaProp : Context → Bool) : Bool :=
  match condition.conditionType with
  | .isPresent claim => existsClaim claim context
  | .isAbsent claim => !existsClaim claim context
  | .isAnyOf claims => anyClaim claims context
  | .isNoneOf claims => !anyClaim claims context
  | .isIdentity (.specific did) => context.id == did
  | .isIdentity .externalAgent => eaProp context

/-! ## Weights -/

/-- A weight: the time of the computation and the size of its proof. -/
abbrev Weight := ℕ × ℕ

structure WeightMeter where
  consumed : Weight
  limit : Weight

/-- The meter can take so much more. -/
structure Room (w : Weight) (m : WeightMeter) : Prop where
  refTime : m.consumed.1 + w.1 ≤ m.limit.1
  proofSize : m.consumed.2 + w.2 ≤ m.limit.2
  refTime_lt : m.consumed.1 + w.1 < 2 ^ 64
  proofSize_lt : m.consumed.2 + w.2 < 2 ^ 64

inductive Error
  | didNotExist
  | invalidComplianceRequirementId
  | incorrectOperationOnTrustedIssuer
  | duplicateComplianceRequirements
  | complianceRequirementTooComplex
  | weightLimitExceeded
  -- of the pallets that are asked
  | unauthorizedAgent
  | customScopeTooLong
  | tooLong
  | insufficientAccountBalance
deriving DecidableEq

/-- Computations that consume weight. -/
abbrev Metered (α : Type) := Tx WeightMeter Error α

/-- The weights of the pallet, as they were measured, and the meter, which is not part of the
repository. -/
structure WeightInfo where
  /-- The meter after the weight, if it is within the limit. -/
  checkAccrue : WeightMeter → Weight → Option WeightMeter
  checkAccrue_eq {m : WeightMeter} {w : Weight} (h : Room w m) :
    checkAccrue m w = some { m with consumed := m.consumed + w }
  /-- By the number of claims that are looked for, and by whether the default issuers are read. -/
  isConditionSatisfied : ℕ → ℕ → Weight
  /-- By whether agents are read. -/
  isIdentityCondition : ℕ → Weight

/-- Consume the weight; a meter that is exceeded is used up. -/
def consumeWeightMeter (weights : WeightInfo) (w : Weight) : Metered Unit := fun m =>
  match weights.checkAccrue m w with
  | some m' => (.ok (), m')
  | none => (.error .weightLimitExceeded, { m with consumed := m.limit })

/-! ## The pallet -/

/-- What the compliance manager reads. -/
structure Storage where
  assetCompliance : Ticker → AssetCompliance
  /-- The trusted issuers of a ticker where a condition names none. -/
  trustedClaimIssuer : Ticker → List TrustedIssuer
  /-- The claim of a type and scope that an issuer has made about an identity. -/
  fetchClaim : IdentityId → ClaimType → IdentityId → Option Scope → Option Claim
  groupOfAgent : Ticker → IdentityId → Option AgentGroup

section Evaluation

variable (weights : WeightInfo) (s : Storage) (ticker : Ticker)

/-- The claims of the type and scope of `claim` about the target by trusted issuers. -/
def fetchClaims (target : IdentityId) (claim : Claim) (issuers : List TrustedIssuer) :
    List Claim :=
  (issuers.filter (·.isTrustedFor (claimType claim))).filterMap fun i =>
    s.fetchClaim target (claimType claim) i.issuer (asScope claim)

/-- The default issuers, once they have been read. -/
abbrev Slot := Option (List TrustedIssuer)

/-- The issuers that the condition names, or else the default ones, which are kept in the slot. -/
def issuersFor (condition : Condition) (slot : Slot) : List TrustedIssuer × Slot :=
  if condition.issuers.isEmpty then
    let issuers := slot.getD (s.trustedClaimIssuer ticker)
    (issuers, some issuers)
  else (condition.issuers, slot)

def fetchContext (id : IdentityId) (slot : Slot) (condition : Condition) :
    Metered (Context × Slot) :=
  match condition.conditionType with
  | .isPresent claim | .isAbsent claim => do
    let (issuers, slot) := issuersFor s ticker condition slot
    consumeWeightMeter weights (weights.isConditionSatisfied (issuers.length % 2 ^ 32)
      condition.issuers.isEmpty.toNat)
    return (⟨fetchClaims s id claim issuers, id⟩, slot)
  | .isAnyOf claims | .isNoneOf claims => do
    let (issuers, slot) := issuersFor s ticker condition slot
    consumeWeightMeter weights (weights.isConditionSatisfied
      (issuers.length * claims.length % 2 ^ 32) condition.issuers.isEmpty.toNat)
    return (⟨claims.flatMap fun claim => fetchClaims s id claim issuers, id⟩, slot)
  | .isIdentity .externalAgent => do
    consumeWeightMeter weights (weights.isIdentityCondition 1)
    return (⟨[], id⟩, slot)
  | .isIdentity (.specific _) => do
    consumeWeightMeter weights (weights.isIdentityCondition 0)
    return (⟨[], id⟩, slot)

def isConditionSatisfied (did : IdentityId) (condition : Condition) (slot : Slot) :
    Metered (Bool × Slot) := do
  let (context, slot) ← fetchContext weights s ticker did slot condition
  let anyEa := fun context : Context => (s.groupOfAgent ticker context.id).isSome
  return (runProposition condition context anyEa, slot)

/-- Check one condition after the other, up to the first that does not hold. -/
def checkConditions (did : IdentityId) : List Condition → Slot → Metered Bool
  | [], _ => return true
  | condition :: conditions, slot => do
    let (holds, slot) ← isConditionSatisfied weights s ticker did condition slot
    if holds then checkConditions did conditions slot else return false

def areAllConditionsSatisfied (did : IdentityId) (conditions : List Condition) : Metered Bool :=
  checkConditions weights s ticker did conditions none

/-- Check all conditions and note what each comes to. -/
def evaluateConditions (did : IdentityId) (conditions : List ConditionResult) :
    Metered (Bool × List ConditionResult) :=
  conditions.foldlM (fun (allConditionsHold, evaluated) c => do
    let (conditionHolds, _) ← isConditionSatisfied weights s ticker did c.condition none
    return (allConditionsHold && conditionHolds,
      evaluated ++ [{ c with result := conditionHolds }])) (true, [])

/-- Check one requirement after the other, up to the first that is met. -/
def isAnyRequirementCompliant (senderDid receiverDid : IdentityId) :
    List ComplianceRequirement → Metered Bool
  | [] => return false
  | requirement :: requirements => do
    if ← areAllConditionsSatisfied weights s ticker senderDid requirement.senderConditions then
      if ← areAllConditionsSatisfied weights s ticker receiverDid requirement.receiverConditions then
        return true
      else isAnyRequirementCompliant senderDid receiverDid requirements
    else isAnyRequirementCompliant senderDid receiverDid requirements

/-- **The verdict**: whether the compliance of the ticker admits a transfer. -/
def isCompliant (senderDid receiverDid : IdentityId) : Metered Bool :=
  if (s.assetCompliance ticker).paused then return true
  else isAnyRequirementCompliant weights s ticker senderDid receiverDid
    (s.assetCompliance ticker).requirements

/-- Evaluate the conditions for the identity, if there is one; without one they do not hold. -/
def allConditionsHold (did : Option IdentityId) (conditions : List ConditionResult) :
    Metered (Bool × List ConditionResult) :=
  match did with
  | some did => evaluateConditions weights s ticker did conditions
  | none => return (false, conditions)

def verifyRequirement (fromDid toDid : Option IdentityId) (r : ComplianceRequirementResult) :
    Metered ComplianceRequirementResult := do
  let (senderHolds, senderConditions) ←
    allConditionsHold weights s ticker fromDid r.senderConditions
  let r := { r with senderConditions, result := if senderHolds then r.result else false }
  let (receiverHolds, receiverConditions) ←
    allConditionsHold weights s ticker toDid r.receiverConditions
  return { r with receiverConditions, result := if receiverHolds then r.result else false }

/-- **The report**: what every condition and every requirement comes to for a transfer. -/
def verifyRestrictionGranular (fromDid toDid : Option IdentityId) :
    Metered AssetComplianceResult := do
  let compliance := AssetComplianceResult.ofCompliance (s.assetCompliance ticker)
  let (result, requirements) ← compliance.requirements.foldlM (fun (result, verified) r => do
    let r ← verifyRequirement weights s ticker fromDid toDid r
    return (result || r.result, verified ++ [r])) (compliance.result, [])
  return { compliance with requirements, result }

end Evaluation

end ComplianceManager

end Polymesh
