import Mathlib.Data.List.Destutter
import Polymesh.Library.Runs
import Polymesh.Library.SortedLists
import Polymesh.Pallets.ComplianceManager

/-!
# Editing the compliance of an asset

The agents of an asset add, replace, change and remove its requirements, and keep a list of issuers
that are trusted where a condition names none (`pallets/compliance-manager/src/lib.rs`). A
requirement that is added takes the identifier after the last one, while one that replaces others
has the identifier that the caller gives it. After every edit that adds to the work of a transfer,
the worst case of all conditions is bounded.
-/

namespace Polymesh

open Transactional Tx SortedLists

namespace ComplianceManager

open Tx (ensure read)

/-- The bound of every runtime on the worst case of a transfer. -/
def maxConditionComplexity : ℕ := 50

/-- The bound on lists that have no bound of their own. -/
def maxLen : ℕ := 2048

/-! ## Conditions -/

def ConditionType.count : ConditionType → ℕ
  | .isIdentity _ | .isPresent _ | .isAbsent _ => 1
  | .isNoneOf claims | .isAnyOf claims => claims.length

/-- The worst case of a condition: each of its claims is looked for at each of the issuers. -/
def Condition.complexity (c : Condition) (defaultIssuerCount : ℕ) : ℕ :=
  let issuers := match c.issuers.length with
    | 0 => defaultIssuerCount
    | count => count
  min (c.conditionType.count * max issuers 1) (2 ^ 32 - 1)

def Condition.claims (c : Condition) : List Claim :=
  match c.conditionType with
  | .isPresent claim | .isAbsent claim => [claim]
  | .isAnyOf claims | .isNoneOf claims => claims
  | .isIdentity _ => []

/-- The place of a type of claims in their order. -/
def claimTypePlace : ClaimType → ℕ
  | .accredited => 0
  | .affiliate => 1
  | .buyLockup => 2
  | .sellLockup => 3
  | .customerDueDiligence => 4
  | .knowYourCustomer => 5
  | .jurisdiction => 6
  | .exempted => 7
  | .blocked => 8
  | .custom id => 9 + id.id

/-- Remove neighbours that are equal in a sorted list. -/
def TrustedIssuer.dedup (i : TrustedIssuer) : TrustedIssuer :=
  match i.trustedFor with
  | .any => i
  | .specific types =>
    { i with
      trustedFor := .specific
        ((types.mergeSort fun a b => claimTypePlace a ≤ claimTypePlace b).destutter (· ≠ ·)) }

def Condition.dedup (c : Condition) : Condition :=
  { c with issuers := c.issuers.map TrustedIssuer.dedup }

variable (r : ComplianceRequirement) (env : Env) (ticker : Ticker)
  (requirements : List ComplianceRequirement) (s : Storage)

def ComplianceRequirement.dedup : ComplianceRequirement where
  senderConditions := r.senderConditions.map Condition.dedup
  receiverConditions := r.receiverConditions.map Condition.dedup
  id := r.id

def ComplianceRequirement.conditions : List Condition :=
  r.senderConditions ++ r.receiverConditions

/-! ## Limits -/

def ensureLengthOk (length : ℕ) : Except Error Unit := ensure (length ≤ maxLen) .tooLong

def ensureIssuerLimited (issuer : TrustedIssuer) : Except Error Unit :=
  match issuer.trustedFor with
  | .any => .ok ()
  | .specific types => ensureLengthOk types.length

def ensureIssuersInReqLimited : Except Error Unit :=
  r.conditions.forM fun c => do
    ensureLengthOk c.issuers.length
    c.issuers.forM ensureIssuerLimited

def dedupAndEnsureRequirementLimited : Except Error ComplianceRequirement := do
  ensureIssuersInReqLimited r.dedup
  return r.dedup

def ensureCustomScopeLimited (claim : Claim) : Except Error Unit :=
  match asScope claim with
  | some (.custom bytes) => ensure (bytes.length ≤ 32) .customScopeTooLong
  | _ => .ok ()

def ensureCustomScopesLimited (conditions : List Condition) : Except Error Unit :=
  (conditions.flatMap Condition.claims).forM ensureCustomScopeLimited

/-- The worst case of all conditions of the requirements. -/
def complexity (defaultIssuerCount : ℕ) : ℕ :=
  (requirements.flatMap ComplianceRequirement.conditions).foldl
    (fun total c => saturatingAdd 32 total (c.complexity defaultIssuerCount)) 0

/-- Requirements without conditions count as well. -/
def baseVerifyComplianceComplexity (defaultIssuerCount : ℕ) : Except Error Unit :=
  ensure (max (complexity requirements defaultIssuerCount) (requirements.length % 2 ^ 32) ≤
    maxConditionComplexity) .complianceRequirementTooComplex

def verifyComplianceComplexity (ticker : Ticker) (add : ℕ) (s : Storage) : Except Error Unit :=
  baseVerifyComplianceComplexity requirements
    (saturatingAdd 32 (s.trustedClaimIssuer ticker).length add)

/-! ## Calls -/

abbrev Dispatch (α : Type) := Tx Storage Error α

/-- What the other pallets answer in a call. -/
structure Env where
  /-- Whether the caller is an agent of the asset that may make the call. -/
  ensurePerms : Ticker → Except Error Unit
  isIdentityExists : IdentityId → Bool
  chargeFee : Except Error Unit

/-- A requirement in a call, with an identifier of 32 bits. -/
abbrev RequirementArg := { r : ComplianceRequirement // r.id < 2 ^ 32 }

def setRequirements : Storage :=
  { s with
    assetCompliance := Function.update s.assetCompliance ticker
      { s.assetCompliance ticker with requirements } }

def setPaused (paused : Bool) (s : Storage) : Storage :=
  { s with
    assetCompliance := Function.update s.assetCompliance ticker
      { s.assetCompliance ticker with paused } }

def setTrustedClaimIssuer (issuers : List TrustedIssuer) (s : Storage) : Storage :=
  { s with trustedClaimIssuer := Function.update s.trustedClaimIssuer ticker issuers }

/-- The identifier of the last requirement, or zero. -/
def getLatestRequirementId : ℕ :=
  ((s.assetCompliance ticker).requirements.getLast?.map ComplianceRequirement.id).getD 0

/-- The identifier of a new requirement is found by an unchecked addition. -/
def baseAddComplianceRequirement (senderConditions receiverConditions : List Condition) :
    Dispatch Unit := do
  read fun _ => ensureCustomScopesLimited senderConditions
  read fun _ => ensureCustomScopesLimited receiverConditions
  let s ← get
  let id := wrapAdd 32 (getLatestRequirementId ticker s) 1
  let newReq ← read fun _ =>
    dedupAndEnsureRequirementLimited ⟨senderConditions, receiverConditions, id⟩
  let requirements := (s.assetCompliance ticker).requirements ++ [newReq]
  read (verifyComplianceComplexity requirements ticker 0)
  read fun _ => env.chargeFee
  Tx.modify (setRequirements ticker requirements)

def addComplianceRequirement (senderConditions receiverConditions : List Condition) :
    Dispatch Unit := do
  read fun _ => env.ensurePerms ticker
  baseAddComplianceRequirement env ticker senderConditions receiverConditions

def removeComplianceRequirement (id : ℕ) : Dispatch Unit := do
  read fun _ => env.ensurePerms ticker
  let s ← get
  let before := (s.assetCompliance ticker).requirements
  let requirements := before.filter (·.id ≠ id)
  ensure (before.length ≠ requirements.length) .invalidComplianceRequirementId
  Tx.modify (setRequirements ticker requirements)

/-- Sort by identifier, and remove all but the first of each identifier. -/
def sortedById : List ComplianceRequirement :=
  (requirements.mergeSort (·.id ≤ ·.id)).destutter (·.id ≠ ·.id)

def replaceAssetCompliance (assetCompliance : List RequirementArg) : Dispatch Unit := do
  read fun _ => env.ensurePerms ticker
  let requirements := assetCompliance.map Subtype.val
  read fun _ =>
    ensureCustomScopesLimited (requirements.flatMap ComplianceRequirement.conditions)
  ensure (requirements.length = (sortedById requirements).length)
    .duplicateComplianceRequirements
  let limited ← read fun _ =>
    (sortedById requirements).mapM dedupAndEnsureRequirementLimited
  read (verifyComplianceComplexity limited ticker 0)
  Tx.modify (setRequirements ticker limited)

def resetAssetCompliance : Dispatch Unit := do
  read fun _ => env.ensurePerms ticker
  Tx.modify fun s =>
    { s with assetCompliance := Function.update s.assetCompliance ticker ⟨false, []⟩ }

def pauseResumeAssetCompliance (pause : Bool) : Dispatch Unit := do
  read fun _ => env.ensurePerms ticker
  Tx.modify (setPaused ticker pause)

def addDefaultTrustedClaimIssuer (issuer : TrustedIssuer) : Dispatch Unit := do
  read fun _ => env.ensurePerms ticker
  ensure (env.isIdentityExists issuer.issuer) .didNotExist
  read fun _ => ensureIssuerLimited issuer
  let s ← get
  let issuers := s.trustedClaimIssuer ticker
  let newCount := saturatingAdd 32 issuers.length 1
  read fun _ => ensureLengthOk newCount
  ensure (issuer ∉ issuers) .incorrectOperationOnTrustedIssuer
  read fun s =>
    baseVerifyComplianceComplexity (s.assetCompliance ticker).requirements newCount
  Tx.modify (setTrustedClaimIssuer ticker (issuers ++ [issuer]))

def removeDefaultTrustedClaimIssuer (issuer : IdentityId) : Dispatch Unit := do
  read fun _ => env.ensurePerms ticker
  let s ← get
  let issuers := (s.trustedClaimIssuer ticker).filter (·.issuer ≠ issuer)
  ensure ((s.trustedClaimIssuer ticker).length ≠ issuers.length)
    .incorrectOperationOnTrustedIssuer
  Tx.modify (setTrustedClaimIssuer ticker issuers)

def changeComplianceRequirement (newReq : RequirementArg) : Dispatch Unit := do
  read fun _ => env.ensurePerms ticker
  read fun _ => ensureCustomScopesLimited newReq.val.conditions
  let s ← get
  let requirements := (s.assetCompliance ticker).requirements
  let pos ← read fun _ => match binarySearch (·.id) requirements newReq.val.id with
    | .ok pos => .ok pos
    | .error _ => .error .invalidComplianceRequirementId
  let newReq ← read fun _ => dedupAndEnsureRequirementLimited newReq.val
  let requirements := requirements.set pos newReq
  read (verifyComplianceComplexity requirements ticker 0)
  Tx.modify (setRequirements ticker requirements)

/-! ## Runs -/

inductive Call
  | addComplianceRequirement (ticker : Ticker) (senderConditions receiverConditions : List Condition)
  | removeComplianceRequirement (ticker : Ticker) (id : ℕ)
  | replaceAssetCompliance (ticker : Ticker) (assetCompliance : List RequirementArg)
  | resetAssetCompliance (ticker : Ticker)
  | pauseAssetCompliance (ticker : Ticker)
  | resumeAssetCompliance (ticker : Ticker)
  | addDefaultTrustedClaimIssuer (ticker : Ticker) (issuer : TrustedIssuer)
  | removeDefaultTrustedClaimIssuer (ticker : Ticker) (issuer : IdentityId)
  | changeComplianceRequirement (ticker : Ticker) (newReq : RequirementArg)

def dispatch : Call → Dispatch Unit
  | .addComplianceRequirement ticker senderConditions receiverConditions =>
    addComplianceRequirement env ticker senderConditions receiverConditions
  | .removeComplianceRequirement ticker id => removeComplianceRequirement env ticker id
  | .replaceAssetCompliance ticker assetCompliance =>
    replaceAssetCompliance env ticker assetCompliance
  | .resetAssetCompliance ticker => resetAssetCompliance env ticker
  | .pauseAssetCompliance ticker => pauseResumeAssetCompliance env ticker true
  | .resumeAssetCompliance ticker => pauseResumeAssetCompliance env ticker false
  | .addDefaultTrustedClaimIssuer ticker issuer => addDefaultTrustedClaimIssuer env ticker issuer
  | .removeDefaultTrustedClaimIssuer ticker issuer =>
    removeDefaultTrustedClaimIssuer env ticker issuer
  | .changeComplianceRequirement ticker newReq => changeComplianceRequirement env ticker newReq

inductive Action
  | extrinsic (env : Env) (call : Call)
  /-- Claims are made and revoked, and agents come and go. -/
  | others (fetchClaim : IdentityId → ClaimType → IdentityId → Option Scope → Option Claim)
      (groupOfAgent : Ticker → IdentityId → Option AgentGroup)

def step : Action → Storage → Storage
  | .extrinsic env call, s => (transaction (dispatch env call) s).2
  | .others fetchClaim groupOfAgent, s => { s with fetchClaim, groupOfAgent }

def genesis : Storage where
  assetCompliance := fun _ => ⟨false, []⟩
  trustedClaimIssuer := fun _ => []
  fetchClaim := fun _ _ _ _ => none
  groupOfAgent := fun _ _ => none

end ComplianceManager

end Polymesh
