import Mathlib.Tactic.Simps.Basic
import Polymesh.Library.Transaction
import Polymesh.Primitives

/-!
# Storage of identities, multisigs and subsidies

An account acts for an identity, as its primary key or as a secondary key, or it signs for a
multisig (`pallets/identity/src/keys.rs`, `pallets/multisig/src/lib.rs`). What others may do is
handed out as authorizations (`pallets/identity/src/auth.rs`), among them the subsidies of fees
(`pallets/relayer/src/lib.rs`). The proposals of a multisig are run by the scheduler, and may be
batches of calls or calls that are relayed for others (`pallets/utility/src/lib.rs`).

Permissions of secondary keys, claims, balances and signatures are answers of an environment. The
counters of the source that are `u64` (nonces, votes, signers) are natural numbers: each grows by one
at a time, so that none comes near `2 ^ 64`.
-/

namespace Polymesh

open Transactional

namespace Accounts

inductive Signatory
  | identity (did : IdentityId)
  | account (key : AccountId)
deriving DecidableEq

/-- What an account acts for. The permissions of a secondary key are left to the environment. -/
inductive KeyRecord
  | primaryKey (did : IdentityId)
  | secondaryKey (did : IdentityId)
  | multiSigSignerKey (multisig : AccountId)
deriving DecidableEq

inductive AuthorizationData
  | attestPrimaryKeyRotation (did : IdentityId)
  | rotatePrimaryKey
  | addMultiSigSigner (multisig : AccountId)
  | joinIdentity
  | addRelayerPayingKey (userKey payingKey : AccountId) (polyxLimit : ℕ)
  | rotatePrimaryKeyToSecondary
  | other
deriving DecidableEq

structure Authorization where
  data : AuthorizationData
  authorizedBy : IdentityId
  expiry : Option Moment
  count : ℕ
deriving DecidableEq

inductive ProposalStatus
  | invalid
  | activeOrExpired
  | executionSuccessful
  | executionFailed
  | rejected
deriving DecidableEq

structure ProposalDetails where
  approvals : ℕ
  rejections : ℕ
  status : ProposalStatus
  expiry : Option Moment
  autoClose : Bool
deriving DecidableEq

/-- The details of a proposal that does not exist. -/
def ProposalDetails.default : ProposalDetails := ⟨0, 0, .invalid, none, false⟩

def ProposalDetails.new (expiry : Option Moment) (autoClose : Bool) : ProposalDetails :=
  ⟨0, 0, .activeOrExpired, expiry, autoClose⟩

structure Subsidy where
  payingKey : AccountId
  remaining : ℕ
deriving DecidableEq

structure Hash where
  bytes : Fin (2 ^ 128)
deriving DecidableEq

structure Signature where
  bytes : Fin (2 ^ 512)
deriving DecidableEq

inductive Origin
  | signed (account : AccountId)
  | root
deriving DecidableEq

/-- What happens when a call of a batch fails. -/
inductive BatchMode
  | interrupted
  | atomic
  | optimistic
deriving DecidableEq

/-- The pallets that subsidies tell apart. -/
inductive Pallet
  | asset
  | complianceManager
  | corporateAction
  | externalAgents
  | permissions
  | portfolio
  | settlement
  | statistics
  | sto
  | balances
  | relayer
  | identity
  | multiSig
  | utility
  | other
deriving DecidableEq

inductive Call
  -- identity
  | cddRegisterDid (targetAccount : AccountId) (secondaryKeys : List AccountId)
  | acceptPrimaryKey (rotationAuthId : ℕ) (optionalCddAuthId : Option ℕ)
  | rotatePrimaryKeyToSecondary (authId : ℕ) (optionalCddAuthId : Option ℕ)
  | changeCddRequirementForMkRotation (authRequired : Bool)
  | joinIdentityAsKey (authId : ℕ)
  | leaveIdentityAsKey
  | freezeSecondaryKeys
  | unfreezeSecondaryKeys
  | addAuthorization (target : Signatory) (data : AuthorizationData) (expiry : Option Moment)
  | removeAuthorization (target : Signatory) (authId : ℕ) (authIssuerPays : Bool)
  | addSecondaryKeysWithAuthorization (keys : List AccountId) (expiresAt : Moment)
  | setSecondaryKeyPermissions (key : AccountId)
  | removeSecondaryKeys (keys : List AccountId)
  | createChildIdentity (secondaryKey : AccountId)
  | createChildIdentities (childKeys : List AccountId) (expiresAt : Moment)
  | unlinkChildIdentity (childDid : IdentityId)
  -- multisig
  | createMultisig (signers : List Signatory) (sigsRequired : ℕ)
  | createOrApproveProposalAsIdentity (multisig : AccountId) (proposal : Call)
      (expiry : Option Moment) (autoClose : Bool)
  | createOrApproveProposalAsKey (multisig : AccountId) (proposal : Call)
      (expiry : Option Moment) (autoClose : Bool)
  | createProposalAsIdentity (multisig : AccountId) (proposal : Call) (expiry : Option Moment)
      (autoClose : Bool)
  | createProposalAsKey (multisig : AccountId) (proposal : Call) (expiry : Option Moment)
      (autoClose : Bool)
  | approveAsIdentity (multisig : AccountId) (proposalId : ℕ)
  | approveAsKey (multisig : AccountId) (proposalId : ℕ)
  | rejectAsIdentity (multisig : AccountId) (proposalId : ℕ)
  | rejectAsKey (multisig : AccountId) (proposalId : ℕ)
  | acceptMultisigSignerAsIdentity (authId : ℕ)
  | acceptMultisigSignerAsKey (authId : ℕ)
  | addMultisigSigner (signer : Signatory)
  | removeMultisigSigner (signer : Signatory)
  | addMultisigSignersViaCreator (multisig : AccountId) (signers : List Signatory)
  | removeMultisigSignersViaCreator (multisig : AccountId) (signers : List Signatory)
  | changeSigsRequired (sigsRequired : ℕ)
  | changeSigsRequiredViaCreator (multisig : AccountId) (signaturesRequired : ℕ)
  | makeMultisigSecondary (multisig : AccountId)
  | makeMultisigPrimary (multisig : AccountId) (optionalCddAuthId : Option ℕ)
  | executeScheduledProposal (multisig : AccountId) (proposalId : ℕ) (multisigDid : IdentityId)
  | removeCreatorControls (multisig : AccountId)
  -- relayer
  | setPayingKey (userKey : AccountId) (polyxLimit : ℕ)
  | acceptPayingKey (authId : ℕ)
  | removePayingKey (userKey payingKey : AccountId)
  | updatePolyxLimit (userKey : AccountId) (polyxLimit : ℕ)
  | increasePolyxLimit (userKey : AccountId) (amount : ℕ)
  | decreasePolyxLimit (userKey : AccountId) (amount : ℕ)
  -- utility
  | batch (mode : BatchMode) (calls : List Call)
  | relayTx (target : AccountId) (signature : Signature) (nonce : ℕ) (call : Call)
  | dispatchAs (asOrigin : Origin) (call : Call)
  | asDerivative (index : ℕ) (call : Call)
  | withWeight (call : Call)
  -- all other pallets
  | other (pallet : Pallet) (number : ℕ)

/-- The execution of a proposal that is scheduled, with its name. -/
structure Task where
  multisig : AccountId
  proposalId : ℕ
  multisigDid : IdentityId
  due : BlockNumber
deriving DecidableEq

/-- What is kept of the events. An approval is kept with the number of approvals and of those that
were required at that moment, and a fee with the account for which it was paid. -/
inductive Event
  | approved (multisig : AccountId) (proposalId : ℕ) (signer : Signatory) (approvals required : ℕ)
  | rejected (multisig : AccountId) (proposalId : ℕ)
  | executed (multisig : AccountId) (proposalId : ℕ) (success : Bool)
  | charged (userKey payingKey : AccountId) (fee : ℕ)
  | acceptedPayingKey (userKey payingKey : AccountId)
  | removedPayingKey (userKey payingKey : AccountId)
  | updatedPolyxLimit (userKey payingKey : AccountId) (remaining : ℕ)
deriving DecidableEq

/-- A call that was relayed, with its nonce and the signature of both. -/
structure Relay where
  signature : Signature
  nonce : ℕ
  call : Call

structure IdentityStorage where
  /-- The primary key of every identity that exists, if it has one. -/
  didRecords : IdentityId → Option (Option AccountId)
  keyRecords : AccountId → Option KeyRecord
  didKeys : IdentityId × AccountId → Bool
  isDidFrozen : IdentityId → Bool
  parentDid : IdentityId → Option IdentityId
  accountKeyRefCount : AccountId → ℕ
  multiPurposeNonce : ℕ
  offChainAuthorizationNonce : IdentityId → ℕ
  authorizations : Signatory × ℕ → Option Authorization
  cddAuthForPrimaryKeyRotation : Bool
  currentDid : Option IdentityId
  currentPayer : Option AccountId

structure MultiSigStorage where
  multiSigNonce : ℕ
  multiSigSigners : AccountId × Signatory → Bool
  numberOfSigners : AccountId → ℕ
  multiSigSignsRequired : AccountId → ℕ
  multiSigTxDone : AccountId → ℕ
  proposals : AccountId × ℕ → Option Call
  proposalIds : AccountId × Hash → Option ℕ
  votes : AccountId × ℕ → Signatory → Bool
  multiSigToIdentity : AccountId → Option IdentityId
  proposalDetail : AccountId × ℕ → ProposalDetails
  lostCreatorPrivileges : IdentityId → Bool

structure Storage where
  identity : IdentityStorage
  multisig : MultiSigStorage
  subsidies : AccountId → Option Subsidy
  /-- The nonces of relayed calls. -/
  nonces : AccountId → ℕ
  /-- The calls that were relayed for every account, which are kept as the history is. -/
  relays : AccountId → List Relay
  /-- The multisigs whose creators have given up control, with the creators. -/
  removals : List (AccountId × IdentityId)
  agenda : List Task
  history : List Event
  blockNumber : BlockNumber
  now : Moment

@[simps] def Storage.mapIdentity (g : IdentityStorage → IdentityStorage) (s : Storage) : Storage :=
  { s with identity := g s.identity }

@[simps] def Storage.mapMultisig (g : MultiSigStorage → MultiSigStorage) (s : Storage) : Storage :=
  { s with multisig := g s.multisig }

/-- Deposit an event. -/
@[simps] def Storage.deposit (event : Event) (s : Storage) : Storage :=
  { s with history := s.history ++ [event] }

inductive Error
  | badOrigin
  | other
  -- permissions
  | unauthorizedCaller
  -- identity
  | alreadyLinked
  | missingCurrentIdentity
  | unauthorized
  | invalidAccountKey
  | unAuthorizedCddProvider
  | invalidAuthorizationFromCddProvider
  | notCddProviderAttestation
  | authorizationsNotForSameDids
  | didDoesNotExist
  | didAlreadyExists
  | secondaryKeysContainPrimaryKey
  | targetHasNoCdd
  | authorizationExpired
  | invalidAuthorizationSignature
  | accountKeyIsBeingUsed
  | multiSigHasBalance
  | isChildIdentity
  | noParentIdentity
  | notParentOrChildIdentity
  | duplicateKey
  | keyNotAllowed
  | tooLong
  -- authorizations
  | authInvalid
  | authExpired
  | authUnauthorized
  | authBadType
  -- multisig
  | cddMissing
  | proposalMissing
  | noSigners
  | requiredSignaturesOutOfBounds
  | notASigner
  | noSuchMultisig
  | notEnoughSigners
  | nonceOverflow
  | alreadyVoted
  | alreadyASigner
  | identityNotCreator
  | changeNotAllowed
  | signerAlreadyLinkedToMultisig
  | signerAlreadyLinkedToIdentity
  | multisigNotAllowedToLinkToItself
  | notPrimaryKey
  | proposalAlreadyRejected
  | proposalExpired
  | proposalAlreadyExecuted
  | multisigMissingIdentity
  | tooManySigners
  | creatorControlsHaveBeenRemoved
  -- relayer and fees
  | userKeyCddMissing
  | payingKeyCddMissing
  | noPayingKey
  | notPayingKey
  | notAuthorizedForPayingKey
  | notAuthorizedForUserKey
  | overflow
  | insufficientSubsidyBalance
  | insufficientAccountBalance
  -- utility
  | invalidNonce
  | invalidSignature
  | targetCddMissing
  -- transactions
  | payment
  | palletNotSubsidised
  | cddRequired
  | missingIdentity
  | invalidAuthorization
deriving DecidableEq

abbrev Dispatch (α : Type) := Tx Storage Error α

/-- What the rest of the chain answers in a call. -/
structure Env where
  /-- Whether the permissions of a secondary key allow the call. -/
  hasExtrinsicPermission : AccountId → Bool
  hasValidCdd : IdentityId → Bool
  /-- Whether an identity is an active provider of customer due diligence. -/
  isCddProvider : IdentityId → Bool
  /-- Whether the permissions in the call are within limits. -/
  permissionsLimited : Bool
  /-- The identity that a nonce makes together with the hash of the parent block. These hashes do
  not collide. -/
  didOf : ℕ → IdentityId
  didOf_ne : ∀ n k, 0 < k → k < 2 ^ 256 → didOf n ≠ didOf (n + 7 * k)
  /-- Whether a key has signed for the call. -/
  signed : AccountId → Bool
  /-- Whether the balance of a multisig is below the limit for unlinking it. -/
  belowBalanceLimit : AccountId → Bool
  /-- The protocol fees of the call, in the order in which they are charged. -/
  protocolFees : List ℕ
  /-- Whether a fee can be withdrawn from an account. -/
  withdraws : AccountId → ℕ → Bool
  /-- Whether a call of another pallet succeeds, apart from its fees. -/
  succeeds : Bool

/-- The hashes of the chain. Those that give multisigs their addresses do not collide. -/
structure Hashes where
  multisigAddress : AccountId → ℕ → AccountId
  nonce_eq : ∀ {sender sender' : AccountId} {n n' : ℕ}, n < 2 ^ 64 → n' < 2 ^ 64 →
    multisigAddress sender n = multisigAddress sender' n' → n = n'
  proposalKey : Call → Hash
  /-- Whether an account has signed a call with a nonce. -/
  verify : Signature → ℕ → Call → AccountId → Bool
  derivativeAccount : AccountId → ℕ → AccountId

end Accounts

end Polymesh
