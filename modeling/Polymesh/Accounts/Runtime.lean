import Polymesh.Library.Runs
import Polymesh.Pallets.MultiSig
import Polymesh.Pallets.Relayer

/-!
# Runs of accounts

A call reaches its pallet from a signed transaction, from the root, or from another call: a batch, or
a call that is relayed, derived or made in the name of another (`pallets/utility/src/lib.rs`). The
proposals of multisigs are run by the scheduler, at the root. Who pays for a transaction is settled
before it is dispatched, and charged after (`pallets/transaction-payment/src/lib.rs`,
`pallets/runtime/common/src/fee_details.rs`).
-/

namespace Polymesh

open Transactional Tx

namespace Accounts

/-! ## Calls -/

section Dispatch

variable (hashes : Hashes)

/-- What a call of one of the pallets runs. The calls of the utility pallet run others, and are not
among them. -/
def dispatchLeaf (env : Env) (run : AccountId → Call → Dispatch Unit) (origin : Origin) :
    Call → Dispatch Unit
  | .cddRegisterDid targetAccount secondaryKeys =>
    Identity.baseCddRegisterDid env origin targetAccount secondaryKeys
  | .acceptPrimaryKey rotationAuthId optionalCddAuthId =>
    Identity.acceptPrimaryKeyRotation env origin rotationAuthId optionalCddAuthId
  | .rotatePrimaryKeyToSecondary authId optionalCddAuthId =>
    Identity.baseRotatePrimaryKeyToSecondary env origin authId optionalCddAuthId
  | .changeCddRequirementForMkRotation authRequired =>
    Identity.changeCddRequirementForMkRotation origin authRequired
  | .joinIdentityAsKey authId => Identity.joinIdentity env origin authId
  | .leaveIdentityAsKey => Identity.leaveIdentity env origin
  | .freezeSecondaryKeys => Identity.setFrozenSecondaryKeyFlags origin true
  | .unfreezeSecondaryKeys => Identity.setFrozenSecondaryKeyFlags origin false
  | .addAuthorization target data expiry =>
    Identity.baseAddAuthorization env origin target data expiry
  | .removeAuthorization target authId _ => Identity.baseRemoveAuthorization env origin target authId
  | .addSecondaryKeysWithAuthorization keys expiresAt =>
    Identity.baseAddSecondaryKeysWithAuthorization env origin keys expiresAt
  | .setSecondaryKeyPermissions key => Identity.baseSetSecondaryKeyPermissions env origin key
  | .removeSecondaryKeys keys => Identity.baseRemoveSecondaryKeys env origin keys
  | .createChildIdentity secondaryKey => Identity.baseCreateChildIdentity env origin secondaryKey
  | .createChildIdentities childKeys expiresAt =>
    Identity.baseCreateChildIdentities env origin childKeys expiresAt
  | .unlinkChildIdentity childDid => Identity.baseUnlinkChildIdentity origin childDid
  | .createMultisig signers sigsRequired =>
    MultiSig.createMultisig hashes env origin signers sigsRequired
  | .createOrApproveProposalAsIdentity multisig proposal expiry autoClose => do
    let signer ← Tx.read (MultiSig.ensurePermsSignedDid env origin)
    MultiSig.createOrApproveProposal hashes multisig signer proposal expiry autoClose
  | .createOrApproveProposalAsKey multisig proposal expiry autoClose => do
    let signer ← Tx.read fun _ => MultiSig.ensureSignedAcc origin
    MultiSig.createOrApproveProposal hashes multisig signer proposal expiry autoClose
  | .createProposalAsIdentity multisig proposal expiry autoClose => do
    let signer ← Tx.read (MultiSig.ensurePermsSignedDid env origin)
    MultiSig.createProposal hashes multisig signer proposal expiry autoClose false
  | .createProposalAsKey multisig proposal expiry autoClose => do
    let signer ← Tx.read fun _ => MultiSig.ensureSignedAcc origin
    MultiSig.createProposal hashes multisig signer proposal expiry autoClose false
  | .approveAsIdentity multisig proposalId => do
    let signer ← Tx.read (MultiSig.ensurePermsSignedDid env origin)
    MultiSig.unsafeApprove multisig signer proposalId
  | .approveAsKey multisig proposalId => do
    let signer ← Tx.read fun _ => MultiSig.ensureSignedAcc origin
    MultiSig.unsafeApprove multisig signer proposalId
  | .rejectAsIdentity multisig proposalId => do
    let signer ← Tx.read (MultiSig.ensurePermsSignedDid env origin)
    MultiSig.unsafeReject multisig signer proposalId
  | .rejectAsKey multisig proposalId => do
    let signer ← Tx.read fun _ => MultiSig.ensureSignedAcc origin
    MultiSig.unsafeReject multisig signer proposalId
  | .acceptMultisigSignerAsIdentity authId =>
    MultiSig.acceptMultisigSignerAsIdentity origin authId
  | .acceptMultisigSignerAsKey authId => MultiSig.acceptMultisigSignerAsKey origin authId
  | .addMultisigSigner signer => MultiSig.addMultisigSigner origin signer
  | .removeMultisigSigner signer => MultiSig.removeMultisigSigner origin signer
  | .addMultisigSignersViaCreator multisig signers =>
    MultiSig.addMultisigSignersViaCreator origin multisig signers
  | .removeMultisigSignersViaCreator multisig signers =>
    MultiSig.removeMultisigSignersViaCreator origin multisig signers
  | .changeSigsRequired sigsRequired => MultiSig.changeSigsRequired origin sigsRequired
  | .changeSigsRequiredViaCreator multisig signaturesRequired =>
    MultiSig.changeSigsRequiredViaCreator origin multisig signaturesRequired
  | .makeMultisigSecondary multisig => MultiSig.makeMultisigSecondary env origin multisig
  | .makeMultisigPrimary multisig optionalCddAuthId =>
    MultiSig.makeMultisigPrimary env origin multisig optionalCddAuthId
  | .executeScheduledProposal multisig proposalId multisigDid => do
    Tx.read fun _ => ensureRoot origin
    MultiSig.executeProposal env (run multisig) multisig proposalId multisigDid
  | .removeCreatorControls multisig => MultiSig.removeCreatorControls origin multisig
  | .setPayingKey userKey polyxLimit => Relayer.baseSetPayingKey env origin userKey polyxLimit
  | .acceptPayingKey authId => Relayer.baseAcceptPayingKey env origin authId
  | .removePayingKey userKey payingKey => Relayer.baseRemovePayingKey env origin userKey payingKey
  | .updatePolyxLimit userKey polyxLimit =>
    Relayer.baseUpdatePolyxLimit env origin userKey .set polyxLimit
  | .increasePolyxLimit userKey amount =>
    Relayer.baseUpdatePolyxLimit env origin userKey .add amount
  | .decreasePolyxLimit userKey amount =>
    Relayer.baseUpdatePolyxLimit env origin userKey .sub amount
  | .other _ _ => do
    ProtocolFee.chargeFees env
    Tx.ensure env.succeeds .other
  | .batch _ _ | .relayTx _ _ _ _ | .dispatchAs _ _ | .asDerivative _ _ | .withWeight _ =>
    fail .other

/-- Who relays is permitted to, and whose call it is has signed it with the next nonce. -/
def ensureRelayed (env : Env) (origin : Origin) (target : AccountId) (signature : Signature)
    (nonce : ℕ) (call : Call) (s : Storage) : Except Error Unit := do
  let sender ← ensureSigned origin
  let _ ← Identity.ensureCallPermissions env sender s
  ensure (s.nonces target = nonce) .invalidNonce
  ensure (hashes.verify signature nonce call target) .invalidSignature
  ensure (Relayer.keyHasValidCdd env target s) .targetCddMissing

/-- The next nonce is used, which is noted. -/
def noteRelayed (target : AccountId) (signature : Signature) (nonce : ℕ) (call : Call)
    (s : Storage) : Storage :=
  { s with
    nonces := Function.update s.nonces target (nonce + 1)
    relays := Function.update s.relays target (s.relays target ++ [⟨signature, nonce, call⟩]) }

/-- Run something with another identity and another payer, which are restored at the end. -/
def runWithTemporaryDidAndPayer (account : Option AccountId) (x : Dispatch Unit) :
    Dispatch (Except Error Unit) := do
  let s ← get
  Tx.modify (Identity.setCurrentIdentity (account.bind (Identity.getIdentity · s)))
  Tx.modify (Identity.setCurrentPayer account)
  let res ← attempt (transaction x)
  Tx.modify (Identity.setCurrentPayer s.identity.currentPayer)
  Tx.modify (Identity.setCurrentIdentity s.identity.currentDid)
  return res

def signer : Origin → Option AccountId
  | .signed account => some account
  | .root => none

/-- The outcome of a call that was run by another. -/
def outcome : Except Error Unit → Dispatch Unit
  | .ok _ => return ()
  | .error e => fail e

/-- The answers to a call and to those that it runs, by their positions. -/
abbrev Envs := List ℕ → Env

/-- The answers to the call at a position. -/
def Envs.inner (envs : Envs) (index : ℕ) : Envs := fun path => envs (index :: path)

variable (run : Envs → AccountId → Call → Dispatch Unit)

mutual

/-- What a call runs, when the proposals of multisigs are run as given. -/
def dispatchWith : Call → Envs → Origin → Dispatch Unit
  | .batch mode calls, envs, origin => dispatchBatch mode calls envs 0 origin
  | .relayTx target signature nonce call, envs, origin => do
    Tx.read (ensureRelayed hashes (envs []) origin target signature nonce call)
    Tx.modify (noteRelayed target signature nonce call)
    let _ ← attempt (transaction (dispatchWith call (envs.inner 0) (.signed target)))
    return ()
  | .dispatchAs asOrigin call, envs, origin => do
    Tx.read fun _ => ensureRoot origin
    let _ ← runWithTemporaryDidAndPayer (signer asOrigin)
      (dispatchWith call (envs.inner 0) asOrigin)
    return ()
  | .asDerivative index call, envs, origin => do
    let account ← Tx.read fun _ => ensureSigned origin
    let derivative := hashes.derivativeAccount account index
    let res ← runWithTemporaryDidAndPayer (some derivative)
      (dispatchWith call (envs.inner 0) (.signed derivative))
    outcome res
  | .withWeight call, envs, origin => do
    Tx.read fun _ => ensureRoot origin
    dispatchWith call (envs.inner 0) .root
  | call, envs, origin => dispatchLeaf hashes (envs []) (run (envs.inner 0)) origin call

/-- The calls of a batch, one after the other, from an index on. -/
def dispatchBatch (mode : BatchMode) : List Call → Envs → ℕ → Origin → Dispatch Unit
  | [], _, _, _ => return ()
  | call :: calls, envs, index, origin => do
    match ← attempt (transaction (dispatchWith call (envs.inner index) origin)) with
    | .ok _ => dispatchBatch mode calls envs (index + 1) origin
    | .error e =>
      match mode with
      | .interrupted => return ()
      | .atomic => fail e
      | .optimistic => dispatchBatch mode calls envs (index + 1) origin

end

/-- Run the call of a proposal as one of the multisig. No proposal is run from there, since that
needs the root. -/
def dispatchProposal (envs : Envs) (multisig : AccountId) (call : Call) : Dispatch Unit :=
  dispatchWith hashes (fun _ _ _ => fail .badOrigin) call envs (.signed multisig)

/-- What a call runs. -/
def dispatch (envs : Envs) (call : Call) (origin : Origin) : Dispatch Unit :=
  dispatchWith hashes (dispatchProposal hashes) call envs origin

end Dispatch

/-! ## Transactions -/

inductive CallType
  | acceptMultiSigSigner
  | acceptRelayerPayingKey
  | acceptIdentitySecondary
  | acceptIdentityPrimary
  | rotatePrimaryToSecondary
  | removeAuthorization
deriving DecidableEq

/-- Whether an authorization is one for the call. -/
def CallType.accepts : CallType → AuthorizationData → Bool
  | .acceptMultiSigSigner, .addMultiSigSigner _
  | .acceptIdentitySecondary, .joinIdentity
  | .acceptIdentityPrimary, .rotatePrimaryKey
  | .rotatePrimaryToSecondary, .rotatePrimaryKeyToSecondary
  | .acceptRelayerPayingKey, .addRelayerPayingKey _ _ _
  | .removeAuthorization, _ => true
  | _, _ => false

/-- Who is asked to pay for a call: who issued an authorization, the identity of a multisig, or who
calls. -/
inductive Payment
  | issuer (authId : ℕ) (callType : CallType)
  | multisig (multisig : AccountId)
  | caller
deriving DecidableEq

def Call.payment : Call → Payment
  | .acceptMultisigSignerAsKey authId => .issuer authId .acceptMultiSigSigner
  | .joinIdentityAsKey authId => .issuer authId .acceptIdentitySecondary
  | .acceptPrimaryKey rotationAuthId _ => .issuer rotationAuthId .acceptIdentityPrimary
  | .rotatePrimaryKeyToSecondary authId _ => .issuer authId .rotatePrimaryToSecondary
  | .removeAuthorization _ authId true => .issuer authId .removeAuthorization
  | .acceptPayingKey authId => .issuer authId .acceptRelayerPayingKey
  | .createOrApproveProposalAsKey multisig _ _ _
  | .createProposalAsKey multisig _ _ _
  | .approveAsKey multisig _
  | .rejectAsKey multisig _ => .multisig multisig
  | _ => .caller

def Call.pallet : Call → Pallet
  | .cddRegisterDid _ _ | .acceptPrimaryKey _ _ | .rotatePrimaryKeyToSecondary _ _
  | .changeCddRequirementForMkRotation _ | .joinIdentityAsKey _ | .leaveIdentityAsKey
  | .freezeSecondaryKeys | .unfreezeSecondaryKeys | .addAuthorization _ _ _
  | .removeAuthorization _ _ _ | .addSecondaryKeysWithAuthorization _ _
  | .setSecondaryKeyPermissions _ | .removeSecondaryKeys _ | .createChildIdentity _
  | .createChildIdentities _ _ | .unlinkChildIdentity _ => .identity
  | .setPayingKey _ _ | .acceptPayingKey _ | .removePayingKey _ _ | .updatePolyxLimit _ _
  | .increasePolyxLimit _ _ | .decreasePolyxLimit _ _ => .relayer
  | .batch _ _ | .relayTx _ _ _ _ | .dispatchAs _ _ | .asDerivative _ _ | .withWeight _ => .utility
  | .other pallet _ => pallet
  | _ => .multiSig

section Payment

variable (env : Env)

/-- The primary key of an identity pays, if the identity has passed customer due diligence. -/
def checkCdd (did : IdentityId) : Dispatch (Option AccountId) := do
  Tx.ensure (env.hasValidCdd did) .cddRequired
  Tx.modify (Identity.setCurrentIdentity (some did))
  let s ← get
  return Identity.getPrimaryKey did s

def handleMultisig (multisig caller : AccountId) : Dispatch (Option AccountId) := do
  Tx.read fun s =>
    ensure (s.multisig.multiSigSigners (multisig, .account caller)) .missingIdentity
  let s ← get
  checkCdd env (MultiSig.msToIdentity multisig s)

/-- An authorization that is present, has not expired and is for the call. -/
def validAuth (acc : AccountId) (authId : ℕ) (callType : CallType) (s : Storage) :
    Except Error Authorization :=
  okOr ((Identity.getNonExpiredAuth (.account acc) authId s).filter (callType.accepts ·.data))
    .invalidAuthorization

def isAuthValid (acc : AccountId) (authId : ℕ) (callType : CallType) :
    Dispatch (Option AccountId) := do
  let auth ← Tx.read (validAuth acc authId callType)
  checkCdd env auth.authorizedBy

/-- All other calls are paid by who calls. -/
def callerPays (caller : AccountId) : Dispatch (Option AccountId) := do
  let did ← Tx.read fun s => okOr (Identity.getIdentity caller s) .missingIdentity
  Tx.ensure (env.hasValidCdd did) .cddRequired
  Tx.modify (Identity.setCurrentIdentity (some did))
  return some caller

def getValidPayer (caller : AccountId) : Payment → Dispatch (Option AccountId)
  | .issuer authId callType => isAuthValid env caller authId callType
  | .multisig multisig => handleMultisig env multisig caller
  | .caller => callerPays env caller

/-- Withdraw the fee from the payer, or from who subsidises them, whom it returns. -/
def withdrawFee (who : AccountId) (call : Call) (fee : ℕ) : Dispatch (Option AccountId) :=
  if fee = 0 then return none
  else do
    let payer ← getValidPayer env who call.payment
    let payerKey ← Tx.read fun _ => okOr payer .payment
    let subsidiser ← Tx.read (Relayer.checkSubsidy payerKey fee (some call.pallet))
    Tx.ensure (env.withdraws (subsidiser.getD payerKey) fee) .payment
    Tx.modify (Identity.setCurrentPayer (some payerKey))
    return subsidiser

end Payment

def clearContext (s : Storage) : Storage :=
  Identity.setCurrentPayer none (Identity.setCurrentIdentity none s)

/-- Debit the actual fee from the subsidy, if there is one. What was withdrawn in excess of it is
returned to who has paid. -/
def postDispatch (who : AccountId) (actualFee : ℕ) (subsidiser : Option AccountId) :
    Dispatch Unit := do
  let s ← get
  let payer := s.identity.currentPayer.getD who
  onlyIf subsidiser.isSome do
    let _ ← Relayer.debitSubsidy payer actualFee
    return ()
  Tx.modify (noteCharge payer actualFee subsidiser)
  Tx.modify clearContext

/-- A signed transaction. What its call has written stays only if it succeeds, but it is paid in
either case. -/
def transact (hashes : Hashes) (envs : Envs) (who : AccountId) (call : Call)
    (fee actualFee : ℕ) : Dispatch Unit := do
  let subsidiser ← withdrawFee (envs []) who call fee
  let _ ← attempt (transaction (dispatch hashes envs call (.signed who)))
  postDispatch who actualFee subsidiser

/-! ## Steps -/

/-- What happens on the chain: a transaction is included, the root calls, a task of the scheduler
that is due is run, a block begins, or time passes. -/
inductive Action
  | extrinsic (envs : Envs) (who : AccountId) (call : Call) (fee actualFee : ℕ)
  | root (envs : Envs) (call : Call)
  | task (envs : Envs) (multisig : AccountId) (proposalId : ℕ)
  | nextBlock
  | timestamp (elapsed : ℕ)

/-- The task of a proposal that is due. -/
def dueTask (multisig : AccountId) (proposalId : ℕ) (s : Storage) : Option Task :=
  s.agenda.find? fun task =>
    task.multisig = multisig ∧ task.proposalId = proposalId ∧ task.due ≤ s.blockNumber

/-- The scheduler forgets a task before it runs it. -/
def forget (task : Task) (s : Storage) : Storage := { s with agenda := s.agenda.erase task }

section Step

variable (hashes : Hashes)

def step : Action → Storage → Storage
  | .extrinsic envs who call fee actualFee, s =>
    (Tx.transaction (transact hashes envs who call fee actualFee) s).2
  | .root envs call, s => (Tx.transaction (dispatch hashes envs call .root) s).2
  | .task envs multisig proposalId, s =>
    match dueTask multisig proposalId s with
    | some task =>
      (Tx.transaction (dispatch hashes envs
        (.executeScheduledProposal multisig proposalId task.multisigDid) .root) (forget task s)).2
    | none => s
  | .nextBlock, s => { s with blockNumber := s.blockNumber + 1 }
  | .timestamp elapsed, s => { s with now := s.now + elapsed }

end Step

/-! ## Genesis -/

structure GenesisIdentity where
  did : IdentityId
  primaryKey : AccountId
  secondaryKeys : List AccountId

/-- An identity of the genesis block. It can not be built over one that exists. -/
def registerGenesis (s : Storage) (identity : GenesisIdentity) : Storage :=
  if Identity.isIdentityExists identity.did s then s
  else
    identity.secondaryKeys.foldl
      (fun s key => Identity.addKeyRecord key (.secondaryKey identity.did) s)
      (Identity.addKeyRecord identity.primaryKey (.primaryKey identity.did)
        (s.mapIdentity fun i => { i with multiPurposeNonce := i.multiPurposeNonce + 1 }))

/-- The chain before anything is registered. -/
def emptyStorage : Storage where
  identity :=
    { didRecords := fun _ => none
      keyRecords := fun _ => none
      didKeys := fun _ => false
      isDidFrozen := fun _ => false
      parentDid := fun _ => none
      accountKeyRefCount := fun _ => 0
      multiPurposeNonce := 1
      offChainAuthorizationNonce := fun _ => 0
      authorizations := fun _ => none
      cddAuthForPrimaryKeyRotation := false
      currentDid := none
      currentPayer := none }
  multisig :=
    { multiSigNonce := 1
      multiSigSigners := fun _ => false
      numberOfSigners := fun _ => 0
      multiSigSignsRequired := fun _ => 0
      multiSigTxDone := fun _ => 0
      proposals := fun _ => none
      proposalIds := fun _ => none
      votes := fun _ _ => false
      multiSigToIdentity := fun _ => none
      proposalDetail := fun _ => .default
      lostCreatorPrivileges := fun _ => false }
  subsidies := fun _ => none
  nonces := fun _ => 0
  relays := fun _ => []
  removals := []
  agenda := []
  history := []
  blockNumber := 0
  now := 0

def genesis (identities : List GenesisIdentity) : Storage :=
  identities.foldl registerGenesis emptyStorage

/-! ## A chain to run -/

/-- Hashes that are the numbers themselves. -/
def Hashes.numbers : Hashes where
  multisigAddress _ n := ⟨Fin.ofNat (2 ^ 256) n⟩
  nonce_eq {_ _ n n'} hn hn' h := by
    have hlt : ∀ m < 2 ^ 64, m % 2 ^ 256 = m := fun m hm =>
      Nat.mod_eq_of_lt (hm.trans (Nat.pow_lt_pow_right (by decide) (by decide)))
    simp only [AccountId.mk.injEq, Fin.ext_iff, Fin.val_ofNat] at h
    rwa [hlt n hn, hlt n' hn'] at h
  proposalKey _ := ⟨0⟩
  verify _ _ _ _ := true
  derivativeAccount _ index := ⟨Fin.ofNat (2 ^ 256) index⟩

theorem ofNat_ne_ofNat_add (n : ℕ) {k : ℕ} (hk : 0 < k) (hlt : k < 2 ^ 256) :
    (⟨Fin.ofNat (2 ^ 256) n⟩ : IdentityId) ≠ ⟨Fin.ofNat (2 ^ 256) (n + 7 * k)⟩ := by
  intro h
  simp only [IdentityId.mk.injEq, Fin.ext_iff, Fin.val_ofNat] at h
  have hdvd : 2 ^ 256 ∣ 7 * k := by
    have hsub := (Nat.modEq_iff_dvd' (Nat.le_add_right n (7 * k))).mp h
    rwa [Nat.add_sub_cancel_left] at hsub
  -- seven is odd
  have hcoprime : Nat.Coprime (2 ^ 256) 7 := Nat.Coprime.pow_left 256 (by decide)
  exact absurd (Nat.le_of_dvd hk (hcoprime.dvd_of_dvd_mul_left hdvd)) (Nat.not_le.mpr hlt)

/-- An environment in which everything is permitted and nothing is charged. -/
def Env.consenting : Env where
  hasExtrinsicPermission _ := true
  hasValidCdd _ := true
  isCddProvider _ := true
  permissionsLimited := true
  didOf n := ⟨Fin.ofNat (2 ^ 256) n⟩
  didOf_ne n _ hk hlt := ofNat_ne_ofNat_add n hk hlt
  signed _ := true
  belowBalanceLimit _ := true
  protocolFees := []
  withdraws _ _ := true
  succeeds := true

/-- A transaction of the account with the given bytes, where everything is permitted. -/
def Action.calls (caller : Fin (2 ^ 256)) (call : Call) : Action :=
  .extrinsic (fun _ => .consenting) ⟨caller⟩ call 1 1

end Accounts

end Polymesh
