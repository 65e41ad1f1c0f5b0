import Polymesh.Pallets.Identity

/-!
# The multisig pallet

A multisig is an account for which several signers act together (`pallets/multisig/src/lib.rs`). A
signer proposes a call, the others approve or reject it, and when enough of them have approved, its
execution is scheduled for the next block. How the call is run is a parameter.
-/

namespace Polymesh

open Transactional Tx
open Function (update)
open Tx (read)

namespace Accounts.MultiSig

/-! ## Checks -/

variable (hashes : Hashes) (env : Env) (origin : Origin) (multisig : AccountId) (signer : Signatory)

def ensureSignedAcc : Except Error Signatory :=
  Signatory.account <$> ensureSigned origin

def ensurePermsSignedDid (s : Storage) : Except Error Signatory :=
  Signatory.identity <$> Identity.ensurePerms env origin s

def ensureMs (s : Storage) : Except Error Unit :=
  ensure (s.multisig.multiSigToIdentity multisig).isSome .noSuchMultisig

/-- The identity of a multisig, or the default identity if there is none. -/
def msToIdentity (s : Storage) : IdentityId :=
  (s.multisig.multiSigToIdentity multisig).getD ⟨0⟩

def ensureMsSigner (s : Storage) : Except Error Unit :=
  ensure (s.multisig.multiSigSigners (multisig, signer)) .notASigner

def verifySenderIsCreator (senderDid : IdentityId) (multisig : AccountId) (s : Storage) :
    Except Error Unit := do
  ensure (s.multisig.multiSigToIdentity multisig).isSome .multisigMissingIdentity
  ensure (msToIdentity multisig s = senderDid) .identityNotCreator

def ensureMsCreator (s : Storage) : Except Error IdentityId := do
  let (sender, did) ← Identity.ensureDid origin s
  verifySenderIsCreator did multisig s
  ensure (Identity.isPrimaryKey did sender s) .notPrimaryKey
  return did

def ensureSigsInBounds (signers : List Signatory) (required : ℕ) : Except Error Unit := do
  ensure (signers ≠ []) .noSigners
  ensure (required ≤ signers.length ∧ 0 < required) .requiredSignaturesOutOfBounds

def isChangingSignersAllowed (s : Storage) : Bool :=
  !(s.identity.cddAuthForPrimaryKeyRotation &&
    (Identity.getIdentity multisig s).any fun did => Identity.isPrimaryKey did multisig s)

/-- The creator still has the controls. -/
def ensureCreatorControls (callerDid : IdentityId) (s : Storage) : Except Error Unit :=
  ensure (!s.multisig.lostCreatorPrivileges callerDid) .creatorControlsHaveBeenRemoved

/-! ## Signers -/

def putSigner (isSigner : Bool) : Storage → Storage :=
  Storage.mapMultisig fun m =>
    { m with multiSigSigners := update m.multiSigSigners (multisig, signer) isSigner }

def putNumberOfSigners (number : ℕ) : Storage → Storage :=
  Storage.mapMultisig fun m =>
    { m with numberOfSigners := update m.numberOfSigners multisig number }

def unsafeChangeSigsRequired (sigsRequired : ℕ) : Storage → Storage :=
  Storage.mapMultisig fun m =>
    { m with multiSigSignsRequired :=
        update m.multiSigSignsRequired multisig sigsRequired }

def unsafeAddAuthForSigners (multisigOwner : IdentityId) (target : Signatory)
    (multisig : AccountId) : Storage → Storage :=
  Identity.addAuth multisigOwner target (.addMultiSigSigner multisig) none

/-- Unlink the key of a signer. -/
def unlinkSigner : Signatory → Storage → Storage
  | .account key, s => Identity.removeKeyRecord key none s
  | .identity _, s => s

def unsafeSignerRemoval (s : Storage) : Storage :=
  putSigner multisig signer false (unlinkSigner signer s)

/-- Write a new multisig, with the identity of its creator. -/
def putMultisig (did : IdentityId) (sigsRequired : ℕ) : Storage → Storage :=
  Storage.mapMultisig fun m =>
    { m with
      multiSigSignsRequired := update m.multiSigSignsRequired multisig sigsRequired
      multiSigToIdentity := update m.multiSigToIdentity multisig (some did) }

def createMultisigAccount (sender : AccountId) (signers : List Signatory) (sigsRequired : ℕ) :
    Dispatch Unit := do
  let senderDid ← read (Identity.currentIdentityOr sender)
  let newNonce ← read fun s => okOr (checkedAdd 64 s.multisig.multiSigNonce 1) .nonceOverflow
  Tx.modify (Storage.mapMultisig fun m => { m with multiSigNonce := newNonce })
  let accountId := hashes.multisigAddress sender newNonce
  forM signers fun signer => Tx.modify (unsafeAddAuthForSigners senderDid signer accountId)
  Tx.modify (putMultisig accountId senderDid sigsRequired)

def createMultisig (signers : List Signatory) (sigsRequired : ℕ) : Dispatch Unit := do
  let (sender, _) ← read (Identity.ensureOriginCallPermissions env origin)
  read fun _ => ensureSigsInBounds signers sigsRequired
  createMultisigAccount hashes sender signers sigsRequired

/-- The key of a new signer is linked to nothing, and is not the multisig itself. -/
def ensureKeyMaySign (key : AccountId) (s : Storage) : Except Error Unit := do
  ensure (!(Identity.isKeyLinked key s).1) .signerAlreadyLinkedToIdentity
  ensure (!(Identity.isKeyLinked key s).2) .signerAlreadyLinkedToMultisig
  ensure (key ≠ multisig) .multisigNotAllowedToLinkToItself

/-- Signers are keys: identities are not accepted any more. -/
def unsafeAcceptMultisigSigner (key : AccountId) (authId : ℕ) : Dispatch Unit :=
  Identity.acceptAuthWith (.account key) authId fun data authBy => do
    let multisig ← read fun _ => match data with
      | .addMultiSigSigner multisig => .ok multisig
      | _ => .error .authBadType
    read (ensureMs multisig)
    read fun s => ensure (isChangingSignersAllowed multisig s) .changeNotAllowed
    read fun s =>
      ensure (!s.multisig.multiSigSigners (multisig, .account key)) .alreadyASigner
    read (ensureKeyMaySign multisig key)
    read fun s => Identity.ensureAuthBy (msToIdentity multisig s) authBy
    Tx.modify (putSigner multisig (.account key) true)
    Tx.modify fun s =>
      putNumberOfSigners multisig (s.multisig.numberOfSigners multisig + 1) s
    Tx.modify (Identity.addKeyRecord key (.multiSigSignerKey multisig))

def acceptMultisigSignerAsKey (authId : ℕ) : Dispatch Unit := do
  let key ← read fun _ => ensureSigned origin
  unsafeAcceptMultisigSigner key authId

def acceptMultisigSignerAsIdentity (_authId : ℕ) : Dispatch Unit := do
  let _ ← read fun _ => ensureSigned origin
  fail .notASigner

def addMultisigSigner : Dispatch Unit := do
  let sender ← read fun _ => ensureSigned origin
  read (ensureMs sender)
  Tx.modify fun s => unsafeAddAuthForSigners (msToIdentity sender s) signer sender s

def removeMultisigSigner : Dispatch Unit := do
  let sender ← read fun _ => ensureSigned origin
  read (ensureMs sender)
  read (ensureMsSigner sender signer)
  read fun s => ensure
    (s.multisig.multiSigSignsRequired sender < s.multisig.numberOfSigners sender) .notEnoughSigners
  read fun s => ensure (isChangingSignersAllowed sender s) .changeNotAllowed
  Tx.modify fun s => putNumberOfSigners sender (s.multisig.numberOfSigners sender - 1) s
  Tx.modify (unsafeSignerRemoval sender signer)

def addMultisigSignersViaCreator (signers : List Signatory) : Dispatch Unit := do
  let callerDid ← read (ensureMsCreator origin multisig)
  read (ensureCreatorControls callerDid)
  forM signers fun signer => Tx.modify (unsafeAddAuthForSigners callerDid signer multisig)

def removeMultisigSignersViaCreator (signers : List Signatory) : Dispatch Unit := do
  let callerDid ← read (ensureMsCreator origin multisig)
  read (ensureCreatorControls callerDid)
  read fun s => ensure (isChangingSignersAllowed multisig s) .changeNotAllowed
  let pending ← read fun s =>
    okOr (checkedSub (s.multisig.numberOfSigners multisig) signers.length) .tooManySigners
  read fun s => ensure (s.multisig.multiSigSignsRequired multisig ≤ pending) .notEnoughSigners
  read fun s => signers.forM (ensureMsSigner multisig · s)
  forM signers fun signer => Tx.modify (unsafeSignerRemoval multisig signer)
  Tx.modify (putNumberOfSigners multisig pending)

def baseChangeMultisigRequiredSignatures (signaturesRequired : ℕ) : Dispatch Unit := do
  read fun s => ensure (signaturesRequired ≤ s.multisig.numberOfSigners multisig)
    .notEnoughSigners
  read fun s => ensure (isChangingSignersAllowed multisig s) .changeNotAllowed
  Tx.modify (unsafeChangeSigsRequired multisig signaturesRequired)

def changeSigsRequired (sigsRequired : ℕ) : Dispatch Unit := do
  let account ← read fun _ => ensureSigned origin
  read (ensureMs account)
  baseChangeMultisigRequiredSignatures account sigsRequired

def changeSigsRequiredViaCreator (signaturesRequired : ℕ) : Dispatch Unit := do
  let callerDid ← read (ensureMsCreator origin multisig)
  read (ensureCreatorControls callerDid)
  baseChangeMultisigRequiredSignatures multisig signaturesRequired

/-- The creator has given up control, which is noted. -/
def baseRemoveCreatorControls (creatorDid : IdentityId) (s : Storage) : Storage :=
  { s.mapMultisig fun m =>
      { m with lostCreatorPrivileges := update m.lostCreatorPrivileges creatorDid true } with
    removals := s.removals ++ [(multisig, creatorDid)] }

def removeCreatorControls : Dispatch Unit := do
  let callerDid ← read (ensureMsCreator origin multisig)
  Tx.modify (baseRemoveCreatorControls multisig callerDid)

def makeMultisigSecondary : Dispatch Unit := do
  let did ← read (Identity.ensurePerms env origin)
  read (ensureMs multisig)
  read (verifySenderIsCreator did multisig)
  read (Identity.ensureKeyDidUnlinked multisig)
  Tx.modify (Identity.unsafeJoinIdentity did multisig)

def makeMultisigPrimary (optionalCddAuthId : Option ℕ) : Dispatch Unit := do
  let did ← read (ensureMsCreator origin multisig)
  read (ensureMs multisig)
  Identity.commonRotatePrimaryKey env did multisig false optionalCddAuthId

/-! ## Proposals -/

def putProposalDetail (proposalId : ℕ) (details : ProposalDetails) : Storage → Storage :=
  Storage.mapMultisig fun m =>
    { m with proposalDetail := update m.proposalDetail (multisig, proposalId) details }

def putVote (proposalId : ℕ) (signer : Signatory) : Storage → Storage :=
  Storage.mapMultisig fun m =>
    { m with
      votes := update m.votes (multisig, proposalId)
        (update (m.votes (multisig, proposalId)) signer true) }

def putProposalId (key : Hash) (proposalId : ℕ) : Storage → Storage :=
  Storage.mapMultisig fun m =>
    { m with proposalIds := update m.proposalIds (multisig, key) (some proposalId) }

/-- Schedule the execution of a proposal for the next block, unless it is scheduled already. -/
def schedule (proposalId : ℕ) (s : Storage) : Storage :=
  if s.agenda.any fun task => task.multisig = multisig ∧ task.proposalId = proposalId then s
  else
    { s with agenda := s.agenda ++
        [⟨multisig, proposalId, msToIdentity multisig s, s.blockNumber + 1⟩] }

/-- A proposal can be voted on: it exists, is open, and has not expired. -/
def ensureOpen (details : ProposalDetails) (s : Storage) : Except Error Unit :=
  match details.status with
  | .invalid => .error .proposalMissing
  | .rejected => .error .proposalAlreadyRejected
  | .executionSuccessful | .executionFailed => .error .proposalAlreadyExecuted
  | .activeOrExpired => ensure (∀ e ∈ details.expiry, s.now < e) .proposalExpired

def unsafeApprove (proposalId : ℕ) : Dispatch Unit := do
  read (ensureMsSigner multisig signer)
  read fun s => ensure (!s.multisig.votes (multisig, proposalId) signer) .alreadyVoted
  read fun s => ensure (s.multisig.proposals (multisig, proposalId)).isSome .proposalMissing
  let s ← get
  let details := s.multisig.proposalDetail (multisig, proposalId)
  let required := s.multisig.multiSigSignsRequired multisig
  read (ensureOpen details)
  onlyIf (required ≤ details.approvals + 1) (Tx.modify (schedule multisig proposalId))
  Tx.modify (putVote multisig proposalId signer)
  Tx.modify (putProposalDetail multisig proposalId
    { details with approvals := details.approvals + 1 })
  Tx.modify (Storage.deposit
    (.approved multisig proposalId signer (details.approvals + 1) required))

/-- Enough signers reject that the rest of them can not approve. -/
def closes (details : ProposalDetails) (multisig : AccountId) (s : Storage) : Bool :=
  details.autoClose && decide (s.multisig.numberOfSigners multisig -
    s.multisig.multiSigSignsRequired multisig < details.rejections)

def unsafeReject (proposalId : ℕ) : Dispatch Unit := do
  read (ensureMsSigner multisig signer)
  read fun s => ensure (!s.multisig.votes (multisig, proposalId) signer) .alreadyVoted
  let s ← get
  let old := s.multisig.proposalDetail (multisig, proposalId)
  let details := { old with rejections := old.rejections + 1 }
  read (ensureOpen details)
  onlyIf (closes details multisig s) (Tx.modify (Storage.deposit (.rejected multisig proposalId)))
  Tx.modify (putVote multisig proposalId signer)
  Tx.modify (putProposalDetail multisig proposalId
    (if closes details multisig s then { details with status := .rejected } else details))

/-- Write a new proposal. -/
def putProposal (proposalId : ℕ) (proposal : Call) (expiry : Option Moment) (autoClose : Bool) :
    Storage → Storage :=
  Storage.mapMultisig fun m =>
    { m with
      proposals := update m.proposals (multisig, proposalId) (some proposal)
      proposalDetail := update m.proposalDetail (multisig, proposalId)
        (.new expiry autoClose)
      multiSigTxDone := update m.multiSigTxDone multisig (proposalId + 1) }

def createProposal (proposal : Call) (expiry : Option Moment) (autoClose proposalToId : Bool) :
    Dispatch Unit := do
  read (ensureMsSigner multisig signer)
  let s ← get
  let proposalId := s.multisig.multiSigTxDone multisig
  onlyIf proposalToId
    (Tx.modify (putProposalId multisig (hashes.proposalKey proposal) proposalId))
  Tx.modify (putProposal multisig proposalId proposal expiry autoClose)
  unsafeApprove multisig signer proposalId

def createOrApproveProposal (proposal : Call) (expiry : Option Moment) (autoClose : Bool) :
    Dispatch Unit := do
  let s ← get
  match s.multisig.proposalIds (multisig, hashes.proposalKey proposal) with
  | some proposalId => unsafeApprove multisig signer proposalId
  | none => createProposal hashes multisig signer proposal expiry autoClose true

/-! ## Execution -/

def setStatus (proposalId : ℕ) (status : ProposalStatus) (s : Storage) : Storage :=
  putProposalDetail multisig proposalId
    { (s.multisig.proposalDetail (multisig, proposalId)) with status := status } s

/-- Run the call of a proposal, and keep how that went. -/
def runProposal (run : Call → Dispatch Unit) (multisig : AccountId) (proposalId : ℕ)
    (proposal : Call) : Dispatch Unit := do
  match ← attempt (transaction (run proposal)) with
  | .ok _ =>
    Tx.modify (setStatus multisig proposalId .executionSuccessful)
    Tx.modify (Storage.deposit (.executed multisig proposalId true))
  | .error _ =>
    Tx.modify (setStatus multisig proposalId .executionFailed)
    Tx.modify (Storage.deposit (.executed multisig proposalId false))

/-- The call is run as one of the multisig, whatever has become of the proposal meanwhile. -/
def executeProposal (run : Call → Dispatch Unit) (multisig : AccountId) (proposalId : ℕ)
    (multisigDid : IdentityId) : Dispatch Unit := do
  Tx.ensure (env.hasValidCdd multisigDid) .cddMissing
  Tx.modify (Identity.setCurrentIdentity (some multisigDid))
  Tx.modify fun s => Identity.setCurrentPayer (Identity.getPrimaryKey multisigDid s) s
  let s ← get
  match s.multisig.proposals (multisig, proposalId) with
  | some proposal => runProposal run multisig proposalId proposal
  | none => return ()

end Accounts.MultiSig

end Polymesh
