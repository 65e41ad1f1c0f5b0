import Polymesh.Pallets.ProtocolFee

/-!
# The identity pallet

Keys are linked to identities, as the primary key or as secondary keys
(`pallets/identity/src/keys.rs`). Who wants another to do something hands out an authorization, which
is consumed when it is accepted (`pallets/identity/src/auth.rs`).
-/

namespace Polymesh

open Transactional Tx
open Function (update)
open Tx (ensure read)

namespace Accounts

open Storage (mapIdentity)

def ensureSigned : Origin → Except Error AccountId
  | .signed account => .ok account
  | .root => .error .badOrigin

def ensureRoot (origin : Origin) : Except Error Unit := ensure (origin = .root) .badOrigin

namespace Identity

/-! ## Keys -/

variable (env : Env) (did : IdentityId) (origin : Origin) (key : AccountId) (s : Storage)

def isIdentityExists : Bool := (s.identity.didRecords did).isSome

/-- The identity of a key that is the primary key or is not frozen. -/
def getIdentity : Option IdentityId :=
  match s.identity.keyRecords key with
  | some (.primaryKey did) => some did
  | some (.secondaryKey did) => if s.identity.isDidFrozen did then none else some did
  | _ => none

def getPrimaryKey : Option AccountId :=
  (s.identity.didRecords did).join

def isPrimaryKey : Bool :=
  getPrimaryKey did s = some key

/-- Whether a key is linked to an identity, and whether to a multisig. -/
def isKeyLinked : Bool × Bool :=
  match s.identity.keyRecords key with
  | some (.primaryKey _) | some (.secondaryKey _) => (true, false)
  | some (.multiSigSignerKey _) => (false, true)
  | none => (false, false)

def ensureKeyUnlinkableFromDid : Except Error Unit := do
  ensure (s.identity.accountKeyRefCount key = 0) .accountKeyIsBeingUsed
  onlyIf (s.multisig.multiSigToIdentity key).isSome
    (ensure (env.belowBalanceLimit key) .multiSigHasBalance)

def canAddKeyRecord : Bool := (s.identity.keyRecords key).isNone

def ensureKeyDidUnlinked : Except Error Unit :=
  ensure (canAddKeyRecord key s) .alreadyLinked

def putKeyRecord (record : Option KeyRecord) : Storage → Storage :=
  mapIdentity fun i =>
    { i with keyRecords := update i.keyRecords key record }

def putDidKey (linked : Bool) : Storage → Storage :=
  mapIdentity fun i =>
    { i with didKeys := update i.didKeys (did, key) linked }

def putPrimaryKey (key : Option AccountId) : Storage → Storage :=
  mapIdentity fun i =>
    { i with didRecords := update i.didRecords did (some key) }

/-- Link a key, unless it is linked already. -/
def addKeyRecord (record : KeyRecord) (s : Storage) : Storage :=
  if canAddKeyRecord key s then
    match record with
    | .primaryKey did =>
      putPrimaryKey did (some key) (putDidKey did key true (putKeyRecord key (some record) s))
    | .secondaryKey did => putDidKey did key true (putKeyRecord key (some record) s)
    | .multiSigSignerKey _ => putKeyRecord key (some record) s
  else s

/-- Clear the primary key of an identity if it is the given one. -/
def clearPrimaryKey : Storage :=
  if s.identity.didRecords did = some (some key) then putPrimaryKey did none s else s

/-- Unlink a key from the identity, or from its multisig if none is given. -/
def removeKeyRecord (did : Option IdentityId) (s : Storage) : Storage :=
  match s.identity.keyRecords key with
  | some (.primaryKey did₁) =>
    if did = some did₁ then
      putKeyRecord key none (putDidKey did₁ key false (clearPrimaryKey did₁ key s))
    else s
  | some (.secondaryKey did₁) =>
    if did = some did₁ then putKeyRecord key none (putDidKey did₁ key false s) else s
  | some (.multiSigSignerKey _) => if did = none then putKeyRecord key none s else s
  | none => s

def ensureSecondaryKey : Except Error Unit :=
  ensure (s.identity.keyRecords key = some (.secondaryKey did)) .notASigner

def ensurePrimaryKey : Except Error (AccountId × IdentityId) := do
  let sender ← ensureSigned origin
  match s.identity.keyRecords sender with
  | none => .error .unauthorizedCaller
  | some (.primaryKey did) => return (sender, did)
  | some _ => .error .keyNotAllowed

/-! ## Who calls -/

def currentIdentityOr : Except Error IdentityId :=
  okOr (s.identity.currentDid.or (getIdentity key s)) .other

def ensureDid : Except Error (AccountId × IdentityId) := do
  let sender ← ensureSigned origin
  return (sender, ← currentIdentityOr sender s)

def checkAccountCallPermissions (who : AccountId) (s : Storage) : Option IdentityId :=
  match s.identity.keyRecords who with
  | some (.primaryKey did) => some did
  | some (.secondaryKey did) =>
    if !s.identity.isDidFrozen did && env.hasExtrinsicPermission who then some did else none
  | _ => none

def ensureCallPermissions (who : AccountId) (s : Storage) : Except Error IdentityId :=
  okOr (checkAccountCallPermissions env who s) .unauthorizedCaller

def ensureOriginCallPermissions : Except Error (AccountId × IdentityId) := do
  let sender ← ensureSigned origin
  return (sender, ← ensureCallPermissions env sender s)

def ensurePerms : Except Error IdentityId :=
  Prod.snd <$> ensureOriginCallPermissions env origin s

def setCurrentIdentity (did : Option IdentityId) : Storage → Storage :=
  mapIdentity fun i => { i with currentDid := did }

def setCurrentPayer (payer : Option AccountId) : Storage → Storage :=
  mapIdentity fun i => { i with currentPayer := payer }

/-! ## Authorizations -/

/-- The number of times that a new authorization may be tried. -/
def initialCount : ℕ := 50

def putAuthorization (target : Signatory) (authId : ℕ) (auth : Option Authorization) :
    Storage → Storage :=
  mapIdentity fun i =>
    { i with authorizations := update i.authorizations (target, authId) auth }

def addAuth (from_ : IdentityId) (target : Signatory) (data : AuthorizationData)
    (expiry : Option Moment) (s : Storage) : Storage :=
  let nonce := s.identity.multiPurposeNonce + 1
  putAuthorization target nonce (some ⟨data, from_, expiry, initialCount⟩)
    (s.mapIdentity fun i => { i with multiPurposeNonce := nonce })

def ensureAuthorization (target : Signatory) (authId : ℕ) (s : Storage) :
    Except Error Authorization :=
  okOr (s.identity.authorizations (target, authId)) .authInvalid

/-- The authorization, if it is present and has not expired. -/
def getNonExpiredAuth (target : Signatory) (authId : ℕ) (s : Storage) : Option Authorization :=
  (s.identity.authorizations (target, authId)).filter fun auth =>
    (auth.expiry.filter fun expiry => expiry < s.now).isNone

def ensureNotExpired (expiry : Option Moment) (s : Storage) : Except Error Unit :=
  ensure (∀ e ∈ expiry, s.now < e) .authExpired

/-- What becomes of an authorization that was tried: it is consumed, or it may be tried once less. -/
def settleAuth (target : Signatory) (authId : ℕ) (auth : Authorization) :
    Except Error Unit → Dispatch Unit
  | .ok _ => Tx.modify (putAuthorization target authId none)
  | .error e => do
    Tx.modify (putAuthorization target authId
      (if auth.count - 1 = 0 then none else some { auth with count := auth.count - 1 }))
    fail e

def acceptAuthWith (target : Signatory) (authId : ℕ)
    (accepter : AuthorizationData → IdentityId → Dispatch Unit) : Dispatch Unit := do
  let auth ← read (ensureAuthorization target authId)
  read (ensureNotExpired auth.expiry)
  let res ← attempt (accepter auth.data auth.authorizedBy)
  settleAuth target authId auth res

def ensureAuthBy (authBy from_ : IdentityId) : Except Error Unit :=
  ensure (authBy = from_) .authUnauthorized

/-- The authorizations that hand out permissions. -/
def givesPermissions (data : AuthorizationData) : Prop :=
  data = .joinIdentity ∨ data = .rotatePrimaryKeyToSecondary

instance (data : AuthorizationData) : Decidable (givesPermissions data) :=
  inferInstanceAs (Decidable (_ ∨ _))

def baseAddAuthorization (target : Signatory) (data : AuthorizationData) (expiry : Option Moment) :
    Dispatch Unit := do
  let fromDid ← read (ensurePerms env origin)
  onlyIf (givesPermissions data) (ensure env.permissionsLimited .tooLong)
  Tx.modify (addAuth fromDid target data expiry)

/-- The identity of who removes an authorization. -/
def removerDid (sender : AccountId) (s : Storage) : Except Error IdentityId :=
  if canAddKeyRecord sender s then currentIdentityOr sender s else ensureCallPermissions env sender s

def baseRemoveAuthorization (target : Signatory) (authId : ℕ) : Dispatch Unit := do
  let sender ← read fun _ => ensureSigned origin
  let fromDid ← read (removerDid env sender)
  let auth ← read (ensureAuthorization target authId)
  ensure (auth.authorizedBy = fromDid ∨ target = .identity fromDid ∨ target = .account sender)
    .unauthorized
  Tx.modify (putAuthorization target authId none)

/-! ## Rotation of the primary key -/

/-- The key becomes the primary key. A secondary key keeps its place among the keys. -/
def promote (isSecondaryKey : Bool) (s : Storage) : Storage :=
  if isSecondaryKey then putPrimaryKey did (some key) (putKeyRecord key (some (.primaryKey did)) s)
  else addKeyRecord key (.primaryKey did) s

/-- The old primary key becomes a secondary key, or is unlinked. -/
def retire (toSecondary : Bool) (s : Storage) : Storage :=
  if toSecondary then putKeyRecord key (some (.secondaryKey did)) s
  else removeKeyRecord key (some did) s

/-- Accept the authorization of a provider of customer due diligence. -/
def acceptAttestation (optionalCddAuthId : Option ℕ) : Dispatch Unit := do
  let authId ← read fun _ => okOr optionalCddAuthId .invalidAuthorizationFromCddProvider
  acceptAuthWith (.account key) authId fun data authBy => do
    let attestationForDid ← read fun _ => match data with
      | .attestPrimaryKeyRotation a => .ok a
      | _ => .error .authBadType
    ensure (env.isCddProvider authBy) .notCddProviderAttestation
    ensure (did = attestationForDid) .authorizationsNotForSameDids

def commonRotatePrimaryKey (targetDid : IdentityId) (newPrimaryKey : AccountId)
    (toSecondary : Bool) (optionalCddAuthId : Option ℕ) : Dispatch Unit := do
  let s ← get
  let oldPrimaryKey ← read fun _ => okOr (getPrimaryKey targetDid s) .invalidAccountKey
  let isSecondaryKey :=
    decide (s.identity.keyRecords newPrimaryKey = some (.secondaryKey targetDid))
  ensure (s.identity.keyRecords newPrimaryKey = none ∨ isSecondaryKey) .alreadyLinked
  onlyIf (¬ toSecondary) (read (ensureKeyUnlinkableFromDid env oldPrimaryKey))
  onlyIf s.identity.cddAuthForPrimaryKeyRotation
    (acceptAttestation env targetDid newPrimaryKey optionalCddAuthId)
  Tx.modify (promote targetDid newPrimaryKey isSecondaryKey)
  Tx.modify (retire targetDid oldPrimaryKey toSecondary)

/-- Accept to become the primary key. -/
def acceptRotation (rotationAuthId : ℕ) (optionalCddAuthId : Option ℕ)
    (expected : AuthorizationData) (toSecondary : Bool) : Dispatch Unit := do
  let sender ← read fun _ => ensureSigned origin
  acceptAuthWith (.account sender) rotationAuthId fun data targetDid => do
    ensure (data = expected) .authBadType
    commonRotatePrimaryKey env targetDid sender toSecondary optionalCddAuthId

def acceptPrimaryKeyRotation (rotationAuthId : ℕ) (optionalCddAuthId : Option ℕ) : Dispatch Unit :=
  acceptRotation env origin rotationAuthId optionalCddAuthId .rotatePrimaryKey false

def baseRotatePrimaryKeyToSecondary (rotationAuthId : ℕ) (optionalCddAuthId : Option ℕ) :
    Dispatch Unit :=
  acceptRotation env origin rotationAuthId optionalCddAuthId .rotatePrimaryKeyToSecondary true

/-! ## Registration and child identities -/

def makeDid : Dispatch IdentityId := do
  Tx.modify (mapIdentity fun i => { i with multiPurposeNonce := i.multiPurposeNonce + 7 })
  let s ← get
  let did := env.didOf s.identity.multiPurposeNonce
  ensure (!isIdentityExists did s) .didAlreadyExists
  return did

def registerDid (sender : AccountId) (secondaryKeys : List AccountId) : Dispatch Unit := do
  read (ensureKeyDidUnlinked sender)
  ensure (sender ∉ secondaryKeys) .secondaryKeysContainPrimaryKey
  let did ← makeDid env
  read fun s => secondaryKeys.forM (ensureKeyDidUnlinked · s)
  ProtocolFee.chargeFees env
  Tx.modify (addKeyRecord sender (.primaryKey did))
  forM secondaryKeys fun key => Tx.modify (addAuth did (.account key) .joinIdentity none)

def baseCddRegisterDid (targetAccount : AccountId) (secondaryKeys : List AccountId) :
    Dispatch Unit := do
  let cddDid ← read (ensurePerms env origin)
  ensure (env.isCddProvider cddDid) .unAuthorizedCddProvider
  ensure (secondaryKeys = [] ∨ env.permissionsLimited) .tooLong
  registerDid env targetAccount secondaryKeys

def setParent (child : IdentityId) (parent : Option IdentityId) : Storage → Storage :=
  mapIdentity fun i => { i with parentDid := update i.parentDid child parent }

def ensureNoParent : Except Error Unit :=
  ensure (s.identity.parentDid did).isNone .isChildIdentity

def unverifiedCreateChildIdentity (parentDid : IdentityId) : Dispatch Unit := do
  ProtocolFee.chargeFees env
  let childDid ← makeDid env
  Tx.modify (addKeyRecord key (.primaryKey childDid))
  Tx.modify (setParent childDid (some parentDid))

def baseCreateChildIdentity (secondaryKey : AccountId) : Dispatch Unit := do
  let (_, parentDid) ← read (ensurePrimaryKey origin)
  read (ensureNoParent parentDid)
  read (ensureSecondaryKey parentDid secondaryKey)
  read (ensureKeyUnlinkableFromDid env secondaryKey)
  Tx.modify (removeKeyRecord secondaryKey (some parentDid))
  unverifiedCreateChildIdentity env secondaryKey parentDid

/-- The keys are unlinked, have signed, and none is given twice. -/
def ensureChildKeys (env : Env) (s : Storage) : List AccountId → List AccountId → Except Error Unit
  | _, [] => .ok ()
  | seen, key :: keys => do
    ensureKeyDidUnlinked key s
    ensure (key ∉ seen) .duplicateKey
    ensure (env.signed key) .invalidAuthorizationSignature
    ensureChildKeys env s (key :: seen) keys

/-- A new identity for each of the keys. -/
def makeDids (env : Env) : List AccountId → Dispatch (List (AccountId × IdentityId))
  | [] => return []
  | key :: keys => do
    let did ← makeDid env
    let children ← makeDids env keys
    return (key, did) :: children

def nextOffChainNonce : Storage → Storage :=
  mapIdentity fun i =>
    { i with offChainAuthorizationNonce :=
        update i.offChainAuthorizationNonce did (i.offChainAuthorizationNonce did + 1) }

def baseCreateChildIdentities (childKeys : List AccountId) (expiresAt : Moment) :
    Dispatch Unit := do
  let (_, parentDid) ← read (ensurePrimaryKey origin)
  read (ensureNoParent parentDid)
  read fun s => ensure (s.now < expiresAt) .authorizationExpired
  read fun s => ensureChildKeys env s [] childKeys
  ProtocolFee.chargeFees env
  let children ← makeDids env childKeys
  Tx.modify (nextOffChainNonce parentDid)
  forM children fun (key, childDid) => do
    Tx.modify (addKeyRecord key (.primaryKey childDid))
    Tx.modify (setParent childDid (some parentDid))

def baseUnlinkChildIdentity (childDid : IdentityId) : Dispatch Unit := do
  let (_, callerDid) ← read (ensurePrimaryKey origin)
  let parentDid ← read fun s => okOr (s.identity.parentDid childDid) .noParentIdentity
  ensure (callerDid = parentDid ∨ callerDid = childDid) .notParentOrChildIdentity
  Tx.modify (setParent childDid none)

/-! ## Secondary keys -/

def baseSetSecondaryKeyPermissions : Dispatch Unit := do
  let (_, did) ← read (ensurePrimaryKey origin)
  read (ensureSecondaryKey did key)
  ensure env.permissionsLimited .tooLong

def baseRemoveSecondaryKeys (keys : List AccountId) : Dispatch Unit := do
  let (_, did) ← read (ensurePrimaryKey origin)
  read fun s => keys.forM fun key => do
    ensureSecondaryKey did key s
    ensureKeyUnlinkableFromDid env key s
  forM keys fun key => Tx.modify (removeKeyRecord key (some did))

def baseAddSecondaryKeysWithAuthorization (keys : List AccountId) (expiresAt : Moment) :
    Dispatch Unit := do
  let (_, did) ← read (ensurePrimaryKey origin)
  read fun s => ensure (s.now < expiresAt) .authorizationExpired
  read fun s => keys.forM fun key => do
    ensure env.permissionsLimited .tooLong
    ensureKeyDidUnlinked key s
    ensure (env.signed key) .invalidAuthorizationSignature
  ProtocolFee.chargeFees env
  forM keys fun key => Tx.modify (addKeyRecord key (.secondaryKey did))
  Tx.modify (nextOffChainNonce did)

def unsafeJoinIdentity (targetDid : IdentityId) (key : AccountId) : Storage → Storage :=
  addKeyRecord key (.secondaryKey targetDid)

def joinIdentity (authId : ℕ) : Dispatch Unit := do
  let key ← read fun _ => ensureSigned origin
  acceptAuthWith (.account key) authId fun data targetDid => do
    ensure (data = .joinIdentity) .authBadType
    read fun s => ensure (isIdentityExists targetDid s) .didDoesNotExist
    read (ensureKeyDidUnlinked key)
    ensure (env.hasValidCdd targetDid) .targetHasNoCdd
    ProtocolFee.chargeFees env
    Tx.modify (setCurrentIdentity (some targetDid))
    Tx.modify (unsafeJoinIdentity targetDid key)

def leaveIdentity : Dispatch Unit := do
  let (key, did) ← read (ensureDid origin)
  read (ensureSecondaryKey did key)
  read (ensureKeyUnlinkableFromDid env key)
  Tx.modify (removeKeyRecord key (some did))

def setFrozenSecondaryKeyFlags (freeze : Bool) : Dispatch Unit := do
  let (_, did) ← read (ensurePrimaryKey origin)
  Tx.modify (mapIdentity fun i =>
    { i with isDidFrozen := update i.isDidFrozen did freeze })

def changeCddRequirementForMkRotation (authRequired : Bool) : Dispatch Unit := do
  read fun _ => ensureRoot origin
  Tx.modify (mapIdentity fun i => { i with cddAuthForPrimaryKeyRotation := authRequired })

end Identity

end Accounts

end Polymesh
