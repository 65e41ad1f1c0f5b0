import Polymesh.Pallets.Identity

/-!
# The relayer pallet

A paying key offers a user key to pay its fees up to a limit; the user key accepts, and either may
end it (`pallets/relayer/src/lib.rs`).
-/

namespace Polymesh

open Transactional Tx

namespace Accounts.Relayer

inductive UpdateAction
  | set
  | add
  | sub

def addAccountKeyRefCount (key : AccountId) : Storage → Storage :=
  Storage.mapIdentity fun i =>
    { i with accountKeyRefCount :=
        Function.update i.accountKeyRefCount key (saturatingAdd 64 (i.accountKeyRefCount key) 1) }

def removeAccountKeyRefCount (key : AccountId) : Storage → Storage :=
  Storage.mapIdentity fun i =>
    { i with accountKeyRefCount :=
        Function.update i.accountKeyRefCount key (i.accountKeyRefCount key - 1) }

variable (env : Env) (origin : Origin) (userKey : AccountId)

def baseSetPayingKey (polyxLimit : ℕ) : Dispatch Unit := do
  let (payingKey, payingDid) ← Tx.read (Identity.ensureOriginCallPermissions env origin)
  Tx.modify (Identity.addAuth payingDid (.account userKey)
    (.addRelayerPayingKey userKey payingKey polyxLimit) none)

def keyHasValidCdd (key : AccountId) (s : Storage) : Bool :=
  match Identity.getIdentity key s with
  | some did => env.hasValidCdd did
  | none => false

def ensureIsPayingKey (payingKey : AccountId) (s : Storage) : Except Error Subsidy :=
  match s.subsidies userKey with
  | none => .error .noPayingKey
  | some subsidy => if subsidy.payingKey = payingKey then .ok subsidy else .error .notPayingKey

/-- The accounts in use when a subsidy takes the place of another, or of none. -/
def switchPayingKey (old : Option Subsidy) (s : Storage) : Storage :=
  match old with
  | some subsidy =>
    (removeAccountKeyRefCount subsidy.payingKey s).deposit
      (.removedPayingKey userKey subsidy.payingKey)
  | none => addAccountKeyRefCount userKey s

def authAcceptPayingKey (userDid from_ : IdentityId) (userKey payingKey : AccountId)
    (polyxLimit : ℕ) : Dispatch Unit := do
  Tx.read fun s => ensure (Identity.getIdentity payingKey s = some from_) .notAuthorizedForPayingKey
  Tx.ensure (env.hasValidCdd userDid) .userKeyCddMissing
  Tx.read fun s => ensure (keyHasValidCdd env payingKey s) .payingKeyCddMissing
  Tx.modify fun s => switchPayingKey userKey (s.subsidies userKey) s
  Tx.modify (addAccountKeyRefCount payingKey)
  Tx.modify (setSubsidy userKey (some ⟨payingKey, polyxLimit⟩))

def baseAcceptPayingKey (authId : ℕ) : Dispatch Unit := do
  let callerKey ← Tx.read fun _ => ensureSigned origin
  let userDid ← Tx.read fun s => okOr (Identity.getIdentity callerKey s) .userKeyCddMissing
  Identity.acceptAuthWith (.account callerKey) authId fun data authBy => do
    let (userKey, payingKey, polyxLimit) ← Tx.read fun _ => match data with
      | .addRelayerPayingKey userKey payingKey polyxLimit => .ok (userKey, payingKey, polyxLimit)
      | _ => .error .authBadType
    Tx.ensure (userKey = callerKey) .notAuthorizedForUserKey
    authAcceptPayingKey env userDid authBy userKey payingKey polyxLimit
    Tx.modify (Storage.deposit (.acceptedPayingKey userKey payingKey))

def baseRemovePayingKey (payingKey : AccountId) : Dispatch Unit := do
  let (sender, senderDid) ← Tx.read (Identity.ensureOriginCallPermissions env origin)
  Tx.read fun s => onlyIf (sender ≠ userKey ∧ sender ≠ payingKey)
    (ensure (Identity.getIdentity userKey s = some senderDid) .notAuthorizedForUserKey)
  let _ ← Tx.read (ensureIsPayingKey userKey payingKey)
  Tx.modify (removeAccountKeyRefCount payingKey)
  Tx.modify (removeAccountKeyRefCount userKey)
  Tx.modify (setSubsidy userKey none)
  Tx.modify (Storage.deposit (.removedPayingKey userKey payingKey))

def newRemaining (action : UpdateAction) (old amount : ℕ) : Except Error ℕ :=
  match action with
  | .set => .ok amount
  | .add => okOr (checkedAdd 128 old amount) .overflow
  | .sub => okOr (checkedSub old amount) .overflow

def baseUpdatePolyxLimit (action : UpdateAction) (amount : ℕ) : Dispatch Unit := do
  let (payingKey, _) ← Tx.read (Identity.ensureOriginCallPermissions env origin)
  let subsidy ← Tx.read (ensureIsPayingKey userKey payingKey)
  let remaining ← Tx.read fun _ => newRemaining action subsidy.remaining amount
  Tx.modify (setSubsidy userKey (some { subsidy with remaining }))
  Tx.modify (Storage.deposit (.updatedPolyxLimit userKey payingKey remaining))

end Accounts.Relayer

end Polymesh
