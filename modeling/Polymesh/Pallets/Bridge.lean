import Polymesh.Pallets.Balances

/-!
# The bridge pallet

Tokens that are locked on Ethereum are credited on this chain (`pallets/bridge/src/lib.rs`). The
controller submits a transaction, which waits for a timelock and is then credited by a scheduled
task; the admin may freeze it meanwhile, and remove it. Tasks have no name, so that nothing cancels
them. Submissions, credits and removals are noted in a history that no function reads.
-/

namespace Polymesh

open Transactional Tx

namespace Bridge

open Tx (ensure fail read)

/-! ## Storage -/

inductive BridgeTxStatus
  | absent
  | pending (tries : ℕ)
  | frozen
  | timelocked
  | handled
deriving DecidableEq

structure BridgeTx where
  nonce : ℕ
  recipient : AccountId
  amount : ℕ
  txHash : ℕ
deriving DecidableEq

/-- What a transaction is stored under. -/
abbrev Key := AccountId × ℕ

def BridgeTx.key (tx : BridgeTx) : Key := (tx.recipient, tx.nonce)

structure BridgeTxDetail where
  amount : ℕ
  status : BridgeTxStatus
  executionBlock : BlockNumber
  txHash : ℕ
deriving DecidableEq

def BridgeTxDetail.default : BridgeTxDetail := ⟨0, .absent, 0, 0⟩

inductive Error
  | badOrigin
  | badCaller
  | badAdmin
  | noValidCdd
  | proposalAlreadyHandled
  | frozen
  | notFrozen
  | frozenTx
  | bridgeLimitReached
  | overflow
  | divisionByZero
  | timelockedTx
  | missingIdentity
  | scheduler
deriving DecidableEq

/-- A transaction that the controller or the admin has submitted. -/
structure Submission where
  amount : ℕ
  byAdmin : Bool
  block : BlockNumber
  timelock : BlockNumber
deriving DecidableEq

/-- What is noted of a transaction. -/
inductive Event
  | submitted (key : Key) (submission : Submission)
  | credited (key : Key) (amount : ℕ) (block : BlockNumber)
  | removed (key : Key)
deriving DecidableEq

structure Storage where
  controller : Option AccountId
  details : Key → BridgeTxDetail
  admin : Option AccountId
  frozen : Bool
  freezeAdmins : AccountId → Bool
  timelock : BlockNumber
  bridgeLimit : ℕ × BlockNumber
  polyxBridged : IdentityId → ℕ × BlockNumber
  bridgeLimitExempted : IdentityId → Bool
  balances : Currency.Storage
  block : BlockNumber
  /-- The tasks of the scheduler, with the blocks that they are due at. -/
  agenda : List (BlockNumber × BridgeTx)
  history : List Event

/-- What other pallets answer: who has a valid customer check, who has an identity, whether the
scheduler has room for one more task. -/
structure Env where
  getKeyCddDid : AccountId → Option IdentityId
  currentIdentity : AccountId → Option IdentityId
  blockRewardsReserve : AccountId
  schedules : Bool

inductive Origin
  | signed (sender : AccountId)
  | root
deriving DecidableEq

abbrev Dispatch (α : Type) := Tx Storage Error α

def putDetail (key : Key) (detail : BridgeTxDetail) (s : Storage) : Storage :=
  { s with details := Function.update s.details key detail }

/-- Note an event. -/
def note (event : Event) (s : Storage) : Storage := { s with history := s.history ++ [event] }

/-! ## Origins -/

def ensureSigned : Origin → Except Error AccountId
  | .signed sender => .ok sender
  | .root => .error .badOrigin

def ensureRoot : Origin → Except Error Unit
  | .signed _ => .error .badOrigin
  | .root => .ok ()

def isController (key : AccountId) (s : Storage) : Bool := s.controller == some key

def isAdmin (key : AccountId) (s : Storage) : Bool := s.admin == some key

def ensureAdmin (origin : Origin) (s : Storage) : Except Error AccountId := do
  let sender ← ensureSigned origin
  ensure (isAdmin sender s) .badAdmin
  return sender

section Dispatches

variable (env : Env)

variable (origin : Origin) (bridgeTx : BridgeTx) (s : Storage) (txDetails : BridgeTxDetail)
  (amount : ℕ)

def ensureAdminDid : Except Error IdentityId := do
  let sender ← ensureAdmin origin s
  okOr (env.currentIdentity sender) .missingIdentity

def ensureFreezeAdminDid : Except Error IdentityId := do
  let sender ← ensureSigned origin
  onlyIf (¬ s.freezeAdmins sender) (ensure (isAdmin sender s) .badAdmin)
  okOr (env.currentIdentity sender) .missingIdentity

/-! ## Crediting -/

/-- The limit on what an identity may receive in one interval. -/
def countBridged (did : IdentityId) (amount : ℕ) : Dispatch Unit := do
  let s ← get
  let (limit, intervalDuration) := s.bridgeLimit
  ensure (intervalDuration ≠ 0) .divisionByZero
  let currentInterval := s.block / intervalDuration
  let (bridged, lastInterval) := s.polyxBridged did
  let totalMint ← read fun _ =>
    if lastInterval = currentInterval then okOr (checkedAdd 128 amount bridged) .overflow
    else .ok amount
  ensure (totalMint ≤ limit) .bridgeLimitReached
  Tx.modify fun s => { s with
    polyxBridged := Function.update s.polyxBridged did (totalMint, currentInterval) }

/-- What a deposit to the account adds to it: nothing, if its balance would overflow. -/
def deposited (recipient : AccountId) (amount : ℕ) (balances : Currency.Storage) : ℕ :=
  match (Currency.depositCreating recipient amount balances).1 with
  | .positive amount => amount
  | .negative _ => 0

/-- A deposit, whose imbalance is dropped. -/
def deposit (recipient : AccountId) (amount : ℕ) (s : Storage) : Storage :=
  let (imbalance, balances) := Currency.depositCreating recipient amount s.balances
  { s with balances := Currency.dropImbalance env.blockRewardsReserve imbalance balances }

/-- Issue the amount to the recipient. The result is what was deposited. -/
def issue (recipient : AccountId) (amount : ℕ) (exemptedDid : Option IdentityId) : Dispatch ℕ := do
  let did ← read fun _ => okOr (exemptedDid.or (env.getKeyCddDid recipient)) .noValidCdd
  let s ← get
  onlyIf (exemptedDid = none ∧ s.bridgeLimitExempted did = false) (countBridged did amount)
  Tx.modify (deposit env recipient amount)
  return deposited recipient amount s.balances

/-! ## Handling -/

/-- What is stored of a transaction that is put off, and how often it has been tried. -/
def putOff : Except Error (BridgeTxDetail × ℕ) :=
  match txDetails.status with
  | .absent => .ok ({ txDetails with status := .timelocked, amount := bridgeTx.amount }, 0)
  | .pending tries =>
    .ok ({ txDetails with status := .pending (wrapAdd 8 tries 1) }, wrapAdd 8 tries 1)
  | .timelocked => .ok ({ txDetails with status := .pending 1 }, 1)
  | .frozen => .error .frozenTx
  | .handled => .error .proposalAlreadyHandled

/-- Block numbers have 32 bits. The exponential backoff is limited to `2 ^ 24` blocks. -/
def unlockBlockNumber (block timelock : BlockNumber) (alreadyTried : ℕ) : BlockNumber :=
  saturatingAdd 32 (saturatingAdd 32 block timelock) (2 ^ min alreadyTried 24)

def scheduleCall (blockNumber : BlockNumber) (bridgeTx : BridgeTx) : Dispatch Unit := do
  ensure env.schedules .scheduler
  Tx.modify fun s => { s with agenda := s.agenda ++ [(blockNumber, bridgeTx)] }

def handleBridgeTxLater (timelock : BlockNumber) : Dispatch Unit := do
  let (txDetails, alreadyTried) ← read fun _ => putOff bridgeTx txDetails
  let s ← get
  let unlock := unlockBlockNumber s.block timelock alreadyTried
  scheduleCall env unlock bridgeTx
  Tx.modify (putDetail bridgeTx.key
    { txDetails with txHash := bridgeTx.txHash, executionBlock := unlock })

/-- The transaction has been credited. -/
def finish (s : Storage) : Storage :=
  note (.credited bridgeTx.key amount s.block)
    (putDetail bridgeTx.key { txDetails with status := .handled, executionBlock := s.block } s)

/-- Credit the transaction without regard to its timelock. The amount of a manual retry is the one
that is stored. A failure of any other is not reported: the transaction is put off. -/
def handleBridgeTxNow (untrustedManualRetry : Bool) (exemptedDid : Option IdentityId) :
    Dispatch Unit := do
  ensure (txDetails.status ≠ .handled) .proposalAlreadyHandled
  ensure (txDetails.status ≠ .frozen) .frozenTx
  let s ← get
  if s.frozen then do
    ensure (untrustedManualRetry = false) .frozen
    handleBridgeTxLater env bridgeTx txDetails s.timelock
  else do
    let amount := if untrustedManualRetry then txDetails.amount else bridgeTx.amount
    match ← attempt (issue env bridgeTx.recipient amount exemptedDid) with
    | .ok amount => Tx.modify (finish bridgeTx txDetails amount)
    | .error e =>
      if untrustedManualRetry then fail e
      else do
        let _ ← attempt (handleBridgeTxLater env bridgeTx txDetails s.timelock)

/-- Note a submission. -/
def noteSubmission (sender : AccountId) (bridgeTx : BridgeTx) (s : Storage) : Storage :=
  note (.submitted bridgeTx.key ⟨bridgeTx.amount, isAdmin sender s, s.block, s.timelock⟩) s

def ensureCaller (sender : AccountId) (s : Storage) : Except Error Unit :=
  ensure (isController sender s || isAdmin sender s) .badCaller

/-- The controller or the admin submits a transaction that is absent or frozen. Anyone may retry one
that is pending, which is no submission: whatever amount is named, the stored one is credited. -/
def baseHandleBridgeTx : Dispatch Unit := do
  let sender ← read fun _ => ensureSigned origin
  let s ← get
  let txDetails := s.details bridgeTx.key
  match txDetails.status with
  | .absent => do
    read (ensureCaller sender)
    Tx.modify (noteSubmission sender bridgeTx)
    if s.timelock = 0 then handleBridgeTxNow env bridgeTx txDetails false none
    else handleBridgeTxLater env bridgeTx txDetails s.timelock
  | .pending _ => handleBridgeTxNow env bridgeTx txDetails true none
  | .frozen => do
    read (ensureCaller sender)
    Tx.modify (noteSubmission sender bridgeTx)
    Tx.modify (putDetail bridgeTx.key { txDetails with amount := bridgeTx.amount })
  | .timelocked => fail .timelockedTx
  | .handled => fail .proposalAlreadyHandled

def baseForceHandleBridgeTx : Dispatch Unit := do
  let sender ← read (ensureAdmin origin)
  let exemptedDid ← read fun _ => okOr (env.getKeyCddDid bridgeTx.recipient) .noValidCdd
  let s ← get
  Tx.modify (noteSubmission sender bridgeTx)
  handleBridgeTxNow env bridgeTx (s.details bridgeTx.key) false (some exemptedDid)

def baseHandleScheduledBridgeTx : Dispatch Unit := do
  read fun _ => ensureRoot origin
  let s ← get
  handleBridgeTxNow env bridgeTx (s.details bridgeTx.key) false none

/-! ## The admin steps in -/

def freezeTx : Storage :=
  let txDetails := s.details bridgeTx.key
  if txDetails.status ≠ .handled then
    putDetail bridgeTx.key { txDetails with status := .frozen } s
  else s

/-- Transactions that are not even there may be frozen too. -/
def baseFreezeTxs (bridgeTxs : List BridgeTx) : Dispatch Unit := do
  let _ ← read (ensureAdminDid env origin)
  Tx.modify fun s => bridgeTxs.foldl (fun s bridgeTx => freezeTx bridgeTx s) s

/-- A frozen transaction is absent again, with its amount, and is retried at once. What comes of
that is only reported in an event. -/
def unfreezeTx : Storage :=
  let txDetails := s.details bridgeTx.key
  if txDetails.status = .frozen then
    let txDetails := { txDetails with status := .absent }
    (handleBridgeTxNow env bridgeTx txDetails true none (putDetail bridgeTx.key txDetails s)).2
  else s

def baseUnfreezeTxs (bridgeTxs : List BridgeTx) : Dispatch Unit := do
  let _ ← read (ensureAdminDid env origin)
  Tx.modify fun s => bridgeTxs.foldl (fun s bridgeTx => unfreezeTx env bridgeTx s) s

def removeTx : Storage :=
  note (.removed bridgeTx.key) (putDetail bridgeTx.key .default s)

def baseRemoveTxs (bridgeTxs : List BridgeTx) : Dispatch Unit := do
  let _ ← read (ensureAdminDid env origin)
  read fun s => ensure (∀ bridgeTx ∈ bridgeTxs, (s.details bridgeTx.key).status = .frozen)
    .notFrozen
  Tx.modify fun s => bridgeTxs.foldl (fun s bridgeTx => removeTx bridgeTx s) s

/-! ## Settings -/

/-- The admin changes a setting. -/
def changeSetting (change : Storage → Storage) : Dispatch Unit := do
  let _ ← read (ensureAdminDid env origin)
  Tx.modify change

def baseChangeController (controller : AccountId) : Dispatch Unit :=
  changeSetting env origin fun s => { s with controller := some controller }

def baseChangeAdmin (admin : AccountId) : Dispatch Unit :=
  changeSetting env origin fun s => { s with admin := some admin }

def baseChangeTimelock (timelock : BlockNumber) : Dispatch Unit :=
  changeSetting env origin fun s => { s with timelock }

def baseAddFreezeAdmin (freezeAdmin : AccountId) : Dispatch Unit :=
  changeSetting env origin fun s =>
    { s with freezeAdmins := Function.update s.freezeAdmins freezeAdmin true }

def baseRemoveFreezeAdmin (freezeAdmin : AccountId) : Dispatch Unit :=
  changeSetting env origin fun s =>
    { s with freezeAdmins := Function.update s.freezeAdmins freezeAdmin false }

def baseChangeBridgeExempted (exempted : List (IdentityId × Bool)) : Dispatch Unit :=
  changeSetting env origin fun s => { s with
    bridgeLimitExempted := exempted.foldl (fun m (did, exempt) => Function.update m did exempt)
      s.bridgeLimitExempted }

def baseChangeBridgeLimit (duration : BlockNumber) : Dispatch Unit := do
  let _ ← read (ensureAdminDid env origin)
  ensure (duration ≠ 0) .divisionByZero
  Tx.modify fun s => { s with bridgeLimit := (amount, duration) }

/-- Those who may freeze the bridge need not be allowed to unfreeze it. -/
def setFreeze (freeze : Bool) : Dispatch Unit := do
  let _ ← read fun s =>
    if freeze then ensureFreezeAdminDid env origin s else ensureAdminDid env origin s
  read fun s => ensure (s.frozen ≠ freeze) (if freeze then .frozen else .notFrozen)
  Tx.modify fun s => { s with frozen := freeze }

end Dispatches

end Bridge

end Polymesh
