import Polymesh.Library.Transaction
import Polymesh.Primitives

/-!
# The balances pallet

Accounts hold a free and a reserved balance (`pallets/balances/src/lib.rs`). What is created or
destroyed by a change of a balance is handed on as an imbalance, and the total issuance is squared up
when the imbalance is dropped (`pallets/common/src/traits/imbalances.rs`). What was created is first
taken from the reserve for block rewards, and only the rest is issued.
-/

namespace Polymesh

open Transactional Tx

namespace Currency

/-! ## Storage -/

/-- What a balance is withdrawn for. -/
inductive Reasons
  | fee
  | misc
  | all
deriving DecidableEq

structure AccountData where
  free : ℕ
  reserved : ℕ
  miscFrozen : ℕ
  feeFrozen : ℕ
deriving DecidableEq

namespace AccountData

def default : AccountData := ⟨0, 0, 0, 0⟩

/-- What the free balance may not drop below. -/
def frozen (account : AccountData) : Reasons → ℕ
  | .all => max account.miscFrozen account.feeFrozen
  | .misc => account.miscFrozen
  | .fee => account.feeFrozen

/-- What the account holds. -/
def holds (account : AccountData) : ℕ := account.free + account.reserved

end AccountData

structure Storage where
  account : AccountId → AccountData
  totalIssuance : ℕ

inductive Error
  | liquidityRestrictions
  | overflow
  | insufficientBalance
  | receiverCddMissing
deriving DecidableEq

abbrev Dispatch (α : Type) := Tx Storage Error α

variable (who : AccountId) (value : ℕ) (s : Storage)

def putAccount (account : AccountData) (s : Storage) : Storage :=
  { s with account := Function.update s.account who account }

def putFree (free : ℕ) (s : Storage) : Storage :=
  putAccount who { s.account who with free } s

/-! ## Imbalances -/

/-- Funds that were created or destroyed without anything to set against them. -/
inductive Imbalance
  | positive (amount : ℕ)
  | negative (amount : ℕ)
deriving DecidableEq

namespace Imbalance

def split (amount : ℕ) : Imbalance → Imbalance × Imbalance
  | .positive a => (.positive (min a amount), .positive (a - min a amount))
  | .negative a => (.negative (min a amount), .negative (a - min a amount))

/-- Two imbalances of one kind are merged. -/
def merge : Imbalance → Imbalance → Option Imbalance
  | .positive a, .positive b => some (.positive (satAdd a b))
  | .negative a, .negative b => some (.negative (satAdd a b))
  | _, _ => none

/-- Two imbalances of opposite kinds are set against each other. -/
def offset : Imbalance → Imbalance → Option Imbalance
  | .positive a, .negative b =>
    some (if b < a then .positive (a - b) else .negative (b - a))
  | .negative a, .positive b =>
    some (if b < a then .negative (a - b) else .positive (b - a))
  | _, _ => none

end Imbalance

section Reserve

variable (brr : AccountId)

/-- What was created is taken from the reserve for block rewards, and the rest is issued. -/
def dropPositiveImbalance (amount : ℕ) (s : Storage) : Storage :=
  if amount = 0 then s
  else
    let old := (s.account brr).free
    { putFree brr (old - amount) s with
      totalIssuance := satAdd s.totalIssuance (amount - (old - (old - amount))) }

def dropNegativeImbalance (amount : ℕ) (s : Storage) : Storage :=
  { s with totalIssuance := s.totalIssuance - amount }

def dropImbalance : Imbalance → Storage → Storage
  | .positive amount => dropPositiveImbalance brr amount
  | .negative amount => dropNegativeImbalance amount

/-- Funds for rewards: from the reserve, as long as there are any. If the issuance overflows, only
what is left of it is issued. -/
def issueUsingBlockRewardsReserve (amount : ℕ) (s : Storage) : Imbalance × Storage :=
  if amount = 0 then (.negative 0, s)
  else
    let old := (s.account brr).free
    let toMint := amount - (old - (old - amount))
    let s' := putFree brr (old - amount) s
    match checkedAdd 128 s.totalIssuance toMint with
    | some issued => (.negative amount, { s' with totalIssuance := issued })
    | none => (.negative (balanceMax - s.totalIssuance), { s' with totalIssuance := balanceMax })

end Reserve

/-- New funds. -/
def issue (amount : ℕ) (s : Storage) : Imbalance × Storage :=
  if amount = 0 then (.negative 0, s)
  else
    match checkedAdd 128 s.totalIssuance amount with
    | some issued => (.negative amount, { s with totalIssuance := issued })
    | none => (.negative (balanceMax - s.totalIssuance), { s with totalIssuance := balanceMax })

/-- Funds that are taken out of the issuance. -/
def burn (amount : ℕ) (s : Storage) : Imbalance × Storage :=
  if amount = 0 then (.positive 0, s)
  else
    match checkedSub s.totalIssuance amount with
    | some issued => (.positive amount, { s with totalIssuance := issued })
    | none => (.positive s.totalIssuance, { s with totalIssuance := 0 })

/-! ## Changes of balances -/

def ensureCanWithdraw (amount : ℕ) (reasons : Reasons) (newBalance : ℕ) (s : Storage) :
    Except Error Unit :=
  onlyIf (amount ≠ 0)
    (ensure ((s.account who).frozen reasons ≤ newBalance) .liquidityRestrictions)

def transferCore (transactor dest : AccountId) (value : ℕ) : Dispatch Unit :=
  onlyIf (value ≠ 0 ∧ transactor ≠ dest) do
    let s ← get
    let fromFree ← Tx.read fun _ =>
      okOr (checkedSub (s.account transactor).free value) .insufficientBalance
    let toFree ← Tx.read fun _ => okOr (checkedAdd 128 (s.account dest).free value) .overflow
    Tx.read (ensureCanWithdraw transactor value .misc fromFree)
    Tx.modify (putFree transactor fromFree)
    Tx.modify (putFree dest toFree)

def withdraw (reasons : Reasons) : Dispatch Imbalance :=
  if value = 0 then return .negative 0
  else do
    let s ← get
    let newFree ← Tx.read fun _ => okOr (checkedSub (s.account who).free value) .insufficientBalance
    Tx.read (ensureCanWithdraw who value reasons newFree)
    Tx.modify (putFree who newFree)
    return .negative value

def depositIntoExisting : Dispatch Imbalance :=
  if value = 0 then return .positive 0
  else do
    let s ← get
    let free ← Tx.read fun _ => okOr (checkedAdd 128 (s.account who).free value) .overflow
    Tx.modify (putFree who free)
    return .positive value

/-- A deposit that would overflow is none. -/
def depositCreating : Imbalance × Storage :=
  if value = 0 then (.positive 0, s)
  else
    match checkedAdd 128 (s.account who).free value with
    | some free => (.positive value, putFree who free s)
    | none => (.positive 0, s)

def makeFreeBalanceBe : Imbalance × Storage :=
  let free := (s.account who).free
  (if free ≤ value then .positive (value - free) else .negative (free - value), putFree who value s)

/-- The imbalance of a balance that is set anew. -/
def setImbalance (old new : ℕ) : Imbalance :=
  if old < new then .positive (new - old) else .negative (old - new)

/-- The account is read before the imbalances are dropped, and written after. What dropping them
writes to the same account is lost. -/
def setBalance (brr who : AccountId) (newFree newReserved : ℕ) (s : Storage) : Storage :=
  let account := s.account who
  putAccount who { account with free := newFree, reserved := newReserved }
    (dropImbalance brr (setImbalance account.reserved newReserved)
      (dropImbalance brr (setImbalance account.free newFree) s))

/-- A lock holds back an amount for some reasons. -/
structure BalanceLock where
  amount : ℕ
  reasons : Reasons

/-- Write what the locks of an account hold back. -/
def updateLocks (locks : List BalanceLock) (s : Storage) : Storage :=
  putAccount who
    { s.account who with
      miscFrozen := locks.foldl (fun frozen lock =>
        if lock.reasons = .fee then frozen else max frozen lock.amount) 0
      feeFrozen := locks.foldl (fun frozen lock =>
        if lock.reasons = .misc then frozen else max frozen lock.amount) 0 } s

end Currency

end Polymesh
