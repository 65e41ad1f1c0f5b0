import Polymesh.Library.SortedLists
import Polymesh.Pallets.Balances

/-!
# Locks of the balances pallet

A lock keeps part of a balance from being withdrawn (`LockableCurrency` and `LockableCurrencyExt` in
`pallets/balances/src/lib.rs`). Every pallet has an identifier of its own for its locks, and an
account has at most one lock under an identifier. What is here changes the locks of one account;
`updateLocks` then recomputes what is frozen of the balance. A call with no reasons at all does
nothing, and is left out.
-/

namespace Polymesh

open Transactional

namespace Currency

structure LockIdentifier where
  bytes : Fin (2 ^ 64)
deriving DecidableEq

/-- A lock with its identifier, which is not read when the frozen amounts are computed. -/
structure NamedLock extends BalanceLock where
  id : LockIdentifier

/-- The union of two sets of reasons. -/
def Reasons.union (a b : Reasons) : Reasons := if a = b then a else .all

variable (id : LockIdentifier) (locks : List NamedLock)

/-- Where the lock with the identifier is. -/
def lockPosition : Option ℕ :=
  locks.findIdx? (·.id = id)

def setLock (amount : ℕ) (reasons : Reasons) (locks : List NamedLock) : List NamedLock :=
  if amount = 0 then locks
  else
    match lockPosition id locks with
    | some pos => locks.set pos ⟨⟨amount, reasons⟩, id⟩
    | none => locks ++ [⟨⟨amount, reasons⟩, id⟩]

def extendLock (amount : ℕ) (reasons : Reasons) (locks : List NamedLock) : List NamedLock :=
  if amount = 0 then locks
  else
    match lockPosition id locks with
    | some pos => locks.modify pos fun slot =>
        { slot with amount := max slot.amount amount, reasons := slot.reasons.union reasons }
    | none => locks ++ [⟨⟨amount, reasons⟩, id⟩]

def removeLock : List NamedLock :=
  locks.filter (·.id ≠ id)

/-- The locks with less under an identifier. A lock of nothing is removed. -/
def reduceLock (amount : ℕ) (locks : List NamedLock) : Except Error (List NamedLock) :=
  if amount = 0 then .ok locks
  else do
    let pos ← okOr (lockPosition id locks) .insufficientBalance
    let slot ← okOr locks[pos]? .insufficientBalance
    let new ← okOr (checkedSub slot.amount amount) .insufficientBalance
    return if new = 0 then SortedLists.swapRemove locks pos
      else locks.set pos { slot with amount := new }

/-- The locks with more under an identifier, if the new amount passes the check. -/
def increaseLock {ε : Type} (overflow : ε) (id : LockIdentifier) (amount : ℕ) (reasons : Reasons)
    (checkSum : ℕ → Except ε Unit) (locks : List NamedLock) : Except ε (List NamedLock) :=
  if amount = 0 then .ok locks
  else
    match (lockPosition id locks).bind fun pos => locks[pos]?.map fun slot => (pos, slot) with
    | some (pos, slot) => do
      let sum ← okOr (checkedAdd 128 slot.amount amount) overflow
      checkSum sum
      return locks.set pos { slot with amount := sum, reasons := slot.reasons.union reasons }
    | none => do
      checkSum amount
      return locks ++ [⟨⟨amount, reasons⟩, id⟩]

end Currency

end Polymesh
