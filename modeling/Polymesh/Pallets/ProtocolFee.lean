import Polymesh.Accounts.Storage

/-!
# Subsidies and protocol fees

A paying key may pay the fees of a user key, as long as something remains of what it has set aside
(`pallets/relayer/src/lib.rs`). Both the fees of transactions and the protocol fees that a call
charges are taken from there (`pallets/protocol-fee/src/lib.rs`).
-/

namespace Polymesh

open Transactional Tx

namespace Accounts

namespace Relayer

/-- Whether the fees of a call of the pallet are subsidised. Those of other pallets are refused, but
for the calls of the relayer itself. -/
def ensurePalletIsSubsidised : Pallet → Except Error Bool
  | .asset | .complianceManager | .corporateAction | .externalAgents | .permissions | .portfolio
  | .settlement | .statistics | .sto | .balances => .ok true
  | .relayer => .ok false
  | .identity | .multiSig | .utility | .other => .error .palletNotSubsidised

/-- The subsidy of a key, which must cover the fee. -/
def getSubsidy (userKey : AccountId) (fee : ℕ) (s : Storage) : Except Error (Option Subsidy) :=
  match s.subsidies userKey with
  | none => .ok none
  | some subsidy => if subsidy.remaining < fee then .error .payment else .ok (some subsidy)

/-- The key that would pay the fee for the user key. -/
def checkSubsidy (userKey : AccountId) (fee : ℕ) (pallet : Option Pallet) (s : Storage) :
    Except Error (Option AccountId) := do
  match ← getSubsidy userKey fee s, pallet with
  | some subsidy, some pallet =>
    return if ← ensurePalletIsSubsidised pallet then some subsidy.payingKey else none
  | some subsidy, none => return some subsidy.payingKey
  | none, _ => return none

/-- Write or remove a subsidy. -/
def setSubsidy (userKey : AccountId) (subsidy : Option Subsidy) (s : Storage) : Storage :=
  { s with subsidies := Function.update s.subsidies userKey subsidy }

/-- Take the fee from the subsidy. -/
def debitSubsidy (userKey : AccountId) (fee : ℕ) : Dispatch (Option AccountId) := do
  match ← Tx.read (getSubsidy userKey fee) with
  | some subsidy =>
    Tx.modify (setSubsidy userKey (some { subsidy with remaining := subsidy.remaining - fee }))
    return some subsidy.payingKey
  | none => return none

end Relayer

/-- Note that a fee of the account was taken from the key that subsidises it, if one does. -/
def noteCharge (account : AccountId) (fee : ℕ) : Option AccountId → Storage → Storage
  | some subsidiser, s => s.deposit (.charged account subsidiser fee)
  | none, s => s

namespace ProtocolFee

variable (env : Env)

/-- The key that pays: the paying key of a subsidy, which is debited, or the account itself. -/
def feeKey (account : AccountId) (fee : ℕ) : Option AccountId → Dispatch AccountId
  | some subsidiser => do
    let _ ← orError (Relayer.debitSubsidy account fee) .insufficientSubsidyBalance
    return subsidiser
  | none => return account

/-- Withdraw the fee from the key that pays. -/
def withdrawFee (account : AccountId) (fee : ℕ) : Dispatch Unit := do
  let subsidiser ←
    orError (Tx.read (Relayer.checkSubsidy account fee none)) .insufficientSubsidyBalance
  let key ← feeKey account fee subsidiser
  Tx.ensure (env.withdraws key fee) .insufficientAccountBalance
  Tx.modify (noteCharge account fee subsidiser)

/-- No fee is taken without a current payer. -/
def withdrawFromPayer (fee : ℕ) : Dispatch Unit := do
  let s ← get
  match s.identity.currentPayer with
  | some payer => withdrawFee env payer fee
  | none => return ()

/-- A fee of zero is not charged. -/
def chargeFee (fee : ℕ) : Dispatch Unit := onlyIf (fee ≠ 0) (withdrawFromPayer env fee)

/-- Charge the fees of a call, one after the other. -/
def chargeFees : Dispatch Unit := forM env.protocolFees (chargeFee env)

end ProtocolFee

end Accounts

end Polymesh
