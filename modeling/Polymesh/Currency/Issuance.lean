import Mathlib.Algebra.BigOperators.Finprod
import Polymesh.Library.Bookkeeping
import Polymesh.Library.Runs
import Polymesh.Pallets.Balances

/-!
# The total issuance

An extrinsic changes balances in many ways, and carries the imbalances that this leaves until they
are split, merged, set against each other or dropped. All of them are dropped at its end. The total
issuance is then what all accounts hold together, unless a number has saturated on the way, or the
reserve for block rewards was itself given a larger balance by the root.
-/

open scoped BigOperators

namespace Polymesh

open Transactional Tx TransitionSystem
open Function (update)

namespace Currency

/-! ## Extrinsics -/

/-- What an extrinsic does to balances, and with the imbalances that it carries. -/
inductive Operation
  | transfer (transactor dest : AccountId) (value : ℕ)
  | depositBlockRewardReserveBalance (transactor : AccountId) (value : ℕ)
  | burnAccountBalance (who : AccountId) (amount : ℕ)
  | setBalance (who : AccountId) (newFree newReserved : ℕ)
  | updateLocks (who : AccountId) (locks : List BalanceLock)
  | withdraw (who : AccountId) (value : ℕ) (reasons : Reasons)
  | depositIntoExisting (who : AccountId) (value : ℕ)
  | depositCreating (who : AccountId) (value : ℕ)
  | makeFreeBalanceBe (who : AccountId) (value : ℕ)
  | issueUsingBlockRewardsReserve (amount : ℕ)
  | issue (amount : ℕ)
  | burn (amount : ℕ)
  | split (index amount : ℕ)
  | merge (index other : ℕ)
  | offset (index other : ℕ)
  | drop (index : ℕ)

/-- The storage in the middle of an extrinsic, and the imbalances that it carries. -/
structure Extrinsic where
  storage : Storage
  imbalances : List Imbalance

namespace Extrinsic

variable (e : Extrinsic)

/-- The storage, and one more imbalance. -/
def carry (r : Imbalance × Storage) : Extrinsic := ⟨r.2, e.imbalances ++ [r.1]⟩

/-- What succeeds may leave an imbalance; what fails leaves nothing. -/
def run (x : Dispatch Imbalance) : Extrinsic :=
  match x e.storage with
  | (.ok imbalance, s) => e.carry (imbalance, s)
  | (.error _, _) => e

def map (f : Storage → Storage) : Extrinsic := { e with storage := f e.storage }

/-- Do something with one of the imbalances. -/
def withImbalance (index : ℕ) (f : Imbalance → Extrinsic → Option Extrinsic) : Extrinsic :=
  match e.imbalances[index]? with
  | some imbalance =>
    (f imbalance { e with imbalances := e.imbalances.eraseIdx index }).getD e
  | none => e

/-- Put the combination of two imbalances in their place. -/
def combine (f : Imbalance → Imbalance → Option Imbalance) (index other : ℕ) : Extrinsic :=
  e.withImbalance index fun imbalance e' => do
    let imbalance' ← e'.imbalances[other]?
    let result ← f imbalance imbalance'
    return { e' with imbalances := result :: e'.imbalances.eraseIdx other }

end Extrinsic

section Run

variable (brr : AccountId)

def operate : Operation → Extrinsic → Extrinsic
  | .transfer transactor dest value, e =>
    e.map fun s => (Tx.transaction (transferCore transactor dest value) s).2
  | .depositBlockRewardReserveBalance transactor value, e =>
    e.map fun s => (Tx.transaction (transferCore transactor brr value) s).2
  | .burnAccountBalance who amount, e =>
    e.map fun s => match withdraw who amount .misc s with
      | (.ok imbalance, s') => dropImbalance brr imbalance s'
      | (.error _, _) => s
  | .setBalance who newFree newReserved, e => e.map (setBalance brr who newFree newReserved)
  | .updateLocks who locks, e => e.map (updateLocks who locks)
  | .withdraw who value reasons, e => e.run (withdraw who value reasons)
  | .depositIntoExisting who value, e => e.run (depositIntoExisting who value)
  | .depositCreating who value, e => e.carry (depositCreating who value e.storage)
  | .makeFreeBalanceBe who value, e => e.carry (makeFreeBalanceBe who value e.storage)
  | .issueUsingBlockRewardsReserve amount, e =>
    e.carry (issueUsingBlockRewardsReserve brr amount e.storage)
  | .issue amount, e => e.carry (issue amount e.storage)
  | .burn amount, e => e.carry (burn amount e.storage)
  | .split index amount, e => e.withImbalance index fun imbalance e' =>
    some { e' with imbalances := (imbalance.split amount).1 :: (imbalance.split amount).2 ::
      e'.imbalances }
  | .merge index other, e => e.combine Imbalance.merge index other
  | .offset index other, e => e.combine Imbalance.offset index other
  | .drop index, e => e.withImbalance index fun imbalance e' =>
    some (e'.map (dropImbalance brr imbalance))

/-- What an extrinsic does. Whatever it still carries is dropped at its end. -/
def step (operations : List Operation) (s : Storage) : Storage :=
  let e := run (operate brr) ⟨s, []⟩ operations
  e.imbalances.foldl (fun s imbalance => dropImbalance brr imbalance s) e.storage

end Run

/-- The balances of the genesis block. -/
def genesis (balances : List (AccountId × ℕ)) : Storage where
  account := balances.foldl
    (fun account (who, free) => update account who { AccountData.default with free })
    fun _ => .default
  totalIssuance := (balances.map Prod.snd).sum

/-! ## What is held -/

instance : Finite AccountId :=
  .of_injective AccountId.bytes fun a b h => by cases a; cases b; exact congrArg AccountId.mk h

/-! ### What the changes write -/

variable {reasons : Reasons} {amount index : ℕ} {r : Imbalance × Storage} {x : Dispatch Imbalance}
  {f : Storage → Storage} {imbalance imbalance' result : Imbalance}

section Writes

variable {who : AccountId} {value : ℕ} {s s' : Storage}

@[simp] theorem putFree_self (who : AccountId) (s : Storage) :
    putFree who (s.account who).free s = s := by
  simp [putFree, putAccount]

theorem withdraw_ok (h : withdraw who value reasons s = (.ok imbalance, s')) :
    value ≤ (s.account who).free ∧ imbalance = .negative value ∧
      s' = putFree who ((s.account who).free - value) s := by
  unfold withdraw at h
  split at h
  case isTrue hzero =>
    obtain ⟨rfl, rfl⟩ := pure_ok.mp h
    simp [hzero]
  case isFalse =>
    simp only [run_ok, okOr_eq_ok, checkedSub_eq_some] at h
    obtain ⟨_, ⟨hle, rfl⟩, _, -, rfl, rfl⟩ := h
    exact ⟨hle, rfl, rfl⟩

theorem depositIntoExisting_ok (h : depositIntoExisting who value s = (.ok imbalance, s')) :
    imbalance = .positive value ∧ s' = putFree who ((s.account who).free + value) s := by
  unfold depositIntoExisting at h
  split at h
  case isTrue hzero =>
    obtain ⟨rfl, rfl⟩ := pure_ok.mp h
    simp [hzero]
  case isFalse =>
    simp only [run_ok, okOr_eq_ok, checkedAdd_eq_some] at h
    obtain ⟨_, ⟨-, rfl⟩, rfl, rfl⟩ := h
    exact ⟨rfl, rfl⟩

end Writes

/-- What all accounts hold. -/
noncomputable def money (account : AccountId → AccountData) : ℕ := ∑ᶠ who, (account who).holds

section Money

variable (account : AccountId → AccountData) (who : AccountId)

theorem money_update (data : AccountData) :
    money (update account who data) + (account who).holds =
      money account + data.holds := by
  have : Fintype AccountId := Fintype.ofFinite AccountId
  have hupdate : ∀ who', (update account who data who').holds =
      update (fun who' => (account who').holds) who data.holds who' := by
    intro who'
    by_cases h : who' = who
    · subst h
      simp
    · simp [h]
  simp only [money, finsum_eq_sum_of_fintype, hupdate]
  exact Bookkeeping.sum_update_add _ who data.holds

theorem holds_le_money : (account who).holds ≤ money account := by
  have : Fintype AccountId := Fintype.ofFinite AccountId
  rw [money, finsum_eq_sum_of_fintype]
  exact Bookkeeping.le_sum (fun who => (account who).holds) who

end Money

theorem money_putFree (who : AccountId) (free : ℕ) (s : Storage) :
    money (putFree who free s).account + (s.account who).free = money s.account + free := by
  have h := money_update s.account who { s.account who with free }
  change money (putFree who free s).account + _ = _ at h
  simp only [AccountData.holds] at h
  omega

@[simp] theorem totalIssuance_putFree (who : AccountId) (free : ℕ) (s : Storage) :
    (putFree who free s).totalIssuance = s.totalIssuance := rfl

namespace Imbalance

/-- The funds that were created. -/
def created : Imbalance → ℕ
  | .positive amount => amount
  | .negative _ => 0

/-- The funds that were destroyed. -/
def destroyed : Imbalance → ℕ
  | .positive _ => 0
  | .negative amount => amount

end Imbalance

open Imbalance (created destroyed)

/-- A change leaves an imbalance: the issuance and what is held differ by it. -/
def Leaves (imbalance : Imbalance) (s s' : Storage) : Prop :=
  s'.totalIssuance + imbalance.created + money s.account =
    s.totalIssuance + money s'.account + imbalance.destroyed

/-- Dropping an imbalance squares it up. -/
def Squares (imbalance : Imbalance) (s s' : Storage) : Prop :=
  s'.totalIssuance + money s.account + imbalance.destroyed =
    s.totalIssuance + money s'.account + imbalance.created

/-- The issuance does not saturate when the imbalance is dropped. -/
def DropsExactly (brr : AccountId) (s : Storage) : Imbalance → Prop
  | .positive amount => s.totalIssuance + (amount - (s.account brr).free) ≤ balanceMax
  | .negative amount => amount ≤ s.totalIssuance

instance (brr : AccountId) (s : Storage) (imbalance : Imbalance) :
    Decidable (DropsExactly brr s imbalance) :=
  match imbalance with
  | .positive _ | .negative _ => inferInstanceAs (Decidable (_ ≤ _))

section Changes

variable {brr who : AccountId} {s s' : Storage} {value : ℕ}

theorem dropImbalance_squares (h : DropsExactly brr s imbalance) :
    Squares imbalance s (dropImbalance brr imbalance s) := by
  cases imbalance with
  | positive amount =>
    simp only [DropsExactly] at h
    simp only [dropImbalance, dropPositiveImbalance]
    split
    case isTrue hzero =>
      subst hzero
      rfl
    case isFalse =>
      have hmoney := money_putFree brr ((s.account brr).free - amount) s
      have hadd : satAdd s.totalIssuance
          (amount - ((s.account brr).free - ((s.account brr).free - amount))) =
          s.totalIssuance + (amount - (s.account brr).free) := by
        rw [satAdd_eq (by omega)]
        omega
      simp only [Squares, created, destroyed, hadd]
      omega
  | negative amount =>
    simp only [DropsExactly] at h
    simp only [Squares, dropImbalance, dropNegativeImbalance, created,
      destroyed]
    omega

theorem putFree_leaves_negative {free : ℕ} (h : free + value = (s.account who).free) :
    Leaves (.negative value) s (putFree who free s) := by
  have hmoney := money_putFree who free s
  simp only [Leaves, created, destroyed, totalIssuance_putFree]
  omega

theorem putFree_leaves_positive (who : AccountId) (value : ℕ) (s : Storage) :
    Leaves (.positive value) s (putFree who ((s.account who).free + value) s) := by
  have hmoney := money_putFree who ((s.account who).free + value) s
  simp only [Leaves, created, destroyed, totalIssuance_putFree]
  omega

theorem withdraw_leaves (h : withdraw who value reasons s = (.ok imbalance, s')) :
    Leaves imbalance s s' := by
  obtain ⟨hle, rfl, rfl⟩ := withdraw_ok h
  exact putFree_leaves_negative (Nat.sub_add_cancel hle)

theorem depositIntoExisting_leaves
    (h : depositIntoExisting who value s = (.ok imbalance, s')) : Leaves imbalance s s' := by
  obtain ⟨rfl, rfl⟩ := depositIntoExisting_ok h
  exact putFree_leaves_positive who value s

theorem depositCreating_leaves (who : AccountId) (value : ℕ) (s : Storage) :
    Leaves (depositCreating who value s).1 s (depositCreating who value s).2 := by
  unfold depositCreating
  split
  · simp [Leaves, created, destroyed]
  · cases hfree : checkedAdd 128 (s.account who).free value with
    | none => simp [Leaves, created, destroyed]
    | some free =>
      obtain ⟨-, rfl⟩ := checkedAdd_eq_some.mp hfree
      exact putFree_leaves_positive who value s

theorem makeFreeBalanceBe_leaves (who : AccountId) (value : ℕ) (s : Storage) :
    Leaves (makeFreeBalanceBe who value s).1 s (makeFreeBalanceBe who value s).2 := by
  have hmoney := money_putFree who value s
  simp only [makeFreeBalanceBe, Leaves, totalIssuance_putFree]
  split <;> simp only [created, destroyed] <;> omega

theorem transferCore_money {transactor dest : AccountId} {u : Unit}
    (h : transferCore transactor dest value s = (.ok u, s')) :
    s'.totalIssuance = s.totalIssuance ∧ money s'.account = money s.account := by
  rcases onlyIf_ok.mp h with ⟨⟨-, hne⟩, h⟩ | ⟨-, rfl⟩
  · simp only [run_ok, okOr_eq_ok, checkedAdd_eq_some, checkedSub_eq_some] at h
    obtain ⟨_, ⟨hle, rfl⟩, _, ⟨-, rfl⟩, _, -, rfl⟩ := h
    have hmoney := money_putFree transactor ((s.account transactor).free - value) s
    have hmoney' := money_putFree dest ((s.account dest).free + value)
      (putFree transactor ((s.account transactor).free - value) s)
    have hdest : ((putFree transactor ((s.account transactor).free - value) s).account dest).free =
        (s.account dest).free := by
      simp [putFree, putAccount, Ne.symm hne]
    rw [hdest] at hmoney'
    exact ⟨rfl, by omega⟩
  · exact ⟨rfl, rfl⟩

theorem issue_leaves (amount : ℕ) (h : s.totalIssuance ≤ balanceMax) :
    Leaves (issue amount s).1 s (issue amount s).2 := by
  unfold issue
  split
  · simp [Leaves, created, destroyed]
  · cases hissued : checkedAdd 128 s.totalIssuance amount with
    | none =>
      simp only [Leaves, created, destroyed]
      omega
    | some issued =>
      obtain ⟨-, rfl⟩ := checkedAdd_eq_some.mp hissued
      simp only [Leaves, created, destroyed]
      omega

theorem burn_leaves (amount : ℕ) (s : Storage) :
    Leaves (burn amount s).1 s (burn amount s).2 := by
  unfold burn
  split
  · simp [Leaves, created, destroyed]
  · cases hissued : checkedSub s.totalIssuance amount with
    | none => simp [Leaves, created, destroyed]
    | some issued =>
      obtain ⟨hle, rfl⟩ := checkedSub_eq_some.mp hissued
      simp only [Leaves, created, destroyed]
      omega

theorem issueUsingBlockRewardsReserve_leaves
    (h : s.totalIssuance + (amount - (s.account brr).free) ≤ balanceMax) :
    Leaves (issueUsingBlockRewardsReserve brr amount s).1 s
      (issueUsingBlockRewardsReserve brr amount s).2 := by
  unfold issueUsingBlockRewardsReserve
  split
  · simp [Leaves, created, destroyed]
  · have hmint : amount - ((s.account brr).free - ((s.account brr).free - amount)) =
        amount - (s.account brr).free := by omega
    have hadd : checkedAdd 128 s.totalIssuance (amount - (s.account brr).free) =
        some (s.totalIssuance + (amount - (s.account brr).free)) := by
      rw [checkedAdd_eq_some]
      refine ⟨?_, rfl⟩
      simp only [balanceMax] at h
      omega
    have hmoney := money_putFree brr ((s.account brr).free - amount) s
    simp only [hmint, hadd, Leaves, created, destroyed]
    omega

end Changes

/-! ## Extrinsics in balance -/

namespace Extrinsic

/-- The issuance is what is held, but for the imbalances that are carried. -/
def Balanced (e : Extrinsic) : Prop :=
  e.storage.totalIssuance + (e.imbalances.map created).sum =
    money e.storage.account + (e.imbalances.map destroyed).sum

variable {e : Extrinsic}

theorem Balanced.carry (he : e.Balanced) (h : Leaves r.1 e.storage r.2) : (e.carry r).Balanced := by
  simp only [Balanced, Leaves, Extrinsic.carry, List.map_append, List.map_singleton,
    List.sum_append, List.sum_singleton] at *
  omega

theorem Balanced.run (he : e.Balanced)
    (h : ∀ imbalance s', x e.storage = (.ok imbalance, s') → Leaves imbalance e.storage s') :
    (e.run x).Balanced := by
  unfold Extrinsic.run
  rcases hx : x e.storage with ⟨error | imbalance, s'⟩
  · exact he
  · exact he.carry (h imbalance s' hx)

theorem Balanced.map (he : e.Balanced) (h : (f e.storage).totalIssuance + money e.storage.account =
      e.storage.totalIssuance + money (f e.storage).account) : (e.map f).Balanced := by
  simp only [Balanced, Extrinsic.map] at *
  omega

variable {l : List Imbalance}

theorem Balanced.perm (he : e.Balanced) (h : l.Perm e.imbalances) :
    Balanced { e with imbalances := l } := by
  have hcreated := (h.map created).sum_eq
  have hdestroyed := (h.map destroyed).sum_eq
  simp only [Balanced] at *
  omega

theorem cons_eraseIdx_perm (h : imbalance ∈ l[index]?) :
    (imbalance :: l.eraseIdx index).Perm l := by
  obtain ⟨hlt, rfl⟩ := List.getElem?_eq_some_iff.mp h
  exact List.getElem_cons_eraseIdx_perm hlt

theorem withImbalance_keeps {P : Extrinsic → Prop} {f : Imbalance → Extrinsic → Option Extrinsic}
    (he : P e) (h : ∀ imbalance ∈ e.imbalances[index]?,
      ∀ e' ∈ f imbalance { e with imbalances := e.imbalances.eraseIdx index }, P e') :
    P (e.withImbalance index f) := by
  unfold Extrinsic.withImbalance
  cases himbalance : e.imbalances[index]? with
  | none => exact he
  | some imbalance =>
    dsimp only
    cases hf : f imbalance { e with imbalances := e.imbalances.eraseIdx index } with
    | none => exact he
    | some e' => exact h imbalance himbalance e' hf

theorem Balanced.drop {brr : AccountId}
    (he : Balanced { e with imbalances := imbalance :: e.imbalances })
    (h : DropsExactly brr e.storage imbalance) : (e.map (dropImbalance brr imbalance)).Balanced := by
  have hsquares := dropImbalance_squares h
  simp only [Balanced, Squares, Extrinsic.map, List.map_cons, List.sum_cons] at *
  omega

end Extrinsic

/-! ## Exact operations -/

/-- What is lost of a balance that the root sets: if it is that of the reserve, and there is
something in it, then what was created is taken from there, and is written over. -/
def LosesNothing (brr who : AccountId) (newFree newReserved : ℕ) (s : Storage) : Prop :=
  who = brr → (s.account brr).free = 0 ∨
    newFree ≤ (s.account brr).free ∧ newReserved ≤ (s.account brr).reserved

/-- Neither of the imbalances of a balance that is set saturates the issuance. -/
def SetsExactly (brr who : AccountId) (newFree newReserved : ℕ) (s : Storage) : Prop :=
  DropsExactly brr s (setImbalance (s.account who).free newFree) ∧
    DropsExactly brr (dropImbalance brr (setImbalance (s.account who).free newFree) s)
      (setImbalance (s.account who).reserved newReserved)

/-- No number saturates in the operation, and nothing of the reserve is lost. -/
def Exact (brr : AccountId) (e : Extrinsic) : Operation → Prop
  | .burnAccountBalance who amount =>
    amount ≤ (e.storage.account who).free → amount ≤ e.storage.totalIssuance
  | .setBalance who newFree newReserved =>
    LosesNothing brr who newFree newReserved e.storage ∧
      SetsExactly brr who newFree newReserved e.storage
  | .issueUsingBlockRewardsReserve amount =>
    e.storage.totalIssuance + (amount - (e.storage.account brr).free) ≤ balanceMax
  | .merge index other => ∀ imbalance ∈ e.imbalances[index]?,
      ∀ imbalance' ∈ (e.imbalances.eraseIdx index)[other]?,
      imbalance.created + imbalance'.created ≤ balanceMax ∧
        imbalance.destroyed + imbalance'.destroyed ≤ balanceMax
  | .drop index => ∀ imbalance ∈ e.imbalances[index]?, DropsExactly brr e.storage imbalance
  | _ => True

/-- None of the imbalances saturates the issuance when they are dropped one after the other. -/
def DropsAllExactly (brr : AccountId) : List Imbalance → Storage → Prop
  | [], _ => True
  | imbalance :: imbalances, s =>
    DropsExactly brr s imbalance ∧ DropsAllExactly brr imbalances (dropImbalance brr imbalance s)

/-- All operations of the extrinsic are exact, and so is its end. -/
def ExactStep (brr : AccountId) (s : Storage) (operations : List Operation) : Prop :=
  Along (operate brr) (Exact brr) ⟨s, []⟩ operations ∧
    let e := run (operate brr) ⟨s, []⟩ operations
    DropsAllExactly brr e.imbalances e.storage

section Exact

variable {brr who : AccountId} {s : Storage} {newFree newReserved : ℕ}

theorem account_dropImbalance (imbalance : Imbalance) (s : Storage) (who : AccountId) :
    (dropImbalance brr imbalance s).account who =
      if who = brr then { s.account brr with free := (s.account brr).free - imbalance.created }
      else s.account who := by
  cases imbalance with
  | positive amount =>
    simp only [dropImbalance, dropPositiveImbalance, created]
    split_ifs with hzero hwho hwho
    · simp [hzero, hwho]
    · rfl
    · simp [putFree, putAccount, hwho]
    · simp [putFree, putAccount, hwho]
  | negative amount =>
    split_ifs with hwho
    · subst hwho
      rfl
    · rfl

theorem setImbalance_created (old new : ℕ) : (setImbalance old new).created = new - old := by
  unfold setImbalance
  split
  case isTrue => rfl
  case isFalse h =>
    simp only [created]
    omega

theorem setImbalance_destroyed (old new : ℕ) : (setImbalance old new).destroyed = old - new := by
  unfold setImbalance
  split
  case isTrue h =>
    simp only [destroyed]
    omega
  case isFalse => rfl

/-- **The issuance is right after a balance is set exactly if nothing of the reserve is lost.** -/
theorem setBalance_iff (h : SetsExactly brr who newFree newReserved s) :
    (setBalance brr who newFree newReserved s).totalIssuance + money s.account =
        s.totalIssuance + money (setBalance brr who newFree newReserved s).account ↔
      LosesNothing brr who newFree newReserved s := by
  have hfirst := dropImbalance_squares h.1
  have hsecond := dropImbalance_squares h.2
  -- the account that is written over, and what it held by then
  have hput := money_update (dropImbalance brr (setImbalance (s.account who).reserved newReserved)
    (dropImbalance brr (setImbalance (s.account who).free newFree) s)).account who
    { s.account who with free := newFree, reserved := newReserved }
  simp only [account_dropImbalance] at hput
  simp only [Squares, setImbalance_created, setImbalance_destroyed] at hfirst hsecond
  simp only [setBalance, putAccount, LosesNothing]
  by_cases hwho : who = brr
  · subst hwho
    simp only [if_true, AccountData.holds, setImbalance_created, forall_const] at hput ⊢
    omega
  · simp only [hwho, if_false, AccountData.holds, false_imp_iff, iff_true] at hput ⊢
    omega

end Exact

/-! ## The issuance stays a balance -/

/-- The issuance is a number of 128 bits. -/
def Issued (s : Storage) : Prop := s.totalIssuance ≤ balanceMax

section Issued

variable {brr : AccountId} {s : Storage}

theorem Issued.dropImbalance (h : Issued s) (imbalance : Imbalance) :
    Issued (dropImbalance brr imbalance s) := by
  cases imbalance with
  | positive amount =>
    simp only [Currency.dropImbalance, dropPositiveImbalance]
    split
    · exact h
    · exact Nat.min_le_right _ _
  | negative amount => exact (Nat.sub_le _ _).trans h

theorem Issued.issue (h : Issued s) (amount : ℕ) : Issued (issue amount s).2 := by
  unfold Currency.issue
  split
  · exact h
  · cases hissued : checkedAdd 128 s.totalIssuance amount with
    | none => exact le_rfl
    | some issued =>
      obtain ⟨hlt, rfl⟩ := checkedAdd_eq_some.mp hissued
      exact Nat.le_sub_one_of_lt hlt

theorem Issued.burn (h : Issued s) (amount : ℕ) : Issued (burn amount s).2 := by
  unfold Currency.burn
  split
  · exact h
  · cases hissued : checkedSub s.totalIssuance amount with
    | none => exact Nat.zero_le _
    | some issued =>
      obtain ⟨-, rfl⟩ := checkedSub_eq_some.mp hissued
      exact (Nat.sub_le _ _).trans h

theorem Issued.issueUsingBlockRewardsReserve (h : Issued s) (amount : ℕ) :
    Issued (issueUsingBlockRewardsReserve brr amount s).2 := by
  unfold Currency.issueUsingBlockRewardsReserve
  split
  · exact h
  · cases hissued : checkedAdd 128 s.totalIssuance
        (amount - ((s.account brr).free - ((s.account brr).free - amount))) with
    | none => simp only [hissued, Issued, le_refl]
    | some issued =>
      obtain ⟨hlt, rfl⟩ := checkedAdd_eq_some.mp hissued
      simp only [hissued, Issued]
      exact Nat.le_sub_one_of_lt hlt

theorem Issued.depositCreating (h : Issued s) (who : AccountId) (value : ℕ) :
    Issued (depositCreating who value s).2 := by
  unfold Currency.depositCreating
  split
  · exact h
  · cases checkedAdd 128 (s.account who).free value <;> exact h

end Issued

/-! ## Runs -/

/-- In the middle of an extrinsic: the books balance, and the issuance is a balance. -/
structure Extrinsic.Held (e : Extrinsic) : Prop where
  balanced : e.Balanced
  issued : Issued e.storage

namespace Extrinsic.Held

variable {brr : AccountId} {e : Extrinsic}

theorem carry (he : e.Held) (hleaves : Leaves r.1 e.storage r.2) (hissued : Issued r.2) :
    (e.carry r).Held :=
  ⟨he.balanced.carry hleaves, hissued⟩

theorem map (he : e.Held) (h : (f e.storage).totalIssuance + money e.storage.account =
      e.storage.totalIssuance + money (f e.storage).account) (hissued : Issued (f e.storage)) :
    (e.map f).Held :=
  ⟨he.balanced.map h, hissued⟩

theorem run (he : e.Held)
    (hleaves : ∀ imbalance s', x e.storage = (.ok imbalance, s') → Leaves imbalance e.storage s')
    (hissued : ∀ imbalance s', x e.storage = (.ok imbalance, s') →
      s'.totalIssuance = e.storage.totalIssuance) : (e.run x).Held := by
  refine ⟨he.balanced.run hleaves, ?_⟩
  unfold Extrinsic.run
  rcases hx : x e.storage with ⟨error | imbalance, s'⟩
  · exact he.issued
  · exact (hissued imbalance s' hx).trans_le he.issued

theorem transfer (he : e.Held) (transactor dest : AccountId) (value : ℕ) :
    (e.map fun s => (Tx.transaction (transferCore transactor dest value) s).2).Held := by
  rcases h : Tx.transaction (transferCore transactor dest value) e.storage with ⟨error | u, s'⟩
  · have hs := transaction_error h
    subst hs
    refine he.map ?_ ?_ <;> simp only [h]
    exact he.issued
  · obtain ⟨hissuance, hmoney⟩ := transferCore_money (transaction_ok.mp h)
    refine he.map ?_ ?_
    · simp only [h, hissuance, hmoney]
    · simp only [h]
      exact hissuance.trans_le he.issued

theorem burnAccountBalance (he : e.Held) {who : AccountId}
    (h : amount ≤ (e.storage.account who).free → amount ≤ e.storage.totalIssuance) :
    (operate brr (.burnAccountBalance who amount) e).Held := by
  simp only [operate]
  rcases hx : withdraw who amount .misc e.storage with ⟨error | imbalance, s'⟩
  · refine he.map ?_ ?_ <;> simp only [hx]
    exact he.issued
  · obtain ⟨hle, rfl, rfl⟩ := withdraw_ok hx
    have hleaves := withdraw_leaves hx
    have hsquares : Squares (.negative amount) _ (dropImbalance brr (.negative amount)
        (putFree who ((e.storage.account who).free - amount) e.storage)) :=
      dropImbalance_squares (h hle)
    simp only [Leaves, Squares] at hleaves hsquares
    refine he.map ?_ ?_
    · simp only [hx]
      omega
    · simp only [hx]
      have hissued : Issued (putFree who ((e.storage.account who).free - amount) e.storage) :=
        he.issued
      exact hissued.dropImbalance _

theorem split (he : e.Held) (index amount : ℕ) : (operate brr (.split index amount) e).Held := by
  simp only [operate]
  refine withImbalance_keeps he fun imbalance himbalance e' he' => ?_
  obtain rfl := Option.some.inj he'
  refine ⟨?_, he.issued⟩
  have hbalanced := he.balanced.perm (cons_eraseIdx_perm himbalance)
  cases imbalance with
  | positive a | negative a =>
    simp only [Balanced, Imbalance.split, List.map_cons, List.sum_cons, created,
      destroyed] at hbalanced ⊢
    omega

theorem drop (he : e.Held)
    (h : ∀ imbalance ∈ e.imbalances[index]?, DropsExactly brr e.storage imbalance) :
    (operate brr (.drop index) e).Held := by
  simp only [operate]
  refine withImbalance_keeps he fun imbalance himbalance e' he' => ?_
  obtain rfl := Option.some.inj he'
  refine ⟨?_, he.issued.dropImbalance imbalance⟩
  have hbalanced := he.balanced.perm (cons_eraseIdx_perm himbalance)
  exact Balanced.drop hbalanced (h imbalance himbalance)

theorem combine (he : e.Held) {f : Imbalance → Imbalance → Option Imbalance} {other : ℕ}
    (h : ∀ imbalance ∈ e.imbalances[index]?, ∀ imbalance' ∈ (e.imbalances.eraseIdx index)[other]?,
      ∀ result ∈ f imbalance imbalance',
      result.created + (imbalance.destroyed + imbalance'.destroyed) =
        result.destroyed + (imbalance.created + imbalance'.created)) :
    (e.combine f index other).Held := by
  refine withImbalance_keeps he fun imbalance himbalance e' he' => ?_
  simp only [Option.bind_eq_bind, Option.mem_def, Option.bind_eq_some_iff, Option.pure_def,
    Option.some.injEq] at he'
  obtain ⟨imbalance', himbalance', result, hresult, rfl⟩ := he'
  refine ⟨?_, he.issued⟩
  have hperm :=
    ((cons_eraseIdx_perm himbalance').cons imbalance).trans (cons_eraseIdx_perm himbalance)
  have hbalanced := he.balanced.perm hperm
  have hcombined := h imbalance himbalance imbalance' himbalance' result hresult
  simp only [Balanced, List.map_cons, List.sum_cons] at hbalanced ⊢
  omega

end Extrinsic.Held

theorem offset_exact (h : result ∈ imbalance.offset imbalance') :
    result.created + (imbalance.destroyed + imbalance'.destroyed) =
      result.destroyed + (imbalance.created + imbalance'.created) := by
  cases imbalance <;> cases imbalance' <;> simp only [Imbalance.offset, Option.mem_def,
    Option.some.injEq, reduceCtorEq] at h
  all_goals
    subst h
    split <;> simp only [created, destroyed] <;> omega

theorem merge_exact (hcreated : imbalance.created + imbalance'.created ≤ balanceMax)
    (hdestroyed : imbalance.destroyed + imbalance'.destroyed ≤ balanceMax)
    (h : result ∈ imbalance.merge imbalance') :
    result.created + (imbalance.destroyed + imbalance'.destroyed) =
      result.destroyed + (imbalance.created + imbalance'.created) := by
  cases imbalance <;> cases imbalance' <;> simp only [Imbalance.merge, Option.mem_def,
    Option.some.injEq, reduceCtorEq] at h
  all_goals
    subst h
    simp only [created, destroyed] at hcreated hdestroyed ⊢
    first
      | rw [satAdd_eq hcreated]; omega
      | rw [satAdd_eq hdestroyed]; omega

section Steps

variable {brr : AccountId} {e : Extrinsic} {s : Storage}

theorem operate_held {operation : Operation} (he : e.Held) (h : Exact brr e operation) :
    (operate brr operation e).Held := by
  cases operation with
  | transfer transactor dest value => exact he.transfer transactor dest value
  | depositBlockRewardReserveBalance transactor value => exact he.transfer transactor brr value
  | burnAccountBalance who amount => exact he.burnAccountBalance h
  | setBalance who newFree newReserved =>
    exact he.map ((setBalance_iff h.2).mpr h.1) ((he.issued.dropImbalance _).dropImbalance _)
  | updateLocks who locks =>
    refine he.map ?_ he.issued
    have hmoney : money (updateLocks who locks e.storage).account = money e.storage.account := by
      exact Nat.add_right_cancel (money_update e.storage.account who _)
    rw [hmoney]
    rfl
  | withdraw who value reasons =>
    exact he.run (fun imbalance s' h => withdraw_leaves h) fun imbalance s' h => by
      rw [(withdraw_ok h).2.2, totalIssuance_putFree]
  | depositIntoExisting who value =>
    exact he.run (fun imbalance s' h => depositIntoExisting_leaves h) fun imbalance s' h => by
      rw [(depositIntoExisting_ok h).2, totalIssuance_putFree]
  | depositCreating who value =>
    exact he.carry (depositCreating_leaves who value e.storage) (he.issued.depositCreating who value)
  | makeFreeBalanceBe who value =>
    exact he.carry (makeFreeBalanceBe_leaves who value e.storage) he.issued
  | issueUsingBlockRewardsReserve amount =>
    exact he.carry (issueUsingBlockRewardsReserve_leaves h)
      (he.issued.issueUsingBlockRewardsReserve amount)
  | issue amount => exact he.carry (issue_leaves amount he.issued) (he.issued.issue amount)
  | burn amount => exact he.carry (burn_leaves amount e.storage) (he.issued.burn amount)
  | split index amount => exact he.split index amount
  | merge index other =>
    refine he.combine fun imbalance hi imbalance' hi' result hresult => ?_
    obtain ⟨hcreated, hdestroyed⟩ := h imbalance hi imbalance' hi'
    exact merge_exact hcreated hdestroyed hresult
  | offset index other =>
    exact he.combine fun imbalance _ imbalance' _ result hresult => offset_exact hresult
  | drop index => exact he.drop h

/-- The issuance is what is held, and is a balance. -/
structure Held (s : Storage) : Prop where
  issuance : s.totalIssuance = money s.account
  issued : Issued s

theorem drops_held (imbalances : List Imbalance) (he : Extrinsic.Held ⟨s, imbalances⟩)
    (h : DropsAllExactly brr imbalances s) :
    Held (imbalances.foldl (fun s imbalance => dropImbalance brr imbalance s) s) := by
  induction imbalances generalizing s with
  | nil => exact ⟨by simpa [Extrinsic.Balanced] using he.balanced, he.issued⟩
  | cons imbalance imbalances ih =>
    have hbalanced : Extrinsic.Balanced ⟨dropImbalance brr imbalance s, imbalances⟩ :=
      Extrinsic.Balanced.drop (e := ⟨s, imbalances⟩) he.balanced h.1
    exact ih ⟨hbalanced, he.issued.dropImbalance imbalance⟩ h.2

theorem step_held {operations : List Operation} (hs : Held s) (h : ExactStep brr s operations) :
    Held (step brr operations s) := by
  have hstart : Extrinsic.Held ⟨s, []⟩ := ⟨by simpa [Extrinsic.Balanced] using hs.issuance, hs.issued⟩
  have hend := run_invariant Extrinsic.Held (fun e operation he => operate_held he) hstart h.1
  exact drops_held _ hend h.2

end Steps

/-! ## The genesis block -/

/-- The genesis block names nobody twice, and what it gives is a balance. -/
structure GenesisValid (balances : List (AccountId × ℕ)) : Prop where
  names : (balances.map Prod.fst).Nodup
  total : (balances.map Prod.snd).sum ≤ balanceMax

theorem money_default : money (fun _ => .default) = 0 := by
  simp [money, AccountData.holds, AccountData.default]

theorem money_foldl_update (balances : List (AccountId × ℕ)) (account : AccountId → AccountData)
    (hnames : (balances.map Prod.fst).Nodup)
    (hnew : ∀ who ∈ balances.map Prod.fst, (account who).holds = 0) :
    money (balances.foldl (fun account (who, free) =>
        update account who { AccountData.default with free }) account) =
      money account + (balances.map Prod.snd).sum := by
  induction balances generalizing account with
  | nil => rfl
  | cons entry balances ih =>
    obtain ⟨who, free⟩ := entry
    simp only [List.map_cons, List.nodup_cons, List.mem_cons, forall_eq_or_imp] at hnames hnew
    have hrest : ∀ who' ∈ balances.map Prod.fst,
        (update account who { AccountData.default with free } who').holds = 0 := by
      intro who' hwho'
      have hne : who' ≠ who := ne_of_mem_of_not_mem hwho' hnames.1
      rw [Function.update_of_ne hne]
      exact hnew.2 who' hwho'
    have hmoney := money_update account who { AccountData.default with free }
    rw [hnew.1] at hmoney
    simp only [AccountData.holds, AccountData.default, Nat.add_zero] at hmoney
    simp only [List.foldl_cons, List.map_cons, List.sum_cons]
    rw [ih _ hnames.2 hrest]
    simp only [AccountData.default]
    omega

theorem genesis_held {balances : List (AccountId × ℕ)} (h : GenesisValid balances) :
    Held (genesis balances) := by
  refine ⟨?_, h.total⟩
  have hmoney := money_foldl_update balances (fun _ => .default) h.names fun _ _ => rfl
  rw [money_default, Nat.zero_add] at hmoney
  exact hmoney.symm

/-- **The total issuance is what all accounts hold together.** It is so after every run of
extrinsics that are exact, and when the root sets a balance without a saturation it is so exactly if
nothing of the reserve for block rewards is written over. -/
theorem issuance_is_held (brr : AccountId) (balances : List (AccountId × ℕ))
    (hgenesis : GenesisValid balances) (s : Storage)
    (hs : ReachableBy (step brr) (ExactStep brr) (genesis balances) s) :
    s.totalIssuance = money s.account ∧
      ∀ who newFree newReserved, SetsExactly brr who newFree newReserved s →
        let s' := step brr [.setBalance who newFree newReserved] s
        (s'.totalIssuance = money s'.account ↔ LosesNothing brr who newFree newReserved s) := by
  have hheld : Held s := hs.invariant Held (genesis_held hgenesis) fun s operations => step_held
  refine ⟨hheld.issuance, fun who newFree newReserved hsets => ?_⟩
  rw [← setBalance_iff hsets]
  have hissuance := hheld.issuance
  show (setBalance brr who newFree newReserved s).totalIssuance =
    money (setBalance brr who newFree newReserved s).account ↔ _
  omega

/-- A chain with a reserve and one more account. -/
def endowed : List (AccountId × ℕ) := [(⟨0⟩, 100), (⟨1⟩, 50)]

/-- A transfer to the reserve, a fee that is withdrawn and kept by nobody, and a reward. -/
def rewarded : List (List Operation) :=
  [[.depositBlockRewardReserveBalance ⟨1⟩ 10, .withdraw ⟨1⟩ 5 .fee],
    [.issueUsingBlockRewardsReserve 200, .depositCreating ⟨2⟩ 200, .offset 0 0]]

theorem rewarded_exact : Along (step ⟨0⟩) (ExactStep ⟨0⟩) (genesis endowed) rewarded := by
  refine ⟨⟨⟨trivial, trivial, trivial⟩, ?_, trivial⟩, ⟨⟨?_, trivial, trivial, trivial⟩, ?_, trivial⟩,
    trivial⟩
  · show DropsExactly _ _ _
    decide +kernel
  · show _ ≤ _
    decide +kernel
  · show DropsExactly _ _ _
    decide +kernel

theorem issuance_is_held_rewarded :
    (run (step ⟨0⟩) (genesis endowed) rewarded).totalIssuance = 235 ∧
      money (run (step ⟨0⟩) (genesis endowed) rewarded).account = 235 :=
  have h := issuance_is_held ⟨0⟩ endowed ⟨by decide, by decide⟩ _ ⟨rewarded, rewarded_exact, rfl⟩
  ⟨by decide +kernel, h.1.symm.trans (by decide +kernel)⟩

/-- The root gives the reserve 150 where it had 100. The 50 more are taken from the reserve, which
is then written over: they are held, and were never issued. -/
theorem reserve_set_by_root :
    GenesisValid [(⟨0⟩, 100)] ∧
      let s := run (step ⟨0⟩) (genesis [(⟨0⟩, 100)]) [[.setBalance ⟨0⟩ 150 0]]
      s.totalIssuance = 100 ∧ (s.account ⟨0⟩).free = 150 ∧ s.totalIssuance < money s.account := by
  refine ⟨⟨by decide, by decide⟩, by decide +kernel, by decide +kernel, ?_⟩
  refine lt_of_lt_of_le ?_ (holds_le_money _ ⟨0⟩)
  decide +kernel

end Currency

end Polymesh
