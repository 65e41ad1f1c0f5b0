import Polymesh.Library.Runs
import Polymesh.Library.Transaction
import Polymesh.Primitives

/-!
# The vesting of POLYX

A contract that holds POLYX and pays it out over a period (`contracts/polyx-vesting`). What has
vested is computed from the balance and what has been released, so that it follows deposits made
meanwhile. The constructor accepts a period of no length, and the contract then divides by it.
-/

namespace Polymesh

open Transactional TransitionSystem

structure PolyxVesting where
  released : ℕ
  beneficiary : AccountId
  start : ℕ
  duration : ℕ

namespace PolyxVesting

inductive Error
  | insufficientBalance
  | fundsNotReleased
  | invalidStartTimestamp
  | durationOverflow
  | invalidTimestamp

/-- A message that does not succeed: it traps, or returns an error. Its writes are undone. -/
inductive Failure
  | panic
  | returned (e : Error)

def validation (c : PolyxVesting) (now : ℕ) : Except Error Unit :=
  if c.start < now then .error .invalidStartTimestamp
  else if (checkedAdd 64 c.start c.duration).isNone then .error .durationOverflow
  else .ok ()

def new (beneficiary : AccountId) (start duration now : ℕ) : Except Error PolyxVesting := do
  let contract : PolyxVesting := ⟨0, beneficiary, start, duration⟩
  contract.validation now
  return contract

def vestingSchedule (c : PolyxVesting) (totalAllocation : ℕ) (timestamp : ℕ) :
    Except Failure ℕ :=
  if timestamp < c.start then .ok 0
  else if saturatingAdd 64 c.start c.duration < timestamp then .ok totalAllocation
  else do
    let product ← okOr (checkedMul 128 totalAllocation (timestamp - c.start)) .panic
    ensure (c.duration ≠ 0) .panic
    return product / c.duration

/-- The contract on its chain, and what it has received so far. The beneficiary is another account:
the address of a contract depends on the arguments of its constructor. -/
structure State where
  contract : PolyxVesting
  balance : ℕ
  now : ℕ
  received : ℕ

namespace State

def vestedAmount (s : State) (timestamp : ℕ) : Except Failure ℕ :=
  s.contract.vestingSchedule (satAdd s.balance s.contract.released) timestamp

def releasable (s : State) : Except Failure ℕ := do
  let vested ← s.vestedAmount s.now
  return vested - s.contract.released

def release (s : State) : Except Failure State := do
  let amount ← s.releasable
  ensure (amount ≠ 0) (.returned .fundsNotReleased)
  let released ← okOr (checkedAdd 128 s.contract.released amount) .panic
  -- the transfer to the beneficiary
  ensure (amount ≤ s.balance) (.returned .insufficientBalance)
  return { s with contract.released := released, balance := s.balance - amount }

def wait (elapsed : ℕ) (s : State) : State := { s with now := s.now + elapsed }

end State

/-- What happens to the contract, some time after what happened before. -/
inductive Action
  | deposit (elapsed amount : ℕ)
  | release (elapsed : ℕ)

def step : Action → State → State
  | .deposit elapsed amount, s =>
    { s.wait elapsed with balance := s.balance + amount, received := s.received + amount }
  | .release elapsed, s => (s.wait elapsed).release.toOption.getD (s.wait elapsed)

/-- A contract is made with an endowment. -/
def deployed (c : PolyxVesting) (endowment now : ℕ) : State := ⟨c, endowment, now, endowment⟩

namespace State

variable {s s' : State}

/-- What is due of all that has been received. -/
def vested (s : State) (t : ℕ) : ℕ :=
  if t ≤ s.contract.start + s.contract.duration then
    s.received * (t - s.contract.start) / s.contract.duration
  else s.received

/-- **The contract pays what has vested**: no message traps, a release brings what has been
released up to what has vested, this never decreases, and in the end it is everything. -/
structure PaysVested (s : State) : Prop where
  safe (t : ℕ) : s.vestedAmount t ≠ .error .panic ∧ (s.wait t).release ≠ .error .panic
  pays (elapsed : ℕ) (s' : State) (h : (s.wait elapsed).release = .ok s') :
    s'.contract.released = s.vested (s.now + elapsed)
  grows (a : Action) (h : (step a s).received ≤ 10 ^ 18) : ∃ v v',
    s.vestedAmount s.now = .ok v ∧ (step a s).vestedAmount (step a s).now = .ok v' ∧ v ≤ v'
  all (elapsed : ℕ) (h : s.contract.start + s.contract.duration ≤ s.now + elapsed) :
    (step (.release elapsed) s).contract.released = s.received

/-- The parameters were accepted and the period has a length, and nothing is lost. -/
structure Sound (s : State) : Prop where
  ends : s.contract.start + s.contract.duration < 2 ^ 64
  length : 0 < s.contract.duration
  balance : s.balance + s.contract.released = s.received

theorem Sound.wait (hs : s.Sound) (elapsed : ℕ) : (s.wait elapsed).Sound :=
  ⟨hs.ends, hs.length, hs.balance⟩

theorem vested_le (s : State) (t : ℕ) : s.vested t ≤ s.received := by
  unfold vested
  split
  case isTrue h =>
    rw [mul_comm]
    exact Nat.div_le_of_le_mul (Nat.mul_le_mul_right _ (by omega))
  case isFalse => exact le_rfl

theorem vestedAmount_eq (hs : s.Sound) (h : s.received ≤ 10 ^ 18) (t : ℕ) :
    s.vestedAmount t = .ok (s.vested t) := by
  have hends := hs.ends
  have htotal : satAdd s.balance s.contract.released = s.received := by
    rw [satAdd, hs.balance, balanceMax]
    omega
  have hend : saturatingAdd 64 s.contract.start s.contract.duration =
      s.contract.start + s.contract.duration := by
    rw [saturatingAdd]
    omega
  rw [vestedAmount, htotal, vestingSchedule, hend, vested]
  by_cases hstart : t < s.contract.start
  · rw [if_pos hstart, if_pos (by omega), Nat.sub_eq_zero_of_le hstart.le, mul_zero, Nat.zero_div]
  rw [if_neg hstart]
  by_cases hover : s.contract.start + s.contract.duration < t
  · rw [if_pos hover, if_neg (Nat.not_le.mpr hover)]
  have hproduct : s.received * (t - s.contract.start) < 2 ^ 128 := by
    calc s.received * (t - s.contract.start) ≤ 10 ^ 18 * 2 ^ 64 := Nat.mul_le_mul h (by omega)
      _ < 2 ^ 128 := by decide
  rw [if_neg hover, if_pos (Nat.not_lt.mp hover), checkedMul, if_pos hproduct]
  simp [okOr, ensure, hs.length.ne']

/-- **A release** brings what has been released up to what has vested. -/
theorem release_eq (hs : s.Sound) (h : s.received ≤ 10 ^ 18) : s.release =
    if s.vested s.now ≤ s.contract.released then .error (.returned .fundsNotReleased)
    else .ok { s with
      contract.released := s.vested s.now
      balance := s.received - s.vested s.now } := by
  have hle := s.vested_le s.now
  have hbalance := hs.balance
  rw [release, releasable, vestedAmount_eq hs h]
  change (ensure (s.vested s.now - s.contract.released ≠ 0) _ >>= _) = _
  by_cases hdue : s.vested s.now ≤ s.contract.released
  · rw [if_pos hdue, ensure, if_neg (by omega)]
    rfl
  · have hadd : s.contract.released + (s.vested s.now - s.contract.released) = s.vested s.now := by
      omega
    have hsub : s.balance - (s.vested s.now - s.contract.released) =
        s.received - s.vested s.now := by omega
    rw [if_neg hdue, checkedAdd, hadd, hsub, if_pos (by omega), ensure, if_pos (by omega), ensure,
      if_pos (by omega)]
    rfl

/-- A later state of the same contract. -/
structure Later (s s' : State) : Prop where
  start : s'.contract.start = s.contract.start
  duration : s'.contract.duration = s.contract.duration
  received : s.received ≤ s'.received
  now : s.now ≤ s'.now

theorem release_sound (hs : s.Sound) (h : s.release = .ok s') : s'.Sound ∧ Later s s' := by
  simp [release] at h
  obtain ⟨amount, -, -, -, hle, rfl⟩ := h
  refine ⟨⟨hs.ends, hs.length, ?_⟩, rfl, rfl, le_rfl, le_rfl⟩
  have hbalance := hs.balance
  simp only
  omega

/-- **What has vested never decreases.** -/
theorem Later.vested_le (h : Later s s') : s.vested s.now ≤ s'.vested s'.now := by
  have hnow := h.now
  by_cases hs' : s'.now ≤ s'.contract.start + s'.contract.duration
  · have hs : s.now ≤ s.contract.start + s.contract.duration := by
      rw [h.start, h.duration] at hs'
      exact hnow.trans hs'
    rw [vested, vested, if_pos hs, if_pos hs', h.start, h.duration]
    exact Nat.div_le_div_right (Nat.mul_le_mul h.received (Nat.sub_le_sub_right hnow _))
  · rw [vested.eq_1 s', if_neg hs']
    exact (s.vested_le _).trans h.received

theorem step_sound (hs : s.Sound) (a : Action) :
    (step a s).Sound ∧ Later s (step a s) := by
  cases a with
  | deposit elapsed amount =>
    refine ⟨⟨hs.ends, hs.length, ?_⟩, rfl, rfl, Nat.le_add_right _ _, Nat.le_add_right _ _⟩
    have hbalance := hs.balance
    simp only [step, wait]
    omega
  | release elapsed =>
    rw [step]
    cases hrelease : (s.wait elapsed).release with
    | error => exact ⟨hs.wait elapsed, rfl, rfl, le_rfl, Nat.le_add_right _ _⟩
    | ok s' =>
      obtain ⟨hsound, hlater⟩ := release_sound (hs.wait elapsed) hrelease
      exact ⟨hsound, hlater.1, hlater.2, hlater.3, (Nat.le_add_right _ _).trans hlater.now⟩

theorem Sound.paysVested (hs : s.Sound) (h : s.received ≤ 10 ^ 18) : s.PaysVested where
  safe t := by
    rw [vestedAmount_eq hs h, release_eq (hs.wait _) h]
    refine ⟨nofun, ?_⟩
    split <;> nofun
  pays elapsed s' hrelease := by
    rw [release_eq (hs.wait _) h] at hrelease
    split at hrelease
    · cases hrelease
    · cases hrelease
      rfl
  grows a ha := by
    obtain ⟨hsound, hlater⟩ := step_sound hs a
    exact ⟨_, _, vestedAmount_eq hs h _, vestedAmount_eq hsound ha _, hlater.vested_le⟩
  all elapsed hover := by
    have hall : (s.wait elapsed).vested (s.now + elapsed) = s.received := by
      rw [vested]
      split
      case isTrue hle =>
        have hlength : s.now + elapsed - s.contract.start = s.contract.duration :=
          Nat.sub_eq_of_eq_add' (hle.antisymm hover)
        change s.received * (s.now + elapsed - s.contract.start) / s.contract.duration = _
        rw [hlength, Nat.mul_div_cancel _ hs.length]
      case isFalse => rfl
    simp only [step, release_eq (hs.wait _) h]
    split
    case isTrue hle =>
      exact le_antisymm (hs.balance ▸ Nat.le_add_left _ _) (hall ▸ hle)
    case isFalse => exact hall

end State

variable {beneficiary : AccountId} {start duration now : ℕ} {c : PolyxVesting}

theorem new_ok (h : new beneficiary start duration now = .ok c) :
    c = ⟨0, beneficiary, start, duration⟩ ∧ start + duration < 2 ^ 64 := by
  simp only [new, validation] at h
  split_ifs at h with hstart hsum <;> cases h
  refine ⟨rfl, ?_⟩
  simpa [checkedAdd] using hsum

/-- **The contract pays what has vested** in every run of deposits and releases, whatever it is made
with, if and only if its period has a length. -/
theorem pays_vested_iff (h : new beneficiary start duration now = .ok c) :
    (∀ (endowment : ℕ) (as : List Action), let s := run step (deployed c endowment now) as
      s.received ≤ 10 ^ 18 → s.PaysVested) ↔ 0 < duration := by
  obtain ⟨rfl, hends⟩ := new_ok h
  constructor
  · intro hpays
    by_contra hzero
    obtain rfl : duration = 0 := Nat.eq_zero_of_not_pos hzero
    -- at the start the period is not over, and its length is what the contract divides by
    refine ((hpays 0 [] (Nat.zero_le _)).safe start).1 ?_
    have hend : saturatingAdd 64 start 0 = start := by
      rw [saturatingAdd]
      omega
    simp [State.vestedAmount, deployed, vestingSchedule, hend, satAdd, checkedMul, okOr, ensure]
  · intro hlength endowment as
    exact (run_invariant State.Sound (fun _ a hs _ => (State.step_sound hs a).1)
      ⟨hends, hlength, rfl⟩ (along_true _ as)).paysVested

theorem pays_vested_iff_quarter :
    (run step (deployed ⟨0, ⟨7⟩, 24, 80⟩ 100 0) [.deposit 30 20, .release 14]).PaysVested :=
  (pays_vested_iff (show new ⟨7⟩ 24 80 0 = .ok ⟨0, ⟨7⟩, 24, 80⟩ from rfl)).mpr (by decide) 100
    [.deposit 30 20, .release 14] (by decide)

/-- A contract of no length, whose release traps at the start. -/
theorem vesting_divides_by_zero :
    let c : PolyxVesting := ⟨0, ⟨7⟩, 24, 0⟩
    new ⟨7⟩ 24 0 0 = .ok c ∧ ((deployed c 100 0).wait 24).release = .error .panic :=
  ⟨rfl, rfl⟩

end PolyxVesting

end Polymesh
