import Mathlib.Algebra.BigOperators.Group.Finset.Basic
import Mathlib.Algebra.BigOperators.Group.Finset.Piecewise
import Mathlib.Algebra.Order.BigOperators.Group.Finset
import Mathlib.Data.Fintype.BigOperators
import Polymesh.Library.Collections

/-!
# Books of account

Sums and counts of a function that changes at one point, and two structures built on them:
a book that records holdings at three levels (the supply, the total of every owner, the
holdings of every owner), and a reserve that covers several claims.
-/

open scoped BigOperators

namespace Bookkeeping

open Collections
open Function (update update_apply update_of_ne update_self)

/-! ## Sums and counts under a point update -/

section Update

variable {ι : Type} [Fintype ι] [DecidableEq ι]

theorem sum_update_add (f : ι → ℕ) (i : ι) (v : ℕ) :
    ∑ j, update f i v j + f i = ∑ j, f j + v := by
  rw [Finset.sum_update_of_mem (Finset.mem_univ i), ← Finset.erase_eq, add_assoc,
    Finset.sum_erase_add _ _ (Finset.mem_univ i), add_comm]

theorem sum_update_increase (f : ι → ℕ) (i : ι) (v : ℕ) :
    ∑ j, update f i (f i + v) j = ∑ j, f j + v := by
  have h := sum_update_add f i (f i + v)
  omega

theorem sum_update_decrease (f : ι → ℕ) (i : ι) {v : ℕ} (hv : v ≤ f i) :
    ∑ j, update f i (f i - v) j = ∑ j, f j - v := by
  have h := sum_update_add f i (f i - v)
  omega

/-- Move `v` from one entry to another. -/
def shift (f : ι → ℕ) (i j : ι) (v : ℕ) : ι → ℕ :=
  update (update f i (f i - v)) j (update f i (f i - v) j + v)

omit [Fintype ι] in
theorem shift_add {f : ι → ℕ} {i j : ι} {v : ℕ} (hv : v ≤ f i) (k : ι) :
    shift f i j v k + (if k = i then v else 0) = f k + if k = j then v else 0 := by
  unfold shift
  simp only [update_apply]
  split_ifs <;> simp_all

theorem sum_shift {f : ι → ℕ} {i : ι} (j : ι) {v : ℕ} (hv : v ≤ f i) :
    ∑ k, shift f i j v k = ∑ k, f k := by
  have hle := hv.trans (Finset.single_le_sum (fun _ _ => Nat.zero_le _) (Finset.mem_univ i))
  rw [shift, sum_update_increase, sum_update_decrease f i hv]
  omega

theorem card_filter_update {β : Type} (P : β → Prop) [DecidablePred P] (f : ι → β) (i : ι)
    (v : β) :
    (Finset.univ.filter fun j => P (update f i v j)).card + (if P (f i) then 1 else 0) =
      (Finset.univ.filter fun j => P (f j)).card + if P v then 1 else 0 := by
  have h := sum_update_add (fun j => if P (f j) then 1 else 0) i (if P v then 1 else 0)
  have hcomp : update (fun j => if P (f j) then 1 else 0) i (if P v then 1 else 0) =
      fun j => if P (update f i v j) then 1 else 0 := by
    refine (Function.eq_update_iff.mpr ⟨?_, fun j hj => ?_⟩).symm
    · simp
    · simp [hj]
  rw [hcomp] at h
  rw [Finset.card_filter, Finset.card_filter]
  exact h

omit [DecidableEq ι] in
theorem le_sum (f : ι → ℕ) (i : ι) : f i ≤ ∑ j, f j :=
  Finset.single_le_sum (fun _ _ => Nat.zero_le _) (Finset.mem_univ i)

theorem add_le_sum (f : ι → ℕ) {i j : ι} (hij : i ≠ j) : f i + f j ≤ ∑ k, f k := by
  rw [← Finset.sum_pair hij]
  exact Finset.sum_le_sum_of_subset (Finset.subset_univ _)

end Update

/-! ## Books -/

/-- Holdings of one asset at three levels: the supply, the total of every owner, and the
holdings of every owner by account. -/
@[ext] structure Book (O K : Type) where
  supply : ℕ
  total : O → ℕ
  holding : O → K → ℕ

namespace Book

variable {O K : Type} [DecidableEq O] [DecidableEq K]

/-- Add to a holding, at every level. -/
def credit (o : O) (k : K) (v : ℕ) (b : Book O K) : Book O K where
  supply := b.supply + v
  total := update b.total o (b.total o + v)
  holding := update₂ b.holding o k (b.holding o k + v)

/-- Take from a holding, at every level. -/
def debit (o : O) (k : K) (v : ℕ) (b : Book O K) : Book O K where
  supply := b.supply - v
  total := update b.total o (b.total o - v)
  holding := update₂ b.holding o k (b.holding o k - v)

/-- Move between two holdings. -/
def move (o : O) (k : K) (o' : O) (k' : K) (v : ℕ) (b : Book O K) : Book O K :=
  (b.debit o k v).credit o' k' v

/-- All entries of all three levels are multiples of one unit. -/
structure InUnits (unit : ℕ) (b : Book O K) : Prop where
  supply : unit ∣ b.supply
  total : ∀ o, unit ∣ b.total o
  holding : ∀ o k, unit ∣ b.holding o k

namespace InUnits

variable {unit v : ℕ} {b : Book O K}

theorem credit (h : b.InUnits unit) (hv : unit ∣ v) (o : O) (k : K) :
    (b.credit o k v).InUnits unit where
  supply := Nat.dvd_add h.supply hv
  total o' := by
    simp only [Book.credit, update_apply]
    split_ifs
    · exact Nat.dvd_add (h.total o) hv
    · exact h.total o'
  holding o' k' := by
    simp only [Book.credit, update₂_apply]
    split_ifs
    · exact Nat.dvd_add (h.holding o k) hv
    · exact h.holding o' k'

theorem debit (h : b.InUnits unit) (hv : unit ∣ v) (o : O) (k : K) :
    (b.debit o k v).InUnits unit where
  supply := Nat.dvd_sub h.supply hv
  total o' := by
    simp only [Book.debit, update_apply]
    split_ifs
    · exact Nat.dvd_sub (h.total o) hv
    · exact h.total o'
  holding o' k' := by
    simp only [Book.debit, update₂_apply]
    split_ifs
    · exact Nat.dvd_sub (h.holding o k) hv
    · exact h.holding o' k'

theorem move (h : b.InUnits unit) (hv : unit ∣ v) (o : O) (k : K) (o' : O) (k' : K) :
    (b.move o k o' k' v).InUnits unit :=
  (h.debit hv o k).credit hv o' k'

end InUnits

variable [Fintype O] [Fintype K]

/-- The three levels agree. -/
structure Balanced (b : Book O K) : Prop where
  supply_eq : ∑ o, b.total o = b.supply
  total_eq : ∀ o, b.total o = ∑ k, b.holding o k

namespace Balanced

variable {b : Book O K}

omit [DecidableEq O] [DecidableEq K] in
theorem holding_le_total (h : b.Balanced) (o : O) (k : K) : b.holding o k ≤ b.total o := by
  rw [h.total_eq]
  exact le_sum (b.holding o) k

omit [DecidableEq O] [DecidableEq K] in
theorem total_le_supply (h : b.Balanced) (o : O) : b.total o ≤ b.supply := by
  rw [← h.supply_eq]
  exact le_sum b.total o

omit [DecidableEq O] [DecidableEq K] in
/-- **Nobody holds more than the supply.** -/
theorem holding_le_supply (h : b.Balanced) (o : O) (k : K) : b.holding o k ≤ b.supply :=
  (h.holding_le_total o k).trans (h.total_le_supply o)

omit [DecidableEq O] [DecidableEq K] in
theorem inUnits_of_supply_eq_zero (h : b.Balanced) (h₀ : b.supply = 0) (unit : ℕ) :
    b.InUnits unit where
  supply := h₀ ▸ Nat.dvd_zero unit
  total o := by
    have hle := h.total_le_supply o
    rw [h₀, Nat.le_zero] at hle
    exact hle ▸ Nat.dvd_zero unit
  holding o k := by
    have hle := h.holding_le_supply o k
    rw [h₀, Nat.le_zero] at hle
    exact hle ▸ Nat.dvd_zero unit

theorem holding_add_holding_le (h : b.Balanced) (o o' : O) (k k' : K)
    (hne : (o, k) ≠ (o', k')) : b.holding o k + b.holding o' k' ≤ b.supply := by
  by_cases ho : o = o'
  · subst ho
    have hk : k ≠ k' := fun hk => hne (by rw [hk])
    calc b.holding o k + b.holding o k' ≤ ∑ k, b.holding o k := add_le_sum (b.holding o) hk
      _ = b.total o := (h.total_eq o).symm
      _ ≤ b.supply := h.total_le_supply o
  · calc b.holding o k + b.holding o' k' ≤ b.total o + b.total o' :=
          Nat.add_le_add (h.holding_le_total o k) (h.holding_le_total o' k')
      _ ≤ ∑ o, b.total o := add_le_sum b.total ho
      _ = b.supply := h.supply_eq

theorem credit (h : b.Balanced) (o : O) (k : K) (v : ℕ) : (b.credit o k v).Balanced where
  supply_eq := by
    rw [Book.credit, sum_update_increase, h.supply_eq]
  total_eq o' := by
    by_cases ho : o' = o
    · subst ho
      simp only [Book.credit, update₂, update_self]
      rw [sum_update_increase, h.total_eq]
    · simp only [Book.credit, update₂_of_ne_left _ ho, update_of_ne ho]
      exact h.total_eq o'

theorem debit (h : b.Balanced) {o : O} {k : K} {v : ℕ} (hv : v ≤ b.holding o k) :
    (b.debit o k v).Balanced where
  supply_eq := by
    have hle := hv.trans (h.holding_le_total o k)
    rw [Book.debit, sum_update_decrease b.total o hle, h.supply_eq]
  total_eq o' := by
    by_cases ho : o' = o
    · subst ho
      simp only [Book.debit, update₂, update_self]
      rw [sum_update_decrease (b.holding o') k hv, h.total_eq]
    · simp only [Book.debit, update₂_of_ne_left _ ho, update_of_ne ho]
      exact h.total_eq o'

theorem move (h : b.Balanced) {o : O} {k : K} {v : ℕ} (hv : v ≤ b.holding o k) (o' : O)
    (k' : K) : (b.move o k o' k' v).Balanced :=
  (h.debit hv).credit o' k' v

end Balanced

end Book

/-! ## Reserves -/

section Reserve

variable {ι K : Type} [Fintype ι] {C C₁ C₂ : ι → K → ℕ} {R R₁ R₂ : K → ℕ}

/-- Under every key, the reserve covers the sum of the claims. -/
def Covered (C : ι → K → ℕ) (R : K → ℕ) : Prop := ∀ k, ∑ i, C i k ≤ R k

/-- Under every key, the reserve loses no more than the claims do. -/
def Secures (C : ι → K → ℕ) (R : K → ℕ) (C' : ι → K → ℕ) (R' : K → ℕ) : Prop :=
  ∀ k, ∑ i, C' i k + R k ≤ ∑ i, C i k + R' k

/-- **A covered claim can be paid.** -/
theorem Covered.claim_le (h : Covered C R) (i : ι) (k : K) : C i k ≤ R k :=
  (le_sum (fun i => C i k) i).trans (h k)

/-- **A change that secures the claims keeps them covered.** -/
theorem Covered.secures (h : Covered C R) (h' : Secures C R C₁ R₁) : Covered C₁ R₁ := by
  intro k
  have hk := h k
  have hk' := h' k
  omega

theorem Secures.refl (C : ι → K → ℕ) (R : K → ℕ) : Secures C R C R := fun _ => le_rfl

theorem Secures.trans (h : Secures C R C₁ R₁) (h' : Secures C₁ R₁ C₂ R₂) :
    Secures C R C₂ R₂ := by
  intro k
  have hk := h k
  have hk' := h' k
  omega

/-- A change that secures the claims does so on top of anything else in the reserve. -/
theorem Secures.add (h : Secures C R C₁ R₁) (a : K → ℕ) :
    Secures C (fun k => R k + a k) C₁ fun k => R₁ k + a k := by
  intro k
  have hk := h k
  change ∑ i, C₁ i k + (R k + a k) ≤ ∑ i, C i k + (R₁ k + a k)
  omega

theorem secures_update [DecidableEq ι] (i : ι) {c : K → ℕ}
    (h : ∀ k, c k + R k ≤ C i k + R₁ k) : Secures C R (update C i c) R₁ := by
  intro k
  have hsum : ∑ j, update (fun j => C j k) i (c k) j + C i k = ∑ j, C j k + c k :=
    sum_update_add (fun j => C j k) i (c k)
  have hcomp : ∑ j, update C i c j k = ∑ j, update (fun j => C j k) i (c k) j := by
    refine Finset.sum_congr rfl fun j _ => ?_
    by_cases hj : j = i
    · subst hj
      simp
    · simp [hj]
  have hk := h k
  omega

end Reserve

end Bookkeeping
