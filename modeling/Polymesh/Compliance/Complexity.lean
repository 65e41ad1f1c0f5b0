import Mathlib.Algebra.Order.BigOperators.Group.List
import Polymesh.Compliance.Requirements

/-!
# The complexity of compliance

Requirements and default issuers are edited one without the other, but the worst case of a transfer
depends on both. It does not grow when a requirement or an issuer is removed, and every other edit
is verified with the number of issuers that there are after it, so it is bounded at all times. The
saturating sums of the source are exact below the bound.
-/

namespace Polymesh

open TransitionSystem

namespace ComplianceManager

/-! ## Complexity -/

/-- The worst case of a condition, as a number without a bound. -/
def Condition.worstCase (c : Condition) (defaultIssuerCount : ℕ) : ℕ :=
  c.conditionType.count *
    max (if c.issuers = [] then defaultIssuerCount else c.issuers.length) 1

/-- The worst case of all conditions of the requirements. -/
def totalComplexity (requirements : List ComplianceRequirement) (defaultIssuerCount : ℕ) : ℕ :=
  ((requirements.flatMap ComplianceRequirement.conditions).map
    (·.worstCase defaultIssuerCount)).sum

theorem Condition.complexity_eq (c : Condition) (n : ℕ) :
    c.complexity n = min (c.worstCase n) (2 ^ 32 - 1) := by
  obtain ⟨type, issuers⟩ := c
  cases issuers with
  | nil | cons issuer issuers => rfl

theorem foldl_saturatingAdd (conditions : List Condition) (n total : ℕ) :
    conditions.foldl (fun total c => saturatingAdd 32 total (c.complexity n))
        (min total (2 ^ 32 - 1)) =
      min (total + (conditions.map (·.worstCase n)).sum) (2 ^ 32 - 1) := by
  induction conditions generalizing total with
  | nil => rfl
  | cons c conditions ih =>
    rw [List.foldl_cons, List.map_cons, List.sum_cons, ← Nat.add_assoc, ← ih]
    refine congrArg (List.foldl _ · conditions) ?_
    rw [Condition.complexity_eq, saturatingAdd]
    omega

theorem complexity_eq (requirements : List ComplianceRequirement) (n : ℕ) :
    complexity requirements n = min (totalComplexity requirements n) (2 ^ 32 - 1) := by
  have hfold := foldl_saturatingAdd (requirements.flatMap ComplianceRequirement.conditions) n 0
  rw [Nat.zero_add] at hfold
  exact hfold

theorem Condition.worstCase_mono (c : Condition) {n n' : ℕ} (h : n ≤ n') :
    c.worstCase n ≤ c.worstCase n' := by
  unfold Condition.worstCase
  refine Nat.mul_le_mul_left _ (max_le_max ?_ le_rfl)
  split
  · exact h
  · exact le_rfl

theorem totalComplexity_mono {requirements requirements' : List ComplianceRequirement} {n n' : ℕ}
    (hreqs : requirements.Sublist requirements') (hn : n ≤ n') :
    totalComplexity requirements n ≤ totalComplexity requirements' n' := by
  have hconditions := hreqs.flatMap ComplianceRequirement.conditions
  calc totalComplexity requirements n
      ≤ totalComplexity requirements n' :=
        List.sum_le_sum fun c _ => c.worstCase_mono hn
    _ ≤ totalComplexity requirements' n' :=
        (hconditions.map _).sum_le_sum fun _ _ => Nat.zero_le _

theorem Rules.bounded_iff {r : Rules} :
    r.Bounded ↔ totalComplexity r.requirements r.issuers.length ≤ maxConditionComplexity := by
  rw [Rules.Bounded, complexity_eq, maxConditionComplexity]
  omega

/-! ## Runs -/

namespace Rules

variable {r r' : Rules}

theorem Bounded.of_sublist (hr : r.Bounded) (hreqs : r'.requirements.Sublist r.requirements)
    (hissuers : r'.issuers.length ≤ r.issuers.length) : r'.Bounded := by
  rw [bounded_iff] at hr ⊢
  exact (totalComplexity_mono hreqs hissuers).trans hr

theorem bounded_of_edit (h : Edit r r') (hr : r.Bounded) : r'.Bounded := by
  cases h with
  | keep => exact hr
  | remove id => exact hr.of_sublist List.filter_sublist le_rfl
  | replace hordered hencoded hbounded | change hold hid hbounded => exact hbounded
  | reset => exact hr.of_sublist (List.nil_sublist _) le_rfl
  | trust issuer hlimited hbounded => exact hbounded
  | distrust issuer =>
    exact hr.of_sublist (List.Sublist.refl _) (List.length_filter_le _ _)

end Rules

/-- Every asset has a bounded worst case, and not too many issuers. -/
structure Restrained (s : Storage) : Prop where
  limited : ∀ t, (s.rules t).Limited
  bounded : ∀ t, (s.rules t).Bounded

theorem Restrained.next {s : Storage} (hs : Restrained s) (a : Action) :
    Restrained (step a s) where
  limited := limited_step hs.limited a
  bounded t := by
    rcases step_rules hs.limited a t with ⟨-, req, -, -, hbounded⟩ | ⟨-, hedit⟩
    · exact hbounded
    · exact Rules.bounded_of_edit hedit (hs.bounded t)

theorem run_restrained (as : List Action) : Restrained (run step genesis as) :=
  Reachable.invariant Restrained ⟨fun _ => Nat.zero_le _, fun _ => Nat.zero_le _⟩ (fun _ a hs => hs.next a) ⟨as, rfl⟩

/-- **The complexity of compliance is bounded**: after every run, the worst case of all conditions
of an asset, with as many default issuers as there are, is within the bound, and is what the source
computes. -/
theorem compliance_bounded (as : List Action) (ticker : Ticker) :
    let s := run step genesis as
    let requirements := (s.assetCompliance ticker).requirements
    let count := (s.trustedClaimIssuer ticker).length
    totalComplexity requirements count ≤ maxConditionComplexity ∧
      complexity requirements count = totalComplexity requirements count := by
  have hbounded := Rules.bounded_iff.mp ((run_restrained as).bounded ticker)
  refine ⟨hbounded, ?_⟩
  rw [complexity_eq]
  refine min_eq_left (hbounded.trans ?_)
  decide

end ComplianceManager

end Polymesh
