import Polymesh.Governance.Motions

/-!
# Thresholds of votes

The votes of a motion are compared with the threshold of the committee by multiplying crosswise, in
32 bits and without a check (`pallets/committee/src/lib.rs`). Any fraction is accepted as a threshold,
so that the products may wrap around. The decision is that of the whole numbers while both products
are below `2 ^ 32`. If only one of them is, it is not, unless the other one is greater by as much.
-/

namespace Polymesh

open Transactional Tx

namespace Governance

namespace Committee

variable {execute : Call → Dispatch Unit} {proposal : Hash} {s : Storage} {v : PolymeshVotes}
  {main other : List IdentityId}

/-- What the votes of a side are worth: the product on their side of the comparison. -/
def worth (votes : ℕ) (s : Storage) : ℕ := votes * s.committee.voteThreshold.2

/-- What they have to be worth. -/
def needed (s : Storage) : ℕ := s.committee.voteThreshold.1 * s.committee.members.length

/-- The votes of one side are enough, over the whole numbers. -/
def Enough (main other : List IdentityId) (s : Storage) : Prop :=
  other.length ≤ main.length ∧ needed s ≤ worth main.length s

instance (main other : List IdentityId) (s : Storage) : Decidable (Enough main other s) :=
  inferInstanceAs (Decidable (_ ∧ _))

theorem satisfied_iff : satisfied main other s = true ↔
    other.length ≤ main.length ∧ needed s % 2 ^ 32 ≤ worth main.length s % 2 ^ 32 := by
  rw [satisfied, Bool.and_eq_true, decide_eq_true_iff]
  exact and_congr_right fun _ => decide_eq_true_iff

/-- What is done with a motion, given which sides have enough votes. -/
def decided (execute : Call → Dispatch Unit) (proposal : Hash) (approved rejected : Prop)
    [Decidable approved] [Decidable rejected] (s : Storage) : Except Error Unit × Storage :=
  if approved then finalizeProposal execute true proposal s
  else if rejected then finalizeProposal execute false proposal s
  else (.ok (), s)

section Decided

variable {approved rejected : Prop} [Decidable approved] [Decidable rejected]

theorem decided_of_not (h : ¬ approved) : decided execute proposal approved rejected s =
    if rejected then finalizeProposal execute false proposal s else (.ok (), s) :=
  if_neg h

theorem decided_of_imp (h : rejected → approved) : decided execute proposal approved rejected s =
    if approved then finalizeProposal execute true proposal s else (.ok (), s) := by
  unfold decided
  split
  · rfl
  · exact if_neg (mt h ‹_›)

end Decided

theorem executeIfPassed_live (hv : s.committee.voting proposal = some v)
    (hlive : ¬ expired v.expiry s) :
    executeIfPassed execute proposal s = decided execute proposal (satisfied v.ayes v.nays s = true)
      (satisfied v.nays v.ayes s = true) s := by
  simp only [executeIfPassed, bind, Tx.get, hv, attempt, ensureNotExpired, if_neg hlive, decided,
    onlyIf]
  by_cases happroved : satisfied v.ayes v.nays s = true
  · simp [happroved]
  · by_cases hrejected : satisfied v.nays v.ayes s = true <;> simp [happroved, hrejected, pure]

theorem finalizeProposal_ne (hv : s.committee.voting proposal = some v) (approved : Bool) :
    finalizeProposal execute approved proposal s ≠ (.ok (), s) := by
  intro h
  simp only [finalizeProposal, ↓run_ok, bind_ok] at h
  obtain ⟨_, _, -, _, s₁, -, hs⟩ := h
  have hnone : (clearProposal proposal s₁).committee.voting proposal = none := by
    simp [clearProposal]
  rw [hs, hv] at hnone
  cases hnone

theorem ite_eq_ite_iff {α : Type} {a b : α} (hne : a ≠ b) (P Q : Prop) [Decidable P] [Decidable Q] :
    ((if P then a else b) = if Q then a else b) ↔ (P ↔ Q) := by
  split_ifs <;> simp_all [hne.symm]

/-- The decision on a motion is that of the whole numbers. -/
def Exact (execute : Call → Dispatch Unit) (proposal : Hash) (v : PolymeshVotes) (s : Storage) :
    Prop :=
  executeIfPassed execute proposal s =
    decided execute proposal (Enough v.ayes v.nays s) (Enough v.nays v.ayes s) s

theorem exact_iff (hv : s.committee.voting proposal = some v) (hlive : ¬ expired v.expiry s) :
    Exact execute proposal v s ↔
      (needed s % 2 ^ 32 ≤ worth (max v.ayes.length v.nays.length) s % 2 ^ 32 ↔
        needed s ≤ worth (max v.ayes.length v.nays.length) s) := by
  rw [Exact, executeIfPassed_live hv hlive]
  rcases Nat.lt_or_ge v.ayes.length v.nays.length with hlt | hle
  · rw [max_eq_right hlt.le, decided_of_not fun h => Nat.not_le.mpr hlt (satisfied_iff.mp h).1,
      decided_of_not fun h => Nat.not_le.mpr hlt h.1,
      ite_eq_ite_iff (finalizeProposal_ne hv false), satisfied_iff, Enough]
    simp [hlt.le]
  · -- at a tie, a motion that is not approved is not rejected either
    have hsame : satisfied v.nays v.ayes s = true → satisfied v.ayes v.nays s = true := by
      rw [satisfied_iff, satisfied_iff]
      exact fun ⟨hge, h⟩ => ⟨hle, by rwa [le_antisymm hle hge] at h⟩
    have hsame' : Enough v.nays v.ayes s → Enough v.ayes v.nays s :=
      fun ⟨hge, h⟩ => ⟨hle, by rwa [le_antisymm hle hge] at h⟩
    rw [max_eq_left hle, decided_of_imp hsame, decided_of_imp hsame',
      ite_eq_ite_iff (finalizeProposal_ne hv true), satisfied_iff, Enough]
    simp [hle]

/-- **The decision on a motion is exact** while both products are below `2 ^ 32`. If only one of them
is, and the other one by less than `2 ^ 32` greater, then a majority is blocked or a minority passes. -/
theorem thresholds_exact (hv : s.committee.voting proposal = some v)
    (hlive : ¬ expired v.expiry s) :
    let votes := worth (max v.ayes.length v.nays.length) s
    (votes < 2 ^ 32 → needed s < 2 ^ 32 → Exact execute proposal v s) ∧
      (needed s < 2 ^ 32 → 2 ^ 32 ≤ votes → votes < needed s + 2 ^ 32 →
        ¬ Exact execute proposal v s) ∧
      (votes < 2 ^ 32 → 2 ^ 32 ≤ needed s → needed s ≤ votes + 2 ^ 32 →
        ¬ Exact execute proposal v s) := by
  simp only [exact_iff hv hlive]
  omega

/-- Two members, who have to agree. One of them has approved a motion. -/
def unanimous (n d : ℕ) : Storage :=
  setVoting ⟨7⟩ (some ⟨0, [⟨1⟩], [], none⟩)
    (setVoteThreshold n d (genesis [⟨1⟩, ⟨2⟩] 10 (1, 2))).2

/-- A threshold of all votes that is given in large numbers is met by one of two. -/
theorem thresholds_exact_minority :
    (setVoteThreshold (2 ^ 31) (2 ^ 31) (genesis [⟨1⟩, ⟨2⟩] 10 (1, 2))).1 = .ok () ∧
      ¬ Enough [⟨1⟩] [] (unanimous (2 ^ 31) (2 ^ 31)) ∧
      (executeIfPassed (fun _ => pure ()) ⟨7⟩
        (unanimous (2 ^ 31) (2 ^ 31))).2.committee.voting ⟨7⟩ = none := by
  refine ⟨by decide, by decide, by decide⟩

/-- The same threshold in small numbers is not. -/
theorem thresholds_exact_unanimous :
    executeIfPassed (fun _ => pure ()) ⟨7⟩ (unanimous 1 1) = (.ok (), unanimous 1 1) := by
  have hv : (unanimous 1 1).committee.voting ⟨7⟩ = some ⟨0, [⟨1⟩], [], none⟩ := by decide
  have hexact : Exact (fun _ => pure ()) ⟨7⟩ ⟨0, [⟨1⟩], [], none⟩ (unanimous 1 1) :=
    (thresholds_exact hv (by decide)).1 (by decide) (by decide)
  rw [hexact]
  rfl

end Committee

end Governance

end Polymesh
