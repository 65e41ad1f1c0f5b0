import Polymesh.Library.AssocLists
import Polymesh.Library.Bookkeeping
import Polymesh.Pips.Runtime

/-!
# The records of a proposal

What is stored of one proposal agrees with its state: the result is the tally of its votes, every
vote is backed by a deposit while it is active, and nothing but a schedule is left of it once it is
pruned.
-/

namespace Polymesh

open Transactional Currency AssocLists

namespace Pips

theorem Storage.mapPip_self (s : Storage) (id : PipId) (f : PipStorage → PipStorage) :
    (s.mapPip id f).pips id = f (s.pips id) :=
  Function.update_self ..

/-! ## Tallies -/

/-- The count and the stake of one direction. -/
def VotingResult.side (stats : VotingResult) (direction : Bool) : ℕ × ℕ :=
  if direction then (stats.ayesCount, stats.ayesStake) else (stats.naysCount, stats.naysStake)

/-- A vote as one of a direction. -/
def Vote.counts (direction : Bool) (v : Vote) : ℕ := if v.direction = direction then 1 else 0

/-- The stake of a vote for a direction. -/
def Vote.weighs (direction : Bool) (v : Vote) : ℕ := if v.direction = direction then v.stake else 0

/-- The result is the tally of the votes, and its numbers fit. -/
structure Tallied (result : VotingResult) (votes : AList fun _ : AccountId => Vote) : Prop where
  sides : ∀ direction, result.side direction =
    (total (Vote.counts direction) votes, total (Vote.weighs direction) votes)
  fits : ∀ direction, (result.side direction).1 < 2 ^ 32 ∧ (result.side direction).2 < 2 ^ 128

section Tallies

variable {p : PipStorage} {stats : VotingResult} {voter : AccountId} {v : Vote}

theorem side_withdraw (v : Vote) (stats : VotingResult) (direction : Bool) :
    (stats.withdraw v).side direction = if v.direction = direction then
      (wrapSub 32 (stats.side direction).1 1, wrapSub 128 (stats.side direction).2 v.stake)
      else stats.side direction := by
  cases hv : v.direction <;> cases direction <;> simp [VotingResult.withdraw, VotingResult.side, hv]

theorem side_cast {stats' : VotingResult} (h : stats.cast v = .ok stats') (direction : Bool) :
    stats'.side direction = (if v.direction = direction then
      ((stats.side direction).1 + 1, (stats.side direction).2 + v.stake)
      else stats.side direction) ∧
    (v.direction = direction → (stats'.side direction).1 < 2 ^ 32 ∧
      (stats'.side direction).2 < 2 ^ 128) := by
  unfold VotingResult.cast at h
  cases hv : v.direction with
  | true =>
    simp only [hv, if_true, except_bind_eq_ok, okOr_eq_ok, checkedAdd_eq_some,
      except_pure_eq_ok] at h
    obtain ⟨count, ⟨hcount, rfl⟩, stake, ⟨hstake, rfl⟩, rfl⟩ := h
    cases direction with
    | true => exact ⟨rfl, fun _ => ⟨hcount, hstake⟩⟩
    | false => exact ⟨rfl, fun h => Bool.noConfusion h⟩
  | false =>
    simp only [hv, Bool.false_eq_true, if_false, except_bind_eq_ok, okOr_eq_ok, checkedAdd_eq_some,
      except_pure_eq_ok] at h
    obtain ⟨count, ⟨hcount, rfl⟩, stake, ⟨hstake, rfl⟩, rfl⟩ := h
    cases direction with
    | true => exact ⟨rfl, fun h => Bool.noConfusion h⟩
    | false => exact ⟨rfl, fun _ => ⟨hcount, hstake⟩⟩

variable {old : Vote}

theorem Tallied.withdraws (h : Tallied p.result p.votes) (hold : p.votes.lookup voter = some old) :
    1 ≤ (p.result.side old.direction).1 ∧ old.stake ≤ (p.result.side old.direction).2 := by
  rw [h.sides]
  have hcounts := le_total (Vote.counts old.direction) hold
  have hweighs := le_total (Vote.weighs old.direction) hold
  simp only [Vote.counts, Vote.weighs, if_true] at hcounts hweighs
  exact ⟨hcounts, hweighs⟩

theorem Tallied.side_withdraw (h : Tallied p.result p.votes)
    (hold : p.votes.lookup voter = some old) (direction : Bool) :
    ((p.result.withdraw old).side direction).1 + old.counts direction =
        total (Vote.counts direction) p.votes ∧
      ((p.result.withdraw old).side direction).2 + old.weighs direction =
        total (Vote.weighs direction) p.votes := by
  have hsides := h.sides direction
  have hfits := h.fits direction
  rw [Pips.side_withdraw]
  unfold Vote.counts Vote.weighs
  split_ifs with hdirection
  · subst hdirection
    obtain ⟨hone, hstake⟩ := h.withdraws hold
    rw [wrapSub_eq hfits.1 hone, wrapSub_eq hfits.2 hstake]
    dsimp only
    rw [Nat.sub_add_cancel hone, Nat.sub_add_cancel hstake, hsides]
    exact ⟨rfl, rfl⟩
  · rw [hsides]
    exact ⟨rfl, rfl⟩

/-- The sides before a vote is added, without an earlier one of the same account. -/
theorem revote_base (h : Tallied p.result p.votes) (hrevote : p.revote voter v = .ok stats) :
    ∃ base : VotingResult, base.cast v = .ok stats ∧ ∀ direction,
      (base.side direction).1 + (p.votes.lookup voter).elim 0 (Vote.counts direction) =
          total (Vote.counts direction) p.votes ∧
        (base.side direction).2 + (p.votes.lookup voter).elim 0 (Vote.weighs direction) =
          total (Vote.weighs direction) p.votes := by
  unfold PipStorage.revote at hrevote
  cases hold : p.votes.lookup voter with
  | none =>
    rw [hold] at hrevote
    refine ⟨p.result, hrevote, fun direction => ?_⟩
    rw [h.sides]
    exact ⟨rfl, rfl⟩
  | some old =>
    rw [hold] at hrevote
    exact ⟨p.result.withdraw old, hrevote, h.side_withdraw hold⟩

/-- **A changed vote** is tallied. -/
theorem revote_tallied (h : Tallied p.result p.votes) (hrevote : p.revote voter v = .ok stats) :
    Tallied stats (p.votes.insert voter v) := by
  obtain ⟨base, hcast, hbase⟩ := revote_base h hrevote
  refine ⟨fun direction => ?_, fun direction => ?_⟩
  · have hcounts := total_insert (Vote.counts direction) p.votes voter v
    have hweighs := total_insert (Vote.weighs direction) p.votes voter v
    obtain ⟨hcount, hstake⟩ := hbase direction
    rw [(side_cast hcast direction).1]
    have hv : v.counts direction = (if v.direction = direction then 1 else 0) ∧
        v.weighs direction = if v.direction = direction then v.stake else 0 := ⟨rfl, rfl⟩
    split_ifs at hv ⊢ with hdirection
    · refine Prod.ext ?_ ?_
      · dsimp only
        omega
      · dsimp only
        omega
    · refine Prod.ext ?_ ?_
      · dsimp only
        omega
      · dsimp only
        omega
  · obtain ⟨hside, hfits⟩ := side_cast hcast direction
    by_cases hdirection : v.direction = direction
    · exact hfits hdirection
    · rw [hside, if_neg hdirection]
      have hfits := h.fits direction
      rw [h.sides] at hfits
      obtain ⟨hcount, hstake⟩ := hbase direction
      dsimp only at hfits
      omega

end Tallies

/-! ## Agreement -/

namespace PipStorage

/-- Whether the proposal is pending or scheduled. -/
def active (p : PipStorage) : Bool := p.state.any isActive

/-- **What is stored of a proposal agrees** with its state. -/
structure Sound (p : PipStorage) : Prop where
  absent : p.state = none → p = { PipStorage.empty with schedule := p.schedule }
  stored : p.state.isSome → p.proposal.isSome
  closed : p.active = false → p.deposits = ∅
  tallied : p.active → Tallied p.result p.votes
  backed : p.active → ∀ who,
    p.deposits.lookup who = (p.votes.lookup who).map fun v => ⟨who, v.stake⟩

variable {p : PipStorage}

theorem active_iff : p.active ↔ p.state = some .pending ∨ p.state = some .scheduled := by
  unfold active
  cases h : p.state with
  | none => simp
  | some state => simp [isActive]

theorem active_of_pending (h : p.state = some .pending) : p.active = true :=
  active_iff.mpr (.inl h)

variable {state : ProposalState}

theorem active_eq (h : p.state = some state) : p.active = isActive state := by
  rw [active, h]
  rfl

theorem empty_tallied : Tallied .default ∅ := by
  constructor
  · intro direction
    cases direction <;> rfl
  · intro direction
    cases direction <;> exact ⟨Nat.two_pow_pos _, Nat.two_pow_pos _⟩

theorem empty_sound : Sound .empty where
  absent _ := rfl
  stored h := by cases h
  closed _ := rfl
  tallied h := by cases h
  backed h := by cases h

namespace Sound

theorem owner_eq (h : p.Sound) {e : Sigma fun _ : AccountId => DepositInfo}
    (he : e ∈ p.deposits.entries) : e.2.owner = e.1 := by
  by_cases hactive : p.active
  · have hlookup : p.deposits.lookup e.1 = some e.2 := AList.mem_lookup_iff.mpr he
    rw [h.backed hactive, Option.map_eq_some_iff] at hlookup
    obtain ⟨v, -, hv⟩ := hlookup
    rw [← hv]
  · rw [h.closed (by simpa using hactive)] at he
    cases he

theorem created (pip : Pip) :
    Sound { PipStorage.empty with proposal := some pip, state := some .pending } where
  absent h := by cases h
  stored _ := rfl
  closed h := by cases h
  tallied _ := empty_tallied
  backed _ _ := rfl

theorem voted (h : p.Sound) (hpending : p.state = some .pending) {voter : AccountId} {v : Vote}
    {stats : VotingResult} (hrevote : p.revote voter v = .ok stats) :
    Sound { p with
      result := stats
      votes := p.votes.insert voter v
      deposits := p.deposits.insert voter ⟨voter, v.stake⟩ } where
  absent hstate := by cases hpending.symm.trans hstate
  stored := h.stored
  closed hactive := by cases (active_of_pending hpending).symm.trans hactive
  tallied _ := revote_tallied (h.tallied (active_of_pending hpending)) hrevote
  backed _ who := by
    dsimp only
    by_cases hwho : who = voter
    · subst hwho
      rw [AList.lookup_insert, AList.lookup_insert]
      rfl
    · rw [AList.lookup_insert_ne hwho, AList.lookup_insert_ne hwho]
      exact h.backed (active_of_pending hpending) who

theorem scheduling (h : p.Sound) (hpending : p.state = some .pending) (block : BlockNumber) :
    Sound { p with schedule := some block, state := some .scheduled } where
  absent hstate := by cases hstate
  stored _ := h.stored (by rw [hpending]; rfl)
  closed hactive := by cases hactive
  tallied _ := h.tallied (active_of_pending hpending)
  backed _ := h.backed (active_of_pending hpending)

theorem rescheduling (h : p.Sound) (schedule : Option BlockNumber) : Sound { p with schedule } where
  absent hstate := by rw [h.absent hstate]
  stored := h.stored
  closed := h.closed
  tallied := h.tallied
  backed := h.backed

theorem skipping (h : p.Sound) (hpending : p.state = some .pending) (count : ℕ) :
    Sound { p with skipCount := count } where
  absent hstate := by cases hpending.symm.trans hstate
  stored := h.stored
  closed := h.closed
  tallied := h.tallied
  backed := h.backed

end Sound

/-- What is left of a proposal that is closed. -/
def close (p : PipStorage) (state : ProposalState) (prune : Bool) : PipStorage :=
  if prune then { PipStorage.empty with schedule := p.schedule }
  else { p with deposits := ∅, state := some state }

variable {prune : Bool}

theorem Sound.closing (h : p.Sound) (hstate : p.state.isSome) (hinactive : isActive state = false) :
    Sound (p.close state prune) := by
  unfold close
  split
  · exact empty_sound.rescheduling p.schedule
  · have hclosed : ∀ q : PipStorage, q.state = some state → q.active = false := fun q hq =>
      (active_eq hq).trans hinactive
    refine ⟨fun h => (by cases h), fun _ => h.stored hstate, fun _ => rfl, ?_, ?_⟩
    · intro hactive
      cases (hclosed _ rfl).symm.trans hactive
    · intro hactive
      cases (hclosed _ rfl).symm.trans hactive

theorem close_active (hinactive : isActive state = false) :
    (p.close state prune).active = false := by
  unfold close
  split
  · rfl
  · exact (active_eq rfl).trans hinactive

theorem close_ne_pending (hinactive : isActive state = false) :
    (p.close state prune).state ≠ some .pending := fun hpending => by
  cases (active_of_pending hpending).symm.trans (close_active hinactive)

theorem close_deposits : (p.close state prune).deposits = ∅ := by
  unfold close
  split <;> rfl

end PipStorage

end Pips

end Polymesh
