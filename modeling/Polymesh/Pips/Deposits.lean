import Polymesh.Pips.Agreement

/-!
# Deposits and votes

In every state what is locked of an account for proposals is the sum of its deposits, and a closed
proposal has paid back to everybody what they deposited last, once. The result of an active proposal
is the tally of its votes, and every vote is backed by a deposit.
-/

namespace Polymesh

open Transactional Tx Currency AssocLists TransitionSystem

namespace Pips

section Deposits

variable {s : Storage} {id : PipId}

theorem Ledger.Sound.refunds_eq {l : Ledger} (h : l.Sound) (hclosed : (l.pips id).active = false)
    (who : AccountId) : refunds id who l.history = (lastDeposit id who l.history).toList := by
  have hrefunded := h.refunded id who
  rw [(h.sound id).closed hclosed, AList.lookup_empty, Option.toList_none, List.map_nil,
    List.append_nil] at hrefunded
  exact hrefunded

/-- **Deposits are locked exactly, and refunded exactly once**, in every reachable state. The lock
of an account is the sum of its deposits, and there is none if the sum is zero. While a proposal is
active nothing is refunded. Once it is closed there are no deposits for it, and everybody has got
back, once, what they deposited last. Releasing a deposit never fails. -/
theorem deposits_locked {config : GenesisConfig}
    (h : TransitionSystem.Reachable step (genesis config) s) :
    (∀ who, held pipsLockId (s.locks who) = lockOf (∑ id, (s.pips id).depositOf who)) ∧
    (∀ id, (s.pips id).active → ∀ who, refunds id who s.history = []) ∧
    (∀ id, (s.pips id).active = false → (s.pips id).deposits = ∅ ∧
      ∀ who, refunds id who s.history = (lastDeposit id who s.history).toList) ∧
    ∀ a e s', perform a s = (.error e, s') → e ≠ .refundUnwrap := by
  have hgood := reachable_good h
  have hledger := hgood.ledger
  refine ⟨hledger.locked, fun id hactive => hledger.unrefunded id (.inl hactive),
    fun id hclosed => ⟨(hledger.sound id).closed hclosed, hledger.refunds_eq hclosed⟩, ?_⟩
  rintro a e s' herror rfl
  cases perform_harmless hgood herror

/-- Of two proposals one stays, and the other one is rejected by a third when that is dispatched. -/
def oneRejected : List Action :=
  twoProposals ++ [.call openEnv (.signed ⟨1⟩) (.vote ⟨1⟩ true 5) [],
    .call openEnv .root (.propose ⟨9⟩ 0) [],
    .call openEnv .root (.approveCommitteeProposal ⟨2⟩) [],
    .call openEnv .root (.executeScheduledPip ⟨2⟩)
      [.call openEnv .root (.rejectProposal ⟨1⟩) []]]

theorem deposits_locked_oneRejected :
    let s := run step (genesis openConfig) oneRejected
    (s.pips ⟨1⟩).active = false ∧ held pipsLockId (s.locks ⟨1⟩) = [10] ∧
      lastDeposit ⟨1⟩ ⟨1⟩ s.history = some 5 ∧
      refunds ⟨1⟩ ⟨1⟩ s.history = (lastDeposit ⟨1⟩ ⟨1⟩ s.history).toList :=
  ⟨by decide +kernel, by decide +kernel, by decide +kernel,
    ((deposits_locked ⟨oneRejected, rfl⟩).2.2.1 ⟨1⟩ (by decide +kernel)).2 ⟨1⟩⟩

end Deposits

/-! ## Votes -/

section Votes

variable {s : Storage} {id : PipId}

theorem total_counts (direction : Bool) (votes : AList fun _ : AccountId => Vote) :
    total (Vote.counts direction) votes =
      {who | ∃ v, votes.lookup who = some v ∧ v.direction = direction}.ncard := by
  have hcount := countP_eq_total (fun v : Vote => decide (v.direction = direction)) votes
  rw [countP_entries_eq_ncard votes fun v : Vote => decide (v.direction = direction)] at hcount
  simp only [decide_eq_true_eq] at hcount
  exact hcount.symm

/-- **The result of a proposal is the tally of its votes**, in every reachable state and for every
active proposal: the counts are the numbers of accounts that voted for and against it, and the
stakes the sums of what they recorded. Every vote has a deposit of its stake behind it, and to take
an earlier vote off the result underflows nowhere. -/
theorem votes_tallied {config : GenesisConfig}
    (h : TransitionSystem.Reachable step (genesis config) s) (hactive : (s.pips id).active) :
    let p := s.pips id
    p.result.ayesCount = {who | ∃ v, p.votes.lookup who = some v ∧ v.direction = true}.ncard ∧
    p.result.naysCount = {who | ∃ v, p.votes.lookup who = some v ∧ v.direction = false}.ncard ∧
    p.result.ayesStake =
      (p.votes.entries.map fun e => if e.2.direction = true then e.2.stake else 0).sum ∧
    p.result.naysStake =
      (p.votes.entries.map fun e => if e.2.direction = false then e.2.stake else 0).sum ∧
    (∀ who, p.deposits.lookup who = (p.votes.lookup who).map fun v => ⟨who, v.stake⟩) ∧
    ∀ who old, p.votes.lookup who = some old →
      if old.direction then 1 ≤ p.result.ayesCount ∧ old.stake ≤ p.result.ayesStake
      else 1 ≤ p.result.naysCount ∧ old.stake ≤ p.result.naysStake := by
  intro p
  have hsound : p.Sound := (reachable_good h).ledger.sound id
  have htallied := hsound.tallied hactive
  have hayes := htallied.sides true
  have hnays := htallied.sides false
  rw [total_counts] at hayes hnays
  refine ⟨congrArg Prod.fst hayes, congrArg Prod.fst hnays, congrArg Prod.snd hayes,
    congrArg Prod.snd hnays, hsound.backed hactive, fun who old hold => ?_⟩
  have hwithdraws := htallied.withdraws hold
  cases hdirection : old.direction with
  | true | false =>
    rw [hdirection] at hwithdraws
    exact hwithdraws

theorem votes_tallied_twoProposals :
    let s := run step (genesis openConfig) twoProposals
    (s.pips ⟨1⟩).active ∧ (s.pips ⟨1⟩).result = ⟨1, 20, 1, 30⟩ ∧ (s.pips ⟨1⟩).result.naysStake =
      ((s.pips ⟨1⟩).votes.entries.map fun e => if e.2.direction = false then e.2.stake else 0).sum :=
  ⟨by rfl, by rfl, (votes_tallied ⟨twoProposals, rfl⟩ (by rfl)).2.2.2.1⟩

end Votes

end Pips

end Polymesh
