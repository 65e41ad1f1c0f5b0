import Polymesh.Library.Endings
import Polymesh.Pips.Queue

/-!
# Closing a proposal

What was deposited for a proposal is locked, so that it can be released: closing a proposal succeeds.
-/

namespace Polymesh

open Transactional Tx Currency AssocLists
open Function (update update_idem update_of_ne update_self)

namespace Pips

theorem lockOf_injective : Function.Injective lockOf := by
  intro m n h
  unfold lockOf at h
  split_ifs at h with hm hn hn
  · rw [hm, hn]
  · exact List.head_eq_of_cons_eq h

/-! ## Refunds -/

/-- What a list of deposits owes to an account. -/
def owed (infos : List DepositInfo) (who : AccountId) : ℕ :=
  (infos.map fun info => if info.owner = who then info.amount else 0).sum

theorem owed_cons (info : DepositInfo) (infos : List DepositInfo) (who : AccountId) :
    owed (info :: infos) who = (if info.owner = who then info.amount else 0) + owed infos who := rfl

theorem owed_deposits {p : PipStorage} (h : ∀ e ∈ p.deposits.entries, e.2.owner = e.1)
    (who : AccountId) : owed (p.deposits.entries.map (·.2)) who = p.depositOf who := by
  rw [PipStorage.depositOf, ← sum_entries_key, owed, List.map_map]
  refine congrArg List.sum (List.map_congr_left fun e he => ?_)
  simp only [Function.comp_apply, h e he]

section Refunds

variable {s : Storage} {id : PipId} {f : AccountId → ℕ}

theorem refundDeposit_ok (id : PipId) {info : DepositInfo} {n : ℕ}
    (hheld : held pipsLockId (s.locks info.owner) = lockOf n) (hle : info.amount ≤ n) :
    ∃ locks, refundDeposit id info s =
        (.ok (), (s.putLocks info.owner locks).note (.refunded id info.owner info.amount)) ∧
      held pipsLockId locks = lockOf (n - info.amount) := by
  obtain ⟨locks, hreduce, hlocks⟩ := reduceLock_held hheld hle
  have hread : reduceLock info.owner info.amount s = (.ok (), s.putLocks info.owner locks) :=
    bind_ok.mpr ⟨locks, s, read_ok.mpr ⟨by rw [hreduce]; rfl, rfl⟩, modify_ok.mpr rfl⟩
  exact ⟨locks, bind_ok.mpr ⟨(), _, orError_ok.mpr hread, modify_ok.mpr rfl⟩, hlocks⟩

theorem refundAll_ok (id : PipId) (infos : List DepositInfo)
    (hheld : ∀ who, held pipsLockId (s.locks who) = lockOf (f who))
    (howed : ∀ who, owed infos who ≤ f who) :
    ∃ locks, forM infos (refundDeposit id) s = (.ok (), { s with
        locks := locks
        history := s.history ++ infos.map fun info => .refunded id info.owner info.amount }) ∧
      ∀ who, held pipsLockId (locks who) = lockOf (f who - owed infos who) := by
  induction infos generalizing s f with
  | nil =>
    refine ⟨s.locks, ?_, hheld⟩
    rw [List.map_nil, List.append_nil]
    exact forM_nil_ok.mpr rfl
  | cons info infos ih =>
    have hcons := owed_cons info infos
    have hle : info.amount ≤ f info.owner := by
      have h := howed info.owner
      rw [hcons, if_pos rfl] at h
      omega
    obtain ⟨locks₁, hfirst, hlocks₁⟩ := refundDeposit_ok id (hheld info.owner) hle
    -- what is left to be released is still locked
    set f₁ := update f info.owner (f info.owner - info.amount) with hf₁
    have hf : ∀ who, f₁ who = f who - if info.owner = who then info.amount else 0 := by
      intro who
      by_cases hwho : who = info.owner
      · rw [hwho, hf₁, update_self, if_pos rfl]
      · rw [hf₁, update_of_ne hwho, if_neg (Ne.symm hwho), Nat.sub_zero]
    set s₁ := (s.putLocks info.owner locks₁).note (.refunded id info.owner info.amount) with hs₁
    have hheld₁ : ∀ who, held pipsLockId (s₁.locks who) = lockOf (f₁ who) := by
      intro who
      show held pipsLockId (update s.locks info.owner locks₁ who) = lockOf (f₁ who)
      by_cases hwho : who = info.owner
      · rw [hwho, update_self, hf₁, update_self, hlocks₁]
      · rw [update_of_ne hwho, hf₁, update_of_ne hwho, hheld]
    have howed₁ : ∀ who, owed infos who ≤ f₁ who := by
      intro who
      have h := howed who
      rw [hcons] at h
      rw [hf]
      omega
    obtain ⟨locks, hrest, hlocks⟩ := ih hheld₁ howed₁
    refine ⟨locks, forM_cons_ok.mpr ⟨_, hfirst, hrest.trans ?_⟩, fun who => ?_⟩
    · rw [List.map_cons, ← List.singleton_append, ← List.append_assoc]
      rfl
    · rw [hlocks, hf, hcons, Nat.sub_sub]

/-- **All deposits for a proposal are released.** -/
theorem refundProposal_ok (howner : ∀ e ∈ (s.pips id).deposits.entries, e.2.owner = e.1)
    (hheld : ∀ who, held pipsLockId (s.locks who) = lockOf (f who))
    (hle : ∀ who, (s.pips id).depositOf who ≤ f who) :
    ∃ locks, refundProposal id s = (.ok (), { s with
        pips := update s.pips id { s.pips id with deposits := ∅ }
        locks := locks
        history := s.history ++ (s.pips id).refundEvents id }) ∧
      Released (s.pips id) s.locks locks := by
  have howed := owed_deposits howner
  obtain ⟨locks, hloop, hlocks⟩ := refundAll_ok id _ hheld fun who =>
    (howed who).trans_le (hle who)
  refine ⟨locks, bind_ok.mpr ⟨s, s, get_ok.mpr ⟨rfl, rfl⟩, bind_ok.mpr ⟨(), _, hloop, ?_⟩⟩, ?_⟩
  · rw [modify_ok, List.map_map]
    rfl
  · intro who n hn
    have heq : n = f who := lockOf_injective (hn.symm.trans (hheld who))
    rw [hlocks, howed, heq]

end Refunds

/-! ## Closing -/

/-- The queues and their settings are the same. -/
def SameQueues (s s' : Storage) : Prop :=
  s'.liveQueue = s.liveQueue ∧ s'.snapshotQueue = s.snapshotQueue ∧ s'.snapshotMeta = s.snapshotMeta

section Closing

variable {s : Storage} {id : PipId} {old new : ProposalState} {f : AccountId → ℕ}

/-- **A closed proposal is pruned.** -/
theorem pruneData_ok (hstate : (s.pips id).state = some new) (hinactive : isActive new = false)
    (howner : ∀ e ∈ (s.pips id).deposits.entries, e.2.owner = e.1)
    (hheld : ∀ who, held pipsLockId (s.locks who) = lockOf (f who))
    (hle : ∀ who, (s.pips id).depositOf who ≤ f who) (prune : Bool) :
    ∃ s' locks, pruneData id new prune s = (.ok (), s') ∧
      s'.ledger = s.ledger.closing id new new prune locks ∧
      Released (s.pips id) s.locks locks ∧ SameQueues s s' := by
  obtain ⟨locks, hrefund, hlocks⟩ := refundProposal_ok howner hheld hle
  set s₁ : Storage := { s with
    pips := update s.pips id { s.pips id with deposits := ∅ }
    locks := locks
    history := s.history ++ (s.pips id).refundEvents id } with hs₁
  have hcount : decrementCountIfActive new s₁ = s₁ := if_neg (by rw [hinactive]; exact Bool.false_ne_true)
  have hpip : s₁.pips id = { s.pips id with deposits := ∅ } := update_self ..
  cases prune with
  | true =>
    refine ⟨removePip id s₁, locks, ?_, ?_, hlocks, rfl, rfl, rfl⟩
    · refine bind_ok.mpr ⟨(), s₁, hrefund, bind_ok.mpr ⟨(), s₁, modify_ok.mpr hcount, ?_⟩⟩
      exact onlyIf_modify_ok.mpr (if_pos rfl)
    · have hempty : { s₁.pips id with
          result := .default, votes := ∅, proposal := none, skipCount := 0, state := none } =
          { PipStorage.empty with schedule := (s.pips id).schedule } := by
        rw [hpip]
        rfl
      have hcommittee : (s₁.pips id).byCommittee = (s.pips id).byCommittee := by
        rw [hpip]
        rfl
      unfold Storage.ledger Ledger.closing removePip
      rw [hempty, hcommittee, hinactive]
      simp only [hs₁, PipStorage.close, if_true, Bool.true_and, update_idem, Bool.false_eq_true,
        if_false]
  | false =>
    refine ⟨s₁, locks, ?_, ?_, hlocks, rfl, rfl, rfl⟩
    · refine bind_ok.mpr ⟨(), s₁, hrefund, bind_ok.mpr ⟨(), s₁, modify_ok.mpr hcount, ?_⟩⟩
      exact onlyIf_modify_ok.mpr (if_neg Bool.false_ne_true)
    · unfold Storage.ledger Ledger.closing
      rw [hinactive]
      simp only [hs₁, PipStorage.close, ← hstate, Bool.false_and, Bool.false_eq_true, if_false]

/-- **A proposal is closed.** -/
theorem maybePrune_ok (hstate : (s.pips id).state = some old) (hinactive : isActive new = false)
    (howner : ∀ e ∈ (s.pips id).deposits.entries, e.2.owner = e.1)
    (hheld : ∀ who, held pipsLockId (s.locks who) = lockOf (f who))
    (hle : ∀ who, (s.pips id).depositOf who ≤ f who) :
    ∃ s' locks, maybePrune id new s = (.ok (), s') ∧
      s'.ledger = s.ledger.closing id old new s.pruneHistoricalPips locks ∧
      Released (s.pips id) s.locks locks ∧ SameQueues s s' := by
  set s₁ := (decrementCountIfActive old s).mapPip id fun p => { p with state := some new } with hs₁
  have hupdate : updateProposalState id new s = s₁ := by
    simp only [updateProposalState, hstate, hinactive, Bool.false_eq_true, if_false]
    rfl
  have hdecrement : decrementCountIfActive old s = { s with
      activePipCount := if isActive old then s.activePipCount - 1 else s.activePipCount } := by
    unfold decrementCountIfActive
    split <;> rfl
  rw [hdecrement] at hs₁
  have hpip : s₁.pips id = { s.pips id with state := some new } := by
    rw [hs₁]
    exact update_self ..
  have hlocks₁ : s₁.locks = s.locks := by
    rw [hs₁]
    rfl
  have hprune₁ : s₁.pruneHistoricalPips = s.pruneHistoricalPips := by
    rw [hs₁]
    rfl
  have hdeposits : (s₁.pips id).deposits = (s.pips id).deposits := by rw [hpip]
  have hdepositOf : (s₁.pips id).depositOf = (s.pips id).depositOf := by rw [hpip]; rfl
  have hstate₁ : (s₁.pips id).state = some new := by rw [hpip]
  rw [← hdeposits] at howner
  rw [← hdepositOf] at hle
  rw [← hlocks₁] at hheld
  obtain ⟨s', locks, hpruned, hledger, hreleased, hqueues⟩ :=
    pruneData_ok hstate₁ hinactive howner hheld hle s₁.pruneHistoricalPips
  refine ⟨s', locks, ?_, ?_, ?_, ?_⟩
  · exact bind_ok.mpr ⟨(), s₁, modify_ok.mpr hupdate, bind_ok.mpr ⟨s₁, s₁, get_ok.mpr ⟨rfl, rfl⟩,
      hpruned⟩⟩
  · rw [hledger, hprune₁]
    unfold Ledger.closing Storage.ledger
    simp only [hs₁, hinactive, Storage.mapPip, update_self, update_idem, Bool.false_eq_true, if_false]
    rfl
  · intro who n hn
    rw [← hdepositOf]
    exact hreleased who n (by rw [hlocks₁]; exact hn)
  · obtain ⟨h₁, h₂, h₃⟩ := hqueues
    rw [hs₁] at h₁ h₂ h₃
    exact ⟨h₁, h₂, h₃⟩

theorem maybePrune_pruned
    (hpip : s.pips id = { PipStorage.empty with schedule := (s.pips id).schedule })
    (hinactive : isActive new = false) : maybePrune id new s = (.ok (), s) := by
  have hself : ∀ q : PipStorage, q = s.pips id → { s with pips := update s.pips id q } = s := by
    rintro _ rfl
    rw [Function.update_eq_self]
  have hupdate : updateProposalState id new s = s := by rw [updateProposalState, hpip]; rfl
  have hrefund : refundProposal id s = (.ok (), s) := by
    refine bind_ok.mpr ⟨s, s, get_ok.mpr ⟨rfl, rfl⟩, bind_ok.mpr ⟨(), s, ?_, modify_ok.mpr ?_⟩⟩
    · rw [hpip]
      exact forM_nil_ok.mpr rfl
    · exact hself _ (by rw [hpip]; rfl)
  have hcount : decrementCountIfActive new s = s := if_neg (by rw [hinactive]; exact Bool.false_ne_true)
  have hremove : removePip id s = s := by
    have hcommittee : (s.pips id).byCommittee = false := by rw [hpip]; rfl
    rw [removePip, hcommittee, if_neg Bool.false_ne_true]
    exact hself _ (by rw [hpip]; rfl)
  refine bind_ok.mpr ⟨(), s, modify_ok.mpr hupdate, bind_ok.mpr ⟨s, s, get_ok.mpr ⟨rfl, rfl⟩,
    bind_ok.mpr ⟨(), s, hrefund, bind_ok.mpr ⟨(), s, modify_ok.mpr hcount, ?_⟩⟩⟩⟩
  rw [onlyIf_modify_ok, hremove, ite_self]

end Closing

end Pips

end Polymesh
