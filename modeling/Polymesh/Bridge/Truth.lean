import Polymesh.Bridge.Once
import Polymesh.Bridge.Standing

/-!
# What a handled transaction says

A transaction that is handled should have been submitted, its submission credited, and the amount
stored with it. The amount is stored only when a transaction is put off or amended: one that is
credited at once keeps whatever was stored, a task credits what it was scheduled with, and a
transaction may be frozen and unfrozen without having been submitted at all. If every submission of a
transaction names one amount, and the first is put off, then this amount is stored and every task
carries it.
-/

namespace Polymesh

open Transactional TransitionSystem

namespace Bridge

variable {key : Key} {bridgeTx : BridgeTx} {amount : ℕ} {s : Storage} {detail : BridgeTxDetail}
  {sub : Submission} {l l' : Ledger}

/-- The balance of the recipient overflows neither with the amount that is named nor with the one that
is stored. -/
def Fits (bridgeTx : BridgeTx) (s : Storage) : Prop :=
  (s.balances.account bridgeTx.recipient).free +
    max bridgeTx.amount (s.details bridgeTx.key).amount < 2 ^ 128

theorem Fits.deposited (h : Fits bridgeTx s)
    (hle : amount ≤ max bridgeTx.amount (s.details bridgeTx.key).amount) :
    deposited bridgeTx.recipient amount s.balances = amount := by
  have hadd : checkedAdd 128 (s.balances.account bridgeTx.recipient).free amount = some _ :=
    checkedAdd_eq_some.mpr ⟨lt_of_le_of_lt (Nat.add_le_add_left hle _) h, rfl⟩
  simp only [Bridge.deposited, Currency.depositCreating]
  split_ifs with hzero
  · exact hzero.symm
  · simp only [hadd]

/-- What is submitted again has the amount that it had. -/
def SameAmount (bridgeTx : BridgeTx) (s : Storage) : Prop :=
  ∀ sub ∈ standing bridgeTx.key s.history, sub.amount = bridgeTx.amount

/-- A credit pays the amount of the submission that stands. -/
def PaysSubmitted (submission : Option Submission) (amount : ℕ) (_ : BlockNumber) : Prop :=
  ∃ sub ∈ submission, sub.amount = amount

/-- **What the ledger says of a transaction.** The amount of the submission that stands is stored, and
every task carries it. -/
structure Truthful (key : Key) (l : Ledger) : Prop where
  stored : ∀ sub ∈ standing key l.history, sub.amount = (l.details key).amount
  submitted : standing key l.history = none → l.status key = .absent ∨ l.status key = .frozen
  tasks : ∀ task ∈ l.agenda, task.2.key = key → PaysSubmitted (standing key l.history) task.2.amount 0
  credits : CreditsMeet PaysSubmitted key l.history
  handled : l.status key = .handled → ∃ block, .credited key (l.details key).amount block ∈ l.history

/-- A submission stands, whatever is stored. -/
structure Backed (key : Key) (sub : Submission) (l : Ledger) : Prop where
  stands : standing key l.history = some sub
  tasks : ∀ task ∈ l.agenda, task.2.key = key → sub.amount = task.2.amount
  credits : CreditsMeet PaysSubmitted key l.history

theorem Truthful.apart (h : Apart key l l') (hl : Truthful key l) : Truthful key l' where
  stored := by
    rw [h.details, h.standing]
    exact hl.stored
  submitted := by
    rw [Ledger.status, h.details, h.standing]
    exact hl.submitted
  tasks task htask hkey := by
    rw [h.standing]
    exact hl.tasks task (h.agenda task htask hkey) hkey
  credits := h.credits _ hl.credits
  handled hhandled := by
    rw [Ledger.status, h.details] at hhandled
    obtain ⟨block, hmem⟩ := hl.handled hhandled
    exact ⟨block, by rw [h.details]; exact h.events _ hmem⟩

theorem Truthful.backed (h : Truthful key l) (hsub : standing key l.history = some sub) :
    Backed key sub l := by
  refine ⟨hsub, fun task htask hkey => ?_, h.credits⟩
  obtain ⟨sub', hsub', hamount⟩ := h.tasks task htask hkey
  rw [Option.mem_def, hsub] at hsub'
  rwa [Option.some_inj.mp hsub']

theorem Truthful.note (h : Truthful bridgeTx.key s.ledger) (hsame : SameAmount bridgeTx s)
    (sender : AccountId) :
    Backed bridgeTx.key (submission sender bridgeTx s) (noteSubmission sender bridgeTx s).ledger := by
  refine ⟨standing_noteSubmission sender bridgeTx s, fun task htask hkey => ?_,
    creditsMeet_noteSubmission h.credits sender⟩
  obtain ⟨sub, hsub, hamount⟩ := h.tasks task htask hkey
  exact (hsame sub hsub).symm.trans hamount

namespace Backed

theorem put (h : Backed key sub l) (hdetail : detail.status ≠ .handled)
    (hamount : sub.amount = detail.amount) : Truthful key (l.put key detail) where
  stored sub' hsub' := by
    obtain rfl := Option.some_inj.mp (h.stands.symm.trans hsub')
    rw [Ledger.put_self]
    exact hamount
  submitted hnone := by cases h.stands.symm.trans hnone
  tasks task htask hkey := ⟨sub, h.stands, h.tasks task htask hkey⟩
  credits := h.credits
  handled hhandled := by
    rw [Ledger.status, Ledger.put_self] at hhandled
    exact absurd hhandled hdetail

theorem postpone (h : Backed bridgeTx.key sub l) (hdetail : detail.status ≠ .handled)
    (hamount : sub.amount = detail.amount) (hnamed : sub.amount = bridgeTx.amount) :
    Truthful bridgeTx.key (l.postpone bridgeTx detail) := by
  refine { h.put hdetail hamount with tasks := fun task htask hkey => ⟨sub, h.stands, ?_⟩ }
  rcases List.mem_append.mp htask with htask | htask
  · exact h.tasks task htask hkey
  · rw [List.mem_singleton.mp htask]
    exact hnamed

theorem credit (h : Backed key sub l) (hamount : sub.amount = detail.amount) :
    Truthful key (l.credit key detail sub.amount) := by
  have hstanding : standing key (l.credit key detail sub.amount).history = some sub :=
    (standing_concat ..).trans h.stands
  refine ⟨fun sub' hsub' => ?_, fun hnone => ?_, fun task htask hkey => ?_, ?_, fun _ => ?_⟩
  · obtain rfl := Option.some_inj.mp (hstanding.symm.trans hsub')
    simpa [Ledger.credit, Ledger.note, Ledger.put] using hamount
  · cases hstanding.symm.trans hnone
  · exact ⟨sub, hstanding, h.tasks task htask hkey⟩
  · refine CreditsMeet.note h.credits fun amount block hevent => ?_
    cases hevent
    exact ⟨sub, h.stands, rfl⟩
  · refine ⟨l.block, List.mem_append_right _ (List.mem_singleton.mpr ?_)⟩
    simp [Ledger.credit, Ledger.note, Ledger.put, hamount]

end Backed

section Outcomes

variable {sender : AccountId}

end Outcomes

end Bridge

end Polymesh
