import Polymesh.Pips.Records

/-!
# The ledger of the proposals

All that the pallet stores but its settings and queues: the proposals, how many of them are active,
which are by a committee, what is locked for them, and what was noted. A call changes it in a few
ways only, and all of them keep it in agreement.
-/

namespace Polymesh

open Transactional Currency AssocLists Bookkeeping
open Function (update update_of_ne update_self)

namespace Pips

/-! ## What is noted -/

def Event.refund (id : PipId) (who : AccountId) : Event → Option ℕ
  | .refunded id' who' amount => if id' = id ∧ who' = who then some amount else none
  | _ => none

def Event.deposit (id : PipId) (who : AccountId) : Event → Option ℕ
  | .deposited id' who' amount => if id' = id ∧ who' = who then some amount else none
  | _ => none

/-- The refunds to an account for a proposal. -/
def refunds (id : PipId) (who : AccountId) (history : List Event) : List ℕ :=
  history.filterMap (Event.refund id who)

/-- What an account has deposited last for a proposal. -/
def lastDeposit (id : PipId) (who : AccountId) (history : List Event) : Option ℕ :=
  (history.filterMap (Event.deposit id who)).getLast?

/-- The refunds of a proposal that is closed. -/
def PipStorage.refundEvents (p : PipStorage) (id : PipId) : List Event :=
  p.deposits.entries.map fun e => .refunded id e.2.owner e.2.amount

section Events

variable {id id' : PipId} {who who' : AccountId} {history events : List Event}

theorem refunds_append : refunds id who (history ++ events) =
    refunds id who history ++ refunds id who events :=
  List.filterMap_append

theorem lastDeposit_append_of_none (h : ∀ e ∈ events, e.deposit id who = none) :
    lastDeposit id who (history ++ events) = lastDeposit id who history := by
  rw [lastDeposit, List.filterMap_append, List.filterMap_eq_nil_iff.mpr h, List.append_nil,
    lastDeposit]

theorem refunds_eq_nil (h : ∀ e ∈ events, e.refund id who = none) : refunds id who events = [] :=
  List.filterMap_eq_nil_iff.mpr h

theorem lastDeposit_deposited (amount : ℕ) :
    lastDeposit id who (history ++ [.deposited id' who' amount]) =
      if id' = id ∧ who' = who then some amount else lastDeposit id who history := by
  split_ifs with h
  · simp [lastDeposit, Event.deposit, h, List.filterMap_append]
  · refine lastDeposit_append_of_none fun e he => ?_
    rw [List.mem_singleton.mp he]
    exact if_neg h

variable {p : PipStorage}

theorem deposit_refundEvents {e : Event} (he : e ∈ p.refundEvents id') :
    e.deposit id who = none := by
  obtain ⟨_, -, rfl⟩ := List.mem_map.mp he
  rfl

theorem refunds_refundEvents_of_ne (h : id' ≠ id) :
    refunds id who (p.refundEvents id') = [] := by
  refine refunds_eq_nil fun e he => ?_
  obtain ⟨_, -, rfl⟩ := List.mem_map.mp he
  exact if_neg fun heq => h heq.1

/-- **Every deposit of a proposal is refunded once.** -/
theorem refunds_refundEvents (h : p.Sound) :
    refunds id who (p.refundEvents id) = (p.deposits.lookup who).toList.map (·.amount) := by
  have hothers : ∀ es : List (Sigma fun _ : AccountId => DepositInfo),
      (∀ e ∈ es, e.1 ≠ who) → (∀ e ∈ es, e ∈ p.deposits.entries) →
      refunds id who (es.map fun e => .refunded id e.2.owner e.2.amount) = [] := by
    intro es hne hmem
    refine refunds_eq_nil fun e he => ?_
    obtain ⟨d, hd, rfl⟩ := List.mem_map.mp he
    refine if_neg fun heq => hne d hd ?_
    rw [← heq.2, h.owner_eq (hmem d hd)]
  unfold PipStorage.refundEvents
  cases hlookup : p.deposits.lookup who with
  | none =>
    refine hothers _ (fun e he heq => ?_) fun e he => he
    have hmem : e.1 ∈ p.deposits := AList.mem_keys.mpr (List.mem_map_of_mem he)
    exact AList.lookup_eq_none.mp hlookup (heq ▸ hmem)
  | some info =>
    obtain ⟨l₁, l₂, hl, -, hl₁, hl₂⟩ := entries_split hlookup
    have howner : info.owner = who := h.owner_eq (e := ⟨who, info⟩) (by rw [hl]; simp)
    rw [hl, List.map_append, List.map_cons, refunds_append,
      hothers l₁ hl₁ fun e he => by rw [hl]; exact List.mem_append_left _ he, List.nil_append,
      ← List.singleton_append, refunds_append,
      hothers l₂ hl₂ fun e he => by
        rw [hl]
        exact List.mem_append_right _ (List.mem_cons_of_mem _ he)]
    simp [refunds, Event.refund, howner]

end Events

/-! ## The ledger -/

/-- What the pallet stores but its settings and queues. -/
structure Ledger where
  pipIdSequence : PipId
  activePipCount : ℕ
  pips : PipId → PipStorage
  committeePips : List PipId
  locks : AccountId → List NamedLock
  history : List Event

def Storage.ledger (s : Storage) : Ledger :=
  ⟨s.pipIdSequence, s.activePipCount, s.pips, s.committeePips, s.locks, s.history⟩

namespace Ledger

/-- What an account has deposited for all proposals together. -/
def deposited (l : Ledger) (who : AccountId) : ℕ := ∑ id, (l.pips id).depositOf who

/-- Whether a proposal is active, or still to be made. -/
def Ahead (l : Ledger) (id : PipId) : Prop :=
  (l.pips id).active ∨ l.pipIdSequence.number ≤ id.number

/-- **The ledger agrees.** -/
structure Sound (l : Ledger) : Prop where
  sound : ∀ id, (l.pips id).Sound
  fresh : ∀ id, l.pipIdSequence.number ≤ id.number → l.pips id = .empty
  counted : l.activePipCount = (Finset.univ.filter fun id => (l.pips id).active).card
  committee_nodup : l.committeePips.Nodup
  mem_committee : ∀ id, id ∈ l.committeePips ↔ (l.pips id).byCommittee
  locked : ∀ who, held pipsLockId (l.locks who) = lockOf (l.deposited who)
  refunded : ∀ id who, refunds id who l.history ++
    ((l.pips id).deposits.lookup who).toList.map (·.amount) =
      (lastDeposit id who l.history).toList
  unrefunded : ∀ id, l.Ahead id → ∀ who, refunds id who l.history = []

/-- A proposal gets a schedule, or loses it. -/
def reschedule (l : Ledger) (id : PipId) (schedule : Option BlockNumber) : Ledger :=
  { l with pips := update l.pips id { l.pips id with schedule } }

/-- A dispatch is noted. -/
def dispatched (l : Ledger) (id : PipId) : Ledger := { l with history := l.history ++ [.dispatched id] }

/-- A proposal is closed. -/
def closing (l : Ledger) (id : PipId) (old new : ProposalState) (prune : Bool)
    (locks : AccountId → List NamedLock) : Ledger where
  pipIdSequence := l.pipIdSequence
  activePipCount := if isActive old then l.activePipCount - 1 else l.activePipCount
  pips := update l.pips id ((l.pips id).close new prune)
  committeePips :=
    if prune && (l.pips id).byCommittee then l.committeePips.filter (· ≠ id) else l.committeePips
  locks := locks
  history := l.history ++ (l.pips id).refundEvents id

theorem closing_pips (l : Ledger) (id : PipId) (old new : ProposalState) (prune : Bool)
    (locks : AccountId → List NamedLock) : (l.closing id old new prune locks).pips =
      update l.pips id ((l.pips id).close new prune) := rfl

theorem reschedule_self (l : Ledger) (id : PipId) : l.reschedule id (l.pips id).schedule = l := by
  rw [reschedule, Function.update_eq_self]

theorem reschedule_pip (l : Ledger) (id : PipId) (schedule : Option BlockNumber) :
    (l.reschedule id schedule).pips id = { l.pips id with schedule } :=
  update_self ..

theorem closing_reschedule_pips (l : Ledger) (id : PipId) (old new : ProposalState) (prune : Bool)
    (schedule : Option BlockNumber) (locks : AccountId → List NamedLock) :
    ((l.reschedule id schedule).closing id old new prune locks).pips =
      update l.pips id (PipStorage.close { l.pips id with schedule } new prune) := by
  rw [closing_pips, reschedule_pip, reschedule, Function.update_idem]

end Ledger

/-- The locks without the deposits for a proposal. -/
def Released (p : PipStorage) (locks locks' : AccountId → List NamedLock) : Prop :=
  ∀ who n, held pipsLockId (locks who) = lockOf n →
    held pipsLockId (locks' who) = lockOf (n - p.depositOf who)

/-- The states that a state may be followed by. -/
inductive Next : ProposalState → ProposalState → Prop
  | schedule : Next .pending .scheduled
  | reject : Next .pending .rejected
  | expire : Next .pending .expired
  | execute : Next .scheduled .executed
  | fail : Next .scheduled .failed
  | withdraw : Next .scheduled .rejected

/-- Whether a proposer is a committee. -/
def Proposer.isCommittee : Proposer → Bool
  | .community _ => false
  | .committee _ => true

/-- **What can happen to the ledger**, apart from a dispatch. -/
inductive Change (l : Ledger) : Ledger → Prop
  | create (pip : Pip) (seq : PipId) (hid : pip.id = l.pipIdSequence)
    (hseq : seq.number.val = l.pipIdSequence.number.val + 1) :
    Change l { l with
      pipIdSequence := seq
      activePipCount := wrapAdd 32 l.activePipCount 1
      pips := update l.pips pip.id
        { l.pips pip.id with proposal := some pip, state := some .pending }
      committeePips :=
        if pip.proposer.isCommittee then l.committeePips ++ [pip.id] else l.committeePips }
  | vote (id : PipId) (voter : AccountId) (v : Vote) (stats : VotingResult)
    (locks : AccountId → List NamedLock) (hpending : (l.pips id).state = some .pending)
    (hstats : (l.pips id).revote voter v = .ok stats)
    (hlocks : ∀ n, held pipsLockId (l.locks voter) = lockOf n →
      (l.pips id).depositOf voter ≤ n →
        held pipsLockId (locks voter) = lockOf (n - (l.pips id).depositOf voter + v.stake))
    (hothers : ∀ who, who ≠ voter → locks who = l.locks who) :
    Change l { l with
      pips := update l.pips id
        { l.pips id with
          result := stats
          votes := (l.pips id).votes.insert voter v
          deposits := (l.pips id).deposits.insert voter ⟨voter, v.stake⟩ }
      locks := locks
      history := l.history ++ [.deposited id voter v.stake] }
  | schedule (id : PipId) (block : BlockNumber) (hpending : (l.pips id).state = some .pending) :
    Change l { l with
      pips := update l.pips id
        { l.pips id with schedule := some block, state := some .scheduled } }
  | reschedule (id : PipId) (block : BlockNumber)
    (hscheduled : (l.pips id).state = some .scheduled) :
    Change l (l.reschedule id (some block))
  | skip (id : PipId) (count : ℕ) (hpending : (l.pips id).state = some .pending) :
    Change l { l with
      pips := update l.pips id { l.pips id with skipCount := count } }
  | close (id : PipId) (old new : ProposalState) (prune : Bool)
    (schedule : Option BlockNumber) (locks : AccountId → List NamedLock)
    (hstate : (l.pips id).state = some old) (hnext : Next old new ∨ old = new ∧ prune)
    (hinactive : isActive new = false)
    (hschedule : schedule = if old = .scheduled then none else (l.pips id).schedule)
    (hlocks : Released (l.pips id) l.locks locks) :
    Change l ((l.reschedule id schedule).closing id old new prune locks)
  | otherLocks (locks : AccountId → List NamedLock) (hlocks : ∀ who n,
      held pipsLockId (l.locks who) = lockOf n → held pipsLockId (locks who) = lockOf n) :
    Change l { l with locks }

theorem Change.close_unscheduled {l : Ledger} {id : PipId} {old new : ProposalState} {prune : Bool}
    {locks : AccountId → List NamedLock} (hstate : (l.pips id).state = some old)
    (hne : old ≠ .scheduled) (hnext : Next old new ∨ old = new ∧ prune)
    (hinactive : isActive new = false) (hlocks : Released (l.pips id) l.locks locks) :
    Change l (l.closing id old new prune locks) := by
  have hclose := Change.close id old new prune _ locks hstate hnext hinactive rfl hlocks
  rw [if_neg hne, Ledger.reschedule_self] at hclose
  exact hclose

/-- A scheduled proposal is dispatched, and closed. -/
structure Executes (id : PipId) (l l' : Ledger) : Prop where
  scheduled : (l.pips id).state = some .scheduled
  closes : ∃ new prune locks, Next .scheduled new ∧ isActive new = false ∧
    Released (l.pips id) l.locks locks ∧
      l' = ((l.reschedule id none).dispatched id).closing id .scheduled new prune locks

/-- A proposal that is made is not pending any more. -/
def Ledger.Past (l : Ledger) (id : PipId) : Prop :=
  id.number < l.pipIdSequence.number ∧ (l.pips id).state ≠ some .pending

/-! ## Agreement -/

namespace Ledger

variable {l : Ledger} {id : PipId} {p : PipStorage}

theorem card_active_update (l : Ledger) (id : PipId) (p : PipStorage) :
    (Finset.univ.filter fun id' => (update l.pips id p id').active).card +
        (if (l.pips id).active then 1 else 0) =
      (Finset.univ.filter fun id' => (l.pips id').active).card + if p.active then 1 else 0 := by
  have h := card_filter_update (fun p : PipStorage => p.active = true) l.pips id p
  beta_reduce at h
  exact h

theorem sum_depositOf_update (l : Ledger) (id : PipId) (p : PipStorage) (who : AccountId) :
    ∑ id', (update l.pips id p id').depositOf who + (l.pips id).depositOf who =
      l.deposited who + p.depositOf who := by
  have h := sum_update_add (fun id' => (l.pips id').depositOf who) id (p.depositOf who)
  unfold deposited
  rw [← h]
  congr 2
  ext id'
  exact Function.apply_update (fun _ q => q.depositOf who) l.pips id p id'

theorem depositOf_le_deposited (l : Ledger) (id : PipId) (who : AccountId) :
    (l.pips id).depositOf who ≤ l.deposited who :=
  le_sum (fun id' => (l.pips id').depositOf who) id

/-- **One proposal is replaced.** What it takes for the ledger to agree afterwards is a matter of the
old proposal and the new one only; nothing changes for the others. -/
structure Replaces (id : PipId) (p : PipStorage) (l l' : Ledger) : Prop where
  pips : l'.pips = update l.pips id p
  sound : p.Sound
  older : l.pipIdSequence.number ≤ l'.pipIdSequence.number
  made : id.number < l'.pipIdSequence.number
  counted : l'.activePipCount + (if (l.pips id).active then 1 else 0) =
    l.activePipCount + if p.active then 1 else 0
  committee_nodup : l'.committeePips.Nodup
  mem_committee : ∀ id', id' ∈ l'.committeePips ↔
    if id' = id then p.byCommittee = true else id' ∈ l.committeePips
  locked : ∀ who n, (l.pips id).depositOf who ≤ n → held pipsLockId (l.locks who) = lockOf n →
    held pipsLockId (l'.locks who) = lockOf (n - (l.pips id).depositOf who + p.depositOf who)
  others : ∀ id' ≠ id, ∀ who, refunds id' who l'.history = refunds id' who l.history ∧
    lastDeposit id' who l'.history = lastDeposit id' who l.history
  refunded : ∀ who, refunds id who l'.history ++ (p.deposits.lookup who).toList.map (·.amount) =
    (lastDeposit id who l'.history).toList
  unrefunded : p.active → ∀ who, refunds id who l'.history = []

theorem Replaces.agrees {l' : Ledger} (hr : Replaces id p l l') (h : l.Sound) : l'.Sound := by
  have hself : l'.pips id = p := by rw [hr.pips, update_self]
  have hother {id' : PipId} (hne : id' ≠ id) : l'.pips id' = l.pips id' := by
    rw [hr.pips, update_of_ne hne]
  have hnew {id' : PipId} (hle : l'.pipIdSequence.number ≤ id'.number) : id' ≠ id := by
    rintro rfl
    exact absurd hr.made (not_lt.mpr hle)
  refine ⟨fun id' => ?_, fun id' hle => ?_, ?_, hr.committee_nodup, fun id' => ?_, fun who => ?_,
    fun id' who => ?_, fun id' hid' who => ?_⟩
  · rcases eq_or_ne id' id with rfl | hne
    · exact hself ▸ hr.sound
    · exact hother hne ▸ h.sound id'
  · rw [hother (hnew hle)]
    exact h.fresh id' (hr.older.trans hle)
  · have hcard := card_active_update l id p
    have hcounted := hr.counted
    have hbefore := h.counted
    rw [hr.pips]
    omega
  · rw [hr.mem_committee]
    split_ifs with hid
    · rw [hid, hself]
    · rw [hother hid, h.mem_committee]
  · have hsum : l'.deposited who + (l.pips id).depositOf who = l.deposited who + p.depositOf who := by
      rw [deposited, hr.pips, sum_depositOf_update]
    have hle := l.depositOf_le_deposited id who
    rw [hr.locked who _ hle (h.locked who)]
    refine congrArg lockOf ?_
    omega
  · rcases eq_or_ne id' id with rfl | hne
    · exact hself ▸ hr.refunded who
    · rw [(hr.others id' hne who).1, (hr.others id' hne who).2, hother hne]
      exact h.refunded id' who
  · rcases eq_or_ne id' id with rfl | hne
    · exact hr.unrefunded (hself ▸ hid'.resolve_right fun hle => hnew hle rfl) who
    · rw [(hr.others id' hne who).1]
      refine h.unrefunded id' ?_ who
      exact hid'.imp (fun hactive => hother hne ▸ hactive) hr.older.trans

namespace Sound

variable {state : ProposalState} {locks : AccountId → List NamedLock}

theorem lt_sequence (h : l.Sound) (hstate : (l.pips id).state = some state) :
    id.number < l.pipIdSequence.number := by
  by_contra hle
  rw [h.fresh id (not_lt.mp hle)] at hstate
  cases hstate

theorem mem_committee_of_eq (h : l.Sound) (hp : p.byCommittee = (l.pips id).byCommittee) (id' : PipId) :
    id' ∈ l.committeePips ↔ if id' = id then p.byCommittee = true else id' ∈ l.committeePips := by
  split_ifs with hid
  · rw [hid, hp, h.mem_committee]
  · rfl

/-- A change of a proposal that concerns neither its deposits nor whether it is active. -/
theorem of_pip (h : l.Sound) (hstate : (l.pips id).state = some state) (hp : p.Sound)
    (hactive : p.active = (l.pips id).active) (hcommittee : p.byCommittee = (l.pips id).byCommittee)
    (hdeposits : p.deposits = (l.pips id).deposits) :
    Sound { l with pips := update l.pips id p } := by
  have hdeposit (who : AccountId) : p.depositOf who = (l.pips id).depositOf who := by
    rw [PipStorage.depositOf, hdeposits, PipStorage.depositOf]
  refine Replaces.agrees ⟨rfl, hp, le_rfl, h.lt_sequence hstate, by rw [hactive], h.committee_nodup,
    h.mem_committee_of_eq hcommittee, fun who n hle hheld => ?_, fun _ _ _ => ⟨rfl, rfl⟩, ?_, ?_⟩ h
  · rw [hheld, hdeposit, Nat.sub_add_cancel hle]
  · rw [hdeposits]
    exact h.refunded id
  · rw [hactive]
    exact fun h' => h.unrefunded id (.inl h')

theorem rescheduling (h : l.Sound) (hstate : (l.pips id).state = some state)
    (schedule : Option BlockNumber) : Sound (l.reschedule id schedule) :=
  h.of_pip hstate ((h.sound id).rescheduling schedule) rfl rfl rfl

theorem dispatched (h : l.Sound) (id : PipId) : Sound (l.dispatched id) := by
  have hrefunds : ∀ id' who, refunds id' who (l.history ++ [.dispatched id]) =
      refunds id' who l.history := fun _ _ => refunds_append.trans (List.append_nil _)
  refine { h with refunded := fun id' who => ?_, unrefunded := fun id' hid' who => ?_ }
  · rw [Ledger.dispatched, hrefunds, lastDeposit_append_of_none]
    · exact h.refunded id' who
    · intro e he
      rw [List.mem_singleton.mp he]
      rfl
  · rw [Ledger.dispatched, hrefunds]
    exact h.unrefunded id' hid' who

theorem count_le_sequence (h : l.Sound) : l.activePipCount ≤ l.pipIdSequence.number.val := by
  rw [h.counted, ← Finset.card_range l.pipIdSequence.number.val]
  refine Finset.card_le_card_of_injOn (fun id => id.number.val) (fun id hid => ?_) ?_
  · rw [Finset.mem_coe, Finset.mem_filter] at hid
    rw [Finset.mem_coe, Finset.mem_range]
    rcases PipStorage.active_iff.mp hid.2 with hstate | hstate
    · exact h.lt_sequence hstate
    · exact h.lt_sequence hstate
  · rintro ⟨i⟩ - ⟨j⟩ - hij
    exact congrArg PipId.mk (Fin.ext hij)

/-- While a proposal is active the count is not zero: to take one off it does not saturate. -/
theorem count_pos (h : l.Sound) (hactive : (l.pips id).active) : 0 < l.activePipCount := by
  rw [h.counted, Finset.card_pos]
  exact ⟨id, Finset.mem_filter.mpr ⟨Finset.mem_univ id, hactive⟩⟩

/-- **A new proposal.** -/
theorem creating (h : l.Sound) {pip : Pip} {seq : PipId} (hid : pip.id = l.pipIdSequence)
    (hseq : seq.number.val = l.pipIdSequence.number.val + 1) :
    Sound { l with
      pipIdSequence := seq
      activePipCount := wrapAdd 32 l.activePipCount 1
      pips := update l.pips pip.id
        { l.pips pip.id with proposal := some pip, state := some .pending }
      committeePips :=
        if pip.proposer.isCommittee then l.committeePips ++ [pip.id] else l.committeePips } := by
  have hnew : l.pipIdSequence.number ≤ pip.id.number := by rw [hid]
  have hempty : l.pips pip.id = .empty := h.fresh pip.id hnew
  have hlt : l.pipIdSequence.number < seq.number := Fin.lt_def.mpr (by omega)
  have hcount : l.activePipCount + 1 < 2 ^ 32 := by
    have hle := h.count_le_sequence
    have hbound := seq.number.isLt
    omega
  have hnot : pip.id ∉ l.committeePips := by
    rw [h.mem_committee, hempty]
    exact Bool.false_ne_true
  rw [hempty]
  refine Replaces.agrees ⟨rfl, PipStorage.Sound.created pip, hlt.le, hid ▸ hlt, ?_, ?_, fun id' => ?_,
    fun who n _ hheld => ?_, fun _ _ _ => ⟨rfl, rfl⟩, fun who => ?_,
    fun _ => h.unrefunded pip.id (.inr hnew)⟩ h
  · rw [hempty, wrapAdd_eq hcount]
    rfl
  · dsimp only
    split_ifs
    · rw [List.nodup_append]
      refine ⟨h.committee_nodup, List.nodup_singleton _, fun id' hid' id'' hid'' heq => hnot ?_⟩
      rwa [heq, List.mem_singleton.mp hid''] at hid'
    · exact h.committee_nodup
  · have hproposer : ({ PipStorage.empty with proposal := some pip, state := some .pending } :
        PipStorage).byCommittee = pip.proposer.isCommittee := by
      obtain ⟨_, _, _ | _⟩ := pip <;> rfl
    rw [hproposer]
    dsimp only
    split_ifs with hcommittee hid' hid'
    · simp [hid', hcommittee]
    · simp [hid']
    · simp [hid', hcommittee, hnot]
    · rfl
  · rw [hempty]
    exact hheld
  · have hrefunded := h.refunded pip.id who
    rwa [hempty] at hrefunded

/-- **A vote with its deposit.** -/
theorem voting (h : l.Sound) {voter : AccountId} {v : Vote} {stats : VotingResult}
    (hpending : (l.pips id).state = some .pending) (hstats : (l.pips id).revote voter v = .ok stats)
    (hlocks : ∀ n, held pipsLockId (l.locks voter) = lockOf n →
      (l.pips id).depositOf voter ≤ n →
        held pipsLockId (locks voter) = lockOf (n - (l.pips id).depositOf voter + v.stake))
    (hothers : ∀ who, who ≠ voter → locks who = l.locks who) :
    Sound { l with
      pips := update l.pips id
        { l.pips id with
          result := stats
          votes := (l.pips id).votes.insert voter v
          deposits := (l.pips id).deposits.insert voter ⟨voter, v.stake⟩ }
      locks := locks
      history := l.history ++ [.deposited id voter v.stake] } := by
  set p : PipStorage := { l.pips id with
    result := stats
    votes := (l.pips id).votes.insert voter v
    deposits := (l.pips id).deposits.insert voter ⟨voter, v.stake⟩ } with hp
  have hrefunds (id' : PipId) (who : AccountId) :
      refunds id' who (l.history ++ [.deposited id voter v.stake]) = refunds id' who l.history :=
    refunds_append.trans (List.append_nil _)
  have hunrefunded := h.unrefunded id (.inl (PipStorage.active_of_pending hpending))
  refine Replaces.agrees ⟨rfl, (h.sound id).voted hpending hstats, le_rfl, h.lt_sequence hpending, rfl,
    h.committee_nodup, h.mem_committee_of_eq rfl, fun who n hle hheld => ?_,
    fun id' hne who => ⟨hrefunds id' who, ?_⟩, fun who => ?_,
    fun _ who => (hrefunds id who).trans (hunrefunded who)⟩ h
  · dsimp only
    by_cases hwho : who = voter
    · subst hwho
      have hdeposit : p.depositOf who = v.stake := by
        rw [PipStorage.depositOf, hp, AList.lookup_insert]
        rfl
      rw [hlocks _ hheld hle, hdeposit]
    · have hdeposit : p.depositOf who = (l.pips id).depositOf who := by
        rw [PipStorage.depositOf, hp, AList.lookup_insert_ne hwho, PipStorage.depositOf]
      rw [hothers who hwho, hheld, hdeposit, Nat.sub_add_cancel hle]
  · rw [lastDeposit_deposited, if_neg fun heq => hne heq.1.symm]
  · rw [hrefunds, lastDeposit_deposited]
    by_cases hwho : who = voter
    · subst hwho
      rw [if_pos ⟨rfl, rfl⟩, hp, AList.lookup_insert, hunrefunded]
      rfl
    · rw [if_neg fun heq => hwho heq.2.symm, hp, AList.lookup_insert_ne hwho]
      exact h.refunded id who

/-- **A closed proposal is refunded.** -/
theorem closing (h : l.Sound) {old new : ProposalState} {prune : Bool}
    (hstate : (l.pips id).state = some old) (hinactive : isActive new = false)
    (hlocks : Released (l.pips id) l.locks locks) : Sound (l.closing id old new prune locks) := by
  have hclosed : ((l.pips id).close new prune).active = false := PipStorage.close_active hinactive
  have hnone (who : AccountId) : ((l.pips id).close new prune).depositOf who = 0 := by
    rw [PipStorage.depositOf, PipStorage.close_deposits]
    rfl
  have hlast (id' : PipId) (who : AccountId) :
      lastDeposit id' who (l.history ++ (l.pips id).refundEvents id) = lastDeposit id' who l.history :=
    lastDeposit_append_of_none fun e he => deposit_refundEvents he
  refine Replaces.agrees ⟨closing_pips .., (h.sound id).closing (by rw [hstate]; rfl) hinactive, le_rfl,
    h.lt_sequence hstate, ?_, ?_, fun id' => ?_, fun who n _ hheld => ?_,
    fun id' hne who => ⟨?_, hlast id' who⟩, fun who => ?_, fun hactive => ?_⟩ h
  · have hpos : (l.pips id).active → 0 < l.activePipCount := h.count_pos
    rw [PipStorage.active_eq hstate] at hpos ⊢
    rw [hclosed, if_neg Bool.false_ne_true]
    dsimp only [Ledger.closing]
    split_ifs with hold
    · exact Nat.sub_add_cancel (hpos hold)
    · rfl
  · unfold Ledger.closing
    dsimp only
    split_ifs
    · exact h.committee_nodup.filter _
    · exact h.committee_nodup
  · unfold Ledger.closing PipStorage.close
    dsimp only
    have hempty : ({ PipStorage.empty with schedule := (l.pips id).schedule } :
        PipStorage).byCommittee = false := rfl
    cases prune with
    | true => cases hcommittee : (l.pips id).byCommittee <;> by_cases hid : id' = id <;>
        simp [hid, hempty, hcommittee, h.mem_committee]
    | false => exact h.mem_committee_of_eq rfl id'
  · rw [hnone]
    exact hlocks who n hheld
  · exact refunds_append.trans (by rw [refunds_refundEvents_of_ne hne.symm, List.append_nil])
  · unfold Ledger.closing
    dsimp only
    rw [hlast, ← h.refunded id who, refunds_append, PipStorage.close_deposits,
      refunds_refundEvents (h.sound id)]
    exact List.append_nil _
  · rw [hclosed] at hactive
    cases hactive

end Sound

end Ledger

variable {l l' : Ledger}

/-- **Every change keeps the ledger in agreement.** -/
theorem Change.sound (h : l.Sound) (hchange : Change l l') : l'.Sound := by
  cases hchange with
  | create pip seq hid hseq => exact h.creating hid hseq
  | vote id voter v stats locks hpending hstats hlocks hothers =>
    exact h.voting hpending hstats hlocks hothers
  | schedule id block hpending =>
    refine h.of_pip hpending ((h.sound id).scheduling hpending block) ?_ rfl rfl
    rw [PipStorage.active_of_pending hpending]
    rfl
  | reschedule id block hscheduled => exact h.rescheduling hscheduled _
  | skip id count hpending =>
    exact h.of_pip hpending ((h.sound id).skipping hpending count) rfl rfl rfl
  | close id old new prune schedule locks hstate hnext hinactive hschedule hlocks =>
    refine (h.rescheduling hstate schedule).closing ?_ hinactive ?_
    · rw [Ledger.reschedule_pip]
      exact hstate
    · rw [Ledger.reschedule_pip]
      exact hlocks
  | otherLocks locks hlocks =>
    exact { h with locked := fun who => hlocks who _ (h.locked who) }

/-- What is past stays so if a proposal keeps its state, or is not pending then. -/
theorem Ledger.Past.update {id : PipId} (h : l.Past id) (id' : PipId) {p : PipStorage}
    (hp : p.state = (l.pips id').state ∨ p.state ≠ some .pending) :
    (update l.pips id' p id).state ≠ some .pending := by
  by_cases hid : id = id'
  · subst hid
    rw [update_self]
    rcases hp with hp | hp
    · rw [hp]
      exact h.2
    · exact hp
  · rw [update_of_ne hid]
    exact h.2

/-- **No change makes a proposal pending again.** -/
theorem Change.past {id : PipId} (hchange : Change l l') (h : l.Past id) : l'.Past id := by
  cases hchange with
  | create pip seq hid hseq =>
    have hlt := h.1
    have hne : id ≠ pip.id := by
      rintro rfl
      rw [hid] at hlt
      exact lt_irrefl _ hlt
    have hnext : l.pipIdSequence.number < seq.number := Fin.lt_def.mpr (by omega)
    refine ⟨hlt.trans hnext, ?_⟩
    dsimp only
    rw [update_of_ne hne]
    exact h.2
  | vote id' | reschedule id' | skip id' => exact ⟨h.1, h.update id' (.inl rfl)⟩
  | schedule id' => exact ⟨h.1, h.update id' (.inr (by simp))⟩
  | close id' old new prune schedule locks hstate hnext hinactive =>
    have hpast : (l.reschedule id' schedule).Past id := ⟨h.1, h.update id' (.inl rfl)⟩
    exact ⟨h.1, hpast.update id' (.inr (PipStorage.close_ne_pending hinactive))⟩
  | otherLocks => exact h

theorem genesis_sound (config : GenesisConfig) : (genesis config).ledger.Sound where
  sound _ := PipStorage.empty_sound
  fresh _ _ := rfl
  counted := by
    refine (Finset.card_eq_zero.mpr (Finset.filter_eq_empty_iff.mpr ?_)).symm
    intro id _
    exact Bool.false_ne_true
  committee_nodup := List.nodup_nil
  mem_committee _ := ⟨fun h => (by cases h), fun h => (by cases h)⟩
  locked who := by
    have hzero : (genesis config).ledger.deposited who = 0 := Finset.sum_eq_zero fun _ _ => rfl
    rw [hzero]
    rfl
  refunded _ _ := rfl
  unrefunded _ _ _ := rfl

end Pips

end Polymesh
