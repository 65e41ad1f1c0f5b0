import Polymesh.Bridge.Once
import Polymesh.Bridge.Standing

/-!
# Removals and timelocks

A transaction that was removed should not be credited until it is submitted again, and what the
controller submits should wait for its timelock. The tasks of the scheduler outlive the entries that
they were made for: a task that finds no entry credits nonetheless, and a task of an earlier
submission does not wait for the timelock of a later one. The admin may also freeze and unfreeze a
transaction before its time.
-/

namespace Polymesh

open Transactional TransitionSystem

namespace Bridge

/-- The block at which the timelock of a submission is over. -/
def Submission.due (submission : Submission) : BlockNumber := submission.block + submission.timelock

/-- Submissions of the controller end within the block numbers, and do not amend what is frozen
unless there is no timelock. Tasks find an entry whose time has come, and nothing is unfrozen before
its time. -/
def timelockConditions : Conditions where
  handle sender bridgeTx s := isAdmin sender s = true ∨
    ((s.details bridgeTx.key).status = .absent → s.block + s.timelock < 2 ^ 32) ∧
      ((s.details bridgeTx.key).status = .frozen → s.timelock = 0)
  force _ _ := True
  scheduled bridgeTx s := (s.details bridgeTx.key).status ≠ .absent ∧
    ((s.details bridgeTx.key).status = .timelocked →
      (s.details bridgeTx.key).executionBlock ≤ s.block)
  unfreeze bridgeTx s := (s.details bridgeTx.key).status = .frozen → s.frozen = false →
    (s.details bridgeTx.key).amount ≠ 0 → (s.details bridgeTx.key).executionBlock ≤ s.block

/-- An entry is not tried before the timelock of the submission is over, unless that was the admin's
own. -/
def Timely (submission : Submission) (detail : BridgeTxDetail) (block : BlockNumber) : Prop :=
  submission.byAdmin = false → submission.due ≤ max detail.executionBlock block ∧
    ∀ tries, detail.status = .pending tries → submission.due ≤ block

/-- A credit is of a submission that stands, and whose timelock is over. -/
def PaysInTime (submission : Option Submission) (amount : ℕ) (block : BlockNumber) : Prop :=
  amount ≠ 0 → ∃ submission' ∈ submission, submission'.byAdmin = false → submission'.due ≤ block

/-- What the ledger holds of a transaction has its time. -/
structure InTime (key : Key) (l : Ledger) : Prop where
  live : Live (l.details key) →
    ∃ submission ∈ standing key l.history, Timely submission (l.details key) l.block
  credits : CreditsMeet PaysInTime key l.history

variable {detail : BridgeTxDetail} {submission : Submission}

namespace InTime

variable {key : Key} {l : Ledger}

theorem apart {l' : Ledger} (h : Apart key l l') (hl : InTime key l) : InTime key l' where
  live := by
    rw [h.details, h.standing, h.block]
    exact hl.live
  credits := h.credits _ hl.credits

theorem tick (hl : InTime key l) : InTime key { l with block := l.block + 1 } where
  live hlive := by
    obtain ⟨submission, hstanding, htimely⟩ := hl.live hlive
    refine ⟨submission, hstanding, fun hadmin => ?_⟩
    obtain ⟨hdue, hpending⟩ := htimely hadmin
    refine ⟨?_, fun tries htries => (hpending tries htries).trans (Nat.le_succ _)⟩
    exact hdue.trans (max_le_max le_rfl (Nat.le_succ _))
  credits := hl.credits

theorem agenda (hl : InTime key l) (agenda : List (BlockNumber × BridgeTx)) :
    InTime key { l with agenda } :=
  ⟨hl.live, hl.credits⟩

theorem put (hcredits : CreditsMeet PaysInTime key l.history)
    (hlive : Live detail → ∃ submission ∈ standing key l.history, Timely submission detail l.block)
    :
    InTime key (l.put key detail) where
  live h := by
    rw [Ledger.put_self] at h ⊢
    exact hlive h
  credits := hcredits

theorem credit {amount : ℕ} (hcredits : CreditsMeet PaysInTime key l.history)
    (hpays : PaysInTime (standing key l.history) amount l.block) :
    InTime key (l.credit key detail amount) where
  live h := by
    simp only [Ledger.credit, Ledger.note, Ledger.put, Function.update_self, Live] at h
  credits := by
    refine CreditsMeet.note hcredits fun amount' block hevent => ?_
    cases hevent
    exact hpays

end InTime

section Outcomes

variable {bridgeTx : BridgeTx} {s : Storage} {l : Ledger}

theorem Outcome.inTime {untrusted : Bool} {exemptedDid : Option IdentityId}
    (h : Outcome bridgeTx detail untrusted exemptedDid s l)
    (hcredits : CreditsMeet PaysInTime bridgeTx.key s.ledger.history)
    (hstanding : standing bridgeTx.key s.ledger.history = some submission)
    (hdue : submission.byAdmin = false → submission.due ≤ s.block) : InTime bridgeTx.key l := by
  have htimely : ∀ detail, Timely submission detail s.block := fun detail hadmin =>
    ⟨(hdue hadmin).trans (le_max_right _ _), fun _ _ => hdue hadmin⟩
  cases h with
  | credited hfrozen => exact InTime.credit hcredits fun _ => ⟨submission, hstanding, hdue⟩
  | postponed htrusted hwhy r hr =>
    exact (InTime.put hcredits fun _ => ⟨submission, hstanding, htimely _⟩).agenda _
  | ignored htrusted hwhy =>
    exact ⟨fun _ => ⟨submission, hstanding, htimely _⟩, hcredits⟩

theorem le_unlockBlockNumber {block timelock : BlockNumber} {tried : ℕ}
    (h : block + timelock < 2 ^ 32) : block + timelock ≤ unlockBlockNumber block timelock tried := by
  have hle : block + timelock ≤ 2 ^ 32 - 1 := Nat.le_sub_one_of_lt h
  have hsat : saturatingAdd 32 block timelock = block + timelock := min_eq_left hle
  exact le_min (hsat.symm.le.trans (Nat.le_add_right _ _)) hle

theorem putOff_absent {r : BridgeTxDetail × ℕ} (habsent : detail.status = .absent)
    (h : putOff bridgeTx detail = .ok r) :
    r.1.status = .timelocked := by
  simp only [putOff, habsent] at h
  cases h
  rfl

variable {sender : AccountId}

theorem HandleCase.inTime (h : HandleCase sender bridgeTx s l) (hs : InTime bridgeTx.key s.ledger)
    (hc : timelockConditions.handle sender bridgeTx s) :
    InTime bridgeTx.key l := by
  have hstanding := standing_noteSubmission sender bridgeTx s
  have hcredits := creditsMeet_noteSubmission hs.credits sender
  cases h with
  | later habsent htimelock r hr =>
    refine InTime.agenda (InTime.put hcredits fun _ => ⟨_, hstanding, fun hadmin => ?_⟩) _
    rcases hc with hc | ⟨hwithin, -⟩
    · exact Bool.noConfusion (hc.symm.trans hadmin)
    · refine ⟨le_max_of_le_left (le_unlockBlockNumber (hwithin habsent)), fun tries htries => ?_⟩
      exact BridgeTxStatus.noConfusion ((putOff_absent habsent hr).symm.trans htries)
  | now habsent htimelock l h =>
    refine h.inTime hcredits hstanding fun _ => ?_
    show s.block + s.timelock ≤ s.block
    rw [htimelock]
    exact le_rfl
  | retried tries hpending l h =>
    obtain ⟨submission, hstanding, htimely⟩ := hs.live (live_pending hpending)
    exact h.inTime hs.credits hstanding fun hadmin => (htimely hadmin).2 tries hpending
  | amended hfrozen =>
    have hstatus : (s.details bridgeTx.key).status = .frozen := hfrozen
    refine InTime.put hcredits fun _ => ⟨_, hstanding, fun hadmin => ?_⟩
    rcases hc with hc | ⟨-, htimelock⟩
    · exact Bool.noConfusion (hc.symm.trans hadmin)
    · refine ⟨?_, fun tries htries => ?_⟩
      · show s.block + s.timelock ≤ max _ s.block
        rw [htimelock hfrozen]
        exact le_max_right _ _
      · exact BridgeTxStatus.noConfusion (hstatus.symm.trans htries)

theorem scheduled_inTime {agenda : List (BlockNumber × BridgeTx)}
    (h : Outcome bridgeTx (s.details bridgeTx.key) false none { s with agenda } l)
    (hs : InTime bridgeTx.key s.ledger) (hc : timelockConditions.scheduled bridgeTx s)
    (hstatus : s.ledger.status bridgeTx.key ≠ .handled ∧ s.ledger.status bridgeTx.key ≠ .frozen) :
    InTime bridgeTx.key l := by
  obtain ⟨hpresent, hexecution⟩ := hc
  cases hd : (s.details bridgeTx.key).status with
  | absent => exact absurd hd hpresent
  | frozen => exact absurd hd hstatus.2
  | handled => exact absurd hd hstatus.1
  | timelocked =>
    have hlive : Live (s.ledger.details bridgeTx.key) := by simp only [Live, Storage.ledger, hd]
    obtain ⟨submission, hstanding, htimely⟩ := hs.live hlive
    refine h.inTime hs.credits hstanding fun hadmin => ?_
    exact (htimely hadmin).1.trans (max_le (hexecution hd) le_rfl)
  | pending tries =>
    obtain ⟨submission, hstanding, htimely⟩ := hs.live (live_pending hd)
    exact h.inTime hs.credits hstanding fun hadmin => (htimely hadmin).2 tries hd

theorem unfreezeTx_inTime (env : Env) (hs : InTime bridgeTx.key s.ledger)
    (hc : timelockConditions.unfreeze bridgeTx s)
    (hfrozen : s.ledger.status bridgeTx.key = .frozen) :
    InTime bridgeTx.key (unfreezeTx env bridgeTx s).ledger := by
  have hbacked : (s.details bridgeTx.key).amount ≠ 0 → _ :=
    fun hamount => hs.live (live_frozen hfrozen hamount)
  have hcases := unfreezeTx_cases env bridgeTx s hfrozen
  generalize (unfreezeTx env bridgeTx s).ledger = l at hcases ⊢
  rcases hcases with rfl | h
  · refine InTime.put hs.credits fun hamount => ?_
    obtain ⟨submission, hstanding, htimely⟩ := hbacked hamount
    exact ⟨submission, hstanding, fun hadmin =>
      ⟨(htimely hadmin).1, fun _ h => BridgeTxStatus.noConfusion h⟩⟩
  · cases h with
    | credited hopen =>
      refine InTime.credit hs.credits fun hpaid => ?_
      -- nothing is paid where nothing is stored
      have hamount : (s.details bridgeTx.key).amount ≠ 0 := by
        intro hzero
        refine hpaid ?_
        show deposited _ (s.details bridgeTx.key).amount _ = 0
        rw [hzero]
        rfl
      obtain ⟨submission, hstanding, htimely⟩ := hbacked hamount
      refine ⟨submission, hstanding, fun hadmin => ?_⟩
      exact (htimely hadmin).1.trans (max_le (hc hfrozen hopen hamount) le_rfl)
    | postponed htrusted | ignored htrusted => cases htrusted

theorem freezeTx_inTime (hs : InTime bridgeTx.key s.ledger) :
    InTime bridgeTx.key (freezeTx bridgeTx s).ledger := by
  simp only [freezeTx]
  split
  case isTrue hopen =>
    refine InTime.put hs.credits fun hamount => ?_
    have hlive : Live (s.ledger.details bridgeTx.key) := by
      simp only [Live, Storage.ledger] at hamount ⊢
      split <;> simp_all
    obtain ⟨submission, hstanding, htimely⟩ := hs.live hlive
    exact ⟨submission, hstanding, fun hadmin =>
      ⟨(htimely hadmin).1, fun _ h => BridgeTxStatus.noConfusion h⟩⟩
  case isFalse => exact hs

theorem removeTx_inTime (hs : InTime bridgeTx.key s.ledger) :
    InTime bridgeTx.key (removeTx bridgeTx s).ledger where
  live h := by
    simp [removeTx, Storage.ledger, note, putDetail, Live, BridgeTxDetail.default] at h
  credits := CreditsMeet.note hs.credits nofun

end Outcomes

theorem inTime_keeps (key : Key) : Keeps timelockConditions key (InTime key) where
  apart _ _ := InTime.apart
  tick _ := InTime.tick
  freeze _ _ hkey := hkey ▸ freezeTx_inTime
  remove _ _ hkey hs _ := by
    subst hkey
    exact removeTx_inTime hs
  handle _ _ _ _ hkey hs hc h := by
    subst hkey
    exact h.inTime hs hc
  force _ _ _ _ _ hkey hs _ hadmin _ h := by
    subst hkey
    refine h.inTime (creditsMeet_noteSubmission hs.credits _) (standing_noteSubmission ..)
      fun hnot => ?_
    exact Bool.noConfusion (hadmin.symm.trans hnot)
  scheduled _ _ _ _ hkey hs hc _ hstatus h := by
    subst hkey
    exact scheduled_inTime h hs hc hstatus
  unfreeze env _ _ hkey hs hc hfrozen := by
    subst hkey
    exact unfreezeTx_inTime env hs hc hfrozen

theorem standing_after_removal {key : Key} {before between : List Event}
    (h : standing key (before ++ .removed key :: between) = some submission) :
    .submitted key submission ∈ between := by
  induction between using List.reverseRecOn with
  | nil =>
    rw [standing_concat] at h
    simp [Event.stand] at h
  | append_singleton between event ih =>
    rw [← List.cons_append, ← List.append_assoc, standing_concat] at h
    cases event with
    | submitted key' submission' =>
      simp only [Event.stand] at h
      split at h
      case isTrue hkey =>
        cases h
        rw [hkey]
        exact List.mem_append_right _ (List.mem_singleton.mpr rfl)
      case isFalse => exact List.mem_append_left _ (ih h)
    | credited key' amount block => exact List.mem_append_left _ (ih h)
    | removed key' =>
      simp only [Event.stand] at h
      split at h
      case isTrue => cases h
      case isFalse => exact List.mem_append_left _ (ih h)

/-- **What was removed is not credited, and nothing before its time.** In every run in which tasks find
the entries that they were made for: between a removal of a transaction and a credit there is another
submission, and a credit waits for the timelock of the submission that stands, unless that is the
admin's. -/
theorem removed_or_early_never_credited (config : GenesisConfig) (key : Key) (s : Storage)
    (hs : ReachableBy step timelockConditions.Met (genesis config) s) :
    (∀ before between amount block after,
      s.history = before ++ .removed key :: between ++ .credited key amount block :: after →
      amount ≠ 0 → ∃ submission, .submitted key submission ∈ between) ∧
    ∀ before amount block after,
      s.history = before ++ .credited key amount block :: after → amount ≠ 0 →
      ∃ submission, standing key before = some submission ∧
        (submission.byAdmin = false → submission.block + submission.timelock ≤ block) := by
  have hstart : InTime key (genesis config).ledger := by
    refine ⟨fun hlive => ?_, CreditsMeet.nil _ _⟩
    rcases genesis_details config key with h | h
    · simp only [Live, Storage.ledger, h] at hlive
    · simp only [Storage.ledger, h] at hlive
      exact absurd rfl hlive
  have hcredits := ((inTime_keeps key).reachable hstart hs).credits
  refine ⟨fun before between amount block after hsplit hamount => ?_,
    fun before amount block after hsplit hamount => ?_⟩
  · obtain ⟨submission, hstanding, -⟩ := hcredits _ amount block after hsplit hamount
    exact ⟨submission, standing_after_removal hstanding⟩
  · obtain ⟨submission, hstanding, hdue⟩ := hcredits before amount block after hsplit hamount
    exact ⟨submission, hstanding, hdue⟩

/-- The controller submits 50 for the account 9. -/
def submitFifty : Action := .call allChecked (.signed ⟨1⟩) (.handleBridgeTx fifty)

def byAdmin (call : Call) : Action := .call allChecked (.signed ⟨2⟩) call

/-- The task of a transaction that is frozen comes to nothing. The transaction is removed, and is
credited after it was submitted again. -/
def resubmitted : List Action :=
  [submitFifty, .nextBlock, .nextBlock, .nextBlock, .nextBlock, byAdmin (.freezeTxs [fifty]),
    .task allChecked 0, byAdmin (.removeTxs [fifty]), submitFifty, .nextBlock, .nextBlock, .nextBlock,
    .nextBlock, .task allChecked 0]

theorem resubmitted_conditions :
    Along step timelockConditions.Met (genesis smallChain) resubmitted := by
  refine ⟨fun _ _ _ => .inr ⟨fun _ => by decide +kernel, nofun⟩, trivial, trivial, trivial, trivial,
    fun _ => trivial, fun bridgeTx hdue _ => ?_, fun _ => ⟨trivial, trivial⟩,
    fun _ _ _ => .inr ⟨fun _ => by decide +kernel, ?_⟩, trivial, trivial, trivial, trivial,
    fun bridgeTx hdue _ => ?_, trivial⟩
  · obtain rfl : fifty = bridgeTx := Option.some.inj (.trans (by decide +kernel) hdue)
    exact ⟨by decide +kernel, fun h => absurd h (by decide +kernel)⟩
  · exact fun h => absurd h (by decide +kernel)
  · obtain rfl : fifty = bridgeTx := Option.some.inj (.trans (by decide +kernel) hdue)
    exact ⟨by decide +kernel, fun _ => by decide +kernel⟩

theorem removed_or_early_never_credited_resubmitted :
    ∃ submission, standing fifty.key
        [.submitted fifty.key ⟨50, false, 0, 3⟩, .removed fifty.key,
          .submitted fifty.key ⟨50, false, 4, 3⟩] = some submission ∧
      (submission.byAdmin = false → submission.block + submission.timelock ≤ 8) :=
  (removed_or_early_never_credited smallChain fifty.key _
    ⟨resubmitted, resubmitted_conditions, rfl⟩).2 _ 50 8 [] (by decide +kernel) (by decide)

/-- The task of a transaction that was removed in block 3 credits it in block 4, and so does the task
of one that was submitted again in block 3. -/
theorem credited_by_stale_tasks :
    (run step (genesis smallChain) [submitFifty, .nextBlock, .nextBlock, .nextBlock,
        byAdmin (.freezeTxs [fifty]), byAdmin (.removeTxs [fifty]), .nextBlock,
        .task allChecked 0]).history =
      [.submitted fifty.key ⟨50, false, 0, 3⟩, .removed fifty.key, .credited fifty.key 50 4] ∧
    (run step (genesis smallChain) [submitFifty, .nextBlock, .nextBlock, .nextBlock,
        byAdmin (.freezeTxs [fifty]), byAdmin (.removeTxs [fifty]), submitFifty, .nextBlock,
        .task allChecked 0]).history =
      [.submitted fifty.key ⟨50, false, 0, 3⟩, .removed fifty.key,
        .submitted fifty.key ⟨50, false, 3, 3⟩, .credited fifty.key 50 4] := by
  constructor
  · decide +kernel
  · decide +kernel

end Bridge

end Polymesh
