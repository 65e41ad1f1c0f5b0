import Polymesh.Bridge.Outcomes

/-!
# Credited once

Whatever the admin, the controller, the scheduler and everybody else do with a transaction, it is
credited once at most: the credit makes it handled, and nothing is done to what is handled.
-/

namespace Polymesh

open Transactional Tx TransitionSystem

namespace Bridge

def Event.isCredit (key : Key) : Event → Bool
  | .credited key' _ _ => key' = key
  | _ => false

/-- How often a transaction has been credited. -/
def credits (key : Key) (history : List Event) : ℕ := history.countP (Event.isCredit key)

theorem credits_note (key : Key) (event : Event) (l : Ledger) :
    credits key (l.note event).history =
      credits key l.history + if event.isCredit key then 1 else 0 := by
  simp [credits, Ledger.note, List.countP_append, List.countP_singleton]

/-- What is handled stays as it is and is not credited any more; what is not handled is credited if
and only if it becomes handled, and then once. -/
structure Advances (key : Key) (l l' : Ledger) : Prop where
  handled : l.status key = .handled →
    l'.details key = l.details key ∧ credits key l'.history = credits key l.history
  open_ : l.status key ≠ .handled →
    (l'.status key ≠ .handled ∧ credits key l'.history = credits key l.history) ∨
      (l'.status key = .handled ∧ credits key l'.history = credits key l.history + 1)

namespace Advances

variable {key : Key} {l l' : Ledger}

instance : Std.Refl (Advances key) := ⟨fun _ => ⟨fun _ => ⟨rfl, rfl⟩, fun h => .inl ⟨h, rfl⟩⟩⟩

theorem status_eq (h : Advances key l l') (hl : l.status key = .handled) :
    l'.status key = .handled := by
  rw [Ledger.status, (h.handled hl).1]
  exact hl

instance : IsTrans Ledger (Advances key) where
  trans l l₁ l₂ h h' := by
    refine ⟨fun hl => ?_, fun hl => ?_⟩
    · obtain ⟨hdetails, hcredits⟩ := h'.handled (h.status_eq hl)
      exact ⟨hdetails.trans (h.handled hl).1, hcredits.trans (h.handled hl).2⟩
    · rcases h.open_ hl with ⟨hopen, hcredits⟩ | ⟨hhandled, hcredits⟩
      · rw [← hcredits]
        exact h'.open_ hopen
      · refine .inr ⟨h'.status_eq hhandled, ?_⟩
        rw [(h'.handled hhandled).2, hcredits]

variable {key' : Key} {detail : BridgeTxDetail}

theorem put (hl : l.status key' ≠ .handled) (hdetail : detail.status ≠ .handled) :
    Advances key l (l.put key' detail) := by
  by_cases hkey : key = key'
  · subst hkey
    refine ⟨fun h => absurd h hl, fun _ => .inl ⟨?_, rfl⟩⟩
    simpa [Ledger.status, Ledger.put] using hdetail
  · have hsame : (l.put key' detail).details key = l.details key := by simp [Ledger.put, hkey]
    refine ⟨fun _ => ⟨hsame, rfl⟩, fun h => .inl ⟨?_, rfl⟩⟩
    rwa [Ledger.status, hsame]

theorem agenda (h : Advances key l l') (agenda : List (BlockNumber × BridgeTx)) :
    Advances key l { l' with agenda } :=
  ⟨h.handled, h.open_⟩

theorem note {event : Event} (h : event.isCredit key = false) : Advances key l (l.note event) := by
  have hcredits : credits key (l.note event).history = credits key l.history := by
    simp [credits_note, h]
  exact ⟨fun _ => ⟨rfl, hcredits⟩, fun hl => .inl ⟨hl, hcredits⟩⟩

theorem credit {amount : ℕ} (hl : l.status key' ≠ .handled) :
    Advances key l (l.credit key' detail amount) := by
  by_cases hkey : key = key'
  · subst hkey
    refine ⟨fun h => absurd h hl, fun _ => .inr ⟨by simp [Ledger.status, Ledger.credit,
      Ledger.note, Ledger.put], ?_⟩⟩
    simp [Ledger.credit, credits_note, Ledger.put, Event.isCredit]
  · have hsame : (l.credit key' detail amount).details key = l.details key := by
      simp [Ledger.credit, Ledger.note, Ledger.put, hkey]
    have hcredits : credits key (l.credit key' detail amount).history = credits key l.history := by
      simp [Ledger.credit, credits_note, Ledger.put, Event.isCredit, Ne.symm hkey]
    refine ⟨fun _ => ⟨hsame, hcredits⟩, fun h => .inl ⟨?_, hcredits⟩⟩
    rwa [Ledger.status, hsame]

end Advances

section Steps

variable {key : Key} {bridgeTx : BridgeTx} {detail : BridgeTxDetail} {s : Storage} {l : Ledger}

variable {r : BridgeTxDetail × ℕ}

theorem putOff_status (h : putOff bridgeTx detail = .ok r) :
    r.1.status = .timelocked ∨ ∃ tries, r.1.status = .pending tries := by
  unfold putOff at h
  split at h <;> cases h
  · exact .inl rfl
  · exact .inr ⟨_, rfl⟩
  · exact .inr ⟨_, rfl⟩

theorem postponed_not_handled {timelock block : BlockNumber} (h : putOff bridgeTx detail = .ok r) :
    (postponed bridgeTx timelock block r).status ≠ .handled := by
  show r.1.status ≠ .handled
  rcases putOff_status h with h | ⟨tries, h⟩ <;> rw [h] <;> nofun

theorem Outcome.advances {untrusted : Bool} {exemptedDid : Option IdentityId}
    (h : Outcome bridgeTx detail untrusted exemptedDid s l)
    (hs : s.ledger.status bridgeTx.key ≠ .handled) : Advances key s.ledger l := by
  cases h with
  | credited hfrozen => exact Advances.credit hs
  | postponed htrusted hwhy r hr => exact (Advances.put hs (postponed_not_handled hr)).agenda _
  | ignored htrusted hwhy => exact refl _

theorem noteSubmission_advances (sender : AccountId) :
    Advances key s.ledger (noteSubmission sender bridgeTx s).ledger :=
  Advances.note rfl

theorem HandleCase.advances {sender : AccountId} (h : HandleCase sender bridgeTx s l) :
    Advances key s.ledger l := by
  have hopen : ∀ status, s.ledger.status bridgeTx.key = status → status ≠ .handled →
      s.ledger.status bridgeTx.key ≠ .handled := fun status h hne => h ▸ hne
  have hnote : Advances key s.ledger (noteSubmission sender bridgeTx s).ledger :=
    noteSubmission_advances sender
  cases h with
  | later habsent htimelock r hr =>
    refine IsTrans.trans _ _ _ hnote (Advances.agenda (Advances.put ?_ (postponed_not_handled hr)) _)
    exact hopen _ habsent nofun
  | now habsent htimelock l h =>
    exact IsTrans.trans _ _ _ hnote (h.advances (hopen _ habsent nofun))
  | retried tries hpending l h => exact h.advances (hopen _ hpending nofun)
  | amended hfrozen =>
    have hstatus : (s.details bridgeTx.key).status = .frozen := hfrozen
    refine IsTrans.trans _ _ _ hnote (Advances.put (hopen _ hfrozen nofun) ?_)
    rw [hstatus]
    nofun

theorem freezeTx_advances (bridgeTx : BridgeTx) (s : Storage) :
    Advances key s.ledger (freezeTx bridgeTx s).ledger := by
  simp only [freezeTx]
  split
  case isTrue hopen => exact Advances.put hopen nofun
  case isFalse => exact refl _

theorem unfreezeTx_advances (env : Env) (bridgeTx : BridgeTx) (s : Storage) :
    Advances key s.ledger (unfreezeTx env bridgeTx s).ledger := by
  by_cases hfrozen : s.ledger.status bridgeTx.key = .frozen
  · have hput : Advances key s.ledger (s.ledger.put bridgeTx.key
        { s.details bridgeTx.key with status := .absent }) :=
      Advances.put (by rw [hfrozen]; nofun) nofun
    rcases unfreezeTx_cases env bridgeTx s hfrozen with h | h
    · rw [h]
      exact hput
    · refine IsTrans.trans _ _ _ hput (h.advances ?_)
      simp [Ledger.status, Ledger.put]
  · rw [unfreezeTx_of_ne env hfrozen]
    exact refl _

/-- Transactions that are removed were frozen, each when the first was removed or default by now. -/
theorem removeTxs_advances (bridgeTxs : List BridgeTx)
    (h : ∀ bridgeTx ∈ bridgeTxs, s.ledger.status bridgeTx.key ≠ .handled) :
    Advances key s.ledger (run removeTx s bridgeTxs).ledger := by
  induction bridgeTxs generalizing s with
  | nil => exact refl _
  | cons bridgeTx bridgeTxs ih =>
    have hput : Advances key s.ledger (s.ledger.put bridgeTx.key .default) :=
      Advances.put (h bridgeTx List.mem_cons_self) nofun
    have hfirst : Advances key s.ledger (removeTx bridgeTx s).ledger :=
      IsTrans.trans _ _ _ hput (Advances.note rfl)
    refine IsTrans.trans _ _ _ hfirst (ih fun bridgeTx' hmem => ?_)
    have hbefore := h bridgeTx' (List.mem_cons_of_mem _ hmem)
    by_cases hkey : bridgeTx'.key = bridgeTx.key
    · simp [hkey, Ledger.status, Storage.ledger, removeTx, Bridge.note, putDetail,
        BridgeTxDetail.default]
    · simpa [hkey, Ledger.status, Storage.ledger, removeTx, Bridge.note, putDetail] using hbefore

theorem run_advances {f : BridgeTx → Storage → Storage}
    (hf : ∀ bridgeTx s, Advances key s.ledger (f bridgeTx s).ledger) (bridgeTxs : List BridgeTx)
    (s : Storage) : Advances key s.ledger (run f s bridgeTxs).ledger := by
  induction bridgeTxs generalizing s with
  | nil => exact refl _
  | cons bridgeTx bridgeTxs ih => exact IsTrans.trans _ _ _ (hf bridgeTx s) (ih _)

theorem CallCase.advances {env : Env} {origin : Origin} {call : Call}
    (h : CallCase env origin s call l) : Advances key s.ledger l := by
  cases h with
  | setting call hcall => exact refl _
  | handle sender bridgeTx l horigin h => exact h.advances
  | force sender did bridgeTx l hadmin hstatus h =>
    exact IsTrans.trans _ _ _ (noteSubmission_advances sender) (h.advances hstatus.1)
  | scheduled bridgeTx l hstatus h => exact h.advances hstatus.1
  | freeze bridgeTxs => exact run_advances freezeTx_advances bridgeTxs s
  | unfreeze bridgeTxs => exact run_advances (unfreezeTx_advances env) bridgeTxs s
  | remove bridgeTxs hfrozen =>
    refine removeTxs_advances bridgeTxs fun bridgeTx hmem => ?_
    rw [hfrozen bridgeTx hmem]
    nofun

theorem StepCase.advances {a : Action} (h : StepCase s a l) : Advances key s.ledger l := by
  cases h with
  | idle => exact refl _
  | call env origin call _ hok h => exact h.advances
  | lapsed env index => exact Advances.agenda (refl _) _
  | task env index bridgeTx _ hdue hok h =>
    exact IsTrans.trans _ _ _ (Advances.agenda (refl _) _) h.advances
  | nextBlock => exact ⟨fun _ => ⟨rfl, rfl⟩, fun h => .inl ⟨h, rfl⟩⟩

/-- **What every step does to a transaction.** -/
theorem step_advances (a : Action) (s : Storage) : Advances key s.ledger (step a s).ledger :=
  (step_cases a s).advances

end Steps

theorem steps_advance (key : Key) (s : Storage) (as : List Action) :
    Advances key s.ledger (run step s as).ledger :=
  run_invariant (fun s' => Advances key s.ledger s'.ledger)
    (fun s' a h _ => IsTrans.trans _ _ _ h (step_advances a s')) (refl s.ledger) (along_true s as)

/-- **A transaction is credited once at most, and what is handled stays handled.** A transaction that
was completed before the first block is not credited again. -/
theorem credited_at_most_once (config : GenesisConfig) (key : Key) (as bs : List Action) :
    let s := run step (genesis config) as
    credits key s.history ≤ 1 ∧
      (((genesis config).details key).status = .handled → credits key s.history = 0) ∧
      ((s.details key).status = .handled →
        ((run step s bs).details key).status = .handled ∧
          credits key (run step s bs).history = credits key s.history) := by
  intro s
  have hrun := steps_advance key (genesis config) as
  have hstart : credits key (genesis config).ledger.history = 0 := rfl
  refine ⟨?_, fun hhandled => ?_, fun hhandled => ?_⟩
  · by_cases hhandled : (genesis config).ledger.status key = .handled
    · have hcredits := (hrun.handled hhandled).2
      show credits key (run step (genesis config) as).ledger.history ≤ 1
      omega
    · show credits key (run step (genesis config) as).ledger.history ≤ 1
      rcases hrun.open_ hhandled with ⟨-, hcredits⟩ | ⟨-, hcredits⟩ <;> omega
  · exact (hrun.handled hhandled).2
  · have hlater := steps_advance key s bs
    exact ⟨hlater.status_eq hhandled, (hlater.handled hhandled).2⟩

/-- Everybody has passed the customer check, and the scheduler has room. -/
def allChecked : Env where
  getKeyCddDid := fun _ => some ⟨7⟩
  currentIdentity := fun _ => some ⟨8⟩
  blockRewardsReserve := ⟨0⟩
  schedules := true

/-- The controller is 1 and the admin is 2. -/
def smallChain : GenesisConfig where
  controller := some ⟨1⟩
  admin := some ⟨2⟩
  timelock := 3
  bridgeLimit := (1000, 100)
  completeTxs := []
  balances := ⟨fun _ => .default, 0⟩

/-- 50 for the account 9. -/
def fifty : BridgeTx := ⟨1, ⟨9⟩, 50, 0⟩

/-- The admin forces a transaction through, and tries it again. -/
def forcedOnce : List Action := [.call allChecked (.signed ⟨2⟩) (.forceHandleBridgeTx fifty)]

theorem credited_at_most_once_forced :
    let s := run step (genesis smallChain) forcedOnce
    (s.details fifty.key).status = .handled ∧ credits fifty.key s.history = 1 ∧
      credits fifty.key (run step s forcedOnce).history = 1 := by
  have h := credited_at_most_once smallChain fifty.key forcedOnce forcedOnce
  exact ⟨by decide +kernel, by decide +kernel,
    (h.2.2 (by decide +kernel)).2.trans (by decide +kernel)⟩

end Bridge

end Polymesh
