import Mathlib.Logic.Relation
import Polymesh.Pips.Closing

/-!
# The calls of the PIPs pallet

What every call does to the ledger and to the queues. From a state in agreement no call panics, and a
call that succeeds leads to a state in agreement, by changes of the ledger or by a dispatch.
-/

namespace Polymesh

open Transactional Tx Currency Relation
open Function (update update_idem update_of_ne update_self)

namespace Pips

def Harmless (e : Error) : Prop := e.isPanic = false

/-- **The ledger and the queues agree.** -/
structure Good (s : Storage) : Prop where
  ledger : s.ledger.Sound
  queued : QueuedExcept [] s.pips s.liveQueue
  shortlisted : Shortlisted s.pips s.snapshotQueue
  unsnapshotted : s.snapshotMeta = none → s.snapshotQueue = []

/-- Changes of the ledger lead to a state in agreement. -/
structure Leads (s s' : Storage) : Prop where
  good : Good s'
  changes : ReflTransGen Change s.ledger s'.ledger

/-- A state in agreement follows, and what is past stays so. -/
structure Follows (s s' : Storage) : Prop where
  good : Good s'
  past : ∀ id, s.ledger.Past id → s'.ledger.Past id

variable {l : Ledger} {state : ProposalState} {proposer voter : AccountId} {v : Vote}
  {stats : VotingResult} {locks : List NamedLock}

theorem sound_of_changes {l' : Ledger} (h : l.Sound) (hchanges : ReflTransGen Change l l') :
    l'.Sound := by
  induction hchanges with
  | refl => exact h
  | tail _ hchange ih => exact hchange.sound ih

theorem Leads.follows {s s' : Storage} (h : Leads s s') : Follows s s' := by
  obtain ⟨hgood, hchanges⟩ := h
  refine ⟨hgood, fun id hpast => ?_⟩
  generalize s'.ledger = l' at hchanges
  induction hchanges with
  | refl => exact hpast
  | tail _ hchange ih => exact hchange.past ih

section Checks

variable {env : Env} {origin : Origin} {id : PipId}

theorem ensureRoot_fails : Fails Harmless (ensureRoot origin) := by
  cases origin with
  | root => exact .ok ()
  | signed sender | collective number => exact .error rfl

theorem ensureVotingMajority_fails : Fails Harmless (ensureVotingMajority env origin) :=
  .ensure rfl

theorem ensureOriginCallPermissions_fails :
    Fails Harmless (ensureOriginCallPermissions env origin) := by
  cases origin with
  | signed sender => exact .bind (.okOr rfl) fun _ => .ok _
  | root | collective number => exact .error rfl

theorem committeeOf_fails : Fails Harmless (committeeOf env origin) := by
  unfold committeeOf
  split
  · exact .ok _
  · split
    · exact .ok _
    · exact .error rfl

theorem ensureInferProposer_fails : Fails Harmless (ensureInferProposer env origin) := by
  cases origin with
  | signed sender => exact .bind (.okOr rfl) fun _ => .ok _
  | root | collective number =>
    exact .bind committeeOf_fails fun _ => .bind (.okOr rfl) fun _ => .ok _

variable {s : Storage}

theorem isProposalState_fails :
    Fails Harmless (isProposalState id state s) :=
  .bind (.okOr rfl) fun _ => .ensure rfl

theorem isProposalState_ok {u : Unit} (h : isProposalState id state s = .ok u) :
    (s.pips id).state = some state := by
  simp only [isProposalState, except_bind_eq_ok, okOr_eq_ok, ensure_eq_ok] at h
  obtain ⟨_, hstate, rfl⟩ := h
  exact hstate

theorem communityProposer_fails : Fails Harmless (communityProposer id s) := by
  refine .bind (.okOr rfl) fun pip => ?_
  cases pip.proposer with
  | community proposer => exact .ok _
  | committee committee => exact .error rfl

theorem communityProposer_ok (h : communityProposer id s = .ok proposer) :
    (s.pips id).byCommittee = false := by
  simp only [communityProposer, except_bind_eq_ok, okOr_eq_ok] at h
  obtain ⟨⟨_, _, _ | _⟩, hpip, h⟩ := h
  · rw [PipStorage.byCommittee, hpip]
  · cases h

theorem cast_fails : Fails Harmless (stats.cast v) := by
  unfold VotingResult.cast
  split
  · exact .bind (.okOr rfl) fun _ => .bind (.okOr rfl) fun _ => .ok _
  · exact .bind (.okOr rfl) fun _ => .bind (.okOr rfl) fun _ => .ok _

theorem revote_fails {p : PipStorage} :
    Fails Harmless (p.revote voter v) := by
  unfold PipStorage.revote
  split
  · exact cast_fails
  · exact cast_fails

theorem increaseLock_fails {who : AccountId} {amount : ℕ} :
    Fails Harmless (Currency.increaseLock .lockOverflow pipsLockId amount .all
      (fun sum => ensure (sum ≤ env.freeBalance who) .insufficientDeposit) locks) := by
  unfold Currency.increaseLock
  split
  · exact .ok _
  · split
    · exact .bind (.okOr rfl) fun _ => .bind (.ensure rfl) fun _ => .ok _
    · exact .bind (.ensure rfl) fun _ => .ok _

end Checks

/-! ## Settings and snapshots -/

section Calls

variable {env : Env} {origin : Origin} {s s' : Storage} {id : PipId}

theorem Leads.of_same (h : Good s) (hledger : s'.ledger = s.ledger) (hqueues : SameQueues s s') :
    Leads s s' := by
  obtain ⟨hlive, hsnapshot, hmeta⟩ := hqueues
  have hpips : s'.pips = s.pips := congrArg Ledger.pips hledger
  refine ⟨⟨by rw [hledger]; exact h.ledger, ?_, ?_, ?_⟩, by rw [hledger]⟩
  · rw [hpips, hlive]
    exact h.queued
  · rw [hpips, hsnapshot]
    exact h.shortlisted
  · rw [hmeta, hsnapshot]
    exact h.unsnapshotted

theorem clearSnapshot_ends (h : Good s) :
    Ends (clearSnapshot env origin) s (fun _ => Leads s) Harmless := by
  refine .read_bind ensureOriginCallPermissions_fails fun _ _ => .ensure_bind rfl fun _ =>
    .get_bind (.onlyIf (fun _ => .modify ?_) fun _ => .of_same h rfl ⟨rfl, rfl, rfl⟩)
  exact ⟨⟨h.ledger, h.queued, ⟨List.nodup_nil, fun _ he => absurd he List.not_mem_nil⟩, fun _ => rfl⟩,
    .refl⟩

theorem snapshot_ends (h : Good s) : Ends (snapshot env origin) s (fun _ => Leads s) Harmless := by
  refine .read_bind ensureOriginCallPermissions_fails fun _ _ => .ensure_bind rfl fun _ =>
    .get_bind (.read_bind (.okOr rfl) fun _ _ => .modify ?_)
  exact ⟨⟨h.ledger, h.queued, h.queued.shortlisted, fun hnone => by cases hnone⟩, .refl⟩

/-! ## Schedules -/

theorem Good.apart (h : Good s) (hnot : ¬ Waiting s.pips id) :
    ∀ e ∈ s.snapshotQueue, e.id ≠ id := by
  rintro e he rfl
  exact hnot (h.shortlisted.waiting e he)

theorem Good.reschedule (h : Good s) (hstate : (s.pips id).state = some state)
    (schedule : Option BlockNumber) : Good (s.mapPip id fun p => { p with schedule }) := by
  refine ⟨h.ledger.rescheduling hstate schedule, h.queued.keep rfl rfl rfl, h.shortlisted.keep ?_,
    h.unsnapshotted⟩
  by_cases hwaiting : Waiting s.pips id
  · exact .inr hwaiting
  · exact .inl (h.apart hwaiting)

theorem rescheduleExecution_ends (h : Good s) (till : Option BlockNumber) :
    Ends (rescheduleExecution env origin id till) s (fun _ => Leads s) Harmless := by
  refine .read_bind ensureOriginCallPermissions_fails fun _ _ => .ensure_bind rfl fun _ =>
    .read_bind isProposalState_fails fun _ hstate => .ensure_bind rfl fun _ => .modify ?_
  have hscheduled := isProposalState_ok hstate
  exact ⟨h.reschedule hscheduled _, .single (.reschedule id _ hscheduled)⟩

theorem schedulePip_eq (env : Env) (hpending : (s.pips id).state = some .pending) :
    schedulePipForExecution env id s = s.mapPip id fun p =>
      { p with schedule := some (enactmentBlock env s), state := some .scheduled } := by
  have hstate : ((s.mapPip id fun p => { p with schedule := some (enactmentBlock env s) }).pips
      id).state = some .pending := by
    rw [Storage.mapPip_self]
    exact hpending
  simp only [schedulePipForExecution, updateProposalState, hstate, show isActive .scheduled = true
    from rfl, if_true]
  simp only [Storage.mapPip, update_self, update_idem]

theorem approveCommitteeProposal_ends (h : Good s) :
    Ends (approveCommitteeProposal env origin id) s (fun _ => Leads s) Harmless := by
  refine .read_bind ensureVotingMajority_fails fun _ _ => .read_bind isProposalState_fails
    fun _ hstate => .read_bind (.okOr rfl) fun _ _ => .read_bind (.ensure rfl)
    fun _ hcommittee => .modify ?_
  have hpending := isProposalState_ok hstate
  have hchange : Change s.ledger (schedulePipForExecution env id s).ledger := by
    rw [schedulePip_eq env hpending]
    exact .schedule id _ hpending
  have hnot : ¬ Waiting s.pips id := fun hwaiting => by
    cases hwaiting.2.symm.trans (ensure_eq_ok.mp hcommittee)
  refine ⟨⟨hchange.sound h.ledger, ?_, ?_, ?_⟩, .single hchange⟩ <;>
    rw [schedulePip_eq env hpending]
  · exact (h.queued.cons hnot).leave fun hwaiting => by cases hwaiting.1
  · refine h.shortlisted.keep (.inl ?_)
    rintro e he rfl
    exact hnot (h.shortlisted.waiting e he)
  · exact h.unsnapshotted

/-! ## Closing -/

variable {old new : ProposalState}

/-- **Closing a proposal succeeds.** -/
theorem maybePrune_sound (h : s.ledger.Sound) (hstate : (s.pips id).state = some old)
    (hinactive : isActive new = false) :
    ∃ s' locks, maybePrune id new s = (.ok (), s') ∧
      s'.ledger = s.ledger.closing id old new s.pruneHistoricalPips locks ∧
      Released (s.pips id) s.locks locks ∧ SameQueues s s' :=
  maybePrune_ok hstate hinactive (fun _ he => (h.sound id).owner_eq he) h.locked
    (s.ledger.depositOf_le_deposited id)

theorem good_of_closing {prune : Bool} {locks : AccountId → List NamedLock}
    (hinactive : isActive new = false) (hsound : s'.ledger.Sound)
    (hledger : s'.ledger = s.ledger.closing id old new prune locks)
    (hqueued : QueuedExcept [id] s.pips s.liveQueue)
    (hshortlisted : Shortlisted s.pips s.snapshotQueue)
    (happart : ∀ e ∈ s.snapshotQueue, e.id ≠ id)
    (hmeta : s.snapshotMeta = none → s.snapshotQueue = []) (hqueues : SameQueues s s') :
    Good s' := by
  obtain ⟨hlive, hsnapshot, hmeta'⟩ := hqueues
  have hpips : s'.pips = update s.pips id ((s.pips id).close new prune) :=
    congrArg Ledger.pips hledger
  refine ⟨hsound, ?_, ?_, ?_⟩
  · rw [hpips, hlive]
    exact hqueued.leave fun hwaiting => PipStorage.close_ne_pending hinactive hwaiting.1
  · rw [hpips, hsnapshot]
    exact hshortlisted.keep (.inl happart)
  · rw [hmeta', hsnapshot]
    exact hmeta

theorem Good.closing (h : Good s) (hnot : ¬ Waiting s.pips id) {prune : Bool}
    {locks : AccountId → List NamedLock} (hstate : (s.pips id).state = some old)
    (hinactive : isActive new = false)
    (hledger : s'.ledger = s.ledger.closing id old new prune locks)
    (hreleased : Released (s.pips id) s.locks locks) (hqueues : SameQueues s s') : Good s' := by
  have hsound : s'.ledger.Sound := by
    rw [hledger]
    exact h.ledger.closing hstate hinactive hreleased
  exact good_of_closing hinactive hsound hledger (h.queued.cons hnot) h.shortlisted (h.apart hnot)
    h.unsnapshotted hqueues

theorem maybeUnsnapshot_pending (id : PipId) (h : Good s) :
    let s₁ := maybeUnsnapshotPip id .pending s
    s₁.ledger = s.ledger ∧ QueuedExcept [id] s.pips s₁.liveQueue ∧
      Shortlisted s.pips s₁.snapshotQueue ∧ (∀ e ∈ s₁.snapshotQueue, e.id ≠ id) ∧
      (s₁.snapshotMeta = none → s₁.snapshotQueue = []) := by
  intro s₁
  have hs₁ : s₁ = { s with
      liveQueue := s.liveQueue.filter (·.id ≠ id)
      snapshotQueue :=
        if s.snapshotMeta.isSome then s.snapshotQueue.filter (·.id ≠ id) else s.snapshotQueue } :=
    if_pos rfl
  rw [hs₁]
  have hlive : (s.liveQueue.filter (·.id ≠ id)) = s.liveQueue.filter fun e => e.id ∉ [id] := by
    simp
  refine ⟨rfl, ?_, ?_⟩
  · dsimp only
    rw [hlive]
    exact h.queued.take [id]
  · dsimp only
    cases hmeta : s.snapshotMeta with
    | none =>
      rw [h.unsnapshotted hmeta]
      exact ⟨⟨List.nodup_nil, fun _ he => absurd he List.not_mem_nil⟩,
        fun _ he => absurd he List.not_mem_nil, fun _ => rfl⟩
    | some snapshot =>
      refine ⟨h.shortlisted.filter _, fun e he => ?_, fun hnone => by cases hnone⟩
      simpa using List.of_mem_filter he

/-- **A pending proposal is closed.** -/
theorem close_pending_ends (h : Good s) (hpending : (s.pips id).state = some .pending)
    (hnext : Next .pending new) (hinactive : isActive new = false) :
    Ends (maybePrune id new) (maybeUnsnapshotPip id .pending s) (fun _ => Leads s) Harmless := by
  obtain ⟨hledger₁, hqueued, hshortlisted, happart, hmeta⟩ := maybeUnsnapshot_pending id h
  set s₁ := maybeUnsnapshotPip id .pending s
  have hpips : s₁.pips = s.pips := congrArg Ledger.pips hledger₁
  rw [← hpips] at hpending hqueued hshortlisted
  obtain ⟨s', locks, hok, hledger, hreleased, hqueues⟩ :=
    maybePrune_sound (by rw [hledger₁]; exact h.ledger) hpending hinactive
  have hchange : Change s₁.ledger s'.ledger := by
    rw [hledger]
    exact .close_unscheduled hpending (by decide) (.inl hnext) hinactive hreleased
  rw [hledger₁] at hchange
  exact .of_ok hok ⟨good_of_closing hinactive (hchange.sound h.ledger) hledger hqueued hshortlisted
    happart hmeta hqueues, .single hchange⟩

theorem expireScheduledPip_ends (h : Good s) :
    Ends (expireScheduledPip origin id) s (fun _ => Leads s) Harmless :=
  .read_bind ensureRoot_fails fun _ _ => .get_bind (.onlyIf
    (fun hpending => .modify_bind (close_pending_ends h hpending .expire rfl))
    fun _ => .of_same h rfl ⟨rfl, rfl, rfl⟩)

/-- **A scheduled proposal is rejected.** -/
theorem close_scheduled_ends (h : Good s) (hscheduled : (s.pips id).state = some .scheduled) :
    Ends (maybePrune id .rejected) (s.mapPip id fun p => { p with schedule := none })
      (fun _ => Leads s) Harmless := by
  have hgood := h.reschedule hscheduled none
  set s₁ := s.mapPip id fun p => { p with schedule := none } with hs₁
  have hpip : s₁.pips id = { s.pips id with schedule := none } := Storage.mapPip_self ..
  have hstate : (s₁.pips id).state = some .scheduled := by
    rw [hpip]
    exact hscheduled
  have hnot : ¬ Waiting s₁.pips id := fun hwaiting => by cases hwaiting.1.symm.trans hstate
  obtain ⟨s', locks, hok, hledger, hreleased, hqueues⟩ :=
    maybePrune_sound hgood.ledger hstate (show isActive .rejected = false from rfl)
  refine .of_ok hok ⟨hgood.closing hnot hstate rfl hledger hreleased hqueues, .single ?_⟩
  rw [hledger]
  rw [hpip] at hreleased
  exact .close id .scheduled .rejected _ none locks hscheduled (.inl .withdraw) rfl rfl hreleased

theorem rejectProposal_ends (h : Good s) :
    Ends (rejectProposal env origin id) s (fun _ => Leads s) Harmless := by
  refine .read_bind ensureVotingMajority_fails fun _ _ => .read_bind (.okOr rfl)
    fun state hstate => .ensure_bind rfl fun hactive => .modify_bind (.modify_bind ?_)
  rw [okOr_eq_ok] at hstate
  rcases PipStorage.active_iff.mp ((PipStorage.active_eq hstate).trans hactive) with hpending | hscheduled
  · rw [Option.some_inj.mp (hstate.symm.trans hpending)]
    exact close_pending_ends h hpending .reject rfl
  · rw [Option.some_inj.mp (hstate.symm.trans hscheduled)]
    exact close_scheduled_ends h hscheduled

theorem pruneProposal_ends (h : Good s) :
    Ends (pruneProposal env origin id) s (fun _ => Leads s) Harmless := by
  refine .read_bind ensureVotingMajority_fails fun _ _ => .read_bind (.okOr rfl)
    fun state hstate => .ensure_bind rfl fun hinactive => ?_
  rw [okOr_eq_ok] at hstate
  have hnot : ¬ Waiting s.pips id := fun hwaiting => by
    cases hinactive.symm.trans ((PipStorage.active_eq hstate).symm.trans
      (PipStorage.active_of_pending hwaiting.1))
  have hne : state ≠ .scheduled := by
    rintro rfl
    cases hinactive
  obtain ⟨s', locks, hok, hledger, hreleased, hqueues⟩ := pruneData_ok hstate hinactive
    (fun e he => (h.ledger.sound id).owner_eq he) h.ledger.locked
    (s.ledger.depositOf_le_deposited id) true
  refine .of_ok hok ⟨h.closing hnot hstate hinactive hledger hreleased hqueues, .single ?_⟩
  rw [hledger]
  exact .close_unscheduled hstate hne (.inr ⟨rfl, rfl⟩) hinactive hreleased

/-! ## Dispatches -/

/-- A proposal is closed as `new`, or is pruned already. -/
def Closes (id : PipId) (new : ProposalState) (l l' : Ledger) : Prop :=
  (l.pips id).state = none ∧ l' = l ∨ ∃ old prune locks, (l.pips id).state = some old ∧
    Released (l.pips id) l.locks locks ∧ l' = l.closing id old new prune locks

/-- A scheduled proposal is dispatched, which runs `R`, and closed then. -/
structure Dispatches (R : Storage → Storage → Prop) (id : PipId) (s s' : Storage) : Prop where
  scheduled : (s.pips id).state = some .scheduled
  good : Good s'
  closes : ∃ s₂ new, Next .scheduled new ∧ isActive new = false ∧
    R ((s.mapPip id fun p => { p with schedule := none }).note (.dispatched id)) s₂ ∧
      Closes id new s₂.ledger s'.ledger

theorem maybePrune_past (h : Good s) (hpast : s.ledger.Past id) (hinactive : isActive new = false) :
    ∃ s', maybePrune id new s = (.ok (), s') ∧ Good s' ∧ Closes id new s.ledger s'.ledger := by
  cases hstate : (s.pips id).state with
  | none =>
    exact ⟨s, maybePrune_pruned ((h.ledger.sound id).absent hstate) hinactive, h, .inl ⟨hstate, rfl⟩⟩
  | some old =>
    have hnot : ¬ Waiting s.pips id := fun hwaiting => hpast.2 hwaiting.1
    obtain ⟨s', locks, hok, hledger, hreleased, hqueues⟩ :=
      maybePrune_sound h.ledger hstate hinactive
    exact ⟨s', hok, h.closing hnot hstate hinactive hledger hreleased hqueues,
      .inr ⟨old, _, locks, hstate, hreleased, hledger⟩⟩

/-- **A scheduled proposal is dispatched.** It may call the pallet in turn, and leave nothing of
itself to be closed. -/
theorem executeScheduledPip_ends {inner : Dispatch Unit} {R : Storage → Storage → Prop}
    (hinner : ∀ s, Good s → Ends inner s (fun _ => R s) Harmless)
    (hR : ∀ s s', R s s' → Follows s s') (h : Good s) :
    Ends (executeScheduledPip env origin id inner) s (fun _ => Dispatches R id s) Harmless := by
  refine .read_bind ensureRoot_fails fun _ _ => .modify_bind (.read_bind (.okOr rfl)
    fun pip _ => .read_bind (.okOr rfl) fun state hstate => .ensure_bind rfl
    fun hscheduled => .modify_bind ?_)
  rw [okOr_eq_ok, Storage.mapPip_self] at hstate
  subst hscheduled
  have hgood := h.reschedule hstate none
  have hnoted : Good ((s.mapPip id fun p => { p with schedule := none }).note (.dispatched id)) :=
    { hgood with ledger := hgood.ledger.dispatched id }
  have hnext : Next .scheduled (if env.dispatches pip.proposal then .executed else .failed) := by
    split
    · exact .execute
    · exact .fail
  have hinactive : isActive (if env.dispatches pip.proposal then .executed else .failed) = false := by
    split <;> rfl
  refine .bind (hinner _ hnoted) fun _ s₂ hs₂ => ?_
  have hpast : s₂.ledger.Past id := by
    refine (hR _ _ hs₂).past id ⟨h.ledger.lt_sequence hstate, ?_⟩
    show (Function.update s.pips id _ id).state ≠ _
    rw [update_self]
    dsimp only
    rw [hstate]
    decide
  obtain ⟨s', hok, hgood', hcloses⟩ := maybePrune_past (hR _ _ hs₂).good hpast hinactive
  exact .of_ok hok ⟨hstate, hgood', s₂, _, hnext, hinactive, hs₂, hcloses⟩

/-! ## Votes -/

theorem changeDeposit_ends (s : Storage) (id : PipId) (voter : AccountId) (deposit : ℕ) :
    Ends (changeDeposit env id voter deposit) s (fun _ s' => ∃ locks, s' = s.putLocks voter locks ∧
      ∀ n, held pipsLockId (s.locks voter) = lockOf n → (s.pips id).depositOf voter ≤ n →
        held pipsLockId locks = lockOf (n - (s.pips id).depositOf voter + deposit)) Harmless := by
  refine .get_bind ?_
  dsimp only
  split
  case isTrue hless =>
    refine .read_bind ?_ fun locks hlocks => .modify ⟨locks, rfl, fun n hn hle => ?_⟩
    · intro e he
      unfold Except.mapError at he
      split at he
      · cases he
        exact rfl
      · cases he
    · obtain ⟨locks', hreduce, hheld⟩ := reduceLock_held hn
        (show (s.pips id).depositOf voter - deposit ≤ n by omega)
      rw [hreduce] at hlocks
      cases hlocks
      rw [hheld]
      refine congrArg lockOf ?_
      omega
  case isFalse hless =>
    refine .read_bind increaseLock_fails fun locks hlocks => .modify ⟨locks, rfl, fun n hn hle => ?_⟩
    rw [increaseLock_held hn hlocks]
    refine congrArg lockOf ?_
    omega

theorem unsafeVote_ends (s : Storage) (id : PipId) (voter : AccountId) (v : Vote) :
    Ends (unsafeVote id voter v) s (fun _ s' => ∃ stats, (s.pips id).revote voter v = .ok stats ∧
      s' = s.mapPip id fun p => { p with result := stats, votes := p.votes.insert voter v })
      Harmless :=
  .read_bind revote_fails fun stats hstats => .modify ⟨stats, hstats, rfl⟩

/-- What is stored of a proposal after a vote. -/
def PipStorage.withVote (p : PipStorage) (stats : VotingResult) (voter : AccountId) (v : Vote) :
    PipStorage :=
  { p with
    result := stats
    votes := p.votes.insert voter v
    deposits := p.deposits.insert voter ⟨voter, v.stake⟩ }

theorem voted_eq (s : Storage) (id : PipId) (stats : VotingResult) (voter : AccountId) (v : Vote)
    (old : SnapshottedPip) :
    putDeposit id voter v.stake (adjustLiveQueue id old (s.mapPip id fun p =>
      { p with result := stats, votes := p.votes.insert voter v })) =
      { s with
        pips := update s.pips id ((s.pips id).withVote stats voter v)
        liveQueue := moveEntry old ⟨id, stats.weight⟩ s.liveQueue
        history := s.history ++ [.deposited id voter v.stake] } := by
  simp only [putDeposit, adjustLiveQueue, aggregateResult, Storage.note, Storage.mapPip,
    update_self, update_idem, PipStorage.withVote]

/-- **A vote** moves a proposal in the ranking. -/
theorem voted_leads (h : Good s) (hpending : (s.pips id).state = some .pending)
    (hcommunity : (s.pips id).byCommittee = false)
    (hlocks : ∀ n, held pipsLockId (s.locks voter) = lockOf n →
      (s.pips id).depositOf voter ≤ n →
        held pipsLockId locks = lockOf (n - (s.pips id).depositOf voter + v.stake))
    (hstats : (s.pips id).revote voter v = .ok stats) :
    Leads s (putDeposit id voter v.stake (adjustLiveQueue id (aggregateResult id s)
      ((s.putLocks voter locks).mapPip id fun p =>
        { p with result := stats, votes := p.votes.insert voter v }))) := by
  have hwaiting : ((s.pips id).withVote stats voter v).state = some .pending ∧
      ((s.pips id).withVote stats voter v).byCommittee = false := ⟨hpending, hcommunity⟩
  have hchange : Change s.ledger { s.ledger with
      pips := update s.pips id ((s.pips id).withVote stats voter v)
      locks := update s.locks voter locks
      history := s.history ++ [.deposited id voter v.stake] } := by
    refine .vote id voter v stats _ hpending hstats (fun n hn hle => ?_)
      fun who hwho => update_of_ne hwho ..
    rw [update_self]
    exact hlocks n hn hle
  rw [voted_eq]
  refine ⟨⟨hchange.sound h.ledger, ?_, ?_, h.unsnapshotted⟩, .single hchange⟩
  · exact h.queued.moved ⟨hpending, hcommunity⟩ hwaiting
  · exact h.shortlisted.keep (.inr hwaiting)

theorem vote_ends (h : Good s) (ayeOrNay : Bool) (deposit : ℕ) :
    Ends (vote env origin id ayeOrNay deposit) s (fun _ => Leads s) Harmless := by
  refine .read_bind ensureOriginCallPermissions_fails fun ⟨voter, _⟩ _ =>
    .read_bind communityProposer_fails fun proposer hproposer => .bind (R := fun _ t => s = t)
      (.onlyIf (fun _ => .read (.ensure rfl) fun _ _ => rfl) fun _ => rfl) ?_
  rintro _ _ rfl
  refine .read_bind isProposalState_fails fun _ hstate => .get_bind (.bind (.transaction (.bind
    (changeDeposit_ends s id voter deposit) ?_)) (R := fun _ t => ∃ locks stats,
      (∀ n, held pipsLockId (s.locks voter) = lockOf n → (s.pips id).depositOf voter ≤ n →
        held pipsLockId locks = lockOf (n - (s.pips id).depositOf voter + deposit)) ∧
      (s.pips id).revote voter ⟨ayeOrNay, deposit⟩ = .ok stats ∧
      t = (s.putLocks voter locks).mapPip id fun p =>
        { p with result := stats, votes := p.votes.insert voter ⟨ayeOrNay, deposit⟩ }) ?_)
  · rintro _ _ ⟨locks, rfl, hlocks⟩
    obtain ⟨hok, herror⟩ := unsafeVote_ends (s.putLocks voter locks) id voter ⟨ayeOrNay, deposit⟩
    refine ⟨fun _ t ht => ?_, herror⟩
    obtain ⟨stats, hstats, rfl⟩ := hok _ t ht
    exact ⟨locks, stats, hlocks, hstats, rfl⟩
  · rintro _ _ ⟨locks, stats, hlocks, hstats, rfl⟩
    refine .modify_bind (.modify ?_)
    exact voted_leads h (isProposalState_ok hstate) (communityProposer_ok hproposer) hlocks hstats

/-! ## Proposals -/

theorem takeDeposit_community_ends (s : Storage) (proposer : AccountId) (deposit : ℕ) :
    Ends (takeDeposit env deposit (.community proposer)) s (fun _ s' => ∃ locks,
      s' = s.putLocks proposer locks ∧ ∀ n, held pipsLockId (s.locks proposer) = lockOf n →
        held pipsLockId locks = lockOf (n + deposit)) Harmless := by
  refine .read_bind (.ensure rfl) fun _ _ => .read_bind (.ensure rfl) fun _ _ =>
    .transaction (.bind (R := fun _ s' => ∃ locks, s' = s.putLocks proposer locks ∧
      ∀ n, held pipsLockId (s.locks proposer) = lockOf n →
        held pipsLockId locks = lockOf (n + deposit)) ?_ ?_)
  · exact .read_bind increaseLock_fails fun locks hlocks => .modify
      ⟨locks, rfl, fun n hn => increaseLock_held hn hlocks⟩
  · exact fun _ s' hs' => .read (.ensure rfl) fun _ _ => hs'

theorem takeDeposit_committee_ends (s : Storage) (committee : Committee) (deposit : ℕ) :
    Ends (takeDeposit env deposit (.committee committee)) s (fun _ s' => s = s') Harmless :=
  .ensure_bind rfl fun _ => .read (.ensure rfl) fun _ _ => rfl

/-- What is stored of a new proposal. -/
def createdPip (pip : Pip) : PipStorage :=
  { PipStorage.empty with proposal := some pip, state := some .pending }

theorem created_byCommittee (pip : Pip) :
    (createdPip pip).byCommittee = pip.proposer.isCommittee := by
  obtain ⟨_, _, _ | _⟩ := pip <;> rfl

section Propose

variable {pip : Pip} {seq : PipId}

theorem createPip_eq (hempty : s.pips pip.id = .empty) :
    createPip seq pip s = { s with
      pips := update s.pips pip.id (createdPip pip)
      pipIdSequence := seq
      activePipCount := wrapAdd 32 s.activePipCount 1 } := by
  simp only [createPip, Storage.mapPip, hempty, createdPip]

theorem Good.unused (h : Good s) (hid : pip.id = s.pipIdSequence) :
    s.pips pip.id = .empty ∧ ¬ Waiting s.pips pip.id := by
  have hempty : s.pips pip.id = .empty := h.ledger.fresh _ (by rw [hid]; exact le_rfl)
  refine ⟨hempty, fun hwaiting => ?_⟩
  rw [Waiting, hempty] at hwaiting
  cases hwaiting.1

/-- **A committee proposal** is in no queue. -/
theorem committee_leads (h : Good s) (hid : pip.id = s.pipIdSequence)
    (hseq : seq.number.val = s.pipIdSequence.number.val + 1) (hcommittee : pip.proposer.isCommittee) :
    Leads s { createPip seq pip s with
      committeePips := (createPip seq pip s).committeePips ++ [pip.id] } := by
  obtain ⟨hempty, hnot⟩ := h.unused hid
  have hchange : Change s.ledger { s.ledger with
      pips := update s.pips pip.id (createdPip pip)
      pipIdSequence := seq
      activePipCount := wrapAdd 32 s.activePipCount 1
      committeePips := s.committeePips ++ [pip.id] } := by
    have hcreate := Change.create (l := s.ledger) pip seq hid hseq
    rw [if_pos hcommittee, show s.ledger.pips pip.id = .empty from hempty] at hcreate
    exact hcreate
  rw [createPip_eq hempty]
  refine ⟨⟨hchange.sound h.ledger, ?_, h.shortlisted.keep (.inl (h.apart hnot)), h.unsnapshotted⟩,
    .single hchange⟩
  refine (h.queued.cons hnot).leave fun hwaiting => ?_
  rw [created_byCommittee, hcommittee] at hwaiting
  cases hwaiting.2

theorem enteredPip_eq (hempty : s.pips pip.id = .empty) (proposer : AccountId) (deposit : ℕ)
    (locks : List NamedLock) (stats : VotingResult) :
    (putDeposit pip.id proposer deposit (createPip seq pip (s.putLocks proposer locks))).mapPip pip.id
        (fun p => { p with result := stats, votes := p.votes.insert proposer ⟨true, deposit⟩ }) =
      { s with
        pips := update s.pips pip.id
          ((createdPip pip).withVote stats proposer ⟨true, deposit⟩)
        pipIdSequence := seq
        activePipCount := wrapAdd 32 s.activePipCount 1
        locks := update s.locks proposer locks
        history := s.history ++ [.deposited pip.id proposer deposit] } := by
  simp only [createPip, putDeposit, Storage.note, Storage.mapPip, Storage.putLocks,
    update_self, update_idem, PipStorage.withVote, createdPip, hempty]

variable {deposit : ℕ}

theorem community_changes (h : s.ledger.Sound) (hid : pip.id = s.pipIdSequence)
    (hseq : seq.number.val = s.pipIdSequence.number.val + 1)
    (hproposer : pip.proposer = .community proposer)
    (hlocks : ∀ n, held pipsLockId (s.locks proposer) = lockOf n →
      held pipsLockId locks = lockOf (n + deposit))
    (hstats : (createdPip pip).revote proposer ⟨true, deposit⟩ = .ok stats) :
    ReflTransGen Change s.ledger { s.ledger with
      pips := update s.pips pip.id
        ((createdPip pip).withVote stats proposer ⟨true, deposit⟩)
      pipIdSequence := seq
      activePipCount := wrapAdd 32 s.activePipCount 1
      locks := update s.locks proposer locks
      history := s.history ++ [.deposited pip.id proposer deposit] } := by
  have hempty : s.ledger.pips pip.id = .empty := h.fresh _ (by rw [hid]; exact le_rfl)
  have hcreate := Change.create (l := s.ledger) pip seq hid hseq
  rw [hproposer, show (Proposer.community proposer).isCommittee = false from rfl,
    if_neg Bool.false_ne_true, hempty] at hcreate
  set l : Ledger := { s.ledger with
    pipIdSequence := seq
    activePipCount := wrapAdd 32 s.ledger.activePipCount 1
    pips := update s.ledger.pips pip.id (createdPip pip) } with hl
  have hpip : l.pips pip.id = createdPip pip := update_self ..
  have hnothing : (createdPip pip).depositOf proposer = 0 := rfl
  have hvote := Change.vote (l := l) pip.id proposer ⟨true, deposit⟩ stats
    (update s.locks proposer locks) (by rw [hpip]; rfl) (by rw [hpip]; exact hstats)
    (fun n hn _ => by
      rw [hpip, hnothing, update_self]
      exact hlocks n hn)
    fun who hwho => update_of_ne hwho ..
  rw [hpip, hl] at hvote
  dsimp only at hvote
  rw [update_idem] at hvote
  exact .tail (.single hcreate) hvote

/-- **A community proposal** enters the queue with the deposit of its proposer. -/
theorem community_ends (h : Good s) (hid : pip.id = s.pipIdSequence)
    (hseq : seq.number.val = s.pipIdSequence.number.val + 1)
    (hproposer : pip.proposer = .community proposer)
    (hlocks : ∀ n, held pipsLockId (s.locks proposer) = lockOf n →
      held pipsLockId locks = lockOf (n + deposit)) :
    Ends (enterPip pip.id deposit (.community proposer)) (createPip seq pip (s.putLocks proposer locks))
      (fun _ => Leads s) Harmless := by
  obtain ⟨hempty, hnot⟩ := h.unused hid
  refine .modify_bind (.bind (unsafeVote_ends _ pip.id proposer ⟨true, deposit⟩) ?_)
  rintro _ _ ⟨stats, hstats, rfl⟩
  rw [enteredPip_eq hempty]
  have hstats' : (createdPip pip).revote proposer ⟨true, deposit⟩ = .ok stats := by
    rw [← hstats, putDeposit, createPip_eq (s := s.putLocks proposer locks) hempty]
    simp only [Storage.note, Storage.mapPip, update_self]
    rfl
  have hchanges := community_changes h.ledger hid hseq hproposer hlocks hstats'
  set p := (createdPip pip).withVote stats proposer ⟨true, deposit⟩ with hp
  have hwaiting : p.state = some .pending ∧ p.byCommittee = false := by
    refine ⟨rfl, ?_⟩
    have hcommittee := created_byCommittee pip
    rw [hproposer] at hcommittee
    exact hcommittee
  obtain ⟨pos, hpos⟩ := searchQueue_error (e := ⟨pip.id, stats.weight⟩) h.queued.ordered
    fun hmem => hnot ((h.queued.mem _).mp hmem).1
  have hweight : aggregateResult pip.id { s with
      pips := update s.pips pip.id p
      pipIdSequence := seq
      activePipCount := wrapAdd 32 s.activePipCount 1
      locks := update s.locks proposer locks
      history := s.history ++ [.deposited pip.id proposer deposit] } = ⟨pip.id, stats.weight⟩ := by
    simp only [aggregateResult, update_self]
    rfl
  refine .get_bind ?_
  dsimp only
  rw [hweight, hpos]
  refine .modify ⟨⟨sound_of_changes h.ledger hchanges, ?_, ?_, h.unsnapshotted⟩, hchanges⟩
  · exact h.queued.entered hnot hwaiting hpos
  · exact h.shortlisted.keep (.inr hwaiting)

/-- **A proposal is made.** -/
theorem propose_ends (h : Good s) (proposal : Proposal) (deposit : ℕ) :
    Ends (propose env origin proposal deposit) s (fun _ => Leads s) Harmless := by
  refine .read_bind ensureInferProposer_fails fun proposer _ => .ensure_bind rfl fun _ =>
    .get_bind (.read_bind (.okOr rfl) fun seq hseq => ?_)
  rw [okOr_eq_ok] at hseq
  have hseq' := checkedInc_val hseq
  cases proposer with
  | community proposer =>
    refine .bind (takeDeposit_community_ends s proposer deposit) ?_
    rintro _ _ ⟨locks, rfl, hlocks⟩
    refine .modify_bind ?_
    exact community_ends h rfl hseq' rfl hlocks
  | committee committee =>
    refine .bind (takeDeposit_committee_ends s committee deposit) ?_
    rintro _ _ rfl
    exact .modify_bind (.modify (committee_leads h rfl hseq' rfl))

end Propose

end Calls

end Pips

end Polymesh
