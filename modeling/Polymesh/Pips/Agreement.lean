import Polymesh.Pips.Enactment

/-!
# The ledger and the queues agree in every state

No call panics, and every step leads from a state in agreement to one in agreement. The live queue is
then the ranking of the community proposals that are pending, whatever has been proposed, voted on,
snapshotted, enacted or closed before, and whatever the dispatched proposals have called.
-/

namespace Polymesh

open Transactional Tx Currency Relation TransitionSystem

namespace Pips

/-! ## Steps -/

section Steps

variable {env : Env} {origin : Origin} {s s' : Storage}

/-- **A call** changes the ledger, or dispatches a proposal. -/
theorem dispatch_ends {inner : Dispatch Unit} {R : Storage → Storage → Prop}
    (hinner : ∀ s, Good s → Ends inner s (fun _ => R s) Harmless)
    (hR : ∀ s s', R s s' → Follows s s') (h : Good s) (call : Call) :
    Ends (dispatch env origin inner call) s
      (fun _ s' => Leads s s' ∨ ∃ id, Dispatches R id s s') Harmless := by
  cases call with
  | setPruneHistoricalPips prune | setMinProposalDeposit deposit
  | setDefaultEnactmentPeriod duration | setMaxPipSkipCount max | setActivePipLimit limit =>
    exact .read_bind ensureRoot_fails fun _ _ => .modify (.inl (.of_same h rfl ⟨rfl, rfl, rfl⟩))
  | propose proposal deposit => exact (propose_ends h proposal deposit).mono fun _ _ => .inl
  | vote id ayeOrNay deposit => exact (vote_ends h ayeOrNay deposit).mono fun _ _ => .inl
  | approveCommitteeProposal id => exact (approveCommitteeProposal_ends h).mono fun _ _ => .inl
  | rejectProposal id => exact (rejectProposal_ends h).mono fun _ _ => .inl
  | pruneProposal id => exact (pruneProposal_ends h).mono fun _ _ => .inl
  | rescheduleExecution id till => exact (rescheduleExecution_ends h till).mono fun _ _ => .inl
  | clearSnapshot => exact (clearSnapshot_ends h).mono fun _ _ => .inl
  | snapshot => exact (snapshot_ends h).mono fun _ _ => .inl
  | enactSnapshotResults results => exact (enactSnapshotResults_ends h results).mono fun _ _ => .inl
  | expireScheduledPip id => exact (expireScheduledPip_ends h).mono fun _ _ => .inl
  | executeScheduledPip id =>
    exact (executeScheduledPip_ends hinner hR h).mono fun _ _ hdispatches => .inr ⟨id, hdispatches⟩

theorem Follows.refl (h : Good s) : Follows s s := ⟨h, fun _ hpast => hpast⟩

theorem Dispatches.follows {R : Storage → Storage → Prop} {id : PipId}
    (hR : ∀ s s', R s s' → Follows s s') (h : Dispatches R id s s') : Follows s s' := by
  obtain ⟨-, hgood, s₂, new, -, hinactive, hs₂, hcloses⟩ := h
  refine ⟨hgood, fun id' hpast => ?_⟩
  have hpast₂ : s₂.ledger.Past id' :=
    (hR _ _ hs₂).past id' ⟨hpast.1, hpast.update id (.inl rfl)⟩
  rcases hcloses with ⟨-, heq⟩ | ⟨old, prune, locks, -, -, heq⟩
  · rw [heq]
    exact hpast₂
  · rw [heq]
    exact ⟨hpast₂.1, hpast₂.update id (.inr (PipStorage.close_ne_pending hinactive))⟩

theorem otherLock_leads (h : Good s) (who : AccountId) (id : LockIdentifier) (change : LockChange) :
    Leads s (if id = pipsLockId then s else s.putLocks who (change.apply id (s.locks who))) := by
  split
  case isTrue => exact .of_same h rfl ⟨rfl, rfl, rfl⟩
  case isFalse hid =>
    have hchange : Change s.ledger (s.putLocks who (change.apply id (s.locks who))).ledger := by
      refine .otherLocks (Function.update s.locks who _) fun who' n hheld => ?_
      by_cases hwho : who' = who
      · subst hwho
        rw [Function.update_self]
        exact change.held_of_ne hid hheld
      · rw [Function.update_of_ne hwho]
        exact hheld
    exact ⟨⟨hchange.sound h.ledger, h.queued, h.shortlisted, h.unsnapshotted⟩, .single hchange⟩

theorem nested_ends {x : Dispatch Unit} (h : Good s) (hx : Ends x s (fun _ => Follows s) Harmless) :
    Ends (nested x) s (fun _ => Follows s) Harmless := by
  rcases hresult : x s with ⟨e | u, s₁⟩
  · have he : e.isPanic = false := hx.2 e s₁ hresult
    exact .of_ok (a := ()) (by simp [nested, hresult, he]) (.refl h)
  · exact .of_ok (a := ()) (by simp [nested, hresult]) (hx.1 u s₁ hresult)

mutual

/-- **An action**, with all that it brings about, by induction on the depth of its calls. -/
theorem perform_ends : ∀ (a : Action) (s : Storage), Good s →
    Ends (perform a) s (fun _ => Follows s) Harmless
  | .call env origin call inner, s, h => by
    rw [perform]
    refine (dispatch_ends (performAll_ends inner) (fun _ _ hfollows => hfollows) h call).mono ?_
    rintro _ s' (hleads | ⟨id, hdispatches⟩)
    · exact hleads.follows
    · exact hdispatches.follows fun _ _ hfollows => hfollows
  | .otherLock who id change, s, h => by
    rw [perform]
    exact .modify (otherLock_leads h who id change).follows

theorem performAll_ends : ∀ (as : List Action) (s : Storage), Good s →
    Ends (performAll as) s (fun _ => Follows s) Harmless
  | [], s, h => by
    rw [performAll]
    exact .of_ok (a := ()) rfl (.refl h)
  | a :: as, s, h => by
    rw [performAll]
    refine .bind (nested_ends h (perform_ends a s h)) fun _ s₁ h₁ => ?_
    refine (performAll_ends as s₁ h₁.good).mono fun _ s₂ h₂ => ?_
    exact ⟨h₂.good, fun id hpast => h₂.past id (h₁.past id hpast)⟩

end

/-- **Nothing panics.** -/
theorem perform_harmless (h : Good s) {a : Action} {e : Error}
    (herror : perform a s = (.error e, s')) : e.isPanic = false :=
  (perform_ends a s h).2 e s' herror

theorem step_of_ends {a : Action} {R : Storage → Prop} (hs : R s)
    (hends : Ends (perform a) s (fun _ => R) Harmless) : R (step a s) := by
  rw [step, transaction]
  rcases hresult : perform a s with ⟨e | u, s'⟩
  · exact hs
  · exact hends.1 u s' hresult

/-- **One step.** -/
theorem step_follows (h : Good s) (a : Action) : Follows s (step a s) :=
  step_of_ends (.refl h) (perform_ends a s h)

theorem genesis_good (config : GenesisConfig) : Good (genesis config) where
  ledger := genesis_sound config
  queued := by
    refine ⟨List.Pairwise.nil, fun e => ⟨fun he => absurd he List.not_mem_nil, fun he => ?_⟩⟩
    cases he.1.1
  shortlisted := ⟨List.nodup_nil, fun _ he => absurd he List.not_mem_nil⟩
  unsnapshotted _ := rfl

/-- **The ledger and the queues agree** in every state of every run. -/
theorem reachable_good {config : GenesisConfig}
    (h : TransitionSystem.Reachable step (genesis config) s) : Good s :=
  h.invariant Good (genesis_good config) fun _ a hgood => (step_follows hgood a).good

end Steps

/-! ## The ranking -/

/-- A proposal that an account has made is pending. -/
def PendingCommunity (s : Storage) (id : PipId) : Prop :=
  (s.pips id).state = some .pending ∧
    ∃ pip proposer, (s.pips id).proposal = some pip ∧ pip.proposer = .community proposer

section Ranking

variable {s : Storage} {id : PipId}

theorem waiting_iff (h : Good s) : Waiting s.pips id ↔ PendingCommunity s id := by
  constructor
  · rintro ⟨hpending, hcommittee⟩
    refine ⟨hpending, ?_⟩
    have hstored : (s.pips id).proposal.isSome := (h.ledger.sound id).stored
      (show (s.pips id).state.isSome by rw [hpending]; rfl)
    obtain ⟨pip, hpip⟩ := Option.isSome_iff_exists.mp hstored
    refine ⟨pip, ?_⟩
    rw [PipStorage.byCommittee, hpip] at hcommittee
    obtain ⟨_, _, proposer | committee⟩ := pip
    · exact ⟨proposer, hpip, rfl⟩
    · cases hcommittee
  · rintro ⟨hpending, ⟨_, _, _⟩, proposer, hpip, rfl⟩
    exact ⟨hpending, by rw [PipStorage.byCommittee, hpip]⟩

theorem Ordered.compareSpip {queue : List SnapshottedPip} (h : Ordered queue) :
    queue.Pairwise fun e e' => Pips.compareSpip e e' = .lt := by
  refine h.imp fun hlt => ?_
  rw [compareSpip_eq, compare_lt_iff_lt]
  exact hlt

/-- **The live queue is the true ranking** in every reachable state: strictly sorted, it holds the
aggregate result of every community proposal that is pending, and nothing else. A new proposal is not
in it, a vote finds the old entry and a place for the new one, and a snapshot holds different
proposals of that kind. -/
theorem queue_ranked {config : GenesisConfig}
    (h : TransitionSystem.Reachable step (genesis config) s) :
    (s.liveQueue.Pairwise fun e e' => compareSpip e e' = .lt) ∧
    (∀ e, e ∈ s.liveQueue ↔ ∃ id, PendingCommunity s id ∧ e = aggregateResult id s) ∧
    (∀ a e s', perform a s = (.error e, s') → e ≠ .queueUnwrapErr) ∧
    (∀ id, PendingCommunity s id → ∀ weight, ∃ pos pos',
      searchQueue s.liveQueue (aggregateResult id s) = .ok pos ∧
        searchQueue (s.liveQueue.eraseIdx pos) ⟨id, weight⟩ = .error pos') ∧
    (s.snapshotQueue.map (·.id)).Nodup ∧ ∀ e ∈ s.snapshotQueue, PendingCommunity s e.id := by
  have hgood := reachable_good h
  have hqueued := hgood.queued
  refine ⟨hqueued.ordered.compareSpip, fun e => ?_, ?_, fun id hid weight => ?_,
    hgood.shortlisted.nodup, fun e he => (waiting_iff hgood).mp (hgood.shortlisted.waiting e he)⟩
  · rw [hqueued.mem]
    constructor
    · rintro ⟨hwaiting, -, heq⟩
      exact ⟨e.id, (waiting_iff hgood).mp hwaiting, heq⟩
    · rintro ⟨id, hid, rfl⟩
      exact ⟨(waiting_iff hgood).mpr hid, List.not_mem_nil, rfl⟩
  · rintro a e s' herror rfl
    cases perform_harmless hgood herror
  · have hmem := hqueued.entry_mem ((waiting_iff hgood).mpr hid)
    obtain ⟨pos, pos', hpos, hpos', -⟩ :=
      moveEntry_eq hqueued.ordered hmem (hqueued.ne_of_ne_entry id weight)
    exact ⟨pos, pos', hpos, hpos'⟩

/-- Everybody has an identity and is in the committee, and every proposal succeeds. -/
def openEnv : Env where
  technicalCommitteeVMO _ := false
  upgradeCommitteeVMO _ := true
  votingMajorityOrigin _ := true
  ensureCallPermissions who := some ⟨who.bytes⟩
  currentIdentity := some ⟨0⟩
  releaseCoordinator := some ⟨0⟩
  isMember _ := true
  stringsLimited := true
  chargesFee := true
  freeBalance _ := 100
  blockNumber := 1
  dispatches _ := true

def openConfig : GenesisConfig := ⟨false, 10, 5, 2, 0⟩

/-- Two accounts propose, and one of them votes against the proposal of the other. -/
def twoProposals : List Action :=
  [.call openEnv (.signed ⟨1⟩) (.propose ⟨7⟩ 10) [],
    .call openEnv (.signed ⟨2⟩) (.propose ⟨8⟩ 20) [],
    .call openEnv (.signed ⟨1⟩) (.vote ⟨1⟩ false 30) [],
    .call openEnv (.signed ⟨3⟩) .snapshot []]

theorem queue_ranked_twoProposals :
    let s := run step (genesis openConfig) twoProposals
    s.liveQueue = [⟨⟨1⟩, (false, 10)⟩, ⟨⟨0⟩, (true, 10)⟩] ∧ s.snapshotQueue = s.liveQueue ∧
      s.liveQueue.Pairwise fun e e' => compareSpip e e' = .lt :=
  ⟨by rfl, by rfl, (queue_ranked ⟨twoProposals, rfl⟩).1⟩

end Ranking

end Pips

end Polymesh
