import Polymesh.Pips.Calls

/-!
# Enacting a snapshot

The governance committee goes through the snapshot from its end and skips, rejects or approves one
proposal after the other. What has been decided on is a permutation of the snapshot, so that nothing
is rejected or approved twice, and everything still waits when its turn comes.
-/

namespace Polymesh

open Transactional Tx Currency Relation

namespace Pips

/-! ## The decisions -/

/-- The proposals of a snapshot, decided on or not. -/
def Enactment.ids (r : Enactment) : List PipId :=
  r.toReject ++ r.toApprove ++ r.queue.map (·.id) ++ r.toBumpSkipped.map (·.1)

section Decisions

variable {s : Storage} {acc acc' : Enactment}

theorem enactResult_fails (s : Storage) (acc : Enactment) (r : PipId × SnapshotResult) :
    Fails Harmless (enactResult s acc r) := by
  unfold enactResult
  split
  · exact .error rfl
  · split
    · exact .error rfl
    · dsimp only
      split
      · exact .bind (.ensure rfl) fun _ => .ok _
      · exact .ok _
      · exact .ok _

theorem enactResult_perm {r : PipId × SnapshotResult} (h : enactResult s acc r = .ok acc') :
    acc'.ids.Perm acc.ids := by
  obtain ⟨id, result⟩ := r
  obtain ⟨queue, bumped, rejected, approved⟩ := acc
  unfold enactResult at h
  dsimp only at h
  split at h
  · cases h
  case h_2 p hlast =>
    obtain ⟨queue, rfl⟩ := List.getLast?_eq_some_iff.mp hlast
    split at h
    · cases h
    case isFalse hid =>
      have hid : p.id = id := not_not.mp hid
      subst hid
      refine List.perm_iff_count.mpr fun a => ?_
      cases result with
      | skip =>
        simp only [except_bind_eq_ok, except_pure_eq_ok] at h
        obtain ⟨-, -, rfl⟩ := h
        simp only [Enactment.ids, List.dropLast_concat, List.map_append, List.count_append,
          List.map_cons, List.map_nil]
        omega
      | reject | approve =>
        cases h
        simp only [Enactment.ids, List.dropLast_concat, List.map_append, List.count_append,
          List.map_cons, List.map_nil]
        omega

/-- **Nothing of a snapshot is lost**, or decided on twice. -/
theorem enactResults_perm {queue : List SnapshottedPip} {results : List (PipId × SnapshotResult)}
    (h : results.foldlM (enactResult s) ⟨queue, [], [], []⟩ = .ok acc) :
    acc.ids.Perm (queue.map (·.id)) := by
  refine except_foldlM_rule (fun _ acc => acc.ids.Perm (queue.map (·.id)))
    (fun _ _ _ _ hperm hresult => (enactResult_perm hresult).trans hperm) ?_ h
  simp [Enactment.ids]

end Decisions

/-! ## Carrying them out -/

section Carrying

variable {env : Env} {origin : Origin} {s₀ s s' : Storage} {id : PipId} {X : List PipId}
  {queue : List SnapshottedPip}

theorem waiting_skip (pips : PipId → PipStorage) (id : PipId) (count : ℕ) (id' : PipId) :
    Waiting (Function.update pips id { pips id with skipCount := count }) id' ↔ Waiting pips id' := by
  by_cases hid : id' = id
  · rw [hid, waiting_update_self]
    exact Iff.rfl
  · exact waiting_update_of_ne hid

theorem bumpSkipped_keeps (bumped : List (PipId × ℕ))
    (hqueued : QueuedExcept [] s.pips s.liveQueue) (hwaiting : ∀ b ∈ bumped, Waiting s.pips b.1) :
    ReflTransGen Change s.ledger (bumpSkipped bumped s).ledger ∧
      QueuedExcept [] (bumpSkipped bumped s).pips (bumpSkipped bumped s).liveQueue ∧
      (∀ id, Waiting (bumpSkipped bumped s).pips id ↔ Waiting s.pips id) ∧
      (bumpSkipped bumped s).snapshotMeta = s.snapshotMeta := by
  induction bumped generalizing s with
  | nil => exact ⟨.refl, hqueued, fun _ => Iff.rfl, rfl⟩
  | cons b bumped ih =>
    obtain ⟨hb, hrest⟩ := List.forall_mem_cons.mp hwaiting
    set s₁ := s.mapPip b.1 fun p => { p with skipCount := b.2 } with hs₁
    have hsame : ∀ id, Waiting s₁.pips id ↔ Waiting s.pips id := waiting_skip s.pips b.1 b.2
    have hchange : Change s.ledger s₁.ledger := .skip b.1 b.2 hb.1
    obtain ⟨hchanges, hqueued', hsame', hmeta⟩ := ih (s := s₁) (hqueued.keep rfl rfl rfl)
      fun b hb => (hsame b.1).mpr (hrest b hb)
    exact ⟨.head hchange hchanges, hqueued', fun id => (hsame' id).trans (hsame id), hmeta⟩

/-- **Of the snapshot** the proposals of `X` are still to be rejected or approved, and the queue
stays. -/
structure Enacting (s₀ : Storage) (queue : List SnapshottedPip) (X : List PipId) (s : Storage) :
    Prop where
  changes : ReflTransGen Change s₀.ledger s.ledger
  queued : QueuedExcept X s.pips s.liveQueue
  nodup : (X ++ queue.map (·.id)).Nodup
  waiting : ∀ id ∈ X ++ queue.map (·.id), Waiting s.pips id
  snapshotMeta : s.snapshotMeta = s₀.snapshotMeta

namespace Enacting

theorem leave (h : Enacting s₀ queue (id :: X) s) {p : PipStorage}
    (hchange : Change s.ledger s'.ledger) (hpips : s'.pips = Function.update s.pips id p)
    (hp : p.state ≠ some .pending) (hqueues : SameQueues s s') : Enacting s₀ queue X s' := by
  obtain ⟨hlive, -, hmeta⟩ := hqueues
  obtain ⟨hid, hnodup⟩ := List.nodup_cons.mp h.nodup
  refine ⟨h.changes.tail hchange, ?_, hnodup, fun id' hid' => ?_, hmeta.trans h.snapshotMeta⟩
  · rw [hpips, hlive]
    exact h.queued.leave fun hwaiting => hp hwaiting.1
  · have hne : id' ≠ id := fun heq => hid (heq ▸ hid')
    rw [hpips, waiting_update_of_ne hne]
    exact h.waiting id' (List.mem_cons_of_mem _ hid')

theorem reject_ends (hsound : s₀.ledger.Sound) (h : Enacting s₀ queue (id :: X) s) :
    Ends (unsafeRejectProposal id) s (fun _ => Enacting s₀ queue X) Harmless := by
  have hpending := (h.waiting id List.mem_cons_self).1
  have hledger := sound_of_changes hsound h.changes
  have hinactive : isActive .rejected = false := rfl
  obtain ⟨s', locks, hok, hclosed, hreleased, hqueues⟩ := maybePrune_sound hledger hpending hinactive
  have hchange : Change s.ledger s'.ledger := by
    rw [hclosed]
    exact .close_unscheduled hpending (by decide) (.inl .reject) hinactive hreleased
  exact .of_ok hok (h.leave hchange (congrArg Ledger.pips hclosed)
    (PipStorage.close_ne_pending hinactive) hqueues)

theorem approve (h : Enacting s₀ queue (id :: X) s) :
    Enacting s₀ queue X (schedulePipForExecution env id s) := by
  have hpending := (h.waiting id List.mem_cons_self).1
  rw [schedulePip_eq env hpending]
  exact h.leave (.schedule id _ hpending) rfl (by simp) ⟨rfl, rfl, rfl⟩

end Enacting

/-- **A snapshot is enacted.** -/
theorem enactSnapshotResults_ends (h : Good s) (results : List (PipId × SnapshotResult)) :
    Ends (enactSnapshotResults env origin results) s (fun _ => Leads s) Harmless := by
  refine .read_bind ensureVotingMajority_fails fun _ _ =>
    .read_bind (.foldlM (enactResult_fails s) results _) fun r hr => .modify_bind (.modify_bind ?_)
  have hperm := enactResults_perm hr
  have hnodup := hperm.nodup_iff.mpr h.shortlisted.nodup
  have hwaiting : ∀ id ∈ r.ids, Waiting s.pips id := by
    intro id hid
    obtain ⟨e, he, rfl⟩ := List.mem_map.mp (hperm.mem_iff.mp hid)
    exact h.shortlisted.waiting e he
  obtain ⟨hchanges, hqueued, hsame, hmeta⟩ := bumpSkipped_keeps r.toBumpSkipped h.queued
    fun b hb => hwaiting _ (List.mem_append_right _ (List.mem_map_of_mem hb))
  set s₁ := bumpSkipped r.toBumpSkipped s
  have hstart : Enacting s r.queue (r.toReject ++ r.toApprove) { s₁ with
      liveQueue := s₁.liveQueue.filter fun e => ¬ (e.id ∈ r.toReject ∨ e.id ∈ r.toApprove) } := by
    refine ⟨hchanges, ?_, (List.nodup_append.mp hnodup).1, fun id hid => (hsame id).mpr
      (hwaiting id (List.mem_append_left _ hid)), hmeta⟩
    have htake := hqueued.take (r.toReject ++ r.toApprove)
    simp only [List.mem_append] at htake
    exact htake
  -- the rejected ones go first, while the approved ones stay out of the queue
  refine .bind (.forM (fun X => Enacting s r.queue (X ++ r.toApprove))
    (fun _ _ _ henacting => henacting.reject_ends h.ledger) hstart) fun _ s₂ h₂ => ?_
  refine .bind (.forM (Enacting s r.queue) (fun _ _ _ henacting => .modify henacting.approve) h₂)
    fun _ s₃ h₃ => .modify ?_
  refine ⟨⟨sound_of_changes h.ledger h₃.changes, h₃.queued, ⟨h₃.nodup, fun e he => ?_⟩, fun hnone => ?_⟩,
    h₃.changes⟩
  · exact h₃.waiting _ (List.mem_map_of_mem he)
  · rw [h.unsnapshotted (h₃.snapshotMeta.symm.trans hnone)] at hperm
    have hnil := hperm.eq_nil
    simp only [Enactment.ids, List.append_eq_nil_iff, List.map_eq_nil_iff] at hnil
    exact hnil.1.2

end Carrying

end Pips

end Polymesh
