import Polymesh.Pallets.Checkpoint

/-!
# Advancing the schedules of a ticker

What `advance_schedules` and `update_balances` do, one checkpoint and one schedule at a time.
Advancing makes new checkpoints with the supply that it is given and leaves the old ones and all
records of balances as they are; afterwards no schedule has a checkpoint due, and advancing again
makes none.
-/

namespace Polymesh

open Transactional Collections OrderedLists Snapshots

namespace TickerCheckpoints

variable {c c' : TickerCheckpoints} {now : Moment} {supply : ℕ}

/-! ## Checkpoints that are due -/

/-- No schedule has a checkpoint due, as far as the cache is looked at. -/
def NotDue (now : Moment) (c : TickerCheckpoints) : Prop :=
  ∀ cached, c.cachedNextCheckpoints = some cached →
    cached.expired now = false ∨ ∀ e ∈ cached.schedules.elems, now < e.2

namespace Advance

variable {a a' : Advance} {id : ScheduleId}

variable {at_ : Moment}

theorem createPoint_ok (h : createPoint supply id a at_ = .ok a') :
    a'.cpId = a.cpId + 1 ∧ a'.cached = a.cached ∧
      a'.store = (a.store.createAt a'.cpId supply at_).appendSchedulePoint id a'.cpId := by
  simp [createPoint] at h
  obtain ⟨-, rfl⟩ := h
  exact ⟨rfl, rfl, rfl⟩

/-- Every schedule in the cache has its next time to come. -/
def NotDue (now : Moment) (a : Advance) : Prop := ∀ e ∈ a.cached.schedules.elems, now < e.2

theorem NotDue.createPoint (ha : NotDue now a) (h : createPoint supply id a at_ = .ok a') :
    NotDue now a' := by
  obtain ⟨-, hcached, -⟩ := createPoint_ok h
  unfold NotDue
  rwa [hcached]

theorem NotDue.removeExpired (ha : NotDue now a) (schedule : ScheduleCheckpoints) :
    NotDue now (a.removeExpired now id schedule) := by
  simp only [Advance.removeExpired]
  split
  next next hnext =>
    intro e he
    rcases OrderedMap.mem_insert.mp he with rfl | ⟨he, -⟩
    · have hmem := List.mem_of_mem_head? hnext
      simpa using (List.mem_filter.mp hmem).2
    · exact ha e he
  · exact ha

theorem NotDue.advanceSchedule (ha : NotDue now a)
    (h : advanceSchedule now supply a id = .ok a') : NotDue now a' := by
  unfold Advance.advanceSchedule at h
  split at h
  · exact except_foldlM_rule (fun _ a => NotDue now a) (fun _ _ _ _ ha h => ha.createPoint h)
      (ha.removeExpired _) h
  · cases h
    exact ha

end Advance

theorem advanceSchedules_cases (h : c.advanceSchedules now supply = .ok c') :
    (c' = c ∧ ∀ cached, c.cachedNextCheckpoints = some cached → cached.expired now = false) ∨
    ∃ cached a, c.cachedNextCheckpoints = some cached ∧ cached.expired now ∧
      (cached.expiredSchedules now).1.foldlM (Advance.advanceSchedule now supply)
        ⟨c, (cached.expiredSchedules now).2, c.checkpointIdSequence⟩ = .ok a ∧ c' = a.save := by
  unfold advanceSchedules at h
  split at h
  next hnone =>
    cases h
    exact .inl ⟨rfl, fun cached hcached => by rw [hnone] at hcached; cases hcached⟩
  next cached hcached =>
    split_ifs at h with hexpired
    · simp only [except_bind_eq_ok, except_pure_eq_ok] at h
      obtain ⟨a, hloop, rfl⟩ := h
      exact .inr ⟨cached, a, hcached, hexpired, hloop, rfl⟩
    · cases h
      refine .inl ⟨rfl, fun cached' h' => ?_⟩
      rw [hcached] at h'
      cases h'
      simpa using hexpired

/-- **After an advance no checkpoint is due.** -/
theorem advanceSchedules_notDue (h : c.advanceSchedules now supply = .ok c') : c'.NotDue now := by
  rcases advanceSchedules_cases h with ⟨rfl, hexpired⟩ | ⟨cached, a, -, -, hloop, rfl⟩
  · exact fun cached hcached => .inl (hexpired cached hcached)
  · have hstart : Advance.NotDue now
        ⟨c, (cached.expiredSchedules now).2, c.checkpointIdSequence⟩ := by
      intro e he
      simpa using (List.mem_filter.mp he).2
    have hdone := except_foldlM_rule (fun _ a => Advance.NotDue now a)
      (fun _ _ _ _ ha h => ha.advanceSchedule h) hstart hloop
    intro cached' hcached'
    simp only [Advance.save] at hcached'
    split_ifs at hcached'
    cases hcached'
    exact .inr hdone

/-! ## Recording balances -/

/-- What is recorded of the balance of a holder. -/
def log (c : TickerCheckpoints) (did : IdentityId) (balance : ℕ) : Log ℕ :=
  ⟨c.checkpointIdSequence, c.balanceUpdates did, fun cp => c.balance cp did, balance⟩

theorem recordBalance_eq (u : IdentityId × ℕ) : ∃ balance updates,
    c.recordBalance u = { c with balance := balance, balanceUpdates := updates } := by
  simp only [recordBalance]
  split
  · exact ⟨_, _, rfl⟩
  · exact ⟨c.balance, c.balanceUpdates, rfl⟩

theorem updateBalances_eq (updates : List (IdentityId × ℕ)) : ∃ balance updated,
    c.updateBalances updates = { c with balance := balance, balanceUpdates := updated } := by
  have hfold : ∃ balance updated, updates.foldl TickerCheckpoints.recordBalance c =
      { c with balance := balance, balanceUpdates := updated } := by
    induction updates generalizing c with
    | nil => exact ⟨c.balance, c.balanceUpdates, rfl⟩
    | cons u updates ih =>
      obtain ⟨balance, updated, hu⟩ := recordBalance_eq (c := c) u
      rw [List.foldl_cons, hu]
      obtain ⟨balance', updated', h⟩ :=
        ih (c := { c with balance := balance, balanceUpdates := updated })
      exact ⟨balance', updated', h⟩
  unfold updateBalances
  split_ifs
  · exact ⟨c.balance, c.balanceUpdates, rfl⟩
  · exact hfold

theorem log_recordBalance_self (hpos : 0 < c.checkpointIdSequence) (did : IdentityId)
    (balance : ℕ) :
    (c.recordBalance (did, balance)).log did balance = (c.log did balance).record := by
  by_cases hr : (c.log did balance).Recorded
  · rw [Log.record_of_recorded hr]
    have hsome : c.balance c.checkpointIdSequence did ≠ none :=
      Option.isSome_iff_ne_none.mp (hr.resolve_left hpos.ne')
    simp only [recordBalance, if_neg hsome]
  · rw [Log.record_of_not_recorded hr]
    have hnone : c.balance c.checkpointIdSequence did = none :=
      Option.not_isSome_iff_eq_none.mp (not_or.mp hr).2
    simp only [recordBalance, if_pos hnone, log, Function.update_self, Log.mk.injEq, true_and,
      and_true]
    funext cp
    by_cases hcp : cp = c.checkpointIdSequence <;> simp [update₂_apply, hcp]

theorem log_recordBalance_of_ne {did : IdentityId} {u : IdentityId × ℕ} (hne : did ≠ u.1)
    (balance : ℕ) : (c.recordBalance u).log did balance = c.log did balance := by
  simp only [recordBalance]
  split
  · simp [log, update₂_apply, hne]
  · rfl

theorem recordBalance_sequence (u : IdentityId × ℕ) :
    (c.recordBalance u).checkpointIdSequence = c.checkpointIdSequence := by
  obtain ⟨_, _, h⟩ := recordBalance_eq (c := c) u
  rw [h]

theorem log_foldl_recordBalance (hpos : 0 < c.checkpointIdSequence) (dids : List IdentityId)
    (balanceOf : IdentityId → ℕ) (did : IdentityId) :
    ((dids.map fun d => (d, balanceOf d)).foldl TickerCheckpoints.recordBalance c).log did
        (balanceOf did) =
      if did ∈ dids then (c.log did (balanceOf did)).record else c.log did (balanceOf did) := by
  induction dids generalizing c with
  | nil => rfl
  | cons d dids ih =>
    rw [List.map_cons, List.foldl_cons, ih (recordBalance_sequence (c := c) _ ▸ hpos)]
    by_cases hd : did = d
    · subst hd
      rw [log_recordBalance_self hpos, Log.record_of_recorded Log.recorded_record]
      simp
    · rw [log_recordBalance_of_ne hd]
      simp [hd]

/-- **The balances of the given holders are recorded**, and no other ones. -/
theorem log_updateBalances (dids : List IdentityId) (balanceOf : IdentityId → ℕ)
    (did : IdentityId) :
    (c.updateBalances (dids.map fun d => (d, balanceOf d))).log did (balanceOf did) =
      if did ∈ dids then (c.log did (balanceOf did)).record else c.log did (balanceOf did) := by
  by_cases hzero : c.checkpointIdSequence < 1
  · have hrecorded : (c.log did (balanceOf did)).Recorded := .inl (Nat.lt_one_iff.mp hzero)
    rw [updateBalances, if_pos hzero, Log.record_of_recorded hrecorded, ite_self]
  · rw [updateBalances, if_neg hzero, log_foldl_recordBalance (Nat.not_lt.mp hzero)]

end TickerCheckpoints

/-! ## Before a balance changes -/

/-- What is recorded of the balance of a holder of a ticker. -/
def Storage.log (t : Ticker) (did : IdentityId) (s : Storage) : Log ℕ :=
  (s.checkpoint.ofTicker t).log did (s.asset.balanceOf t did)

/-- The due checkpoints of a ticker have been made, and the balances of some holders recorded at
the last one. -/
structure CheckpointsReady (t : Ticker) (dids : List IdentityId) (s : Storage) : Prop where
  notDue : (s.checkpoint.ofTicker t).NotDue s.system.now
  recorded : ∀ did ∈ dids, (s.log t did).Recorded

/-- The result of advancing a ticker and recording the balances of some holders. -/
def Advanced (t : Ticker) (dids : List IdentityId) (c : TickerCheckpoints) (s : Storage) : Prop :=
  (s.checkpoint.ofTicker t).advanceUpdateBalances s.system.now (Asset.totalSupply t s)
    (dids.map fun did => (did, s.asset.balanceOf t did)) = .ok c

variable {t : Ticker} {dids : List IdentityId} {c : TickerCheckpoints} {s : Storage}

theorem Advanced.cases (h : Advanced t dids c s) :
    ∃ c₁, (s.checkpoint.ofTicker t).advanceSchedules s.system.now (Asset.totalSupply t s) = .ok c₁ ∧
      c = c₁.updateBalances (dids.map fun did => (did, s.asset.balanceOf t did)) := by
  simp only [Advanced, TickerCheckpoints.advanceUpdateBalances, except_bind_eq_ok,
    except_pure_eq_ok] at h
  obtain ⟨c₁, h₁, rfl⟩ := h
  exact ⟨c₁, h₁, rfl⟩

/-- **Once a ticker is advanced, the balances may change.** -/
theorem Advanced.ready (h : Advanced t dids c s) :
    CheckpointsReady t dids (s.setCheckpoints t c) := by
  obtain ⟨c₁, h₁, rfl⟩ := h.cases
  refine ⟨?_, fun did hdid => ?_⟩
  · obtain ⟨balance, updates, heq⟩ := TickerCheckpoints.updateBalances_eq (c := c₁)
      (dids.map fun did => (did, s.asset.balanceOf t did))
    simp only [Storage.setCheckpoints_checkpoint_ofTicker, Function.update_self, heq]
    have hdue := TickerCheckpoints.advanceSchedules_notDue h₁
    exact hdue
  · have hlog := TickerCheckpoints.log_updateBalances (c := c₁) dids (s.asset.balanceOf t) did
    rw [if_pos hdid] at hlog
    simp only [Storage.log, Storage.setCheckpoints_checkpoint_ofTicker, Function.update_self,
      Storage.setCheckpoints_asset, hlog]
    exact Log.recorded_record

end Polymesh
