import Polymesh.Pips.Ledger

/-!
# Queues of proposals

A queue is strictly sorted, so that a binary search finds an entry where it is and a place for one
that is not there. An entry is moved by a search for the old one and a search for the new one.
-/

namespace Polymesh

open SortedLists
open Function (update update_of_ne update_self)

namespace Pips

/-- A queue is strictly sorted. -/
def Ordered (queue : List SnapshottedPip) : Prop := queue.Pairwise (priority · < priority ·)

/-- The weight of a proposal as a number. -/
def signedWeight (weight : Bool × ℕ) : ℤ := if weight.1 then weight.2 else -weight.2 - 1

variable {pos : ℕ}

section Priorities

variable {e old new : SnapshottedPip} {queue : List SnapshottedPip}

theorem priority_eq (e : SnapshottedPip) :
    priority e = signedWeight e.weight * 2 ^ 32 - e.id.number.val := rfl

theorem signedWeight_injective : Function.Injective signedWeight := by
  rintro ⟨_ | _, a⟩ ⟨_ | _, b⟩ h <;> simp [signedWeight] at h ⊢ <;> omega

theorem priority_injective : Function.Injective priority := by
  rintro ⟨⟨i⟩, v⟩ ⟨⟨j⟩, w⟩ h
  simp only [priority_eq] at h
  have hi := i.isLt
  have hj := j.isLt
  have hid : i = j := Fin.ext (by omega)
  have hweight : v = w := signedWeight_injective (by omega)
  rw [hid, hweight]

theorem compare_signedWeight (v w : Bool × ℕ) :
    compare (signedWeight v) (signedWeight w) =
      (compare v.1 w.1).then (if v.1 then compare v.2 w.2 else compare w.2 v.2) := by
  obtain ⟨_ | _, a⟩ := v <;> obtain ⟨_ | _, b⟩ := w
  · rw [if_neg Bool.false_ne_true, show compare false false = .eq from rfl, Ordering.eq_then]
    rcases lt_trichotomy a b with h | rfl | h
    · rw [compare_gt_iff_gt.mpr h, compare_gt_iff_gt]
      simp [signedWeight, h]
    · rw [compare_eq_iff_eq.mpr rfl, compare_eq_iff_eq.mpr rfl]
    · rw [compare_lt_iff_lt.mpr h, compare_lt_iff_lt]
      simp [signedWeight, h]
  · rw [show compare false true = .lt from rfl, Ordering.lt_then, compare_lt_iff_lt]
    simp only [signedWeight, Bool.false_eq_true, if_false, if_true]
    omega
  · rw [show compare true false = .gt from rfl, Ordering.gt_then, compare_gt_iff_gt]
    simp only [signedWeight, Bool.false_eq_true, if_false, if_true]
    omega
  · rw [if_pos rfl, show compare true true = .eq from rfl, Ordering.eq_then]
    rcases lt_trichotomy a b with h | rfl | h
    · rw [compare_lt_iff_lt.mpr h, compare_lt_iff_lt]
      simp [signedWeight, h]
    · rw [compare_eq_iff_eq.mpr rfl, compare_eq_iff_eq.mpr rfl]
    · rw [compare_gt_iff_gt.mpr h, compare_gt_iff_gt]
      simp [signedWeight, h]

theorem compare_priority (l r : SnapshottedPip) :
    compare (priority l) (priority r) =
      (compare (signedWeight l.weight) (signedWeight r.weight)).then
        (compare r.id.number l.id.number) := by
  have hl := l.id.number.isLt
  have hr := r.id.number.isLt
  rw [priority_eq, priority_eq]
  rcases lt_trichotomy (signedWeight l.weight) (signedWeight r.weight) with h | h | h
  · rw [compare_lt_iff_lt.mpr h, Ordering.lt_then, compare_lt_iff_lt]
    omega
  · rw [compare_eq_iff_eq.mpr h, Ordering.eq_then, h]
    rcases lt_trichotomy r.id.number l.id.number with h | h | h
    · rw [compare_lt_iff_lt.mpr h, compare_lt_iff_lt]
      rw [Fin.lt_def] at h
      omega
    · rw [compare_eq_iff_eq.mpr h, compare_eq_iff_eq, h]
    · rw [compare_gt_iff_gt.mpr h, compare_gt_iff_gt]
      rw [Fin.lt_def] at h
      omega
  · rw [compare_gt_iff_gt.mpr h, Ordering.gt_then, compare_gt_iff_gt]
    omega

/-- **The order of a queue is that of the priorities.** -/
theorem compareSpip_eq (l r : SnapshottedPip) :
    compareSpip l r = compare (priority l) (priority r) := by
  rw [compare_priority, compare_signedWeight, Ordering.then_assoc]
  rfl

theorem Ordered.nodup (h : Ordered queue) : queue.Nodup := h.imp fun hlt heq => hlt.ne (by rw [heq])

theorem Ordered.filter (h : Ordered queue) (P : SnapshottedPip → Bool) : Ordered (queue.filter P) :=
  h.sublist List.filter_sublist

theorem getElem?_of_searchQueue (h : searchQueue queue e = .ok pos) :
    queue[pos]? = some e := by
  obtain ⟨x, hx, heq⟩ := binarySearch_ok h
  rw [hx, priority_injective heq]

/-- **What is in a queue is found.** -/
theorem mem_iff_searchQueue_ok (h : Ordered queue) :
    e ∈ queue ↔ ∃ pos, searchQueue queue e = .ok pos := by
  constructor
  · intro he
    cases hsearch : searchQueue queue e with
    | ok pos => exact ⟨pos, rfl⟩
    | error pos => exact absurd rfl (notMem_of_error (h.imp le_of_lt) hsearch he)
  · rintro ⟨pos, hpos⟩
    exact List.mem_of_getElem? (getElem?_of_searchQueue hpos)

theorem searchQueue_error (h : Ordered queue) (he : e ∉ queue) :
    ∃ pos, searchQueue queue e = .error pos := by
  cases hsearch : searchQueue queue e with
  | ok pos => exact absurd ((mem_iff_searchQueue_ok h).mpr ⟨pos, hsearch⟩) he
  | error pos => exact ⟨pos, rfl⟩

theorem insert_ordered (h : Ordered queue) (hpos : searchQueue queue e = .error pos) :
    Ordered (queue.insertIdx pos e) :=
  pairwise_insertIdx (fun _ _ h => h) (h.imp le_of_lt) h hpos

variable {e' : SnapshottedPip}

theorem mem_insert (h : Ordered queue) (hpos : searchQueue queue e = .error pos) :
    e' ∈ queue.insertIdx pos e ↔ e' = e ∨ e' ∈ queue :=
  List.mem_insertIdx (binarySearch_error (h.imp le_of_lt) hpos).1

theorem mem_erase (h : Ordered queue) (hpos : searchQueue queue e = .ok pos) :
    e' ∈ queue.eraseIdx pos ↔ e' ∈ queue ∧ e' ≠ e := by
  have hget := getElem?_of_searchQueue hpos
  rw [List.mem_eraseIdx_iff_getElem?, List.mem_iff_getElem?]
  constructor
  · rintro ⟨i, hne, hi⟩
    refine ⟨⟨i, hi⟩, ?_⟩
    rintro rfl
    exact hne ((List.getElem?_inj (List.getElem?_eq_some_iff.mp hi).1 h.nodup).mp (hi.trans hget.symm))
  · rintro ⟨⟨i, hi⟩, hne⟩
    refine ⟨i, ?_, hi⟩
    rintro rfl
    exact hne (Option.some_inj.mp (hi.symm.trans hget))

theorem erase_ordered (h : Ordered queue) (pos : ℕ) : Ordered (queue.eraseIdx pos) :=
  h.sublist (List.eraseIdx_sublist ..)

/-- **An entry is moved**: the old one is found, and there is a place for the new one. -/
theorem moveEntry_eq (h : Ordered queue) (hold : old ∈ queue)
    (hnew : ∀ e ∈ queue, e ≠ old → e ≠ new) :
    ∃ pos pos', searchQueue queue old = .ok pos ∧
      searchQueue (queue.eraseIdx pos) new = .error pos' ∧
      moveEntry old new queue = (queue.eraseIdx pos).insertIdx pos' new := by
  obtain ⟨pos, hpos⟩ := (mem_iff_searchQueue_ok h).mp hold
  have hnone : new ∉ queue.eraseIdx pos := by
    intro hmem
    obtain ⟨hmem, hne⟩ := (mem_erase h hpos).mp hmem
    exact hnew new hmem hne rfl
  obtain ⟨pos', hpos'⟩ := searchQueue_error (erase_ordered h pos) hnone
  refine ⟨pos, pos', hpos, hpos', ?_⟩
  simp only [moveEntry, hpos, hpos']

theorem moveEntry_ordered (h : Ordered queue) (hold : old ∈ queue)
    (hnew : ∀ e ∈ queue, e ≠ old → e ≠ new) : Ordered (moveEntry old new queue) := by
  obtain ⟨pos, pos', -, hpos', heq⟩ := moveEntry_eq h hold hnew
  rw [heq]
  exact insert_ordered (erase_ordered h pos) hpos'

theorem mem_moveEntry (h : Ordered queue) (hold : old ∈ queue)
    (hnew : ∀ e ∈ queue, e ≠ old → e ≠ new) :
    e ∈ moveEntry old new queue ↔ e = new ∨ e ∈ queue ∧ e ≠ old := by
  obtain ⟨pos, pos', hpos, hpos', heq⟩ := moveEntry_eq h hold hnew
  rw [heq, mem_insert (erase_ordered h pos) hpos', mem_erase h hpos]

end Priorities

/-! ## The ranking -/

/-- A community proposal is pending. -/
def Waiting (pips : PipId → PipStorage) (id : PipId) : Prop :=
  (pips id).state = some .pending ∧ (pips id).byCommittee = false

/-- The entry of a proposal. -/
def entry (pips : PipId → PipStorage) (id : PipId) : SnapshottedPip := ⟨id, (pips id).result.weight⟩

/-- **The queue is the ranking** of the proposals that wait, but those that are being taken out. -/
structure QueuedExcept (X : List PipId) (pips : PipId → PipStorage) (queue : List SnapshottedPip) :
    Prop where
  ordered : Ordered queue
  mem : ∀ e, e ∈ queue ↔ Waiting pips e.id ∧ e.id ∉ X ∧ e = entry pips e.id

/-- A queue of different proposals that wait. -/
structure Shortlisted (pips : PipId → PipStorage) (queue : List SnapshottedPip) : Prop where
  nodup : (queue.map (·.id)).Nodup
  waiting : ∀ e ∈ queue, Waiting pips e.id

section Ranking

variable {X : List PipId} {pips : PipId → PipStorage} {queue : List SnapshottedPip} {id : PipId}
  {p : PipStorage}

variable {id' : PipId}

theorem waiting_update_of_ne (h : id' ≠ id) :
    Waiting (update pips id p) id' ↔ Waiting pips id' := by
  rw [Waiting, update_of_ne h, Waiting]

theorem entry_update_of_ne (h : id' ≠ id) :
    entry (update pips id p) id' = entry pips id' := by
  rw [entry, update_of_ne h, entry]

theorem waiting_update_self :
    Waiting (update pips id p) id ↔ p.state = some .pending ∧ p.byCommittee = false := by
  rw [Waiting, update_self]

namespace QueuedExcept

theorem leave (h : QueuedExcept (id :: X) pips queue)
    (hp : ¬ (p.state = some .pending ∧ p.byCommittee = false)) :
    QueuedExcept X (update pips id p) queue := by
  refine ⟨h.ordered, fun e => ?_⟩
  rw [h.mem]
  by_cases hid : e.id = id
  · rw [hid, waiting_update_self]
    exact ⟨fun hx => absurd List.mem_cons_self hx.2.1, fun hx => absurd hx.1 hp⟩
  · rw [waiting_update_of_ne hid, entry_update_of_ne hid, List.mem_cons, not_or]
    exact ⟨fun hx => ⟨hx.1, hx.2.1.2, hx.2.2⟩, fun hx => ⟨hx.1, ⟨hid, hx.2.1⟩, hx.2.2⟩⟩

theorem cons (h : QueuedExcept X pips queue) (hid : ¬ Waiting pips id) :
    QueuedExcept (id :: X) pips queue := by
  refine ⟨h.ordered, fun e => ?_⟩
  rw [h.mem, List.mem_cons, not_or]
  refine ⟨fun hx => ⟨hx.1, ⟨?_, hx.2.1⟩, hx.2.2⟩, fun hx => ⟨hx.1, hx.2.1.2, hx.2.2⟩⟩
  rintro heq
  exact hid (heq ▸ hx.1)

theorem take (h : QueuedExcept [] pips queue) (X : List PipId) :
    QueuedExcept X pips (queue.filter fun e => e.id ∉ X) := by
  refine ⟨h.ordered.filter _, fun e => ?_⟩
  rw [List.mem_filter, h.mem, decide_eq_true_iff]
  constructor
  · rintro ⟨⟨hwaiting, -, heq⟩, hX⟩
    exact ⟨hwaiting, hX, heq⟩
  · rintro ⟨hwaiting, hX, heq⟩
    exact ⟨⟨hwaiting, List.not_mem_nil, heq⟩, hX⟩

/-- A change that concerns neither the place of a proposal nor whether it waits. -/
theorem keep (h : QueuedExcept X pips queue) (hstate : p.state = (pips id).state)
    (hproposal : p.proposal = (pips id).proposal) (hresult : p.result = (pips id).result) :
    QueuedExcept X (update pips id p) queue := by
  refine ⟨h.ordered, fun e => ?_⟩
  rw [h.mem]
  by_cases hid : e.id = id
  · have hcommittee : p.byCommittee = (pips id).byCommittee := by
      unfold PipStorage.byCommittee
      rw [hproposal]
    rw [hid, waiting_update_self, hstate, hcommittee, entry, entry, update_self, hresult,
      Waiting]
  · rw [waiting_update_of_ne hid, entry_update_of_ne hid]

theorem entry_mem (h : QueuedExcept [] pips queue) (hid : Waiting pips id) :
    entry pips id ∈ queue :=
  (h.mem _).mpr ⟨hid, List.not_mem_nil, rfl⟩

theorem ne_of_ne_entry (h : QueuedExcept X pips queue) (id : PipId) (weight : Bool × ℕ) :
    ∀ e ∈ queue, e ≠ entry pips id → e ≠ ⟨id, weight⟩ := by
  rintro e he hne rfl
  exact hne ((h.mem _).mp he).2.2

/-- **A proposal changes its place.** -/
theorem moved (h : QueuedExcept [] pips queue) (hid : Waiting pips id)
    (hp : p.state = some .pending ∧ p.byCommittee = false) :
    QueuedExcept [] (update pips id p)
      (moveEntry (entry pips id) ⟨id, p.result.weight⟩ queue) := by
  have hmem := h.entry_mem hid
  have hnew := h.ne_of_ne_entry id p.result.weight
  refine ⟨moveEntry_ordered h.ordered hmem hnew, fun e => ?_⟩
  rw [mem_moveEntry h.ordered hmem hnew, h.mem]
  by_cases he : e.id = id
  · have hentry : entry (update pips id p) id = ⟨id, p.result.weight⟩ := by
      rw [entry, update_self]
    rw [he, waiting_update_self, hentry]
    refine ⟨?_, fun hx => .inl hx.2.2⟩
    rintro (rfl | ⟨⟨-, -, heq⟩, hne⟩)
    · exact ⟨hp, List.not_mem_nil, rfl⟩
    · exact absurd heq hne
  · rw [waiting_update_of_ne he, entry_update_of_ne he]
    constructor
    · rintro (rfl | ⟨hx, -⟩)
      · exact absurd rfl he
      · exact hx
    · intro hx
      refine .inr ⟨hx, ?_⟩
      rintro rfl
      exact he rfl

/-- **A proposal enters the queue.** -/
theorem entered (h : QueuedExcept [] pips queue) (hid : ¬ Waiting pips id)
    (hp : p.state = some .pending ∧ p.byCommittee = false)
    (hpos : searchQueue queue ⟨id, p.result.weight⟩ = .error pos) :
    QueuedExcept [] (update pips id p) (queue.insertIdx pos ⟨id, p.result.weight⟩) := by
  refine ⟨insert_ordered h.ordered hpos, fun e => ?_⟩
  rw [mem_insert h.ordered hpos, h.mem]
  by_cases he : e.id = id
  · have hentry : entry (update pips id p) id = ⟨id, p.result.weight⟩ := by
      rw [entry, update_self]
    rw [he, waiting_update_self, hentry]
    refine ⟨?_, fun hx => .inl hx.2.2⟩
    rintro (rfl | ⟨hwaiting, -⟩)
    · exact ⟨hp, List.not_mem_nil, rfl⟩
    · exact absurd hwaiting hid
  · rw [waiting_update_of_ne he, entry_update_of_ne he]
    refine ⟨?_, .inr⟩
    rintro (rfl | hx)
    · exact absurd rfl he
    · exact hx

theorem shortlisted (h : QueuedExcept [] pips queue) : Shortlisted pips queue := by
  refine ⟨?_, fun e he => ((h.mem e).mp he).1⟩
  rw [List.Nodup, List.pairwise_map]
  refine (List.Pairwise.and_mem.mp h.ordered).imp ?_
  rintro e e' ⟨he, he', hlt⟩ heq
  have hentry : e = e' := by
    rw [((h.mem e).mp he).2.2, ((h.mem e').mp he').2.2, heq]
  exact hlt.ne (by rw [hentry])

end QueuedExcept

namespace Shortlisted

theorem keep (h : Shortlisted pips queue)
    (hp : (∀ e ∈ queue, e.id ≠ id) ∨ p.state = some .pending ∧ p.byCommittee = false) :
    Shortlisted (update pips id p) queue := by
  refine ⟨h.nodup, fun e he => ?_⟩
  by_cases hid : e.id = id
  · rw [hid, waiting_update_self]
    exact hp.resolve_left fun hne => hne e he hid
  · rw [waiting_update_of_ne hid]
    exact h.waiting e he

theorem filter (h : Shortlisted pips queue) (P : SnapshottedPip → Bool) :
    Shortlisted pips (queue.filter P) :=
  ⟨h.nodup.sublist (List.filter_sublist.map _), fun e he => h.waiting e (List.mem_of_mem_filter he)⟩

end Shortlisted

end Ranking

end Pips

end Polymesh
