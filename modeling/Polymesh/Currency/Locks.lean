import Polymesh.Pallets.Locks

/-!
# What is locked under an identifier

An account has at most one lock under an identifier, and none over nothing. Every change of a lock
keeps that, and leaves what is locked under other identifiers.
-/

namespace Polymesh

open Transactional SortedLists

namespace Currency

/-- The amounts that are locked under an identifier. -/
def held (id : LockIdentifier) (locks : List NamedLock) : List ℕ :=
  (locks.filter (·.id = id)).map (·.amount)

/-- A single lock, or none if there is nothing to lock. -/
def lockOf (n : ℕ) : List ℕ := if n = 0 then [] else [n]

variable {n amount : ℕ} {reasons : Reasons} {ε : Type}

theorem lockOf_of_ne (h : n ≠ 0) : lockOf n = [n] := if_neg h

section Held

variable {id : LockIdentifier} {l l₁ l₂ locks locks' : List NamedLock} {lock : NamedLock}

theorem held_append : held id (l₁ ++ l₂) = held id l₁ ++ held id l₂ := by
  simp [held]

theorem held_cons_of_eq (h : lock.id = id) : held id (lock :: l) = lock.amount :: held id l := by
  simp [held, h]

theorem held_cons_of_ne (h : lock.id ≠ id) : held id (lock :: l) = held id l := by
  simp [held, h]

theorem held_eq_nil : held id locks = [] ↔ ∀ lock ∈ locks, lock.id ≠ id := by
  simp [held]

theorem held_perm (id : LockIdentifier) (h : locks.Perm locks') :
    (held id locks).Perm (held id locks') :=
  (h.filter _).map _

theorem eq_lockOf_of_perm {amounts : List ℕ} (h : amounts.Perm (lockOf n)) :
    amounts = lockOf n := by
  by_cases hn : n = 0
  · subst hn
    exact List.perm_nil.mp h
  · rw [lockOf_of_ne hn] at h ⊢
    exact List.perm_singleton.mp h

theorem lockPosition_some {pos : ℕ} (h : lockPosition id locks = some pos) :
    ∃ l₁ slot l₂, locks = l₁ ++ slot :: l₂ ∧ l₁.length = pos ∧ slot.id = id ∧
      held id l₁ = [] := by
  obtain ⟨hpos, hid, hbefore⟩ := List.findIdx?_eq_some_iff_getElem.mp h
  refine ⟨locks.take pos, locks[pos], locks.drop (pos + 1), ?_, ?_, by simpa using hid, ?_⟩
  · rw [List.getElem_cons_drop, List.take_append_drop]
  · rw [List.length_take]
    omega
  · refine held_eq_nil.mpr fun lock hlock => ?_
    obtain ⟨i, hi, rfl⟩ := List.mem_iff_getElem.mp hlock
    rw [List.length_take] at hi
    have := hbefore i (by omega)
    simpa using this

theorem lockPosition_none (h : lockPosition id locks = none) : held id locks = [] := by
  rw [held_eq_nil]
  simpa [lockPosition] using h

theorem lockPosition_of_held (hheld : held id locks = lockOf n) (hn : n ≠ 0) :
    ∃ l₁ slot l₂, locks = l₁ ++ slot :: l₂ ∧ lockPosition id locks = some l₁.length ∧
      slot.id = id ∧ slot.amount = n ∧ held id l₁ = [] ∧ held id l₂ = [] := by
  rw [lockOf_of_ne hn] at hheld
  cases hpos : lockPosition id locks with
  | none =>
    rw [lockPosition_none hpos] at hheld
    cases hheld
  | some pos =>
    obtain ⟨l₁, slot, l₂, rfl, rfl, hid, hl₁⟩ := lockPosition_some hpos
    rw [held_append, hl₁, held_cons_of_eq hid, List.nil_append, List.cons.injEq] at hheld
    exact ⟨l₁, slot, l₂, rfl, rfl, hid, hheld.1, hl₁, hheld.2⟩

theorem held_set {slot : NamedLock} (hl₁ : held id l₁ = []) (hid : slot.id = id)
    (hl₂ : held id l₂ = []) :
    held id ((l₁ ++ slot :: l₂).set l₁.length ⟨⟨amount, reasons⟩, slot.id⟩) = [amount] := by
  have hset : (l₁ ++ slot :: l₂).set l₁.length ⟨⟨amount, reasons⟩, slot.id⟩ =
      l₁ ++ ⟨⟨amount, reasons⟩, slot.id⟩ :: l₂ := by simp
  have hnew : (⟨⟨amount, reasons⟩, slot.id⟩ : NamedLock).id = id := hid
  rw [hset, held_append, hl₁, held_cons_of_eq hnew, hl₂, List.nil_append]

/-! ## Differences -/

/-- **What is locked can be released**, and no more is released. -/
theorem reduceLock_held (hheld : held id locks = lockOf n) (hle : amount ≤ n) :
    ∃ locks', reduceLock id amount locks = .ok locks' ∧ held id locks' = lockOf (n - amount) := by
  by_cases hzero : amount = 0
  · subst hzero
    exact ⟨locks, rfl, hheld⟩
  obtain ⟨l₁, slot, l₂, rfl, hpos, hid, rfl, hl₁, hl₂⟩ := lockPosition_of_held hheld (by omega)
  have hslot : (l₁ ++ slot :: l₂)[l₁.length]? = some slot := by simp
  have hnew : checkedSub slot.amount amount = some (slot.amount - amount) :=
    checkedSub_eq_some.mpr ⟨hle, rfl⟩
  refine ⟨if slot.amount - amount = 0 then swapRemove (l₁ ++ slot :: l₂) l₁.length
    else (l₁ ++ slot :: l₂).set l₁.length { slot with amount := slot.amount - amount }, ?_, ?_⟩
  · simp only [reduceLock, if_neg hzero, except_bind_eq_ok, okOr_eq_ok, except_pure_eq_ok]
    exact ⟨_, hpos, _, hslot, _, hnew, rfl⟩
  split_ifs with hnothing
  · rw [hnothing]
    refine eq_lockOf_of_perm ?_
    have hperm := held_perm id (swapRemove_perm hslot)
    rw [held_cons_of_eq hid, held_append, hl₁, held_cons_of_eq hid, hl₂] at hperm
    exact List.Perm.cons_inv hperm
  · rw [held_set hl₁ hid hl₂, lockOf_of_ne hnothing]

/-- **What is locked in addition** passes the check together with what was locked before. -/
theorem increaseLock_held {overflow : ε} {checkSum : ℕ → Except ε Unit}
    (hheld : held id locks = lockOf n)
    (h : increaseLock overflow id amount reasons checkSum locks = .ok locks') :
    held id locks' = lockOf (n + amount) := by
  by_cases hzero : amount = 0
  · subst hzero
    cases h
    exact hheld
  have hsum : n + amount ≠ 0 := by omega
  by_cases hn : n = 0
  · subst hn
    have hpos : lockPosition id locks = none := by
      cases hpos : lockPosition id locks with
      | none => rfl
      | some pos =>
        obtain ⟨l₁, slot, l₂, rfl, -, hid, hl₁⟩ := lockPosition_some hpos
        rw [held_append, hl₁, held_cons_of_eq hid] at hheld
        cases hheld
    simp only [increaseLock, if_neg hzero, hpos, Option.bind_none, except_bind_eq_ok,
      except_pure_eq_ok] at h
    obtain ⟨_, -, rfl⟩ := h
    rw [held_append, hheld, Nat.zero_add, lockOf_of_ne hzero]
    simp [held, lockOf]
  · obtain ⟨l₁, slot, l₂, rfl, hpos, hid, rfl, hl₁, hl₂⟩ := lockPosition_of_held hheld hn
    have hslot : (l₁ ++ slot :: l₂)[l₁.length]? = some slot := by simp
    simp only [increaseLock, if_neg hzero, hpos, hslot, Option.bind_some, Option.map_some,
      except_bind_eq_ok, except_pure_eq_ok, okOr_eq_ok, checkedAdd_eq_some] at h
    obtain ⟨sum, ⟨-, rfl⟩, _, -, rfl⟩ := h
    rw [held_set hl₁ hid hl₂, lockOf_of_ne hsum]

end Held

/-! ## Locks of other pallets -/

/-- What a pallet can do to its lock on an account. -/
inductive LockChange
  | set (amount : ℕ) (reasons : Reasons)
  | extend (amount : ℕ) (reasons : Reasons)
  | remove
  | reduce (amount : ℕ)
  | increase (amount : ℕ) (reasons : Reasons)

/-- The locks after the change. One that fails changes nothing. -/
def LockChange.apply (id : LockIdentifier) : LockChange → List NamedLock → List NamedLock
  | .set amount reasons, locks => setLock id amount reasons locks
  | .extend amount reasons, locks => extendLock id amount reasons locks
  | .remove, locks => removeLock id locks
  | .reduce amount, locks => ((reduceLock id amount locks).toOption).getD locks
  | .increase amount reasons, locks =>
    ((increaseLock Error.overflow id amount reasons (fun _ => .ok ()) locks).toOption).getD locks

section Others

variable {id id' : LockIdentifier} {l₁ l₂ locks locks' : List NamedLock} {slot lock : NamedLock}

theorem held_concat_of_ne (hlock : lock.id ≠ id) : held id (locks ++ [lock]) = held id locks := by
  rw [held_append, held_cons_of_ne hlock]
  exact List.append_nil _

theorem held_replace_of_ne (hslot : slot.id ≠ id) (hlock : lock.id ≠ id) :
    held id ((l₁ ++ slot :: l₂).set l₁.length lock) = held id (l₁ ++ slot :: l₂) := by
  have hset : (l₁ ++ slot :: l₂).set l₁.length lock = l₁ ++ lock :: l₂ := by simp
  rw [hset, held_append, held_append, held_cons_of_ne hslot, held_cons_of_ne hlock]

theorem held_setLock_of_ne (hne : id' ≠ id) (amount : ℕ) (reasons : Reasons) :
    held id (setLock id' amount reasons locks) = held id locks := by
  unfold setLock
  split
  · rfl
  · split
    case h_1 pos hpos =>
      obtain ⟨l₁, slot, l₂, rfl, rfl, rfl, -⟩ := lockPosition_some hpos
      exact held_replace_of_ne hne hne
    case h_2 => exact held_concat_of_ne hne

theorem held_extendLock_of_ne (hne : id' ≠ id) (amount : ℕ) (reasons : Reasons) :
    held id (extendLock id' amount reasons locks) = held id locks := by
  unfold extendLock
  split
  · rfl
  · split
    case h_1 pos hpos =>
      obtain ⟨l₁, slot, l₂, rfl, rfl, rfl, -⟩ := lockPosition_some hpos
      have hmodify : ∀ f : NamedLock → NamedLock,
          (l₁ ++ slot :: l₂).modify l₁.length f = (l₁ ++ slot :: l₂).set l₁.length (f slot) := by
        intro f
        rw [List.modify_eq_set_getElem?]
        simp
      rw [hmodify]
      exact held_replace_of_ne hne hne
    case h_2 => exact held_concat_of_ne hne

theorem held_removeLock_of_ne (hne : id' ≠ id) : held id (removeLock id' locks) = held id locks := by
  unfold held removeLock
  rw [List.filter_filter]
  congr 1
  refine List.filter_congr fun lock _ => ?_
  by_cases hlock : lock.id = id <;> simp [hlock, hne.symm]

theorem held_reduceLock_of_ne (hne : id' ≠ id) (hheld : held id locks = lockOf n)
    (h : reduceLock id' amount locks = .ok locks') : held id locks' = lockOf n := by
  unfold reduceLock at h
  split at h
  · cases h
    exact hheld
  · simp only [except_bind_eq_ok, okOr_eq_ok, except_pure_eq_ok] at h
    obtain ⟨pos, hpos, slot, hslot, new, -, rfl⟩ := h
    obtain ⟨l₁, slot', l₂, rfl, rfl, rfl, -⟩ := lockPosition_some hpos
    have heq : slot' = slot := by simpa using hslot
    subst heq
    split_ifs
    · refine eq_lockOf_of_perm ?_
      have hperm := held_perm id (swapRemove_perm hslot)
      rwa [held_cons_of_ne hne, hheld] at hperm
    · rw [← hheld]
      exact held_replace_of_ne hne hne

theorem held_increaseLock_of_ne {overflow : ε} {checkSum : ℕ → Except ε Unit} (hne : id' ≠ id)
    (h : increaseLock overflow id' amount reasons checkSum locks = .ok locks') :
    held id locks' = held id locks := by
  unfold increaseLock at h
  split at h
  · cases h
    rfl
  · split at h
    case h_1 pos slot hslot =>
      simp only [except_bind_eq_ok, okOr_eq_ok, except_pure_eq_ok] at h
      obtain ⟨sum, -, _, -, rfl⟩ := h
      simp only [Option.bind_eq_some_iff, Option.map_eq_some_iff, Prod.mk.injEq] at hslot
      obtain ⟨_, hpos, _, hget, rfl, rfl⟩ := hslot
      obtain ⟨l₁, slot', l₂, rfl, rfl, rfl, -⟩ := lockPosition_some hpos
      rw [List.getElem?_append_right le_rfl, Nat.sub_self, List.getElem?_cons_zero,
        Option.some_inj] at hget
      subst hget
      exact held_replace_of_ne hne hne
    case h_2 =>
      simp only [except_bind_eq_ok, except_pure_eq_ok] at h
      obtain ⟨_, -, rfl⟩ := h
      exact held_concat_of_ne hne

/-- **The locks of other pallets** leave what is locked under an identifier. -/
theorem LockChange.held_of_ne (change : LockChange) (hne : id' ≠ id)
    (hheld : held id locks = lockOf n) : held id (change.apply id' locks) = lockOf n := by
  cases change with
  | set amount reasons => exact (held_setLock_of_ne hne amount reasons).trans hheld
  | extend amount reasons => exact (held_extendLock_of_ne hne amount reasons).trans hheld
  | remove => exact (held_removeLock_of_ne hne).trans hheld
  | reduce amount =>
    simp only [LockChange.apply]
    cases h : reduceLock id' amount locks with
    | error e => exact hheld
    | ok locks' => exact held_reduceLock_of_ne hne hheld h
  | increase amount reasons =>
    simp only [LockChange.apply]
    cases h : increaseLock Error.overflow id' amount reasons (fun _ => .ok ()) locks with
    | error e => exact hheld
    | ok locks' => exact (held_increaseLock_of_ne hne h).trans hheld

end Others

end Currency

end Polymesh
