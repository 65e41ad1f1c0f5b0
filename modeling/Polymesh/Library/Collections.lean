import Mathlib.Data.List.Sort
import Mathlib.Data.List.Dedup
import Mathlib.Data.Set.Card
import Mathlib.Logic.Function.Basic

/-!
# Ordered sets and bulk writes

Ordered sets are kept as sorted duplicate-free lists, so that a loop over a set has a
definite order. A storage map is a total function, and a loop that writes one value at many
keys is a fold of point updates.
-/

namespace Collections

open Function (update update_apply update_of_ne update_self)

variable {K L V : Type}

/-- A type whose values are ordered through a number. -/
class OrderedKey (K : Type) where
  /-- The place of a value in the order. -/
  key : K → ℕ

section OrderedSet

variable [DecidableEq K] [OrderedKey K]

/-- The elements of a list, sorted and without repetition. -/
def orderedSet (l : List K) : List K :=
  l.dedup.insertionSort fun a b => OrderedKey.key a ≤ OrderedKey.key b

@[simp] theorem mem_orderedSet {l : List K} {k : K} : k ∈ orderedSet l ↔ k ∈ l := by
  simp [orderedSet]

theorem nodup_orderedSet (l : List K) : (orderedSet l).Nodup :=
  (List.perm_insertionSort _ _).nodup_iff.mpr (List.nodup_dedup l)

end OrderedSet

section InsertAll

variable [DecidableEq K]

/-- Write one value at every key of a list. -/
def insertAll (ks : List K) (v : V) (m : K → V) : K → V :=
  ks.foldl (fun m k => update m k v) m

theorem insertAll_apply (ks : List K) (v : V) (m : K → V) (k : K) :
    insertAll ks v m k = if k ∈ ks then v else m k := by
  induction ks generalizing m with
  | nil => simp [insertAll]
  | cons x ks ih =>
    change insertAll ks v (update m x v) k = _
    rw [ih, update_apply]
    by_cases hk : k ∈ ks <;> simp [hk]

theorem foldl_replace_apply (g : K → V → V) {ks : List K} (hnodup : ks.Nodup) (m : K → V) (k : K) :
    ks.foldl (fun m k => update m k (g k (m k))) m k =
      if k ∈ ks then g k (m k) else m k := by
  induction ks generalizing m with
  | nil => simp
  | cons x ks ih =>
    obtain ⟨hx, hnodup⟩ := List.nodup_cons.mp hnodup
    rw [List.foldl_cons, ih hnodup]
    by_cases hk : k = x
    · subst hk
      simp [hx]
    · simp [hk]

/-- After a loop of point updates, a key has the value that some element has written for it, or
none has written and it has its old value. -/
theorem foldl_update_apply {I : Type} (key : I → K) (value : I → V) (xs : List I) (m : K → V)
    (k : K) :
    (∃ x ∈ xs, key x = k ∧
      xs.foldl (fun m x => update m (key x) (value x)) m k = value x) ∨
    (∀ x ∈ xs, key x ≠ k) ∧
      xs.foldl (fun m x => update m (key x) (value x)) m k = m k := by
  induction xs generalizing m with
  | nil => exact .inr ⟨by simp, rfl⟩
  | cons x xs ih =>
    rw [List.foldl_cons]
    rcases ih (update m (key x) (value x)) with ⟨y, hy, hkey, heq⟩ | ⟨hne, heq⟩
    · exact .inl ⟨y, List.mem_cons_of_mem x hy, hkey, heq⟩
    · rw [heq]
      by_cases hk : key x = k
      · exact .inl ⟨x, List.mem_cons_self, hk, by rw [hk, update_self]⟩
      · exact .inr ⟨List.forall_mem_cons.mpr ⟨hk, hne⟩, update_of_ne (Ne.symm hk) ..⟩

end InsertAll

theorem nodup_map_append {I : Type} {key : I → K} {xs ys : List I} (hxs : (xs.map key).Nodup)
    (hys : (ys.map key).Nodup) (hne : ∀ x ∈ xs, ∀ y ∈ ys, key x ≠ key y) :
    ((xs ++ ys).map key).Nodup := by
  rw [List.map_append]
  refine hxs.append hys (List.disjoint_left.mpr fun k hk hk' => ?_)
  obtain ⟨x, hx, rfl⟩ := List.mem_map.mp hk
  obtain ⟨y, hy, heq⟩ := List.mem_map.mp hk'
  exact hne x hx y hy heq.symm

section Count

variable [DecidableEq K]

theorem countP_update {ks : List K} (hnodup : ks.Nodup) {k : K} (hk : k ∈ ks) (m : K → V) (v : V)
    (P : V → Bool) :
    ks.countP (fun j => P (update m k v j)) + (if P (m k) then 1 else 0) =
      ks.countP (fun j => P (m j)) + if P v then 1 else 0 := by
  have hperm := List.perm_cons_erase hk
  have hrest : (ks.erase k).countP (fun j => P (update m k v j)) =
      (ks.erase k).countP fun j => P (m j) := by
    refine List.countP_congr fun j hj => ?_
    have hne : j ≠ k := fun h => hnodup.not_mem_erase (h ▸ hj)
    rw [update_of_ne hne]
  rw [hperm.countP_eq, hperm.countP_eq, List.countP_cons, List.countP_cons, hrest,
    update_self]
  omega

theorem countP_eq_ncard {ks : List K} (hnodup : ks.Nodup) (P : K → Bool) :
    ks.countP P = {k | k ∈ ks ∧ P k}.ncard := by
  have hset : {k | k ∈ ks ∧ P k} = (ks.filter P).toFinset := by
    ext k
    simp
  rw [hset, Set.ncard_coe_finset, List.toFinset_card_of_nodup (hnodup.filter P),
    List.countP_eq_length_filter]

theorem ncard_mem (ks : List K) : {k | k ∈ ks}.ncard = ks.toFinset.card := by
  rw [← List.coe_toFinset, Set.ncard_coe_finset]

theorem toFinset_card_eq_length {ks : List K} : ks.toFinset.card = ks.length ↔ ks.Nodup :=
  Multiset.toFinset_card_eq_card_iff_nodup

end Count

section Update₂

variable [DecidableEq K] [DecidableEq L]

/-- Write one value of a map with two keys. -/
def update₂ (m : K → L → V) (k : K) (l : L) (v : V) : K → L → V :=
  update m k (update (m k) l v)

theorem update₂_apply (m : K → L → V) (k k' : K) (l l' : L) (v : V) :
    update₂ m k l v k' l' = if k' = k ∧ l' = l then v else m k' l' := by
  unfold update₂
  by_cases hk : k' = k
  · subst hk
    simp [update_apply]
  · simp [hk]

@[simp] theorem update₂_self (m : K → L → V) (k : K) (l : L) (v : V) :
    update₂ m k l v k l = v := by
  simp [update₂_apply]

theorem update₂_of_ne_left (m : K → L → V) {k k' : K} (h : k' ≠ k) (l : L) (v : V) :
    update₂ m k l v k' = m k' := by
  simp [update₂, h]

/-- Write one value at every first key of a list, under one second key. -/
def insertAll₂ (ks : List K) (l : L) (v : V) (m : K → L → V) : K → L → V :=
  ks.foldl (fun m k => update₂ m k l v) m

theorem insertAll₂_apply (ks : List K) (l l' : L) (v : V) (m : K → L → V) (k : K) :
    insertAll₂ ks l v m k l' = if l' = l ∧ k ∈ ks then v else m k l' := by
  induction ks generalizing m with
  | nil => simp [insertAll₂]
  | cons x ks ih =>
    change insertAll₂ ks l v (update₂ m x l v) k l' = _
    rw [ih, update₂_apply]
    by_cases hl : l' = l <;> by_cases hk : k ∈ ks <;> simp [hl, hk]

end Update₂

end Collections
