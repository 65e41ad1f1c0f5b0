import Mathlib.Data.List.Sort
import Mathlib.Data.List.GetD
import Mathlib.Data.List.InsertIdx
import Mathlib.Data.List.Perm.Basic

/-!
# Sorted lists and the operations that rely on them

A set that is kept as a sorted list is searched by halving, and changed at the index that a search
has found. Halving a list that is not sorted gives an answer too, but not that of a linear search,
so whoever searches relies on every earlier change.

The elements are ordered through a key, which need not tell them apart.
-/

namespace SortedLists

variable {α K : Type} [LinearOrder K]

/-! ## Searches -/

section Search

variable (key : α → K)

/-- Search the window from `lo` to `hi`, halving it as long as there is fuel. -/
def searchWindow (l : List α) (k : K) : ℕ → ℕ → ℕ → Except ℕ ℕ
  | 0, lo, _ => .error lo
  | fuel + 1, lo, hi =>
    if lo < hi then
      match l[lo + (hi - lo) / 2]? with
      | none => .error lo
      | some x =>
        if key x = k then .ok (lo + (hi - lo) / 2)
        else if key x < k then searchWindow l k fuel (lo + (hi - lo) / 2 + 1) hi
        else searchWindow l k fuel lo (lo + (hi - lo) / 2)
    else .error lo

/-- The index of an element with the key, or the index where one would be inserted. -/
def binarySearch (l : List α) (k : K) : Except ℕ ℕ := searchWindow key l k l.length 0 l.length

variable {key} {l : List α} {k : K} {i : ℕ}

theorem searchWindow_ok {fuel lo hi : ℕ} (h : searchWindow key l k fuel lo hi = .ok i) :
    ∃ x, l[i]? = some x ∧ key x = k := by
  induction fuel generalizing lo hi with
  | zero => cases h
  | succ fuel ih =>
    unfold searchWindow at h
    split at h
    · cases hmid : l[lo + (hi - lo) / 2]? with
      | none =>
        rw [hmid] at h
        cases h
      | some x =>
        rw [hmid] at h
        simp only at h
        split_ifs at h with heq hlt
        · cases h
          exact ⟨x, hmid, heq⟩
        · exact ih h
        · exact ih h
    · cases h

/-- **What is found is there**, in any list. -/
theorem binarySearch_ok (h : binarySearch key l k = .ok i) : ∃ x, l[i]? = some x ∧ key x = k :=
  searchWindow_ok h

theorem mem_of_ok (hkey : Function.Injective key) {x : α} (h : binarySearch key l (key x) = .ok i) :
    x ∈ l := by
  obtain ⟨y, hy, heq⟩ := binarySearch_ok h
  exact hkey heq ▸ List.mem_of_getElem? hy

theorem lt_length_of_ok (h : binarySearch key l k = .ok i) : i < l.length := by
  obtain ⟨x, hx, -⟩ := binarySearch_ok h
  exact (List.getElem?_eq_some_iff.mp hx).1

theorem searchWindow_error (hl : l.Pairwise (key · ≤ key ·)) {fuel lo hi : ℕ}
    (hhi : hi ≤ l.length) (hle : lo ≤ hi) (hfuel : hi - lo ≤ fuel)
    (hlow : ∀ j (hj : j < l.length), j < lo → key l[j] < k)
    (hhigh : ∀ j (hj : j < l.length), hi ≤ j → k < key l[j])
    (h : searchWindow key l k fuel lo hi = .error i) :
    i ≤ l.length ∧ (∀ j (hj : j < l.length), j < i → key l[j] < k) ∧
      ∀ j (hj : j < l.length), i ≤ j → k < key l[j] := by
  induction fuel generalizing lo hi with
  | zero =>
    have heq : lo = hi := by omega
    subst heq
    cases h
    exact ⟨hhi, hlow, hhigh⟩
  | succ fuel ih =>
    unfold searchWindow at h
    split at h
    case isFalse hlt =>
      have heq : lo = hi := by omega
      subst heq
      cases h
      exact ⟨hhi, hlow, hhigh⟩
    case isTrue hlt =>
      have hmid : lo + (hi - lo) / 2 < l.length := by omega
      have hordered := List.pairwise_iff_getElem.mp hl
      rw [List.getElem?_eq_getElem hmid] at h
      simp only at h
      split_ifs at h with heq hless
      · -- everything up to the middle is smaller
        refine ih hhi (by omega) (by omega) (fun j hj hjm => ?_) hhigh h
        rcases (Nat.lt_succ_iff.mp hjm).eq_or_lt with rfl | hjm
        · exact hless
        · exact (hordered j _ hj hmid hjm).trans_lt hless
      · have hgreater : k < key l[lo + (hi - lo) / 2] :=
          lt_of_le_of_ne (not_lt.mp hless) (Ne.symm heq)
        refine ih (by omega) (by omega) (by omega) hlow (fun j hj hmj => ?_) h
        rcases hmj.eq_or_lt with rfl | hmj
        · exact hgreater
        · exact hgreater.trans_le (hordered _ j hmid hj hmj)

/-- **Where the key would be inserted**: after the smaller elements and before the others. -/
theorem binarySearch_error (hl : l.Pairwise (key · ≤ key ·))
    (h : binarySearch key l k = .error i) :
    i ≤ l.length ∧ (∀ j (hj : j < l.length), j < i → key l[j] < k) ∧
      ∀ j (hj : j < l.length), i ≤ j → k < key l[j] :=
  searchWindow_error hl le_rfl (Nat.zero_le _) le_rfl (fun _ _ h => absurd h (by omega))
    (fun _ hj h => absurd h (by omega)) h

theorem notMem_of_error (hl : l.Pairwise (key · ≤ key ·)) (h : binarySearch key l k = .error i)
    {x : α} (hx : x ∈ l) : key x ≠ k := by
  obtain ⟨-, hlow, hhigh⟩ := binarySearch_error hl h
  obtain ⟨j, hj, rfl⟩ := List.mem_iff_getElem.mp hx
  rcases lt_or_ge j i with hji | hji
  · exact (hlow j hj hji).ne
  · exact (hhigh j hj hji).ne'

variable (key) in
/-- **In a strictly sorted list the search agrees with a linear one.** -/
theorem binarySearch_eq_findIdx? (hl : l.Pairwise (key · < key ·)) (k : K) :
    (binarySearch key l k).toOption = l.findIdx? (key · = k) := by
  cases h : binarySearch key l k with
  | ok i =>
    obtain ⟨x, hx, hk⟩ := binarySearch_ok h
    obtain ⟨hi, rfl⟩ := List.getElem?_eq_some_iff.mp hx
    refine (List.findIdx?_eq_some_iff_getElem.mpr ⟨hi, by simpa using hk, fun j hj => ?_⟩).symm
    have hlt := List.pairwise_iff_getElem.mp hl j i (hj.trans hi) hi hj
    simpa [← hk] using hlt.ne
  | error i =>
    refine (List.findIdx?_eq_none_iff.mpr fun x hx => ?_).symm
    simpa using notMem_of_error (hl.imp le_of_lt) h hx

end Search

/-! ## Changes -/

section Changes

variable {key : α → K} {l : List α} {i : ℕ} {x : α}

theorem insertIdx_eq_append (hi : i ≤ l.length) :
    l.insertIdx i x = l.take i ++ x :: l.drop i := by
  induction l generalizing i with
  | nil =>
    rw [Nat.le_zero.mp hi]
    rfl
  | cons y l ih =>
    cases i with
    | zero => rfl
    | succ i => simp [ih (Nat.le_of_succ_le_succ hi)]

theorem pairwise_insertIdx {R : K → K → Prop} (hR : ∀ a b, a < b → R a b)
    (hle : l.Pairwise (key · ≤ key ·)) (hl : l.Pairwise fun a b => R (key a) (key b))
    (h : binarySearch key l (key x) = .error i) :
    (l.insertIdx i x).Pairwise fun a b => R (key a) (key b) := by
  obtain ⟨hi, hlow, hhigh⟩ := binarySearch_error hle h
  rw [insertIdx_eq_append hi]
  have htake : ∀ y ∈ l.take i, key y < key x := by
    intro y hy
    obtain ⟨j, hj, rfl⟩ := List.mem_iff_getElem.mp hy
    have hmin := Nat.lt_min.mp (List.length_take ▸ hj)
    rw [List.getElem_take]
    exact hlow j hmin.2 hmin.1
  have hdrop : ∀ y ∈ l.drop i, key x < key y := by
    intro y hy
    obtain ⟨j, hj, rfl⟩ := List.mem_iff_getElem.mp hy
    rw [List.length_drop] at hj
    rw [List.getElem_drop]
    exact hhigh _ (by omega) (Nat.le_add_right i j)
  rw [← List.take_append_drop i l, List.pairwise_append] at hl
  refine List.pairwise_append.mpr ⟨hl.1, List.pairwise_cons.mpr ⟨?_, hl.2.1⟩, ?_⟩
  · exact fun y hy => hR _ _ (hdrop y hy)
  · intro y hy z hz
    rcases List.mem_cons.mp hz with rfl | hz
    · exact hR _ _ (htake y hy)
    · exact hR _ _ ((htake y hy).trans (hdrop z hz))

/-- Remove the element at an index; the last one takes its place. -/
def swapRemove (l : List α) (i : ℕ) : List α :=
  match l.getLast? with
  | none => []
  | some x => (l.set i x).dropLast

theorem swapRemove_concat_lt {d : List α} (hi : i < d.length) :
    swapRemove (d ++ [x]) i = d.set i x := by
  simp [swapRemove, List.set_append_left _ _ hi]

theorem swapRemove_concat_length {d : List α} : swapRemove (d ++ [x]) d.length = d := by
  simp [swapRemove]

/-- **What is removed is the element at the index.** -/
theorem swapRemove_perm (h : l[i]? = some x) : (x :: swapRemove l i).Perm l := by
  rcases List.eq_nil_or_concat l with rfl | ⟨d, y, rfl⟩
  · simp at h
  rw [List.concat_eq_append] at h ⊢
  rcases lt_or_ge i d.length with hi | hi
  · rw [swapRemove_concat_lt hi]
    rw [List.getElem?_append_left hi, List.getElem?_eq_getElem hi, Option.some_inj] at h
    calc (x :: d.set i y).Perm (x :: y :: d.eraseIdx i) :=
          (List.set_perm_cons_eraseIdx hi y).cons x
      _ |>.Perm (y :: x :: d.eraseIdx i) := List.Perm.swap ..
      _ |>.Perm (y :: d) := (h ▸ List.getElem_cons_eraseIdx_perm hi).cons y
      _ |>.Perm (d ++ [y]) := (List.perm_append_singleton y d).symm
  · have hlen := (List.getElem?_eq_some_iff.mp h).1
    have heq : i = d.length := by
      rw [List.length_append, List.length_singleton] at hlen
      omega
    subst heq
    rw [swapRemove_concat_length]
    simp at h
    exact h ▸ (List.perm_append_singleton y d).symm

/-- **To swap an element out keeps a list sorted if and only if** it is the last or the one before
it. -/
theorem pairwise_swapRemove_iff (hl : l.Pairwise (key · < key ·)) (hi : i < l.length) :
    (swapRemove l i).Pairwise (key · < key ·) ↔ l.length ≤ i + 2 := by
  rcases List.eq_nil_or_concat l with rfl | ⟨d, y, rfl⟩
  · simp at hi
  rw [List.concat_eq_append] at hl hi ⊢
  have hordered := List.pairwise_iff_getElem.mp hl
  simp only [List.length_append, List.length_singleton] at hi ⊢
  rcases lt_or_ge i d.length with hid | hid
  · rw [swapRemove_concat_lt hid]
    constructor
    · intro h
      by_contra hlen
      -- the last element stands before the one after the removed
      have hnext : i + 1 < d.length := by omega
      have hbefore := List.pairwise_iff_getElem.mp h i (i + 1) (by simpa using hid)
        (by simpa using hnext) (Nat.lt_succ_self i)
      have hafter := hordered (i + 1) d.length (by simp; omega) (by simp) hnext
      simp only [List.getElem_set_self, List.getElem_set_ne (Nat.ne_of_lt (Nat.lt_succ_self i)),
        List.getElem_append_left hnext, List.getElem_concat_length] at hbefore hafter
      exact absurd hbefore hafter.asymm
    · intro hlen
      obtain ⟨e, z, rfl⟩ : ∃ e z, d = e ++ [z] := by
        rcases List.eq_nil_or_concat d with rfl | ⟨e, z, rfl⟩
        · simp at hid
        · exact ⟨e, z, List.concat_eq_append⟩
      have heq : i = e.length := by
        simp only [List.length_append, List.length_singleton] at hid hlen
        omega
      subst heq
      have hset : (e ++ [z]).set e.length y = e ++ [y] := by simp
      rw [hset]
      refine hl.sublist ?_
      rw [List.append_assoc]
      exact (List.sublist_append_right [z] [y]).append_left e
  · have heq : i = d.length := by omega
    subst heq
    rw [swapRemove_concat_length]
    exact ⟨fun _ => by omega, fun _ => hl.sublist (List.sublist_append_left d [y])⟩

variable (key) in
/-- A list in the order of the keys. -/
def sortOn (l : List α) : List α := l.insertionSort fun a b => key a ≤ key b

theorem sortOn_perm (l : List α) : (sortOn key l).Perm l := List.perm_insertionSort _ l

theorem pairwise_sortOn (l : List α) : (sortOn key l).Pairwise (key · ≤ key ·) := by
  have : Std.Total fun a b : α => key a ≤ key b := ⟨fun a b => le_total (key a) (key b)⟩
  have : IsTrans α fun a b => key a ≤ key b := ⟨fun _ _ _ => le_trans⟩
  exact List.pairwise_insertionSort _ l

variable (key) in
/-- **A list is sorted strictly if and only if** no key occurs in it twice. -/
theorem pairwise_sortOn_iff (l : List α) :
    (sortOn key l).Pairwise (key · < key ·) ↔ (l.map key).Nodup := by
  have hperm : (sortOn key l).Perm l := sortOn_perm l
  rw [← (hperm.map key).nodup_iff, List.Nodup, List.pairwise_map]
  refine ⟨fun h => h.imp ne_of_lt, fun h => ?_⟩
  exact ((pairwise_sortOn l).and h).imp fun h => lt_of_le_of_ne h.1 h.2

end Changes

end SortedLists
