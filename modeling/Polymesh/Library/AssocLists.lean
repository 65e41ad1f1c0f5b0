import Mathlib.Data.List.AList
import Polymesh.Library.Collections

/-!
# Counting and summing the entries of an association list

A storage map that is iterated is an association list without repeated keys. What an insertion
does to a count of its entries, or to a sum over them, depends only on the entry that was there
before.
-/

namespace AssocLists

variable {K V I : Type} [DecidableEq K]

/-- The number of an optional value that meets a predicate. -/
def countOption (P : V → Bool) (o : Option V) : ℕ := if o.any P then 1 else 0

/-- **The count after an insertion** differs by the old and the new value under the key. -/
theorem countP_insert (m : AList fun _ : K => V) (k : K) (v : V) (P : V → Bool) :
    (m.insert k v).entries.countP (fun e => P e.2) + countOption P (m.lookup k) =
      m.entries.countP (fun e => P e.2) + countOption P (some v) := by
  rw [AList.entries_insert, List.countP_cons]
  by_cases hk : k ∈ m
  · obtain ⟨w, l₁, l₂, hl₁, hl, herase⟩ := List.exists_of_kerase (AList.mem_keys.mp hk)
    have hlookup : m.lookup k = some w := by
      rw [← Option.mem_def, AList.mem_lookup_iff, hl]
      simp
    rw [herase, hl, hlookup]
    simp only [List.countP_append, List.countP_cons, countOption, Option.any_some]
    omega
  · have herase : m.entries.kerase k = m.entries :=
      List.kerase_of_notMem_keys fun h => hk (AList.mem_keys.mpr h)
    rw [herase, AList.lookup_eq_none.mpr hk]
    simp [countOption]

/-- **The count is the number of keys** whose value meets the predicate. -/
theorem countP_entries_eq_ncard (m : AList fun _ : K => V) (P : V → Bool) :
    m.entries.countP (fun e => P e.2) = {k | ∃ v, m.lookup k = some v ∧ P v}.ncard := by
  have hlookup : m.entries.countP (fun e => P e.2) =
      m.entries.countP fun e => (m.lookup e.1).any P := by
    refine List.countP_congr fun e he => ?_
    rw [Option.mem_def.mp (AList.mem_lookup_iff.mpr he)]
    rfl
  have hkeys : m.entries.countP (fun e => (m.lookup e.1).any P) =
      m.keys.countP fun k => (m.lookup k).any P := by
    rw [AList.keys, List.keys, List.countP_map]
    rfl
  rw [hlookup, hkeys, Collections.countP_eq_ncard m.keys_nodup]
  congr 1
  ext k
  simp only [Set.mem_ofPred_eq, Option.any_eq_true]
  constructor
  · exact fun ⟨_, h⟩ => h
  · rintro ⟨v, hv, hP⟩
    exact ⟨AList.mem_keys.mp (AList.lookup_isSome.mp (by rw [hv]; rfl)), v, hv, hP⟩

/-- The sum of the weights of all values. -/
def total (w : V → ℕ) (m : AList fun _ : K => V) : ℕ := (m.entries.map fun e => w e.2).sum

theorem entries_split {m : AList fun _ : K => V} {k : K} {v : V} (h : m.lookup k = some v) :
    ∃ l₁ l₂, m.entries = l₁ ++ ⟨k, v⟩ :: l₂ ∧ m.entries.kerase k = l₁ ++ l₂ ∧
      (∀ e ∈ l₁, e.1 ≠ k) ∧ ∀ e ∈ l₂, e.1 ≠ k := by
  have hk : k ∈ m := AList.lookup_isSome.mp (by rw [h]; rfl)
  obtain ⟨w, l₁, l₂, hl₁, hl, herase⟩ := List.exists_of_kerase (AList.mem_keys.mp hk)
  have hw : w = v := by
    have hmem : (⟨k, w⟩ : Sigma fun _ : K => V) ∈ m.entries := by rw [hl]; simp
    have hlookup := AList.mem_lookup_iff.mpr hmem
    rw [h, Option.mem_some] at hlookup
    exact hlookup.symm
  subst hw
  have hnodup := m.nodupKeys
  rw [hl, List.nodupKeys_iff_pairwise, List.pairwise_append, List.pairwise_cons] at hnodup
  refine ⟨l₁, l₂, hl, herase, fun e he heq => ?_, fun e he => (hnodup.2.1.1 e he).symm⟩
  exact hl₁ (heq ▸ List.mem_map_of_mem he)

/-- **The sum after an insertion** differs by the old and the new value under the key. -/
theorem total_insert (w : V → ℕ) (m : AList fun _ : K => V) (k : K) (v : V) :
    total w (m.insert k v) + (m.lookup k).elim 0 w = total w m + w v := by
  unfold total
  rw [AList.entries_insert, List.map_cons, List.sum_cons]
  cases h : m.lookup k with
  | none =>
    rw [List.kerase_of_notMem_keys fun hk => AList.lookup_eq_none.mp h (AList.mem_keys.mpr hk),
      Option.elim_none]
    dsimp only
    omega
  | some v' =>
    obtain ⟨l₁, l₂, hl, herase, -, -⟩ := entries_split h
    rw [herase, hl]
    simp only [List.map_append, List.map_cons, List.sum_append, List.sum_cons, Option.elim_some]
    omega

theorem le_total (w : V → ℕ) {m : AList fun _ : K => V} {k : K} {v : V}
    (h : m.lookup k = some v) : w v ≤ total w m := by
  obtain ⟨l₁, l₂, hl, -, -, -⟩ := entries_split h
  rw [total, hl, List.map_append, List.map_cons, List.sum_append, List.sum_cons]
  dsimp only
  omega

omit [DecidableEq K] in
theorem countP_eq_total (P : V → Bool) (m : AList fun _ : K => V) :
    m.entries.countP (fun e => P e.2) = total (fun v => if P v then 1 else 0) m := by
  unfold total
  induction m.entries with
  | nil => rfl
  | cons e es ih => rw [List.countP_cons, List.map_cons, List.sum_cons, ih, Nat.add_comm]

/-- **A sum to which only one key contributes.** -/
theorem sum_entries_key (g : V → ℕ) (m : AList fun _ : K => V) (k : K) :
    (m.entries.map fun e => if e.1 = k then g e.2 else 0).sum = (m.lookup k).elim 0 g := by
  have hzero : ∀ es : List (Sigma fun _ : K => V), (∀ e ∈ es, e.1 ≠ k) →
      (es.map fun e => if e.1 = k then g e.2 else 0).sum = 0 := by
    intro es hes
    rw [List.sum_eq_zero]
    intro n hn
    obtain ⟨e, he, rfl⟩ := List.mem_map.mp hn
    exact if_neg (hes e he)
  cases h : m.lookup k with
  | none =>
    refine hzero _ fun e he heq => ?_
    have hmem : e.1 ∈ m := AList.mem_keys.mpr (List.mem_map_of_mem he)
    exact AList.lookup_eq_none.mp h (heq ▸ hmem)
  | some v =>
    obtain ⟨l₁, l₂, hl, -, hl₁, hl₂⟩ := entries_split h
    rw [hl, List.map_append, List.map_cons, List.sum_append, List.sum_cons, hzero l₁ hl₁,
      hzero l₂ hl₂]
    simp

/-- Insert a list of entries one after the other. -/
def insertMany (key : I → K) (value : I → V) (xs : List I) (m : AList fun _ : K => V) :
    AList fun _ : K => V :=
  xs.foldl (fun m x => m.insert (key x) (value x)) m

theorem mem_insertMany {key : I → K} {value : I → V} {xs : List I} {m : AList fun _ : K => V}
    {e : Sigma fun _ : K => V} (h : e ∈ (insertMany key value xs m).entries) :
    (∃ x ∈ xs, e = ⟨key x, value x⟩) ∨ e ∈ m.entries := by
  induction xs generalizing m with
  | nil => exact .inr h
  | cons x xs ih =>
    rcases ih h with ⟨y, hy, rfl⟩ | h
    · exact .inl ⟨y, List.mem_cons_of_mem x hy, rfl⟩
    · rw [AList.entries_insert] at h
      rcases List.mem_cons.mp h with rfl | h
      · exact .inl ⟨x, List.mem_cons_self, rfl⟩
      · exact .inr ((List.kerase_sublist _ _).subset h)

/-- **The entries after a list of insertions** under new keys. -/
theorem entries_insertMany_perm (key : I → K) (value : I → V) {xs : List I}
    (hnodup : (xs.map key).Nodup) {m : AList fun _ : K => V} (hnew : ∀ x ∈ xs, key x ∉ m) :
    (insertMany key value xs m).entries.Perm
      (xs.map (fun x => (⟨key x, value x⟩ : Sigma fun _ : K => V)) ++ m.entries) := by
  induction xs generalizing m with
  | nil => exact List.Perm.refl _
  | cons x xs ih =>
    obtain ⟨hx, hnodup⟩ := List.nodup_cons.mp hnodup
    have hnew' : ∀ y ∈ xs, key y ∉ m.insert (key x) (value x) := by
      intro y hy hmem
      rcases (AList.mem_insert m).mp hmem with heq | hmem
      · exact hx (heq ▸ List.mem_map_of_mem hy)
      · exact hnew y (List.mem_cons_of_mem x hy) hmem
    refine (ih hnodup hnew').trans ?_
    rw [AList.entries_insert_of_notMem (hnew x List.mem_cons_self), List.map_cons,
      List.cons_append]
    exact List.perm_middle

end AssocLists
