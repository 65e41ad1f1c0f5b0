import Mathlib.Data.Set.Finite.List
import Polymesh.Primitives

/-!
# Restrictions to subsets

Permissions are restricted to subsets of an open set of elements: the whole of it, finitely many
elements, or all but finitely many (`primitives/src/subset.rs`). Their comparison is that of the
sets that they stand for, in a universe that no finite set exhausts.
-/

namespace Polymesh

inductive LatticeOrdering
  | less
  | equal
  | incomparable
  | greater
deriving DecidableEq, Repr

namespace SubsetRestriction

variable {α U : Type} [DecidableEq α]

/-- Everything except nothing is the whole set. -/
def normalize : SubsetRestriction α → SubsetRestriction α
  | except [] => whole
  | r => r

def cmpSame (a b : List α) : LatticeOrdering :=
  match decide (a ⊆ b), decide (b ⊆ a) with
  | true, true => .equal
  | true, false => .less
  | false, true => .greater
  | false, false => .incomparable

def cmpDiff (a b : List α) (n : LatticeOrdering) : LatticeOrdering :=
  if ∃ x ∈ a, x ∈ b then .incomparable else n

def latticeCmp (self other : SubsetRestriction α) : LatticeOrdering :=
  match self.normalize, other.normalize with
  | whole, whole => .equal
  | _, whole => .less
  | whole, _ => .greater
  | these a, these b => cmpSame a b
  | except a, except b => cmpSame b a
  | these a, except b => cmpDiff a b .less
  | except a, these b => cmpDiff a b .greater

def ge (self other : SubsetRestriction α) : Bool :=
  match self.latticeCmp other with
  | .greater | .equal => true
  | .less | .incomparable => false

def union : SubsetRestriction α → SubsetRestriction α → SubsetRestriction α
  | whole, _ | _, whole => whole
  | these l, these r => these (l ∪ r)
  | except l, except r => except (l ∩ r)
  | these l, except r | except r, these l => except (r.filter (· ∉ l))

/-! ## Sets -/

/-- The set that a restriction stands for, in a universe that has the elements in it. -/
def toSet (ι : α ↪ U) : SubsetRestriction α → Set U
  | whole => Set.univ
  | these es => ι '' {e | e ∈ es}
  | except es => (ι '' {e | e ∈ es})ᶜ

/-- The ordering that holds between two sets. -/
def Holds (A B : Set U) : LatticeOrdering → Prop
  | .less => A ⊆ B ∧ ¬ B ⊆ A
  | .equal => A = B
  | .incomparable => ¬ A ⊆ B ∧ ¬ B ⊆ A
  | .greater => B ⊆ A ∧ ¬ A ⊆ B

variable {ι : α ↪ U} {s t : List α}

theorem Holds.unique {A B : Set U} {o o' : LatticeOrdering} (h : Holds A B o)
    (h' : Holds A B o') : o = o' := by
  simp only [Holds, subset_antisymm_iff] at h h'
  cases o <;> cases o' <;> first | rfl | grind

omit [DecidableEq α] in
@[simp] theorem toSet_normalize (r : SubsetRestriction α) : toSet ι r.normalize = toSet ι r := by
  unfold normalize
  split
  · simp [toSet]
  · rfl

theorem holds_cmpSame : Holds (ι '' {e | e ∈ s}) (ι '' {e | e ∈ t}) (cmpSame s t) := by
  have himage (s t : List α) : ι '' {e | e ∈ s} ⊆ ι '' {e | e ∈ t} ↔ s ⊆ t :=
    Set.image_subset_image_iff ι.injective
  by_cases hs : s ⊆ t <;> by_cases ht : t ⊆ s <;>
    simp only [cmpSame, hs, ht, decide_true, decide_false, Holds,
      subset_antisymm_iff, himage, not_false_eq_true, and_self]

theorem Holds.compl {A B : Set U} {o : LatticeOrdering} (h : Holds B A o) : Holds Aᶜ Bᶜ o := by
  cases o <;> simpa [Holds, eq_comm] using h

omit [DecidableEq α] in
theorem image_subset_compl :
    ι '' {e | e ∈ s} ⊆ (ι '' {e | e ∈ t})ᶜ ↔ ¬ ∃ x ∈ s, x ∈ t := by
  rw [Set.subset_compl_iff_disjoint_right, Set.disjoint_image_iff ι.injective,
    ← not_iff_not, Set.not_disjoint_iff, not_not]
  rfl

variable [Infinite U]

theorem not_compl_subset (A : Set U) {B : Set U} (hA : A.Finite) (hB : B.Finite) : ¬ Aᶜ ⊆ B :=
  fun h => hA.infinite_compl (hB.subset h)

omit [DecidableEq α] in
theorem toSet_ne_univ (ι : α ↪ U) {r : SubsetRestriction α} (h : r.normalize ≠ whole) :
    toSet ι r ≠ Set.univ := by
  cases r with
  | whole => exact absurd rfl h
  | these es =>
    intro huniv
    refine not_compl_subset ∅ Set.finite_empty ((List.finite_toSet es).image ι) ?_
    simp only [← huniv, toSet, Set.compl_empty, subset_refl]
  | except es =>
    obtain - | ⟨e, es⟩ := es
    · exact absurd rfl h
    · intro huniv
      have he : ι e ∈ toSet ι (except (e :: es)) := huniv ▸ trivial
      exact he ⟨e, List.mem_cons_self, rfl⟩

/-- Neither finitely many elements nor all but finitely many of them include the other, unless
the two lists of elements are disjoint. -/
theorem holds_cmpDiff (ι : α ↪ U) (s t : List α) :
    Holds (ι '' {e | e ∈ s}) (ι '' {e | e ∈ t})ᶜ (cmpDiff s t .less) ∧
      Holds (ι '' {e | e ∈ s})ᶜ (ι '' {e | e ∈ t}) (cmpDiff s t .greater) := by
  have hfinite (s : List α) : (ι '' {e | e ∈ s}).Finite := (List.finite_toSet s).image ι
  have hst : ι '' {e | e ∈ s} ⊆ (ι '' {e | e ∈ t})ᶜ ↔ _ := image_subset_compl
  have hts := hst
  rw [Set.subset_compl_comm] at hts
  unfold cmpDiff
  split <;> rename_i hinter
  · exact ⟨⟨by simpa only [hst, not_not], not_compl_subset _ (hfinite t) (hfinite s)⟩,
      not_compl_subset _ (hfinite s) (hfinite t), by simpa only [hts, not_not]⟩
  · exact ⟨⟨hst.mpr hinter, not_compl_subset _ (hfinite t) (hfinite s)⟩,
      hts.mpr hinter, not_compl_subset _ (hfinite s) (hfinite t)⟩

/-- **The ordering that is computed holds between the sets.** -/
theorem holds_latticeCmp (ι : α ↪ U) (a b : SubsetRestriction α) :
    Holds (toSet ι a) (toSet ι b) (a.latticeCmp b) := by
  have ha := toSet_ne_univ ι (r := a)
  have hb := toSet_ne_univ ι (r := b)
  rw [← toSet_normalize a] at ha ⊢
  rw [← toSet_normalize b] at hb ⊢
  unfold latticeCmp
  -- the branches of the source, in its order: the whole set first
  split
  next ha' hb' => simp [ha', hb', toSet, Holds]
  next hb' hne => simpa [hb', toSet, Holds, Set.ssubset_univ_iff] using ha hne
  next ha' hne => simpa [ha', toSet, Holds, Set.ssubset_univ_iff] using hb hne
  next ha' hb' => simpa [ha', hb', toSet] using holds_cmpSame
  next ha' hb' => simpa [ha', hb', toSet] using holds_cmpSame.compl
  next ha' hb' => simpa [ha', hb', toSet] using (holds_cmpDiff ι _ _).1
  next ha' hb' => simpa [ha', hb', toSet] using (holds_cmpDiff ι _ _).2

theorem ge_iff (ι : α ↪ U) (a b : SubsetRestriction α) : a.ge b ↔ toSet ι b ⊆ toSet ι a := by
  have h := holds_latticeCmp ι a b
  unfold ge
  cases hcmp : a.latticeCmp b <;> rw [hcmp] at h <;>
    simp_all [Holds]

/-- A key's permission for one element is the comparison with that element alone, although the
elements may be finitely many. -/
theorem permits_eq_ge (r : SubsetRestriction α) (a : α) : r.permits a = r.ge (these [a]) := by
  rw [Bool.eq_iff_iff, ge_iff (.inl : α ↪ α ⊕ ℕ)]
  cases r <;> simp [permits, toSet]

omit [Infinite U] in
theorem toSet_union (ι : α ↪ U) (a b : SubsetRestriction α) :
    toSet ι (a.union b) = toSet ι a ∪ toSet ι b := by
  have hunion (l r : List α) : {e | e ∈ l ∪ r} = {e | e ∈ l} ∪ {e | e ∈ r} := by ext; simp
  have hinter (l r : List α) : {e | e ∈ l ∩ r} = {e | e ∈ l} ∩ {e | e ∈ r} := by ext; simp
  have hdiff (l r : List α) : {e | e ∈ r.filter (· ∉ l)} = {e | e ∈ r} \ {e | e ∈ l} := by
    ext
    simp
  cases a <;> cases b <;>
    simp only [union, toSet, Set.univ_union, Set.union_univ, hunion, hinter, hdiff,
      Set.image_union, Set.image_inter ι.injective, Set.image_sdiff ι.injective,
      Set.compl_inter, Set.compl_sdiff, Set.union_comm]

/-- **Restrictions are a faithful algebra of sets.** -/
theorem restrictions_faithful (ι : α ↪ U) (a b : SubsetRestriction α) :
    (∀ o, a.latticeCmp b = o ↔ Holds (toSet ι a) (toSet ι b) o) ∧
      (a.ge b ↔ toSet ι b ⊆ toSet ι a) ∧
      toSet ι (a.union b) = toSet ι a ∪ toSet ι b ∧
      ((a.union b).ge a ∧ (a.union b).ge b) ∧
      ∀ c : SubsetRestriction α, c.ge a → c.ge b → c.ge (a.union b) := by
  have hcmp := holds_latticeCmp ι a b
  refine ⟨fun o => ⟨fun h => h ▸ hcmp, hcmp.unique⟩, ge_iff ι a b, toSet_union ι a b, ?_, ?_⟩
  · simp [ge_iff ι, toSet_union]
  · intro c hca hcb
    rw [ge_iff ι] at hca hcb ⊢
    simpa [toSet_union] using ⟨hca, hcb⟩

theorem restrictions_faithful_numbers :
    (these [1]).latticeCmp (except [2]) = .less ↔
      Holds (toSet (.refl ℕ) (these [1])) (toSet (.refl ℕ) (except [2])) .less :=
  (restrictions_faithful (.refl ℕ) (these [1]) (except [2])).1 .less

end SubsetRestriction

end Polymesh
