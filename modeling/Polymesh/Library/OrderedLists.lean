import Mathlib.Data.List.Nodup
import Mathlib.Order.Lattice

/-!
# Ordered lists

A finite set that is iterated in order is the list of its elements, and a finite map the list of
its entries in the order of their keys. That the list is in order is part of the value.
-/

namespace OrderedLists

/-- A list that a relation orders. -/
structure OrderedList {α : Type} (r : α → α → Prop) where
  elems : List α
  ordered : elems.Pairwise r

namespace OrderedList

variable {α : Type} {r : α → α → Prop}

def empty (r : α → α → Prop) : OrderedList r := ⟨[], .nil⟩

/-- The elements that meet a test, in the same order. -/
def filter (p : α → Bool) (l : OrderedList r) : OrderedList r :=
  ⟨l.elems.filter p, l.ordered.filter p⟩

end OrderedList

/-- A finite map, as its entries in the order of their keys. -/
abbrev OrderedMap (K V : Type) [LT K] := OrderedList fun a b : K × V => a.1 < b.1

namespace OrderedMap

variable {K V : Type} [LinearOrder K]

def insert (k : K) (v : V) (m : OrderedMap K V) : OrderedMap K V where
  elems := m.elems.filter (·.1 < k) ++ (k, v) :: m.elems.filter (k < ·.1)
  ordered := by
    rw [List.pairwise_append]
    refine ⟨m.ordered.filter _, List.pairwise_cons.mpr ⟨?_, m.ordered.filter _⟩, ?_⟩
    · intro e he
      simpa using (List.mem_filter.mp he).2
    · intro e he e' he'
      have hlt : e.1 < k := by simpa using (List.mem_filter.mp he).2
      rcases List.mem_cons.mp he' with rfl | he'
      · exact hlt
      · exact hlt.trans (by simpa using (List.mem_filter.mp he').2)

def erase (k : K) (m : OrderedMap K V) : OrderedMap K V := m.filter (·.1 ≠ k)

def lookup (k : K) (m : OrderedMap K V) : Option V :=
  (m.elems.find? (·.1 = k)).map Prod.snd

theorem mem_insert {k : K} {v : V} {m : OrderedMap K V} {e : K × V} :
    e ∈ (insert k v m).elems ↔ e = (k, v) ∨ e ∈ m.elems ∧ e.1 ≠ k := by
  simp only [insert, List.mem_append, List.mem_cons, List.mem_filter, decide_eq_true_eq]
  constructor
  · rintro (⟨he, hlt⟩ | rfl | ⟨he, hlt⟩)
    · exact .inr ⟨he, hlt.ne⟩
    · exact .inl rfl
    · exact .inr ⟨he, hlt.ne'⟩
  · rintro (rfl | ⟨he, hne⟩)
    · exact .inr (.inl rfl)
    · rcases lt_or_gt_of_ne hne with hlt | hlt
      · exact .inl ⟨he, hlt⟩
      · exact .inr (.inr ⟨he, hlt⟩)

end OrderedMap

end OrderedLists
