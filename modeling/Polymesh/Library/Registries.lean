import Mathlib.Logic.Function.Basic

/-!
# Registries of names

A registry gives every name its key and every key its name, in two maps that are searched from
opposite sides, with a description of every key in a third. The maps have to be edited together.
-/

namespace Registries

open Function (update update_of_ne update_self)

structure Registry (N K S : Type) where
  nameToKey : N → Option K
  keyToName : K → Option N
  specs : K → Option S

namespace Registry

variable {N K S : Type}

def empty : Registry N K S := ⟨fun _ => none, fun _ => none, fun _ => none⟩

structure Coherent (r : Registry N K S) : Prop where
  inverse : ∀ name key, r.nameToKey name = some key ↔ r.keyToName key = some name
  specs : ∀ key, (r.specs key).isSome ↔ (r.keyToName key).isSome

theorem coherent_empty : (empty : Registry N K S).Coherent :=
  ⟨fun _ _ => ⟨nofun, nofun⟩, fun _ => Iff.rfl⟩

variable [DecidableEq N] [DecidableEq K] {r : Registry N K S} {name : N} {key : K}

def insert (name : N) (key : K) (spec : S) (r : Registry N K S) : Registry N K S where
  nameToKey := update r.nameToKey name (some key)
  keyToName := update r.keyToName key (some name)
  specs := update r.specs key (some spec)

def erase (name : N) (key : K) (r : Registry N K S) : Registry N K S where
  nameToKey := update r.nameToKey name none
  keyToName := update r.keyToName key none
  specs := update r.specs key none

theorem insert_keyToName_of_ne {k : K} (h : k ≠ key) (name : N) (spec : S) :
    (r.insert name key spec).keyToName k = r.keyToName k :=
  update_of_ne h _ _

theorem erase_keyToName_of_ne {k : K} (h : k ≠ key) (name : N) :
    (r.erase name key).keyToName k = r.keyToName k :=
  update_of_ne h _ _

theorem erase_keyToName_self (name : N) (key : K) : (r.erase name key).keyToName key = none :=
  update_self ..

theorem Coherent.insert (h : r.Coherent) (hname : r.nameToKey name = none)
    (hkey : r.keyToName key = none) (spec : S) : (r.insert name key spec).Coherent where
  inverse n k := by
    simp only [Registry.insert]
    by_cases hn : n = name <;> by_cases hk : k = key
    · simp [hn, hk]
    · -- the name has one key, and no other key has the name
      have hother : r.keyToName k ≠ some name := by
        intro hk'
        rw [(h.inverse name k).mpr hk'] at hname
        cases hname
      simp only [hn, update_self, update_of_ne hk, Option.some.injEq]
      exact ⟨fun heq => absurd heq.symm hk, fun hk' => absurd hk' hother⟩
    · have hother : r.nameToKey n ≠ some key := by
        intro hn'
        rw [(h.inverse n key).mp hn'] at hkey
        cases hkey
      simp only [hk, update_self, update_of_ne hn, Option.some.injEq]
      exact ⟨fun hn' => absurd hn' hother, fun heq => absurd heq.symm hn⟩
    · simp only [update_of_ne hn, update_of_ne hk]
      exact h.inverse n k
  specs k := by
    simp only [Registry.insert]
    by_cases hk : k = key
    · simp [hk]
    · simp only [update_of_ne hk]
      exact h.specs k

theorem Coherent.erase (h : r.Coherent) (hkey : r.keyToName key = some name) :
    (r.erase name key).Coherent where
  inverse n k := by
    have hname := (h.inverse name key).mpr hkey
    simp only [Registry.erase]
    by_cases hn : n = name <;> by_cases hk : k = key
    · simp [hn, hk]
    · simp only [hn, update_self, update_of_ne hk]
      refine ⟨nofun, fun hk' => ?_⟩
      rw [(h.inverse name k).mpr hk', Option.some.injEq] at hname
      exact absurd hname hk
    · simp only [hk, update_self, update_of_ne hn]
      refine ⟨fun hn' => ?_, nofun⟩
      rw [(h.inverse n key).mp hn', Option.some.injEq] at hkey
      exact absurd hkey hn
    · simp only [update_of_ne hn, update_of_ne hk]
      exact h.inverse n k
  specs k := by
    simp only [Registry.erase]
    by_cases hk : k = key
    · simp [hk]
    · simp only [update_of_ne hk]
      exact h.specs k

end Registry

end Registries
