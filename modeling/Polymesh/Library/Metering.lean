import Mathlib.Algebra.BigOperators.Group.List.Basic
import Polymesh.Library.Transaction

/-!
# Computations on a budget

A store may hold a meter that refuses what goes beyond its limit. A computation is within a weight
if it succeeds whenever the meter has room for that weight, and leaves the room that there was
beyond it.
-/

namespace Transactional.Tx

variable {σ ε α β B : Type} [AddCommMonoid B]

/-- With room for `w` and more, `x` succeeds with a value of `P` and leaves room for the rest. -/
def Within (room : B → σ → Prop) (w : B) (x : Tx σ ε α) (P : α → Prop) : Prop :=
  ∀ v s, room (w + v) s → ∃ a s', x s = (.ok a, s') ∧ P a ∧ room v s'

namespace Within

variable {room : B → σ → Prop} {w w' : B} {x : Tx σ ε α} {P Q : α → Prop} {R : β → Prop}

theorem pure {a : α} (ha : P a) : Within room 0 (Pure.pure a : Tx σ ε α) P := by
  intro v s hs
  rw [zero_add] at hs
  exact ⟨a, s, rfl, ha, hs⟩

theorem bind {f : α → Tx σ ε β} (hx : Within room w x P) (hf : ∀ a, P a → Within room w' (f a) R) :
    Within room (w + w') (x >>= f) R := by
  intro v s hs
  rw [add_assoc] at hs
  obtain ⟨a, s₁, hxs, ha, hs₁⟩ := hx _ s hs
  obtain ⟨b, s₂, hfs, hb, hs₂⟩ := hf a ha _ s₁ hs₁
  exact ⟨b, s₂, bind_ok.mpr ⟨a, s₁, hxs, hfs⟩, hb, hs₂⟩

theorem mono (hx : Within room w x P) (h : ∀ a, P a → Q a) : Within room w x Q := by
  intro v s hs
  obtain ⟨a, s', hxs, ha, hs'⟩ := hx v s hs
  exact ⟨a, s', hxs, h a ha, hs'⟩

theorem weaken (hroom : ∀ w v s, room (w + v) s → room v s) (hx : Within room w x P) (w' : B) :
    Within room (w + w') x P := by
  intro v s hs
  rw [add_right_comm, add_comm] at hs
  exact hx v s (hroom _ _ s hs)

/-- **The budget of a loop**: an invariant of the items that are done and of the value so far. -/
theorem foldlM {f : β → α → Tx σ ε β} (weight : α → B) (I : List α → β → Prop)
    (round : ∀ done x b, I done b → Within room (weight x) (f b x) (I (done ++ [x])))
    {xs : List α} (done : List α) {b : β} (hb : I done b) :
    Within room (xs.map weight).sum (xs.foldlM f b) (I (done ++ xs)) := by
  induction xs generalizing done b with
  | nil =>
    rw [List.append_nil]
    exact pure hb
  | cons x xs ih =>
    rw [List.map_cons, List.sum_cons, List.foldlM_cons]
    refine bind (round done x b hb) fun b' hb' => ?_
    rw [List.append_cons]
    exact ih _ hb'

end Within

end Transactional.Tx
