import Mathlib.Data.List.GetD
import Mathlib.Logic.Function.Basic
import Mathlib.Order.Nat

/-!
# Values recorded at numbered checkpoints

Checkpoints are numbered from one. The value at a checkpoint is not stored when the checkpoint is
made, but when the value is about to change for the first time after it.
-/

namespace Snapshots

/-- A value, the number of checkpoints so far, and what has been recorded at which of them. -/
structure Log (α : Type) where
  count : ℕ
  updates : List ℕ
  recorded : ℕ → Option α
  current : α

namespace Log

variable {α : Type} (l : Log α)

/-- Record the value at the last checkpoint, unless that has been done. -/
def record : Log α :=
  if l.count = 0 ∨ (l.recorded l.count).isSome then l
  else
    { l with
      updates := l.updates ++ [l.count]
      recorded := Function.update l.recorded l.count (some l.current) }

/-- The value has been recorded at the last checkpoint, if there is one. -/
def Recorded : Prop := l.count = 0 ∨ (l.recorded l.count).isSome

variable {l}

theorem record_of_recorded (h : l.Recorded) : l.record = l := if_pos h

theorem record_of_not_recorded (h : ¬ l.Recorded) : l.record =
    { l with
      updates := l.updates ++ [l.count]
      recorded := Function.update l.recorded l.count (some l.current) } := if_neg h

theorem recorded_record : l.record.Recorded := by
  by_cases h : l.Recorded
  · rwa [record_of_recorded h]
  · rw [record_of_not_recorded h]
    exact .inr (by simp)

end Log

end Snapshots
