import Mathlib.Data.List.Basic

/-!
# Runs of a transition system

A transition system is a function from actions and states to states: an action that is
refused leaves the state as it is. A run is a list of actions, and a condition on steps is
a predicate on an action together with the state it is taken in.
-/

namespace TransitionSystem

variable {σ α : Type} (step : α → σ → σ)

/-- The state after a list of actions. -/
def run (s : σ) (as : List α) : σ := as.foldl (fun s a => step a s) s

@[simp] theorem run_nil (s : σ) : run step s [] = s := rfl

@[simp] theorem run_cons (s : σ) (a : α) (as : List α) :
    run step s (a :: as) = run step (step a s) as := rfl

theorem run_append (s : σ) (as bs : List α) :
    run step s (as ++ bs) = run step (run step s as) bs :=
  List.foldl_append

/-- Every action of the run meets `P` in the state it is taken in. -/
def Along (P : σ → α → Prop) : σ → List α → Prop
  | _, [] => True
  | s, a :: as => P s a ∧ Along P (step a s) as

@[simp] theorem along_nil (P : σ → α → Prop) (s : σ) : Along step P s [] := trivial

@[simp] theorem along_cons {P : σ → α → Prop} {s : σ} {a : α} {as : List α} :
    Along step P s (a :: as) ↔ P s a ∧ Along step P (step a s) as := Iff.rfl

theorem along_append {P : σ → α → Prop} {s : σ} {as bs : List α} :
    Along step P s (as ++ bs) ↔ Along step P s as ∧ Along step P (run step s as) bs := by
  induction as generalizing s with
  | nil => simp
  | cons a as ih => simp [ih, and_assoc]

/-- `s` is the end of a run from `s₀` all of whose steps meet `P`. -/
def ReachableBy (P : σ → α → Prop) (s₀ s : σ) : Prop :=
  ∃ as, Along step P s₀ as ∧ run step s₀ as = s

/-- The states reached from `s₀` by any run. -/
def Reachable (s₀ s : σ) : Prop := ∃ as, run step s₀ as = s

/-- What the actions of a run put out, in order. -/
def trace {β : Type} (emit : σ → α → List β) : σ → List α → List β
  | _, [] => []
  | s, a :: as => emit s a ++ trace emit (step a s) as

theorem trace_append {β : Type} (emit : σ → α → List β) (s : σ) (as bs : List α) :
    trace step emit s (as ++ bs) = trace step emit s as ++ trace step emit (run step s as) bs := by
  induction as generalizing s with
  | nil => rfl
  | cons a as ih => simp [trace, ih]

variable {step} {P : σ → α → Prop} {s₀ s : σ}

theorem along_of_forall (h : ∀ s a, P s a) (s : σ) (as : List α) : Along step P s as := by
  induction as generalizing s with
  | nil => trivial
  | cons a as ih => exact ⟨h s a, ih _⟩

theorem along_true (s : σ) (as : List α) : Along step (fun _ _ => True) s as :=
  along_of_forall (fun _ _ => trivial) s as

theorem Reachable.reachableBy (h : Reachable step s₀ s) :
    ReachableBy step (fun _ _ => True) s₀ s := by
  obtain ⟨as, rfl⟩ := h
  exact ⟨as, along_true s₀ as, rfl⟩

theorem ReachableBy.reachable (h : ReachableBy step P s₀ s) : Reachable step s₀ s := by
  obtain ⟨as, -, rfl⟩ := h
  exact ⟨as, rfl⟩

/-- A property kept by every admitted step is kept by a run of admitted steps. -/
theorem run_invariant (I : σ → Prop) (keep : ∀ s a, I s → P s a → I (step a s))
    {as : List α} (hs : I s) (h : Along step P s as) : I (run step s as) := by
  induction as generalizing s with
  | nil => exact hs
  | cons a as ih => exact ih (keep s a hs h.1) h.2

/-- **Invariants**: what holds initially and is kept by every admitted step holds of every
state reached by admitted steps. -/
theorem ReachableBy.invariant (I : σ → Prop) (init : I s₀)
    (keep : ∀ s a, I s → P s a → I (step a s)) (h : ReachableBy step P s₀ s) : I s := by
  obtain ⟨as, has, rfl⟩ := h
  exact run_invariant I keep init has

/-- **Invariants** of unrestricted runs. -/
theorem Reachable.invariant (I : σ → Prop) (init : I s₀)
    (keep : ∀ s a, I s → I (step a s)) (h : Reachable step s₀ s) : I s :=
  h.reachableBy.invariant I init fun s a hs _ => keep s a hs

/-- A preorder that every admitted step from a state of `I` respects relates the two ends
of a run. -/
theorem run_rel (I : σ → Prop) (R : σ → σ → Prop) [Std.Refl R] [IsTrans σ R]
    (keep : ∀ s a, I s → P s a → I (step a s)) (rel : ∀ s a, I s → P s a → R s (step a s))
    {as : List α} (hs : I s) (h : Along step P s as) : R s (run step s as) := by
  induction as generalizing s with
  | nil => exact refl s
  | cons a as ih =>
    exact IsTrans.trans _ _ _ (rel s a hs h.1) (ih (keep s a hs h.1) h.2)

/-- **Invariants with history**: what holds of a state and of what has been put out so far, and
is kept by every admitted step, holds at the end of a run. -/
theorem trace_invariant {β : Type} {emit : σ → α → List β} (I : List β → σ → Prop)
    (keep : ∀ past s a, I past s → P s a → I (past ++ emit s a) (step a s))
    (past : List β) {as : List α} (hs : I past s) (h : Along step P s as) :
    I (past ++ trace step emit s as) (run step s as) := by
  induction as generalizing s past with
  | nil => simpa [trace] using hs
  | cons a as ih =>
    rw [trace, ← List.append_assoc]
    exact ih _ (keep past s a hs h.1) h.2

end TransitionSystem
