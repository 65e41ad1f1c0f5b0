import Mathlib.Logic.Basic
import Mathlib.Data.List.Basic

/-!
# Transactional storage computations

A storage computation reads and writes a store and either returns a value or fails. The
writes it made before failing stay in the store until an enclosing transaction rolls them
back, so the store left behind by a failure is part of the result.
-/

namespace Transactional

/-- A computation over the store `σ`: its outcome and the store it leaves. -/
def Tx (σ ε α : Type) : Type := σ → Except ε α × σ

/-- Run a computation only under a condition. -/
def onlyIf {m : Type → Type} [Monad m] (c : Prop) [Decidable c] (x : m Unit) : m Unit :=
  if c then x else pure ()

section Outcome

variable {ε α β : Type}

/-- Succeed exactly when the condition holds. -/
def ensure (c : Prop) [Decidable c] (e : ε) : Except ε Unit :=
  if c then .ok () else .error e

/-- The value of an option, or the given error. -/
def okOr (o : Option α) (e : ε) : Except ε α :=
  match o with
  | some a => .ok a
  | none => .error e

@[simp] theorem ensure_eq_ok {c : Prop} [Decidable c] {e : ε} {u : Unit} :
    ensure c e = .ok u ↔ c := by
  by_cases h : c <;> simp [ensure, h]

@[simp] theorem okOr_eq_ok {o : Option α} {e : ε} {a : α} :
    okOr o e = .ok a ↔ o = some a := by
  cases o <;> simp [okOr]

@[simp] theorem except_bind_eq_ok {x : Except ε α} {f : α → Except ε β} {b : β} :
    x >>= f = .ok b ↔ ∃ a, x = .ok a ∧ f a = .ok b := by
  cases x <;> simp [bind, Except.bind]

@[simp] theorem except_map_eq_ok {x : Except ε α} {f : α → β} {b : β} :
    f <$> x = .ok b ↔ ∃ a, x = .ok a ∧ f a = b := by
  cases x <;> simp [Functor.map, Except.map]

@[simp] theorem except_pure_eq_ok {a b : α} :
    (pure a : Except ε α) = .ok b ↔ a = b := by
  simp [pure, Except.pure]

@[simp] theorem except_onlyIf_eq_ok {c : Prop} [Decidable c] {x : Except ε Unit} {r : Unit} :
    onlyIf c x = .ok r ↔ (c → x = .ok ()) := by
  by_cases h : c <;> simp [onlyIf, h]

theorem except_forM_eq_ok {xs : List α} {f : α → Except ε Unit}
    {r : Unit} : forM xs f = .ok r ↔ ∀ x ∈ xs, f x = .ok () := by
  induction xs with
  | nil => simp
  | cons x xs ih =>
    rw [List.forM_cons, except_bind_eq_ok, List.forall_mem_cons, ← ih]
    exact ⟨fun ⟨_, hx, hxs⟩ => ⟨hx, hxs⟩, fun ⟨hx, hxs⟩ => ⟨(), hx, hxs⟩⟩

/-- **The rule of a fold that may fail**: an invariant indexed by the items still to come. -/
theorem except_foldlM_rule {f : β → α → Except ε β} (I : List α → β → Prop)
    (step : ∀ x xs b b', I (x :: xs) b → f b x = .ok b' → I xs b') {xs : List α} {b b' : β}
    (hb : I xs b) (h : xs.foldlM f b = .ok b') : I [] b' := by
  induction xs generalizing b with
  | nil =>
    rw [List.foldlM_nil, except_pure_eq_ok] at h
    exact h ▸ hb
  | cons x xs ih =>
    rw [List.foldlM_cons, except_bind_eq_ok] at h
    obtain ⟨b₁, hx, hxs⟩ := h
    exact ih (step x xs b b₁ hb hx) hxs

@[simp] theorem ensure_eq_error {c : Prop} [Decidable c] {e e' : ε} :
    ensure c e = .error e' ↔ ¬ c ∧ e = e' := by
  by_cases h : c <;> simp [ensure, h]

@[simp] theorem except_bind_eq_error {x : Except ε α} {f : α → Except ε β} {e : ε} :
    x >>= f = .error e ↔ x = .error e ∨ ∃ a, x = .ok a ∧ f a = .error e := by
  cases x <;> simp [bind, Except.bind]

theorem except_forM_eq_error {xs : List α} {f : α → Except ε Unit} {e : ε}
    (h : forM xs f = .error e) : ∃ x ∈ xs, f x = .error e := by
  induction xs with
  | nil => cases h
  | cons x xs ih =>
    rw [List.forM_cons, except_bind_eq_error] at h
    rcases h with h | ⟨_, -, h⟩
    · exact ⟨x, List.mem_cons_self, h⟩
    · obtain ⟨y, hy, h⟩ := ih h
      exact ⟨y, List.mem_cons_of_mem x hy, h⟩

end Outcome

namespace Tx

variable {σ ε α β : Type}

instance : Monad (Tx σ ε) where
  pure a := fun s => (.ok a, s)
  bind x f := fun s =>
    match x s with
    | (.ok a, s') => f a s'
    | (.error e, s') => (.error e, s')

/-- Evaluate a check or a query against the store, which stays as it is. -/
def read (q : σ → Except ε α) : Tx σ ε α := fun s => (q s, s)

/-- Read the store. -/
def get : Tx σ ε σ := fun s => (.ok s, s)

/-- Write the store. -/
def modify (g : σ → σ) : Tx σ ε Unit := fun s => (.ok (), g s)

/-- Fail, leaving the store as it is. -/
def fail (e : ε) : Tx σ ε α := fun s => (.error e, s)

/-- Fail unless the condition holds. -/
def ensure (c : Prop) [Decidable c] (e : ε) : Tx σ ε Unit :=
  fun s => (Transactional.ensure c e, s)

/-- Commit the writes on success, roll them back on failure. -/
def transaction (x : Tx σ ε α) : Tx σ ε α := fun s =>
  match x s with
  | (.ok a, s') => (.ok a, s')
  | (.error e, _) => (.error e, s)

/-- Hand the outcome to the caller; the writes stay in either case. -/
def attempt (x : Tx σ ε α) : Tx σ ε (Except ε α) := fun s =>
  let r := x s
  (.ok r.1, r.2)

/-- Report every failure as the given error. -/
def orError (x : Tx σ ε α) (e : ε) : Tx σ ε α := fun s =>
  match x s with
  | (.ok a, s') => (.ok a, s')
  | (.error _, s') => (.error e, s')

/-! ## Successful runs, taken apart -/

section Runs

variable {x : Tx σ ε α} {f : α → Tx σ ε β} {q : σ → Except ε α} {g : σ → σ} {c : Prop} [Decidable c]
  {s s' : σ} {a : α} {e e' : ε} {u : Unit}

@[simp] theorem pure_ok {a b : α} : (pure a : Tx σ ε α) s = (.ok b, s') ↔ a = b ∧ s = s' := by
  change (Except.ok a, s) = _ ↔ _
  simp

@[simp] theorem bind_ok {b : β} :
    (x >>= f) s = (.ok b, s') ↔ ∃ a s₁, x s = (.ok a, s₁) ∧ f a s₁ = (.ok b, s') := by
  change (match x s with
    | (.ok a, s') => f a s'
    | (.error e, s') => (.error e, s')) = _ ↔ _
  rcases x s with ⟨_ | a, s₁⟩ <;> simp

@[simp] theorem read_ok : read q s = (.ok a, s') ↔ q s = .ok a ∧ s = s' := by
  simp [read]

@[simp] theorem get_ok {s s' t : σ} : (get : Tx σ ε σ) s = (.ok t, s') ↔ s = t ∧ s = s' := by
  simp [get]

@[simp] theorem modify_ok : (modify g : Tx σ ε Unit) s = (.ok u, s') ↔ g s = s' := by
  simp [modify]

@[simp] theorem fail_ok : ¬ (fail e : Tx σ ε α) s = (.ok a, s') := by
  simp [fail]

@[simp] theorem ensure_ok : (ensure c e : Tx σ ε Unit) s = (.ok u, s') ↔ c ∧ s = s' := by
  simp [ensure]

/-- How the commands of a function succeed, first or last, as one set of rules. -/
theorem run_ok :
    (∀ {α β : Type} (q : σ → Except ε α) (f : α → Tx σ ε β) s s' b,
      (read q >>= f) s = (.ok b, s') ↔ ∃ a, q s = .ok a ∧ f a s = (.ok b, s')) ∧
    (∀ {β : Type} (f : σ → Tx σ ε β) s s' b, (get >>= f) s = (.ok b, s') ↔ f s s = (.ok b, s')) ∧
    (∀ {β : Type} g (f : Unit → Tx σ ε β) s s' b,
      (modify g >>= f) s = (.ok b, s') ↔ f () (g s) = (.ok b, s')) ∧
    (∀ {β : Type} (c : Prop) [Decidable c] (e : ε) (f : Unit → Tx σ ε β) s s' b,
      (ensure c e >>= f) s = (.ok b, s') ↔ c ∧ f () s = (.ok b, s')) ∧
    (∀ {α : Type} (q : σ → Except ε α) s s' a, read q s = (.ok a, s') ↔ q s = .ok a ∧ s = s') ∧
    (∀ s s' t, (get : Tx σ ε σ) s = (.ok t, s') ↔ s = t ∧ s = s') ∧
    (∀ g s s' u, (modify g : Tx σ ε Unit) s = (.ok u, s') ↔ g s = s') ∧
    (∀ {α : Type} (a b : α) s s', (pure a : Tx σ ε α) s = (.ok b, s') ↔ a = b ∧ s = s') ∧
    ∀ (c : Prop) [Decidable c] (e : ε) (s s' : σ) u,
      ensure c e s = (.ok u, s') ↔ c ∧ s = s' := by
  have hunit (p : Unit → Prop) : (∃ u, p u) ↔ p () := ⟨fun ⟨_, h⟩ => h, fun h => ⟨_, h⟩⟩
  simp [hunit, and_assoc]

@[simp] theorem transaction_ok : transaction x s = (.ok a, s') ↔ x s = (.ok a, s') := by
  unfold transaction
  rcases x s with ⟨_ | a, s₁⟩ <;> simp

/-- **A failed transaction changes nothing.** -/
theorem transaction_error
    (h : transaction x s = (.error e, s')) : s' = s := by
  unfold transaction at h
  rcases hx : x s with ⟨_ | a, s₁⟩ <;> simp_all

@[simp] theorem attempt_ok {r : Except ε α} : attempt x s = (.ok r, s') ↔ x s = (r, s') := by
  simp [attempt, Prod.ext_iff]

@[simp] theorem orError_ok : orError x e s = (.ok a, s') ↔ x s = (.ok a, s') := by
  unfold orError
  rcases x s with ⟨_ | a, s₁⟩ <;> simp

theorem onlyIf_ok {x : Tx σ ε Unit} :
    onlyIf c x s = (.ok u, s') ↔ (c ∧ x s = (.ok (), s')) ∨ (¬ c ∧ s = s') := by
  by_cases h : c <;> simp [onlyIf, h]

@[simp] theorem onlyIf_read_ok {q : σ → Except ε Unit}
    : onlyIf c (read q) s = (.ok u, s') ↔ (c → q s = .ok ()) ∧ s = s' := by
  by_cases h : c <;> simp [onlyIf, h]

@[simp] theorem onlyIf_modify_ok :
    onlyIf c (modify g : Tx σ ε Unit) s = (.ok u, s') ↔ (if c then g s else s) = s' := by
  by_cases h : c <;> simp [onlyIf, h]

/-! ## Failed runs, taken apart -/

@[simp] theorem bind_error :
    (x >>= f) s = (.error e, s') ↔
      x s = (.error e, s') ∨ ∃ a s₁, x s = (.ok a, s₁) ∧ f a s₁ = (.error e, s') := by
  change (match x s with
    | (.ok a, s') => f a s'
    | (.error e, s') => (.error e, s')) = _ ↔ _
  rcases x s with ⟨_ | a, s₁⟩ <;> simp

@[simp] theorem read_error : read q s = (.error e, s') ↔ q s = .error e ∧ s = s' := by
  simp [read]

@[simp] theorem get_error : ¬ (get : Tx σ ε σ) s = (.error e, s') := by
  simp [get]

@[simp] theorem ensure_error :
    (ensure c e : Tx σ ε Unit) s = (.error e', s') ↔ ¬ c ∧ e = e' ∧ s = s' := by
  simp [ensure, and_assoc]

@[simp] theorem orError_error :
    orError x e s = (.error e', s') ↔ e = e' ∧ ∃ e₁, x s = (.error e₁, s') := by
  unfold orError
  rcases x s with ⟨_ | a, s₁⟩ <;> simp

/-! ## Loops -/

@[simp] theorem forM_nil_ok {f : α → Tx σ ε Unit} : (forM [] f) s = (.ok u, s') ↔ s = s' := by
  simp

@[simp] theorem forM_cons_ok {f : α → Tx σ ε Unit} {x : α} {xs : List α}
    :
    (forM (x :: xs) f) s = (.ok u, s') ↔
      ∃ s₁, f x s = (.ok (), s₁) ∧ (forM xs f) s₁ = (.ok u, s') := by
  rw [List.forM_cons, bind_ok]
  exact ⟨fun ⟨_, h⟩ => h, fun h => ⟨(), h⟩⟩

theorem forM_ok_foldl {f : α → Tx σ ε Unit} {g : σ → α → σ}
    (body : ∀ x s s', f x s = (.ok (), s') → s' = g s x)
    {xs : List α} (h : (forM xs f) s = (.ok u, s')) :
    s' = xs.foldl g s := by
  induction xs generalizing s with
  | nil => exact (forM_nil_ok.mp h).symm
  | cons x xs ih =>
    obtain ⟨s₁, hx, hxs⟩ := forM_cons_ok.mp h
    rw [List.foldl_cons, ← body x s s₁ hx]
    exact ih hxs

end Runs

/-! ## Preorders between the stores of a successful run -/

/-- Every successful run of `x` relates the store before to the store after by `R`. -/
def Respects (R : σ → σ → Prop) (x : Tx σ ε α) : Prop :=
  ∀ ⦃s a s'⦄, x s = (.ok a, s') → R s s'

namespace Respects

variable {R : σ → σ → Prop}

theorem pure [Std.Refl R] (a : α) : Respects R (Pure.pure a : Tx σ ε α) := by
  intro s b s' h
  rw [pure_ok] at h
  exact h.2 ▸ refl s

theorem read [Std.Refl R] (q : σ → Except ε α) : Respects R (Tx.read q) := by
  intro s b s' h
  rw [read_ok] at h
  exact h.2 ▸ refl s

theorem get [Std.Refl R] : Respects R (Tx.get : Tx σ ε σ) := by
  intro s b s' h
  rw [get_ok] at h
  exact h.2 ▸ refl s

theorem ensure [Std.Refl R] (c : Prop) [Decidable c] (e : ε) :
    Respects R (Tx.ensure c e : Tx σ ε Unit) := by
  intro s b s' h
  rw [ensure_ok] at h
  exact h.2 ▸ refl s

theorem fail (e : ε) : Respects R (Tx.fail e : Tx σ ε α) :=
  fun _ _ _ h => absurd h fail_ok

theorem modify {g : σ → σ} (h : ∀ s, R s (g s)) :
    Respects R (Tx.modify g : Tx σ ε Unit) := by
  intro s b s' hs
  rw [modify_ok] at hs
  exact hs ▸ h s

theorem bind [IsTrans σ R] {x : Tx σ ε α} {f : α → Tx σ ε β} (hx : Respects R x)
    (hf : ∀ a, Respects R (f a)) : Respects R (x >>= f) := by
  intro s b s' h
  obtain ⟨a, s₁, h₁, h₂⟩ := bind_ok.mp h
  exact IsTrans.trans _ _ _ (hx h₁) (hf a h₂)

theorem read_bind [Std.Refl R] [IsTrans σ R] {q : σ → Except ε α} {f : α → Tx σ ε β}
    (hf : ∀ a, Respects R (f a)) : Respects R (Tx.read q >>= f) :=
  (read q).bind hf

theorem ensure_bind {c : Prop} [Decidable c] {e : ε} {f : Unit → Tx σ ε β}
    (hf : c → Respects R (f ())) : Respects R (Tx.ensure c e >>= f) := by
  intro s b s' h
  obtain ⟨_, _, hensure, h⟩ := bind_ok.mp h
  obtain ⟨hc, rfl⟩ := ensure_ok.mp hensure
  exact hf hc h

theorem transaction {x : Tx σ ε α} (hx : Respects R x) : Respects R (Tx.transaction x) :=
  fun _ _ _ h => hx (transaction_ok.mp h)

/-- A transaction whose outcome is handed to the caller has done all or nothing. -/
theorem attempt_transaction [Std.Refl R] {x : Tx σ ε α} (hx : Respects R x) :
    Respects R (Tx.attempt (Tx.transaction x)) := by
  intro s r s' h
  rw [attempt_ok] at h
  cases r with
  | ok a => exact hx (transaction_ok.mp h)
  | error e =>
    rw [transaction_error h]
    exact refl s

theorem ite {c : Prop} [Decidable c] {x y : Tx σ ε α} (hx : Respects R x)
    (hy : Respects R y) : Respects R (if c then x else y) := by
  split
  · exact hx
  · exact hy

theorem onlyIf [Std.Refl R] {c : Prop} [Decidable c] {x : Tx σ ε Unit} (hx : Respects R x) :
    Respects R (Transactional.onlyIf c x) :=
  ite hx (pure ())

theorem forM [Std.Refl R] [IsTrans σ R] {f : α → Tx σ ε Unit} {xs : List α}
    (hf : ∀ x ∈ xs, Respects R (f x)) : Respects R (forM xs f) := by
  induction xs with
  | nil =>
    intro s b s' h
    rw [forM_nil_ok] at h
    exact h ▸ refl s
  | cons x xs ih =>
    intro s b s' h
    obtain ⟨s₁, h₁, h₂⟩ := forM_cons_ok.mp h
    exact IsTrans.trans _ _ _ (hf x List.mem_cons_self h₁)
      (ih (fun y hy => hf y (List.mem_cons_of_mem x hy)) h₂)

end Respects

/-- What holds before holds after. -/
def Preserves (I : σ → Prop) (s s' : σ) : Prop := I s → I s'

instance {I : σ → Prop} : Std.Refl (Preserves I) := ⟨fun _ => id⟩

instance {I : σ → Prop} : IsTrans σ (Preserves I) := ⟨fun _ _ _ h₁ h₂ hs => h₂ (h₁ hs)⟩

/-- `R` holds from states with the invariant `I`, which it keeps. -/
def Keeping (I : σ → Prop) (R : σ → σ → Prop) (s s' : σ) : Prop := I s → I s' ∧ R s s'

instance {I : σ → Prop} {R : σ → σ → Prop} [Std.Refl R] : Std.Refl (Keeping I R) :=
  ⟨fun s hs => ⟨hs, refl s⟩⟩

instance {I : σ → Prop} {R : σ → σ → Prop} [IsTrans σ R] : IsTrans σ (Keeping I R) where
  trans _ _ _ h₁ h₂ hs :=
    have ⟨hs₁, hR₁⟩ := h₁ hs
    have ⟨hs₂, hR₂⟩ := h₂ hs₁
    ⟨hs₂, IsTrans.trans _ _ _ hR₁ hR₂⟩

/-! ## Computations that fail without a trace -/

/-- Every failed run of `x` leaves the store as it was. -/
def Atomic (x : Tx σ ε α) : Prop := ∀ ⦃s e s'⦄, x s = (.error e, s') → s' = s

namespace Atomic

theorem read_bind {q : σ → Except ε α} {f : α → Tx σ ε β} (h : ∀ a, Atomic (f a)) :
    Atomic (Tx.read q >>= f) := by
  intro s e s' hs
  change (match (q s, s) with
    | (.ok a, s') => f a s'
    | (.error e, s') => (.error e, s')) = _ at hs
  rcases hq : q s with e' | a
  · simp_all
  · rw [hq] at hs
    exact h a hs

theorem get_bind {f : σ → Tx σ ε β} (h : ∀ a, Atomic (f a)) : Atomic (Tx.get >>= f) :=
  read_bind (q := fun s => .ok s) h

theorem ensure_bind {c : Prop} [Decidable c] {e : ε} {f : Unit → Tx σ ε β}
    (h : Atomic (f ())) : Atomic (Tx.ensure c e >>= f) :=
  read_bind (q := fun _ => Transactional.ensure c e) fun _ => h

theorem modify (g : σ → σ) : Atomic (Tx.modify g : Tx σ ε Unit) := by
  intro s e s' h
  simp [Tx.modify] at h

theorem fail (e : ε) : Atomic (Tx.fail e : Tx σ ε α) := by
  intro s e' s' h
  simp only [Tx.fail, Prod.mk.injEq] at h
  exact h.2.symm

theorem transaction (x : Tx σ ε α) : Atomic (Tx.transaction x) :=
  fun _ _ _ => transaction_error

theorem orError {x : Tx σ ε α} {e : ε} (h : Atomic x) : Atomic (Tx.orError x e) := by
  intro s e' s' hs
  unfold Tx.orError at hs
  rcases hx : x s with ⟨e₁ | a, s₁⟩
  · rw [hx] at hs
    cases hs
    exact h hx
  · rw [hx] at hs
    cases hs

theorem run_cases {x : Tx σ ε α} (h : Atomic x) (s : σ) :
    (∃ a, x s = (.ok a, (x s).2)) ∨ ∃ e, x s = (.error e, s) := by
  rcases hx : x s with ⟨e | a, s₁⟩
  · exact .inr ⟨e, by rw [h hx]⟩
  · exact .inl ⟨a, rfl⟩

theorem rel_run {R : σ → σ → Prop} [Std.Refl R] {x : Tx σ ε α} (h : Atomic x)
    (hR : Respects R x) (s : σ) : R s (x s).2 := by
  rcases h.run_cases s with ⟨a, hs⟩ | ⟨e, hs⟩
  · exact hR hs
  · rw [hs]
    exact refl s

end Atomic

/-! ## The errors of a computation -/

/-- Every failed run of `x` ends with an error of `E`. -/
def FailsWith (E : ε → Prop) (x : Tx σ ε α) : Prop := ∀ ⦃s e s'⦄, x s = (.error e, s') → E e

namespace FailsWith

variable {E : ε → Prop}

theorem pure (a : α) : FailsWith E (Pure.pure a : Tx σ ε α) :=
  fun _ _ _ h => nomatch h

theorem get : FailsWith E (Tx.get : Tx σ ε σ) :=
  fun _ _ _ h => nomatch h

theorem modify (g : σ → σ) : FailsWith E (Tx.modify g : Tx σ ε Unit) :=
  fun _ _ _ h => nomatch h

theorem attempt (x : Tx σ ε α) : FailsWith E (Tx.attempt x) :=
  fun _ _ _ h => nomatch h

theorem read {q : σ → Except ε α} (hq : ∀ s e, q s = .error e → E e) :
    FailsWith E (Tx.read q) := by
  intro s e s' h
  exact hq s e (read_error.mp h).1

theorem ensure {c : Prop} [Decidable c] {e : ε} (he : E e) :
    FailsWith E (Tx.ensure c e : Tx σ ε Unit) := by
  intro s e' s' h
  obtain ⟨-, rfl, -⟩ := ensure_error.mp h
  exact he

theorem bind {x : Tx σ ε α} {f : α → Tx σ ε β} (hx : FailsWith E x)
    (hf : ∀ a, FailsWith E (f a)) : FailsWith E (x >>= f) := by
  intro s e s' h
  rcases bind_error.mp h with h | ⟨a, s₁, -, h⟩
  · exact hx h
  · exact hf a h

theorem forM {f : α → Tx σ ε Unit} (hf : ∀ x, FailsWith E (f x)) (xs : List α) :
    FailsWith E (forM xs f) := by
  induction xs with
  | nil => exact pure ()
  | cons x xs ih => exact (hf x).bind fun _ => ih

theorem onlyIf {c : Prop} [Decidable c] {x : Tx σ ε Unit} (hx : FailsWith E x) :
    FailsWith E (Transactional.onlyIf c x) := by
  unfold Transactional.onlyIf
  split_ifs
  · exact hx
  · exact pure ()

end FailsWith

end Tx

end Transactional
