import Polymesh.Library.Transaction

/-!
# How a computation ends

`Ends x s Q E` says of one run that it ends with `Q` if it succeeds, and with an error of `E` if it
fails. A computation is taken apart from its first command on: what a check has let through is known
to the commands after it.
-/

namespace Transactional

variable {σ ε α β : Type}

/-! ## Checks -/

/-- A check fails with an error of `E` only. -/
def Fails (E : ε → Prop) (q : Except ε α) : Prop := ∀ e, q = .error e → E e

namespace Fails

variable {E : ε → Prop}

theorem ok (a : α) : Fails E (.ok a) := fun _ h => nomatch h

theorem error {e : ε} (he : E e) : Fails E (.error e : Except ε α) := by
  intro e' h
  cases h
  exact he

theorem ensure {c : Prop} [Decidable c] {e : ε} (he : E e) : Fails E (Transactional.ensure c e) := by
  intro e' h
  obtain ⟨-, rfl⟩ := ensure_eq_error.mp h
  exact he

theorem okOr {o : Option α} {e : ε} (he : E e) : Fails E (Transactional.okOr o e) := by
  cases o with
  | none => exact error he
  | some a => exact ok a

theorem bind {q : Except ε α} {f : α → Except ε β} (hq : Fails E q) (hf : ∀ a, Fails E (f a)) :
    Fails E (q >>= f) := by
  intro e h
  rcases except_bind_eq_error.mp h with h | ⟨a, -, h⟩
  · exact hq e h
  · exact hf a e h

theorem foldlM {f : β → α → Except ε β} (hf : ∀ b a, Fails E (f b a)) (as : List α) (b : β) :
    Fails E (as.foldlM f b) := by
  induction as generalizing b with
  | nil => exact ok b
  | cons a as ih =>
    rw [List.foldlM_cons]
    exact bind (hf b a) ih

end Fails

/-! ## Runs -/

namespace Tx

/-- The run of `x` from `s` succeeds with `Q`, or fails with an error of `E`. -/
def Ends (x : Tx σ ε α) (s : σ) (Q : α → σ → Prop) (E : ε → Prop) : Prop :=
  (∀ a s', x s = (.ok a, s') → Q a s') ∧ ∀ e s', x s = (.error e, s') → E e

namespace Ends

variable {x : Tx σ ε α} {f : α → Tx σ ε β} {s s' : σ} {a : α} {Q : β → σ → Prop}
  {R : α → σ → Prop} {E : ε → Prop}

theorem of_ok (h : x s = (.ok a, s')) (hR : R a s') : Ends x s R E := by
  refine ⟨fun b t ht => ?_, fun e t ht => ?_⟩
  · rw [h] at ht
    cases ht
    exact hR
  · rw [h] at ht
    cases ht

theorem mono {R' : α → σ → Prop} (h : Ends x s R E) (hR : ∀ a s', R a s' → R' a s') :
    Ends x s R' E :=
  ⟨fun a t ht => hR a t (h.1 a t ht), h.2⟩

theorem bind (hx : Ends x s R E) (hf : ∀ a s', R a s' → Ends (f a) s' Q E) :
    Ends (x >>= f) s Q E := by
  refine ⟨fun b t ht => ?_, fun e t ht => ?_⟩
  · obtain ⟨a, s₁, h₁, h₂⟩ := bind_ok.mp ht
    exact (hf a s₁ (hx.1 a s₁ h₁)).1 b t h₂
  · rcases bind_error.mp ht with h | ⟨a, s₁, h₁, h₂⟩
    · exact hx.2 e t h
    · exact (hf a s₁ (hx.1 a s₁ h₁)).2 e t h₂

theorem ok_bind (h : x s = (.ok a, s')) (hf : Ends (f a) s' Q E) : Ends (x >>= f) s Q E := by
  refine bind (R := fun b t => b = a ∧ t = s') (of_ok h ⟨rfl, rfl⟩) ?_
  rintro _ _ ⟨rfl, rfl⟩
  exact hf

theorem read {q : σ → Except ε α} (hfail : Fails E (q s)) (hok : ∀ a, q s = .ok a → R a s) :
    Ends (Tx.read q) s R E := by
  refine ⟨fun a t ht => ?_, fun e t ht => ?_⟩
  · obtain ⟨h, rfl⟩ := read_ok.mp ht
    exact hok a h
  · exact hfail e (read_error.mp ht).1

theorem read_bind {q : σ → Except ε α} (hfail : Fails E (q s))
    (hf : ∀ a, q s = .ok a → Ends (f a) s Q E) : Ends (Tx.read q >>= f) s Q E := by
  refine bind (R := fun a t => t = s ∧ q s = .ok a) (read hfail fun a h => ⟨rfl, h⟩) ?_
  rintro a _ ⟨rfl, h⟩
  exact hf a h

theorem ensure_bind {c : Prop} [Decidable c] {e : ε} {f : Unit → Tx σ ε β} (he : E e)
    (hf : c → Ends (f ()) s Q E) : Ends (Tx.ensure c e >>= f) s Q E :=
  read_bind (q := fun _ => Transactional.ensure c e) (.ensure he) fun _ h => hf (ensure_eq_ok.mp h)

theorem get_bind {f : σ → Tx σ ε β} (hf : Ends (f s) s Q E) : Ends (Tx.get >>= f) s Q E :=
  ok_bind (a := s) (get_ok.mpr ⟨rfl, rfl⟩) hf

theorem modify {g : σ → σ} {R : Unit → σ → Prop} (h : R () (g s)) : Ends (Tx.modify g) s R E :=
  of_ok (a := ()) (modify_ok.mpr rfl) h

theorem modify_bind {g : σ → σ} {f : Unit → Tx σ ε β} (hf : Ends (f ()) (g s) Q E) :
    Ends (Tx.modify g >>= f) s Q E :=
  ok_bind (a := ()) (modify_ok.mpr rfl) hf

theorem transaction (hx : Ends x s R E) : Ends (Tx.transaction x) s R E := by
  refine ⟨fun a t ht => hx.1 a t (transaction_ok.mp ht), fun e t ht => ?_⟩
  unfold Tx.transaction at ht
  rcases h : x s with ⟨e' | a, s₁⟩
  · rw [h] at ht
    cases ht
    exact hx.2 e s₁ h
  · rw [h] at ht
    cases ht

theorem onlyIf {c : Prop} [Decidable c] {x : Tx σ ε Unit} {R : Unit → σ → Prop}
    (hc : c → Ends x s R E) (hn : ¬ c → R () s) : Ends (Transactional.onlyIf c x) s R E := by
  unfold Transactional.onlyIf
  split
  case isTrue h => exact hc h
  case isFalse h => exact of_ok (a := ()) rfl (hn h)

/-- **The loop rule**: an invariant indexed by the items still to come. -/
theorem forM {f : α → Tx σ ε Unit} (I : List α → σ → Prop)
    (step : ∀ x xs s, I (x :: xs) s → Ends (f x) s (fun _ => I xs) E) {xs : List α} (hs : I xs s) :
    Ends (forM xs f) s (fun _ => I []) E := by
  induction xs generalizing s with
  | nil => exact of_ok (a := ()) rfl hs
  | cons x xs ih =>
    rw [List.forM_cons]
    exact bind (step x xs s hs) fun _ _ h => ih h

end Ends

end Tx

end Transactional
