import Polymesh.Effects.Steps
import Polymesh.Library.Registries

/-!
# The registry of portfolios

The portfolios of an identity are found by number and by name. A new portfolio takes the next
number of its owner, and numbers are not given back. As long as the numbers do not run out, the two
maps are inverse to each other, and the number of a deleted portfolio is never used again.
-/

namespace Polymesh

open Transactional Tx Collections Registries
open TransitionSystem (along_append run run_append run_invariant)

/-- The portfolios of one identity by name and by number, and the next number. -/
abbrev PortfolioRegistry := Registry PortfolioName PortfolioNumber PortfolioName × PortfolioNumber

def PortfolioStorage.registryOf (did : IdentityId) (p : PortfolioStorage) : PortfolioRegistry :=
  (⟨p.nameToNumber did, p.portfolios did, p.portfolios did⟩, p.nextPortfolioNumber did)

open PortfolioStorage

/-- What a call may do to the registry of an identity. -/
inductive NextRegistry : PortfolioRegistry → PortfolioRegistry → Prop
  | kept (r) : NextRegistry r r
  | created (r next name) : r.nameToKey name = none →
      NextRegistry (r, next) (r.insert name next name, ⟨next.num + 1⟩)
  | renamed (r next num old new) : r.keyToName num = some old → r.nameToKey new = none →
      NextRegistry (r, next) ((r.erase old num).insert new num new, next)
  | deleted (r next num name) : r.keyToName num = some name →
      NextRegistry (r, next) (r.erase name num, next)

/-! ## Calls -/

section Calls

variable {env : Env} {origin : RuntimeOrigin} {s s' : Storage} {u : Unit}

theorem NextRegistry.of_eq {r r' : PortfolioRegistry} (h : r' = r) : NextRegistry r r' :=
  h ▸ .kept r

theorem baseCreatePortfolio_nextRegistry {owner : IdentityId} {name : PortfolioName}
    (h : Portfolio.baseCreatePortfolio env owner name s = (.ok u, s')) (did : IdentityId) :
    NextRegistry (s.portfolio.registryOf did) (s'.portfolio.registryOf did) := by
  simp [Portfolio.baseCreatePortfolio, Portfolio.ensureNameUnique] at h
  obtain ⟨⟨-, hfree⟩, rfl⟩ := h
  by_cases hdid : did = owner
  · subst hdid
    convert NextRegistry.created (s.portfolio.registryOf did).1 _ name hfree using 1
    simp [registryOf, Portfolio.insertPortfolio, Registry.insert, update₂]
  · exact .of_eq (by simp [registryOf, Portfolio.insertPortfolio, update₂, hdid])

theorem renamePortfolio_nextRegistry {num : PortfolioNumber} {toName : PortfolioName}
    (h : Portfolio.renamePortfolio env origin num toName s = (.ok u, s')) (did : IdentityId) :
    NextRegistry (s.portfolio.registryOf did) (s'.portfolio.registryOf did) := by
  simp [Portfolio.renamePortfolio, Portfolio.ensureUserPortfolioValidity,
    Portfolio.ensureNameUnique] at h
  obtain ⟨data, -, -, old, hold, ⟨-, hfree⟩, rfl⟩ := h
  by_cases hdid : did = data.primaryDid
  · subst hdid
    convert NextRegistry.renamed (s.portfolio.registryOf _).1 _ num old toName hold hfree using 1
    simp [registryOf, Registry.insert, Registry.erase, update₂]
  · exact .of_eq (by simp [registryOf, update₂, hdid])

theorem deletePortfolio_nextRegistry {num : PortfolioNumber}
    (h : Portfolio.deletePortfolio env origin num s = (.ok u, s')) (did : IdentityId) :
    NextRegistry (s.portfolio.registryOf did) (s'.portfolio.registryOf did) := by
  simp [Portfolio.deletePortfolio, Portfolio.ensureUserPortfolioValidity] at h
  obtain ⟨data, -, -, -, -, name, hname, -, rfl⟩ := h
  by_cases hdid : did = data.primaryDid
  · subst hdid
    convert NextRegistry.deleted (s.portfolio.registryOf _).1 _ num name hname using 1
    simp [registryOf, Portfolio.removePortfolio, Registry.erase, update₂]
  · exact .of_eq (by simp [registryOf, Portfolio.removePortfolio, update₂, hdid])

/-- **Every change of the registry of an identity.** -/
theorem step_nextRegistry (a : Action) (s : Storage) (did : IdentityId) :
    NextRegistry (s.portfolio.registryOf did) ((step a s).portfolio.registryOf did) := by
  rcases step_kept_or_touches (r := .registry) (by decide) (by decide) (by decide) (by decide) a s
    with h | ⟨env, origin, call, rfl, htouches, h⟩
  · simp only [Aspect.Kept, registry, Prod.mk.injEq] at h
    exact .of_eq (by simp only [registryOf, h])
  · cases call with
    | createPortfolio name =>
      simp only [dispatch, Portfolio.createPortfolio, run_ok] at h
      obtain ⟨owner, -, hcreate⟩ := h
      exact baseCreatePortfolio_nextRegistry hcreate did
    | createCustodyPortfolio owner name =>
      simp only [dispatch, Portfolio.createCustodyPortfolio, ↓run_ok, bind_ok] at h
      obtain ⟨caller, _, ⟨-, rfl⟩, -, _, s₁, hcreate, hstep⟩ := h
      -- the custodian of the new portfolio is no part of the registry
      rw [← hstep]
      exact baseCreatePortfolio_nextRegistry hcreate did
    | renamePortfolio num toName => exact renamePortfolio_nextRegistry h did
    | deletePortfolio num => exact deletePortfolio_nextRegistry h did
    | _ => simp [Call.touches] at htouches

end Calls

/-! ## Runs -/

section Runs

variable {num : PortfolioNumber} {r r' : PortfolioRegistry}

/-- The maps are inverse to each other, and the numbers in use are positive and smaller than the
next one. -/
structure RegistryInv (r : PortfolioRegistry) : Prop where
  coherent : r.1.Coherent
  pos : 1 ≤ r.2.num.val
  used : ∀ num, (r.1.keyToName num).isSome → 1 ≤ num.num.val ∧ num.num < r.2.num

theorem val_succ {next : Fin (2 ^ 64)} (h : next.val + 1 < 2 ^ 64) :
    (next + 1).val = next.val + 1 := by
  rw [Fin.val_add]
  exact Nat.mod_eq_of_lt h

theorem NextRegistry.lt_next (h : NextRegistry r r') (hleft : r.2.num.val + 1 < 2 ^ 64)
    (hnum : num.num < r.2.num) : num.num < r'.2.num := by
  cases h with
  | created r next name hfree =>
    rw [Fin.lt_def, val_succ hleft]
    exact Nat.lt_succ_of_lt hnum
  | kept | renamed | deleted => exact hnum

theorem NextRegistry.inv (h : NextRegistry r r') (hleft : r.2.num.val + 1 < 2 ^ 64)
    (hr : RegistryInv r) : RegistryInv r' := by
  have hused := fun num hnum => (hr.used num hnum).imp_right (h.lt_next hleft)
  cases h with
  | kept => exact hr
  | created r next name hfree =>
    have hnext : r.keyToName next = none := by
      by_contra hsome
      exact lt_irrefl _ (hr.used next (Option.isSome_iff_ne_none.mpr hsome)).2
    refine ⟨hr.coherent.insert hfree hnext name, ?_, fun num hnum => ?_⟩
    · exact (val_succ hleft).symm ▸ Nat.le_add_left 1 _
    · by_cases hne : num = next
      · subst hne
        refine ⟨hr.pos, ?_⟩
        rw [Fin.lt_def, val_succ hleft]
        exact Nat.lt_succ_self _
      · rw [Registry.insert_keyToName_of_ne hne] at hnum
        exact hused num hnum
  | renamed r next num' old new hold hfree =>
    refine ⟨(hr.coherent.erase hold).insert ?_ (Registry.erase_keyToName_self ..) new, hr.pos,
      fun num hnum => ?_⟩
    · simp only [Registry.erase, Function.update_apply, hfree, ite_self]
    · by_cases hne : num = num'
      · subst hne
        exact hr.used num (by rw [hold]; rfl)
      · rw [Registry.insert_keyToName_of_ne hne, Registry.erase_keyToName_of_ne hne] at hnum
        exact hused num hnum
  | deleted r next num' name hname =>
    refine ⟨hr.coherent.erase hname, hr.pos, fun num hnum => ?_⟩
    have hne : num ≠ num' := by
      rintro rfl
      rw [Registry.erase_keyToName_self] at hnum
      cases hnum
    rw [Registry.erase_keyToName_of_ne hne] at hnum
    exact hused num hnum

theorem NextRegistry.stays_none (h : NextRegistry r r') (hnum : num.num < r.2.num)
    (hnone : r.1.keyToName num = none) : r'.1.keyToName num = none := by
  cases h with
  | kept => exact hnone
  | created r next name hfree =>
    rw [Registry.insert_keyToName_of_ne, hnone]
    rintro rfl
    exact lt_irrefl _ hnum
  | renamed r next num' old new hold hfree =>
    have hne : num ≠ num' := by
      rintro rfl
      rw [hnone] at hold
      cases hold
    rw [Registry.insert_keyToName_of_ne hne, Registry.erase_keyToName_of_ne hne, hnone]
  | deleted r next num' name hname =>
    by_cases hne : num = num'
    · subst hne
      exact Registry.erase_keyToName_self ..
    · rw [Registry.erase_keyToName_of_ne hne, hnone]

/-- No identity has come to its last number. -/
def NumbersLeft (s : Storage) (_ : Action) : Prop :=
  ∀ did, (s.portfolio.nextPortfolioNumber did).num.val + 1 < 2 ^ 64

theorem registryInv_genesis (did : IdentityId) : RegistryInv (genesis.portfolio.registryOf did) where
  coherent := ⟨fun _ _ => ⟨nofun, nofun⟩, fun _ => Iff.rfl⟩
  pos := le_rfl
  used := nofun

end Runs

/-- **The portfolios of an identity have one name and one number each.** Numbers count from one,
and the number of a portfolio that has been deleted never denotes another one. -/
theorem portfolio_registry {s : Storage} (h : ReachableBy NumbersLeft s) (did : IdentityId) :
    (∀ num name, s.portfolio.portfolios did num = some name ↔
      s.portfolio.nameToNumber did name = some num) ∧
    (∀ num, (s.portfolio.portfolios did num).isSome →
      1 ≤ num.num.val ∧ num.num < (s.portfolio.nextPortfolioNumber did).num) ∧
    ∀ num as bs, TransitionSystem.Along step NumbersLeft s (as ++ bs) →
      (s.portfolio.portfolios did num).isSome →
      (run step s as).portfolio.portfolios did num = none →
      (run step s (as ++ bs)).portfolio.portfolios did num = none := by
  have hs : RegistryInv (s.portfolio.registryOf did) :=
    h.invariant (fun s => RegistryInv (s.portfolio.registryOf did)) (registryInv_genesis did)
      fun s a hs hleft => (step_nextRegistry a s did).inv (hleft did) hs
  refine ⟨fun num name => (hs.coherent.inverse name num).symm, hs.used, ?_⟩
  intro num as bs halong hsome hdeleted
  obtain ⟨has, hbs⟩ := (along_append step).mp halong
  -- the number stays below the next one, and stays without a portfolio once it has none
  have hused := run_invariant
    (fun s => num.num < (s.portfolio.registryOf did).2.num)
    (fun s a hs hleft => (step_nextRegistry a s did).lt_next (hleft did) hs) (hs.used num hsome).2 has
  rw [run_append]
  refine (run_invariant
    (fun s => num.num < (s.portfolio.registryOf did).2.num ∧
      s.portfolio.portfolios did num = none) (fun s a hs hleft => ?_) ⟨hused, hdeleted⟩ hbs).2
  have hstep := step_nextRegistry a s did
  exact ⟨hstep.lt_next (hleft did) hs.1, hstep.stays_none hs.1 hs.2⟩

theorem numbersLeft_of_update {s : Storage} (next : PortfolioNumber) (a : Action)
    (hnext : next.num.val + 1 < 2 ^ 64)
    (h : s.portfolio.nextPortfolioNumber = Function.update (fun _ => ⟨1⟩) ⟨1⟩ next) :
    NumbersLeft s a := by
  intro did
  rw [h, Function.update_apply]
  split
  · exact hnext
  · decide

/-- A portfolio is created and deleted, and another one of the same name gets the next number. -/
theorem portfolio_registry_recreated :
    let create : Action := .calls 1 (.createPortfolio "a")
    let delete : Action := .calls 1 (.deletePortfolio ⟨1⟩)
    let s := run step genesis [create, delete, create]
    s.portfolio.portfolios ⟨1⟩ ⟨1⟩ = none ∧ s.portfolio.portfolios ⟨1⟩ ⟨2⟩ = some "a" := by
  intro create delete s
  have hgenesis : NumbersLeft genesis create := numbersLeft_of_update ⟨1⟩ _ (by decide)
    (Function.update_eq_self ..).symm
  have hcreated : NumbersLeft (step create genesis) delete :=
    numbersLeft_of_update ⟨2⟩ _ (by decide) rfl
  have hdeleted : NumbersLeft (step delete (step create genesis)) create :=
    numbersLeft_of_update ⟨2⟩ _ (by decide) rfl
  refine ⟨?_, by rfl⟩
  exact (portfolio_registry ⟨[create], ⟨hgenesis, trivial⟩, rfl⟩ ⟨1⟩).2.2 ⟨1⟩ [delete] [create]
    ⟨hcreated, hdeleted, trivial⟩ rfl rfl

end Polymesh
