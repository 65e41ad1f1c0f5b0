import Polymesh.Ledger

/-!
# Indivisible assets

An asset that is not divisible is counted in whole units. Every effect that changes balances has
checked its amount for this, wherever its call did so, and no call makes a divisible asset
indivisible. So the supply of an indivisible asset, the balances of its holders and those of their
portfolios are whole units in every state of the chain.
-/

namespace Polymesh

open Transactional Collections Bookkeeping Relation

/-- The book of every asset that is not divisible is in whole units. -/
def InWholeUnits (s : Storage) : Prop :=
  ∀ t, Asset.isDivisible t s = false → (book s t).InUnits oneUnit

section Effects

variable {s s' : Storage} {t : Ticker} {v : ℕ}

theorem isDivisible_eq_false_of_kept (h : Aspect.Kept .divisibility s s')
    (hdiv : Asset.isDivisible t s' = false) : Asset.isDivisible t s = false := by
  cases htoken : s.asset.tokens t with
  | none => simp [Asset.isDivisible, htoken]
  | some token =>
    obtain ⟨token', htoken', himp⟩ := h t token htoken
    simp only [Asset.isDivisible, htoken', Option.any_some] at hdiv
    simp only [Asset.isDivisible, htoken, Option.any_some]
    exact Bool.eq_false_iff.mpr fun htrue => Bool.eq_false_iff.mp hdiv (himp htrue)

theorem Granular.oneUnit_dvd (h : Granular t v s) (hdiv : Asset.isDivisible t s = false) :
    oneUnit ∣ v := by
  rcases h with h | h
  · simp [hdiv] at h
  · simp only [Asset.isUnitMultiple, decide_eq_true_eq] at h
    exact Nat.dvd_of_mod_eq_zero h

theorem InWholeUnits.of_same (hs : InWholeUnits s) (hkept : Aspect.Kept .divisibility s s')
    (h : SameFungible s s') : InWholeUnits s' := by
  intro t hdiv
  have hbook : book s' t = book s t := by simp [book, h.supply, h.balanceOf, h.balances]
  rw [hbook]
  exact hs t (isDivisible_eq_false_of_kept hkept hdiv)

theorem InWholeUnits.of_book {b : Book IdentityId PortfolioKind} (hs : InWholeUnits s)
    (hkept : Aspect.Kept .divisibility s s') (hbook : book s' = Function.update (book s) t b)
    (hv : Granular t v s)
    (hb : oneUnit ∣ v → (book s t).InUnits oneUnit → b.InUnits oneUnit) : InWholeUnits s' := by
  intro t' hdiv
  have hdiv' := isDivisible_eq_false_of_kept hkept hdiv
  rw [hbook]
  by_cases ht : t' = t
  · subst ht
    rw [Function.update_self]
    exact hb (hv.oneUnit_dvd hdiv') (hs t' hdiv')
  · rw [Function.update_of_ne ht]
    exact hs t' hdiv'

variable {f : Footprint}

theorem Movement.inWholeUnits (h : Movement f s s') (hf : .divisibility ∈ f.kept)
    (hledger : LedgerInv s) (hs : InWholeUnits s) : InWholeUnits s' := by
  have hkept : Aspect.Kept .divisibility s s' := h.kept hf (by decide) (by decide)
  cases h with
  | other h => exact hs.of_same hkept h.sameFungible
  | checkpoint => exact hs.of_same hkept (.of_eq rfl)
  | mint env p t v token _ htoken hmax hv =>
    have hbook := book_writeMint (p := p) hledger htoken hmax
    exact hs.of_book hkept hbook hv fun hdvd hb => hb.credit hdvd _ _
  | redeem env p t v token _ htoken _ hlocked hv =>
    have hbook := book_writeRedeem hledger htoken hlocked
    exact hs.of_book hkept hbook hv fun hdvd hb => hb.debit hdvd _ _
  | transfer env p q t v _ hdid _ hfree hv =>
    have hbook := book_writeTransfer hledger hdid (hfree.trans (Nat.sub_le _ _))
    exact hs.of_book hkept hbook hv fun hdvd hb => hb.move hdvd _ _ _ _
  | move p q t v hne hdid hfree hv =>
    have hbook := book_move hledger hne hdid (hfree.trans (Nat.sub_le _ _))
    exact hs.of_book hkept hbook hv fun hdvd hb => hb.move hdvd _ _ _ _
  | delete did num name holder _ hcount =>
    exact hs.of_same hkept (hledger.sameFungible_delete hcount name holder)
  | newCollection | issueNft => exact hs.of_same hkept ⟨fun _ => rfl, rfl, rfl, rfl, rfl, id⟩
  | transferNfts p q nfts => exact hs.of_same hkept (sameFungible_transferNfts p q nfts s)
  | moveNft => exact hs.of_same hkept ⟨fun _ => rfl, rfl, rfl, rfl, rfl, id⟩

/-- **An effect that makes no asset indivisible keeps the books of indivisible assets in whole
units.** -/
theorem Effect.inWholeUnits (h : Effect f s s') (hf : .divisibility ∈ f.kept)
    (hledger : LedgerInv s) (hs : InWholeUnits s) : InWholeUnits s' := by
  have hkept : Aspect.Kept .divisibility s s' := h.kept hf (by decide) (by decide)
  cases h with
  | record h => exact hs.of_same hkept h.sameFungible
  | movement h => exact h.inWholeUnits hf hledger hs
  -- A lock changes no balance.
  | lock | unlock | lockNft | unlockNft => exact hs

theorem EffectsIn.inWholeUnits (h : EffectsIn f s s') (hf : .divisibility ∈ f.kept)
    (hledger : LedgerInv s) (hs : InWholeUnits s) : LedgerInv s' ∧ InWholeUnits s' := by
  induction h with
  | refl => exact ⟨hledger, hs⟩
  | tail _ h ih => exact ⟨h.ledgerInv ih.1, h.inWholeUnits hf ih.1 ih.2⟩

end Effects

/-! ## Runs -/

theorem Call.divisibility_notMem_touches (call : Call) : .divisibility ∉ call.touches := by
  cases call <;> simp [Call.touches]

theorem Action.divisibility_mem_kept (s : Storage) (a : Action) :
    .divisibility ∈ (a.footprint s).kept := by
  cases a with
  | extrinsic env origin call => exact call.divisibility_notMem_touches
  | scheduled env id | nextBlock elapsed => exact Aspect.noConfusion

theorem step_inWholeUnits (a : Action) {s : Storage} (hledger : LedgerInv s)
    (hs : InWholeUnits s) : InWholeUnits (step a s) := by
  rcases step_effectsIn a s with h | ⟨p, x, -, -, h⟩
  · exact (h.inWholeUnits (a.divisibility_mem_kept s) hledger hs).2
  · rw [h]
    exact hs

/-- **Indivisible assets are held in whole units.** In every state of the chain, the supply of an
asset that is not divisible, the balance of every identity and the balance of every portfolio are
multiples of one unit. -/
theorem indivisible_whole_units {s : Storage} (hs : Reachable s) {t : Ticker}
    {token : SecurityToken} (htoken : s.asset.tokens t = some token)
    (hdiv : token.divisible = false) :
    oneUnit ∣ token.totalSupply ∧ (∀ did, oneUnit ∣ s.asset.balanceOf t did) ∧
      ∀ p, oneUnit ∣ s.portfolio.portfolioAssetBalances p t := by
  have hgenesis : LedgerInv genesis ∧ InWholeUnits genesis :=
    ⟨genesis_ledgerInv, fun t _ =>
      (genesis_ledgerInv.balanced t).inUnits_of_supply_eq_zero rfl oneUnit⟩
  have hinv : LedgerInv s ∧ InWholeUnits s :=
    hs.invariant (fun s => LedgerInv s ∧ InWholeUnits s) hgenesis fun s a h =>
      ⟨step_ledgerInv a h.1, step_inWholeUnits a h.1 h.2⟩
  have hunits := hinv.2 t (by simp [Asset.isDivisible, htoken, hdiv])
  rw [← totalSupply_of_some htoken]
  exact ⟨hunits.supply, hunits.total, fun p => hunits.holding p.did p.kind⟩

/-- Three units are issued. A millionth of a unit cannot be redeemed, one unit can. -/
theorem indivisible_whole_units_redeemed :
    let run := TransitionSystem.run step genesis
      [.calls 1 (.createAsset ⟨1⟩ false .equityCommon), .calls 1 (.issue ⟨1⟩ 3000000 .default),
        .calls 1 (.redeem ⟨1⟩ 1 .default), .calls 1 (.redeem ⟨1⟩ 1000000 .default)]
    run.asset.balanceOf ⟨1⟩ ⟨1⟩ = 2000000 ∧ oneUnit ∣ run.asset.balanceOf ⟨1⟩ ⟨1⟩ := by
  intro run
  have hrun : Reachable run := ⟨_, rfl⟩
  have htoken : run.asset.tokens ⟨1⟩ = some ⟨2000000, ⟨1⟩, false, .equityCommon⟩ := by rfl
  exact ⟨by rfl, (indivisible_whole_units hrun htoken rfl).2.1 ⟨1⟩⟩

end Polymesh
