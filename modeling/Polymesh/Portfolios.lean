import Polymesh.Settlement.Delivery

/-!
# Portfolios and what they hold

A portfolio that is not the default one has to be created, and may be deleted while it is empty.
Whether it is empty is read off a count of its assets, which every write of a balance keeps up to
date. So a deletion never discards anything.

Whoever sends something to a portfolio asks whether it exists, except for the settlement engine
when it sends tokens. This is the only way in which something gets into a portfolio that does not
exist.
-/

open scoped BigOperators

namespace Polymesh

open Transactional Tx Collections Bookkeeping Relation Settlement
open TransitionSystem (along_append run)

/-! ## The number of assets of a portfolio -/

section Count

variable {s : Storage} {p : PortfolioId} {t : Ticker}

theorem LedgerInv.isSome_of_balance (hs : LedgerInv s)
    (h : s.portfolio.portfolioAssetBalances p t ≠ 0) : (s.asset.tokens t).isSome := by
  have hle := hs.balance_le_supply p t
  cases htoken : s.asset.tokens t with
  | some token => rfl
  | none =>
    simp only [Asset.totalSupply, htoken, Option.elim_none] at hle
    exact absurd (Nat.le_zero.mp hle) h

theorem LedgerInv.count_lt (hs : LedgerInv s) (ht : (s.asset.tokens t).isSome)
    (h : s.portfolio.portfolioAssetBalances p t = 0) :
    s.portfolio.portfolioAssetCount p < validTickers := by
  refine lt_of_lt_of_le ?_ (card_le_validTickers fun t => id)
  rw [hs.counts.count p]
  refine Finset.card_lt_card ((Finset.ssubset_iff_of_subset fun t' ht' => ?_).mpr ⟨t, ?_, by simp [h]⟩)
  · rw [Finset.mem_filter_univ] at ht' ⊢
    exact hs.counts.valid p t' ht'
  · exact (Finset.mem_filter_univ t).mpr (hs.valid t (by simp [Storage.known, ht]))

theorem LedgerInv.count_pos (hs : LedgerInv s)
    (h : 0 < s.portfolio.portfolioAssetBalances p t) : 0 < s.portfolio.portfolioAssetCount p := by
  rw [Nat.pos_iff_ne_zero] at h ⊢
  exact fun hcount => h (hs.counts.balance_eq_zero hcount t)

end Count

/-- **The number of assets of a portfolio is exact.** In every state of the chain, and in every
state `s₁` that a call passes through between two effects, it is the number of the balances of the
portfolio that are not zero. So it is never decremented at zero, and never saturates when it is
incremented. A portfolio that can be deleted has no balance and no lock that would be lost with
it. -/
theorem portfolio_asset_count_exact {s s₁ : Storage} (hs : Reachable s) (h : Effects s s₁) :
    (∀ p, s₁.portfolio.portfolioAssetCount p =
      (Finset.univ.filter fun t => 0 < s₁.portfolio.portfolioAssetBalances p t).card) ∧
    (∀ p t, 0 < s₁.portfolio.portfolioAssetBalances p t →
      0 < s₁.portfolio.portfolioAssetCount p) ∧
    (∀ p t, s₁.portfolio.portfolioAssetBalances p t = 0 → (s₁.asset.tokens t).isSome →
      saturatingAdd 64 (s₁.portfolio.portfolioAssetCount p) 1 =
        s₁.portfolio.portfolioAssetCount p + 1) ∧
    ∀ env origin num s₂, Portfolio.deletePortfolio env origin num s₁ = (.ok (), s₂) →
      s₂.portfolio.portfolioAssetBalances = s₁.portfolio.portfolioAssetBalances ∧
      s₂.portfolio.portfolioLockedAssets = s₁.portfolio.portfolioLockedAssets := by
  have hinv : LedgerInv s₁ := h.ledgerInv (reachable_ledgerInv hs)
  refine ⟨fun p => ?_, fun p t => hinv.count_pos, fun p t hzero ht => ?_,
    fun env origin num s₂ hdelete => ?_⟩
  · simp only [Nat.pos_iff_ne_zero]
    exact hinv.counts.count p
  · have hlt := hinv.count_lt ht hzero
    have hmax : validTickers < 2 ^ 64 := by decide
    exact min_eq_left (by omega)
  · obtain ⟨did, name, holder, hcount, -, rfl⟩ := Portfolio.deletePortfolio_ok env origin hdelete
    have hsame := hinv.sameFungible_delete hcount name holder
    exact ⟨hsame.balances, hsame.locked⟩

/-- Ten of a thousand tokens are moved to a new portfolio. -/
def savingsRun : List Action :=
  [.calls 1 (.createAsset ⟨1⟩ true .equityCommon), .calls 1 (.issue ⟨1⟩ 1000 .default),
    .calls 1 (.createPortfolio "savings"),
    .calls 1 (.movePortfolioFunds (.defaultPortfolio ⟨1⟩) (.userPortfolio ⟨1⟩ ⟨1⟩)
      [.fungible ⟨1⟩ 10])]

/-- There is one asset, which only the portfolios of its owner hold. Once they are moved back the
new portfolio can be deleted. -/
theorem portfolio_asset_count_exact_savings :
    let s := run step genesis savingsRun
    let emptied := run step genesis (savingsRun ++
      [.calls 1 (.movePortfolioFunds (.userPortfolio ⟨1⟩ ⟨1⟩) (.defaultPortfolio ⟨1⟩)
        [.fungible ⟨1⟩ 10])])
    let deleted := (Portfolio.deletePortfolio .consenting (.signed ⟨1⟩) ⟨1⟩ emptied).2
    1 = (Finset.univ.filter fun t =>
        0 < s.portfolio.portfolioAssetBalances (.userPortfolio ⟨1⟩ ⟨1⟩) t).card ∧
      saturatingAdd 64 (s.portfolio.portfolioAssetCount (.defaultPortfolio ⟨2⟩)) 1 = 1 ∧
      (Portfolio.deletePortfolio .consenting (.signed ⟨1⟩) ⟨1⟩ s).1 =
        .error (.portfolio .portfolioNotEmpty) ∧
      deleted.portfolio.portfolios ⟨1⟩ ⟨1⟩ = none ∧
      deleted.portfolio.portfolioAssetBalances = emptied.portfolio.portfolioAssetBalances := by
  intro s emptied deleted
  have hs : Reachable s := ⟨_, rfl⟩
  have hemptied : Reachable emptied := ⟨_, rfl⟩
  obtain ⟨hcount, -, hadd, -⟩ := portfolio_asset_count_exact hs .refl
  obtain ⟨-, -, -, hdelete⟩ := portfolio_asset_count_exact hemptied .refl
  exact ⟨hcount (.userPortfolio ⟨1⟩ ⟨1⟩),
    hadd (.defaultPortfolio ⟨2⟩) ⟨1⟩ (by rfl) (by rfl), by rfl, by rfl,
    (hdelete .consenting (.signed ⟨1⟩) ⟨1⟩ deleted rfl).1⟩

/-! ## Holdings in existing portfolios -/

/-- The portfolio has a balance or a token. -/
def PortfolioStorage.Holds (st : PortfolioStorage) (p : PortfolioId) : Prop :=
  (∃ t, st.portfolioAssetBalances p t ≠ 0) ∨ ∃ x, x ∈ st.portfolioNFT p

variable {did : IdentityId} {num : PortfolioNumber} {s s' : Storage}

theorem portfolioExists_user :
    PortfolioExists (.userPortfolio did num) s ↔ (s.portfolio.portfolios did num).isSome := Iff.rfl

/-- What is held is held in existing portfolios. -/
def HeldInExisting (s : Storage) : Prop := ∀ p, s.portfolio.Holds p → PortfolioExists p s

/-! ### Writes of holdings -/

section Writes

variable {st : PortfolioStorage} {p p' q : PortfolioId} {t : Ticker} {x : Ticker × NFTId} {v : ℕ}

theorem PortfolioStorage.Holds.of_setPortfolioBalance
    (h : (Portfolio.setPortfolioBalance p t v st).Holds p') : st.Holds p' ∨ p' = p ∧ v ≠ 0 := by
  rcases h with ⟨t', ht'⟩ | hx
  · simp only [Portfolio.setPortfolioBalance, update₂_apply] at ht'
    split_ifs at ht' with heq
    · exact .inr ⟨heq.1, ht'⟩
    · exact .inl (.inl ⟨t', ht'⟩)
  · exact .inl (.inr hx)

theorem PortfolioStorage.Holds.of_decrease
    (h : (Portfolio.setPortfolioBalance p t (st.portfolioAssetBalances p t - v) st).Holds p') :
    st.Holds p' := by
  rcases h.of_setPortfolioBalance with h | ⟨rfl, hne⟩
  · exact h
  · exact .inl ⟨t, fun hzero => hne (by rw [hzero, Nat.zero_sub])⟩

theorem PortfolioStorage.Holds.of_transfer
    (h : (Portfolio.uncheckedTransferPortfolioBalance p q t v st).Holds p') :
    st.Holds p' ∨ p' = q := by
  rcases h.of_setPortfolioBalance with h | ⟨heq, -⟩
  · exact .inl h.of_decrease
  · exact .inr heq

theorem PortfolioStorage.Holds.of_insertNFT (h : (Portfolio.insertNFT p x st).Holds p') :
    st.Holds p' ∨ p' = p := by
  rcases h with ht | ⟨y, hy⟩
  · exact .inl (.inl ht)
  · rcases mem_insertNFT.mp hy with hy | hy
    · exact .inr hy.1
    · exact .inl (.inr ⟨y, hy⟩)

theorem PortfolioStorage.Holds.of_removeNFT (h : (Portfolio.removeNFT p x st).Holds p') :
    st.Holds p' := by
  rcases h with ht | ⟨y, hy⟩
  · exact .inl ht
  · exact .inr ⟨y, (mem_removeNFT.mp hy).2⟩

theorem holds_of_moveNfts (xs : List (Ticker × NFTId))
    (h : (xs.foldl (Portfolio.uncheckedMoveNft p q) s).portfolio.Holds p') :
    s.portfolio.Holds p' ∨ p' = q := by
  induction xs generalizing s with
  | nil => exact .inl h
  | cons x xs ih =>
    rcases ih h with h | h
    · exact h.of_insertNFT.imp_left PortfolioStorage.Holds.of_removeNFT
    · exact .inr h

end Writes

/-! ### Effects -/

section Effects

variable {f : Footprint}

theorem HeldInExisting.of_holds (hs : HeldInExisting s) (hkept : Aspect.Kept .portfolios s s')
    (h : ∀ p, s'.portfolio.Holds p → s.portfolio.Holds p ∨ PortfolioExists p s) :
    HeldInExisting s' :=
  fun p hp => hkept p ((h p hp).elim (hs p) id)

theorem SameHoldings.holds (h : SameHoldings s s') {p : PortfolioId} (hp : s'.portfolio.Holds p) :
    s.portfolio.Holds p := by
  rwa [PortfolioStorage.Holds, h.balances, h.held] at hp

theorem Movement.heldInExisting (h : Movement f s s') (hf : .portfolios ∈ f.kept)
    (hreceivers : ∀ q ∈ f.receivers, PortfolioExists q s) (hs : HeldInExisting s) :
    HeldInExisting s' := by
  refine hs.of_holds (h.kept hf (by decide) (by decide)) fun p' hp' => ?_
  -- whoever holds more than before exists
  have hnew : ∀ q, PortfolioExists q s → s.portfolio.Holds p' ∨ p' = q →
      s.portfolio.Holds p' ∨ PortfolioExists p' s := by
    rintro q hq (hp' | rfl)
    · exact .inl hp'
    · exact .inr hq
  cases h with
  | other h => exact .inl (h.holds hp')
  | checkpoint => exact .inl hp'
  | mint env p t v token _ _ _ _ hp =>
    exact hnew p hp (hp'.of_setPortfolioBalance.imp_right And.left)
  | redeem => exact .inl hp'.of_decrease
  | transfer env p q t v _ _ _ _ _ hq | move p q t v _ _ _ _ hq => exact hnew q hq hp'.of_transfer
  | delete did num name holder hdelete => exact absurd hf hdelete
  | newCollection => exact .inl hp'
  | issueNft p x c _ _ _ hp => exact hnew p hp hp'.of_insertNFT
  | transferNfts p q nfts _ _ _ _ _ hq =>
    have hmoved := holds_of_moveNfts _ (s := s.mapNFT (NFT.transferCounts p.did q.did nfts)) hp'
    exact hnew q (hq.elim id (hreceivers q)) hmoved
  | moveNft p q x _ _ _ _ hq => exact hnew q hq (holds_of_moveNfts [x] hp')

/-- **An effect keeps holdings in existing portfolios** if it forgets no portfolio and sends no
token to a missing one. -/
theorem Effect.heldInExisting (h : Effect f s s') (hf : .portfolios ∈ f.kept)
    (hreceivers : ∀ q ∈ f.receivers, PortfolioExists q s) (hs : HeldInExisting s) :
    HeldInExisting s' := by
  have hkept : Aspect.Kept .portfolios s s' := h.kept hf (by decide) (by decide)
  cases h with
  | record h => exact hs.of_holds hkept fun p hp => .inl (h.holds hp)
  | movement h => exact h.heldInExisting hf hreceivers hs
  | lock | unlock | lockNft | unlockNft => exact hs

theorem EffectsIn.heldInExisting (h : EffectsIn f s s') (hf : .portfolios ∈ f.kept)
    (hreceivers : ∀ q ∈ f.receivers, PortfolioExists q s) (hs : HeldInExisting s) :
    HeldInExisting s' := by
  induction h with
  | refl => exact hs
  | tail h h' ih =>
    have hkept := EffectsIn.kept h hf (by decide) (by decide)
    exact h'.heldInExisting hf (fun q hq => hkept q (hreceivers q hq)) ih

theorem HeldInExisting.delete (hs : HeldInExisting s)
    (hnft : s.portfolio.portfolioNFT (.userPortfolio did num) = ∅) (name : PortfolioName)
    (holder : IdentityId) :
    HeldInExisting (s.mapPortfolio (Portfolio.removePortfolio did num name holder)) := by
  intro p hp
  by_cases hdeleted : p = .userPortfolio did num
  · subst hdeleted
    rcases hp with ⟨t, ht⟩ | ⟨x, hx⟩
    · simp [Portfolio.removePortfolio] at ht
    · change x ∈ s.portfolio.portfolioNFT _ at hx
      simp [hnft] at hx
  · have hp' : s.portfolio.Holds p := by
      simpa [PortfolioStorage.Holds, Portfolio.removePortfolio, hdeleted] using hp
    have hexists := hs p hp'
    unfold PortfolioExists at hexists ⊢
    cases hkind : p.kind with
    | default => trivial
    | user n =>
      have hne : ¬ (p.did = did ∧ n = num) := by
        rintro ⟨rfl, rfl⟩
        exact hdeleted (PortfolioId.ext rfl hkind)
      rw [hkind] at hexists
      simpa [Portfolio.removePortfolio, update₂_apply, hne] using hexists

end Effects

/-! ### Executions create no portfolio -/

/-- The same portfolios exist. -/
def SamePortfolios (s s' : Storage) : Prop := s'.portfolio.portfolios = s.portfolio.portfolios

instance : Std.Refl SamePortfolios := ⟨fun _ => rfl⟩

instance : IsTrans Storage SamePortfolios where
  trans _ _ _ h h' := Eq.trans h' h

theorem SamePortfolios.exists_iff (h : SamePortfolios s s') (p : PortfolioId) :
    PortfolioExists p s' ↔ PortfolioExists p s := by
  rw [PortfolioExists, PortfolioExists, h]

theorem samePortfolios_moveNfts (p q : PortfolioId) (xs : List (Ticker × NFTId)) (s : Storage) :
    SamePortfolios s (xs.foldl (Portfolio.uncheckedMoveNft p q) s) := by
  induction xs generalizing s with
  | nil => rfl
  | cons x xs ih => exact ih (Portfolio.uncheckedMoveNft p q s x)

theorem transferLeg_samePortfolios (env : Env) (leg : Leg) :
    Respects SamePortfolios (transferLeg env leg) := by
  intro s u s' h
  cases leg with
  | fungible sender receiver ticker amount =>
    simp [transferLeg, Asset.baseTransfer] at h
    obtain ⟨-, htransfer⟩ := h
    obtain ⟨_, -, -, -, -, -, rfl⟩ := Asset.unsafeTransfer_ok env htransfer
    rfl
  | nonFungible sender receiver nfts =>
    simp [transferLeg, NFT.baseNftTransfer] at h
    obtain ⟨-, rfl⟩ := h
    exact samePortfolios_moveNfts sender receiver nfts.tokens _
  | offChain =>
    cases h
    rfl

theorem executeInstruction_samePortfolios {env : Env} {id : InstructionId} {u : Unit}
    (h : executeInstruction env id s = (.ok u, s')) : SamePortfolios s s' := by
  have hrun := (executeInstruction_ok h).2.2.2
  have hreleased := uncheckedReleaseLocks_rel id
    (fun leg => (viaLeg_respects (R := SamePortfolios) leg fun _ _ _ => rfl).2)
    (sortedLegs env id s) s
  have htransfers : Respects SamePortfolios
      (forM (sortedLegs env id s) (transferPendingLeg env id)) :=
    .forM fun l _ => .bind .get fun _ => .onlyIf (transferLeg_samePortfolios env l.2)
  exact IsTrans.trans _ _ _ hreleased (htransfers hrun)

/-! ### Runs -/

/-- The instruction that an action executes. -/
def Action.execution? : Action → Option InstructionId
  | .extrinsic _ _ (.executeManualInstruction id ..)
  | .extrinsic _ _ (.executeScheduledInstruction id) | .scheduled _ id => some id
  | _ => none

/-- If the action executes an instruction, the portfolios that its legs send tokens to exist. -/
def DeliversToExisting (s : Storage) (a : Action) : Prop :=
  ∀ id ∈ a.execution?, ∀ q ∈ tokenReceivers id s, PortfolioExists q s

section Runs

variable {a : Action}

theorem DeliversToExisting.receivers (h : DeliversToExisting s a) (hs : InstructionsInv s) :
    ∀ q ∈ (a.footprint s).receivers, PortfolioExists q s := by
  intro q hq
  cases a with
  | extrinsic env origin call =>
    cases call with
    | executeManualInstruction id | executeScheduledInstruction id => exact h id rfl q hq
    | invest =>
      -- the next instruction has no legs yet
      obtain ⟨l, hl, -⟩ := hq
      have hblank := hs.fresh _ (le_refl s.settlement.instructionCounter.id)
      have hlegs : s.legs s.settlement.instructionCounter = [] := by
        change (s.settlement.instruction _).legList = []
        rw [hblank]
        rfl
      simp [hlegs] at hl
    | _ => exact absurd hq (Set.notMem_empty q)
  | scheduled env id => exact h id rfl q hq
  | nextBlock elapsed => exact absurd hq (Set.notMem_empty q)

theorem Action.eq_deletePortfolio (h : .portfolios ∉ (a.footprint s).kept) :
    ∃ env origin num, a = .extrinsic env origin (.deletePortfolio num) := by
  cases a with
  | extrinsic env origin call =>
    have htouches : .portfolios ∈ call.touches := not_not.mp h
    cases call with
    | deletePortfolio num => exact ⟨env, origin, num, rfl⟩
    | _ => simp [Call.touches] at htouches
  | scheduled env id | nextBlock elapsed => exact absurd Aspect.noConfusion h

theorem step_heldInExisting (hinstructions : InstructionsInv s) (ha : DeliversToExisting s a)
    (hs : HeldInExisting s) : HeldInExisting (step a s) := by
  rcases step_effectsIn a s with h | ⟨p, x, -, -, h⟩
  · by_cases hf : .portfolios ∈ (a.footprint s).kept
    · exact h.heldInExisting hf (ha.receivers hinstructions) hs
    · obtain ⟨env, origin, num, rfl⟩ := Action.eq_deletePortfolio hf
      rcases step_extrinsic env origin (.deletePortfolio num) s with hstep | hstep
      · rw [hstep]
        exact hs
      · obtain ⟨did, name, holder, -, hnft, hstep⟩ := Portfolio.deletePortfolio_ok env origin hstep
        rw [hstep]
        exact hs.delete hnft name holder
  · rw [h]
    exact fun p' hp' => hs p' hp'.of_removeNFT

end Runs

/-- **What is held is held in existing portfolios** in every run whose executions send tokens to
existing portfolios only. From there, the execution of an instruction leaves it so if and only if
the portfolios that its legs send tokens to exist. -/
theorem holdings_in_existing_portfolios {s : Storage} (h : ReachableBy DeliversToExisting s) :
    (∀ p, (∃ t, s.portfolio.portfolioAssetBalances p t ≠ 0) ∨
        (∃ x, x ∈ s.portfolio.portfolioNFT p) → PortfolioExists p s) ∧
    ∀ env id s', executeInstruction env id s = (.ok (), s') →
      (HeldInExisting s' ↔ ∀ q ∈ tokenReceivers id s, PortfolioExists q s) := by
  have hreach : Reachable s := h.reachable
  have hgenesis : HeldInExisting genesis := by
    rintro p (⟨t, ht⟩ | ⟨x, hx⟩)
    · exact absurd rfl ht
    · exact absurd hx (Finset.notMem_empty x)
  have hheld : HeldInExisting s :=
    (h.invariant (fun s => InstructionsInv s ∧ HeldInExisting s)
      ⟨instructionsInv_genesis, hgenesis⟩ fun s a hs ha =>
        ⟨(step_advances a hs.1).1, step_heldInExisting hs.1 ha hs.2⟩).2
  refine ⟨hheld, fun env id s' hexec => ⟨fun hheld' q hq => ?_, fun hreceivers => ?_⟩⟩
  · -- a token of the leg is with its receiver afterwards
    have hs := reachable_coverInv hreach
    have hdelivered := executeInstruction_delivers hs.books.instructions hs.books.ledger
      (reachable_nftInv hreach).tokens (hs.covered.claim_le (Claimant.instruction id)) hexec
    obtain ⟨⟨l, leg⟩, hl, hleg⟩ := hq
    cases leg with
    | nonFungible sender receiver nfts =>
      simp only [tokenReceiver?, Option.ite_none_left_eq_some, Option.some.injEq] at hleg
      obtain ⟨hids, rfl⟩ := hleg
      obtain ⟨x, hx⟩ := List.exists_mem_of_ne_nil nfts.tokens (by simpa [NFTs.tokens] using hids)
      have hinv : NFTInv s' := Effects.nftInv (executeInstruction_effects env id
        (Footprint.env_mem_any env) (Set.subset_univ _) hexec) (reachable_nftInv hreach)
      have howner := hdelivered.tokens l sender receiver nfts hl x hx
      have hexists := hheld' receiver (.inr ⟨x, (hinv.tokens.held_iff receiver x).mpr howner⟩)
      exact ((executeInstruction_samePortfolios hexec).exists_iff receiver).mp hexists
    | fungible | offChain => cases hleg
  · have heffects : EffectsIn ⟨Set.univ, {.portfolios}, tokenReceivers id s⟩ s s' :=
      executeInstruction_effects env id (Set.mem_univ env) subset_rfl hexec
    exact heffects.heldInExisting (Set.mem_singleton _) hreceivers hheld

/-- A token is sent to a portfolio of another identity, which affirms this. -/
def deliveryRun (receiver : PortfolioId) : List Action :=
  [.calls 2 (.createPortfolio "tokens"), .calls 1 (.createNftCollection ⟨1⟩ true []),
    .calls 1 (.issueNft ⟨1⟩ [] .default), .calls 1 (.createVenue [] .other),
    .calls 1 (.addAndAffirmInstruction ⟨1⟩ .settleOnAffirmation none none
      [.nonFungible (.defaultPortfolio ⟨1⟩) receiver ⟨⟨1⟩, [⟨1⟩]⟩] [.defaultPortfolio ⟨1⟩] []),
    .calls 2 (.affirmInstruction ⟨1⟩ [receiver] none), .nextBlock 6000]

/-- The token gets into the portfolio that exists. Sent to one that does not, the execution would
succeed, and leave it there. -/
theorem holdings_in_existing_portfolios_delivered :
    let tokens := PortfolioId.userPortfolio ⟨2⟩ ⟨1⟩
    let missing := PortfolioId.userPortfolio ⟨2⟩ ⟨7⟩
    let s := run step genesis
      (deliveryRun tokens ++ [.scheduled .consenting ⟨1⟩])
    let s₀ := run step genesis (deliveryRun missing)
    s.nft.nftOwner ⟨1⟩ ⟨1⟩ = some tokens ∧ PortfolioExists tokens s ∧
      (executeInstruction .consenting ⟨1⟩ s₀).1 = .ok () ∧
      ¬ HeldInExisting (executeInstruction .consenting ⟨1⟩ s₀).2 := by
  intro tokens missing s s₀
  have hlegs : ∀ receiver, (receiver = tokens ∨ receiver = missing) →
      (run step genesis (deliveryRun receiver)).legs ⟨1⟩ =
        [(0, .nonFungible (.defaultPortfolio ⟨1⟩) receiver ⟨⟨1⟩, [⟨1⟩]⟩)] := by
    rintro receiver (rfl | rfl) <;> decide +kernel
  -- nothing is executed before the end of the run
  have hbefore : ∀ receiver,
      TransitionSystem.Along step DeliversToExisting genesis (deliveryRun receiver) := by
    intro receiver
    refine ⟨?_, ?_, ?_, ?_, ?_, ?_, ?_, trivial⟩ <;> exact nofun
  have hlast : TransitionSystem.Along step DeliversToExisting genesis
      (deliveryRun tokens ++ [.scheduled .consenting ⟨1⟩]) := by
    refine (along_append step).mpr ⟨hbefore tokens, ?_, trivial⟩
    rintro id ⟨⟩ q ⟨l, hl, hq⟩
    rw [hlegs tokens (.inl rfl), List.mem_singleton] at hl
    subst hl
    cases hq
    exact portfolioExists_user.mpr (by decide +kernel)
  have hs : ReachableBy DeliversToExisting s := ⟨_, hlast, rfl⟩
  have hs₀ : ReachableBy DeliversToExisting s₀ := ⟨_, hbefore missing, rfl⟩
  have howner : s.nft.nftOwner ⟨1⟩ ⟨1⟩ = some tokens := by decide +kernel
  have hok : (executeInstruction .consenting ⟨1⟩ s₀).1 = .ok () := by decide +kernel
  have hnone : s₀.portfolio.portfolios ⟨2⟩ ⟨7⟩ = none := by decide +kernel
  have hmissing : missing ∈ tokenReceivers ⟨1⟩ s₀ := by
    rw [tokenReceivers, hlegs missing (.inr rfl)]
    exact ⟨_, List.mem_singleton.mpr rfl, rfl⟩
  clear_value s s₀
  have hheld := ((reachable_nftInv hs.reachable).tokens.held_iff tokens (⟨1⟩, ⟨1⟩)).mpr howner
  refine ⟨howner, (holdings_in_existing_portfolios hs).1 tokens (.inr ⟨_, hheld⟩), hok,
    fun hlost => ?_⟩
  have hexists := ((holdings_in_existing_portfolios hs₀).2 .consenting ⟨1⟩ _
    (Prod.ext hok rfl)).mp hlost missing hmissing
  rw [portfolioExists_user, hnone] at hexists
  cases hexists

/-- A token in a portfolio that was never created. -/
theorem token_in_missing_portfolio :
    let s := run step genesis
      (deliveryRun (.userPortfolio ⟨2⟩ ⟨7⟩) ++ [.scheduled .consenting ⟨1⟩])
    (⟨1⟩, ⟨1⟩) ∈ s.portfolio.portfolioNFT (.userPortfolio ⟨2⟩ ⟨7⟩) ∧
      s.portfolio.portfolios ⟨2⟩ ⟨7⟩ = none :=
  ⟨by decide +kernel, by rfl⟩

end Polymesh
