import Polymesh.Locks.Cover

/-!
# Releases that cannot fail

The claims on what is locked, written out as sums over the legs that wait for execution, the
fundraisers that are not closed and the capital distributions. As they are covered in every state,
so is each amount that a pallet releases, also where it ignores the outcome.
-/

open scoped BigOperators

namespace Polymesh

open Transactional Tx Collections Bookkeeping Relation Settlement

/-! ## The claims on a portfolio -/

/-- The amount of a ticker that a leg takes from a portfolio. -/
def Leg.amountFrom (p : PortfolioId) (t : Ticker) : Leg → ℕ
  | .fungible sender _ ticker amount => if sender = p ∧ ticker = t then amount else 0
  | .nonFungible .. | .offChain .. => 0

/-- What the legs that wait for execution take from a portfolio. -/
def legsDue (s : Storage) (p : PortfolioId) (t : Ticker) : ℕ :=
  ∑ id, ((s.legs id).map fun l =>
    if s.settlement.instructionLegStatus id l.1 = .executionPending then l.2.amountFrom p t
    else 0).sum

/-- What the fundraisers that are not closed have still to sell from a portfolio. -/
def fundraisersDue (s : Storage) (p : PortfolioId) (t : Ticker) : ℕ :=
  ∑ x : Ticker × FundraiserId, (s.sto.fundraisers x.1 x.2).elim 0 fun f =>
    if f.isClosed = false ∧ f.offeringPortfolio = p ∧ f.offeringAsset = t then
      (f.tiers.map FundraiserTier.remaining).sum
    else 0

/-- What the distributions have still to pay from a portfolio. -/
def distributionsDue (s : Storage) (p : PortfolioId) (t : Ticker) : ℕ :=
  ∑ caId, (s.distribution.distributions caId).elim 0 fun d =>
    if d.from_ = p ∧ d.currency = t then d.remaining else 0

/-- The three kinds of claimants. -/
def Claimant.equiv : Claimant ≃ InstructionId ⊕ (Ticker × FundraiserId) ⊕ CAId where
  toFun
    | .instruction id => .inl id
    | .fundraiser ticker id => .inr (.inl (ticker, id))
    | .distribution caId => .inr (.inr caId)
  invFun
    | .inl id => .instruction id
    | .inr (.inl x) => .fundraiser x.1 x.2
    | .inr (.inr caId) => .distribution caId
  left_inv c := by cases c <;> rfl
  right_inv c := by rcases c with _ | _ | _ <;> rfl

section Sums

variable (s : Storage) (p : PortfolioId) (t : Ticker)

theorem Leg.claim_inl (leg : Leg) : leg.claim (p, .inl t) = leg.amountFrom p t := by
  cases leg with
  | fungible sender receiver ticker amount =>
    simp only [claim, amountFrom, Prod.mk.injEq, Sum.inl.injEq, eq_comm]
  | nonFungible sender receiver nfts => simp [claim, amountFrom]
  | offChain => rfl

/-- **The claims under a ticker are those of legs, of fundraisers and of distributions.** -/
theorem sum_claims :
    ∑ c, claims s c (p, .inl t) = legsDue s p t + (fundraisersDue s p t + distributionsDue s p t) := by
  rw [← Equiv.sum_comp Claimant.equiv.symm, Fintype.sum_sum_type, Fintype.sum_sum_type]
  refine congrArg₂ (· + ·) ?_ (congrArg₂ (· + ·) ?_ ?_)
  · refine Finset.sum_congr rfl fun id _ => ?_
    change (s.settlement.instruction id).due (p, .inl t) = _
    rw [due_eq, dueOf]
    simp only [Leg.claim_inl]
  · refine Finset.sum_congr rfl fun x _ => ?_
    change (s.sto.fundraisers x.1 x.2).elim 0 (fun f => f.due (p, .inl t)) = _
    simp only [Fundraiser.due, Prod.mk.injEq, Sum.inl.injEq, eq_comm]
  · refine Finset.sum_congr rfl fun caId _ => ?_
    change (s.distribution.distributions caId).elim 0 (fun d => d.due (p, .inl t)) = _
    simp only [Distribution.due, Prod.mk.injEq, Sum.inl.injEq, eq_comm]

end Sums

/-! ## Releases of instructions -/

/-- Whatever the order of its legs, each release of a leg that waits for execution succeeds. -/
def ReleasesSucceed (id : InstructionId) (s : Storage) : Prop :=
  ∀ pre l post, (pre ++ l :: post).Perm (s.legs id) →
    s.settlement.instructionLegStatus id l.1 = .executionPending →
      (unlockViaLeg l.2 (uncheckedReleaseLocks id pre s)).1 = .ok ()

section Instructions

variable {env : Env} {origin : RuntimeOrigin} {id : InstructionId} {s s' : Storage} {u : Unit}

theorem InstructionRecord.Valid.onChain {r : InstructionRecord} (hr : r.Valid) {l : LegId}
    {leg : Leg} (hl : r.legs.lookup l = some leg) (hstatus : r.legStatus l = .executionPending) :
    leg.isOffChain = false := by
  by_contra hoff
  rcases hr.offChain l leg hl (by simpa using hoff) with ⟨-, hl'⟩ | ⟨-, _, _, hl'⟩ <;>
    simp [hl'] at hstatus

theorem onChain_of_mem (hs : InstructionsInv s) {l : LegId × Leg} (hl : l ∈ s.legs id)
    (hstatus : s.settlement.instructionLegStatus id l.1 = .executionPending) :
    l.2.isOffChain = false :=
  (hs.valid id).onChain (InstructionRecord.mem_legList.mp hl) hstatus

/-- **An instruction whose claims are covered is released.** -/
theorem releasesSucceed (hs : InstructionsInv s)
    (hcover : ∀ k, (s.settlement.instruction id).due k ≤ reserve s k) : ReleasesSucceed id s := by
  intro pre l post hperm hstatus
  refine uncheckedReleaseLocks_succeeds (fun l' hl' => onChain_of_mem hs (hperm.subset hl'))
    (fun k => ?_) rfl hstatus
  rw [dueOf_perm _ hperm, ← due_eq]
  exact hcover k

end Instructions

/-! ## Releases of fundraisers and distributions -/

namespace Sto

/-- The part of an investment before the execution of its instruction. -/
def affirmInvestment (env : Env) (origin : RuntimeOrigin) (f : Fundraiser)
    (investmentPortfolio fundingPortfolio : PortfolioId) (purchaseAmount cost : ℕ)
    (receipt : Option ReceiptDetails) : Dispatch InstructionId := do
  Portfolio.unlockTokens f.offeringPortfolio f.offeringAsset purchaseAmount
  let id ← baseAddInstruction env f.creator f.venueId .settleOnAffirmation none none
    (investmentLegs f investmentPortfolio fundingPortfolio purchaseAmount cost) []
  unsafeAffirmInstruction env f.creator id
    (orderedSet [f.offeringPortfolio, f.raisingPortfolio]) none none
  affirmWithOptionalReceipt env origin id receipt [investmentPortfolio, fundingPortfolio]
  return id

variable {env : Env} {origin : RuntimeOrigin} {f : Fundraiser} {s s' : Storage} {u : Unit}
  {investmentPortfolio fundingPortfolio : PortfolioId} {purchaseAmount cost : ℕ}
  {receipt : Option ReceiptDetails} {id : InstructionId}

theorem affirmInvestment_due (hs : BookInv s)
    (h : affirmInvestment env origin f investmentPortfolio fundingPortfolio purchaseAmount cost
      receipt s = (.ok id, s')) :
    BookInv s' ∧ ∀ k, (s'.settlement.instruction id).due k ≤ reserve s' k := by
  simp [affirmInvestment] at h
  obtain ⟨_, s₁, hunlock, s₂, hadd, _, s₃, haffirm, _, hother⟩ := h
  have hs₁ := hs.of_sameRecords (unlockTokens_onlyPortfolio _ _ _ hunlock).sameRecords
    (Effects.ledgerInv (Portfolio.unlockTokens_effects _ _ _ hunlock) hs.ledger)
  have hs₂ := (baseAddInstruction_keepsCover _ _ _ _ _ _ _ hadd hs₁).1
  have hs₃ := (unsafeAffirmInstruction_keepsCover (nodup_orderedSet _) _ _ haffirm hs₂).1
  refine ⟨(affirmWithOptionalReceipt_keepsCover _ _ hother hs₃).1, fun k => ?_⟩
  have hnew : (s₂.settlement.instruction id).due k = 0 := by
    obtain ⟨info, -, -, hadded, -⟩ := baseAddInstruction_added hs₁.instructions hadd
    rw [hadded, Function.update_self, InstructionRecord.due_added]
  have hdue₃ := unsafeAffirmInstruction_due hs₂ haffirm k
  have hdue₄ := affirmWithOptionalReceipt_due hs₃ hother k
  omega

/-- The releases of a fundraiser succeed. -/
structure FundraiserReleases (f : Fundraiser) (s : Storage) : Prop where
  stop : (Portfolio.unlockTokens f.offeringPortfolio f.offeringAsset
    (remainingAmount f.tiers) s).1 = .ok ()
  invest : ∀ purchaseAmount tiers cost,
    purchaseTiers f.tiers purchaseAmount 0 = .ok (tiers, 0, cost) →
      (Portfolio.unlockTokens f.offeringPortfolio f.offeringAsset purchaseAmount s).1 = .ok ()

theorem fundraiserReleases (hcover : Covered (claims s) (reserve s)) {t : Ticker}
    {id : FundraiserId} (hf : s.sto.fundraisers t id = some f) (hopen : f.isClosed = false) :
    FundraiserReleases f s := by
  have hle : (f.tiers.map FundraiserTier.remaining).sum ≤
      reserve s (f.offeringPortfolio, .inl f.offeringAsset) := by
    have hclaim := hcover.claim_le (.fundraiser t id) (f.offeringPortfolio, .inl f.offeringAsset)
    rw [claims_fundraiser hf, Fundraiser.due, if_pos ⟨hopen, rfl⟩] at hclaim
    exact hclaim
  refine ⟨unlockTokens_succeeds ((remainingAmount_le _).trans hle), fun amount tiers cost h => ?_⟩
  have hsum := purchaseTiers_ok h
  exact unlockTokens_succeeds (by omega)

end Sto

namespace CapitalDistribution

variable {s : Storage} {d : Distribution}

/-- The releases of a distribution succeed. -/
structure DistributionReleases (d : Distribution) (s : Storage) : Prop where
  reclaim : (unlock d d.remaining s).1 = .ok ()
  transferBenefit : ∀ benefit remaining, checkedSub d.remaining benefit = some remaining →
    (unlock d benefit s).1 = .ok ()
  remove : ensureDistributionNotStarted d s = .ok () → (unlock d d.amount s).1 = .ok ()

theorem distributionReleases (hs : CoverInv s) {caId : CAId}
    (hd : s.distribution.distributions caId = some d) : DistributionReleases d s := by
  have hle : d.remaining ≤ reserve s (d.from_, .inl d.currency) := by
    have hclaim := hs.covered.claim_le (.distribution caId) (d.from_, .inl d.currency)
    rw [claims_distribution hd, Distribution.due, if_pos rfl] at hclaim
    exact hclaim
  refine ⟨unlockTokens_succeeds hle, fun benefit remaining h => ?_, fun h => ?_⟩
  · have hbenefit := (checkedSub_eq_some.mp h).1
    exact unlockTokens_succeeds (hbenefit.trans hle)
  · -- before the payment date nothing has been claimed
    rw [ensureDistributionNotStarted, ensure_eq_ok] at h
    rw [← (hs.books.distributions caId d hd).unclaimed h]
    exact unlockTokens_succeeds hle

end CapitalDistribution

/-! ## Every state of the chain -/

/-- **What is locked is held and covers all the claims on it, so that every release succeeds**:
of an instruction, also once the scheduler has taken its task off the agenda, of a fundraiser, of
the instruction of an investment, and of a distribution. -/
theorem locks_cover_claims {s : Storage} (h : Reachable s) :
    (∀ p t, s.portfolio.portfolioLockedAssets p t ≤ s.portfolio.portfolioAssetBalances p t ∧
      legsDue s p t + fundraisersDue s p t + distributionsDue s p t ≤
        s.portfolio.portfolioLockedAssets p t) ∧
      (∀ id, ReleasesSucceed id s ∧ ReleasesSucceed id (s.mapSystem (cancelNamed id))) ∧
      (∀ t id f, s.sto.fundraisers t id = some f → f.isClosed = false →
        Sto.FundraiserReleases f s) ∧
      (∀ env origin f investmentPortfolio fundingPortfolio purchaseAmount cost receipt id s',
        Sto.affirmInvestment env origin f investmentPortfolio fundingPortfolio purchaseAmount cost
          receipt s = (.ok id, s') → ReleasesSucceed id s') ∧
      ∀ caId d, s.distribution.distributions caId = some d →
        CapitalDistribution.DistributionReleases d s := by
  have hs := reachable_coverInv h
  have hinstructions := hs.books.instructions
  refine ⟨fun p t => ⟨hs.books.ledger.locked_le p t, ?_⟩, fun id => ?_, fun t id f hf hopen =>
    Sto.fundraiserReleases hs.covered hf hopen, fun _ _ _ _ _ _ _ _ _ _ haffirm => ?_,
    fun caId d hd => CapitalDistribution.distributionReleases hs hd⟩
  · have hcover := hs.covered (p, .inl t)
    rw [sum_claims, ← Nat.add_assoc] at hcover
    exact hcover
  · have hcover := hs.covered.claim_le (Claimant.instruction id)
    exact ⟨releasesSucceed hinstructions hcover,
      releasesSucceed ((cancelNamed_keepsCover s hs.books).1.instructions) hcover⟩
  · obtain ⟨hbooks, hcover⟩ := Sto.affirmInvestment_due hs.books haffirm
    exact releasesSucceed hbooks.instructions hcover

/-- A fundraiser locks 300 tokens and an instruction 10 of the 1000 in a portfolio. -/
def sharedRun : List Action :=
  [.calls 1 (.createAsset ⟨1⟩ true .equityCommon), .calls 1 (.issue ⟨1⟩ 1000 .default),
    .calls 1 (.createVenue [] .sto),
    .calls 1 (.createFundraiser (.defaultPortfolio ⟨1⟩) ⟨1⟩ (.defaultPortfolio ⟨1⟩) ⟨2⟩
      [⟨300, 1000000⟩] ⟨1⟩ none none 0),
    .calls 1 (.addAndAffirmInstruction ⟨1⟩ .settleOnAffirmation none none
      [.fungible (.defaultPortfolio ⟨1⟩) (.defaultPortfolio ⟨2⟩) ⟨1⟩ 10]
      [.defaultPortfolio ⟨1⟩] [])]

/-- What the fundraiser has not sold is released on its own. -/
theorem locks_cover_claims_shared :
    let s := TransitionSystem.run step genesis sharedRun
    s.portfolio.portfolioLockedAssets (.defaultPortfolio ⟨1⟩) ⟨1⟩ = 310 ∧
      legsDue s (.defaultPortfolio ⟨1⟩) ⟨1⟩ + fundraisersDue s (.defaultPortfolio ⟨1⟩) ⟨1⟩ +
        distributionsDue s (.defaultPortfolio ⟨1⟩) ⟨1⟩ ≤ 310 ∧
      (Portfolio.unlockTokens (.defaultPortfolio ⟨1⟩) ⟨1⟩ 300 s).1 = .ok () ∧
      ReleasesSucceed ⟨1⟩ s := by
  intro s
  have hrun : Reachable s := ⟨_, rfl⟩
  obtain ⟨hbounds, hlegs, hfundraisers, -, -⟩ := locks_cover_claims hrun
  have hlocked : (TransitionSystem.run step genesis sharedRun).portfolio.portfolioLockedAssets
      (.defaultPortfolio ⟨1⟩) ⟨1⟩ = 310 := by
    decide +kernel
  exact ⟨hlocked, (hbounds (.defaultPortfolio ⟨1⟩) ⟨1⟩).2.trans_eq hlocked,
    (hfundraisers ⟨1⟩ ⟨0⟩ _ rfl rfl).stop, (hlegs ⟨1⟩).1⟩

end Polymesh
