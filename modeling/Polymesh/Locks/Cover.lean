import Polymesh.Locks.Claims

/-!
# Locks cover the claims on them

In every state of the chain, what is locked in a portfolio is at most what it holds and at least
what all the instructions, fundraisers and distributions are owed from it together.
-/

open scoped BigOperators

namespace Polymesh

open Transactional Tx Collections Bookkeeping Relation Settlement
open Fundraiser (due isClosed)

/-! ## Fundraisers -/

namespace Sto

open FundraiserTier (remaining)

variable {env : Env} {origin : RuntimeOrigin} {s s' : Storage} {u : Unit}

variable {tiers : List PriceTier} {amount cost purchaseAmount : ℕ} {t offeringAsset : Ticker}
  {id : FundraiserId} {f : Fundraiser} {receipt : Option ReceiptDetails}
  {investmentPortfolio fundingPortfolio : PortfolioId}

theorem offeringAmount_eq {total : ℕ} (h : offeringAmount tiers total = some amount) :
    amount = total + (tiers.map PriceTier.total).sum := by
  induction tiers generalizing total with
  | nil =>
    cases h
    rfl
  | cons tier tiers ih =>
    rw [offeringAmount, Option.bind_eq_some_iff] at h
    obtain ⟨total', htotal, h⟩ := h
    rw [ih h, ← (checkedAdd_eq_some.mp htotal).2, List.map_cons, List.sum_cons]
    omega

theorem purchaseTiers_ok {tiers tiers' : List FundraiserTier} {rest cost' : ℕ}
    (h : purchaseTiers tiers amount cost = .ok (tiers', rest, cost')) :
    (tiers'.map remaining).sum + amount =
      (tiers.map remaining).sum + rest := by
  induction tiers generalizing tiers' amount cost with
  | nil =>
    cases h
    simp
  | cons tier tiers ih =>
    rw [purchaseTiers] at h
    split at h
    · simp at h
      obtain ⟨tiers₁, hrest, rfl⟩ := h
      have hsum := ih hrest
      simp only [List.map_cons, List.sum_cons]
      omega
    · simp at h
      obtain ⟨-, -, tiers₁, hrest, rfl⟩ := h
      have hsum := ih hrest
      simp only [List.map_cons, List.sum_cons]
      split_ifs at hsum ⊢ <;> omega

theorem remainingAmount_le (tiers : List FundraiserTier) :
    remainingAmount tiers ≤ (tiers.map remaining).sum := by
  suffices ∀ total, tiers.foldl (fun total tier => wrapAdd 128 total tier.remaining) total ≤
      total + (tiers.map remaining).sum by
    simpa [remainingAmount] using this 0
  induction tiers with
  | nil => exact fun total => le_rfl
  | cons tier tiers ih =>
    intro total
    have hstep : wrapAdd 128 total tier.remaining ≤ total + tier.remaining := Nat.mod_le _ _
    have hrest := ih (wrapAdd 128 total tier.remaining)
    rw [List.foldl_cons, List.map_cons, List.sum_cons]
    omega

theorem claims_fundraiser (h : s.sto.fundraisers t id = some f) (k : LockKey) :
    claims s (.fundraiser t id) k = f.due k := by
  simp [claims, h]

theorem setFundraiser_keepsCover {f' : Fundraiser} (h : s.sto.fundraisers t id = some f)
    (hdue : f'.due = f.due) :
    KeepsCover s (s.mapSto (setFundraiser t id f')) := by
  refine keepsCover_of_update (SameInstructions.advances ⟨rfl, rfl⟩)
    (.single (.record (.of_eq rfl) (.of_eq rfl)))
    (fun hs => hs.distributions) (fun _ => claims_setFundraiser t id f') fun _ k => ?_
  rw [hdue, claims_fundraiser h]
  exact le_rfl

theorem setFrozen_keepsCover (offeringAsset : Ticker) (id : FundraiserId) (frozen : Bool) :
    Respects KeepsCover (setFrozen env origin offeringAsset id frozen) := by
  intro s u s' h
  simp [setFrozen, ensureFundraiser] at h
  obtain ⟨-, f, hf, hopen, rfl⟩ := h
  refine setFundraiser_keepsCover hf (funext fun k => ?_)
  have hclosed : isClosed
      { f with status := if frozen then .frozen else .live } = false := by
    cases frozen <;> rfl
  rw [due, due, hclosed, hopen]

theorem modifyFundraiserWindow_keepsCover (offeringAsset : Ticker) (id : FundraiserId)
    (start : Moment) (end_ : Option Moment) :
    Respects KeepsCover (modifyFundraiserWindow env origin offeringAsset id start end_) := by
  intro s u s' h
  simp [modifyFundraiserWindow, ensureFundraiser] at h
  obtain ⟨-, f, hf, -, -, -, rfl⟩ := h
  exact setFundraiser_keepsCover hf rfl

theorem createFundraiser_ok {offeringPortfolio : PortfolioId} {raisingPortfolio : PortfolioId}
    {raisingAsset : Ticker} {venueId : VenueId} {start end_ : Option Moment} {minimumInvestment : ℕ}
    (h : createFundraiser env origin offeringPortfolio offeringAsset raisingPortfolio raisingAsset
      tiers venueId start end_ minimumInvestment s = (.ok u, s')) :
    ∃ f id count s₁, f.isClosed = false ∧
      Portfolio.lockTokens f.offeringPortfolio f.offeringAsset
        (f.tiers.map remaining).sum s = (.ok (), s₁) ∧
      s' = (s₁.mapSto fun o => { o with fundraiserCount := count }).mapSto
        (setFundraiser offeringAsset id f) := by
  simp [createFundraiser] at h
  obtain ⟨data, -, -, -, -, -, amount, hamount, -, next, -, _, s₁, hlock, rfl⟩ := h
  have hsum : ((tiers.map PriceTier.into).map remaining).sum = amount := by
    rw [offeringAmount_eq hamount, List.map_map, Nat.zero_add]
    rfl
  exact ⟨⟨data.primaryDid, offeringPortfolio, offeringAsset, raisingPortfolio, raisingAsset,
    tiers.map PriceTier.into, venueId, start.getD s.system.now, end_, .live, minimumInvestment⟩,
    _, _, s₁, rfl, by rw [hsum]; exact hlock, rfl⟩

theorem createFundraiser_keepsCover (offeringPortfolio : PortfolioId) (offeringAsset : Ticker)
    (raisingPortfolio : PortfolioId) (raisingAsset : Ticker) (tiers : List PriceTier)
    (venueId : VenueId) (start end_ : Option Moment) (minimumInvestment : ℕ) :
    Respects KeepsCover (createFundraiser env origin offeringPortfolio offeringAsset
      raisingPortfolio raisingAsset tiers venueId start end_ minimumInvestment) := by
  intro s u s' h
  obtain ⟨heffects, hinstructions⟩ := createFundraiser_apart env origin _ _ _ _ _ _ _ _ _ h
  obtain ⟨f, id, count, s₁, hopen, hlock, rfl⟩ := createFundraiser_ok h
  have hsame := lockTokens_onlyPortfolio _ _ _ hlock
  have hclaims : claims (s₁.mapSto fun o => { o with fundraiserCount := count }) = claims s := by
    rw [← claims_sameRecords hsame.sameRecords]
    funext c
    cases c <;> rfl
  refine keepsCover_of_update (c := .fundraiser offeringAsset id) (f := f.due) hinstructions.advances heffects
    (fun hs => ?_) (fun _ => ?_) fun hs k => ?_
  · rw [hsame]
    exact hs.distributions
  · rw [claims_setFundraiser, hclaims]
  · change f.due k + reserve s k ≤ _ + reserve s₁ k
    rw [lockTokens_reserve hs.ledger hlock k, due, hopen]
    simp only [true_and]
    omega

theorem stop_keepsCover (offeringAsset : Ticker) (id : FundraiserId) :
    Respects KeepsCover (stop env origin offeringAsset id) := by
  intro s u s' h
  obtain ⟨heffects, hinstructions⟩ := stop_apart env origin _ _ h
  simp [stop, ensureFundraiser] at h
  obtain ⟨f, hf, data, -, -, hopen, _, s₁, hunlock, rfl⟩ := h
  have hsame := unlockTokens_onlyPortfolio _ _ _ hunlock
  have hle := remainingAmount_le f.tiers
  refine keepsCover_of_update (c := .fundraiser offeringAsset id) (f := fun _ => 0)
    hinstructions.advances heffects (fun hs => ?_) (fun _ => ?_) fun hs k => ?_
  · rw [hsame]
    exact hs.distributions
  · rw [claims_setFundraiser, claims_sameRecords hsame.sameRecords]
    congr 1
    funext k
    simp only [due, isClosed, closedStatus]
    split_ifs <;> simp_all
  · have hreserve := unlockTokens_reserve hunlock k
    rw [claims_fundraiser hf, due, hopen]
    change 0 + reserve s k ≤ _ + reserve s₁ k
    simp only [true_and]
    split_ifs at hreserve ⊢ <;> omega

theorem affirmAndExecuteInstruction_sto {id : InstructionId} {portfolios : List PortfolioId}
    (h : affirmAndExecuteInstruction env origin id receipt portfolios s = (.ok u, s')) :
    s'.sto = s.sto := by
  simp [affirmAndExecuteInstruction] at h
  obtain ⟨_, s₁, haffirm, _, s₂, hexec, rfl⟩ := h
  obtain ⟨r, hrecord, -⟩ := affirmWithOptionalReceipt_becomes haffirm
  exact (executeSettleOnAffirmationInstruction_sameRecords hexec).sto.trans hrecord.sto

theorem settleInvestment_cover (hs : BookInv s)
    (h : settleInvestment env origin f investmentPortfolio fundingPortfolio purchaseAmount cost
      receipt s = (.ok u, s')) :
    BookInv s' ∧ s'.sto = s.sto ∧ ∃ s₁,
      Portfolio.unlockTokens f.offeringPortfolio f.offeringAsset purchaseAmount s = (.ok (), s₁) ∧
      claims s₁ = claims s ∧ Secured s₁ s' := by
  simp [settleInvestment] at h
  obtain ⟨_, s₁, hunlock, id, s₂, hadd, _, s₃, haffirm, hexec⟩ := h
  have hsame := (unlockTokens_onlyPortfolio _ _ _ hunlock).sameRecords
  have hs₁ := hs.of_sameRecords hsame
    (Effects.ledgerInv (Portfolio.unlockTokens_effects _ _ _ hunlock) hs.ledger)
  obtain ⟨hs₂, hsecured₂⟩ := baseAddInstruction_keepsCover _ _ _ _ _ _ _ hadd hs₁
  obtain ⟨hs₃, hsecured₃⟩ :=
    unsafeAffirmInstruction_keepsCover (nodup_orderedSet _) _ _ haffirm hs₂
  obtain ⟨info, -, -, hadded, -⟩ := baseAddInstruction_added hs₁.instructions hadd
  obtain ⟨-, hrecord⟩ := unsafeAffirmInstruction_becomes haffirm
  have hstatus : (s₃.settlement.instruction id).status = .pending := by
    rw [hrecord.self, hadded, Function.update_self]
    rfl
  obtain ⟨hs', hsecured'⟩ := affirmAndExecuteInstruction_keepsCover hstatus hexec hs₃
  have hsto₂ : s₂.sto = s₁.sto := by
    obtain ⟨_, _, _, -, -, -, -, -, rfl⟩ := baseAddInstruction_ok hadd
    rfl
  refine ⟨hs', ?_, s₁, hunlock, claims_sameRecords hsame, ?_⟩
  · rw [affirmAndExecuteInstruction_sto hexec, hrecord.sto, hsto₂, hsame.sto]
  · exact IsTrans.trans _ _ _ hsecured₂ (IsTrans.trans _ _ _ hsecured₃ hsecured')

theorem invest_ok {maxPrice : Option ℕ}
    (h : invest env origin investmentPortfolio fundingPortfolio offeringAsset id purchaseAmount
      maxPrice receipt s = (.ok u, s')) :
    ∃ f tiers cost s₁, s.sto.fundraisers offeringAsset id = some f ∧ f.status = .live ∧
      purchaseTiers f.tiers purchaseAmount 0 = .ok (tiers, 0, cost) ∧
      settleInvestment env origin f investmentPortfolio fundingPortfolio purchaseAmount cost
        receipt s = (.ok (), s₁) ∧
      s' = s₁.mapSto (setFundraiser offeringAsset id { f with tiers := tiers }) := by
  simp [invest, ensureFundraiser] at h
  obtain ⟨data, -, -, -, f, hf, hlive, -, tiers, cost, htiers, -, -, _, s₁, hsettle, rfl⟩ := h
  exact ⟨f, tiers, cost, s₁, hf, hlive, htiers, hsettle, rfl⟩

/-- **An investment takes from the lock of the fundraiser what it takes from its tiers.** -/
theorem invest_keepsCover (investmentPortfolio fundingPortfolio : PortfolioId)
    (offeringAsset : Ticker) (id : FundraiserId) (purchaseAmount : ℕ) (maxPrice : Option ℕ)
    (receipt : Option ReceiptDetails) :
    Respects KeepsCover (invest env origin investmentPortfolio fundingPortfolio offeringAsset id
      purchaseAmount maxPrice receipt) := by
  intro s u s' h hs
  obtain ⟨f, tiers, cost, s₁, hf, hlive, htiers, hsettle, rfl⟩ := invest_ok h
  obtain ⟨hs₁, hsto, s₀, hunlock, hclaims, hsecured⟩ := settleInvestment_cover hs hsettle
  have hopen : f.isClosed = false := by simp [isClosed, hlive]
  have hsum := purchaseTiers_ok htiers
  let bought : LockKey → ℕ := fun k =>
    if k = (f.offeringPortfolio, .inl f.offeringAsset) then purchaseAmount else 0
  refine ⟨⟨?_, hs₁.ledger.of_same (.of_eq rfl), hs₁.distributions⟩, ?_⟩
  · exact SameInstructions.inv (s := s₁) ⟨rfl, rfl⟩ hs₁.instructions
  · have hreserve : reserve s = fun k => reserve s₀ k + bought k := by
      funext k
      exact (unlockTokens_reserve hunlock k).symm
    have hsettled : Secures (claims s) (reserve s) (claims s₁) fun k => reserve s₁ k + bought k := by
      rw [hreserve, ← hclaims]
      exact Secures.add hsecured bought
    refine Secures.trans hsettled ?_
    rw [claims_setFundraiser]
    refine secures_update (Claimant.fundraiser offeringAsset id) fun k => ?_
    rw [claims_fundraiser (by rw [hsto]; exact hf), due, due]
    change _ + (reserve s₁ k + bought k) ≤ _ + reserve s₁ k
    have hopen' : ({ f with tiers := tiers } : Fundraiser).isClosed = false := hopen
    simp only [hopen, hopen', true_and, bought]
    split_ifs <;> omega

end Sto

/-! ## Capital distributions -/

namespace CapitalDistribution

variable {env : Env} {origin : RuntimeOrigin} {s s' : Storage} {u : Unit}

theorem expired_mono {expiry : Option Moment} {now later : Moment} (h : now ≤ later)
    (hexpired : expired expiry now) : expired expiry later := by
  simp only [expired, decide_eq_true_eq] at hexpired ⊢
  obtain ⟨e, he, hle⟩ := hexpired
  exact ⟨e, he, hle.trans h⟩

variable {caId : CAId} {d : Distribution}

theorem claims_distribution (h : s.distribution.distributions caId = some d) (k : LockKey) :
    claims s (.distribution caId) k = d.due k := by
  simp [claims, h]

theorem setDistribution_keepsCover (s₁ : Storage) {d : Option Distribution}
    (hclaims : claims s₁ = claims s) (hsystem : s₁.system = s.system)
    (hdistributions : s₁.distribution.distributions = s.distribution.distributions)
    (hapart : Apart .any s (s₁.mapDistribution (setDistribution caId d)))
    (hsound : BookInv s → ∀ d' ∈ d, d'.Sound s.system.now)
    (hdue : BookInv s → ∀ k, (d.elim 0 fun d => d.due k) + reserve s k ≤
      claims s (.distribution caId) k + reserve s₁ k) :
    KeepsCover s (s₁.mapDistribution (setDistribution caId d)) := by
  refine keepsCover_of_update hapart.same.advances hapart.effects (fun hs caId' d' hd' => ?_) (fun _ => ?_) hdue
  · change d'.Sound s₁.system.now
    rw [hsystem]
    by_cases hca : caId' = caId
    · subst hca
      exact hsound hs d' (by simpa [Storage.mapDistribution, setDistribution] using hd')
    · refine hs.distributions caId' d' ?_
      rw [← hdistributions]
      simpa [Storage.mapDistribution, setDistribution, hca] using hd'
  · rw [claims_setDistribution, hclaims]

theorem unverifiedDistribute_keepsCover (originData : PermissionedCallOriginData) (caId : CAId)
    (portfolio : PortfolioKind) (currency : Ticker) (perShare amount : ℕ) (paymentAt : Moment)
    (expiresAt : Option Moment) :
    Respects KeepsCover (unverifiedDistribute env originData caId portfolio currency perShare amount
      paymentAt expiresAt) := by
  intro s u s' h
  have hapart := unverifiedDistribute_apart env (Footprint.notMem_any _) _ _ _ _ _ _ _ _ h
  simp [unverifiedDistribute] at h
  obtain ⟨-, -, hexpiry, -, -, -, ca, -, -, -, ⟨_, hfree⟩, -, rfl⟩ := h
  have hfree := (Portfolio.ensureSufficientBalance_ok hfree).1
  refine setDistribution_keepsCover (s.mapPortfolio _) (claims_sameRecords (.of_eq rfl)) rfl rfl
    hapart ?_ fun hs k => ?_
  · rintro - d ⟨rfl⟩
    exact ⟨hexpiry, fun _ => rfl⟩
  · rw [uncheckedLockTokens_reserve hs.ledger hfree]
    simp only [Option.elim_some, Distribution.due]
    omega

theorem transferBenefit_keepsCover (holder : IdentityId) (caId : CAId) :
    Respects KeepsCover (transferBenefit env holder caId) := by
  intro s u s' h
  have hapart := transferBenefit_apart env (Footprint.notMem_any _) (Footprint.env_mem_any env) _ _ h
  simp [transferBenefit, ensureActiveDistribution, ensureDistributionExists, unlock] at h
  obtain ⟨-, d, ⟨hd, hstarted, -⟩, ca, -, -, benefit, -, hle, _, s₂, ⟨_, s₁, hunlock, htransfer⟩,
    rfl⟩ := h
  have hmove := Asset.baseTransfer_movements env (Footprint.env_mem_any env) _ _ _ _ htransfer
  have hsame := (unlockTokens_onlyPortfolio _ _ _ hunlock).sameRecords.trans hmove.sameRecords
  have hclaims : claims (s₂.mapDistribution (setHolderPaid caId holder)) = claims s := by
    rw [← claims_sameRecords hsame]
    funext c
    cases c <;> rfl
  have hdistributions := congrArg (·.distributions) hsame.distribution
  refine setDistribution_keepsCover _ hclaims hsame.system hdistributions hapart ?_
    fun hs k => ?_
  · rintro hs d' ⟨rfl⟩
    exact ⟨(hs.distributions caId d hd).expiry, fun hlt => absurd hstarted (not_le.mpr hlt)⟩
  · have hs₁ := Effects.ledgerInv (Portfolio.unlockTokens_effects _ _ _ hunlock) hs.ledger
    have hreserve := unlockTokens_reserve hunlock k
    rw [claims_distribution hd]
    change _ + reserve s k ≤ _ + reserve s₂ k
    rw [Movements.reserve_eq hmove hs₁]
    simp only [Option.elim_some, Distribution.due]
    split_ifs at hreserve ⊢ <;> omega

theorem reclaim_keepsCover (caId : CAId) : Respects KeepsCover (reclaim env origin caId) := by
  intro s u s' h
  have hapart := reclaim_apart env origin (Footprint.notMem_any _) caId h
  simp [reclaim, ensureDistributionExists, unlock] at h
  obtain ⟨_, -, d, hd, -, hexpired, -, _, s₁, hunlock, rfl⟩ := h
  have hsame := (unlockTokens_onlyPortfolio _ _ _ hunlock).sameRecords
  have hdistributions := congrArg (·.distributions) hsame.distribution
  refine setDistribution_keepsCover _ (claims_sameRecords hsame) hsame.system hdistributions
    hapart ?_ fun hs k => ?_
  · rintro hs d' ⟨rfl⟩
    have hsound := hs.distributions caId d hd
    refine ⟨hsound.expiry, fun hlt => ?_⟩
    -- what has expired by now had not at the payment, so the payment is past
    have hpaid := expired_mono hlt.le hexpired
    rw [hsound.expiry] at hpaid
    cases hpaid
  · have hreserve := unlockTokens_reserve hunlock k
    rw [claims_distribution hd]
    simp only [Option.elim_some, Distribution.due]
    split_ifs at hreserve ⊢ <;> omega

theorem unverifiedRemoveDistribution_keepsCover (hd : s.distribution.distributions caId = some d)
    (h : unverifiedRemoveDistribution caId d s = (.ok u, s')) : KeepsCover s s' := by
  have hapart := unverifiedRemoveDistribution_apart (Footprint.notMem_any _) caId d h
  simp [unverifiedRemoveDistribution, ensureDistributionNotStarted, unlock] at h
  obtain ⟨hnow, _, s₁, hunlock, rfl⟩ := h
  have hsame := (unlockTokens_onlyPortfolio _ _ _ hunlock).sameRecords
  have hdistributions := congrArg (·.distributions) hsame.distribution
  refine setDistribution_keepsCover _ (claims_sameRecords hsame) hsame.system hdistributions
    hapart ?_ fun hs k => ?_
  · rintro - d' ⟨⟩
  · have hreserve := unlockTokens_reserve hunlock k
    rw [claims_distribution hd, Distribution.due, (hs.distributions caId d hd).unclaimed hnow]
    simp only [Option.elim_none]
    split_ifs at hreserve ⊢ <;> omega

theorem removeDistribution_keepsCover (caId : CAId) :
    Respects KeepsCover (removeDistribution env origin caId) := by
  intro s u s' h
  simp [removeDistribution, ensureDistributionExists] at h
  obtain ⟨-, d, hd, h⟩ := h
  exact unverifiedRemoveDistribution_keepsCover hd h

theorem removeCa_keepsCover (caId : CAId) :
    Respects KeepsCover (removeCa env origin caId) := by
  intro s u s' h
  simp [removeCa, onlyIf_ok] at h
  obtain ⟨-, ca, -, ⟨-, h⟩ | ⟨-, rfl⟩⟩ := h
  · cases hd : s.distribution.distributions caId with
    | some d =>
      rw [hd] at h
      exact unverifiedRemoveDistribution_keepsCover hd h
    | none =>
      rw [hd] at h
      simp [removeDistributionIfAny] at h
      subst h
      exact refl s
  · exact refl s

end CapitalDistribution

/-! ## Every call and every step -/

theorem respects_keepsCover {α : Type} {x : Dispatch α} (h : Respects Movements x) :
    Respects KeepsCover x := fun _ _ _ hs => Movements.keepsCover (h hs)

/-- **Every call keeps the claims secured.** -/
theorem dispatch_keepsCover (env : Env) (origin : RuntimeOrigin) (call : Call) :
    Respects KeepsCover (dispatch env origin call) := by
  cases call with
  | redeemNft ticker id kind =>
    intro s u s' h hs
    obtain ⟨p, -, -, rfl⟩ := NFT.redeemNft_ok h
    refine ⟨hs.of_sameRecords (.of_eq rfl) ?_, ?_⟩
    · exact hs.ledger.of_same ⟨fun _ => rfl, rfl, rfl, rfl, rfl, fun h => h⟩
    · exact Secures.refl _ _
  | addInstruction =>
    exact .read_bind fun _ => .bind (baseAddInstruction_keepsCover _ _ _ _ _ _ _) fun _ => .pure _
  | addAndAffirmInstruction =>
    exact .read_bind fun _ => .bind (baseAddInstruction_keepsCover _ _ _ _ _ _ _) fun _ =>
      .bind (baseAffirmInstruction_keepsCover _ _) fun _ =>
        .modify maybeScheduleInstruction_keepsCover
  | affirmInstruction id portfolios count =>
    exact .bind (baseAffirmInstruction_keepsCover portfolios count) fun _ =>
      .modify maybeScheduleInstruction_keepsCover
  | affirmWithReceipts id receipts portfolios count =>
    exact .bind (baseAffirmWithReceipts_keepsCover receipts portfolios count) fun _ =>
      .modify maybeScheduleInstruction_keepsCover
  | withdrawAffirmation id portfolios count =>
    exact withdrawAffirmation_keepsCover portfolios count
  | affirmInstructionAsMediator id expiry => exact affirmInstructionAsMediator_keepsCover expiry
  | withdrawAffirmationAsMediator id => exact withdrawAffirmationAsMediator_keepsCover
  | rejectInstruction id portfolio count => exact rejectInstruction_keepsCover portfolio count
  | executeManualInstruction id =>
    intro s u s' h
    obtain ⟨s₁, hexec, rfl⟩ := executeManualInstruction_ok env origin id h
    exact execute_prune_keepsCover hexec
  | executeScheduledInstruction id => exact executeScheduledInstruction_keepsCover
  | createFundraiser => exact Sto.createFundraiser_keepsCover _ _ _ _ _ _ _ _ _
  | invest => exact Sto.invest_keepsCover _ _ _ _ _ _ _
  | setFrozen offeringAsset id frozen => exact Sto.setFrozen_keepsCover offeringAsset id frozen
  | modifyFundraiserWindow offeringAsset id start end_ =>
    exact Sto.modifyFundraiserWindow_keepsCover offeringAsset id start end_
  | stop offeringAsset id => exact Sto.stop_keepsCover offeringAsset id
  | distribute =>
    exact .read_bind fun _ => CapitalDistribution.unverifiedDistribute_keepsCover _ _ _ _ _ _ _ _
  | initiateCorporateActionAndDistribute =>
    exact .read_bind fun _ => .transaction <| .read_bind fun _ =>
      CapitalDistribution.unverifiedDistribute_keepsCover _ _ _ _ _ _ _ _
  | claim caId =>
    exact .read_bind fun holder => CapitalDistribution.transferBenefit_keepsCover holder caId
  | pushBenefit caId holder =>
    exact .read_bind fun _ => CapitalDistribution.transferBenefit_keepsCover holder caId
  | reclaim caId => exact CapitalDistribution.reclaim_keepsCover caId
  | removeDistribution caId => exact CapitalDistribution.removeDistribution_keepsCover caId
  | removeCa caId => exact CapitalDistribution.removeCa_keepsCover caId
  | _ =>
    exact respects_keepsCover (dispatch_movements (Footprint.env_mem_any env) origin
      (fun r _ => Footprint.notMem_any r) rfl)

theorem nextBlock_keepsCover (elapsed : Moment) (s : Storage) :
    KeepsCover s (step (.nextBlock elapsed) s) := by
  intro hs
  refine ⟨⟨?_, hs.ledger.of_same (.of_eq rfl), fun caId d hd => ?_⟩, ?_⟩
  · exact SameInstructions.inv (s := s) ⟨rfl, rfl⟩ hs.instructions
  · have hsound := hs.distributions caId d hd
    exact ⟨hsound.expiry, fun hlt => hsound.unclaimed ((Nat.le_add_right _ elapsed).trans_lt hlt)⟩
  · exact Secures.refl _ _

theorem step_keepsCover (a : Action) (s : Storage) : KeepsCover s (step a s) := by
  cases a with
  | extrinsic env origin call =>
    rcases step_extrinsic env origin call s with hs | hs
    · rw [hs]
      exact refl s
    · exact dispatch_keepsCover env origin call hs
  | scheduled env id =>
    simp only [step]
    split
    · exact IsTrans.trans _ _ _ (cancelNamed_keepsCover s) ((Atomic.transaction _).rel_run
        (.transaction executeScheduledInstruction_keepsCover) _)
    · exact refl s
  | nextBlock elapsed => exact nextBlock_keepsCover elapsed s

/-- The books are in order, and what is locked covers the claims. -/
structure CoverInv (s : Storage) : Prop where
  books : BookInv s
  covered : Covered (claims s) (reserve s)

theorem genesis_coverInv : CoverInv genesis where
  books := ⟨instructionsInv_genesis, genesis_ledgerInv, fun _ _ h => by cases h⟩
  covered k := by
    have hzero : ∀ c, claims genesis c k = 0 := fun c => by cases c <;> rfl
    rw [Finset.sum_eq_zero fun c _ => hzero c]
    exact Nat.zero_le _

/-- **What is locked covers the claims in every state of the chain.** -/
theorem reachable_coverInv {s : Storage} (h : Reachable s) : CoverInv s :=
  h.invariant CoverInv genesis_coverInv fun s a hs =>
    ⟨(step_keepsCover a s hs.books).1, hs.covered.secures (step_keepsCover a s hs.books).2⟩

end Polymesh
