import Polymesh.Effects.Calls

/-!
# The effects of a step

Every call has a footprint: the aspects that it changes other than along with balances, and the
portfolios that it may send tokens to without a check. A call other than a redemption of a token
is a sequence of effects within its footprint, and so is every step of the chain.
-/

namespace Polymesh

open Transactional Tx Collections Relation

/-! ## Footprints of calls -/

/-- The aspects that a call changes other than along with balances. -/
def Call.touches : Call → List Aspect
  | .createPortfolio .. | .renamePortfolio .. => [.registry]
  | .deletePortfolio .. => [.portfolios, .custody, .registry]
  | .quitPortfolioCustody .. | .acceptPortfolioCustody .. => [.custody]
  | .createCustodyPortfolio .. => [.custody, .registry]
  | .registerTicker .. | .acceptTickerTransfer .. | .acceptAssetOwnershipTransfer ..
  | .createAsset .. | .createNftCollection .. => [.ownership]
  | .createCheckpoint .. | .setSchedulesMaxComplexity .. | .createSchedule ..
  | .removeSchedule .. => [.checkpoints]
  | .setActiveAssetStats .. | .batchUpdateAssetStats .. | .setAssetTransferCompliance .. =>
    [.statistics]
  | .createVenue .. | .updateVenueSigners .. => [.venues]
  | .addInstruction .. | .addAndAffirmInstruction .. | .rejectInstruction ..
  | .executeManualInstruction .. | .executeScheduledInstruction .. => [.legs]
  | .affirmWithReceipts .. => [.receipts]
  | .invest _ _ _ _ _ _ receipt => .legs :: if receipt.isSome then [.receipts] else []
  | .distribute .. | .initiateCorporateActionAndDistribute .. | .claim .. | .pushBenefit ..
  | .reclaim .. | .removeDistribution .. | .removeCa .. => [.distributions]
  | _ => []

/-- The portfolios that a call sends tokens to without a check that they exist. An investment
executes the instruction that it adds. -/
def Call.receivers (s : Storage) : Call → Set PortfolioId
  | .executeManualInstruction id .. | .executeScheduledInstruction id =>
    Settlement.tokenReceivers id s
  | .invest .. => Settlement.tokenReceivers s.settlement.instructionCounter s
  | _ => ∅

/-- The footprint of a call. -/
def Call.footprint (env : Env) (s : Storage) (call : Call) : Footprint :=
  ⟨{env}, {r | r ∉ call.touches}, call.receivers s⟩

/-! ## Calls -/

/-- The calls that lock nothing and change no record. -/
def Call.movesOnly : Call → Bool
  | .redeemNft .. | .addInstruction .. | .addAndAffirmInstruction .. | .affirmInstruction ..
  | .affirmWithReceipts .. | .withdrawAffirmation .. | .affirmInstructionAsMediator ..
  | .withdrawAffirmationAsMediator .. | .rejectInstruction .. | .executeManualInstruction ..
  | .executeScheduledInstruction .. | .createFundraiser .. | .invest .. | .setFrozen ..
  | .modifyFundraiserWindow .. | .stop .. | .distribute ..
  | .initiateCorporateActionAndDistribute .. | .claim .. | .pushBenefit .. | .reclaim ..
  | .removeDistribution .. | .removeCa .. => false
  | _ => true

variable {f : Footprint}

variable {env : Env} {call : Call} {origin : RuntimeOrigin} {s s' : Storage} {u : Unit}

theorem dispatch_movements (henv : env ∈ f.envs) (origin : RuntimeOrigin)
    (hf : ∀ r ∈ call.touches, r ∉ f.kept) (h : call.movesOnly) :
    Respects (MovementsIn f) (dispatch env origin call) := by
  cases call with
  | createPortfolio name =>
    exact .read_bind fun did => Portfolio.baseCreatePortfolio_movements env
      (hf _ List.mem_cons_self) did name
  | deletePortfolio num =>
    exact Portfolio.deletePortfolio_movements env origin (hf _ List.mem_cons_self)
      (hf _ (List.mem_cons_of_mem _ List.mem_cons_self)) (hf _ (by simp [Call.touches])) num
  | renamePortfolio num toName =>
    exact .read_bind fun _ => .read_bind fun _ => .read_bind fun _ => .read_bind fun _ =>
      respects_modify_other (fun _ => .of_eq rfl) (fun _ => .of_eq rfl) fun _ =>
        keeps_setRegistry (hf _ List.mem_cons_self)
          (fun _ hp => Portfolio.exists_setName hp rfl) rfl
  | quitPortfolioCustody pid =>
    exact .read_bind fun _ => .bind .get fun _ => .ensure_bind fun _ =>
      respects_modify_other (fun _ => .of_eq rfl) (fun _ => .of_eq rfl)
        fun _ => keeps_setCustody (hf _ List.mem_cons_self) _ fun _ => rfl
  | acceptPortfolioCustody authId =>
    exact Portfolio.acceptPortfolioCustody_movements env origin (hf _ List.mem_cons_self) authId
  | movePortfolioFunds sender receiver funds =>
    exact Portfolio.movePortfolioFunds_movements env origin sender receiver funds
  | preApprovePortfolio | removePortfolioPreApproval =>
    exact .read_bind fun _ => .read_bind fun _ => .read_bind fun _ =>
      respects_write_elsewhere fun _ => rfl
  | allowIdentityToCreatePortfolios | revokeCreatePortfoliosPermission
  | exemptTickerAffirmation | removeTickerAffirmationExemption | preApproveTicker
  | removeTickerPreApproval | setVenueFiltering | allowVenues | disallowVenues =>
    exact .read_bind fun _ => respects_write_elsewhere fun _ => rfl
  | createCustodyPortfolio owner name =>
    have hregistry : .registry ∉ f.kept := hf _ (List.mem_cons_of_mem _ List.mem_cons_self)
    exact .read_bind fun _ => .bind .get fun _ => .ensure_bind fun _ =>
      .bind (Portfolio.baseCreatePortfolio_movements env hregistry owner name) fun _ =>
        respects_modify_other (fun _ => .of_eq rfl) (fun _ => .of_eq rfl)
          fun _ => keeps_setCustody (hf _ List.mem_cons_self) _ fun _ => rfl
  | registerTicker ticker =>
    exact Asset.registerTicker_movements env origin (hf _ List.mem_cons_self) ticker
  | acceptTickerTransfer authId =>
    exact Asset.acceptTickerTransfer_movements env origin (hf _ List.mem_cons_self) authId
  | acceptAssetOwnershipTransfer authId =>
    exact Asset.acceptAssetOwnershipTransfer_movements env origin (hf _ List.mem_cons_self) authId
  | createAsset ticker divisible assetType =>
    exact fun _ _ _ h =>
      (Asset.createAsset_movement env origin (hf _ List.mem_cons_self) h).1.movements
  | issue ticker amount kind => exact Asset.baseIssue_movements env origin henv ticker amount kind
  | redeem ticker value kind => exact Asset.baseRedeem_movements env origin henv ticker value kind
  | controllerTransfer ticker value sender =>
    exact Asset.baseControllerTransfer_movements env origin henv ticker value sender
  | makeDivisible ticker => exact Asset.makeDivisible_movements env origin ticker
  | updateAssetType ticker assetType =>
    exact Asset.updateAssetType_movements env origin ticker assetType
  | setFreeze =>
    exact .read_bind fun _ => .read_bind fun _ => .bind .get fun _ => .ensure_bind fun _ =>
      respects_write_elsewhere fun _ => rfl
  | addMandatoryMediators =>
    exact .read_bind fun _ => .bind .get fun _ => .ensure_bind fun _ =>
      respects_write_elsewhere fun _ => rfl
  | removeMandatoryMediators =>
    exact .read_bind fun _ => .bind .get fun _ => respects_write_elsewhere fun _ => rfl
  | createCheckpoint ticker =>
    exact .read_bind fun _ => .bind .get fun _ => .read_bind fun _ =>
      Checkpoint.respects_setCheckpoints (hf _ List.mem_cons_self) ticker _
  | setSchedulesMaxComplexity maxComplexity =>
    exact Checkpoint.setSchedulesMaxComplexity_movements origin (hf _ List.mem_cons_self)
      maxComplexity
  | createSchedule ticker schedule =>
    exact .read_bind fun _ => .read_bind fun _ => .bind .get fun _ => .ensure_bind fun _ =>
      .ensure_bind fun _ => .ensure_bind fun _ => .read_bind fun _ => .read_bind fun _ =>
        Checkpoint.respects_setCheckpoints (hf _ List.mem_cons_self) ticker _
  | removeSchedule ticker id =>
    exact .read_bind fun _ => .bind .get fun _ => .read_bind fun _ => .ensure_bind fun _ =>
      Checkpoint.respects_setCheckpoints (hf _ List.mem_cons_self) ticker _
  | setActiveAssetStats ticker | setAssetTransferCompliance ticker =>
    exact .read_bind fun _ => .ensure_bind fun _ => .bind .get fun _ => .ensure_bind fun _ =>
      Statistics.respects_setStatistics (hf _ List.mem_cons_self) ticker _
  | batchUpdateAssetStats ticker =>
    exact .read_bind fun _ => .bind .get fun _ => .ensure_bind fun _ =>
      Statistics.respects_setStatistics (hf _ List.mem_cons_self) ticker _
  | createNftCollection ticker hasNftType keys =>
    exact NFT.createNftCollection_movements env origin (hf _ List.mem_cons_self) ticker hasNftType
      keys
  | issueNft ticker attributes kind =>
    exact NFT.issueNft_movements env origin ticker attributes kind
  | nftControllerTransfer ticker nfts source kind =>
    exact NFT.controllerTransfer_movements env origin ticker nfts source kind
  | createVenue signers typ =>
    exact .read_bind fun _ => .ensure_bind fun _ => .bind .get fun _ => .read_bind fun _ =>
      .modify fun s => (Settlement.movement_setVenueSigners (hf _ List.mem_cons_self) _ signers
        true signers.length _ _ s).movements
  | updateVenueType id typ => exact Settlement.updateVenueType_movements env origin id typ
  | updateVenueSigners id signers addSigners =>
    exact Settlement.updateVenueSigners_movements env origin (hf _ List.mem_cons_self) id signers
      addSigners
  | _ => cases h

/-- The calls of fundraisers and distributions that leave the instructions alone. -/
def Call.apart : Call → Bool
  | .createFundraiser .. | .setFrozen .. | .modifyFundraiserWindow .. | .stop .. | .distribute ..
  | .initiateCorporateActionAndDistribute .. | .claim .. | .pushBenefit .. | .reclaim ..
  | .removeDistribution .. | .removeCa .. => true
  | _ => false

theorem dispatch_apart (henv : env ∈ f.envs) (origin : RuntimeOrigin)
    (hf : ∀ r ∈ call.touches, r ∉ f.kept) (h : call.apart) :
    Respects (Apart f) (dispatch env origin call) := by
  cases call with
  | createFundraiser => exact Sto.createFundraiser_apart env origin _ _ _ _ _ _ _ _ _
  | setFrozen =>
    exact .read_bind fun _ => .read_bind fun _ => .ensure_bind fun _ => respects_mapSto _
  | modifyFundraiserWindow =>
    exact .read_bind fun _ => .read_bind fun _ => .ensure_bind fun _ => .bind .get fun _ =>
      .ensure_bind fun _ => .ensure_bind fun _ => respects_mapSto _
  | stop offeringAsset id => exact Sto.stop_apart env origin offeringAsset id
  | distribute =>
    exact .read_bind fun _ => CapitalDistribution.unverifiedDistribute_apart env
      (hf _ List.mem_cons_self) _ _ _ _ _ _ _ _
  | initiateCorporateActionAndDistribute =>
    exact .read_bind fun _ => .transaction <| .read_bind fun _ =>
      CapitalDistribution.unverifiedDistribute_apart env (hf _ List.mem_cons_self) _ _ _ _ _ _ _ _
  | claim caId | pushBenefit caId _ =>
    exact .read_bind fun _ => CapitalDistribution.transferBenefit_apart env
      (hf _ List.mem_cons_self) henv _ caId
  | reclaim caId => exact CapitalDistribution.reclaim_apart env origin (hf _ List.mem_cons_self) caId
  | removeDistribution caId =>
    exact .read_bind fun _ => .read_bind fun dist =>
      CapitalDistribution.unverifiedRemoveDistribution_apart (hf _ List.mem_cons_self) caId dist
  | removeCa caId =>
    exact CapitalDistribution.removeCa_apart env origin (hf _ List.mem_cons_self) caId
  | _ => cases h

/-- **A call other than a redemption of a token is a sequence of effects** within every footprint
that allows for what it touches and where it sends tokens. -/
theorem dispatch_effects (henv : env ∈ f.envs) (hf : ∀ r ∈ call.touches, r ∉ f.kept)
    (hreceivers : call.receivers s ⊆ f.receivers)
    (hcall : ∀ ticker id kind, call ≠ .redeemNft ticker id kind)
    (h : dispatch env origin call s = (.ok u, s')) : EffectsIn f s s' := by
  cases call with
  | redeemNft ticker id kind => exact absurd rfl (hcall ticker id kind)
  | addInstruction =>
    exact (Respects.read_bind fun _ => .bind (Settlement.baseAddInstruction_effects env
      (hf _ List.mem_cons_self) _ _ _ _ _ _ _) fun _ => .pure _) h
  | addAndAffirmInstruction venueId settlementType tradeDate valueDate legs portfolios =>
    exact (Respects.read_bind fun _ => .bind (Settlement.baseAddInstruction_effects env
      (hf _ List.mem_cons_self) _ _ _ _ _ _ _) fun id =>
        Settlement.affirmAndMaybeScheduleInstruction_effects env origin id portfolios none) h
  | affirmInstruction id portfolios count =>
    exact Settlement.affirmAndMaybeScheduleInstruction_effects env origin id portfolios count h
  | affirmWithReceipts id receipts portfolios count =>
    exact (Respects.bind (Settlement.baseAffirmWithReceipts_effects env origin id
      (hf _ List.mem_cons_self) receipts portfolios count) fun _ =>
        Settlement.respects_maybeScheduleInstruction id) h
  | withdrawAffirmation id portfolios count =>
    exact (Respects.read_bind fun ⟨_, _⟩ =>
      .bind (Settlement.unsafeWithdrawInstructionAffirmation_effects env id _ _ _ _) fun _ =>
        .onlyIf (respects_write_record fun _ => rfl)) h
  | affirmInstructionAsMediator id expiry =>
    exact Settlement.affirmInstructionAsMediator_effects env origin id expiry h
  | withdrawAffirmationAsMediator id =>
    exact Settlement.withdrawAffirmationAsMediator_effects env origin id h
  | rejectInstruction id portfolio count =>
    exact Settlement.rejectInstruction_effects env origin id (hf _ List.mem_cons_self) portfolio
      count h
  | executeManualInstruction id portfolio inputCost =>
    simp [dispatch, Settlement.executeManualInstruction] at h
    obtain ⟨-, data, details, -, -, -, h⟩ := h
    exact Settlement.executeInstructionRetryable_effects env id henv (hf _ List.mem_cons_self)
      hreceivers h
  | executeScheduledInstruction id =>
    exact Settlement.executeScheduledInstruction_effects env origin id henv
      (hf _ List.mem_cons_self) hreceivers h
  | invest =>
    refine Sto.invest_effects env origin henv (hf _ List.mem_cons_self) (fun hsome => ?_)
      hreceivers h
    exact hf _ (List.mem_cons_of_mem _ (by rw [if_pos hsome]; exact List.mem_cons_self))
  | createFundraiser | setFrozen | modifyFundraiserWindow | stop | distribute
  | initiateCorporateActionAndDistribute | claim | pushBenefit | reclaim | removeDistribution
  | removeCa => exact (dispatch_apart henv origin hf rfl h).effects
  | _ => exact (dispatch_movements henv origin hf rfl h).effects

/-! ## Steps -/

/-- The footprint of what happens next on the chain. -/
def Action.footprint (s : Storage) : Action → Footprint
  | .extrinsic env _ call => call.footprint env s
  | .scheduled env id => ⟨{env}, {r | r ≠ .legs}, Settlement.tokenReceivers id s⟩
  | .nextBlock _ => ⟨∅, {r | r ≠ .clock}, ∅⟩

/-- The token that an action asks to redeem, with the portfolio of its caller. -/
def Action.redeems : Action → Option (PortfolioId × Ticker × NFTId)
  | .extrinsic env origin (.redeemNft ticker id kind) =>
    match env.ensureOriginCallPermissions origin with
    | .ok originData => some (⟨originData.primaryDid, kind⟩, ticker, id)
    | .error _ => none
  | _ => none

theorem NFT.redeemNft_ok {ticker : Ticker} {nftId : NFTId} {kind : PortfolioKind}
    (h : redeemNft env origin ticker nftId kind s = (.ok u, s')) :
    ∃ p, (Action.extrinsic env origin (.redeemNft ticker nftId kind)).redeems =
        some (p, ticker, nftId) ∧
      (ticker, nftId) ∈ s.portfolio.portfolioNFT p ∧
      s' = writeRedeem (ticker, nftId) p (s.nft.nftsInCollection ticker - 1)
        (s.nft.numberOfNFTs ticker p.did - 1) s := by
  simp [redeemNft, Asset.ensureOriginTickerAndPortfolioPermissions,
    ExternalAgents.ensureAgentAssetPerms, ExternalAgents.ensureAssetPerms] at h
  obtain ⟨-, data, ⟨hdata, -⟩, hheld, -, -, rfl⟩ := h
  exact ⟨⟨data.primaryDid, kind⟩, by simp [Action.redeems, hdata], hheld, rfl⟩

/-- **Every step of the chain is a sequence of effects within its footprint, or redeems one
token.** -/
theorem step_effectsIn (a : Action) (s : Storage) :
    EffectsIn (a.footprint s) s (step a s) ∨
      ∃ p x, a.redeems = some (p, x) ∧ x ∈ s.portfolio.portfolioNFT p ∧
        step a s = NFT.writeRedeem x p (s.nft.nftsInCollection x.1 - 1)
          (s.nft.numberOfNFTs x.1 p.did - 1) s := by
  cases a with
  | extrinsic env origin call =>
    rcases step_extrinsic env origin call s with hs | hs
    · rw [hs]
      exact .inl .refl
    · by_cases hcall : ∀ ticker id kind, call ≠ .redeemNft ticker id kind
      · have hf : ∀ r ∈ call.touches, r ∉ (call.footprint env s).kept :=
          fun r hr hkept => hkept hr
        exact .inl (dispatch_effects (Set.mem_singleton env) hf subset_rfl hcall hs)
      · obtain ⟨ticker, id, kind, rfl⟩ : ∃ ticker id kind, call = .redeemNft ticker id kind := by
          simpa using hcall
        obtain ⟨p, hp, hheld, hs'⟩ := NFT.redeemNft_ok hs
        exact .inr ⟨p, (ticker, id), hp, hheld, hs'⟩
  | scheduled env id =>
    refine .inl ?_
    simp only [step]
    split
    · have hcancel : Effect (Action.footprint s (.scheduled env id)) s
          (s.mapSystem (Settlement.cancelNamed id)) := .record (.of_eq rfl) (.of_eq rfl)
      have hf : .legs ∉ (Action.footprint s (.scheduled env id)).kept := fun hkept => hkept rfl
      refine .head hcancel ?_
      rcases (Atomic.transaction (Settlement.executeScheduledInstruction env .root id)).run_cases
        (s.mapSystem (Settlement.cancelNamed id)) with ⟨u, hs⟩ | ⟨e, hs⟩
      · exact Settlement.executeScheduledInstruction_effects env .root id (Set.mem_singleton env)
          hf subset_rfl (transaction_ok.mp hs)
      · rw [hs]
    · exact .refl
  | nextBlock elapsed =>
    refine .inl (.single (.record (.of_eq rfl) fun r hr => ?_))
    cases r with
    | clock => exact absurd rfl hr
    | _ => exact .of_same rfl

/-- **Every step of the chain is a sequence of effects, or redeems one token.** -/
theorem step_effects (a : Action) (s : Storage) :
    Effects s (step a s) ∨
      ∃ p x, a.redeems = some (p, x) ∧ x ∈ s.portfolio.portfolioNFT p ∧
        step a s = NFT.writeRedeem x p (s.nft.nftsInCollection x.1 - 1)
          (s.nft.numberOfNFTs x.1 p.did - 1) s :=
  (step_effectsIn a s).imp_left EffectsIn.any

/-- **An aspect that balances do not matter to is kept, unless a call that touches it succeeds.** -/
theorem step_kept_or_touches {r : Aspect} (hcp : r ≠ .checkpoints) (hst : r ≠ .statistics)
    (hlegs : r ≠ .legs) (hclock : r ≠ .clock) (a : Action) (s : Storage) :
    r.Kept s (step a s) ∨ ∃ env origin call, a = .extrinsic env origin call ∧
      r ∈ call.touches ∧ dispatch env origin call s = (.ok (), step a s) := by
  rcases step_effectsIn a s with h | ⟨p, x, -, -, h⟩
  · by_cases hf : r ∈ (a.footprint s).kept
    · exact .inl (h.kept hf hcp hst)
    · cases a with
      | extrinsic env origin call =>
        rcases step_extrinsic env origin call s with hstep | hstep
        · rw [hstep]
          exact .inl (r.kept_refl s)
        · exact .inr ⟨env, origin, call, rfl, not_not.mp hf, hstep⟩
      | scheduled env id => exact absurd hlegs hf
      | nextBlock elapsed => exact absurd hclock hf
  · rw [h]
    have hkeeps : Keeps {r} s (NFT.writeRedeem x p (s.nft.nftsInCollection x.1 - 1)
        (s.nft.numberOfNFTs x.1 p.did - 1) s) := .of_eq rfl
    exact .inl (hkeeps r rfl)

theorem Call.clock_notMem_touches (call : Call) : .clock ∉ call.touches := by
  cases call <;> simp [Call.touches]

/-- **Time does not go back.** -/
theorem step_now_le (a : Action) (s : Storage) : s.system.now ≤ (step a s).system.now := by
  by_cases hclock : .clock ∈ (a.footprint s).kept
  · rcases step_effectsIn a s with h | ⟨p, x, -, -, h⟩
    · have hsame : (step a s).system.now = s.system.now := h.kept hclock (by decide) (by decide)
      rw [hsame]
    · rw [h]
      exact le_rfl
  · cases a with
    | extrinsic env origin call => exact absurd call.clock_notMem_touches hclock
    | scheduled env id => exact absurd Aspect.noConfusion hclock
    | nextBlock elapsed => exact Nat.le_add_right _ _

end Polymesh
