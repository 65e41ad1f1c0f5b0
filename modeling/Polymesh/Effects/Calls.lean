import Polymesh.Effects.Holdings
import Polymesh.Library.AssocLists

/-!
# Calls that lock and unlock

The calls of the settlement, STO and capital distribution pallets lock and unlock as well as
move, and write the records of instructions, fundraisers and distributions.
-/

namespace Polymesh

open Transactional Tx Collections Relation

variable {f : Footprint}

/-! ## Locks -/

variable {s s' : Storage} {u : Unit} {did : IdentityId} {receipt : Option ReceiptDetails}

namespace Portfolio

variable {pid : PortfolioId} {ticker : Ticker} {amount : ℕ}

theorem lockTokens_ok (h : lockTokens pid ticker amount s = (.ok u, s')) :
    amount ≤ freeBalance pid ticker s ∧
      s' = s.mapPortfolio (uncheckedLockTokens pid ticker amount) := by
  simp [lockTokens] at h
  obtain ⟨⟨_, h⟩, rfl⟩ := h
  exact ⟨(ensureSufficientBalance_ok h).1, rfl⟩

theorem unlockTokens_ok : unlockTokens pid ticker amount s = (.ok u, s') ↔
      amount ≤ s.portfolio.portfolioLockedAssets pid ticker ∧
      s.mapPortfolio (setLocked pid ticker
        (s.portfolio.portfolioLockedAssets pid ticker - amount)) = s' := by
  simp [unlockTokens]

theorem lockTokens_effects (pid : PortfolioId) (ticker : Ticker) (amount : ℕ) :
    Respects (EffectsIn f) (lockTokens pid ticker amount) := by
  intro s u s' h
  obtain ⟨hfree, rfl⟩ := lockTokens_ok h
  exact (Effect.lock pid ticker amount hfree).effects

theorem unlockTokens_effects (pid : PortfolioId) (ticker : Ticker) (amount : ℕ) :
    Respects (EffectsIn f) (unlockTokens pid ticker amount) := by
  intro s u s' h
  obtain ⟨hlocked, rfl⟩ := unlockTokens_ok.mp h
  exact (Effect.unlock pid ticker amount hlocked).effects

theorem lockNft_effects (pid : PortfolioId) (nft : Ticker × NFTId) :
    Respects (EffectsIn f) (lockNft pid nft) := by
  intro s u s' h
  simp [lockNft] at h
  obtain ⟨hheld, hfree, rfl⟩ := h
  exact (Effect.lockNft pid nft hheld hfree).effects

end Portfolio

/-! ## Settlement -/

namespace Settlement

/-! ### What has been checked -/

section Inversions

variable {env : Env} {id : InstructionId}

theorem sortedLegs_perm : (sortedLegs env id s).Perm (s.legs id) :=
  (List.perm_insertionSort _ _).trans (env.legOrder_perm _)

theorem executeInstruction_ok (h : executeInstruction env id s = (.ok u, s')) :
    (s.settlement.instruction id).affirmsPending = 0 ∧
      ensureNonExpiredAffirmations env id s = .ok () ∧
      ((s.settlement.instruction id).status = .pending ∨
        (s.settlement.instruction id).status = .failed) ∧
      (forM (sortedLegs env id s) (transferPendingLeg env id))
        (uncheckedReleaseLocks id (sortedLegs env id s) s) = (.ok (), s') := by
  simp [executeInstruction, releaseAssetLocksAndTransferPendingLegs] at h
  obtain ⟨hcount, ⟨_, hmediators⟩, hstatus, -, -, h⟩ := h
  exact ⟨hcount, hmediators, hstatus, h⟩

theorem scheduleOnBlock_clock (id : InstructionId) (settlementType : SettlementType)
    (y : SystemStorage) :
    (scheduleOnBlock id settlementType y).now = y.now ∧
      (scheduleOnBlock id settlementType y).blockNumber = y.blockNumber := by
  cases settlementType with
  | settleOnBlock block =>
    simp only [scheduleOnBlock, scheduleInstruction]
    split <;> exact ⟨rfl, rfl⟩
  | settleOnAffirmation | settleManual => exact ⟨rfl, rfl⟩

theorem baseAddInstruction_ok {venueId : VenueId} {settlementType : SettlementType}
    {tradeDate valueDate : Option Moment} {legs : List Leg} {mediators : List IdentityId}
    (h : baseAddInstruction env did venueId settlementType tradeDate valueDate legs mediators s =
      (.ok id, s')) :
    ∃ info next y, ensureValidLegs env legs venueId s = .ok info ∧
      id = s.settlement.instructionCounter ∧ checkedInc id.id = some next ∧
      y.now = s.system.now ∧ y.blockNumber = s.system.blockNumber ∧
      s' = (s.mapSettlement fun t => insertInstruction id (info.extendMediators mediators) legs
        ⟨id, venueId, settlementType, some s.system.now, tradeDate, valueDate⟩
        { t with instructionCounter := ⟨next⟩ }).mapSystem fun _ => y := by
  simp [baseAddInstruction] at h
  obtain ⟨-, -, -, info, hlegs, next, hnext, rfl, rfl⟩ := h
  have hclock := scheduleOnBlock_clock s.settlement.instructionCounter settlementType s.system
  exact ⟨info, next, _, hlegs, rfl, hnext, hclock.1, hclock.2, rfl⟩

end Inversions

variable (env : Env) (origin : RuntimeOrigin) (id : InstructionId)

/-! ### Locks and affirmations -/

variable (leg : Leg) (portfolios : List PortfolioId) (count : Option AffirmationCount)

theorem lockViaLeg_effects : Respects (EffectsIn f) (lockViaLeg leg) := by
  cases leg with
  | fungible sender receiver ticker amount =>
    exact Portfolio.lockTokens_effects sender ticker amount
  | nonFungible sender receiver nfts =>
    exact .transaction (.forM fun x _ => Portfolio.lockNft_effects sender x)
  | offChain => exact .fail _

theorem unlockViaLeg_effects : Respects (EffectsIn f) (unlockViaLeg leg) := by
  cases leg with
  | fungible sender receiver ticker amount =>
    exact Portfolio.unlockTokens_effects sender ticker amount
  | nonFungible sender receiver nfts =>
    exact .transaction <| .forM fun x _ => .bind .get fun _ => .ensure_bind fun _ =>
      .modify fun _ => (Effect.unlockNft sender x).effects
  | offChain => exact .fail _

theorem viaLeg_respects {R : Storage → Storage → Prop} [Std.Refl R] [IsTrans Storage R]
    (hR : ∀ s assets nfts, R s { s with portfolio := { s.portfolio with
      portfolioLockedAssets := assets, portfolioLockedNFT := nfts } }) :
    Respects R (lockViaLeg leg) ∧ Respects R (unlockViaLeg leg) := by
  cases leg with
  | fungible =>
    exact ⟨.read_bind fun _ => .modify fun _ => hR .., .bind .get fun _ => .ensure_bind fun _ =>
      .modify fun _ => hR ..⟩
  | nonFungible =>
    refine ⟨.transaction (.forM fun _ _ => ?_), .transaction (.forM fun _ _ => ?_)⟩
    · exact .bind .get fun _ => .ensure_bind fun _ => .ensure_bind fun _ => .modify fun _ => hR ..
    · exact .bind .get fun _ => .ensure_bind fun _ => .modify fun _ => hR ..
  | offChain => exact ⟨.fail _, .fail _⟩

theorem unlockViaLeg_atomic : Atomic (unlockViaLeg leg) := by
  cases leg with
  | fungible sender receiver ticker amount =>
    exact .get_bind fun _ => .ensure_bind (.modify _)
  | nonFungible sender receiver nfts => exact .transaction _
  | offChain => exact .fail _

theorem respects_setLegStatus (legId : LegId) {status : LegStatus}
    (hstatus : ∀ signer uid, status ≠ .executionToBeSkipped signer uid) :
    Respects (EffectsIn f)
      (Tx.modify (Storage.mapSettlement (setLegStatus id legId status)) : Dispatch Unit) := by
  refine respects_modify_record (fun _ => .of_eq rfl) fun s r _ => ?_
  cases r with
  | receipts =>
    refine ⟨rfl, fun id' legId' signer uid hmark => ?_⟩
    simp only [Storage.mapSettlement, setLegStatus, update₂_apply] at hmark
    split_ifs at hmark
    · exact absurd hmark (hstatus signer uid)
    · exact hmark
  | _ => exact .of_same rfl

theorem lockLeg_effects (l : LegId × Leg) : Respects (EffectsIn f) (lockLeg id l) :=
  .bind (lockViaLeg_effects l.2) fun _ => respects_setLegStatus id l.1 fun _ _ => nofun

theorem unlockByStatus_effects (status : LegStatus) :
    Respects (EffectsIn f) (unlockByStatus leg status) := by
  cases status with
  | executionToBeSkipped => exact .fail _
  | executionPending => exact unlockViaLeg_effects leg
  | pendingTokenLock => exact .fail _

theorem uncheckedReleaseLocks_rel {R : Storage → Storage → Prop} [Std.Refl R] [IsTrans Storage R]
    (hR : ∀ leg, Respects R (unlockViaLeg leg)) (legs : List (LegId × Leg)) (s : Storage) :
    R s (uncheckedReleaseLocks id legs s) := by
  induction legs generalizing s with
  | nil => exact refl s
  | cons l legs ih =>
    refine IsTrans.trans _ _ _ ?_ (ih (releaseLock id s l))
    unfold releaseLock
    split
    · exact (unlockViaLeg_atomic l.2).rel_run (hR l.2) s
    · exact refl s
    · exact refl s

theorem uncheckedReleaseLocks_effects (legs : List (LegId × Leg)) (s : Storage) :
    EffectsIn f s (uncheckedReleaseLocks id legs s) :=
  uncheckedReleaseLocks_rel id unlockViaLeg_effects legs s

theorem respects_mapSystem {g : SystemStorage → SystemStorage} (h : ∀ y, (g y).now = y.now) :
    Respects (EffectsIn f) (Tx.modify (Storage.mapSystem g) : Dispatch Unit) := by
  refine respects_modify_record (fun _ => .of_eq rfl) fun s r _ => ?_
  cases r with
  | clock => exact h s.system
  | _ => exact .of_same rfl

theorem scheduleInstruction_now (executionAt : BlockNumber) (y : SystemStorage) :
    (scheduleInstruction id executionAt y).now = y.now := by
  unfold scheduleInstruction
  split <;> rfl

theorem effect_setInstruction (hf : .legs ∉ f.kept) {g : SettlementStorage → SettlementStorage}
    (hvenues : (g s.settlement).venues = s.settlement.venues)
    (hused : (g s.settlement).receiptsUsed = s.settlement.receiptsUsed)
    (hmarks : ∀ id legId signer uid,
      (g s.settlement).instructionLegStatus id legId = .executionToBeSkipped signer uid →
      s.settlement.instructionLegStatus id legId = .executionToBeSkipped signer uid) :
    Effect f s (s.mapSettlement g) := by
  refine .record (.of_eq rfl) fun r hr => ?_
  cases r with
  | legs => exact absurd hr hf
  | venues => exact .of_same hvenues
  | receipts => exact ⟨hused, hmarks⟩
  | _ => exact .of_same rfl

theorem pruneInstruction_effect (hf : .legs ∉ f.kept) (executed : Bool) (s : Storage) :
    Effect f s (pruneInstruction id executed s) := by
  unfold pruneInstruction
  refine effect_setInstruction hf rfl rfl fun id' legId signer uid hmark => ?_
  change Function.update s.settlement.instructionLegStatus id _ id' legId = _ at hmark
  by_cases hid : id' = id
  · subst hid
    simp at hmark
  · rwa [Function.update_of_ne hid] at hmark

theorem baseAddInstruction_effects (hf : .legs ∉ f.kept) (did : IdentityId) (venueId : VenueId)
    (settlementType : SettlementType) (tradeDate valueDate : Option Moment) (legs : List Leg)
    (mediators : List IdentityId) :
    Respects (EffectsIn f)
      (baseAddInstruction env did venueId settlementType tradeDate valueDate legs mediators) :=
  .read_bind fun _ => .read_bind fun _ => .read_bind fun _ => .read_bind fun _ =>
    .bind .get fun _ => .read_bind fun _ => .bind (respects_write_record fun _ => rfl) fun _ =>
        .bind (.modify fun _ => (effect_setInstruction hf rfl rfl fun _ _ _ _ h => h).effects)
          fun _ => .bind (respects_mapSystem fun y => (scheduleOnBlock_clock _ settlementType y).1) fun _ =>
            .pure _

theorem unsafeAffirmInstruction_effects (did : IdentityId) (portfolios : List PortfolioId)
    (secondaryKey : Option SecondaryKey) (count : Option AffirmationCount) :
    Respects (EffectsIn f) (unsafeAffirmInstruction env did id portfolios secondaryKey count) :=
  .read_bind fun _ => .bind .get fun _ => .read_bind fun _ =>
    .bind (.forM fun l _ => lockLeg_effects id l) fun _ =>
      .bind (respects_write_record fun _ => rfl) fun _ => respects_write_record fun _ => rfl

theorem baseAffirmInstruction_effects :
    Respects (EffectsIn f) (baseAffirmInstruction env origin id portfolios count) :=
  .read_bind fun ⟨_, _⟩ => unsafeAffirmInstruction_effects env id _ _ _ _

theorem foldl_claimReceipt_eq (receipts : List ReceiptDetails) (t : SettlementStorage) :
    ∃ status offChain used, receipts.foldl (claimReceipt id) t =
      { t with
        instructionLegStatus := status
        offChainAffirmations := offChain
        receiptsUsed := used } := by
  induction receipts generalizing t with
  | nil => exact ⟨_, _, _, rfl⟩
  | cons receipt receipts ih =>
    obtain ⟨status, offChain, used, h⟩ := ih (claimReceipt id t receipt)
    exact ⟨status, offChain, used, h⟩

theorem respects_claimReceipts (hf : .receipts ∉ f.kept) (receipts : List ReceiptDetails) :
    Respects (EffectsIn f) (Tx.modify (Storage.mapSettlement fun t =>
      receipts.foldl (claimReceipt id) t) : Dispatch Unit) := by
  refine .modify fun s => ?_
  obtain ⟨status, offChain, used, heq⟩ := foldl_claimReceipt_eq id receipts s.settlement
  simp only [Storage.mapSettlement, heq]
  refine .single (.record (.of_eq rfl) fun r hr => ?_)
  cases r with
  | receipts => exact absurd hr hf
  | _ => exact .of_same rfl

theorem baseAffirmWithReceipts_effects (hf : .receipts ∉ f.kept) (receipts : List ReceiptDetails)
    (portfolios : List PortfolioId) (count : Option AffirmationCount) :
    Respects (EffectsIn f) (baseAffirmWithReceipts env origin id receipts portfolios count) :=
  .ensure_bind fun _ => .read_bind fun ⟨_, _⟩ => .read_bind fun _ => .read_bind fun _ =>
    .bind .get fun _ => .read_bind fun _ => .bind (.forM fun l _ => lockLeg_effects id l) fun _ =>
        .bind (respects_write_record fun _ => rfl) fun _ =>
          .bind (respects_claimReceipts id hf receipts) fun _ => respects_write_record fun _ => rfl

theorem respects_maybeScheduleInstruction :
    Respects (EffectsIn f) (Tx.modify (maybeScheduleInstruction id) : Dispatch Unit) := by
  refine .modify fun s => ?_
  unfold maybeScheduleInstruction
  split
  · exact respects_mapSystem (fun y => scheduleInstruction_now id (y.blockNumber + 1) y) rfl
  · exact .refl

theorem affirmAndMaybeScheduleInstruction_effects :
    Respects (EffectsIn f) (affirmAndMaybeScheduleInstruction env origin id portfolios count) :=
  .bind (baseAffirmInstruction_effects env origin id portfolios count) fun _ =>
    respects_maybeScheduleInstruction id

theorem unsafeWithdrawInstructionAffirmation_effects (did : IdentityId)
    (portfolios : List PortfolioId) (secondaryKey : Option SecondaryKey)
    (count : Option AffirmationCount) :
    Respects (EffectsIn f)
      (unsafeWithdrawInstructionAffirmation env did id portfolios secondaryKey count) :=
  .read_bind fun _ => .bind .get fun _ => .read_bind fun _ =>
    .bind (.forM fun l _ => .bind .get fun _ => .bind (unlockByStatus_effects l.2 _) fun _ =>
      respects_setLegStatus id l.1 fun _ _ => nofun) fun _ =>
      .bind (respects_write_record fun _ => rfl) fun _ => respects_write_record fun _ => rfl

theorem affirmInstructionAsMediator_effects (expiry : Option Moment) :
    Respects (EffectsIn f) (affirmInstructionAsMediator env origin id expiry) :=
  .read_bind fun ⟨_, _⟩ => .bind .get fun _ => .ensure_bind fun _ => .ensure_bind fun _ =>
    .bind (respects_write_record fun _ => rfl) fun _ =>
      .bind (.onlyIf (respects_write_record fun _ => rfl)) fun _ =>
        .onlyIf (respects_maybeScheduleInstruction id)

theorem withdrawAffirmationAsMediator_effects :
    Respects (EffectsIn f) (withdrawAffirmationAsMediator env origin id) :=
  .read_bind fun ⟨_, _⟩ => .bind .get fun _ => .read_bind fun _ =>
    .bind (respects_write_record fun _ => rfl) fun _ =>
      .bind (respects_write_record fun _ => rfl) fun _ =>
        .onlyIf (respects_write_record fun _ => rfl)

/-! ### Execution -/

/-- The portfolio that a leg sends tokens to. -/
def tokenReceiver? : Leg → Option PortfolioId
  | .nonFungible _ receiver nfts => if nfts.ids = [] then none else some receiver
  | _ => none

/-- The portfolios that the legs of an instruction send tokens to. -/
def tokenReceivers (s : Storage) : Set PortfolioId :=
  {q | ∃ l ∈ s.legs id, tokenReceiver? l.2 = some q}

theorem transferLeg_movements (henv : env ∈ f.envs) (leg : Leg)
    (hleg : ∀ q, tokenReceiver? leg = some q → q ∈ f.receivers) :
    Respects (MovementsIn f) (transferLeg env leg) := by
  cases leg with
  | fungible sender receiver ticker amount =>
    exact Asset.baseTransfer_movements env henv sender receiver ticker amount
  | nonFungible sender receiver nfts =>
    exact NFT.baseNftTransfer_movements env sender receiver nfts fun hids =>
      hleg receiver (if_neg hids)
  | offChain => exact .pure ()

theorem transferLeg_any : Respects Movements (transferLeg env leg) :=
  transferLeg_movements env (Footprint.env_mem_any env) leg fun q _ => Footprint.receiver_mem_any q

theorem transferPendingLeg_any (l : LegId × Leg) : Respects Movements (transferPendingLeg env id l) :=
  .bind .get fun _ => .onlyIf (transferLeg_any env l.2)

theorem executeInstruction_effects (henv : env ∈ f.envs) (hlegs : tokenReceivers id s ⊆ f.receivers)
    (h : executeInstruction env id s = (.ok u, s')) : EffectsIn f s s' := by
  have hrun := (executeInstruction_ok h).2.2.2
  refine (uncheckedReleaseLocks_effects id (sortedLegs env id s) s).trans ?_
  refine Respects.forM (fun l hl => ?_) hrun
  exact respects_effects (.bind .get fun _ => .onlyIf <| transferLeg_movements env henv l.2
    fun q hq => hlegs ⟨l, sortedLegs_perm.mem_iff.mp hl, hq⟩)

/-- **A failed execution changes nothing.** -/
theorem executeInstruction_atomic : Atomic (executeInstruction env id) :=
  .get_bind fun _ => .ensure_bind <| .read_bind fun _ => .ensure_bind <| .ensure_bind <|
    .read_bind fun _ => .orError (.transaction _)

/-- **An execution is pruned or marked as failed.** -/
theorem executeInstructionRetryable_cases (s : Storage) :
    (∃ s₁, executeInstruction env id s = (.ok (), s₁) ∧
      executeInstructionRetryable env id s = (.ok (), pruneInstruction id true s₁)) ∨
    ∃ e, executeInstruction env id s = (.error e, s) ∧
      executeInstructionRetryable env id s =
        (.error e, s.mapSettlement (setStatus id .failed)) := by
  have hrun : executeInstructionRetryable env id s =
      concludeExecution id (executeInstruction env id s).1 (executeInstruction env id s).2 := rfl
  rcases (executeInstruction_atomic env id).run_cases s with ⟨u, h⟩ | ⟨e, h⟩
  · refine .inl ⟨_, h, ?_⟩
    rw [hrun, h]
    rfl
  · refine .inr ⟨e, h, ?_⟩
    rw [hrun, h]
    rfl

theorem executeManualInstruction_ok {portfolio : Option PortfolioId} {inputCost : AssetCount}
    (h : executeManualInstruction env origin id portfolio inputCost s = (.ok u, s')) :
    ∃ s₁, executeInstruction env id s = (.ok (), s₁) ∧ s' = pruneInstruction id true s₁ := by
  simp [executeManualInstruction] at h
  obtain ⟨-, _, _, -, -, -, h⟩ := h
  rcases executeInstructionRetryable_cases env id s with ⟨s₁, hexec, hrun⟩ | ⟨e, -, hrun⟩
  · rw [hrun] at h
    cases h
    exact ⟨s₁, hexec, rfl⟩
  · rw [hrun] at h
    cases h

theorem executeInstructionRetryable_effects (henv : env ∈ f.envs) (hf : .legs ∉ f.kept)
    {r : Query Unit} (hlegs : tokenReceivers id s ⊆ f.receivers)
    (h : executeInstructionRetryable env id s = (r, s')) : EffectsIn f s s' := by
  rcases executeInstructionRetryable_cases env id s with ⟨s₁, hexec, hrun⟩ | ⟨e, -, hrun⟩
  · rw [hrun] at h
    cases h
    exact (executeInstruction_effects env id henv hlegs hexec).tail
      (pruneInstruction_effect id hf true s₁)
  · rw [hrun] at h
    cases h
    exact .single (.record (.of_eq rfl) (.of_eq rfl))

theorem executeScheduledInstruction_effects (henv : env ∈ f.envs) (hf : .legs ∉ f.kept)
    (hlegs : tokenReceivers id s ⊆ f.receivers)
    (h : executeScheduledInstruction env origin id s = (.ok u, s')) : EffectsIn f s s' := by
  simp [executeScheduledInstruction, baseExecuteScheduledInstruction] at h
  obtain ⟨-, -, r, h⟩ := h
  exact executeInstructionRetryable_effects env id henv hf hlegs h

theorem rejectInstruction_effects (hf : .legs ∉ f.kept) (portfolio : Option PortfolioId) (count : Option AssetCount) :
    Respects (EffectsIn f) (rejectInstruction env origin id portfolio count) :=
  .bind .get fun _ => .ensure_bind fun _ => .read_bind fun _ => .read_bind fun _ =>
    .read_bind fun _ => .bind (.modify (uncheckedReleaseLocks_effects id _)) fun _ =>
        .bind (respects_write_record fun _ => rfl) fun _ =>
          .modify fun s => (pruneInstruction_effect id hf false s).effects

theorem affirmWithOptionalReceipt_effects (receipt : Option ReceiptDetails)
    (hf : receipt.isSome → .receipts ∉ f.kept) (portfolios : List PortfolioId) :
    Respects (EffectsIn f) (affirmWithOptionalReceipt env origin id receipt portfolios) := by
  cases receipt with
  | some receipt =>
    exact baseAffirmWithReceipts_effects env origin id (hf rfl) [receipt] portfolios none
  | none => exact baseAffirmInstruction_effects env origin id portfolios none

theorem tokenReceivers_eq (h : Aspect.Kept .legs s s') :
    tokenReceivers id s' = tokenReceivers id s := by
  have hlegs : s'.legs id = s.legs id := by
    rw [Storage.legs, show s'.settlement.instructionLegs = s.settlement.instructionLegs from h]
    rfl
  rw [tokenReceivers, hlegs]
  rfl

/-- The footprint of changes that leave the legs alone. -/
def keepingLegs : Footprint := ⟨Set.univ, {.legs}, Set.univ⟩

theorem EffectsIn.tokenReceivers_eq (h : EffectsIn keepingLegs s s') :
    tokenReceivers id s' = tokenReceivers id s :=
  Settlement.tokenReceivers_eq id (h.kept (Set.mem_singleton _) nofun nofun)

theorem affirmAndExecuteInstruction_effects (henv : env ∈ f.envs) (hf : .legs ∉ f.kept)
    (hf' : receipt.isSome → .receipts ∉ f.kept) {portfolios : List PortfolioId}
    (hlegs : tokenReceivers id s ⊆ f.receivers)
    (h : affirmAndExecuteInstruction env origin id receipt portfolios s = (.ok u, s')) :
    EffectsIn f s s' := by
  simp only [affirmAndExecuteInstruction, executeSettleOnAffirmationInstruction, run_ok, bind_ok] at h
  obtain ⟨_, s₁, haffirm, _, s₂, ⟨_, _, ⟨rfl, rfl⟩, hexec⟩, rfl⟩ := h
  have hsame : tokenReceivers id s₁ = tokenReceivers id s :=
    EffectsIn.tokenReceivers_eq id
      (affirmWithOptionalReceipt_effects env origin id _ (by simp [keepingLegs]) _ haffirm)
  have haffirm := affirmWithOptionalReceipt_effects (f := f) env origin id _ hf' _ haffirm
  refine (haffirm.trans ?_).tail (pruneInstruction_effect id hf true s₂)
  rcases onlyIf_ok.mp hexec with ⟨-, hexec⟩ | ⟨-, rfl⟩
  · exact executeInstruction_effects env id henv (hsame ▸ hlegs) hexec
  · exact .refl

/-- The instructions and their number are the same. -/
structure SameInstructions (s s' : Storage) : Prop where
  instruction : s'.settlement.instruction = s.settlement.instruction := by rfl
  counter : s'.settlement.instructionCounter = s.settlement.instructionCounter := by rfl

instance : Std.Refl SameInstructions := ⟨fun _ => ⟨rfl, rfl⟩⟩

instance : IsTrans Storage SameInstructions where
  trans _ _ _ h₁ h₂ := ⟨h₂.instruction.trans h₁.instruction, h₂.counter.trans h₁.counter⟩

theorem SameInstructions.of_sameRecords (h : SameRecords s s') :
    SameInstructions s s' :=
  ⟨h.instruction, h.instructionCounter⟩

end Settlement

/-! ## Effects apart from the instructions -/

/-- Effects that leave the instructions alone. -/
structure Apart (f : Footprint) (s s' : Storage) : Prop where
  effects : EffectsIn f s s'
  same : Settlement.SameInstructions s s'

instance : Std.Refl (Apart f) := ⟨fun _ => ⟨.refl, refl _⟩⟩

instance : IsTrans Storage (Apart f) where
  trans _ _ _ h h' := ⟨h.effects.trans h'.effects, IsTrans.trans _ _ _ h.same h'.same⟩

theorem lockTokens_apart (pid : PortfolioId) (ticker : Ticker) (amount : ℕ) :
    Respects (Apart f) (Portfolio.lockTokens pid ticker amount) := by
  intro s u s' h
  obtain ⟨hfree, rfl⟩ := Portfolio.lockTokens_ok h
  exact ⟨(Effect.lock pid ticker amount hfree).effects, rfl, rfl⟩

theorem unlockTokens_apart (pid : PortfolioId) (ticker : Ticker) (amount : ℕ) :
    Respects (Apart f) (Portfolio.unlockTokens pid ticker amount) := by
  intro s u s' h
  obtain ⟨hlocked, rfl⟩ := Portfolio.unlockTokens_ok.mp h
  exact ⟨(Effect.unlock pid ticker amount hlocked).effects, rfl, rfl⟩

theorem respects_mapSto (g : Storage → StoStorage → StoStorage) :
    Respects (Apart f) (Tx.modify fun s => s.mapSto (g s) : Dispatch Unit) :=
  .modify fun _ => ⟨.single (.record (.of_eq rfl) (.of_eq rfl)), rfl, rfl⟩

theorem respects_mapDistribution (hf : .distributions ∉ f.kept)
    (g : DistributionStorage → DistributionStorage) :
    Respects (Apart f) (Tx.modify (Storage.mapDistribution g) : Dispatch Unit) :=
  .modify fun _ => ⟨.single (.record (.of_eq rfl) (keeps_mapDistribution hf g)), rfl, rfl⟩

/-! ## Fundraisers -/

namespace Sto

variable (env : Env) (origin : RuntimeOrigin)

theorem createFundraiser_apart (offeringPortfolio : PortfolioId) (offeringAsset : Ticker)
    (raisingPortfolio : PortfolioId) (raisingAsset : Ticker) (tiers : List PriceTier)
    (venueId : VenueId) (start end_ : Option Moment) (minimumInvestment : ℕ) :
    Respects (Apart f) (createFundraiser env origin offeringPortfolio offeringAsset
      raisingPortfolio raisingAsset tiers venueId start end_ minimumInvestment) :=
  .read_bind fun _ => .read_bind fun _ => .read_bind fun _ => .read_bind fun _ =>
    .ensure_bind fun _ => .read_bind fun _ => .bind .get fun _ => .ensure_bind fun _ =>
      .read_bind fun _ => .bind (lockTokens_apart _ _ _) fun _ =>
        .bind (respects_mapSto _) fun _ => respects_mapSto _

variable {fundraiser : Fundraiser} {investmentPortfolio fundingPortfolio : PortfolioId}
  {purchaseAmount cost : ℕ}

theorem tokenReceivers_baseAddInstruction {id : InstructionId}
    (h : Settlement.baseAddInstruction env did fundraiser.venueId .settleOnAffirmation none none
      (investmentLegs fundraiser investmentPortfolio fundingPortfolio purchaseAmount cost) [] s =
        (.ok id, s')) :
    Settlement.tokenReceivers id s' ⊆
      Settlement.tokenReceivers s.settlement.instructionCounter s := by
  obtain ⟨info, next, y, -, rfl, -, -, -, rfl⟩ := Settlement.baseAddInstruction_ok h
  rintro q ⟨l, hl, hq⟩
  obtain ⟨e, he, rfl⟩ := List.mem_map.mp hl
  change e ∈ (Function.update s.settlement.instructionLegs s.settlement.instructionCounter _
    s.settlement.instructionCounter).entries at he
  rw [Function.update_self] at he
  rcases AssocLists.mem_insertMany he with ⟨x, hx, rfl⟩ | he
  · -- both legs are fungible
    have hleg := List.fst_mem_of_mem_zipIdx hx
    simp only [investmentLegs, List.mem_cons, List.not_mem_nil, or_false] at hleg
    rcases hleg with hleg | hleg
    · simp [hleg, Settlement.tokenReceiver?] at hq
    · simp [hleg, Settlement.tokenReceiver?] at hq
  · exact ⟨(e.1, e.2), List.mem_map_of_mem he, hq⟩

theorem settleInvestment_effects (henv : env ∈ f.envs) (hf : .legs ∉ f.kept)
    (hf' : receipt.isSome → .receipts ∉ f.kept)
    (hlegs : Settlement.tokenReceivers s.settlement.instructionCounter s ⊆ f.receivers)
    (h : settleInvestment env origin fundraiser investmentPortfolio fundingPortfolio
      purchaseAmount cost receipt s = (.ok u, s')) : EffectsIn f s s' := by
  simp only [settleInvestment, transaction_ok, bind_ok] at h
  obtain ⟨_, s₁, hunlock, id, s₂, hadd, _, s₃, haffirm, hexec⟩ := h
  have hsame : Settlement.tokenReceivers id s₃ = Settlement.tokenReceivers id s₂ :=
    Settlement.EffectsIn.tokenReceivers_eq id
      (Settlement.unsafeAffirmInstruction_effects env id _ _ _ _ haffirm)
  obtain ⟨-, rfl⟩ := Portfolio.unlockTokens_ok.mp hunlock
  have hlegs₃ : Settlement.tokenReceivers id s₃ ⊆ f.receivers := by
    rw [hsame]
    exact (tokenReceivers_baseAddInstruction env hadd).trans hlegs
  exact (Portfolio.unlockTokens_effects _ _ _ hunlock).trans <|
    (Settlement.baseAddInstruction_effects env hf _ _ _ _ _ _ _ hadd).trans <|
    (Settlement.unsafeAffirmInstruction_effects env id _ _ _ _ haffirm).trans <|
    Settlement.affirmAndExecuteInstruction_effects env origin id henv hf hf' hlegs₃ hexec

theorem invest_effects (henv : env ∈ f.envs) (hf : .legs ∉ f.kept)
    (hf' : receipt.isSome → .receipts ∉ f.kept) {offeringAsset : Ticker} {id : FundraiserId}
    {maxPrice : Option ℕ}
    (hlegs : Settlement.tokenReceivers s.settlement.instructionCounter s ⊆ f.receivers)
    (h : invest env origin investmentPortfolio fundingPortfolio offeringAsset id purchaseAmount
      maxPrice receipt s = (.ok u, s')) : EffectsIn f s s' := by
  simp only [invest, ↓run_ok, bind_ok] at h
  obtain ⟨_, _, ⟨-, rfl⟩, _, -, _, -, fundraiser, -, -, -, ⟨tiers, remaining, cost⟩, -, -, -, -, _,
    s₁, hsettle, rfl⟩ := h
  exact (settleInvestment_effects env origin henv hf hf' hlegs hsettle).tail
    (.record (.of_eq rfl) (.of_eq rfl))

variable (offeringAsset : Ticker)

theorem stop_apart (id : FundraiserId) :
    Respects (Apart f) (stop env origin offeringAsset id) :=
  .read_bind fun _ => .read_bind fun _ => .bind (.onlyIf (.read _)) fun _ => .ensure_bind fun _ =>
    .bind (unlockTokens_apart _ _ _) fun _ => respects_mapSto _

end Sto

/-! ## Capital distributions -/

namespace CapitalDistribution

variable (env : Env) (origin : RuntimeOrigin) (hf : .distributions ∉ f.kept)

include hf

theorem unverifiedDistribute_apart (originData : PermissionedCallOriginData) (caId : CAId)
    (portfolio : PortfolioKind) (currency : Ticker) (perShare amount : ℕ) (paymentAt : Moment)
    (expiresAt : Option Moment) :
    Respects (Apart f) (unverifiedDistribute env originData caId portfolio currency perShare amount
      paymentAt expiresAt) := by
  refine .ensure_bind fun _ => .ensure_bind fun _ => .ensure_bind fun _ => .bind .get fun _ =>
    .ensure_bind fun _ => .read_bind fun _ => .read_bind fun _ => .read_bind fun _ =>
      .ensure_bind fun _ => .read_bind fun _ => ?_
  intro s u s' h
  simp at h
  obtain ⟨⟨_, hfree⟩, -, rfl⟩ := h
  have hlock : EffectsIn f s _ :=
    .single (.lock _ currency amount (Portfolio.ensureSufficientBalance_ok hfree).1)
  exact ⟨hlock.tail (.record (.of_eq rfl) (keeps_mapDistribution hf _)), rfl, rfl⟩

theorem transferBenefit_apart (henv : env ∈ f.envs) (holder : IdentityId) (caId : CAId) :
    Respects (Apart f) (transferBenefit env holder caId) := by
  refine .bind .get fun _ => .ensure_bind fun _ => .read_bind fun _ => .read_bind fun _ =>
    .ensure_bind fun _ => .read_bind fun _ => .read_bind fun _ =>
      .bind (.transaction <| .bind (unlockTokens_apart _ _ _) fun _ => ?_) fun _ =>
        .bind (respects_mapDistribution hf _) fun _ => respects_mapDistribution hf _
  intro s u s' h
  have hmoves := Asset.baseTransfer_movements env henv _ _ _ _ h
  exact ⟨hmoves.effects, .of_sameRecords hmoves.sameRecords⟩

theorem reclaim_apart (caId : CAId) : Respects (Apart f) (reclaim env origin caId) :=
  .read_bind fun _ => .read_bind fun _ => .ensure_bind fun _ => .bind .get fun _ =>
    .ensure_bind fun _ => .read_bind fun _ =>
      .bind (unlockTokens_apart _ _ _) fun _ => respects_mapDistribution hf _

theorem unverifiedRemoveDistribution_apart (caId : CAId) (dist : Distribution) :
    Respects (Apart f) (unverifiedRemoveDistribution caId dist) :=
  .read_bind fun _ => .bind (unlockTokens_apart _ _ _) fun _ => respects_mapDistribution hf _

theorem removeCa_apart (caId : CAId) : Respects (Apart f) (removeCa env origin caId) := by
  refine .read_bind fun _ => .read_bind fun _ => .bind .get fun s => .onlyIf ?_
  cases s.distribution.distributions caId with
  | some dist => exact unverifiedRemoveDistribution_apart hf caId dist
  | none => exact .pure ()

end CapitalDistribution

end Polymesh
