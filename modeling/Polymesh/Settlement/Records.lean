import Polymesh.Effects.Steps
import Polymesh.Settlement.Lifecycle

/-!
# The records that the settlement pallet leaves

What each operation of the settlement pallet has checked, and the record of the instruction that
it leaves: the operations on storage are those on records.
-/

namespace Polymesh

open Transactional Tx Collections AssocLists Relation
open Function (eq_update_iff update update_eq_self update_idem update_self)
open InstructionRecord (added affirm blank claimAll mediate sends withdraw)
open SettlementStorage (instruction)

namespace Settlement

/-! ## The checks on a new instruction -/

variable {leg : Leg}

section Legs

variable {env : Env} {venueId : VenueId} {s : Storage}

variable {tickers : List Ticker} {legs : List Leg} {info : InstructionInfo}

theorem ensureValidLegKind_ok {tickers' : List Ticker}
    (h : ensureValidLegKind env venueId tickers s leg = .ok tickers') : leg.WellFormed := by
  cases leg with
  | fungible sender receiver ticker amount =>
    simp [ensureValidLegKind, ensureValidFungibleLeg] at h
    exact ⟨h.1, h.2.1⟩
  | nonFungible sender receiver nfts =>
    simp [ensureValidLegKind, ensureValidNftLeg, NFT.ensureWithinNftsTransferLimits,
      NFT.ensureNoDuplicateNfts] at h
    exact ⟨h.1, h.2.2.1, h.2.2.2.2.1⟩
  | offChain sender receiver ticker amount =>
    simp [ensureValidLegKind, ensureValidOffChainLeg] at h
    exact ⟨h.2.1, h.1⟩

theorem tryAddLeg_offChain {count count' : AssetCount} (h : count.tryAddLeg leg = some count') :
    count'.offChain = count.offChain + if leg.isOffChain then 1 else 0 := by
  cases leg <;>
    simp [AssetCount.tryAddLeg] at h <;> obtain ⟨-, rfl⟩ := h <;> rfl

theorem addParties_spec (leg : Leg) (info : InstructionInfo) (p : PortfolioId) :
    (p ∈ info.portfoliosPendingApproval ∨ leg.sender? = some p →
      p ∈ (addParties s leg info).portfoliosPendingApproval) ∧
    (p ∈ (addParties s leg info).portfoliosPendingApproval →
      p ∈ info.portfoliosPendingApproval ∨ p ∈ legPortfolios leg) ∧
    (p ∈ (addParties s leg info).portfoliosPreApproved →
      p ∈ info.portfoliosPreApproved ∨ p ∈ legPortfolios leg) := by
  cases leg with
  | offChain => exact ⟨by simp [addParties, Leg.sender?, Leg.receiver?], .inl, .inl⟩
  | fungible sender receiver ticker amount | nonFungible sender receiver nfts =>
    simp only [addParties, Leg.sender?, Leg.receiver?, legPortfolios]
    split_ifs <;> simp <;> grind

theorem addParties_count (leg : Leg) (info : InstructionInfo) :
    (addParties s leg info).instructionAssetCount = info.instructionAssetCount := by
  cases leg <;> rfl

theorem ensureValidLegsLoop_ok {info' : InstructionInfo}
    (h : ensureValidLegsLoop env venueId s legs tickers info = .ok info') :
    (∀ leg ∈ legs, leg.WellFormed) ∧
    info'.instructionAssetCount.offChain =
      info.instructionAssetCount.offChain + legs.countP Leg.isOffChain ∧
    (∀ p, p ∈ info.portfoliosPendingApproval ∨ (∃ leg ∈ legs, leg.sender? = some p) →
      p ∈ info'.portfoliosPendingApproval) ∧
    (∀ p ∈ info'.portfoliosPendingApproval, p ∈ info.portfoliosPendingApproval ∨
      ∃ leg ∈ legs, p ∈ legPortfolios leg) ∧
    ∀ p ∈ info'.portfoliosPreApproved, p ∈ info.portfoliosPreApproved ∨
      ∃ leg ∈ legs, p ∈ legPortfolios leg := by
  induction legs generalizing tickers info with
  | nil =>
    cases h
    simp
  | cons leg legs ih =>
    simp [ensureValidLegsLoop, ensureValidLeg] at h
    obtain ⟨tickers', hkind, count, hcount, hloop⟩ := h
    obtain ⟨hwf, hoff, hpending, hparty, hpre⟩ := ih hloop
    have hspec := addParties_spec (s := s) leg { info with instructionAssetCount := count }
    refine ⟨?_, ?_, fun p hp => hpending p ?_, fun p hp => ?_, fun p hp => ?_⟩
    · exact List.forall_mem_cons.mpr ⟨ensureValidLegKind_ok hkind, hwf⟩
    · rw [hoff, addParties_count, tryAddLeg_offChain hcount, List.countP_cons]
      omega
    · rcases hp with hp | ⟨leg', hleg', hp⟩
      · exact .inl ((hspec p).1 (.inl hp))
      · rcases List.mem_cons.mp hleg' with rfl | hleg'
        · exact .inl ((hspec p).1 (.inr hp))
        · exact .inr ⟨leg', hleg', hp⟩
    · rcases hparty p hp with hp | ⟨leg', hleg', hp⟩
      · exact ((hspec p).2.1 hp).imp_right fun hp => ⟨leg, List.mem_cons_self, hp⟩
      · exact .inr ⟨leg', List.mem_cons_of_mem _ hleg', hp⟩
    · rcases hpre p hp with hp | ⟨leg', hleg', hp⟩
      · exact ((hspec p).2.2 hp).imp_right fun hp => ⟨leg, List.mem_cons_self, hp⟩
      · exact .inr ⟨leg', List.mem_cons_of_mem _ hleg', hp⟩

theorem ensureValidLegs_ok (h : ensureValidLegs env legs venueId s = .ok info)
    (mediators : List IdentityId) :
    (info.extendMediators mediators).Describes legs := by
  simp [ensureValidLegs] at h
  obtain ⟨info, hloop, -, rfl⟩ := h
  obtain ⟨hwf, hoff, hpending, hparty, hpre⟩ := ensureValidLegsLoop_ok hloop
  refine ⟨nodup_orderedSet _, nodup_orderedSet _, fun leg hleg p hp => ?_, fun p hp => ?_,
    fun p hp => ?_, ?_, hwf⟩
  · exact mem_orderedSet.mpr (hpending p (.inr ⟨leg, hleg, hp⟩))
  · exact (hparty p (mem_orderedSet.mp hp)).resolve_left List.not_mem_nil
  · exact (hpre p (mem_orderedSet.mp hp)).resolve_left List.not_mem_nil
  · simpa [InstructionInfo.extendMediators] using hoff

end Legs

/-! ## Records under the writes of the pallet -/

section Writes

variable (id : InstructionId) (t : SettlementStorage)

theorem instruction_setLegStatus (l : LegId) (status : LegStatus) :
    (setLegStatus id l status t).instruction = update t.instruction id
      { t.instruction id with
        legStatus := update (t.instruction id).legStatus l status } := by
  refine eq_update_iff.mpr ⟨?_, fun id' h => ?_⟩
  · simp [instruction, setLegStatus, update₂]
  · simp [instruction, setLegStatus, update₂, h]

theorem instruction_setAffirmsPending (count : ℕ) :
    (setAffirmsPending id count t).instruction = update t.instruction id
      { t.instruction id with affirmsPending := count } := by
  refine eq_update_iff.mpr ⟨?_, fun id' h => ?_⟩
  · simp [instruction, setAffirmsPending]
  · simp [instruction, setAffirmsPending, h]

theorem instruction_setAffirmations (portfolios : List PortfolioId)
    (user received : AffirmationStatus) :
    (setAffirmations id portfolios user received t).instruction = update t.instruction id
      { t.instruction id with
        userAffirmations := insertAll portfolios user (t.instruction id).userAffirmations } := by
  refine eq_update_iff.mpr ⟨?_, fun id' h => ?_⟩
  · ext1 <;> try rfl
    funext p
    simp [setAffirmations, insertAll₂_apply, insertAll_apply]
  · simp [instruction, setAffirmations, h, insertAll₂_apply]

theorem instruction_setMediatorAffirmation (did : IdentityId)
    (status : MediatorAffirmationStatus) :
    (setMediatorAffirmation id did status t).instruction = update t.instruction id
      { t.instruction id with mediators := (t.instruction id).mediators.insert did status } := by
  refine eq_update_iff.mpr ⟨?_, fun id' h => ?_⟩
  · simp [instruction, setMediatorAffirmation]
  · simp [instruction, setMediatorAffirmation, h]

theorem instruction_setStatus (status : InstructionStatus) :
    (setStatus id status t).instruction = update t.instruction id
      { t.instruction id with status := status } := by
  refine eq_update_iff.mpr ⟨?_, fun id' h => ?_⟩
  · simp [instruction, setStatus]
  · simp [instruction, setStatus, h]

theorem instruction_claimReceipt (receipt : ReceiptDetails) :
    (claimReceipt id t receipt).instruction = update t.instruction id
      { t.instruction id with
        legStatus := update (t.instruction id).legStatus receipt.legId
          (.executionToBeSkipped receipt.signer receipt.uid)
        offChainAffirmations :=
          update (t.instruction id).offChainAffirmations receipt.legId .affirmed } := by
  refine eq_update_iff.mpr ⟨?_, fun id' h => ?_⟩
  · simp [instruction, claimReceipt, update₂]
  · simp [instruction, claimReceipt, update₂, h]

theorem instruction_prune (status : InstructionStatus) (h : (t.instruction id).Valid) :
    (setStatus id status (removeInstruction id t)).instruction =
      update t.instruction id (.blank status) := by
  refine eq_update_iff.mpr ⟨?_, fun id' hid => ?_⟩
  · ext1
    case userAffirmations =>
      funext p
      simp only [SettlementStorage.instruction_userAffirmations, setStatus, removeInstruction,
        insertAll₂_apply, blank, true_and]
      split_ifs with hp
      · rfl
      · by_contra hne
        obtain ⟨l, leg, hl, hmem⟩ := h.party p hne
        exact hp (List.mem_flatMap.mpr ⟨⟨l, leg⟩, AList.mem_lookup_iff.mp hl, hmem⟩)
    all_goals simp [instruction, setStatus, removeInstruction,
      blank]
  · simp [instruction, setStatus, removeInstruction, hid, insertAll₂_apply]

theorem instruction_insertInstruction (info : InstructionInfo) (legs : List Leg)
    (details : Instruction) (h : (t.instruction id).Blank) :
    (insertInstruction id info legs details t).instruction =
      update t.instruction id (.added details legs info) := by
  have hlegs : t.instructionLegs id = ∅ := congrArg InstructionRecord.legs h
  have hstatus : t.instructionLegStatus id = fun _ => .pendingTokenLock :=
    congrArg InstructionRecord.legStatus h
  have huser : ∀ p, t.userAffirmations p id = .unknown := fun p =>
    congrFun (congrArg InstructionRecord.userAffirmations h) p
  have hoff : t.offChainAffirmations id = fun _ => .unknown :=
    congrArg InstructionRecord.offChainAffirmations h
  have hmed : t.instructionMediatorsAffirmations id = ∅ := congrArg InstructionRecord.mediators h
  refine eq_update_iff.mpr ⟨?_, fun id' hid => ?_⟩
  · ext1
    · simp [insertInstruction, added]
    · simp [insertInstruction, added]
    · simp [insertInstruction, added, hlegs]
    · exact hstatus
    · simp [insertInstruction, added]
    · funext p
      simp [insertInstruction, added, insertAll₂_apply, huser]
    · funext l
      simp [insertInstruction, added, insertAll_apply, hoff]
    · simp [insertInstruction, added, hmed, insertMany]
  · simp [instruction, insertInstruction, hid, insertAll₂_apply]

end Writes

/-! ## What the record of one instruction becomes -/

/-- The records of instructions may change, but not their number, the clock, the fundraisers and
the distributions. -/
structure OnlyInstructions (s s' : Storage) : Prop where
  counter : s'.settlement.instructionCounter = s.settlement.instructionCounter := by rfl
  now : s'.system.now = s.system.now := by rfl
  sto : s'.sto = s.sto := by rfl
  distribution : s'.distribution = s.distribution := by rfl

/-- The record of one instruction becomes `r`. -/
structure Becomes (id : InstructionId) (r : InstructionRecord) (s s' : Storage) : Prop
    extends OnlyInstructions s s' where
  instruction : s'.settlement.instruction = update s.settlement.instruction id r

namespace Becomes

variable {id : InstructionId} {r r' : InstructionRecord} {s s₁ s₂ : Storage}

theorem self (h : Becomes id r s s₁) : s₁.settlement.instruction id = r := by
  rw [h.instruction, update_self]

theorem affirmsPending (h : Becomes id r s s₁) :
    s₁.settlement.instructionAffirmsPending id = r.affirmsPending :=
  congrArg InstructionRecord.affirmsPending h.self

theorem of_sameRecords (h : SameRecords s s₁) : Becomes id (s.settlement.instruction id) s s₁ where
  instruction := by rw [h.instruction, update_eq_self]
  counter := h.instructionCounter
  now := by rw [h.system]
  sto := h.sto
  distribution := h.distribution

theorem trans (h : Becomes id r s s₁) (h' : Becomes id r' s₁ s₂) : Becomes id r' s s₂ where
  instruction := by rw [h'.instruction, h.instruction, update_idem]
  counter := h'.counter.trans h.counter
  now := h'.now.trans h.now
  sto := h'.sto.trans h.sto
  distribution := h'.distribution.trans h.distribution

theorem maybe {c : Prop} [Decidable c] (h : Becomes id r s s₁)
    (h' : Becomes id (s₁.settlement.instruction id) s₁ s₂) :
    Becomes id r s (if c then s₂ else s₁) := by
  rw [h.self] at h'
  split
  · exact h.trans h'
  · exact h

theorem of_agenda {y : SystemStorage} (hy : y.now = s.system.now) :
    Becomes id (s.settlement.instruction id) s (s.mapSystem fun _ => y) where
  instruction := (update_eq_self id s.settlement.instruction).symm
  counter := rfl
  now := hy
  sto := rfl
  distribution := rfl

end Becomes

/-- Only the part of the portfolio pallet changes. -/
def OnlyPortfolio (s s' : Storage) : Prop := s' = s.mapPortfolio fun _ => s'.portfolio

instance : Std.Refl OnlyPortfolio := ⟨fun _ => rfl⟩

instance : IsTrans Storage OnlyPortfolio where
  trans s₁ s₂ s₃ h₁ h₂ := by
    unfold OnlyPortfolio at *
    rw [h₂, h₁]
    rfl

theorem OnlyPortfolio.sameRecords {s s' : Storage} (h : OnlyPortfolio s s') : SameRecords s s' := by
  rw [h]
  exact .of_eq rfl

theorem viaLeg_onlyPortfolio (leg : Leg) :
    Respects OnlyPortfolio (lockViaLeg leg) ∧ Respects OnlyPortfolio (unlockViaLeg leg) :=
  viaLeg_respects leg fun _ _ _ => rfl

theorem uncheckedReleaseLocks_onlyPortfolio (id : InstructionId) (legs : List (LegId × Leg))
    (s : Storage) : OnlyPortfolio s (uncheckedReleaseLocks id legs s) :=
  uncheckedReleaseLocks_rel id (fun leg => (viaLeg_onlyPortfolio leg).2) legs s

section Loops

variable {id : InstructionId} {s s' : Storage} {u : Unit}

variable {status : LegStatus}

theorem forM_becomes {f : LegId × Leg → Dispatch Unit}
    (body : ∀ l s s', f l s = (.ok (), s') → Becomes id
      { s.settlement.instruction id with
        legStatus := update (s.settlement.instruction id).legStatus l.1 status } s s')
    {ls : List (LegId × Leg)} (h : (forM ls f) s = (.ok u, s')) :
    Becomes id
      { s.settlement.instruction id with
        legStatus := insertAll (ls.map Prod.fst) status (s.settlement.instruction id).legStatus }
      s s' := by
  induction ls generalizing s with
  | nil =>
    rw [forM_nil_ok] at h
    subst h
    exact .of_sameRecords (.of_eq rfl)
  | cons l ls ih =>
    obtain ⟨s₁, hl, hls⟩ := forM_cons_ok.mp h
    have hstep := body l s s₁ hl
    have hrest := ih hls
    rw [hstep.self] at hrest
    exact hstep.trans hrest

theorem lockLeg_becomes (l : LegId × Leg) (h : lockLeg id l s = (.ok u, s')) : Becomes id
    { s.settlement.instruction id with
      legStatus :=
        update (s.settlement.instruction id).legStatus l.1 .executionPending } s s' := by
  simp [lockLeg] at h
  obtain ⟨_, s₁, hlock, rfl⟩ := h
  rw [(viaLeg_onlyPortfolio l.2).1 hlock]
  exact ⟨⟨rfl, rfl, rfl, rfl⟩, instruction_setLegStatus id s.settlement l.1 .executionPending⟩

theorem unlockByStatus_ok (h : unlockByStatus leg status s = (.ok u, s')) :
    status = .executionPending ∧ unlockViaLeg leg s = (.ok u, s') := by
  cases status with
  | executionToBeSkipped => exact absurd h fail_ok
  | executionPending => exact ⟨rfl, h⟩
  | pendingTokenLock => exact absurd h fail_ok

theorem unlockLeg_becomes (l : LegId × Leg) (h : unlockLeg id l s = (.ok u, s')) : Becomes id
    { s.settlement.instruction id with
      legStatus :=
        update (s.settlement.instruction id).legStatus l.1 .pendingTokenLock } s s' := by
  simp [unlockLeg] at h
  obtain ⟨_, s₁, hunlock, rfl⟩ := h
  rw [(viaLeg_onlyPortfolio l.2).2 (unlockByStatus_ok hunlock).2]
  exact ⟨⟨rfl, rfl, rfl, rfl⟩, instruction_setLegStatus id s.settlement l.1 .pendingTokenLock⟩

end Loops

/-! ## Operations on records -/

section Operations

variable {env : Env} {origin : RuntimeOrigin} {id : InstructionId} {s s' : Storage} {u : Unit}

theorem mem_legs {l : LegId × Leg} :
    l ∈ s.legs id ↔ (s.settlement.instruction id).legs.lookup l.1 = some l.2 := by
  rw [← Option.mem_def, AList.mem_lookup_iff]
  simp only [Storage.legs, List.mem_map]
  constructor
  · rintro ⟨e, he, rfl⟩
    exact he
  · exact fun h => ⟨⟨l.1, l.2⟩, h, rfl⟩

variable {count : Option AffirmationCount} {portfolios : List PortfolioId} {did : IdentityId}
  {key : Option SecondaryKey} {receipts : List ReceiptDetails}

theorem mem_senderSubset {l : LegId} :
    l ∈ (filteredLegs env id portfolios s).senderSubset.map Prod.fst ↔
      (s.settlement.instruction id).sends portfolios l := by
  simp only [filteredLegs, FilteredLegs.filterSender, List.mem_map, List.mem_filter,
    (env.legOrder_perm _).mem_iff, mem_legs, sends, Option.any_eq_true]
  constructor
  · rintro ⟨⟨l, leg⟩, ⟨hl, hsends⟩, rfl⟩
    exact ⟨leg, hl, hsends⟩
  · rintro ⟨leg, hl, hsends⟩
    exact ⟨(l, leg), ⟨hl, hsends⟩, rfl⟩

theorem ensurePortfoliosAndAffirmationStatus_ok {expected : AffirmationStatus}
    (h : ensurePortfoliosAndAffirmationStatus id portfolios did key expected s = .ok u) :
    ∀ p ∈ portfolios, (s.settlement.instruction id).userAffirmations p = expected := by
  intro p hp
  have hp := except_forM_eq_ok.mp h p hp
  simp at hp
  exact hp.2

theorem unsafeAffirmInstruction_becomes
    (h : unsafeAffirmInstruction env did id portfolios key count s = (.ok u, s')) :
    (∀ p ∈ portfolios, (s.settlement.instruction id).userAffirmations p = .pending) ∧
      Becomes id ((s.settlement.instruction id).affirm portfolios) s s' := by
  simp [unsafeAffirmInstruction] at h
  obtain ⟨⟨_, hpending⟩, -, _, s₁, hlock, rfl⟩ := h
  refine ⟨ensurePortfoliosAndAffirmationStatus_ok hpending, ?_⟩
  have hlocked := forM_becomes (fun l s s' => lockLeg_becomes l) hlock
  refine hlocked.trans ⟨⟨rfl, rfl, rfl, rfl⟩, ?_⟩
  have hself := hlocked.self
  have hcount := hlocked.affirmsPending
  simp only [Storage.mapSettlement, instruction_setAffirmsPending, instruction_setAffirmations,
    update_self, update_idem, hself]
  congr 1
  ext1 <;> try rfl
  · funext l
    simp only [affirm, insertAll_apply, mem_senderSubset]
  · simp [affirm, setAffirmations, hcount]
  · funext p
    simp only [affirm, insertAll_apply]

theorem baseAffirmInstruction_becomes
    (h : baseAffirmInstruction env origin id portfolios count s = (.ok u, s')) :
    (∀ p ∈ orderedSet portfolios, (s.settlement.instruction id).userAffirmations p = .pending) ∧
      Becomes id ((s.settlement.instruction id).affirm (orderedSet portfolios)) s s' := by
  simp [baseAffirmInstruction] at h
  obtain ⟨_, ⟨_, -⟩, h⟩ := h
  exact unsafeAffirmInstruction_becomes h

theorem unsafeWithdrawInstructionAffirmation_becomes
    (h : unsafeWithdrawInstructionAffirmation env did id portfolios key count s = (.ok u, s')) :
    (∀ p ∈ orderedSet portfolios, (s.settlement.instruction id).userAffirmations p = .affirmed) ∧
      Becomes id ((s.settlement.instruction id).withdraw (orderedSet portfolios)) s s' := by
  simp [unsafeWithdrawInstructionAffirmation] at h
  obtain ⟨⟨_, haffirmed⟩, -, _, s₁, hunlock, rfl⟩ := h
  refine ⟨ensurePortfoliosAndAffirmationStatus_ok haffirmed, ?_⟩
  have hunlocked := forM_becomes (fun l s s' => unlockLeg_becomes l) hunlock
  refine hunlocked.trans ⟨⟨rfl, rfl, rfl, rfl⟩, ?_⟩
  have hself := hunlocked.self
  have hcount := hunlocked.affirmsPending
  simp only [Storage.mapSettlement, instruction_setAffirmsPending, instruction_setAffirmations,
    update_self, update_idem, hself]
  congr 1
  ext1 <;> try rfl
  · funext l
    simp only [withdraw, insertAll_apply, mem_senderSubset]
  · simp [withdraw, setAffirmations, hcount]
  · funext p
    simp only [withdraw, insertAll_apply]

/-- **What is checked about a receipt**: it has not been used, and somebody who may sign for the
venue has signed it, over just what the leg says, which is still to be affirmed. -/
structure ValidReceipt (env : Env) (venueId : VenueId) (id : InstructionId) (s : Storage)
    (receipt : ReceiptDetails) : Prop where
  instruction : receipt.instructionId = id
  signer : s.settlement.venueSigners venueId receipt.signer = true
  unused : s.settlement.receiptsUsed receipt.signer receipt.uid = false
  pending : (s.settlement.instruction id).offChainAffirmations receipt.legId = .pending
  leg : ∃ sender receiver ticker amount,
    (s.settlement.instruction id).legs.lookup receipt.legId =
      some (.offChain sender receiver ticker amount) ∧
    env.verifySignature receipt.signature
      ⟨receipt.uid, id, receipt.legId, sender, receiver, ticker, amount⟩ receipt.signer

theorem ensureValidReceiptsDetails_ok {venueId : VenueId} {uids : List (AccountId × ℕ)}
    {legIds : List LegId}
    (h : ensureValidReceiptsDetails env venueId id s receipts uids legIds = .ok u) :
    (receipts.map fun receipt => (receipt.signer, receipt.uid)).Nodup ∧
      (receipts.map ReceiptDetails.legId).Nodup ∧
      ∀ receipt ∈ receipts, (receipt.signer, receipt.uid) ∉ uids ∧ receipt.legId ∉ legIds ∧
        ValidReceipt env venueId id s receipt := by
  induction receipts generalizing uids legIds with
  | nil => simp
  | cons receipt receipts ih =>
    simp [ensureValidReceiptsDetails] at h
    obtain ⟨hinstruction, huid, hleg, hsigner, hunused, leg, hlookup, ⟨_, hchecked⟩, hrest⟩ := h
    obtain ⟨huids, hlegs, hreceipts⟩ := ih hrest
    have hvalid : ValidReceipt env venueId id s receipt := by
      cases leg with
      | offChain sender receiver ticker amount =>
        simp [ensureReceiptLeg] at hchecked
        exact ⟨hinstruction, hsigner, hunused, hchecked.1, sender, receiver, ticker, amount,
          hlookup, hchecked.2⟩
      | fungible | nonFungible => cases hchecked
    refine ⟨List.nodup_cons.mpr ⟨fun hmem => ?_, huids⟩,
      List.nodup_cons.mpr ⟨fun hmem => ?_, hlegs⟩,
      List.forall_mem_cons.mpr ⟨⟨huid, hleg, hvalid⟩, fun x hx => ?_⟩⟩
    · obtain ⟨x, hx, heq⟩ := List.mem_map.mp hmem
      exact (hreceipts x hx).1 (heq ▸ List.mem_cons_self)
    · obtain ⟨x, hx, heq⟩ := List.mem_map.mp hmem
      exact (hreceipts x hx).2.1 (heq ▸ List.mem_cons_self)
    · obtain ⟨hx₁, hx₂, hx₃⟩ := hreceipts x hx
      exact ⟨fun hmem => hx₁ (List.mem_cons_of_mem _ hmem),
        fun hmem => hx₂ (List.mem_cons_of_mem _ hmem), hx₃⟩

theorem instruction_claimReceipts (id : InstructionId) (receipts : List ReceiptDetails)
    (t : SettlementStorage) :
    (receipts.foldl (claimReceipt id) t).instruction = update t.instruction id
      { (t.instruction id).claimAll receipts with
        affirmsPending := (t.instruction id).affirmsPending } ∧
    (receipts.foldl (claimReceipt id) t).instructionCounter = t.instructionCounter := by
  induction receipts generalizing t with
  | nil => exact ⟨(update_eq_self id t.instruction).symm, rfl⟩
  | cons receipt receipts ih =>
    have hih := ih (claimReceipt id t receipt)
    refine ⟨hih.1.trans ?_, hih.2⟩
    rw [instruction_claimReceipt, update_self, update_idem]
    rfl

theorem baseAffirmWithReceipts_becomes
    (h : baseAffirmWithReceipts env origin id receipts portfolios count s = (.ok u, s')) :
    (∀ p ∈ orderedSet portfolios, (s.settlement.instruction id).userAffirmations p = .pending) ∧
      (receipts.map ReceiptDetails.legId).Nodup ∧
      (∀ receipt ∈ receipts, ∃ leg,
        (s.settlement.instruction id).legs.lookup receipt.legId = some leg ∧ leg.isOffChain ∧
        (s.settlement.instruction id).offChainAffirmations receipt.legId = .pending) ∧
      Becomes id
        (((s.settlement.instruction id).affirm (orderedSet portfolios)).claimAll receipts) s s' := by
  simp [baseAffirmWithReceipts] at h
  obtain ⟨-, _, details, -, ⟨_, hpending⟩, ⟨_, hreceipts⟩, -, _, s₁, hlock, rfl⟩ := h
  obtain ⟨-, hnodup, hvalid⟩ := ensureValidReceiptsDetails_ok hreceipts
  have hlegs : ∀ receipt ∈ receipts, ∃ leg,
      (s.settlement.instruction id).legs.lookup receipt.legId = some leg ∧ leg.isOffChain ∧
      (s.settlement.instruction id).offChainAffirmations receipt.legId = .pending := by
    intro receipt hr
    obtain ⟨-, -, hreceipt⟩ := hvalid receipt hr
    obtain ⟨sender, receiver, ticker, amount, hlookup, -⟩ := hreceipt.leg
    exact ⟨_, hlookup, rfl, hreceipt.pending⟩
  refine ⟨ensurePortfoliosAndAffirmationStatus_ok hpending, hnodup, hlegs, ?_⟩
  have hlocked := forM_becomes (fun l s s' => lockLeg_becomes l) hlock
  have hclaims := instruction_claimReceipts id receipts
  have hself := hlocked.self
  have hcount := hlocked.affirmsPending
  refine hlocked.trans ⟨⟨(hclaims _).2, rfl, rfl, rfl⟩, ?_⟩
  simp only [Storage.mapSettlement, instruction_setAffirmations, (hclaims _).1,
    instruction_setAffirmsPending, update_self, update_idem, hself]
  congr 1
  ext1 <;> try rfl
  · simp only [affirm, claimAll]
    congr 1
    funext l
    rw [insertAll_apply]
    simp only [mem_senderSubset]
  · simp [affirm, claimAll, hcount]
  · funext p
    simp only [affirm, claimAll, insertAll_apply]

theorem maybeScheduleInstruction_becomes (s : Storage) :
    Becomes id (s.settlement.instruction id) s (maybeScheduleInstruction id s) := by
  unfold maybeScheduleInstruction scheduleInstruction
  split
  · refine .of_agenda ?_
    split <;> rfl
  · exact .of_sameRecords (.of_eq rfl)

theorem cancelNamed_becomes (s : Storage) :
    Becomes id (s.settlement.instruction id) s (s.mapSystem (cancelNamed id)) :=
  .of_agenda rfl

theorem mediatorAffirmation_eq {status : MediatorAffirmationStatus}
    (h : mediatorAffirmation id did s = status) (hne : status ≠ .unknown) :
    (s.settlement.instruction id).mediators.lookup did = some status := by
  subst h
  change (s.settlement.instructionMediatorsAffirmations id).lookup did = _
  unfold mediatorAffirmation at hne ⊢
  cases hl : (s.settlement.instructionMediatorsAffirmations id).lookup did with
  | none => exact absurd (by rw [hl]; rfl) hne
  | some status => rfl

theorem affirmInstructionAsMediator_becomes {expiry : Option Moment}
    (h : affirmInstructionAsMediator env origin id expiry s = (.ok u, s')) :
    ∃ did, did ∈ (s.settlement.instruction id).mediators ∧
      (∀ e ∈ expiry, s.system.now < e) ∧
      Becomes id ((s.settlement.instruction id).mediate did expiry) s s' := by
  simp [affirmInstructionAsMediator] at h
  obtain ⟨data, details, -, hne, hexpiry, h⟩ := h
  have hlookup := mediatorAffirmation_eq rfl hne
  refine ⟨data.primaryDid, ?_, hexpiry, ?_⟩
  · rw [← AList.lookup_isSome, hlookup]
    rfl
  subst h
  refine .maybe ?_ (maybeScheduleInstruction_becomes _)
  by_cases hpending : mediatorAffirmation id data.primaryDid s = .pending
  · rw [if_pos hpending]
    refine ⟨⟨rfl, rfl, rfl, rfl⟩, ?_⟩
    simp only [Storage.mapSettlement, instruction_setAffirmsPending,
      instruction_setMediatorAffirmation, update_self, update_idem]
    rw [mediate, hlookup, if_pos (by rw [hpending])]
    rfl
  · rw [if_neg hpending]
    refine ⟨⟨rfl, rfl, rfl, rfl⟩, ?_⟩
    simp only [Storage.mapSettlement, instruction_setMediatorAffirmation]
    rw [mediate, hlookup, if_neg (by simpa using hpending)]
    rfl

theorem ensureMediatorAffirmed_ok {status : MediatorAffirmationStatus}
    (h : ensureMediatorAffirmed status = .ok u) : ∃ expiry, status = .affirmed expiry := by
  cases status with
  | affirmed expiry => exact ⟨expiry, rfl⟩
  | unknown | pending => cases h

theorem withdrawAffirmationAsMediator_becomes
    (h : withdrawAffirmationAsMediator env origin id s = (.ok u, s')) :
    ∃ did expiry, (s.settlement.instruction id).mediators.lookup did = some (.affirmed expiry) ∧
      Becomes id ((s.settlement.instruction id).unmediate did) s s' := by
  simp [withdrawAffirmationAsMediator] at h
  obtain ⟨data, details, -, ⟨_, haffirmed⟩, rfl⟩ := h
  obtain ⟨expiry, hstatus⟩ := ensureMediatorAffirmed_ok haffirmed
  refine ⟨data.primaryDid, expiry, mediatorAffirmation_eq hstatus (by simp), ?_⟩
  refine .maybe ⟨⟨rfl, rfl, rfl, rfl⟩, ?_⟩ (.of_agenda rfl)
  simp only [Storage.mapSettlement, instruction_setAffirmsPending,
    instruction_setMediatorAffirmation, update_self, update_idem]
  rfl

theorem pruneInstruction_becomes (executed : Bool) (h : (s.settlement.instruction id).Valid) :
    ∃ status, (status = .success s.system.blockNumber ∨ status = .rejected s.system.blockNumber) ∧
      Becomes id (.blank status) s (pruneInstruction id executed s) := by
  refine ⟨if executed then .success s.system.blockNumber else .rejected s.system.blockNumber, ?_,
    ⟨⟨rfl, rfl, rfl, rfl⟩, instruction_prune id s.settlement _ h⟩⟩
  cases executed <;> simp

theorem executeInstruction_sameRecords (h : executeInstruction env id s = (.ok u, s')) :
    SameRecords s s' := by
  have hrun := (executeInstruction_ok h).2.2.2
  have hmove : Movements (uncheckedReleaseLocks id (sortedLegs env id s) s) s' :=
    (Respects.forM fun l _ => transferPendingLeg_any env id l) hrun
  exact (uncheckedReleaseLocks_onlyPortfolio id _ s).sameRecords.trans hmove.sameRecords

end Operations

end Settlement

end Polymesh
