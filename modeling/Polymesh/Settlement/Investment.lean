import Polymesh.Settlement.Delivery

/-!
# Investments that settle

`affirm_and_execute_instruction` prunes an instruction as a success whether or not it has executed
it, and executes it only if nothing is missing after the affirmation. An investment adds its
instruction with the mandatory mediators of both assets, none of whom has affirmed when it is to be
executed. So an investment is settled just when there are no such mediators; otherwise it moves
nothing, leaves what both sides have locked where it is, and reports a success.
-/

namespace Polymesh

open Transactional Tx Collections Bookkeeping Relation Settlement
open TransitionSystem (run)
open InstructionRecord (added affirm claimAll)

/-! ## To affirm and execute -/

/-- Nothing is missing but what the portfolios and the receipt affirm. -/
structure InstructionRecord.CompletedBy (r : InstructionRecord) (receipt : Option ReceiptDetails)
    (portfolios : List PortfolioId) : Prop where
  portfolios : ∀ p, r.userAffirmations p = .pending → p ∈ portfolios
  receipt : ∀ l, r.offChainAffirmations l = .pending → ∃ x ∈ receipt, x.legId = l
  mediators : ∀ did, r.mediators.lookup did ≠ some .pending

section AffirmAndExecute

variable {env : Env} {origin : RuntimeOrigin} {id : InstructionId} {s s' : Storage} {u : Unit}
  {receipt : Option ReceiptDetails} {portfolios : List PortfolioId}

theorem affirmWithOptionalReceipt_record
    (h : affirmWithOptionalReceipt env origin id receipt portfolios s = (.ok u, s')) :
    s'.settlement.instruction id =
      ((s.settlement.instruction id).affirm (orderedSet portfolios)).claimAll receipt.toList := by
  cases receipt with
  | some receipt => exact (baseAffirmWithReceipts_becomes h).2.2.2.self
  | none => exact (baseAffirmInstruction_becomes h).2.self

theorem complete_affirm_claimAll (r : InstructionRecord) :
    ((r.affirm (orderedSet portfolios)).claimAll receipt.toList).Complete ↔
      r.CompletedBy receipt portfolios := by
  have hportfolio : ∀ p,
      ((r.affirm (orderedSet portfolios)).claimAll receipt.toList).userAffirmations p ≠ .pending ↔
        (r.userAffirmations p = .pending → p ∈ portfolios) := by
    intro p
    by_cases hp : p ∈ portfolios <;> simp [claimAll, affirm, hp]
  have hleg : ∀ l,
      ((r.affirm (orderedSet portfolios)).claimAll receipt.toList).offChainAffirmations l ≠
        .pending ↔ (r.offChainAffirmations l = .pending → ∃ x ∈ receipt, x.legId = l) := by
    intro l
    cases receipt with
    | none => simp [claimAll, affirm]
    | some x =>
      by_cases hl : x.legId = l
      · simp [claimAll, affirm, hl]
      · simp [claimAll, affirm, hl, Ne.symm hl]
  constructor
  · exact fun h => ⟨fun p => (hportfolio p).mp (h.portfolios p),
      fun l => (hleg l).mp (h.offChain l), h.mediators⟩
  · exact fun h => ⟨fun p => (hportfolio p).mpr (h.portfolios p),
      fun l => (hleg l).mpr (h.receipt l), h.mediators⟩

theorem lockLeg_sameOwnership (l : LegId × Leg) : Respects SameOwnership (lockLeg id l) :=
  .bind (viaLeg_sameOwnership l.2).1 fun _ => .modify fun _ => ⟨rfl, rfl⟩

theorem unsafeAffirmInstruction_sameOwnership (did : IdentityId) (portfolios : List PortfolioId)
    (key : Option SecondaryKey) (count : Option AffirmationCount) :
    Respects SameOwnership (unsafeAffirmInstruction env did id portfolios key count) :=
  .read_bind fun _ => .bind .get fun _ => .read_bind fun _ =>
    .bind (.forM fun l _ => lockLeg_sameOwnership l) fun _ => .bind (.modify fun _ => ⟨rfl, rfl⟩) fun _ =>
      .modify fun _ => ⟨rfl, rfl⟩

theorem affirmWithOptionalReceipt_sameOwnership (receipt : Option ReceiptDetails)
    (portfolios : List PortfolioId) :
    Respects SameOwnership (affirmWithOptionalReceipt env origin id receipt portfolios) := by
  cases receipt with
  | some receipt =>
    exact .ensure_bind fun _ => .read_bind fun ⟨_, _⟩ => .read_bind fun _ => .read_bind fun _ =>
      .bind .get fun _ => .read_bind fun _ =>
        .bind (.forM fun l _ => lockLeg_sameOwnership l) fun _ =>
          .bind (.modify fun _ => ⟨rfl, rfl⟩) fun _ => .bind (.modify fun _ => ⟨rfl, rfl⟩) fun _ =>
            .modify fun _ => ⟨rfl, rfl⟩
  | none =>
    exact .read_bind fun ⟨_, _⟩ => unsafeAffirmInstruction_sameOwnership _ _ _ _

theorem affirmWithOptionalReceipt_reserve (hs : LedgerInv s)
    (h : affirmWithOptionalReceipt env origin id receipt portfolios s = (.ok u, s')) (k : LockKey) :
    reserve s' k = reserve s k + (s.settlement.instruction id).sent (orderedSet portfolios) k := by
  cases receipt with
  | some receipt => exact baseAffirmWithReceipts_reserve hs h k
  | none => exact baseAffirmInstruction_reserve hs h k

theorem Delivered.of_affirm {s₁ : Storage} (hs : BookInv s)
    (haffirm : affirmWithOptionalReceipt env origin id receipt portfolios s = (.ok u, s₁))
    (h : Delivered id s₁ s') : Delivered id s s' := by
  have hsame := affirmWithOptionalReceipt_sameOwnership _ _ haffirm
  have hlegs : s₁.legs id = s.legs id := by
    have hrecord := congrArg InstructionRecord.legs (affirmWithOptionalReceipt_record haffirm)
    exact congrArg (fun m : AList fun _ : LegId => Leg => m.entries.map fun e => (e.1, e.2)) hrecord
  refine ⟨fun p t => ?_, fun l sender receiver nfts hl => ?_, fun k => ?_⟩
  · have hbalance := h.balances p t
    rw [hlegs, hsame.balances] at hbalance
    exact hbalance
  · exact h.tokens l sender receiver nfts (hlegs ▸ hl)
  · have hdue := affirmWithOptionalReceipt_due hs haffirm k
    have hreleased := h.released k
    omega

theorem Delivered.prune (h : Delivered id s s') (executed : Bool) :
    Delivered id s (pruneInstruction id executed s') :=
  ⟨h.balances, h.tokens, h.released⟩

/-- An instruction is complete after an affirmation if nothing else was missing before. -/
theorem affirmWithOptionalReceipt_pending (hs : BookInv s)
    (h : affirmWithOptionalReceipt env origin id receipt portfolios s = (.ok u, s')) :
    s'.settlement.instructionAffirmsPending id = 0 ↔
      (s.settlement.instruction id).CompletedBy receipt portfolios := by
  have hs' := (affirmWithOptionalReceipt_keepsCover _ _ h hs).1
  rw [← complete_affirm_claimAll, ← affirmWithOptionalReceipt_record h]
  exact (hs'.instructions.valid id).complete_iff

theorem affirmAndExecuteInstruction_pending
    (h : affirmAndExecuteInstruction env origin id receipt portfolios s = (.ok u, s')) :
    ∀ p ∈ orderedSet portfolios,
      (s.settlement.instruction id).userAffirmations p = .pending := by
  simp [affirmAndExecuteInstruction, -mem_orderedSet] at h
  obtain ⟨_, s₁, haffirm, -⟩ := h
  cases receipt with
  | some receipt => exact (baseAffirmWithReceipts_becomes haffirm).1
  | none => exact (baseAffirmInstruction_becomes haffirm).1

/-- **To affirm and execute** performs an instruction that settles on affirmation and misses
nothing else, and otherwise adds locks and nothing more. -/
theorem affirmAndExecuteInstruction_settles (hs : BookInv s) (hnft : NFTInv s)
    (hcover : ∀ k, (s.settlement.instruction id).due k ≤ reserve s k)
    (h : affirmAndExecuteInstruction env origin id receipt portfolios s = (.ok u, s')) :
    let settles := (s.settlement.instructionDetails id).settlementType = .settleOnAffirmation ∧
      (s.settlement.instruction id).CompletedBy receipt portfolios
    (settles → Delivered id s s') ∧
      (¬ settles → SameOwnership s s' ∧
        ∀ k, reserve s' k = reserve s k +
          (s.settlement.instruction id).sent (orderedSet portfolios) k) := by
  intro settles
  simp [affirmAndExecuteInstruction, executeSettleOnAffirmationInstruction, onlyIf_ok] at h
  obtain ⟨_, s₁, haffirm, s₂, hexec, rfl⟩ := h
  have hsettles : settles ↔ (s₁.settlement.instructionDetails id).settlementType =
      .settleOnAffirmation ∧ s₁.settlement.instructionAffirmsPending id = 0 := by
    have hdetails : s₁.settlement.instructionDetails id = s.settlement.instructionDetails id :=
      congrArg InstructionRecord.details (affirmWithOptionalReceipt_record haffirm)
    rw [hdetails, affirmWithOptionalReceipt_pending hs haffirm]
  rcases hexec with ⟨hexecuted, hexec⟩ | ⟨hskipped, rfl⟩
  · refine ⟨fun _ => ?_, fun hnot => absurd (hsettles.mpr hexecuted) hnot⟩
    have hs₁ := (affirmWithOptionalReceipt_keepsCover _ _ haffirm hs).1
    have hnft₁ := Effects.nftInv (affirmWithOptionalReceipt_effects env origin id _
      (fun _ => Footprint.notMem_any _) _ haffirm) hnft
    refine ((executeInstruction_delivers hs₁.instructions hs₁.ledger hnft₁.tokens (fun k => ?_)
      hexec).of_affirm hs haffirm).prune true
    -- the affirmation locks what it adds to the claims
    have hdue := affirmWithOptionalReceipt_due hs haffirm k
    have hk := hcover k
    omega
  · have hsame := affirmWithOptionalReceipt_sameOwnership _ _ haffirm
    have hreserve := affirmWithOptionalReceipt_reserve hs.ledger haffirm
    exact ⟨fun hsettled => absurd (hsettles.mp hsettled) (not_and.mpr hskipped),
      fun _ => ⟨⟨hsame.balances, hsame.owners⟩, hreserve⟩⟩

end AffirmAndExecute

/-! ## New instructions -/

section NewInstructions

variable {env : Env} {venueId : VenueId} {s : Storage} {legs : List Leg} {info : InstructionInfo}

theorem addParties_mediators (leg : Leg) (info : InstructionInfo) (did : IdentityId) :
    did ∈ (addParties s leg info).mediators ↔
      did ∈ info.mediators ∨
        leg.isOffChain = false ∧ did ∈ s.asset.mandatoryMediators leg.ticker := by
  cases leg with
  | offChain => simp [addParties, Leg.sender?, Leg.isOffChain]
  | fungible | nonFungible => simp [addParties, Leg.sender?, Leg.receiver?, Leg.isOffChain, or_comm]

theorem ensureValidLegsLoop_mediators {tickers : List Ticker} {info' : InstructionInfo}
    (h : ensureValidLegsLoop env venueId s legs tickers info = .ok info') (did : IdentityId) :
    did ∈ info'.mediators ↔ did ∈ info.mediators ∨
      ∃ leg ∈ legs, leg.isOffChain = false ∧ did ∈ s.asset.mandatoryMediators leg.ticker := by
  induction legs generalizing tickers info with
  | nil =>
    cases h
    simp
  | cons leg legs ih =>
    simp [ensureValidLegsLoop, ensureValidLeg] at h
    obtain ⟨tickers', -, count, -, hloop⟩ := h
    rw [ih hloop, addParties_mediators]
    simp only [List.exists_mem_cons_iff, or_assoc]

/-- **The mediators of a new instruction** are those it is given and the mandatory ones of its
assets. -/
theorem ensureValidLegs_mediators (h : ensureValidLegs env legs venueId s = .ok info)
    (mediators : List IdentityId) (did : IdentityId) :
    did ∈ (info.extendMediators mediators).mediators ↔ did ∈ mediators ∨
      ∃ leg ∈ legs, leg.isOffChain = false ∧ did ∈ s.asset.mandatoryMediators leg.ticker := by
  simp [ensureValidLegs] at h
  obtain ⟨info, hloop, -, rfl⟩ := h
  have hmediators := ensureValidLegsLoop_mediators hloop did
  simp only [List.not_mem_nil, false_or] at hmediators
  simp only [InstructionInfo.extendMediators, mem_orderedSet, List.mem_append, hmediators, or_comm]

namespace InstructionRecord

theorem mediators_added (h : info.Describes legs) (details : Instruction) :
    (∀ did, (added details legs info).mediators.lookup did ≠ some .pending) ↔
      info.mediators = [] := by
  have hcount := pendingMediators_added h details
  rw [pendingMediators_eq_ncard] at hcount
  rw [← List.length_eq_zero_iff, ← hcount, Set.ncard_eq_zero (Set.toFinite _),
    Set.eq_empty_iff_forall_notMem]
  exact Iff.rfl

theorem affirm_of_mem {r : InstructionRecord} {portfolios : List PortfolioId} {p : PortfolioId}
    (hp : p ∈ portfolios) : (r.affirm portfolios).userAffirmations p = .affirmed :=
  if_pos hp

theorem legList_added (details : Instruction) (legs : List Leg) (info : InstructionInfo) :
    (added details legs info).legList.Perm (legs.zipIdx.map fun x => (x.2, x.1)) := by
  have hperm := (entries_insertLegs legs).map fun e => (e.1, e.2)
  rw [List.map_map] at hperm
  exact hperm

end InstructionRecord

end NewInstructions

/-! ## Investments -/

namespace Sto

/-- Both sides of an investment have been performed, the fundraiser has released what it has sold,
and nothing else is locked. -/
structure Settled (f : Fundraiser) (investmentPortfolio fundingPortfolio : PortfolioId)
    (purchaseAmount cost : ℕ) (s s' : Storage) : Prop where
  balances : ∀ p t, s'.portfolio.portfolioAssetBalances p t +
      ((investmentLegs f investmentPortfolio fundingPortfolio purchaseAmount cost).map
        (Leg.amountFrom p t)).sum =
    s.portfolio.portfolioAssetBalances p t +
      ((investmentLegs f investmentPortfolio fundingPortfolio purchaseAmount cost).map
        (Leg.amountTo p t)).sum
  released : ∀ k, reserve s' k +
    (if k = (f.offeringPortfolio, .inl f.offeringAsset) then purchaseAmount else 0) = reserve s k

/-- Nobody has got anything: what was to be sold is still locked, and so is the price. -/
structure Stuck (f : Fundraiser) (fundingPortfolio : PortfolioId) (cost : ℕ) (s s' : Storage) :
    Prop where
  ownership : SameOwnership s s'
  locked : ∀ k, reserve s' k =
    reserve s k + if k = (fundingPortfolio, .inl f.raisingAsset) then cost else 0

/-- An instruction has been added for an investment, and the fundraiser has affirmed it. -/
structure Offered (f : Fundraiser) (investmentPortfolio fundingPortfolio : PortfolioId)
    (purchaseAmount cost : ℕ) (id : InstructionId) (s s' : Storage) : Prop where
  books : BookInv s'
  nft : NFTInv s'
  ownership : SameOwnership s s'
  record : ∃ details info, details.settlementType = .settleOnAffirmation ∧
    info.Describes (investmentLegs f investmentPortfolio fundingPortfolio purchaseAmount cost) ∧
    (∀ did, did ∈ info.mediators ↔ did ∈ s.asset.mandatoryMediators f.offeringAsset ∨
      did ∈ s.asset.mandatoryMediators f.raisingAsset) ∧
    s'.settlement.instruction id = (added details
      (investmentLegs f investmentPortfolio fundingPortfolio purchaseAmount cost) info).affirm
        (orderedSet [f.offeringPortfolio, f.raisingPortfolio])
  locked : ∀ k, reserve s' k +
      (if k = (f.offeringPortfolio, .inl f.offeringAsset) then purchaseAmount else 0) =
    reserve s k + (s'.settlement.instruction id).due k
  due : ∀ k, (s'.settlement.instruction id).due k =
    (s'.settlement.instruction id).sent (orderedSet [f.offeringPortfolio, f.raisingPortfolio]) k
  covered : ∀ k, (s'.settlement.instruction id).due k ≤ reserve s' k

section Investments

variable {env : Env} {origin : RuntimeOrigin} {f : Fundraiser} {id : InstructionId}
  {investmentPortfolio fundingPortfolio : PortfolioId} {purchaseAmount cost : ℕ}
  {receipt : Option ReceiptDetails} {s s₁ s₂ s₃ s' : Storage} {u : Unit}

theorem offered (hs : BookInv s) (hnft : NFTInv s)
    (hunlock : Portfolio.unlockTokens f.offeringPortfolio f.offeringAsset purchaseAmount s =
      (.ok u, s₁))
    (hadd : baseAddInstruction env f.creator f.venueId .settleOnAffirmation none none
      (investmentLegs f investmentPortfolio fundingPortfolio purchaseAmount cost) [] s₁ =
        (.ok id, s₂))
    (haffirm : unsafeAffirmInstruction env f.creator id
      (orderedSet [f.offeringPortfolio, f.raisingPortfolio]) none none s₂ = (.ok u, s₃)) :
    Offered f investmentPortfolio fundingPortfolio purchaseAmount cost id s s₃ := by
  have hs₁ := hs.of_sameRecords (unlockTokens_onlyPortfolio _ _ _ hunlock).sameRecords
    (Effects.ledgerInv (Portfolio.unlockTokens_effects _ _ _ hunlock) hs.ledger)
  have hs₂ := (baseAddInstruction_keepsCover _ _ _ _ _ _ _ hadd hs₁).1
  obtain ⟨info, hlegs, -, hadded, -⟩ := baseAddInstruction_added hs₁.instructions hadd
  obtain ⟨hpending, hrecord⟩ := unsafeAffirmInstruction_becomes haffirm
  have hnew : ∀ k, (s₂.settlement.instruction id).due k = 0 := fun k => by
    rw [hadded, Function.update_self, InstructionRecord.due_added]
  have hframe : SameOwnership s₁ s₂ ∧ reserve s₂ = reserve s₁ := by
    obtain ⟨_, _, _, -, -, -, -, -, rfl⟩ := baseAddInstruction_ok hadd
    exact ⟨⟨rfl, rfl⟩, rfl⟩
  have hasset : s₁.asset = s.asset := by
    rw [unlockTokens_onlyPortfolio _ _ _ hunlock]
    rfl
  refine ⟨(unsafeAffirmInstruction_keepsCover (nodup_orderedSet _) _ _ haffirm hs₂).1, ?_, ?_,
    ⟨⟨id, f.venueId, .settleOnAffirmation, some s₁.system.now, none, none⟩,
      info.extendMediators [], rfl, ensureValidLegs_ok hlegs [], fun did => ?_, ?_⟩, fun k => ?_,
    fun k => ?_, fun k => ?_⟩
  · exact Effects.nftInv ((Portfolio.unlockTokens_effects _ _ _ hunlock).trans
      ((baseAddInstruction_effects env (Footprint.notMem_any _) _ _ _ _ _ _ _ hadd).trans
        (unsafeAffirmInstruction_effects env id _ _ _ _ haffirm))) hnft
  · have hunlocked : SameOwnership s s₁ :=
      (viaLeg_sameOwnership (.fungible f.offeringPortfolio f.offeringPortfolio
        f.offeringAsset purchaseAmount)).2 hunlock
    exact IsTrans.trans _ _ _ hunlocked (IsTrans.trans _ _ _ hframe.1
      (unsafeAffirmInstruction_sameOwnership _ _ _ _ haffirm))
  · rw [ensureValidLegs_mediators hlegs, hasset]
    simp [investmentLegs, Leg.isOffChain, Leg.ticker]
  · rw [hrecord.self, hadded, Function.update_self]
  · have hunlocked := unlockTokens_reserve hunlock k
    have hdue := unsafeAffirmInstruction_due hs₂ haffirm k
    rw [hframe.2, hnew] at hdue
    omega
  · rw [hrecord.self, InstructionRecord.due_affirm (hs₂.instructions.valid id) hpending, hnew,
      Nat.zero_add]
    rfl
  · have hdue := unsafeAffirmInstruction_due hs₂ haffirm k
    rw [hnew] at hdue
    omega

theorem Offered.legs_perm
    (h : Offered f investmentPortfolio fundingPortfolio purchaseAmount cost id s s₃) :
    (s₃.settlement.instruction id).legList.Perm
      [(0, .fungible f.offeringPortfolio investmentPortfolio f.offeringAsset purchaseAmount),
        (1, .fungible fundingPortfolio f.raisingPortfolio f.raisingAsset cost)] := by
  obtain ⟨details, info, -, -, -, hrecord⟩ := h.record
  have hlegs : (s₃.settlement.instruction id).legList = (added details
      (investmentLegs f investmentPortfolio fundingPortfolio purchaseAmount cost) info).legList := by
    rw [hrecord]
    rfl
  rw [hlegs]
  exact InstructionRecord.legList_added details _ info

theorem Offered.sent_eq
    (h : Offered f investmentPortfolio fundingPortfolio purchaseAmount cost id s s₃)
    (portfolios : List PortfolioId) (k : LockKey) :
    (s₃.settlement.instruction id).sent portfolios k =
      (if f.offeringPortfolio ∈ portfolios ∧ k = (f.offeringPortfolio, .inl f.offeringAsset) then
        purchaseAmount else 0) +
      if fundingPortfolio ∈ portfolios ∧ k = (fundingPortfolio, .inl f.raisingAsset) then cost
      else 0 := by
  rw [InstructionRecord.sent_perm h.legs_perm]
  by_cases hoffering : f.offeringPortfolio ∈ portfolios <;>
    by_cases hfunding : fundingPortfolio ∈ portfolios <;>
      simp [FilteredLegs.isSender, Leg.sender?, Leg.claim, hoffering, hfunding]

/-- **Only mediators can be missing** when the investor affirms. -/
theorem Offered.completedBy_iff
    (h : Offered f investmentPortfolio fundingPortfolio purchaseAmount cost id s s₃)
    (receipt : Option ReceiptDetails) :
    (s₃.settlement.instruction id).CompletedBy receipt [investmentPortfolio, fundingPortfolio] ↔
      s.asset.mandatoryMediators f.offeringAsset = [] ∧
        s.asset.mandatoryMediators f.raisingAsset = [] := by
  obtain ⟨details, info, -, hinfo, hmediators, hrecord⟩ := h.record
  have hvalid := h.books.instructions.valid id
  have hlegs : ∀ l leg, (s₃.settlement.instruction id).legs.lookup l = some leg →
      leg = .fungible f.offeringPortfolio investmentPortfolio f.offeringAsset purchaseAmount ∨
        leg = .fungible fundingPortfolio f.raisingPortfolio f.raisingAsset cost := by
    intro l leg hl
    have hmem := h.legs_perm.subset (InstructionRecord.mem_legList (l := (l, leg)).mpr hl)
    simp only [List.mem_cons, Prod.mk.injEq, List.not_mem_nil, or_false] at hmem
    exact hmem.imp And.right And.right
  have hnone : info.mediators = [] ↔ s.asset.mandatoryMediators f.offeringAsset = [] ∧
      s.asset.mandatoryMediators f.raisingAsset = [] := by
    simp only [List.eq_nil_iff_forall_not_mem, hmediators, not_or, forall_and]
  rw [← hnone, ← InstructionRecord.mediators_added hinfo details]
  refine ⟨fun hcompleted => ?_, fun hmissing => ⟨fun p hp => ?_, fun l hl => ?_, ?_⟩⟩
  · rw [hrecord] at hcompleted
    exact hcompleted.mediators
  · obtain ⟨l, leg, hl, hparty⟩ := hvalid.party p (by rw [hp]; decide)
    have haffirmed : p ∉ orderedSet [f.offeringPortfolio, f.raisingPortfolio] := fun hp' => by
      rw [hrecord, InstructionRecord.affirm_of_mem hp'] at hp
      cases hp
    simp only [mem_orderedSet, List.mem_cons, List.not_mem_nil, or_false, not_or] at haffirmed
    rcases hlegs l leg hl with rfl | rfl
    · simp [legPortfolios, Leg.sender?, Leg.receiver?, haffirmed] at hparty
      simp [hparty]
    · simp [legPortfolios, Leg.sender?, Leg.receiver?, haffirmed] at hparty
      simp [hparty]
  · -- both legs are on chain
    obtain ⟨leg, hleg, hoff⟩ := hvalid.offChain_leg l (by rw [hl]; decide)
    rcases hlegs l leg hleg with rfl | rfl <;> cases hoff
  · rw [hrecord]
    exact hmissing

theorem Offered.settled
    (h : Offered f investmentPortfolio fundingPortfolio purchaseAmount cost id s s₃)
    (hdelivered : Delivered id s₃ s') :
    Settled f investmentPortfolio fundingPortfolio purchaseAmount cost s s' := by
  refine ⟨fun p t => ?_, fun k => ?_⟩
  · have hbalance := hdelivered.balances p t
    have hsum : ∀ g : Leg → ℕ, ((s₃.legs id).map fun l => g l.2).sum =
        ((investmentLegs f investmentPortfolio fundingPortfolio purchaseAmount cost).map g).sum :=
      fun g => (h.legs_perm.map fun l => g l.2).sum_eq
    rw [hsum, hsum, h.ownership.balances] at hbalance
    exact hbalance
  · have hreleased := hdelivered.released k
    have hlocked := h.locked k
    omega

theorem Offered.stuck
    (h : Offered f investmentPortfolio fundingPortfolio purchaseAmount cost id s s₃)
    (hpending : ∀ p ∈ orderedSet [investmentPortfolio, fundingPortfolio],
      (s₃.settlement.instruction id).userAffirmations p = .pending)
    (hsame : SameOwnership s₃ s')
    (hreserve : ∀ k, reserve s' k = reserve s₃ k + (s₃.settlement.instruction id).sent
      (orderedSet [investmentPortfolio, fundingPortfolio]) k) :
    Stuck f fundingPortfolio cost s s' := by
  -- the two sides have no portfolio in common, as each was pending when it was affirmed
  have hdisjoint : ∀ p ∈ orderedSet [f.offeringPortfolio, f.raisingPortfolio],
      p ∉ orderedSet [investmentPortfolio, fundingPortfolio] := by
    intro p hp hp'
    obtain ⟨details, info, -, -, -, hrecord⟩ := h.record
    have hmissing := hpending p hp'
    rw [hrecord, InstructionRecord.affirm_of_mem hp] at hmissing
    cases hmissing
  have hoffering := hdisjoint f.offeringPortfolio (mem_orderedSet.mpr List.mem_cons_self)
  have hfunding : fundingPortfolio ∉ orderedSet [f.offeringPortfolio, f.raisingPortfolio] :=
    fun hp => hdisjoint fundingPortfolio hp (mem_orderedSet.mpr (by simp))
  refine ⟨IsTrans.trans _ _ _ h.ownership hsame, fun k => ?_⟩
  have hlocked := h.locked k
  have hadded := hreserve k
  rw [h.due, h.sent_eq] at hlocked
  rw [h.sent_eq] at hadded
  simp [hoffering, hfunding, mem_orderedSet] at hlocked hadded
  omega

/-- **What an investment does**, with mandatory mediators and without. -/
theorem settleInvestment_settles (hs : BookInv s) (hnft : NFTInv s)
    (h : settleInvestment env origin f investmentPortfolio fundingPortfolio purchaseAmount cost
      receipt s = (.ok u, s')) :
    let unmediated := s.asset.mandatoryMediators f.offeringAsset = [] ∧
      s.asset.mandatoryMediators f.raisingAsset = []
    0 < purchaseAmount ∧
      (unmediated → Settled f investmentPortfolio fundingPortfolio purchaseAmount cost s s') ∧
      (¬ unmediated → Stuck f fundingPortfolio cost s s') := by
  intro unmediated
  simp [settleInvestment] at h
  obtain ⟨_, s₁, hunlock, id, s₂, hadd, _, s₃, haffirm, hexec⟩ := h
  have hoffered := offered hs hnft hunlock hadd haffirm
  obtain ⟨details, info, htype, hinfo, -, hrecord⟩ := hoffered.record
  have hpositive : 0 < purchaseAmount := (hinfo.wellFormed _ List.mem_cons_self).2
  have hdetails : (s₃.settlement.instructionDetails id).settlementType = .settleOnAffirmation :=
    (congrArg (fun r => r.details.settlementType) hrecord).trans htype
  have hsettles : _ ↔ unmediated :=
    (and_iff_right hdetails).trans (hoffered.completedBy_iff receipt)
  obtain ⟨hdelivered, hrest⟩ :=
    affirmAndExecuteInstruction_settles hoffered.books hoffered.nft hoffered.covered hexec
  refine ⟨hpositive, fun hfree => hoffered.settled (hdelivered (hsettles.mpr hfree)), fun hmed => ?_⟩
  obtain ⟨hsame, hreserve⟩ := hrest (mt hsettles.mp hmed)
  exact hoffered.stuck (affirmAndExecuteInstruction_pending hexec) hsame hreserve

theorem Stuck.not_settled (h : Stuck f fundingPortfolio cost s s') (hpositive : 0 < purchaseAmount) :
    ¬ Settled f investmentPortfolio fundingPortfolio purchaseAmount cost s s' := by
  intro hsettled
  have hreleased := hsettled.released (f.offeringPortfolio, .inl f.offeringAsset)
  have hlocked := h.locked (f.offeringPortfolio, .inl f.offeringAsset)
  rw [if_pos rfl] at hreleased
  omega

end Investments

end Sto

/-- **An investment is settled just when neither of its assets has a mandatory mediator**, in every
state of the chain; with a mediator it succeeds as well, but nothing has moved and everything stays
locked. In general, `affirm_and_execute_instruction` performs an instruction that settles on
affirmation and misses nothing else; any other one it prunes unexecuted, with its locks. -/
theorem investment_settles_iff {s : Storage} (h : Reachable s) (env : Env)
    (origin : RuntimeOrigin) :
    (∀ id receipt portfolios s',
      affirmAndExecuteInstruction env origin id receipt portfolios s = (.ok (), s') →
      let settles := (s.settlement.instructionDetails id).settlementType = .settleOnAffirmation ∧
        (s.settlement.instruction id).CompletedBy receipt portfolios
      (settles → Delivered id s s') ∧
        (¬ settles → SameOwnership s s' ∧ ∀ k, reserve s' k = reserve s k +
          (s.settlement.instruction id).sent (orderedSet portfolios) k)) ∧
    ∀ investmentPortfolio fundingPortfolio offeringAsset id purchaseAmount maxPrice receipt s',
      Sto.invest env origin investmentPortfolio fundingPortfolio offeringAsset id purchaseAmount
        maxPrice receipt s = (.ok (), s') →
      ∃ f tiers cost, s.sto.fundraisers offeringAsset id = some f ∧
        Sto.purchaseTiers f.tiers purchaseAmount 0 = .ok (tiers, 0, cost) ∧
        (Sto.Settled f investmentPortfolio fundingPortfolio purchaseAmount cost s s' ↔
          s.asset.mandatoryMediators f.offeringAsset = [] ∧
            s.asset.mandatoryMediators f.raisingAsset = []) ∧
        (¬ (s.asset.mandatoryMediators f.offeringAsset = [] ∧
            s.asset.mandatoryMediators f.raisingAsset = []) →
          Sto.Stuck f fundingPortfolio cost s s') := by
  have hs := reachable_coverInv h
  have hnft := reachable_nftInv h
  refine ⟨fun id receipt portfolios s' hexec => ?_, fun ip fp asset id amount price receipt s' hrun =>
    ?_⟩
  · exact affirmAndExecuteInstruction_settles hs.books hnft
      (hs.covered.claim_le (Claimant.instruction id)) hexec
  · obtain ⟨f, tiers, cost, s₁, hf, -, htiers, hsettle, rfl⟩ := Sto.invest_ok hrun
    obtain ⟨hpositive, hsettled, hstuck⟩ := Sto.settleInvestment_settles hs.books hnft hsettle
    -- the tiers that are written at the end are neither holdings nor locks
    refine ⟨f, tiers, cost, hf, htiers, ⟨fun hdone => ?_, fun hfree => ?_⟩, fun hmed => ?_⟩
    · by_contra hmed
      exact (hstuck hmed).not_settled hpositive ⟨hdone.balances, hdone.released⟩
    · obtain ⟨hbalances, hreleased⟩ := hsettled hfree
      exact ⟨hbalances, hreleased⟩
    · obtain ⟨⟨hbalances, howners⟩, hlocked⟩ := hstuck hmed
      exact ⟨⟨hbalances, howners⟩, hlocked⟩

/-- A fundraiser that offers 300 tokens of an asset for as many of another one, which an investor
holds. -/
def fundraiserRun : List Action :=
  [.calls 1 (.createAsset ⟨1⟩ true .equityCommon), .calls 1 (.issue ⟨1⟩ 1000 .default),
    .calls 2 (.createAsset ⟨2⟩ true .equityCommon), .calls 2 (.issue ⟨2⟩ 1000 .default),
    .calls 1 (.createVenue [] .sto),
    .calls 1 (.createFundraiser (.defaultPortfolio ⟨1⟩) ⟨1⟩ (.defaultPortfolio ⟨1⟩) ⟨2⟩
      [⟨300, 1000000⟩] ⟨1⟩ none none 0)]

/-- An investment without mediators is settled, and so is a swap that only its buyer has still to
affirm. -/
theorem investment_settles_iff_unmediated :
    let s := run step genesis fundraiserRun
    let invested := Sto.invest .consenting (.signed ⟨2⟩) (.defaultPortfolio ⟨2⟩)
      (.defaultPortfolio ⟨2⟩) ⟨1⟩ ⟨0⟩ 100 none none s
    let swap := run step genesis swapRun
    let swapped := affirmAndExecuteInstruction .consenting (.signed ⟨2⟩) ⟨1⟩ none
      [.defaultPortfolio ⟨2⟩] swap
    invested.1 = .ok () ∧ (∃ f cost, s.sto.fundraisers ⟨1⟩ ⟨0⟩ = some f ∧
      Sto.Settled f (.defaultPortfolio ⟨2⟩) (.defaultPortfolio ⟨2⟩) 100 cost s invested.2) ∧
      swapped.1 = .ok () ∧ Delivered ⟨1⟩ swap swapped.2 := by
  intro s invested swap swapped
  have hs : Reachable s := ⟨_, rfl⟩
  have hswap : Reachable swap := ⟨_, rfl⟩
  have hinvested : invested.1 = .ok () := by
    unfold invested s
    rfl
  have hbought : invested.2.portfolio.portfolioAssetBalances (.defaultPortfolio ⟨2⟩) ⟨1⟩ ≠
      s.portfolio.portfolioAssetBalances (.defaultPortfolio ⟨2⟩) ⟨1⟩ := by
    unfold invested s
    decide +kernel
  have hpaid : swapped.2.portfolio.portfolioAssetBalances (.defaultPortfolio ⟨1⟩) ⟨2⟩ ≠
      swap.portfolio.portfolioAssetBalances (.defaultPortfolio ⟨1⟩) ⟨2⟩ := by
    unfold swapped swap
    decide +kernel
  obtain ⟨f, tiers, cost, hf, -, hsettled, hstuck⟩ :=
    (investment_settles_iff hs .consenting (.signed ⟨2⟩)).2 (.defaultPortfolio ⟨2⟩)
      (.defaultPortfolio ⟨2⟩) ⟨1⟩ ⟨0⟩ 100 none none invested.2 (Prod.fst_eq_iff.mp hinvested)
  obtain ⟨hdelivered, hunmoved⟩ :=
    (investment_settles_iff hswap .consenting (.signed ⟨2⟩)).1 ⟨1⟩ none [.defaultPortfolio ⟨2⟩]
      swapped.2 (by rfl)
  refine ⟨hinvested, ⟨f, cost, hf, hsettled.mpr ?_⟩, by rfl, hdelivered ?_⟩
  -- otherwise nothing would have moved
  · by_contra hmed
    exact hbought (congrFun (congrFun (hstuck hmed).ownership.balances _) _)
  · by_contra hnot
    exact hpaid (congrFun (congrFun (hunmoved hnot).1.balances _) _)

/-- **An investment that is not settled**: the offered asset has a mandatory mediator. The call
succeeds and the instruction is a success, but the investor has no token, the fundraiser has not
been paid, and both the tokens and the price are locked. -/
theorem investment_not_settled :
    let s := run step genesis
      (fundraiserRun ++ [.calls 1 (.addMandatoryMediators ⟨1⟩ [⟨7⟩])])
    let invested := Sto.invest .consenting (.signed ⟨2⟩) (.defaultPortfolio ⟨2⟩)
      (.defaultPortfolio ⟨2⟩) ⟨1⟩ ⟨0⟩ 100 none none s
    invested.1 = .ok () ∧ invested.2.settlement.instructionStatuses ⟨1⟩ = .success 0 ∧
      invested.2.portfolio.portfolioAssetBalances (.defaultPortfolio ⟨2⟩) ⟨1⟩ = 0 ∧
      invested.2.portfolio.portfolioAssetBalances (.defaultPortfolio ⟨1⟩) ⟨2⟩ = 0 ∧
      invested.2.portfolio.portfolioLockedAssets (.defaultPortfolio ⟨1⟩) ⟨1⟩ = 300 ∧
      s.portfolio.portfolioLockedAssets (.defaultPortfolio ⟨2⟩) ⟨2⟩ = 0 ∧
      invested.2.portfolio.portfolioLockedAssets (.defaultPortfolio ⟨2⟩) ⟨2⟩ = 100 := by
  refine ⟨?_, ?_, ?_, ?_, ?_, ?_, ?_⟩
  · rfl
  all_goals decide +kernel

end Polymesh
