import Polymesh.Locks.Reserve
import Polymesh.Settlement.Refinement

/-!
# Who has a claim on what is locked

Instructions, fundraisers and capital distributions lock into the same number and each keeps its
own record of what it is owed. Every operation takes from what is locked no more than it takes
from the record of the one who asked for it.
-/

open scoped BigOperators

namespace Polymesh

open Transactional Tx Collections Bookkeeping Relation Settlement

/-! ## Claims -/

/-- What a fundraiser that is not closed has still to sell. -/
def Fundraiser.due (f : Fundraiser) (k : LockKey) : ℕ :=
  if f.isClosed = false ∧ k = (f.offeringPortfolio, .inl f.offeringAsset) then
    (f.tiers.map FundraiserTier.remaining).sum
  else 0

/-- What a distribution has still to pay. -/
def Distribution.due (d : Distribution) (k : LockKey) : ℕ :=
  if k = (d.from_, .inl d.currency) then d.remaining else 0

/-- An instruction, a fundraiser, or a distribution. -/
inductive Claimant
  | instruction (id : InstructionId)
  | fundraiser (ticker : Ticker) (id : FundraiserId)
  | distribution (caId : CAId)
deriving DecidableEq, Fintype

/-- What a claimant is owed under a key. -/
def claims (s : Storage) : Claimant → LockKey → ℕ
  | .instruction id => (s.settlement.instruction id).due
  | .fundraiser t id => fun k => (s.sto.fundraisers t id).elim 0 fun f => f.due k
  | .distribution caId => fun k => (s.distribution.distributions caId).elim 0 fun d => d.due k

/-- What is locked loses no more than the claims do. -/
def Secured (s s' : Storage) : Prop := Secures (claims s) (reserve s) (claims s') (reserve s')

instance : Std.Refl Secured := ⟨fun s => Secures.refl (claims s) (reserve s)⟩

instance : IsTrans Storage Secured := ⟨fun _ _ _ h h' => Secures.trans h h'⟩

/-- The expiry of a distribution is after its payment, before which nothing is claimed. -/
structure Distribution.Sound (d : Distribution) (now : Moment) : Prop where
  expiry : CapitalDistribution.expired d.expiresAt d.paymentAt = false
  unclaimed : now < d.paymentAt → d.remaining = d.amount

/-- What the operations on locks rely on. -/
structure BookInv (s : Storage) : Prop where
  instructions : InstructionsInv s
  ledger : LedgerInv s
  distributions : ∀ caId d, s.distribution.distributions caId = some d → d.Sound s.system.now

/-- Claims stay secured from states with the invariant, which stays. -/
abbrev KeepsCover : Storage → Storage → Prop := Keeping BookInv Secured

section Changes

variable {s s' : Storage}

variable {id : InstructionId} {r : InstructionRecord}

theorem claims_setInstruction
    (h : s'.settlement.instruction = Function.update s.settlement.instruction id r)
    (hsto : s'.sto = s.sto) (hdistribution : s'.distribution = s.distribution) :
    claims s' = Function.update (claims s) (.instruction id) r.due := by
  funext c
  cases c with
  | instruction id' =>
    by_cases hid : id' = id
    · subst hid
      simp [claims, h]
    · simp [claims, h, hid]
  | fundraiser t f => simp [claims, hsto]
  | distribution caId => simp [claims, hdistribution]

theorem claims_setFundraiser (t : Ticker) (id : FundraiserId) (f : Fundraiser) :
    claims (s.mapSto (Sto.setFundraiser t id f)) =
      Function.update (claims s) (.fundraiser t id) f.due := by
  funext c
  cases c with
  | instruction id' => rfl
  | fundraiser t' id' =>
    by_cases hid : t' = t ∧ id' = id
    · obtain ⟨rfl, rfl⟩ := hid
      simp [claims, Storage.mapSto, Sto.setFundraiser]
    · simp [claims, Storage.mapSto, Sto.setFundraiser, update₂_apply, hid]
  | distribution caId => rfl

theorem claims_setDistribution (caId : CAId) (d : Option Distribution) :
    claims (s.mapDistribution (CapitalDistribution.setDistribution caId d)) =
      Function.update (claims s) (.distribution caId) fun k => d.elim 0 fun d => d.due k := by
  funext c
  cases c with
  | instruction id' | fundraiser t' id' => rfl
  | distribution caId' =>
    by_cases hid : caId' = caId
    · subst hid
      simp [claims, Storage.mapDistribution, CapitalDistribution.setDistribution]
    · simp [claims, Storage.mapDistribution, CapitalDistribution.setDistribution, hid]

theorem claims_sameRecords (h : SameRecords s s') : claims s' = claims s := by
  funext c
  cases c with
  | instruction id' => simp [claims, h.instruction]
  | fundraiser t' id' => simp [claims, h.sto]
  | distribution caId' => simp [claims, h.distribution]

theorem reserve_congr
    (h : s'.portfolio.portfolioLockedAssets = s.portfolio.portfolioLockedAssets)
    (h' : s'.portfolio.portfolioLockedNFT = s.portfolio.portfolioLockedNFT) :
    reserve s' = reserve s := by
  funext k
  obtain ⟨p, t | x⟩ := k
  · simp [reserve, h]
  · simp [reserve, h']

theorem moveNfts_lockedNFT (p q : PortfolioId) (xs : List (Ticker × NFTId)) (s : Storage) :
    (xs.foldl (Portfolio.uncheckedMoveNft p q) s).portfolio.portfolioLockedNFT =
      s.portfolio.portfolioLockedNFT := by
  induction xs generalizing s with
  | nil => rfl
  | cons x xs ih => exact ih (Portfolio.uncheckedMoveNft p q s x)

/-- **To move holdings does not change what is locked.** -/
theorem Movement.reserve_eq {f : Footprint} (h : Movement f s s') (hs : LedgerInv s) :
    reserve s' = reserve s := by
  cases h with
  | other h => exact reserve_congr h.locked h.lockedNFT
  | transferNfts p q nfts =>
    exact reserve_congr (sameFungible_moveNfts p q nfts.tokens _).locked
      (moveNfts_lockedNFT p q nfts.tokens _)
  | delete did num name holder _ hcount =>
    refine reserve_congr ?_ rfl
    -- a portfolio without assets has no balance, and so no locks
    refine Function.update_eq_self_iff.mpr (funext fun t => ?_)
    have hle := hs.locked_le (.userPortfolio did num) t
    rw [hs.counts.balance_eq_zero hcount t] at hle
    omega
  | _ => rfl

theorem Movements.ledgerInv (h : Movements s s') (hs : LedgerInv s) : LedgerInv s' :=
  Effects.ledgerInv (MovementsIn.effects h) hs

theorem Movements.reserve_eq (h : Movements s s') (hs : LedgerInv s) : reserve s' = reserve s := by
  induction h with
  | refl => rfl
  | tail h hmove ih => rw [hmove.reserve_eq (Movements.ledgerInv h hs), ih]

theorem BookInv.of_sameRecords (hs : BookInv s) (h : SameRecords s s') (hledger : LedgerInv s') :
    BookInv s' where
  instructions := ((SameInstructions.of_sameRecords h).advances hs.instructions).1
  ledger := hledger
  distributions := by
    rw [h.distribution, h.system]
    exact hs.distributions

/-- **To move holdings changes neither locks nor claims.** -/
theorem Movements.keepsCover (h : Movements s s') : KeepsCover s s' := by
  intro hs
  refine ⟨hs.of_sameRecords h.sameRecords (Movements.ledgerInv h hs.ledger), ?_⟩
  rw [Secured, claims_sameRecords h.sameRecords, Movements.reserve_eq h hs.ledger]
  exact Secures.refl _ _

theorem keepsCover_of_update {c : Claimant} {f : LockKey → ℕ} (hadvances : Advances s s')
    (heffects : Effects s s')
    (hdistributions : BookInv s →
      ∀ caId d, s'.distribution.distributions caId = some d → d.Sound s'.system.now)
    (hclaims : BookInv s → claims s' = Function.update (claims s) c f)
    (hdue : BookInv s → ∀ k, f k + reserve s k ≤ claims s c k + reserve s' k) :
    KeepsCover s s' := by
  intro hs
  refine ⟨⟨(hadvances hs.instructions).1, heffects.ledgerInv hs.ledger, hdistributions hs⟩, ?_⟩
  rw [Secured, hclaims hs]
  exact secures_update c (hdue hs)

theorem keepsCover_of_becomes (h : Becomes id r s s') (hadvances : Advances s s')
    (heffects : Effects s s') (hdue : BookInv s →
      ∀ k, r.due k + reserve s k ≤ (s.settlement.instruction id).due k + reserve s' k) :
    KeepsCover s s' := by
  refine keepsCover_of_update hadvances heffects (fun hs => ?_)
    (fun _ => claims_setInstruction h.instruction h.sto h.distribution) hdue
  rw [h.distribution, h.now]
  exact hs.distributions

end Changes

/-! ## Instructions -/

section Instructions

variable {env : Env} {origin : RuntimeOrigin} {id : InstructionId} {s s' : Storage} {u : Unit}

theorem senderSubset_claims (env : Env) (portfolios : List PortfolioId) (k : LockKey) :
    ((filteredLegs env id portfolios s).senderSubset.map fun l => l.2.claim k).sum =
      (s.settlement.instruction id).sent portfolios k :=
  (((env.legOrder_perm (s.legs id)).filter _).map _).sum_eq

variable {did : IdentityId} {portfolios : List PortfolioId} {key : Option SecondaryKey}
  {count : Option AffirmationCount} {receipts : List ReceiptDetails}
  {receipt : Option ReceiptDetails} {s₁ : Storage}

theorem unsafeAffirmInstruction_reserve (hs : LedgerInv s)
    (h : unsafeAffirmInstruction env did id portfolios key count s = (.ok u, s')) (k : LockKey) :
    reserve s' k = reserve s k + (s.settlement.instruction id).sent portfolios k := by
  simp [unsafeAffirmInstruction] at h
  obtain ⟨-, -, _, s₁, hlock, rfl⟩ := h
  rw [← senderSubset_claims env, ← lockLegs_reserve hs hlock k]
  rfl

theorem baseAffirmInstruction_reserve (hs : LedgerInv s)
    (h : baseAffirmInstruction env origin id portfolios count s = (.ok u, s')) (k : LockKey) :
    reserve s' k = reserve s k + (s.settlement.instruction id).sent (orderedSet portfolios) k := by
  simp [baseAffirmInstruction] at h
  obtain ⟨_, ⟨_, -⟩, h⟩ := h
  exact unsafeAffirmInstruction_reserve hs h k

theorem baseAffirmWithReceipts_reserve (hs : LedgerInv s)
    (h : baseAffirmWithReceipts env origin id receipts portfolios count s = (.ok u, s'))
    (k : LockKey) :
    reserve s' k = reserve s k + (s.settlement.instruction id).sent (orderedSet portfolios) k := by
  simp [baseAffirmWithReceipts] at h
  obtain ⟨-, _, details, -, -, -, -, _, s₁, hlock, rfl⟩ := h
  rw [← senderSubset_claims env, ← lockLegs_reserve hs hlock k]
  rfl

theorem unsafeWithdrawInstructionAffirmation_reserve
    (h : unsafeWithdrawInstructionAffirmation env did id portfolios key count s = (.ok u, s'))
    (k : LockKey) :
    reserve s' k + (s.settlement.instruction id).sent (orderedSet portfolios) k = reserve s k := by
  simp [unsafeWithdrawInstructionAffirmation] at h
  obtain ⟨-, -, _, s₁, hunlock, rfl⟩ := h
  rw [← senderSubset_claims env, ← unlockLegs_reserve hunlock k]
  rfl

theorem unsafeAffirmInstruction_due (hs : BookInv s)
    (h : unsafeAffirmInstruction env did id portfolios key count s = (.ok u, s')) (k : LockKey) :
    (s'.settlement.instruction id).due k + reserve s k =
      (s.settlement.instruction id).due k + reserve s' k := by
  obtain ⟨hpending, hrecord⟩ := unsafeAffirmInstruction_becomes h
  rw [hrecord.self, InstructionRecord.due_affirm (hs.instructions.valid id) hpending,
    unsafeAffirmInstruction_reserve hs.ledger h]
  omega

theorem baseAffirmWithReceipts_due (hs : BookInv s)
    (h : baseAffirmWithReceipts env origin id receipts portfolios count s = (.ok u, s'))
    (k : LockKey) :
    (s'.settlement.instruction id).due k + reserve s k =
      (s.settlement.instruction id).due k + reserve s' k := by
  obtain ⟨hpending, hnodup, hlegs, hrecord⟩ := baseAffirmWithReceipts_becomes h
  have hoff : ∀ x ∈ receipts, ∃ leg,
      ((s.settlement.instruction id).affirm (orderedSet portfolios)).legs.lookup x.legId =
        some leg ∧ leg.isOffChain := fun x hx => by
    obtain ⟨leg, hl, hoff, -⟩ := hlegs x hx
    exact ⟨leg, hl, hoff⟩
  rw [hrecord.self, InstructionRecord.due_claimAll hoff,
    InstructionRecord.due_affirm (hs.instructions.valid id) hpending,
    baseAffirmWithReceipts_reserve hs.ledger h]
  omega

theorem affirmWithOptionalReceipt_due (hs : BookInv s)
    (h : affirmWithOptionalReceipt env origin id receipt portfolios s = (.ok u, s')) (k : LockKey) :
    (s'.settlement.instruction id).due k + reserve s k =
      (s.settlement.instruction id).due k + reserve s' k := by
  cases receipt with
  | some receipt => exact baseAffirmWithReceipts_due hs h k
  | none =>
    simp [affirmWithOptionalReceipt, baseAffirmInstruction] at h
    obtain ⟨_, ⟨_, -⟩, h⟩ := h
    exact unsafeAffirmInstruction_due hs h k

theorem unsafeAffirmInstruction_keepsCover (hnodup : portfolios.Nodup) (key : Option SecondaryKey)
    (count : Option AffirmationCount) :
    Respects KeepsCover (unsafeAffirmInstruction env did id portfolios key count) := by
  intro s u s' h
  obtain ⟨hpending, hrecord⟩ := unsafeAffirmInstruction_becomes h
  refine keepsCover_of_becomes hrecord (affirm_advances hnodup ⟨hpending, hrecord⟩)
    (unsafeAffirmInstruction_effects env id _ _ _ _ h) fun hs k => ?_
  rw [← hrecord.self]
  exact (unsafeAffirmInstruction_due hs h k).le

theorem baseAffirmInstruction_keepsCover (portfolios : List PortfolioId)
    (count : Option AffirmationCount) :
    Respects KeepsCover (baseAffirmInstruction env origin id portfolios count) :=
  .bind (Tx.Respects.read _) fun ⟨_, _⟩ =>
    unsafeAffirmInstruction_keepsCover (nodup_orderedSet _) _ _

theorem baseAffirmWithReceipts_keepsCover (receipts : List ReceiptDetails)
    (portfolios : List PortfolioId) (count : Option AffirmationCount) :
    Respects KeepsCover (baseAffirmWithReceipts env origin id receipts portfolios count) := by
  intro s u s' h
  obtain ⟨hpending, hnodup, hlegs, hrecord⟩ := baseAffirmWithReceipts_becomes h
  refine keepsCover_of_becomes hrecord (baseAffirmWithReceipts_advances _ _ _ h)
    (baseAffirmWithReceipts_effects env origin id (Footprint.notMem_any _) _ _ _ h) fun hs k => ?_
  rw [← hrecord.self]
  exact (baseAffirmWithReceipts_due hs h k).le

theorem maybeScheduleInstruction_keepsCover (s : Storage) :
    KeepsCover s (maybeScheduleInstruction id s) :=
  keepsCover_of_becomes (maybeScheduleInstruction_becomes s)
    (maybeScheduleInstruction_advances s)
    (respects_maybeScheduleInstruction id rfl) fun _ k => by
      have hreserve : reserve (maybeScheduleInstruction id s) = reserve s := by
        unfold maybeScheduleInstruction
        split <;> rfl
      rw [hreserve]

theorem cancelNamed_keepsCover (s : Storage) : KeepsCover s (s.mapSystem (cancelNamed id)) :=
  keepsCover_of_becomes (cancelNamed_becomes s) ((cancelNamed_becomes s).advances .refl)
    (.single (.record (.of_eq rfl) (.of_eq rfl))) fun _ _ => le_rfl

theorem withdrawAffirmation_keepsCover (portfolios : List PortfolioId)
    (count : Option AffirmationCount) :
    Respects KeepsCover (withdrawAffirmation env origin id portfolios count) := by
  refine .read_bind fun ⟨_, _⟩ => .bind ?_ fun _ => .onlyIf (.modify cancelNamed_keepsCover)
  intro s u s' h
  obtain ⟨haffirmed, hrecord⟩ := unsafeWithdrawInstructionAffirmation_becomes h
  refine keepsCover_of_becomes hrecord
    (unsafeWithdrawInstructionAffirmation_advances _ _ _ _ h)
    (unsafeWithdrawInstructionAffirmation_effects env id _ _ _ _ h) fun hs k => ?_
  rw [InstructionRecord.due_withdraw (hs.instructions.valid id) haffirmed,
    ← unsafeWithdrawInstructionAffirmation_reserve h]
  omega

/-- The part of the portfolio pallet is the same. -/
def SamePortfolio (s s' : Storage) : Prop := s'.portfolio = s.portfolio

instance : Std.Refl SamePortfolio := ⟨fun _ => rfl⟩

instance : IsTrans Storage SamePortfolio := ⟨fun _ _ _ h h' => Eq.trans h' h⟩

theorem SamePortfolio.reserve_eq (h : SamePortfolio s s') : reserve s' = reserve s :=
  reserve_congr (by rw [h]) (by rw [h])

theorem affirmInstructionAsMediator_keepsCover (expiry : Option Moment) :
    Respects KeepsCover (affirmInstructionAsMediator env origin id expiry) := by
  intro s u s' h
  have hportfolio : SamePortfolio s s' := by
    refine Respects.read_bind (fun ⟨_, _⟩ => .bind .get fun _ => .ensure_bind fun _ =>
      .ensure_bind fun _ => .bind (.modify fun _ => rfl) fun _ =>
        .bind (.onlyIf (.modify fun _ => rfl)) fun _ => .onlyIf (.modify fun _ => ?_)) h
    unfold maybeScheduleInstruction
    split <;> rfl
  obtain ⟨did, hdid, -, hrecord⟩ := affirmInstructionAsMediator_becomes h
  refine keepsCover_of_becomes hrecord (affirmInstructionAsMediator_advances _ h)
    (affirmInstructionAsMediator_effects env origin id _ h) fun _ k => ?_
  rw [hportfolio.reserve_eq]
  exact le_rfl

theorem withdrawAffirmationAsMediator_keepsCover :
    Respects KeepsCover (withdrawAffirmationAsMediator env origin id) := by
  intro s u s' h
  have hportfolio : SamePortfolio s s' :=
    Respects.read_bind (fun ⟨_, _⟩ => .bind .get fun _ => .read_bind fun _ =>
      .bind (.modify fun _ => rfl) fun _ => .bind (.modify fun _ => rfl) fun _ =>
        .onlyIf (.modify fun _ => rfl)) h
  obtain ⟨did, expiry, hdid, hrecord⟩ := withdrawAffirmationAsMediator_becomes h
  refine keepsCover_of_becomes hrecord (withdrawAffirmationAsMediator_advances h)
    (withdrawAffirmationAsMediator_effects env origin id h) fun _ k => ?_
  rw [hportfolio.reserve_eq]
  exact le_rfl

theorem baseAddInstruction_keepsCover (did : IdentityId) (venueId : VenueId)
    (settlementType : SettlementType) (tradeDate valueDate : Option Moment) (legs : List Leg)
    (mediators : List IdentityId) :
    Respects KeepsCover
      (baseAddInstruction env did venueId settlementType tradeDate valueDate legs mediators) := by
  intro s id s' h hs
  obtain ⟨info, -, -, hrecord, -⟩ := baseAddInstruction_added hs.instructions h
  have hblank : (s.settlement.instruction id).due = fun _ => 0 := by
    obtain ⟨-, -, -, -, rfl, -⟩ := baseAddInstruction_ok h
    rw [hs.instructions.fresh _ le_rfl]
    rfl
  have hframe : s'.sto = s.sto ∧ s'.distribution = s.distribution ∧ s'.system.now = s.system.now ∧
      SamePortfolio s s' := by
    obtain ⟨info, next, y, -, -, -, hnow, -, rfl⟩ := baseAddInstruction_ok h
    exact ⟨rfl, rfl, hnow, rfl⟩
  obtain ⟨hsto, hdistribution, hnow, hportfolio⟩ := hframe
  refine keepsCover_of_update (baseAddInstruction_advances _ _ _ _ _ _ _ h)
    (baseAddInstruction_effects env (Footprint.notMem_any _) _ _ _ _ _ _ _ h) (fun hs => ?_)
    (fun _ => claims_setInstruction hrecord hsto hdistribution) (fun _ k => ?_) hs
  · rw [hdistribution, hnow]
    exact hs.distributions
  · rw [InstructionRecord.due_added, hportfolio.reserve_eq]
    omega

/-! ### Execution and rejection -/

theorem executeInstruction_reserve (hs : LedgerInv s)
    (h : executeInstruction env id s = (.ok u, s')) :
    reserve s' = reserve (uncheckedReleaseLocks id (sortedLegs env id s) s) := by
  have hrun := (executeInstruction_ok h).2.2.2
  have hmove : Movements (uncheckedReleaseLocks id (sortedLegs env id s) s) s' :=
    (Respects.forM fun l _ => transferPendingLeg_any env id l) hrun
  exact Movements.reserve_eq hmove (Effects.ledgerInv (uncheckedReleaseLocks_effects id _ s) hs)

theorem reserve_le_release {legs : List (LegId × Leg)} (h : legs.Perm (s.legs id)) (k : LockKey) :
    reserve s k ≤ reserve (uncheckedReleaseLocks id legs s) k +
      (s.settlement.instruction id).due k := by
  have hge := uncheckedReleaseLocks_reserve_ge id legs s k
  rw [dueOf_perm _ h, ← due_eq] at hge
  exact hge

theorem pruneInstruction_keepsCover (executed : Bool)
    (h : Becomes id (s.settlement.instruction id) s s₁) (heffects : Effects s s₁)
    (hstatus : BookInv s → (s.settlement.instruction id).status = .pending ∨
      (s.settlement.instruction id).status = .failed)
    (hreserve : BookInv s → ∀ k, reserve s k ≤ reserve s₁ k + (s.settlement.instruction id).due k) :
    KeepsCover s (pruneInstruction id executed s₁) := by
  intro hs
  have hvalid : (s₁.settlement.instruction id).Valid := h.self ▸ hs.instructions.valid id
  obtain ⟨status, -, hprune⟩ := pruneInstruction_becomes executed hvalid
  refine keepsCover_of_becomes (h.trans hprune)
    (fun _ => pruneInstruction_advances executed hs.instructions (hstatus hs) h)
    (heffects.tail (pruneInstruction_effect id (Footprint.notMem_any _) executed s₁))
    (fun hs k => ?_) hs
  have hk : reserve s k ≤ reserve (pruneInstruction id executed s₁) k + _ := hreserve hs k
  rw [InstructionRecord.due_blank]
  omega

theorem execute_prune_keepsCover (h : executeInstruction env id s = (.ok u, s₁)) :
    KeepsCover s (pruneInstruction id true s₁) := by
  refine pruneInstruction_keepsCover true (.of_sameRecords (executeInstruction_sameRecords h))
    (executeInstruction_effects env id (Footprint.env_mem_any env)
      (fun q _ => Footprint.receiver_mem_any q) h)
    (fun _ => (executeInstruction_ok h).2.2.1) fun hs k => ?_
  rw [executeInstruction_reserve hs.ledger h]
  exact reserve_le_release sortedLegs_perm k

theorem rejectInstruction_keepsCover (portfolio : Option PortfolioId) (count : Option AssetCount) :
    Respects KeepsCover (rejectInstruction env origin id portfolio count) := by
  intro s u s' h hs
  obtain ⟨hstatus, rfl⟩ := rejectInstruction_ok hs.instructions h
  refine pruneInstruction_keepsCover false (release_cancel_becomes _ s)
    ((uncheckedReleaseLocks_effects id _ s).tail (.record (.of_eq rfl) (.of_eq rfl)))
    (fun _ => hstatus) (fun _ k => ?_) hs
  exact reserve_le_release (env.legOrder_perm _) k

theorem setFailed_keepsCover (id : InstructionId) (s : Storage) :
    KeepsCover s (s.mapSettlement (setStatus id .failed)) := by
  intro hs
  have hclaims : claims (s.mapSettlement (setStatus id .failed)) = _ :=
    claims_setInstruction (instruction_setStatus id s.settlement .failed) rfl rfl
  refine ⟨⟨hs.instructions.setFailed id, hs.ledger.of_same (.of_eq rfl), hs.distributions⟩, ?_⟩
  rw [Secured, hclaims]
  exact secures_update (Claimant.instruction id) fun _ => le_rfl

theorem executeScheduledInstruction_keepsCover :
    Respects KeepsCover (executeScheduledInstruction env origin id) := by
  intro s u s' h
  obtain ⟨-, -, ⟨s₁, hexec, rfl⟩ | rfl⟩ := executeScheduledInstruction_ok h
  · exact execute_prune_keepsCover hexec
  · exact setFailed_keepsCover id s

theorem affirmWithOptionalReceipt_keepsCover (receipt : Option ReceiptDetails)
    (portfolios : List PortfolioId) :
    Respects KeepsCover (affirmWithOptionalReceipt env origin id receipt portfolios) := by
  cases receipt with
  | some receipt => exact baseAffirmWithReceipts_keepsCover [receipt] portfolios none
  | none => exact baseAffirmInstruction_keepsCover portfolios none

theorem affirmAndExecuteInstruction_keepsCover
    (hstatus : (s.settlement.instruction id).status = .pending)
    (h : affirmAndExecuteInstruction env origin id receipt portfolios s = (.ok u, s')) :
    KeepsCover s s' := by
  simp [affirmAndExecuteInstruction, executeSettleOnAffirmationInstruction, onlyIf_ok] at h
  obtain ⟨_, s₁, haffirm, s₂, hexec, rfl⟩ := h
  refine IsTrans.trans _ s₁ _ (affirmWithOptionalReceipt_keepsCover _ _ haffirm) ?_
  obtain ⟨r, hrecord, -, hr⟩ := affirmWithOptionalReceipt_becomes haffirm
  rcases hexec with ⟨-, hexec⟩ | ⟨-, rfl⟩
  · exact execute_prune_keepsCover hexec
  · -- the instruction is pruned without having been executed: its locks stay
    refine pruneInstruction_keepsCover true (.of_sameRecords (.of_eq rfl)) .refl (fun _ => .inl ?_)
      fun _ k => Nat.le_add_right _ _
    rw [hrecord.self, hr, hstatus]

end Instructions

end Polymesh
