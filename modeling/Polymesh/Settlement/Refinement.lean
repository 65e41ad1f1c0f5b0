import Polymesh.Settlement.Records

/-!
# Calls as steps in the life of instructions

Every call of the runtime takes every instruction by steps of its life, and adds at most one.
The one exception is an execution by the scheduler that fails: it writes the status of an
instruction without looking at it. Either way the records stay valid, so that the counter of
pending affirmations is exact in every state of the chain.
-/

namespace Polymesh

open Transactional Tx Collections AssocLists Relation

namespace Settlement

/-! ## Progress -/

/-- **The invariant of the records.** -/
structure InstructionsInv (s : Storage) : Prop where
  valid : ∀ id, (s.settlement.instruction id).Valid
  /-- Nothing is stored under the ids that have not been given. -/
  fresh : ∀ id, s.settlement.instructionCounter.id ≤ id.id → (s.settlement.instruction id).Blank
  /-- Only the status is stored of an instruction that is neither pending nor failed. -/
  settled : ∀ id, (s.settlement.instruction id).status ≠ .pending →
    (s.settlement.instruction id).status ≠ .failed → (s.settlement.instruction id).Blank

/-- Instructions have taken steps of their life; new ones may have been added. -/
structure Progress (s s' : Storage) : Prop where
  counter_le : s.settlement.instructionCounter.id ≤ s'.settlement.instructionCounter.id
  steps : ∀ id, id.id < s.settlement.instructionCounter.id ∨
    s'.settlement.instructionCounter.id ≤ id.id →
      ReflTransGen LifeStep (s.settlement.instruction id) (s'.settlement.instruction id)

instance : Std.Refl Progress := ⟨fun _ => ⟨le_rfl, fun _ _ => .refl⟩⟩

instance : IsTrans Storage Progress where
  trans _ _ _ h₁ h₂ :=
    ⟨h₁.counter_le.trans h₂.counter_le, fun id hid =>
      (h₁.steps id (hid.imp_right h₂.counter_le.trans)).trans
        (h₂.steps id (hid.imp_left fun h => h.trans_le h₁.counter_le))⟩

/-- Progress from states with the invariant, which stays. -/
abbrev Advances : Storage → Storage → Prop := Keeping InstructionsInv Progress

variable {s s' : Storage} {α : Type}

theorem SameInstructions.advances (h : SameInstructions s s') : Advances s s' := by
  intro hs
  refine ⟨⟨?_, ?_, ?_⟩, ⟨?_, ?_⟩⟩
  · rw [h.instruction]
    exact hs.valid
  · rw [h.instruction, h.counter]
    exact hs.fresh
  · rw [h.instruction]
    exact hs.settled
  · rw [h.counter]
  · rw [h.instruction]
    exact fun _ _ => .refl

theorem SameInstructions.inv (h : SameInstructions s s') (hs : InstructionsInv s) :
    InstructionsInv s' :=
  (h.advances hs).1

theorem respects_sameInstructions {x : Dispatch α} (h : Respects Movements x) :
    Respects SameInstructions x := fun _ _ _ hs =>
  .of_sameRecords (h hs).sameRecords

theorem respects_onlyPortfolio {x : Dispatch α} (h : Respects OnlyPortfolio x) :
    Respects SameInstructions x := fun _ _ _ hs =>
  .of_sameRecords (h hs).sameRecords

section Progress

variable {env : Env} {origin : RuntimeOrigin} {id : InstructionId} {r : InstructionRecord}
  {u : Unit}

theorem InstructionsInv.valid_steps (hs : InstructionsInv s) {r' : InstructionRecord}
    (h : ReflTransGen LifeStep (s.settlement.instruction id) r') :
    r'.Valid ∧
    (s.settlement.instructionCounter.id ≤ id.id → r'.Blank) ∧
    (r'.status ≠ .pending → r'.status ≠ .failed → r'.Blank) := by
  induction h with
  | refl => exact ⟨hs.valid id, hs.fresh id, hs.settled id⟩
  | tail _ hstep ih =>
    exact ⟨hstep.valid ih.1, fun hid => hstep.blank (ih.2.1 hid),
      fun hp hf => hstep.settled hp hf ih.2.2⟩

theorem Becomes.advances (h : Becomes id r s s')
    (hsteps : ReflTransGen LifeStep (s.settlement.instruction id) r) : Advances s s' := by
  intro hs
  have hr := hs.valid_steps hsteps
  have hrecord : ∀ id', ReflTransGen LifeStep (s.settlement.instruction id')
      (s'.settlement.instruction id') := by
    intro id'
    rw [h.instruction]
    by_cases hid : id' = id
    · subst hid
      rw [Function.update_self]
      exact hsteps
    · rw [Function.update_of_ne hid]
  have hcounter := h.counter
  refine ⟨⟨fun id' => (hs.valid_steps (hrecord id')).1, fun id' hid => ?_,
    fun id' => (hs.valid_steps (hrecord id')).2.2⟩, ⟨by rw [hcounter], fun id' _ => hrecord id'⟩⟩
  rw [hcounter] at hid
  exact (hs.valid_steps (hrecord id')).2.1 hid

theorem InstructionsInv.add (hs : InstructionsInv s)
    (h : s'.settlement.instruction =
      Function.update s.settlement.instruction s.settlement.instructionCounter r)
    (hr : r.Valid) (hstatus : r.status = .pending)
    (hcounter : s'.settlement.instructionCounter.id.val =
      s.settlement.instructionCounter.id.val + 1) :
    InstructionsInv s' ∧ Progress s s' := by
  have hother : ∀ id, id ≠ s.settlement.instructionCounter →
      s'.settlement.instruction id = s.settlement.instruction id := fun id hid => by
    rw [h, Function.update_of_ne hid]
  have hself : s'.settlement.instruction s.settlement.instructionCounter = r := by
    rw [h, Function.update_self]
  have hlt : ∀ id : InstructionId, s'.settlement.instructionCounter.id ≤ id.id →
      s.settlement.instructionCounter.id < id.id := fun id hid => by
    rw [Fin.le_def] at hid
    rw [Fin.lt_def]
    omega
  refine ⟨⟨fun id => ?_, fun id hid => ?_, fun id hp hf => ?_⟩, ⟨?_, fun id hid => ?_⟩⟩
  · by_cases hne : id = s.settlement.instructionCounter
    · rw [hne, hself]
      exact hr
    · rw [hother id hne]
      exact hs.valid id
  · rw [hother id fun heq => (hlt id hid).ne (congrArg InstructionId.id heq).symm]
    exact hs.fresh id (hlt id hid).le
  · by_cases hne : id = s.settlement.instructionCounter
    · rw [hne, hself] at hp
      exact absurd hstatus hp
    · rw [hother id hne] at hp hf ⊢
      exact hs.settled id hp hf
  · rw [Fin.le_def]
    omega
  · rw [hother id ?_]
    rintro rfl
    rcases hid with hid | hid
    · exact hid.ne rfl
    · exact (hlt _ hid).ne rfl

theorem baseAddInstruction_added {did : IdentityId} {venueId : VenueId}
    {settlementType : SettlementType} {tradeDate valueDate : Option Moment} {legs : List Leg}
    {mediators : List IdentityId} (hs : InstructionsInv s)
    (h : baseAddInstruction env did venueId settlementType tradeDate valueDate legs mediators s =
      (.ok id, s')) :
    ∃ info, ensureValidLegs env legs venueId s = .ok info ∧
      id = s.settlement.instructionCounter ∧
      s'.settlement.instruction = Function.update s.settlement.instruction id
        (.added ⟨id, venueId, settlementType, some s.system.now, tradeDate, valueDate⟩ legs
          (info.extendMediators mediators)) ∧
      s'.settlement.instructionCounter.id.val = s.settlement.instructionCounter.id.val + 1 := by
  obtain ⟨info, next, y, hlegs, rfl, hnext, -, -, rfl⟩ := baseAddInstruction_ok h
  exact ⟨info, hlegs, rfl, instruction_insertInstruction s.settlement.instructionCounter
    { s.settlement with instructionCounter := ⟨next⟩ } _ legs _ (hs.fresh _ le_rfl),
    checkedInc_val hnext⟩

/-- **A new instruction takes the next id.** -/
theorem baseAddInstruction_advances (did : IdentityId) (venueId : VenueId)
    (settlementType : SettlementType) (tradeDate valueDate : Option Moment) (legs : List Leg)
    (mediators : List IdentityId) :
    Respects Advances
      (baseAddInstruction env did venueId settlementType tradeDate valueDate legs mediators) := by
  intro s id s' h hs
  obtain ⟨info, hlegs, rfl, hrecord, hcounter⟩ := baseAddInstruction_added hs h
  exact hs.add hrecord (InstructionRecord.valid_added (ensureValidLegs_ok hlegs mediators) _) rfl
    hcounter

variable {portfolios : List PortfolioId} {s₁ : Storage} {portfolio : Option PortfolioId}
  {receipt : Option ReceiptDetails}

theorem affirm_advances (hnodup : portfolios.Nodup)
    (h : (∀ p ∈ portfolios, (s.settlement.instruction id).userAffirmations p = .pending) ∧
      Becomes id ((s.settlement.instruction id).affirm portfolios) s s') : Advances s s' :=
  h.2.advances (.single (.affirm portfolios hnodup h.1))

theorem baseAffirmInstruction_advances (portfolios : List PortfolioId)
    (count : Option AffirmationCount) :
    Respects Advances (baseAffirmInstruction env origin id portfolios count) :=
  fun _ _ _ h => affirm_advances (nodup_orderedSet _) (baseAffirmInstruction_becomes h)

theorem baseAffirmWithReceipts_advances (receipts : List ReceiptDetails)
    (portfolios : List PortfolioId) (count : Option AffirmationCount) :
    Respects Advances (baseAffirmWithReceipts env origin id receipts portfolios count) := by
  intro s u s' h
  obtain ⟨hpending, hnodup, hlegs, hrecord⟩ := baseAffirmWithReceipts_becomes h
  exact hrecord.advances (.head (.affirm _ (nodup_orderedSet _) hpending)
    (InstructionRecord.claimAll_lifeSteps hnodup hlegs))

theorem maybeScheduleInstruction_advances (s : Storage) :
    Advances s (maybeScheduleInstruction id s) :=
  (maybeScheduleInstruction_becomes s).advances .refl

theorem unsafeWithdrawInstructionAffirmation_advances (did : IdentityId)
    (portfolios : List PortfolioId) (key : Option SecondaryKey)
    (count : Option AffirmationCount) :
    Respects Advances (unsafeWithdrawInstructionAffirmation env did id portfolios key count) := by
  intro s u s' h
  obtain ⟨haffirmed, hrecord⟩ := unsafeWithdrawInstructionAffirmation_becomes h
  exact hrecord.advances (.single (.withdraw _ (nodup_orderedSet _) haffirmed))

theorem withdrawAffirmation_advances (portfolios : List PortfolioId)
    (count : Option AffirmationCount) :
    Respects Advances (withdrawAffirmation env origin id portfolios count) :=
  .read_bind fun ⟨_, _⟩ => .bind (unsafeWithdrawInstructionAffirmation_advances _ _ _ _) fun _ =>
      .onlyIf (.modify fun _ => (cancelNamed_becomes _).advances .refl)

theorem affirmInstructionAsMediator_advances (expiry : Option Moment) :
    Respects Advances (affirmInstructionAsMediator env origin id expiry) := by
  intro s u s' h
  obtain ⟨did, hdid, -, hrecord⟩ := affirmInstructionAsMediator_becomes h
  exact hrecord.advances (.single (.mediate did expiry hdid))

theorem withdrawAffirmationAsMediator_advances :
    Respects Advances (withdrawAffirmationAsMediator env origin id) := by
  intro s u s' h
  obtain ⟨did, expiry, hdid, hrecord⟩ := withdrawAffirmationAsMediator_becomes h
  exact hrecord.advances (.single (.unmediate did expiry hdid))

/-- An instruction that is pending or failed is pruned, after changes that do not concern the
records. -/
theorem pruneInstruction_advances (executed : Bool) (hs : InstructionsInv s)
    (hstatus : (s.settlement.instruction id).status = .pending ∨
      (s.settlement.instruction id).status = .failed)
    (h : Becomes id (s.settlement.instruction id) s s₁) :
    InstructionsInv (pruneInstruction id executed s₁) ∧
      Progress s (pruneInstruction id executed s₁) := by
  have hvalid : (s₁.settlement.instruction id).Valid := h.self ▸ hs.valid id
  obtain ⟨status, -, hprune⟩ := pruneInstruction_becomes executed hvalid
  exact (h.trans hprune).advances (.single (.prune status hstatus)) hs

theorem execute_prune_advances (h : executeInstruction env id s = (.ok u, s₁)) :
    Advances s (pruneInstruction id true s₁) := fun hs =>
  pruneInstruction_advances true hs (executeInstruction_ok h).2.2.1
    (.of_sameRecords (executeInstruction_sameRecords h))

theorem not_ensureRejectCaller_of_blank (hblank : (s.settlement.instruction id).Blank)
    {legs : List (LegId × Leg)} (hlegs : legs.Perm (s.legs id))
    {data : PermissionedCallOriginData} :
    ensureRejectCaller id legs portfolio data s ≠ .ok u := by
  intro h
  have hnil : legs = [] := by
    refine List.eq_nil_iff_forall_not_mem.mpr fun l hl => ?_
    rw [hlegs.mem_iff, mem_legs, hblank] at hl
    cases hl
  cases portfolio with
  | some p =>
    simp [ensureRejectCaller, hnil, isPortfolioPresent] at h
  | none =>
    simp only [ensureRejectCaller, ensure_eq_ok] at h
    have hlookup := mediatorAffirmation_eq rfl h
    rw [hblank] at hlookup
    cases hlookup

theorem rejectInstruction_ok {count : Option AssetCount} (hs : InstructionsInv s)
    (h : rejectInstruction env origin id portfolio count s = (.ok u, s')) :
    ((s.settlement.instruction id).status = .pending ∨
      (s.settlement.instruction id).status = .failed) ∧
      s' = pruneInstruction id false
        ((uncheckedReleaseLocks id (env.legOrder (s.legs id)) s).mapSystem (cancelNamed id)) := by
  simp [rejectInstruction] at h
  obtain ⟨-, -, data, -, ⟨_, hcaller⟩, rfl⟩ := h
  refine ⟨?_, rfl⟩
  by_contra hne
  obtain ⟨hp, hf⟩ := not_or.mp hne
  exact not_ensureRejectCaller_of_blank (hs.settled id hp hf) (env.legOrder_perm _) hcaller

theorem release_cancel_becomes (legs : List (LegId × Leg)) (s : Storage) :
    Becomes id (s.settlement.instruction id) s
      ((uncheckedReleaseLocks id legs s).mapSystem (cancelNamed id)) := by
  have hrelease : Becomes id _ s (uncheckedReleaseLocks id legs s) :=
    .of_sameRecords (uncheckedReleaseLocks_onlyPortfolio id legs s).sameRecords
  have hcancel : Becomes id _ _ ((uncheckedReleaseLocks id legs s).mapSystem (cancelNamed id)) :=
    cancelNamed_becomes _
  rw [hrelease.self] at hcancel
  exact hrelease.trans hcancel

theorem rejectInstruction_advances (portfolio : Option PortfolioId) (count : Option AssetCount) :
    Respects Advances (rejectInstruction env origin id portfolio count) := by
  intro s u s' h hs
  obtain ⟨hstatus, rfl⟩ := rejectInstruction_ok hs h
  exact pruneInstruction_advances false hs hstatus (release_cancel_becomes _ s)

theorem affirmWithOptionalReceipt_becomes
    (h : affirmWithOptionalReceipt env origin id receipt portfolios s = (.ok u, s')) :
    ∃ r, Becomes id r s s' ∧ ReflTransGen LifeStep (s.settlement.instruction id) r ∧
      r.status = (s.settlement.instruction id).status := by
  cases receipt with
  | some receipt =>
    obtain ⟨hpending, hnodup, hlegs, hrecord⟩ := baseAffirmWithReceipts_becomes h
    exact ⟨_, hrecord, .head (.affirm _ (nodup_orderedSet _) hpending)
      (InstructionRecord.claimAll_lifeSteps hnodup hlegs), rfl⟩
  | none =>
    obtain ⟨hpending, hrecord⟩ := baseAffirmInstruction_becomes h
    exact ⟨_, hrecord, .single (.affirm _ (nodup_orderedSet _) hpending), rfl⟩

theorem executeSettleOnAffirmationInstruction_sameRecords
    (h : executeSettleOnAffirmationInstruction env id s = (.ok u, s')) : SameRecords s s' := by
  simp [executeSettleOnAffirmationInstruction, onlyIf_ok] at h
  rcases h with ⟨-, h⟩ | ⟨-, rfl⟩
  · exact executeInstruction_sameRecords h
  · exact .of_eq rfl

theorem affirmAndExecuteInstruction_advances (hs : InstructionsInv s)
    (hstatus : (s.settlement.instruction id).status = .pending)
    (h : affirmAndExecuteInstruction env origin id receipt portfolios s = (.ok u, s')) :
    InstructionsInv s' ∧ Progress s s' := by
  simp [affirmAndExecuteInstruction] at h
  obtain ⟨_, s₁, haffirm, _, s₂, hexec, rfl⟩ := h
  obtain ⟨r, hrecord, hsteps, hr⟩ := affirmWithOptionalReceipt_becomes haffirm
  obtain ⟨hs₁, hprogress⟩ := hrecord.advances hsteps hs
  have hstatus₁ : (s₁.settlement.instruction id).status = .pending := by
    rw [hrecord.self, hr, hstatus]
  obtain ⟨hs₂, hprogress₂⟩ := pruneInstruction_advances true hs₁ (.inl hstatus₁)
    (.of_sameRecords (executeSettleOnAffirmationInstruction_sameRecords hexec))
  exact ⟨hs₂, IsTrans.trans _ _ _ hprogress hprogress₂⟩

theorem unlockTokens_onlyPortfolio (pid : PortfolioId) (ticker : Ticker) (amount : ℕ) :
    Respects OnlyPortfolio (Portfolio.unlockTokens pid ticker amount) :=
  .bind .get fun _ => .ensure_bind fun _ => .modify fun _ => rfl

theorem lockTokens_onlyPortfolio (pid : PortfolioId) (ticker : Ticker) (amount : ℕ) :
    Respects OnlyPortfolio (Portfolio.lockTokens pid ticker amount) :=
  .read_bind fun _ => .modify fun _ => rfl

theorem settleInvestment_advances (f : Fundraiser)
    (investmentPortfolio fundingPortfolio : PortfolioId) (purchaseAmount cost : ℕ)
    (receipt : Option ReceiptDetails) :
    Respects Advances (Sto.settleInvestment env origin f investmentPortfolio fundingPortfolio
      purchaseAmount cost receipt) := by
  intro s u s' h hs
  simp [Sto.settleInvestment] at h
  obtain ⟨_, s₁, hunlock, id, s₂, hadd, _, s₃, haffirm, hexec⟩ := h
  obtain ⟨hs₁, hprogress₁⟩ :=
    (respects_onlyPortfolio (unlockTokens_onlyPortfolio _ _ _) hunlock).advances hs
  obtain ⟨hs₂, hprogress₂⟩ := baseAddInstruction_advances _ _ _ _ _ _ _ hadd hs₁
  obtain ⟨info, -, -, hadded, -⟩ := baseAddInstruction_added hs₁ hadd
  obtain ⟨hpending, hrecord⟩ := unsafeAffirmInstruction_becomes haffirm
  obtain ⟨hs₃, hprogress₃⟩ := affirm_advances (nodup_orderedSet _) ⟨hpending, hrecord⟩ hs₂
  have hstatus : (s₃.settlement.instruction id).status = .pending := by
    rw [hrecord.self, hadded, Function.update_self]
    rfl
  obtain ⟨hs', hprogress₄⟩ := affirmAndExecuteInstruction_advances hs₃ hstatus hexec
  refine ⟨hs', IsTrans.trans _ _ _ hprogress₁ (IsTrans.trans _ _ _ hprogress₂
    (IsTrans.trans _ _ _ hprogress₃ hprogress₄))⟩

/-- The scheduler prunes what it has executed; a failed execution writes the status and nothing
else. -/
theorem executeScheduledInstruction_ok
    (h : executeScheduledInstruction env origin id s = (.ok u, s')) :
    origin = .root ∧ env.validWeightLimit ∧
      ((∃ s₁, executeInstruction env id s = (.ok (), s₁) ∧ s' = pruneInstruction id true s₁) ∨
        s' = s.mapSettlement (setStatus id .failed)) := by
  simp [executeScheduledInstruction, baseExecuteScheduledInstruction, Asset.ensureRoot] at h
  obtain ⟨hroot, hlimit, result, h⟩ := h
  refine ⟨hroot, hlimit, ?_⟩
  rcases executeInstructionRetryable_cases env id s with ⟨s₁, hexec, hrun⟩ | ⟨e, -, hrun⟩
  · rw [hrun] at h
    cases h
    exact .inl ⟨s₁, hexec, rfl⟩
  · rw [hrun] at h
    cases h
    exact .inr rfl

theorem InstructionsInv.setFailed (hs : InstructionsInv s) (id : InstructionId) :
    InstructionsInv (s.mapSettlement (setStatus id .failed)) := by
  have hrecord : ∀ id', (s.mapSettlement (setStatus id .failed)).settlement.instruction id' =
      if id' = id then (s.settlement.instruction id).fail else s.settlement.instruction id' := by
    intro id'
    change (setStatus id .failed s.settlement).instruction id' = _
    rw [instruction_setStatus, Function.update_apply]
    rfl
  refine ⟨fun id' => ?_, fun id' hid => ?_, fun id' hp hf => ?_⟩
  · rw [hrecord]
    split
    · exact (hs.valid id).fail
    · exact hs.valid id'
  · rw [hrecord]
    split_ifs with heq
    · subst heq
      rw [hs.fresh id' hid]
      rfl
    · exact hs.fresh id' hid
  · rw [hrecord] at hp hf ⊢
    split_ifs at hp hf ⊢ with heq
    · exact absurd rfl hf
    · exact hs.settled id' hp hf

end Progress

/-! ## Steps of the chain -/

theorem respects_advances {x : Dispatch α} (h : Respects SameInstructions x) :
    Respects Advances x := fun _ _ _ hs => (h hs).advances

/-- **Every call but the one of the scheduler takes instructions by steps of their life.** -/
theorem dispatch_advances (env : Env) (origin : RuntimeOrigin) (call : Call)
    (h : ∀ id, call ≠ .executeScheduledInstruction id) :
    Respects Advances (dispatch env origin call) := by
  cases call with
  | executeScheduledInstruction id => exact absurd rfl (h id)
  | redeemNft ticker id kind =>
    intro s u s' h
    obtain ⟨p, -, -, rfl⟩ := NFT.redeemNft_ok h
    exact SameInstructions.advances ⟨rfl, rfl⟩
  | addInstruction =>
    exact .read_bind fun _ => .bind (baseAddInstruction_advances _ _ _ _ _ _ _) fun _ => .pure _
  | addAndAffirmInstruction =>
    exact .read_bind fun _ => .bind (baseAddInstruction_advances _ _ _ _ _ _ _) fun _ =>
      .bind (baseAffirmInstruction_advances _ _) fun _ =>
        .modify maybeScheduleInstruction_advances
  | affirmInstruction id portfolios count =>
    exact .bind (baseAffirmInstruction_advances portfolios count) fun _ =>
      .modify maybeScheduleInstruction_advances
  | affirmWithReceipts id receipts portfolios count =>
    exact .bind (baseAffirmWithReceipts_advances receipts portfolios count) fun _ =>
      .modify maybeScheduleInstruction_advances
  | withdrawAffirmation id portfolios count =>
    exact withdrawAffirmation_advances portfolios count
  | affirmInstructionAsMediator id expiry => exact affirmInstructionAsMediator_advances expiry
  | withdrawAffirmationAsMediator id => exact withdrawAffirmationAsMediator_advances
  | rejectInstruction id portfolio count => exact rejectInstruction_advances portfolio count
  | executeManualInstruction id =>
    intro s u s' h
    obtain ⟨s₁, hexec, rfl⟩ := executeManualInstruction_ok env origin id h
    exact execute_prune_advances hexec
  | invest =>
    exact .read_bind fun _ => .read_bind fun _ => .read_bind fun _ => .read_bind fun f =>
      .ensure_bind fun _ => .bind .get fun _ => .ensure_bind fun _ => .read_bind fun ⟨_, _, _⟩ =>
        .ensure_bind fun _ => .ensure_bind fun _ => .ensure_bind fun _ =>
            .bind (settleInvestment_advances f _ _ _ _ _) fun _ =>
              .modify fun _ => SameInstructions.advances ⟨rfl, rfl⟩
  | createFundraiser | setFrozen | modifyFundraiserWindow | stop | distribute
  | initiateCorporateActionAndDistribute | claim | pushBenefit | reclaim | removeDistribution
  | removeCa =>
    exact respects_advances fun _ _ _ h => (dispatch_apart (Footprint.env_mem_any env) origin
      (fun r _ => Footprint.notMem_any r) rfl h).same
  | _ =>
    exact respects_advances (respects_sameInstructions (dispatch_movements
      (Footprint.env_mem_any env) origin (fun r _ => Footprint.notMem_any r) rfl))

/-- The action makes the call of the scheduler for the instruction: a due task, or root. -/
def Executes (id : InstructionId) (s : Storage) : Action → Prop
  | .extrinsic env origin (.executeScheduledInstruction id') =>
    id' = id ∧ origin = .root ∧ env.validWeightLimit
  | .scheduled env id' => id' = id ∧ taskDue id s ∧ env.validWeightLimit
  | _ => False

/-- **What a step of the chain does to the records.** -/
theorem step_advances (a : Action) (hs : InstructionsInv s) :
    InstructionsInv (step a s) ∧ (Progress s (step a s) ∨ ∃ id, Executes id s a ∧
      (step a s).settlement = setStatus id .failed s.settlement) := by
  cases a with
  | extrinsic env origin call =>
    rcases step_extrinsic env origin call s with hs' | hs'
    · rw [hs']
      exact ⟨hs, .inl (refl s)⟩
    · by_cases hcall : ∀ id, call ≠ .executeScheduledInstruction id
      · exact (dispatch_advances env origin call hcall hs' hs).imp_right .inl
      · obtain ⟨id, rfl⟩ : ∃ id, call = .executeScheduledInstruction id := by simpa using hcall
        obtain ⟨hroot, hlimit, ⟨s₁, hexec, hpruned⟩ | hfailed⟩ := executeScheduledInstruction_ok hs'
        · rw [hpruned]
          exact (execute_prune_advances hexec hs).imp_right .inl
        · rw [hfailed]
          exact ⟨hs.setFailed id, .inr ⟨id, ⟨rfl, hroot, hlimit⟩, rfl⟩⟩
  | scheduled env id =>
    simp only [step]
    split_ifs with hdue
    · have hsame : SameInstructions s (s.mapSystem (cancelNamed id)) := ⟨rfl, rfl⟩
      have hcancel := hsame.advances hs
      rcases (Atomic.transaction (executeScheduledInstruction env .root id)).run_cases
        (s.mapSystem (cancelNamed id)) with ⟨_, hrun⟩ | ⟨_, hrun⟩
      · obtain ⟨-, hlimit, ⟨s₁, hexec, hpruned⟩ | hfailed⟩ :=
          executeScheduledInstruction_ok (transaction_ok.mp hrun)
        · rw [hpruned]
          obtain ⟨hs', hprogress⟩ := execute_prune_advances hexec hcancel.1
          exact ⟨hs', .inl (IsTrans.trans _ _ _ hcancel.2 hprogress)⟩
        · rw [hfailed]
          exact ⟨hcancel.1.setFailed id, .inr ⟨id, ⟨rfl, hdue, hlimit⟩, rfl⟩⟩
      · rw [hrun]
        exact hcancel.imp_right .inl
    · exact ⟨hs, .inl (refl s)⟩
  | nextBlock elapsed =>
    have hsame : SameInstructions s (step (.nextBlock elapsed) s) := ⟨rfl, rfl⟩
    exact (hsame.advances hs).imp_right .inl

theorem instructionsInv_genesis : InstructionsInv genesis where
  valid _ := InstructionRecord.valid_blank .unknown
  fresh _ _ := rfl
  settled _ _ _ := rfl

/-- **The records are valid in every state of the chain.** -/
theorem reachable_instructionsInv (h : Reachable s) : InstructionsInv s :=
  h.invariant InstructionsInv instructionsInv_genesis fun _ a hs => (step_advances a hs).1

/-- **The counter of pending affirmations is exact**: in every state of the chain it is the number
of portfolios, off-chain legs and mediators whose affirmation is missing. -/
theorem affirms_pending_exact {s : Storage} (h : Reachable s) (id : InstructionId) :
    s.settlement.instructionAffirmsPending id =
      {p | s.settlement.userAffirmations p id = .pending}.ncard +
      {l | s.settlement.offChainAffirmations id l = .pending}.ncard +
      {did | (s.settlement.instructionMediatorsAffirmations id).lookup did =
        some .pending}.ncard := by
  have hvalid := (reachable_instructionsInv h).valid id
  have hcounter := hvalid.counter
  rw [InstructionRecord.pending, InstructionRecord.pendingPortfolios_eq_ncard,
    hvalid.pendingOffChain_eq_ncard, InstructionRecord.pendingMediators_eq_ncard] at hcounter
  exact hcounter

/-- An on-chain leg that its sender has affirmed, an off-chain leg and a mediator: three
affirmations are missing. -/
theorem affirms_pending_exact_three :
    let run := TransitionSystem.run step genesis
      [.calls 1 (.createAsset ⟨1⟩ true .equityCommon), .calls 1 (.issue ⟨1⟩ 1000 .default),
        .calls 1 (.createVenue [] .other),
        .calls 1 (.addInstruction ⟨1⟩ .settleOnAffirmation none none
          [.fungible (.defaultPortfolio ⟨1⟩) (.defaultPortfolio ⟨2⟩) ⟨1⟩ 10,
            .offChain ⟨2⟩ ⟨1⟩ ⟨3⟩ 5] [⟨4⟩]),
        .calls 1 (.affirmInstruction ⟨1⟩ [.defaultPortfolio ⟨1⟩] none)]
    3 = {p | run.settlement.userAffirmations p ⟨1⟩ = .pending}.ncard +
      {l | run.settlement.offChainAffirmations ⟨1⟩ l = .pending}.ncard +
      {did | (run.settlement.instructionMediatorsAffirmations ⟨1⟩).lookup did =
        some .pending}.ncard := by
  intro run
  have hrun : Reachable run := ⟨_, rfl⟩
  exact affirms_pending_exact hrun ⟨1⟩

end Settlement

end Polymesh
