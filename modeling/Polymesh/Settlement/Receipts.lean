import Polymesh.Settlement.Refinement

/-!
# Receipts are used once

A receipt tells that the assets of an off-chain leg have changed hands elsewhere: somebody who may
sign for the venue has signed it, and the leg is skipped when its instruction is executed. The
pallet stores which receipts have been used, by signer and uid. Within one call it compares the
receipts with each other, and a leg takes a receipt only while its affirmation is pending, which
it never is again.

The legs of an investment are all on chain. An investment that comes with a receipt fails, so
receipts are accepted by `affirm_with_receipts` alone.
-/

namespace Polymesh

open Transactional Tx Collections AssocLists Relation
open TransitionSystem (along_true run trace trace_append trace_invariant)

/-- The receipts that are submitted with a call. -/
def Call.receipts : Call → List ReceiptDetails
  | .affirmWithReceipts _ receipts _ _ => receipts
  | .invest _ _ _ _ _ _ receipt => receipt.toList
  | _ => []

/-- The receipts that are accepted with an action: all of a call that succeeds. -/
def Action.accepted (s : Storage) (a : Action) : List ReceiptDetails :=
  a.onSuccess (fun _ _ call => call.receipts) s

namespace Settlement

/-- The receipts that are accepted in a run, in order. -/
def accepted (actions : List Action) : List ReceiptDetails :=
  trace step (fun s a => a.accepted s) genesis actions

/-- The leg is to be skipped, on account of a receipt. -/
def Marked (s : Storage) (id : InstructionId) (l : LegId) (signer : AccountId) (uid : ℕ) : Prop :=
  s.settlement.instructionLegStatus id l = .executionToBeSkipped signer uid

/-- The legs that are marked with the receipt at some time of a run. -/
def everMarked (actions : List Action) (signer : AccountId) (uid : ℕ) :
    Set (InstructionId × LegId) :=
  {leg | ∃ past, past <+: actions ∧
    Marked (run step genesis past) leg.1 leg.2 signer uid}

/-! ## Writes -/

variable {r : InstructionRecord} {l : LegId} {env : Env} {origin : RuntimeOrigin}
  {id : InstructionId} {s : Storage}

section Writes

variable {receipts : List ReceiptDetails} {portfolios : List PortfolioId}
  {count : Option AffirmationCount} {s' : Storage} {u : Unit}

theorem receiptsUsed_claimReceipts (id : InstructionId) (receipts : List ReceiptDetails)
    (t : SettlementStorage) (signer : AccountId) (uid : ℕ) :
    (receipts.foldl (claimReceipt id) t).receiptsUsed signer uid = true ↔
      t.receiptsUsed signer uid = true ∨ ∃ r ∈ receipts, r.signer = signer ∧ r.uid = uid := by
  induction receipts generalizing t with
  | nil => simp
  | cons receipt receipts ih =>
    rw [List.foldl_cons, ih]
    simp only [claimReceipt, update₂_apply, List.exists_mem_cons_iff]
    split_ifs with h
    · exact ⟨fun _ => .inr (.inl ⟨h.1.symm, h.2.symm⟩), fun _ => .inl rfl⟩
    · have hne : ¬ (receipt.signer = signer ∧ receipt.uid = uid) :=
        fun heq => h ⟨heq.1.symm, heq.2.symm⟩
      simp only [hne, false_or]

theorem legStatus_claimAll {signer : AccountId} {uid : ℕ}
    (h : (r.claimAll receipts).legStatus l = .executionToBeSkipped signer uid) :
    (∃ x ∈ receipts, x.legId = l ∧ x.signer = signer ∧ x.uid = uid) ∨
      r.legStatus l = .executionToBeSkipped signer uid := by
  rcases foldl_update_apply ReceiptDetails.legId
    (fun x => LegStatus.executionToBeSkipped x.signer x.uid) receipts r.legStatus l
    with ⟨x, hx, hleg, heq⟩ | ⟨-, heq⟩
  · cases h.symm.trans heq
    exact .inl ⟨x, hx, hleg, rfl, rfl⟩
  · exact .inr (heq.symm.trans h)

theorem offChainAffirmations_claimAll {x : ReceiptDetails} (hx : x ∈ receipts) :
    (r.claimAll receipts).offChainAffirmations x.legId = .affirmed := by
  rcases foldl_update_apply ReceiptDetails.legId (fun _ => AffirmationStatus.affirmed) receipts
    r.offChainAffirmations x.legId with ⟨y, -, -, heq⟩ | ⟨hne, -⟩
  · exact heq
  · exact absurd rfl (hne x hx)

theorem lockLegs_receiptsUsed {legs : List (LegId × Leg)}
    (h : forM legs (lockLeg id) s = (.ok u, s')) :
    s'.settlement.receiptsUsed = s.settlement.receiptsUsed := by
  have heffects : EffectsIn ⟨Set.univ, {.receipts}, Set.univ⟩ s s' :=
    Respects.forM (fun l _ => lockLeg_effects id l) h
  exact (heffects.kept (Set.mem_singleton _) nofun nofun).1

theorem settlement_maybeScheduleInstruction (s : Storage) :
    (maybeScheduleInstruction id s).settlement = s.settlement := by
  unfold maybeScheduleInstruction
  split
  · rfl
  · rfl

/-- **What it takes to affirm with receipts, and what is written.** -/
theorem affirmWithReceipts_ok
    (h : affirmWithReceiptsAndMaybeScheduleInstruction env origin id receipts portfolios count s =
      (.ok u, s')) :
    (receipts.map fun r => (r.signer, r.uid)).Nodup ∧ (receipts.map ReceiptDetails.legId).Nodup ∧
    (∀ r ∈ receipts, ValidReceipt env (s.settlement.instructionDetails id).venueId id s r) ∧
    (∀ signer uid, s'.settlement.receiptsUsed signer uid = true ↔
      s.settlement.receiptsUsed signer uid = true ∨
        ∃ r ∈ receipts, r.signer = signer ∧ r.uid = uid) ∧
    Becomes id
      (((s.settlement.instruction id).affirm (orderedSet portfolios)).claimAll receipts) s s' := by
  simp only [affirmWithReceiptsAndMaybeScheduleInstruction, ↓run_ok, bind_ok] at h
  obtain ⟨_, s₁, hbase, rfl⟩ := h
  obtain ⟨-, -, -, hrecord⟩ := baseAffirmWithReceipts_becomes hbase
  have hschedule : Becomes id (s₁.settlement.instruction id) s₁ (maybeScheduleInstruction id s₁) :=
    maybeScheduleInstruction_becomes s₁
  rw [hrecord.self] at hschedule
  have hwritten := hrecord.trans hschedule
  simp [baseAffirmWithReceipts] at hbase
  obtain ⟨-, _, details, hdetails, -, ⟨_, hreceipts⟩, -, _, s₂, hlock, rfl⟩ := hbase
  simp [ensureOriginPermAndInstructionValidity, ensureInstructionValidity] at hdetails
  obtain ⟨-, -, -, rfl⟩ := hdetails
  obtain ⟨huids, hlegs, hvalid⟩ := ensureValidReceiptsDetails_ok hreceipts
  refine ⟨huids, hlegs, fun r hr => (hvalid r hr).2.2, fun signer uid => ?_, hwritten⟩
  have hclaims := receiptsUsed_claimReceipts id receipts
    (setAffirmsPending id (s₂.settlement.instructionAffirmsPending id -
      (orderedSet portfolios).length - receipts.length) s₂.settlement) signer uid
  rw [settlement_maybeScheduleInstruction, ← lockLegs_receiptsUsed hlock]
  exact hclaims

end Writes

/-! ## Investments -/

/-- **An investment accepts no receipt**: both of its legs are on chain. -/
theorem invest_receipt {investmentPortfolio fundingPortfolio : PortfolioId} {offeringAsset : Ticker}
    {id : FundraiserId} {purchaseAmount : ℕ} {maxPrice : Option ℕ} {receipt : Option ReceiptDetails}
    {s' : Storage} {u : Unit} (hs : InstructionsInv s)
    (h : Sto.invest env origin investmentPortfolio fundingPortfolio offeringAsset id
      purchaseAmount maxPrice receipt s = (.ok u, s')) : receipt = none := by
  simp only [Sto.invest, ↓run_ok, bind_ok] at h
  obtain ⟨_, _, ⟨-, rfl⟩, _, -, _, -, fundraiser, -, -, -, ⟨tiers, remaining, cost⟩, -, -, -, -, _,
    s₁, hsettle, rfl⟩ := h
  simp [Sto.settleInvestment, affirmAndExecuteInstruction] at hsettle
  obtain ⟨_, s₂, hunlock, id, s₃, hadd, _, s₄, haffirm, _, s₅, hreceipt, -⟩ := hsettle
  have hs₂ := ((respects_onlyPortfolio (unlockTokens_onlyPortfolio _ _ _) hunlock).advances hs).1
  obtain ⟨info, -, -, hadded, -⟩ := baseAddInstruction_added hs₂ hadd
  obtain ⟨-, hrecord⟩ := unsafeAffirmInstruction_becomes haffirm
  cases receipt with
  | none => rfl
  | some receipt =>
    obtain ⟨-, -, hlegs, -⟩ := baseAffirmWithReceipts_becomes hreceipt
    obtain ⟨leg, hlookup, hoff, -⟩ := hlegs receipt List.mem_cons_self
    rw [hrecord.self, hadded, Function.update_self] at hlookup
    have hleg := List.mem_of_getElem? (InstructionRecord.lookup_insertLegs.mp hlookup)
    simp only [Sto.investmentLegs, List.mem_cons, List.not_mem_nil, or_false] at hleg
    rcases hleg with rfl | rfl
    · cases hoff
    · cases hoff

/-! ## Steps -/

/-- **Receipts are accepted by one call alone**; all else uses none and marks no leg. -/
theorem step_accepted (a : Action) (hs : InstructionsInv s) :
    (a.accepted s = [] ∧ Aspect.Kept .receipts s (step a s)) ∨
      ∃ env origin id receipts portfolios count,
        a = .extrinsic env origin (.affirmWithReceipts id receipts portfolios count) ∧
        a.accepted s = receipts ∧
        affirmWithReceiptsAndMaybeScheduleInstruction env origin id receipts portfolios count s =
          (.ok (), step a s) := by
  rcases step_kept_or_touches (r := .receipts) (by decide) (by decide) (by decide) (by decide) a s
    with hkept | ⟨env, origin, call, rfl, htouches, hstep⟩
  · by_cases haccepted : a.accepted s = []
    · exact .inl ⟨haccepted, hkept⟩
    · obtain ⟨env, origin, call, rfl, hreceipts, hstep⟩ := ok_of_onSuccess haccepted
      cases call with
      | affirmWithReceipts id receipts portfolios count =>
        exact .inr ⟨env, origin, id, receipts, portfolios, count, rfl, onSuccess_of_ok hstep, hstep⟩
      | invest =>
        rw [Call.receipts, invest_receipt hs hstep] at hreceipts
        exact absurd rfl hreceipts
      | _ => exact absurd rfl hreceipts
  · cases call with
    | affirmWithReceipts id receipts portfolios count =>
      exact .inr ⟨env, origin, id, receipts, portfolios, count, rfl, onSuccess_of_ok hstep, hstep⟩
    | invest => simp [Call.touches, invest_receipt hs hstep] at htouches
    | _ => simp [Call.touches] at htouches

/-- **What has been checked about a receipt that is accepted.** -/
theorem validReceipt_of_accepted {call : Call} (hs : InstructionsInv s) {r : ReceiptDetails}
    (hr : r ∈ (Action.extrinsic env origin call).accepted s) :
    ValidReceipt env (s.settlement.instructionDetails r.instructionId).venueId r.instructionId s
      r := by
  rcases step_accepted (.extrinsic env origin call) hs with ⟨hnil, -⟩ |
    ⟨env', origin', id, receipts, portfolios, count, heq, haccepted, hstep⟩
  · rw [hnil] at hr
    cases hr
  · cases heq
    rw [haccepted] at hr
    have hvalid := (affirmWithReceipts_ok hstep).2.2.1 r hr
    rw [hvalid.instruction]
    exact hvalid

theorem exists_marked_of_affirmed (hs : InstructionsInv s)
    (h : s.settlement.offChainAffirmations id l = .affirmed) :
    ∃ signer uid, Marked s id l signer uid := by
  have h : (s.settlement.instruction id).offChainAffirmations l = .affirmed := h
  obtain ⟨leg, hlookup, hoff⟩ := (hs.valid id).offChain_leg l (by rw [h]; nofun)
  rcases (hs.valid id).offChain l leg hlookup hoff with ⟨hpending, -⟩ | ⟨-, hmarked⟩
  · cases h.symm.trans hpending
  · exact hmarked

/-- A leg of an instruction whose affirmation is not pending. -/
def Claimed (s : Storage) (id : InstructionId) (l : LegId) : Prop :=
  id.id < s.settlement.instructionCounter.id ∧
    (s.settlement.instruction id).offChainAffirmations l ≠ .pending

theorem offChain_ne_pending {r' : InstructionRecord} (h : LifeStep r r')
    (hl : r.offChainAffirmations l ≠ .pending) : r'.offChainAffirmations l ≠ .pending := by
  cases h with
  | claim l' leg signer uid =>
    by_cases heq : l = l'
    · subst heq
      simp [InstructionRecord.claim]
    · simpa [InstructionRecord.claim, heq] using hl
  | prune =>
    intro hpending
    cases hpending
  | affirm | withdraw | mediate | unmediate => exact hl

/-- **A leg is never pending again.** -/
theorem step_claimed (a : Action) (hs : InstructionsInv s) (h : Claimed s id l) :
    Claimed (step a s) id l := by
  obtain ⟨hid, hl⟩ := h
  rcases (step_advances a hs).2 with hprogress | ⟨id', -, hfailed⟩
  · refine ⟨hid.trans_le hprogress.counter_le, ?_⟩
    have hsteps := hprogress.steps id (.inl hid)
    generalize (step a s).settlement.instruction id = r at hsteps ⊢
    induction hsteps with
    | refl => exact hl
    | tail _ hstep ih => exact offChain_ne_pending hstep ih
  · rw [Claimed, hfailed]
    refine ⟨hid, ?_⟩
    rw [instruction_setStatus]
    by_cases heq : id = id'
    · subst heq
      rw [Function.update_self]
      exact hl
    · rwa [Function.update_of_ne heq]

/-! ## Runs -/

/-- **The invariant of receipts**: what the storage says of those that have been accepted. -/
structure ReceiptsInv (past : List ReceiptDetails) (s : Storage) : Prop where
  uids : (past.map fun r => (r.signer, r.uid)).Nodup
  legs : (past.map fun r => (r.instructionId, r.legId)).Nodup
  used : ∀ r ∈ past, s.settlement.receiptsUsed r.signer r.uid = true
  claimed : ∀ r ∈ past, Claimed s r.instructionId r.legId
  marked : ∀ id l signer uid, Marked s id l signer uid →
    ∃ r ∈ past, r.instructionId = id ∧ r.legId = l ∧ r.signer = signer ∧ r.uid = uid

/-- **Receipts that are accepted differ from all that have been.** -/
theorem step_receiptsInv (a : Action) {past : List ReceiptDetails} (hs : InstructionsInv s)
    (h : ReceiptsInv past s) :
    ReceiptsInv (past ++ a.accepted s) (step a s) := by
  have hpast : ∀ r ∈ past, Claimed (step a s) r.instructionId r.legId := fun r hr =>
    step_claimed a hs (h.claimed r hr)
  rcases step_accepted a hs with ⟨hnil, hused, hmarks⟩ |
    ⟨env, origin, id, receipts, portfolios, count, rfl, haccepted, hstep⟩
  · rw [hnil, List.append_nil]
    refine ⟨h.uids, h.legs, fun r hr => ?_, hpast, fun id l signer uid hmark => ?_⟩
    · rw [hused]
      exact h.used r hr
    · exact h.marked id l signer uid (hmarks id l signer uid hmark)
  · obtain ⟨huids, hlegs, hvalid, hused, hrecord⟩ := affirmWithReceipts_ok hstep
    rw [haccepted]
    have hlegs' : (receipts.map fun r => (r.instructionId, r.legId)).Nodup :=
      .of_map Prod.snd (by rwa [List.map_map])
    refine ⟨nodup_map_append h.uids huids fun r hr r' hr' heq => ?_,
      nodup_map_append h.legs hlegs' fun r hr r' hr' heq => ?_, fun r hr => ?_, fun r hr => ?_,
      fun id' l signer uid hmark => ?_⟩
    · -- a receipt that has been accepted is used
      obtain ⟨hsigner, huid⟩ := Prod.mk.inj heq
      have hunused := (hvalid r' hr').unused
      rw [← hsigner, ← huid, h.used r hr] at hunused
      cases hunused
    · -- a leg that has taken a receipt is not pending
      obtain ⟨hinstruction, hleg⟩ := Prod.mk.inj heq
      refine (h.claimed r hr).2 ?_
      rw [hinstruction, hleg, (hvalid r' hr').instruction]
      exact (hvalid r' hr').pending
    · rw [hused]
      rcases List.mem_append.mp hr with hr | hr
      · exact .inl (h.used r hr)
      · exact .inr ⟨r, hr, rfl, rfl⟩
    · rcases List.mem_append.mp hr with hr | hr
      · exact hpast r hr
      · rw [Claimed, (hvalid r hr).instruction, hrecord.self, offChainAffirmations_claimAll hr]
        refine ⟨?_, nofun⟩
        rw [hrecord.counter]
        by_contra hid
        -- there is nothing pending under an id that has not been given
        have hpending := (hvalid r hr).pending
        rw [hs.fresh id (not_lt.mp hid)] at hpending
        cases hpending
    · have hmark : ((step _ s).settlement.instruction id').legStatus l =
          .executionToBeSkipped signer uid := hmark
      have hold : Marked s id' l signer uid → ∃ r ∈ past ++ receipts,
          r.instructionId = id' ∧ r.legId = l ∧ r.signer = signer ∧ r.uid = uid := by
        intro hmark
        obtain ⟨r, hr, hmarked⟩ := h.marked id' l signer uid hmark
        exact ⟨r, List.mem_append_left _ hr, hmarked⟩
      rw [hrecord.instruction] at hmark
      by_cases hid : id' = id
      · subst hid
        rw [Function.update_self] at hmark
        rcases legStatus_claimAll hmark with ⟨r, hr, hmarked⟩ | hmark
        · exact ⟨r, List.mem_append_right _ hr, (hvalid r hr).instruction, hmarked⟩
        · simp only [InstructionRecord.affirm] at hmark
          split_ifs at hmark
          exact hold hmark
      · rw [Function.update_of_ne hid] at hmark
        exact hold hmark

theorem receiptsInv_accepted (actions : List Action) :
    ReceiptsInv (accepted actions) (run step genesis actions) ∧
      InstructionsInv (run step genesis actions) := by
  have hgenesis : ReceiptsInv [] genesis ∧ InstructionsInv genesis :=
    ⟨⟨.nil, .nil, nofun, nofun, nofun⟩, instructionsInv_genesis⟩
  exact trace_invariant (fun past s => ReceiptsInv past s ∧ InstructionsInv s)
    (fun past s a hs _ => ⟨step_receiptsInv a hs.2 hs.1, (step_advances a hs.2).1⟩) [] hgenesis
    (along_true genesis actions)

theorem accepted_subset {past actions : List Action} (h : past <+: actions) :
    accepted past ⊆ accepted actions := by
  obtain ⟨rest, rfl⟩ := h
  rw [accepted, accepted, trace_append]
  exact List.subset_append_left _ _

/-- **Receipts are used once.** In every run, no two receipts that are accepted have the same
signer and uid, and no two are for the same leg. Whatever leg is marked with a receipt at some time
of the run, it is always the same. A leg that is affirmed has taken a receipt. And when a receipt
is accepted, its signer may sign for the venue of the instruction, and has signed just what the leg
says. -/
theorem receipts_single_use (actions : List Action) :
    ((accepted actions).map fun r => (r.signer, r.uid)).Nodup ∧
    ((accepted actions).map fun r => (r.instructionId, r.legId)).Nodup ∧
    (∀ signer uid, (everMarked actions signer uid).Subsingleton) ∧
    (∀ past, past <+: actions → ∀ id l,
      (run step genesis past).settlement.offChainAffirmations id l = .affirmed →
      ∃ r ∈ accepted past, r.instructionId = id ∧ r.legId = l ∧
        Marked (run step genesis past) id l r.signer r.uid) ∧
    ∀ past env origin call, past ++ [.extrinsic env origin call] <+: actions →
      ∀ r ∈ (Action.extrinsic env origin call).accepted (run step genesis past),
        ValidReceipt env ((run step genesis past).settlement.instructionDetails
          r.instructionId).venueId r.instructionId (run step genesis past) r := by
  have hinv := (receiptsInv_accepted actions).1
  refine ⟨hinv.uids, hinv.legs, fun signer uid => ?_, fun past hpast id l hl => ?_,
    fun past env origin call _ r hr => validReceipt_of_accepted (receiptsInv_accepted past).2 hr⟩
  · rintro ⟨id₁, l₁⟩ ⟨past₁, hpast₁, hmark₁⟩ ⟨id₂, l₂⟩ ⟨past₂, hpast₂, hmark₂⟩
    obtain ⟨r₁, hr₁, rfl, rfl, rfl, rfl⟩ :=
      (receiptsInv_accepted past₁).1.marked _ _ _ _ hmark₁
    obtain ⟨r₂, hr₂, rfl, rfl, hsigner, huid⟩ :=
      (receiptsInv_accepted past₂).1.marked _ _ _ _ hmark₂
    -- both have been accepted in the whole run
    have heq : r₂ = r₁ := List.inj_on_of_nodup_map hinv.uids (accepted_subset hpast₂ hr₂)
      (accepted_subset hpast₁ hr₁) (Prod.ext hsigner huid)
    rw [heq]
  · obtain ⟨hpastInv, hs⟩ := receiptsInv_accepted past
    obtain ⟨signer, uid, hmark⟩ := exists_marked_of_affirmed hs hl
    obtain ⟨r, hr, hid, hleg, rfl, rfl⟩ := hpastInv.marked id l signer uid hmark
    exact ⟨r, hr, hid, hleg, hmark⟩

/-- The receipt with uid 5, signed by account 7, for a leg of an instruction. -/
def receiptFive (id : InstructionId) (l : LegId) : ReceiptDetails := ⟨5, id, l, ⟨7⟩, 0⟩

/-- Two instructions, of two off-chain legs and of one, for which receipts are submitted: twice the
same uid in one call, then a receipt for the first leg, and then its uid again, for the second leg
and for the other instruction. -/
def receiptRun : List Action :=
  [.calls 1 (.createVenue [⟨7⟩] .other),
    .calls 1 (.addInstruction ⟨1⟩ .settleOnAffirmation none none
      [.offChain ⟨1⟩ ⟨2⟩ ⟨1⟩ 10, .offChain ⟨1⟩ ⟨2⟩ ⟨1⟩ 20] []),
    .calls 1 (.addInstruction ⟨1⟩ .settleOnAffirmation none none [.offChain ⟨1⟩ ⟨2⟩ ⟨1⟩ 10] []),
    .calls 1 (.affirmWithReceipts ⟨1⟩ [receiptFive ⟨1⟩ 0, receiptFive ⟨1⟩ 1] [] none),
    .calls 1 (.affirmWithReceipts ⟨1⟩ [receiptFive ⟨1⟩ 0] [] none),
    .calls 1 (.affirmWithReceipts ⟨1⟩ [receiptFive ⟨1⟩ 1] [] none),
    .calls 1 (.affirmWithReceipts ⟨2⟩ [receiptFive ⟨2⟩ 0] [] none)]

/-- Of all these receipts one is accepted, and it marks the one leg that it is for. -/
theorem receipts_single_use_five :
    accepted receiptRun = [receiptFive ⟨1⟩ 0] ∧
      everMarked receiptRun ⟨7⟩ 5 = {(⟨1⟩, 0)} := by
  have haccepted : accepted receiptRun = [receiptFive ⟨1⟩ 0] := by decide +kernel
  have hmark : (⟨1⟩, 0) ∈ everMarked receiptRun ⟨7⟩ 5 :=
    ⟨receiptRun, List.prefix_rfl, by unfold Marked; decide +kernel⟩
  exact ⟨haccepted, ((receipts_single_use receiptRun).2.2.1 ⟨7⟩ 5).eq_singleton_of_mem hmark⟩

end Settlement

end Polymesh
