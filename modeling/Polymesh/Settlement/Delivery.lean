import Polymesh.Locks.Releases
import Polymesh.Locks.TokenLocks

/-!
# Delivery versus payment

An execution passes over every leg whose status is not `executionPending`, and ignores the errors
of the releases before it. Neither lets a leg slip: once no affirmation is missing every on-chain
leg waits for execution, and its locks are covered. So an instruction that is executed moves what
all of its legs say, and one that is not moves nothing.
-/

namespace Polymesh

open Transactional Tx Collections Bookkeeping Relation Settlement

/-- The amount of a ticker that a leg brings to a portfolio. -/
def Leg.amountTo (p : PortfolioId) (t : Ticker) : Leg → ℕ
  | .fungible _ receiver ticker amount => if receiver = p ∧ ticker = t then amount else 0
  | .nonFungible .. | .offChain .. => 0

/-- Every leg of the instruction has been performed: the balances have changed by the amounts of
all its fungible legs, its tokens are with their receivers, and what it had locked is free. -/
structure Delivered (id : InstructionId) (s s' : Storage) : Prop where
  balances : ∀ p t, s'.portfolio.portfolioAssetBalances p t +
      ((s.legs id).map fun l => l.2.amountFrom p t).sum =
    s.portfolio.portfolioAssetBalances p t + ((s.legs id).map fun l => l.2.amountTo p t).sum
  tokens : ∀ l sender receiver nfts, (l, Leg.nonFungible sender receiver nfts) ∈ s.legs id →
    ∀ x ∈ nfts.tokens, s'.nft.nftOwner x.1 x.2 = some receiver
  released : ∀ k, reserve s' k + (s.settlement.instruction id).due k = reserve s k

/-! ## One leg -/

variable {leg : Leg} {ls : List (LegId × Leg)} {x : Ticker × NFTId}

section Legs

variable {env : Env} {id : InstructionId} {s s' : Storage} {u : Unit}

theorem transferLeg_balance (hs : LedgerInv s) (h : transferLeg env leg s = (.ok u, s'))
    (p : PortfolioId) (t : Ticker) :
    s'.portfolio.portfolioAssetBalances p t + leg.amountFrom p t =
      s.portfolio.portfolioAssetBalances p t + leg.amountTo p t := by
  cases leg with
  | fungible sender receiver ticker amount =>
    simp [transferLeg, Asset.baseTransfer] at h
    obtain ⟨-, htransfer⟩ := h
    obtain ⟨_, hdid, -, hfree, -, -, rfl⟩ := Asset.unsafeTransfer_ok env htransfer
    have hne : sender ≠ receiver := fun h => hdid (congrArg PortfolioId.did h)
    have hv : amount ≤ s.portfolio.portfolioAssetBalances sender ticker :=
      hfree.trans (Nat.sub_le _ _)
    change (Portfolio.uncheckedTransferPortfolioBalance sender receiver ticker amount
      s.portfolio).portfolioAssetBalances p t + _ = _
    rw [uncheckedTransfer_balances hne (hs.balance_add_le hne hv)]
    simp only [update₂_apply, Leg.amountFrom, Leg.amountTo]
    split_ifs <;> grind
  | nonFungible sender receiver nfts =>
    simp [transferLeg, NFT.baseNftTransfer] at h
    obtain ⟨-, rfl⟩ := h
    have hsame := sameFungible_moveNfts sender receiver nfts.tokens
      (s.mapNFT (NFT.transferCounts sender.did receiver.did nfts))
    exact congrFun (congrFun hsame.balances p) t
  | offChain =>
    cases h
    rfl

theorem transferLeg_owner (h : transferLeg env leg s = (.ok u, s')) (x : Ticker × NFTId) :
    s'.nft.nftOwner x.1 x.2 =
      if x ∈ leg.tokens then leg.receiver? else s.nft.nftOwner x.1 x.2 := by
  cases leg with
  | fungible sender receiver ticker amount =>
    simp [transferLeg, Asset.baseTransfer] at h
    obtain ⟨-, htransfer⟩ := h
    obtain ⟨_, -, -, -, -, -, rfl⟩ := Asset.unsafeTransfer_ok env htransfer
    rfl
  | nonFungible sender receiver nfts =>
    simp [transferLeg, NFT.baseNftTransfer] at h
    obtain ⟨-, rfl⟩ := h
    exact nftOwner_transfer sender receiver nfts s x
  | offChain =>
    cases h
    rfl

theorem transferLeg_offChain (h : leg.isOffChain) (s : Storage) :
    transferLeg env leg s = (.ok (), s) := by
  cases leg with
  | offChain => rfl
  | fungible | nonFungible => cases h

/-! ## All legs -/

/-- The legs that wait for execution and the off-chain ones, which move nothing, are all that is
transferred. -/
theorem transferLegs_of_pending
    (hls : ∀ l ∈ ls, s.settlement.instructionLegStatus id l.1 = .executionPending ∨ l.2.isOffChain)
    (h : (forM ls (transferPendingLeg env id)) s = (.ok u, s')) :
    (forM ls fun l => transferLeg env l.2) s = (.ok u, s') := by
  induction ls generalizing s with
  | nil => exact h
  | cons l ls ih =>
    obtain ⟨s₁, hfirst, hrest⟩ := forM_cons_ok.mp h
    have hsame := (transferPendingLeg_any env id l hfirst).sameRecords
    refine forM_cons_ok.mpr ⟨s₁, ?_, ih (fun l' hl' => ?_) hrest⟩
    · simp [transferPendingLeg, onlyIf_ok] at hfirst
      rcases hfirst with ⟨-, hfirst⟩ | ⟨hskipped, rfl⟩
      · exact hfirst
      · exact transferLeg_offChain ((hls l List.mem_cons_self).resolve_left hskipped) s
    · have hstatus : s₁.settlement.instructionLegStatus id = s.settlement.instructionLegStatus id :=
        congrArg InstructionRecord.legStatus (congrFun hsame.instruction id)
      rw [hstatus]
      exact hls l' (List.mem_cons_of_mem _ hl')

theorem transferLegs_balance (hs : LedgerInv s)
    (h : (forM ls fun l => transferLeg env l.2) s = (.ok u, s')) (p : PortfolioId) (t : Ticker) :
    s'.portfolio.portfolioAssetBalances p t + (ls.map fun l => l.2.amountFrom p t).sum =
      s.portfolio.portfolioAssetBalances p t + (ls.map fun l => l.2.amountTo p t).sum := by
  induction ls generalizing s with
  | nil =>
    rw [forM_nil_ok] at h
    subst h
    rfl
  | cons l ls ih =>
    obtain ⟨s₁, hfirst, hrest⟩ := forM_cons_ok.mp h
    have hbalance := transferLeg_balance hs hfirst p t
    have hbalances := ih (Movements.ledgerInv (transferLeg_any env l.2 hfirst) hs) hrest
    simp only [List.map_cons, List.sum_cons]
    omega

theorem transferLegs_owner_of_notMem (h : (forM ls fun l => transferLeg env l.2) s = (.ok u, s'))
    (hx : ∀ l ∈ ls, x ∉ l.2.tokens) : s'.nft.nftOwner x.1 x.2 = s.nft.nftOwner x.1 x.2 := by
  induction ls generalizing s with
  | nil =>
    rw [forM_nil_ok] at h
    rw [h]
  | cons l ls ih =>
    obtain ⟨s₁, hfirst, hrest⟩ := forM_cons_ok.mp h
    rw [ih hrest fun l' hl' => hx l' (List.mem_cons_of_mem _ hl'), transferLeg_owner hfirst,
      if_neg (hx l List.mem_cons_self)]

theorem transferLegs_owner (hdisjoint : ls.Pairwise fun l l' => ∀ x ∈ l.2.tokens, x ∉ l'.2.tokens)
    (h : (forM ls fun l => transferLeg env l.2) s = (.ok u, s')) {l : LegId × Leg} (hl : l ∈ ls)
    (hx : x ∈ l.2.tokens) : s'.nft.nftOwner x.1 x.2 = l.2.receiver? := by
  induction ls generalizing s with
  | nil => cases hl
  | cons l₀ ls ih =>
    obtain ⟨s₁, hfirst, hrest⟩ := forM_cons_ok.mp h
    obtain ⟨hothers, hdisjoint⟩ := List.pairwise_cons.mp hdisjoint
    rcases List.mem_cons.mp hl with rfl | hl
    · rw [transferLegs_owner_of_notMem hrest fun l' hl' => hothers l' hl' x hx,
        transferLeg_owner hfirst, if_pos hx]
    · exact ih hdisjoint hrest hl

end Legs

/-! ## Legs share no token -/

section Tokens

theorem Leg.exists_sender_of_mem (hx : x ∈ leg.tokens) :
    ∃ p, leg.sender? = some p := by
  cases leg with
  | nonFungible sender => exact ⟨sender, rfl⟩
  | fungible | offChain => cases hx

theorem Leg.pending_of_mem (hx : x ∈ leg.tokens) {status : LegStatus}
    (h : status = .executionPending ∨ leg.isOffChain) :
    status = .executionPending := by
  cases leg with
  | nonFungible sender => exact h.resolve_right Bool.false_ne_true
  | fungible | offChain => cases hx

/-- A token is locked once, so that two legs that wait for execution do not both deliver it. -/
theorem pairwise_tokens {status : LegId → LegStatus}
    (hstatus : ∀ l ∈ ls, status l.1 = .executionPending ∨ l.2.isOffChain)
    (hsender : ∀ l ∈ ls, ∀ l' ∈ ls, ∀ x ∈ l.2.tokens, x ∈ l'.2.tokens → l.2.sender? = l'.2.sender?)
    (hle : ∀ p x, dueOf status ls (p, .inr x) ≤ 1) :
    ls.Pairwise fun l l' => ∀ x ∈ l.2.tokens, x ∉ l'.2.tokens := by
  induction ls with
  | nil => exact .nil
  | cons l ls ih =>
    refine List.pairwise_cons.mpr ⟨fun l' hl' x hx hx' => ?_, ih ?_ ?_ fun p x => ?_⟩
    · obtain ⟨p, hp⟩ := Leg.exists_sender_of_mem hx
      have hmem := List.mem_cons_of_mem l hl'
      have hp' := (hsender l List.mem_cons_self l' hmem x hx hx').symm.trans hp
      -- the two claims on the token would exceed its one lock
      have hfirst := Leg.one_le_claim hp hx
      have hother := (Leg.one_le_claim hp' hx').trans
        (claim_le_dueOf hl' (Leg.pending_of_mem hx' (hstatus l' hmem)) (p, .inr x))
      have htotal := hle p x
      rw [dueOf_cons, if_pos (Leg.pending_of_mem hx (hstatus l List.mem_cons_self))] at htotal
      omega
    · exact fun a ha => hstatus a (List.mem_cons_of_mem _ ha)
    · exact fun a ha b hb => hsender a (List.mem_cons_of_mem _ ha) b (List.mem_cons_of_mem _ hb)
    · have htotal := hle p x
      rw [dueOf_cons] at htotal
      omega

end Tokens

/-! ## Locks and ownership -/

/-- The same balances, and the same owners of tokens. -/
structure SameOwnership (s s' : Storage) : Prop where
  balances : s'.portfolio.portfolioAssetBalances = s.portfolio.portfolioAssetBalances := by rfl
  owners : s'.nft.nftOwner = s.nft.nftOwner := by rfl

instance : Std.Refl SameOwnership := ⟨fun _ => ⟨rfl, rfl⟩⟩

instance : IsTrans Storage SameOwnership where
  trans _ _ _ h h' := ⟨h'.balances.trans h.balances, h'.owners.trans h.owners⟩

theorem viaLeg_sameOwnership (leg : Leg) :
    Respects SameOwnership (lockViaLeg leg) ∧ Respects SameOwnership (unlockViaLeg leg) :=
  viaLeg_respects leg fun _ _ _ => ⟨rfl, rfl⟩

/-! ## Execution -/

section Execution

variable {env : Env} {id : InstructionId} {s s' : Storage} {u : Unit}

/-- **An execution performs every leg and releases every lock** of an instruction whose locks are
covered. -/
theorem executeInstruction_delivers (hinstructions : InstructionsInv s) (hledger : LedgerInv s)
    (htokens : TokensInv s) (hcover : ∀ k, (s.settlement.instruction id).due k ≤ reserve s k)
    (h : executeInstruction env id s = (.ok u, s')) : Delivered id s s' := by
  have hperm : (sortedLegs env id s).Perm (s.legs id) := sortedLegs_perm
  have hvalid := hinstructions.valid id
  obtain ⟨hcount, -, -, hrun⟩ := executeInstruction_ok h
  have hstatus : ∀ l ∈ sortedLegs env id s,
      s.settlement.instructionLegStatus id l.1 = .executionPending ∨ l.2.isOffChain := fun l hl =>
    hvalid.all_locked hcount (InstructionRecord.mem_legList.mp (hperm.subset hl))
  have hdue : ∀ k, dueOf (s.settlement.instructionLegStatus id) (sortedLegs env id s) k =
      (s.settlement.instruction id).due k := fun k => by rw [dueOf_perm _ hperm, ← due_eq]
  -- the releases change locks only
  have hsettlement : (uncheckedReleaseLocks id (sortedLegs env id s) s).settlement =
      s.settlement := by
    rw [uncheckedReleaseLocks_onlyPortfolio id (sortedLegs env id s) s]
    rfl
  have hreleased : SameOwnership s (uncheckedReleaseLocks id (sortedLegs env id s) s) :=
    uncheckedReleaseLocks_rel id (fun leg => (viaLeg_sameOwnership leg).2) _ s
  have htransfers := transferLegs_of_pending (by rw [hsettlement]; exact hstatus) hrun
  refine ⟨fun p t => ?_, fun l sender receiver nfts hl x hx => ?_, fun k => ?_⟩
  · have hbalance := transferLegs_balance
      (Effects.ledgerInv (uncheckedReleaseLocks_effects id _ s) hledger) htransfers p t
    rw [(hperm.map _).sum_eq, (hperm.map _).sum_eq, hreleased.balances] at hbalance
    exact hbalance
  · refine transferLegs_owner (pairwise_tokens hstatus ?_ fun p x => ?_) htransfers
      (hperm.symm.subset hl) hx
    · intro l hl l' hl' x hx hx'
      obtain ⟨p, hp⟩ := Leg.exists_sender_of_mem hx
      obtain ⟨p', hp'⟩ := Leg.exists_sender_of_mem hx'
      have hlocked := locked_of_pending hcover (hperm.subset hl)
        (Leg.pending_of_mem hx (hstatus l hl)) hp hx
      have hlocked' := locked_of_pending hcover (hperm.subset hl')
        (Leg.pending_of_mem hx' (hstatus l' hl')) hp' hx'
      rw [hp, hp', htokens.locked_unique p p' x hlocked hlocked']
    · rw [hdue]
      refine (hcover _).trans ?_
      simp only [reserve]
      split_ifs <;> omega
  · rw [executeInstruction_reserve hledger h, ← hdue]
    refine uncheckedReleaseLocks_reserve
      (fun l hl hl' => onChain_of_mem hinstructions (hperm.subset hl) hl') (fun k => ?_) k
    rw [hdue]
    exact hcover k

/-- **Delivery versus payment.** In every state of the chain, an execution that succeeds finds
every on-chain leg locked, performs all of them and releases their locks; one that fails leaves
the storage as it was. -/
theorem delivery_versus_payment (h : Reachable s) (env : Env) (id : InstructionId) :
    (∀ s', executeInstruction env id s = (.ok (), s') →
      (∀ l ∈ s.legs id, l.2.isOffChain = false →
        s.settlement.instructionLegStatus id l.1 = .executionPending) ∧
      Delivered id s s') ∧
    ∀ e s', executeInstruction env id s = (.error e, s') → s' = s := by
  have hs := reachable_coverInv h
  have hinstructions := hs.books.instructions
  refine ⟨fun s' hexec => ⟨fun l hl hchain => ?_, ?_⟩, fun e s' hexec =>
    executeInstruction_atomic env id hexec⟩
  · have hlocked := (hinstructions.valid id).all_locked (executeInstruction_ok hexec).1
      (InstructionRecord.mem_legList.mp hl)
    exact hlocked.resolve_right (by simp [hchain])
  · exact executeInstruction_delivers hinstructions hs.books.ledger (reachable_nftInv h).tokens
      (hs.covered.claim_le (Claimant.instruction id)) hexec

end Execution

/-- A token for 20 units of an asset, which the seller has affirmed. -/
def swapRun : List Action :=
  [.calls 1 (.createNftCollection ⟨1⟩ true []), .calls 1 (.issueNft ⟨1⟩ [] .default),
    .calls 2 (.createAsset ⟨2⟩ true .equityCommon), .calls 2 (.issue ⟨2⟩ 1000 .default),
    .calls 1 (.createVenue [] .other),
    .calls 1 (.addAndAffirmInstruction ⟨1⟩ .settleOnAffirmation none none
      [.nonFungible (.defaultPortfolio ⟨1⟩) (.defaultPortfolio ⟨2⟩) ⟨⟨1⟩, [⟨1⟩]⟩,
        .fungible (.defaultPortfolio ⟨2⟩) (.defaultPortfolio ⟨1⟩) ⟨2⟩ 20]
      [.defaultPortfolio ⟨1⟩] [])]

/-- The execution fails without the affirmation of the buyer, and with it performs both legs. -/
theorem delivery_versus_payment_swap :
    let before := TransitionSystem.run step genesis swapRun
    let s := TransitionSystem.run step genesis
      (swapRun ++ [.calls 2 (.affirmInstruction ⟨1⟩ [.defaultPortfolio ⟨2⟩] none)])
    (executeInstruction .consenting ⟨1⟩ before).1 =
        .error (.settlement .notAllAffirmationsHaveBeenReceived) ∧
      (executeInstruction .consenting ⟨1⟩ before).2 = before ∧
      (executeInstruction .consenting ⟨1⟩ s).1 = .ok () ∧
      Delivered ⟨1⟩ s (executeInstruction .consenting ⟨1⟩ s).2 := by
  intro before s
  have hbefore : Reachable before := ⟨_, rfl⟩
  have hs : Reachable s := ⟨_, rfl⟩
  exact ⟨by rfl, (delivery_versus_payment hbefore .consenting ⟨1⟩).2 _ _ rfl, by rfl,
    ((delivery_versus_payment hs .consenting ⟨1⟩).1 _ rfl).2⟩

end Polymesh
