import Polymesh.Ledger
import Polymesh.Settlement.Records

/-!
# Locks as a reserve, and what a leg claims of it

A portfolio locks amounts of a ticker and single tokens; both are numbers under a key. To affirm
a leg adds what the leg claims to the reserve, to release it takes that away again, and a release
succeeds if the reserve has what it takes.
-/

namespace Polymesh

open Transactional Tx Collections Settlement
open Portfolio (insertLockedNFT lockNft removeLockedNFT setLocked unlockNft unlockTokens unlockTokens_ok)

/-- What can be locked in a portfolio: some of a ticker, or one token. -/
abbrev LockKey : Type := PortfolioId × (Ticker ⊕ Ticker × NFTId)

/-- How much is locked under a key. -/
def reserve (s : Storage) : LockKey → ℕ
  | (p, .inl t) => s.portfolio.portfolioLockedAssets p t
  | (p, .inr x) => if x ∈ s.portfolio.portfolioLockedNFT p then 1 else 0

/-- How much a leg locks under a key. -/
def Leg.claim : Leg → LockKey → ℕ
  | .fungible sender _ ticker amount, k => if k = (sender, .inl ticker) then amount else 0
  | .nonFungible sender _ nfts, k => nfts.tokens.countP fun x => k = (sender, .inr x)
  | .offChain .., _ => 0

/-- How much the locked ones of a list of legs claim under a key. -/
def dueOf (status : LegId → LegStatus) (ls : List (LegId × Leg)) (k : LockKey) : ℕ :=
  (ls.map fun l => if status l.1 = .executionPending then l.2.claim k else 0).sum

/-- How much the locked legs of an instruction claim under a key. -/
def InstructionRecord.due (r : InstructionRecord) (k : LockKey) : ℕ :=
  dueOf r.legStatus (r.legs.entries.map fun e => (e.1, e.2)) k

theorem due_eq (s : Storage) (id : InstructionId) (k : LockKey) :
    (s.settlement.instruction id).due k =
      dueOf (s.settlement.instructionLegStatus id) (s.legs id) k := rfl

/-! ## One lock -/

variable {p : PortfolioId} {leg : Leg} {ls : List (LegId × Leg)} {status : LegId → LegStatus}
  {l : LegId × Leg}

section Locks

variable {s s' : Storage} {u : Unit}

theorem reserve_setLocked (p : PortfolioId) (t : Ticker) (v : ℕ) (k : LockKey) :
    reserve (s.mapPortfolio (setLocked p t v)) k =
      if k = (p, .inl t) then v else reserve s k := by
  obtain ⟨p', t' | x⟩ := k
  · simp [reserve, Storage.mapPortfolio, setLocked, update₂_apply]
  · rw [if_neg (by simp)]
    rfl

variable {t : Ticker} {v : ℕ} {x : Ticker × NFTId}

theorem uncheckedLockTokens_reserve (hs : LedgerInv s) (hv : v ≤ freeBalance p t s) (k : LockKey) :
    reserve (s.mapPortfolio (Portfolio.uncheckedLockTokens p t v)) k =
      reserve s k + if k = (p, .inl t) then v else 0 := by
  have hmax : s.portfolio.portfolioLockedAssets p t + v ≤ balanceMax := by
    have hlocked := hs.locked_le p t
    have hbalance := hs.balance_le_supply p t
    have hsupply := hs.supply_le t
    have hlt := maxSupply_lt
    unfold freeBalance at hv
    unfold balanceMax
    omega
  change reserve (s.mapPortfolio (setLocked p t (satAdd _ v))) k = _
  rw [satAdd_eq hmax, reserve_setLocked]
  split_ifs with hk
  · rw [hk]
    rfl
  · rfl

theorem lockTokens_reserve (hs : LedgerInv s) (h : Portfolio.lockTokens p t v s = (.ok u, s'))
    (k : LockKey) :
    reserve s' k = reserve s k + if k = (p, .inl t) then v else 0 := by
  obtain ⟨hv, rfl⟩ := Portfolio.lockTokens_ok h
  exact uncheckedLockTokens_reserve hs hv k

theorem unlockTokens_reserve (h : unlockTokens p t v s = (.ok u, s')) (k : LockKey) :
    reserve s' k + (if k = (p, .inl t) then v else 0) = reserve s k := by
  obtain ⟨hv, rfl⟩ := unlockTokens_ok.mp h
  rw [reserve_setLocked]
  split_ifs with hk
  · rw [hk]
    exact Nat.sub_add_cancel hv
  · rfl

theorem unlockTokens_succeeds (h : v ≤ reserve s (p, .inl t)) :
    (unlockTokens p t v s).1 = .ok () := by
  have hrun := (unlockTokens_ok (u := ())).mpr ⟨h, rfl⟩
  rw [hrun]

theorem lockNft_reserve (h : lockNft p x s = (.ok u, s')) (k : LockKey) :
    reserve s' k = reserve s k + if k = (p, .inr x) then 1 else 0 := by
  simp [lockNft] at h
  obtain ⟨-, hfree, rfl⟩ := h
  obtain ⟨p', t' | x'⟩ := k
  · simp [reserve, Storage.mapPortfolio, insertLockedNFT]
  · by_cases hp : p' = p
    · subst hp
      by_cases hx : x' = x
      · subst hx
        simp [reserve, Storage.mapPortfolio, insertLockedNFT, hfree]
      · simp [reserve, Storage.mapPortfolio, insertLockedNFT, hx]
    · simp [reserve, Storage.mapPortfolio, insertLockedNFT, hp]

theorem unlockNft_reserve (h : unlockNft p x s = (.ok u, s')) (k : LockKey) :
    reserve s' k + (if k = (p, .inr x) then 1 else 0) = reserve s k := by
  simp [unlockNft] at h
  obtain ⟨hlocked, rfl⟩ := h
  obtain ⟨p', t' | x'⟩ := k
  · simp [reserve, Storage.mapPortfolio, removeLockedNFT]
  · by_cases hp : p' = p
    · subst hp
      by_cases hx : x' = x
      · subst hx
        simp [reserve, Storage.mapPortfolio, removeLockedNFT, hlocked]
      · simp [reserve, Storage.mapPortfolio, removeLockedNFT, hx]
    · simp [reserve, Storage.mapPortfolio, removeLockedNFT, hp]

end Locks

/-! ## The claim of a leg -/

section Legs

variable {s s' : Storage} {u : Unit}

variable {xs : List (Ticker × NFTId)}

theorem lockNfts_reserve (h : (forM xs (lockNft p)) s = (.ok u, s')) (k : LockKey) :
    reserve s' k = reserve s k + xs.countP fun x => k = (p, .inr x) := by
  induction xs generalizing s with
  | nil =>
    rw [forM_nil_ok] at h
    subst h
    rfl
  | cons x xs ih =>
    obtain ⟨s₁, hx, hxs⟩ := forM_cons_ok.mp h
    rw [ih hxs, lockNft_reserve hx, List.countP_cons]
    simp only [decide_eq_true_eq]
    omega

theorem unlockNfts_reserve (h : (forM xs (unlockNft p)) s = (.ok u, s')) (k : LockKey) :
    reserve s' k + xs.countP (fun x => k = (p, .inr x)) = reserve s k := by
  induction xs generalizing s with
  | nil =>
    rw [forM_nil_ok] at h
    subst h
    rfl
  | cons x xs ih =>
    obtain ⟨s₁, hx, hxs⟩ := forM_cons_ok.mp h
    have hrest := ih hxs
    have hfirst := unlockNft_reserve hx k
    rw [List.countP_cons]
    simp only [decide_eq_true_eq]
    omega

theorem unlockNfts_succeeds (h : ∀ k, xs.countP (fun x => k = (p, .inr x)) ≤ reserve s k) :
    ∃ s', (forM xs (unlockNft p)) s = (.ok (), s') := by
  induction xs generalizing s with
  | nil => exact ⟨s, forM_nil_ok.mpr rfl⟩
  | cons x xs ih =>
    have hlocked : x ∈ s.portfolio.portfolioLockedNFT p := by
      have hx := h (p, .inr x)
      by_contra hfree
      simp [reserve, hfree] at hx
    have hrun : unlockNft p x s =
        (.ok (), s.mapPortfolio (removeLockedNFT p x)) := by
      simp [unlockNft, hlocked]
    obtain ⟨s', hrest⟩ := ih (s := s.mapPortfolio (removeLockedNFT p x)) fun k => by
      have hk := h k
      have hfirst := unlockNft_reserve hrun k
      rw [List.countP_cons] at hk
      simp only [decide_eq_true_eq] at hk
      omega
    exact ⟨s', forM_cons_ok.mpr ⟨_, hrun, hrest⟩⟩

/-- **A leg that is locked adds its claim.** -/
theorem lockViaLeg_reserve (hs : LedgerInv s) (h : lockViaLeg leg s = (.ok u, s')) (k : LockKey) :
    reserve s' k = reserve s k + leg.claim k := by
  cases leg with
  | fungible sender receiver ticker amount => exact lockTokens_reserve hs h k
  | nonFungible sender receiver nfts => exact lockNfts_reserve (transaction_ok.mp h) k
  | offChain => exact absurd h fail_ok

/-- **A leg that is released takes its claim away.** -/
theorem unlockViaLeg_reserve (h : unlockViaLeg leg s = (.ok u, s')) (k : LockKey) :
    reserve s' k + leg.claim k = reserve s k := by
  cases leg with
  | fungible sender receiver ticker amount => exact unlockTokens_reserve h k
  | nonFungible sender receiver nfts => exact unlockNfts_reserve (transaction_ok.mp h) k
  | offChain => exact absurd h fail_ok

/-- **A claim that is in the reserve can be released.** -/
theorem unlockViaLeg_succeeds (hleg : leg.isOffChain = false) (h : ∀ k, leg.claim k ≤ reserve s k) :
    (unlockViaLeg leg s).1 = .ok () := by
  cases leg with
  | fungible sender receiver ticker amount =>
    refine unlockTokens_succeeds ?_
    simpa [Leg.claim] using h (sender, .inl ticker)
  | nonFungible sender receiver nfts =>
    obtain ⟨s', hrun⟩ := unlockNfts_succeeds h
    have hrun : unlockViaLeg (.nonFungible sender receiver nfts) s = (.ok (), s') :=
      transaction_ok.mpr hrun
    rw [hrun]
  | offChain => cases hleg

end Legs

/-! ## Loops over legs -/

section Loops

variable {id : InstructionId} {s s' : Storage} {u : Unit}

theorem dueOf_cons (status : LegId → LegStatus) (l : LegId × Leg) (ls : List (LegId × Leg))
    (k : LockKey) : dueOf status (l :: ls) k =
      (if status l.1 = .executionPending then l.2.claim k else 0) + dueOf status ls k := by
  simp [dueOf]

theorem dueOf_perm (status : LegId → LegStatus) {ls' : List (LegId × Leg)} (h : ls.Perm ls')
    (k : LockKey) : dueOf status ls k = dueOf status ls' k :=
  (h.map _).sum_eq

theorem claim_le_dueOf (hl : l ∈ ls) (hstatus : status l.1 = .executionPending) (k : LockKey) :
    l.2.claim k ≤ dueOf status ls k := by
  have hmem := List.mem_map_of_mem
    (f := fun l : LegId × Leg => if status l.1 = .executionPending then l.2.claim k else 0) hl
  rw [if_pos hstatus] at hmem
  exact List.single_le_sum (fun _ _ => Nat.zero_le _) _ hmem

theorem lockLegs_reserve (hs : LedgerInv s) (h : (forM ls (lockLeg id)) s = (.ok u, s'))
    (k : LockKey) :
    reserve s' k = reserve s k + (ls.map fun l => l.2.claim k).sum := by
  induction ls generalizing s with
  | nil =>
    rw [forM_nil_ok] at h
    subst h
    rfl
  | cons l ls ih =>
    obtain ⟨s₁, hl, hls⟩ := forM_cons_ok.mp h
    have hs₁ := Effects.ledgerInv (lockLeg_effects id l hl) hs
    simp [lockLeg] at hl
    obtain ⟨_, s₂, hlock, rfl⟩ := hl
    have hfirst : reserve (s₂.mapSettlement (setLegStatus id l.1 .executionPending)) k =
        reserve s k + l.2.claim k := lockViaLeg_reserve hs hlock k
    rw [ih hs₁ hls, hfirst, List.map_cons, List.sum_cons, Nat.add_assoc]

theorem unlockLegs_reserve (h : (forM ls (unlockLeg id)) s = (.ok u, s')) (k : LockKey) :
    reserve s' k + (ls.map fun l => l.2.claim k).sum = reserve s k := by
  induction ls generalizing s with
  | nil =>
    rw [forM_nil_ok] at h
    subst h
    rfl
  | cons l ls ih =>
    obtain ⟨s₁, hl, hls⟩ := forM_cons_ok.mp h
    simp [unlockLeg] at hl
    obtain ⟨_, s₂, hunlock, rfl⟩ := hl
    have hfirst : reserve (s₂.mapSettlement (setLegStatus id l.1 .pendingTokenLock)) k +
        l.2.claim k = reserve s k := unlockViaLeg_reserve (unlockByStatus_ok hunlock).2 k
    have hrest := ih hls
    rw [List.map_cons, List.sum_cons]
    omega

theorem releaseLock_reserve (id : InstructionId) (s : Storage) (l : LegId × Leg) (k : LockKey) :
    reserve s k ≤ reserve (releaseLock id s l) k +
      if s.settlement.instructionLegStatus id l.1 = .executionPending then l.2.claim k else 0 := by
  unfold releaseLock
  cases hstatus : s.settlement.instructionLegStatus id l.1 with
  | executionPending =>
    rcases (unlockViaLeg_atomic l.2).run_cases s with ⟨_, hrun⟩ | ⟨_, hrun⟩
    · exact (unlockViaLeg_reserve hrun k).ge
    · simp only [hrun]
      exact Nat.le_add_right _ _
  | executionToBeSkipped | pendingTokenLock => exact Nat.le_add_right _ _

theorem releaseLock_status (id : InstructionId) (s : Storage) (l : LegId × Leg) :
    (releaseLock id s l).settlement = s.settlement := by
  have h := uncheckedReleaseLocks_onlyPortfolio id [l] s
  change OnlyPortfolio s (releaseLock id s l) at h
  rw [h]
  rfl

theorem uncheckedReleaseLocks_reserve_ge (id : InstructionId) (ls : List (LegId × Leg))
    (s : Storage) (k : LockKey) :
    reserve s k ≤ reserve (uncheckedReleaseLocks id ls s) k +
      dueOf (s.settlement.instructionLegStatus id) ls k := by
  induction ls generalizing s with
  | nil => exact le_rfl
  | cons l ls ih =>
    have hfirst := releaseLock_reserve id s l k
    have hrest := ih (releaseLock id s l)
    rw [releaseLock_status] at hrest
    change _ ≤ reserve (uncheckedReleaseLocks id ls (releaseLock id s l)) k + _
    rw [dueOf_cons]
    omega

/-- **All the claims of a list of legs can be released**, if they are in the reserve. -/
theorem uncheckedReleaseLocks_reserve
    (hchain : ∀ l ∈ ls, s.settlement.instructionLegStatus id l.1 = .executionPending →
      l.2.isOffChain = false)
    (hcover : ∀ k, dueOf (s.settlement.instructionLegStatus id) ls k ≤ reserve s k) (k : LockKey) :
    reserve (uncheckedReleaseLocks id ls s) k +
      dueOf (s.settlement.instructionLegStatus id) ls k = reserve s k := by
  induction ls generalizing s with
  | nil => rfl
  | cons l ls ih =>
    have hfirst : ∀ k, reserve (releaseLock id s l) k +
        (if s.settlement.instructionLegStatus id l.1 = .executionPending then l.2.claim k else 0) =
          reserve s k := by
      intro k
      unfold releaseLock
      cases hstatus : s.settlement.instructionLegStatus id l.1 with
      | executionPending =>
        have hclaim : ∀ k, l.2.claim k ≤ reserve s k := fun k => by
          have hk := hcover k
          rw [dueOf_cons, if_pos hstatus] at hk
          omega
        have hok := unlockViaLeg_succeeds (hchain l List.mem_cons_self hstatus) hclaim
        exact unlockViaLeg_reserve (Prod.ext hok rfl) k
      | executionToBeSkipped | pendingTokenLock => rfl
    have hstatus := congrArg (fun t => t.instructionLegStatus id) (releaseLock_status id s l)
    have hrest := ih (s := releaseLock id s l)
      (fun l' hl' => by rw [hstatus]; exact hchain l' (List.mem_cons_of_mem l hl'))
      fun k => by
        have hk := hcover k
        have hfirst := hfirst k
        rw [dueOf_cons] at hk
        rw [hstatus]
        omega
    rw [hstatus] at hrest
    have hfirst := hfirst k
    change reserve (uncheckedReleaseLocks id ls (releaseLock id s l)) k + _ = _
    rw [dueOf_cons]
    omega

/-- **No release of a list fails**, if the claims are in the reserve. -/
theorem uncheckedReleaseLocks_succeeds {pre post : List (LegId × Leg)}
    (hchain : ∀ l ∈ ls, s.settlement.instructionLegStatus id l.1 = .executionPending →
      l.2.isOffChain = false)
    (hcover : ∀ k, dueOf (s.settlement.instructionLegStatus id) ls k ≤ reserve s k)
    (hls : ls = pre ++ l :: post)
    (hstatus : s.settlement.instructionLegStatus id l.1 = .executionPending) :
    (unlockViaLeg l.2 (uncheckedReleaseLocks id pre s)).1 = .ok () := by
  subst hls
  have hdue : ∀ k, dueOf (s.settlement.instructionLegStatus id) (pre ++ l :: post) k =
      dueOf (s.settlement.instructionLegStatus id) pre k + (l.2.claim k +
        dueOf (s.settlement.instructionLegStatus id) post k) := fun k => by
    simp [dueOf, hstatus]
  refine unlockViaLeg_succeeds (hchain l (by simp) hstatus) fun k => ?_
  have hcover' : ∀ k, dueOf (s.settlement.instructionLegStatus id) pre k ≤ reserve s k := fun k => by
    have hk := hcover k
    rw [hdue] at hk
    omega
  have hpre := uncheckedReleaseLocks_reserve (fun l hl => hchain l (List.mem_append_left _ hl))
    hcover' k
  have hk := hcover k
  rw [hdue] at hk
  omega

end Loops

/-! ## The claims of an instruction -/

namespace InstructionRecord

variable {r : InstructionRecord} {portfolios : List PortfolioId}

/-- The legs of a record with their ids. -/
def legList (r : InstructionRecord) : List (LegId × Leg) := r.legs.entries.map fun e => (e.1, e.2)

theorem mem_legList : l ∈ r.legList ↔ r.legs.lookup l.1 = some l.2 := by
  rw [← Option.mem_def, AList.mem_lookup_iff]
  simp only [legList, List.mem_map]
  constructor
  · rintro ⟨e, he, rfl⟩
    exact he
  · exact fun h => ⟨⟨l.1, l.2⟩, h, rfl⟩

theorem claim_of_offChain (h : leg.isOffChain) (k : LockKey) : leg.claim k = 0 := by
  cases leg with
  | offChain => rfl
  | fungible | nonFungible => cases h

theorem exists_sender (h : leg.isOffChain = false) : ∃ p, leg.sender? = some p := by
  cases leg with
  | offChain => cases h
  | fungible sender | nonFungible sender => exact ⟨sender, rfl⟩

theorem dueOf_add {status' : LegId → LegStatus} (ls : List (LegId × Leg)) {P : Leg → Bool}
    {k : LockKey} (h : ∀ l ∈ ls, (if status' l.1 = .executionPending then l.2.claim k else 0) =
      (if status l.1 = .executionPending then l.2.claim k else 0) +
        if P l.2 then l.2.claim k else 0) :
    dueOf status' ls k = dueOf status ls k +
      ((ls.filter fun l => P l.2).map fun l => l.2.claim k).sum := by
  have hfilter := List.sum_map_ite (fun l : LegId × Leg => P l.2 = true) (fun l => l.2.claim k)
    (fun _ => 0) ls
  simp only [List.map_const', List.sum_replicate, nsmul_zero, add_zero, Bool.decide_eq_true]
    at hfilter
  rw [← hfilter, dueOf, dueOf, ← List.sum_map_add]
  exact congrArg List.sum (List.map_congr_left h)

/-- The claims of the legs that the portfolios send. -/
def sent (r : InstructionRecord) (portfolios : List PortfolioId) (k : LockKey) : ℕ :=
  ((r.legList.filter fun l => FilteredLegs.isSender portfolios l.2).map fun l => l.2.claim k).sum

theorem sent_perm (h : r.legList.Perm ls) (portfolios : List PortfolioId) (k : LockKey) :
    r.sent portfolios k =
      ((ls.filter fun l => FilteredLegs.isSender portfolios l.2).map fun l => l.2.claim k).sum :=
  ((h.filter _).map _).sum_eq

theorem dueOf_sends {status' : LegId → LegStatus}
    (h : ∀ l leg p, r.legs.lookup l = some leg → leg.sender? = some p →
      if p ∈ portfolios then status' l = .executionPending ∧ status l ≠ .executionPending
      else status' l = status l) (k : LockKey) :
    dueOf status' r.legList k = dueOf status r.legList k + r.sent portfolios k := by
  refine dueOf_add r.legList fun l hl => ?_
  by_cases hoff : l.2.isOffChain
  · simp [claim_of_offChain hoff]
  · obtain ⟨p, hp⟩ := exists_sender (by simpa using hoff)
    have hstatus := h l.1 l.2 p (mem_legList.mp hl) hp
    by_cases hmem : p ∈ portfolios
    · simp_all [FilteredLegs.isSender]
    · simp_all [FilteredLegs.isSender]

/-- **To affirm adds the claims of what is sent.** -/
theorem due_affirm (hr : r.Valid) (hpending : ∀ p ∈ portfolios, r.userAffirmations p = .pending)
    (k : LockKey) : (r.affirm portfolios).due k = r.due k + r.sent portfolios k := by
  refine dueOf_sends (r := r) (fun l leg p hl hp => ?_) k
  have hstatus := hr.sender l leg p hl hp
  simp only [affirm, sends_of_sender hl hp]
  split <;> simp_all

/-- **To withdraw takes the claims of what is sent away.** -/
theorem due_withdraw (hr : r.Valid)
    (haffirmed : ∀ p ∈ portfolios, r.userAffirmations p = .affirmed) (k : LockKey) :
    r.due k = (r.withdraw portfolios).due k + r.sent portfolios k := by
  refine dueOf_sends (r := r) (fun l leg p hl hp => ?_) k
  have hstatus := hr.sender l leg p hl hp
  simp only [withdraw, sends_of_sender hl hp]
  split <;> simp_all

theorem due_claim {l : LegId} (hl : r.legs.lookup l = some leg) (hoff : leg.isOffChain)
    (signer : AccountId) (uid : ℕ) (k : LockKey) : (r.claim l signer uid).due k = r.due k := by
  refine congrArg List.sum (List.map_congr_left fun l' hl' => ?_)
  have hl' : r.legs.lookup l'.1 = some l'.2 := mem_legList.mp hl'
  by_cases heq : l'.1 = l
  · rw [heq, hl] at hl'
    cases hl'
    simp [claim_of_offChain hoff]
  · simp [claim, heq]

theorem due_claimAll {receipts : List ReceiptDetails}
    (h : ∀ x ∈ receipts, ∃ leg, r.legs.lookup x.legId = some leg ∧ leg.isOffChain) (k : LockKey) :
    (r.claimAll receipts).due k = r.due k := by
  induction receipts generalizing r with
  | nil => rfl
  | cons x xs ih =>
    obtain ⟨leg, hl, hoff⟩ := h x List.mem_cons_self
    have hrest : ∀ y ∈ xs, ∃ leg, (r.claim x.legId x.signer x.uid).legs.lookup y.legId =
        some leg ∧ leg.isOffChain := fun y hy => h y (List.mem_cons_of_mem x hy)
    rw [claimAll_cons, ih hrest, due_claim hl hoff x.signer x.uid k]

theorem due_added (details : Instruction) (legs : List Leg) (info : InstructionInfo)
    (k : LockKey) : (added details legs info).due k = 0 := by
  simp [due, dueOf, added, Function.comp_def]

theorem due_blank (status : InstructionStatus) (k : LockKey) : (blank status).due k = 0 := rfl

end InstructionRecord

end Polymesh
