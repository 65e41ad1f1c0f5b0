import Polymesh.Locks.Cover
import Polymesh.Tokens

/-!
# Locks on tokens

A leg that waits for execution has locked its tokens. Transfers and moves leave a locked token
where it is, but a redemption does not ask whether the token is locked, and the lock outlives the
token. So a locked token is held by the portfolio that it is locked in as long as no locked token
is redeemed.
-/

namespace Polymesh

open Transactional Tx Collections Bookkeeping Settlement
open TransitionSystem (run)

/-- Every locked token is in the portfolio that it is locked in. -/
def LocksHeld (s : Storage) : Prop :=
  ∀ p x, x ∈ s.portfolio.portfolioLockedNFT p → x ∈ s.portfolio.portfolioNFT p

/-- The action redeems no token that is locked. -/
def RedeemsUnlocked (s : Storage) (a : Action) : Prop :=
  ∀ p x, a.redeems = some (p, x) → x ∉ s.portfolio.portfolioLockedNFT p

section Tokens

variable {s s' : Storage}

theorem TokensInv.locksHeld_iff (hs : TokensInv s) : LocksHeld s ↔
    ∀ p x, x ∈ s.portfolio.portfolioLockedNFT p → s.nft.nftOwner x.1 x.2 ≠ none := by
  refine forall_congr' fun p => forall_congr' fun x => imp_congr_right fun hlocked => ?_
  rw [hs.held_iff]
  constructor
  · intro howner hnone
    rw [howner] at hnone
    cases hnone
  · exact fun hsome => (hs.locked_owned p x hlocked).resolve_right fun h => hsome h.1

variable {f : Footprint} {x : Ticker × NFTId} {p : PortfolioId}

theorem Movement.lockedNFT_eq (h : Movement f s s') :
    s'.portfolio.portfolioLockedNFT = s.portfolio.portfolioLockedNFT := by
  cases h with
  | other h => exact h.lockedNFT
  | transferNfts p q nfts => exact moveNfts_lockedNFT p q nfts.tokens _
  | _ => rfl

theorem Movement.owner_ne_none (h : Movement f s s') (hx : s.nft.nftOwner x.1 x.2 ≠ none) :
    s'.nft.nftOwner x.1 x.2 ≠ none := by
  cases h with
  | other h => rwa [h.nft]
  | transferNfts p q nfts =>
    rw [nftOwner_transfer]
    split_ifs
    · exact Option.some_ne_none q
    · exact hx
  | issueNft p y c =>
    change update₂ s.nft.nftOwner y.1 y.2 (some p) x.1 x.2 ≠ none
    rw [owner_update]
    split_ifs
    · exact Option.some_ne_none p
    · exact hx
  | moveNft p q y =>
    change update₂ s.nft.nftOwner y.1 y.2 (some q) x.1 x.2 ≠ none
    rw [owner_update]
    split_ifs
    · exact Option.some_ne_none q
    · exact hx
  | _ => exact hx

theorem Effect.locksHeld (h : Effect f s s') (hs : NFTInv s) (hheld : LocksHeld s) :
    LocksHeld s' := by
  rw [(h.nftInv hs).tokens.locksHeld_iff]
  rw [hs.tokens.locksHeld_iff] at hheld
  intro p x hx
  cases h with
  | record h =>
    rw [h.nft]
    exact hheld p x (h.lockedNFT ▸ hx)
  | movement h => exact h.owner_ne_none (hheld p x (h.lockedNFT_eq ▸ hx))
  | lock | unlock => exact hheld p x hx
  | lockNft q y hy _ =>
    rcases mem_insertLockedNFT.mp hx with ⟨rfl, rfl⟩ | hx
    · -- a token is locked where it is held
      have howner := (hs.tokens.held_iff p x).mp hy
      exact fun hnone => Option.some_ne_none p (howner.symm.trans hnone)
    · exact hheld p x hx
  | unlockNft q y => exact hheld p x (mem_removeLockedNFT.mp hx).2

/-- **Nothing but a redemption separates a lock from its token.** -/
theorem Effects.locksHeld (h : Effects s s') (hs : NFTInv s) (hheld : LocksHeld s) :
    LocksHeld s' := by
  induction h with
  | refl => exact hheld
  | tail h heffect ih => exact heffect.locksHeld (Effects.nftInv h hs) ih

theorem locksHeld_writeRedeem (hs : NFTInv s) (hheld : LocksHeld s)
    (hx : x ∈ s.portfolio.portfolioNFT p) (supply count : ℕ) :
    LocksHeld (NFT.writeRedeem x p supply count s) ↔ x ∉ s.portfolio.portfolioLockedNFT p := by
  rw [(hs.tokens.redeem supply count hx).locksHeld_iff]
  change (∀ q y, y ∈ s.portfolio.portfolioLockedNFT q →
    update₂ s.nft.nftOwner x.1 x.2 none y.1 y.2 ≠ none) ↔ _
  constructor
  · intro h hlocked
    exact h p x hlocked (by rw [owner_update, if_pos rfl])
  · intro hfree q y hy
    rw [owner_update, if_neg]
    · exact hs.tokens.locksHeld_iff.mp hheld q y hy
    · rintro rfl
      exact hs.tokens.not_locked hx hfree q hy

/-- The tokens that a leg delivers. -/
def Leg.tokens : Leg → List (Ticker × NFTId)
  | .nonFungible _ _ nfts => nfts.tokens
  | .fungible .. | .offChain .. => []

theorem Leg.one_le_claim {leg : Leg} (hp : leg.sender? = some p) (hx : x ∈ leg.tokens) :
    1 ≤ leg.claim (p, .inr x) := by
  cases leg with
  | nonFungible sender receiver nfts =>
    cases hp
    exact List.countP_pos_iff.mpr ⟨x, hx, by simp⟩
  | fungible | offChain => cases hx

theorem mem_lockedNFT_iff :
    x ∈ s.portfolio.portfolioLockedNFT p ↔ 1 ≤ reserve s (p, .inr x) := by
  by_cases hx : x ∈ s.portfolio.portfolioLockedNFT p <;> simp [reserve, hx]

/-- **The tokens of a leg that waits for execution are locked in the portfolio of its sender.** -/
theorem locked_of_pending {id : InstructionId}
    (hcover : ∀ k, (s.settlement.instruction id).due k ≤ reserve s k) {l : LegId × Leg}
    (hl : l ∈ s.legs id) (hstatus : s.settlement.instructionLegStatus id l.1 = .executionPending)
    (hp : l.2.sender? = some p) (hx : x ∈ l.2.tokens) :
    x ∈ s.portfolio.portfolioLockedNFT p := by
  rw [mem_lockedNFT_iff]
  calc
    1 ≤ l.2.claim (p, .inr x) := Leg.one_le_claim hp hx
    _ ≤ dueOf (s.settlement.instructionLegStatus id) (s.legs id) (p, .inr x) :=
      claim_le_dueOf hl hstatus _
    _ ≤ reserve s (p, .inr x) := hcover _

end Tokens

/-! ## Runs -/

variable {s : Storage}

theorem step_locksHeld {a : Action} (hs : NFTInv s) (hheld : LocksHeld s)
    (ha : RedeemsUnlocked s a) : LocksHeld (step a s) := by
  rcases step_effects a s with h | ⟨p, x, hredeems, hx, h⟩
  · exact Effects.locksHeld h hs hheld
  · rw [h, locksHeld_writeRedeem hs hheld hx]
    exact ha p x hredeems

theorem reachableBy_locksHeld (h : ReachableBy RedeemsUnlocked s) : LocksHeld s := by
  have hinv : NFTInv s ∧ LocksHeld s :=
    h.invariant (fun s => NFTInv s ∧ LocksHeld s) ⟨genesis_nftInv, fun _ _ h => by cases h⟩
      fun s a hs ha => ⟨step_nftInv a hs.1, step_locksHeld hs.1 hs.2 ha⟩
  exact hinv.2

/-- **A locked token is held by the portfolio that it is locked in**, in every run that redeems no
locked token; so a token stays with the sender as long as a leg that sends it waits for execution.
The condition is exact: the redemption that ends such a run keeps the locks sound only if the token
is not locked. -/
theorem nft_locks_sound {s : Storage} (h : ReachableBy RedeemsUnlocked s) :
    (∀ p x, x ∈ s.portfolio.portfolioLockedNFT p → x ∈ s.portfolio.portfolioNFT p) ∧
      (∀ id l sender receiver nfts, (l, Leg.nonFungible sender receiver nfts) ∈ s.legs id →
        s.settlement.instructionLegStatus id l = .executionPending →
        ∀ x ∈ nfts.tokens,
          x ∈ s.portfolio.portfolioLockedNFT sender ∧ s.nft.nftOwner x.1 x.2 = some sender) ∧
      ∀ env origin ticker nftId kind s',
        NFT.redeemNft env origin ticker nftId kind s = (.ok (), s') →
        ((∀ p x, x ∈ s'.portfolio.portfolioLockedNFT p → x ∈ s'.portfolio.portfolioNFT p) ↔
          RedeemsUnlocked s (.extrinsic env origin (.redeemNft ticker nftId kind))) := by
  have hnft := reachable_nftInv h.reachable
  have hcover := fun id => (reachable_coverInv h.reachable).covered.claim_le (Claimant.instruction id)
  have hheld := reachableBy_locksHeld h
  refine ⟨hheld, fun id l sender receiver nfts hl hstatus x hx => ?_,
    fun env origin ticker nftId kind s' hredeem => ?_⟩
  · have hlocked := locked_of_pending (hcover id) hl hstatus rfl hx
    exact ⟨hlocked, (hnft.tokens.held_iff sender x).mp (hheld sender x hlocked)⟩
  · obtain ⟨p, hredeems, hx, rfl⟩ := NFT.redeemNft_ok hredeem
    refine (locksHeld_writeRedeem hnft hheld hx _ _).trans ⟨fun hfree q y hy => ?_, fun hfree => ?_⟩
    · rw [hredeems] at hy
      cases hy
      exact hfree
    · exact hfree p (ticker, nftId) hredeems

/-- Two tokens, the first of which its owner has affirmed to deliver. -/
def affirmedTokenRun : List Action :=
  [.calls 1 (.createNftCollection ⟨1⟩ true []), .calls 1 (.issueNft ⟨1⟩ [] .default),
    .calls 1 (.issueNft ⟨1⟩ [] .default), .calls 1 (.createVenue [] .other),
    .calls 1 (.addAndAffirmInstruction ⟨1⟩ .settleOnAffirmation none none
      [.nonFungible (.defaultPortfolio ⟨1⟩) (.defaultPortfolio ⟨2⟩) ⟨⟨1⟩, [⟨1⟩]⟩]
      [.defaultPortfolio ⟨1⟩] [])]

/-- The first token is locked and stays with its owner, the second one can be redeemed. -/
theorem nft_locks_sound_affirmed :
    let s := run step genesis affirmedTokenRun
    let outcome := NFT.redeemNft .consenting (.signed ⟨1⟩) ⟨1⟩ ⟨2⟩ .default s
    outcome.1 = .ok () ∧ (⟨1⟩, ⟨1⟩) ∈ s.portfolio.portfolioLockedNFT (.defaultPortfolio ⟨1⟩) ∧
      s.nft.nftOwner ⟨1⟩ ⟨1⟩ = some (.defaultPortfolio ⟨1⟩) ∧
      ∀ p x, x ∈ outcome.2.portfolio.portfolioLockedNFT p →
        x ∈ outcome.2.portfolio.portfolioNFT p := by
  intro s outcome
  have hrun : ReachableBy RedeemsUnlocked s := by
    refine ⟨affirmedTokenRun, ⟨?_, ?_, ?_, ?_, ?_, trivial⟩, rfl⟩ <;>
      exact fun _ _ h => by cases h
  obtain ⟨-, hlegs, hredeem⟩ := nft_locks_sound hrun
  obtain ⟨hlocked, howner⟩ := hlegs ⟨1⟩ 0 (.defaultPortfolio ⟨1⟩) (.defaultPortfolio ⟨2⟩)
    ⟨⟨1⟩, [⟨1⟩]⟩ (by decide +kernel) (by rfl) (⟨1⟩, ⟨1⟩) (by decide)
  have hfree : (⟨1⟩, ⟨2⟩) ∉ (run step genesis
      affirmedTokenRun).portfolio.portfolioLockedNFT (.defaultPortfolio ⟨1⟩) := by
    decide +kernel
  refine ⟨by rfl, hlocked, howner, (hredeem .consenting (.signed ⟨1⟩) ⟨1⟩ ⟨2⟩ .default outcome.2
    (by rfl)).mpr fun p x hx => ?_⟩
  cases hx
  exact hfree

/-- **A locked token can be redeemed**: the lock, and the leg that waits for execution, outlive
it. -/
theorem locked_nft_redeemed :
    let s := run step genesis
      (affirmedTokenRun ++ [.calls 1 (.redeemNft ⟨1⟩ ⟨1⟩ .default)])
    (⟨1⟩, ⟨1⟩) ∈ s.portfolio.portfolioLockedNFT (.defaultPortfolio ⟨1⟩) ∧
      (⟨1⟩, ⟨1⟩) ∉ s.portfolio.portfolioNFT (.defaultPortfolio ⟨1⟩) ∧
      s.nft.nftOwner ⟨1⟩ ⟨1⟩ = none ∧
      s.settlement.instructionLegStatus ⟨1⟩ 0 = .executionPending ∧
      s.settlement.instructionStatuses ⟨1⟩ = .pending := by
  refine ⟨?_, ?_, ?_, ?_, ?_⟩ <;> decide +kernel

end Polymesh
