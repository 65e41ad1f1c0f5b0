import Polymesh.Library.Bookkeeping
import Polymesh.Effects.Steps

/-!
# Coherence of non-fungible tokens

The owner of a token is stored by token and by portfolio, and tokens are counted by identity and
by collection. The four records agree in every state of the chain, and a token is locked in at
most one portfolio.
-/

open scoped BigOperators

namespace Polymesh

open Transactional Tx Collections Bookkeeping Relation
open Function (update update_apply update_of_ne update_self)
open TransitionSystem (run)
open Portfolio (insertLockedNFT insertNFT movePortfolioOwner removeLockedNFT removeNFT uncheckedMoveNft)
open ExternalAgents (agentPermissioned)

/-! ## Who has what -/

/-- The token has been issued: its number is not above the last one of its collection. -/
def Issued (n : NFTStorage) (x : Ticker × NFTId) : Prop :=
  ∃ c, n.collectionTicker x.1 = some c ∧ x.2.id ≤ (n.nextNFTId c).id

/-- The two records of the owner agree. A locked token is owned by the portfolio it is locked
in, unless it has been redeemed; it is locked in one portfolio only. -/
structure TokensInv (s : Storage) : Prop where
  held_iff : ∀ p x, x ∈ s.portfolio.portfolioNFT p ↔ s.nft.nftOwner x.1 x.2 = some p
  issued : ∀ x, s.nft.nftOwner x.1 x.2 ≠ none → Issued s.nft x
  locked_owned : ∀ p x, x ∈ s.portfolio.portfolioLockedNFT p →
    s.nft.nftOwner x.1 x.2 = some p ∨ s.nft.nftOwner x.1 x.2 = none ∧ Issued s.nft x
  locked_unique : ∀ p q x, x ∈ s.portfolio.portfolioLockedNFT p →
    x ∈ s.portfolio.portfolioLockedNFT q → p = q

/-- The number of tokens of a ticker that an identity owns. -/
def ownedCount (owner : NFTId → Option PortfolioId) (did : IdentityId) : ℕ :=
  (Finset.univ.filter fun n => (owner n).map PortfolioId.did = some did).card

/-- The counts by identity and by collection agree with the owners, and fit their type. -/
structure CountsTokens (n : NFTStorage) : Prop where
  count_eq : ∀ t did, n.numberOfNFTs t did = ownedCount (n.nftOwner t) did
  total_eq : ∀ t, n.nftsInCollection t = ∑ did, n.numberOfNFTs t did
  count_lt : ∀ t did, n.numberOfNFTs t did < 2 ^ 64

/-- The records of the tokens are in order. -/
structure NFTInv (s : Storage) : Prop where
  tokens : TokensInv s
  counts : CountsTokens s.nft

theorem ownedCount_update (owner : NFTId → Option PortfolioId) (n : NFTId)
    (p : Option PortfolioId) (did : IdentityId) :
    ownedCount (update owner n p) did +
        (if (owner n).map PortfolioId.did = some did then 1 else 0) =
      ownedCount owner did + if p.map PortfolioId.did = some did then 1 else 0 :=
  card_filter_update (fun o : Option PortfolioId => o.map PortfolioId.did = some did) owner n p

/-! ## Changes elsewhere -/

/-- The records of the tokens are the same. -/
structure SameTokens (s s' : Storage) : Prop where
  held : s'.portfolio.portfolioNFT = s.portfolio.portfolioNFT := by rfl
  lockedNFT : s'.portfolio.portfolioLockedNFT = s.portfolio.portfolioLockedNFT := by rfl
  nft : s'.nft = s.nft := by rfl

variable {s s' : Storage} {ticker : Ticker} {nfts : NFTs}

theorem NFTInv.of_same (hs : NFTInv s) (h : SameTokens s s') : NFTInv s' := by
  refine ⟨⟨?_, ?_, ?_, ?_⟩, ?_⟩
  · rw [h.held, h.nft]
    exact hs.tokens.held_iff
  · rw [h.nft]
    exact hs.tokens.issued
  · rw [h.lockedNFT, h.nft]
    exact hs.tokens.locked_owned
  · rw [h.lockedNFT]
    exact hs.tokens.locked_unique
  · rw [h.nft]
    exact hs.counts

/-! ## Locks -/

section Steps

variable {p q : PortfolioId} {x : Ticker × NFTId}

variable {st : PortfolioStorage} {p' : PortfolioId} {x' : Ticker × NFTId}

theorem mem_insertLockedNFT :
    x' ∈ (insertLockedNFT p x st).portfolioLockedNFT p' ↔
      (p' = p ∧ x' = x) ∨ x' ∈ st.portfolioLockedNFT p' := by
  by_cases hp : p' = p
  · subst hp
    simp [insertLockedNFT]
  · simp [insertLockedNFT, hp]

theorem mem_removeLockedNFT :
    x' ∈ (removeLockedNFT p x st).portfolioLockedNFT p' ↔
      ¬ (p' = p ∧ x' = x) ∧ x' ∈ st.portfolioLockedNFT p' := by
  by_cases hp : p' = p
  · subst hp
    simp [removeLockedNFT]
  · simp [removeLockedNFT, hp]

theorem TokensInv.lock (hs : TokensInv s) (hheld : x ∈ s.portfolio.portfolioNFT p) :
    TokensInv (s.mapPortfolio (insertLockedNFT p x)) := by
  have howner := (hs.held_iff p x).mp hheld
  -- a lock elsewhere would make another portfolio the owner
  have helse : ∀ q, x ∈ s.portfolio.portfolioLockedNFT q → q = p := by
    intro q hq
    rcases hs.locked_owned q x hq with h | ⟨h, -⟩
    · rw [howner] at h
      exact (Option.some.inj h).symm
    · rw [howner] at h
      cases h
  refine ⟨hs.held_iff, hs.issued, fun q y hy => ?_, fun q r y hq hr => ?_⟩
  · rcases mem_insertLockedNFT.mp hy with ⟨rfl, rfl⟩ | hy
    · exact .inl howner
    · exact hs.locked_owned q y hy
  · rcases mem_insertLockedNFT.mp hq with ⟨rfl, rfl⟩ | hq'
    · rcases mem_insertLockedNFT.mp hr with ⟨rfl, -⟩ | hr'
      · rfl
      · exact (helse r hr').symm
    · rcases mem_insertLockedNFT.mp hr with ⟨rfl, rfl⟩ | hr'
      · exact helse q hq'
      · exact hs.locked_unique q r y hq' hr'

theorem TokensInv.unlock (hs : TokensInv s) :
    TokensInv (s.mapPortfolio (removeLockedNFT p x)) := by
  refine ⟨hs.held_iff, hs.issued, fun q y hy => ?_, fun q r y hq hr => ?_⟩
  · exact hs.locked_owned q y (mem_removeLockedNFT.mp hy).2
  · exact hs.locked_unique q r y (mem_removeLockedNFT.mp hq).2 (mem_removeLockedNFT.mp hr).2

/-! ## Owners -/

theorem mem_insertNFT :
    x' ∈ (insertNFT p x st).portfolioNFT p' ↔
      (p' = p ∧ x' = x) ∨ x' ∈ st.portfolioNFT p' := by
  by_cases hp : p' = p
  · subst hp
    simp [insertNFT]
  · simp [insertNFT, hp]

theorem mem_removeNFT :
    x' ∈ (removeNFT p x st).portfolioNFT p' ↔
      ¬ (p' = p ∧ x' = x) ∧ x' ∈ st.portfolioNFT p' := by
  by_cases hp : p' = p
  · subst hp
    simp [removeNFT]
  · simp [removeNFT, hp]

theorem TokensInv.not_locked (hs : TokensInv s) (hheld : x ∈ s.portfolio.portfolioNFT p)
    (hfree : x ∉ s.portfolio.portfolioLockedNFT p) (q : PortfolioId) :
    x ∉ s.portfolio.portfolioLockedNFT q := by
  intro hq
  have howner := (hs.held_iff p x).mp hheld
  rcases hs.locked_owned q x hq with h | ⟨h, -⟩
  · rw [howner] at h
    cases h
    exact hfree hq
  · rw [howner] at h
    cases h

theorem owner_update (owner : Ticker → NFTId → Option PortfolioId) (x y : Ticker × NFTId)
    (o : Option PortfolioId) :
    update₂ owner x.1 x.2 o y.1 y.2 = if y = x then o else owner y.1 y.2 := by
  simp [update₂_apply, Prod.ext_iff]

theorem TokensInv.moveNft (hs : TokensInv s)
    (hheld : x ∈ s.portfolio.portfolioNFT p ∨ x ∈ s.portfolio.portfolioNFT q)
    (hfree : x ∉ s.portfolio.portfolioLockedNFT p) :
    TokensInv (uncheckedMoveNft p q s x) := by
  have howner : s.nft.nftOwner x.1 x.2 = some p ∨ s.nft.nftOwner x.1 x.2 = some q :=
    hheld.imp (hs.held_iff p x).mp (hs.held_iff q x).mp
  refine ⟨fun r y => ?_, fun y hy => ?_, fun r y hy => ?_, hs.locked_unique⟩
  · change y ∈ (insertNFT q x (removeNFT p x s.portfolio)).portfolioNFT r ↔
      update₂ s.nft.nftOwner x.1 x.2 (some q) y.1 y.2 = some r
    rw [mem_insertNFT, mem_removeNFT, owner_update, hs.held_iff]
    by_cases hyx : y = x
    · subst hyx
      rcases howner with h | h <;> simp [h] <;> grind
    · simp [hyx]
  · change update₂ s.nft.nftOwner x.1 x.2 (some q) y.1 y.2 ≠ none at hy
    rw [owner_update] at hy
    by_cases hyx : y = x
    · subst hyx
      exact hs.issued y (by rcases howner with h | h <;> simp [h])
    · exact hs.issued y (by simpa [hyx] using hy)
  · change update₂ s.nft.nftOwner x.1 x.2 (some q) y.1 y.2 = some r ∨
      update₂ s.nft.nftOwner x.1 x.2 (some q) y.1 y.2 = none ∧ Issued s.nft y
    rw [owner_update]
    by_cases hyx : y = x
    · subst hyx
      -- the only portfolio in which the token may be locked is the receiver
      have hrq : r = q := by
        rcases hs.locked_owned r y hy with h | ⟨h, -⟩
        · rcases howner with h' | h'
          · rw [h'] at h
            cases h
            exact absurd hy hfree
          · rw [h'] at h
            cases h
            rfl
        · rcases howner with h' | h' <;> rw [h'] at h <;> cases h
      simp [hrq]
    · simpa [hyx] using hs.locked_owned r y hy

theorem TokensInv.moveNfts (hs : TokensInv s) (ticker : Ticker) (ids : List NFTId)
    (h : Portfolio.Movable p q s (.nonFungible ⟨ticker, ids⟩)) :
    TokensInv ((NFTs.tokens ⟨ticker, ids⟩).foldl (uncheckedMoveNft p q) s) := by
  induction ids generalizing s with
  | nil => exact hs
  | cons id ids ih =>
    have hx := h (ticker, id) List.mem_cons_self
    have hids : Portfolio.Movable p q s (.nonFungible ⟨ticker, ids⟩) :=
      fun y hy => h y (List.mem_cons_of_mem _ hy)
    exact ih (hs.moveNft hx.1 hx.2) (hids.uncheckedMoveNft (ticker, id))

end Steps

/-! ## Counts -/

section Counts

variable {p q : PortfolioId}

theorem moveNfts_counters (p q : PortfolioId) (xs : List (Ticker × NFTId)) (s : Storage) :
    (xs.foldl (uncheckedMoveNft p q) s).nft.numberOfNFTs = s.nft.numberOfNFTs ∧
      (xs.foldl (uncheckedMoveNft p q) s).nft.nftsInCollection =
        s.nft.nftsInCollection := by
  induction xs generalizing s with
  | nil => exact ⟨rfl, rfl⟩
  | cons x xs ih => exact ih (uncheckedMoveNft p q s x)

theorem ownedCount_moveNfts (q : PortfolioId) {ids : List NFTId} (hnodup : ids.Nodup)
    (howner : ∀ n ∈ ids, s.nft.nftOwner ticker n = some p) (t : Ticker) (did : IdentityId) :
    ownedCount (((NFTs.tokens ⟨ticker, ids⟩).foldl (uncheckedMoveNft p q)
        s).nft.nftOwner t) did + (if t = ticker ∧ did = p.did then ids.length else 0) =
      ownedCount (s.nft.nftOwner t) did + if t = ticker ∧ did = q.did then ids.length else 0 := by
  induction ids generalizing s with
  | nil => simp [NFTs.tokens]
  | cons n ids ih =>
    obtain ⟨hn, hnodup⟩ := List.nodup_cons.mp hnodup
    have hfirst := ownedCount_update (s.nft.nftOwner ticker) n (some q) did
    rw [howner n List.mem_cons_self] at hfirst
    have hrest := ih (s := uncheckedMoveNft p q s (ticker, n)) hnodup fun m hm => by
      have hmn : m ≠ n := fun h => hn (h ▸ hm)
      simpa [uncheckedMoveNft, movePortfolioOwner, update₂, hmn] using
        howner m (List.mem_cons_of_mem _ hm)
    simp only [NFTs.tokens, List.map_cons, List.foldl_cons, List.length_cons] at hrest ⊢
    by_cases ht : t = ticker
    · subst ht
      have hstep : (uncheckedMoveNft p q s (t, n)).nft.nftOwner t =
          update (s.nft.nftOwner t) n (some q) := by
        simp [uncheckedMoveNft, movePortfolioOwner, update₂]
      rw [hstep] at hrest
      simp only [true_and, Option.map_some, Option.some.injEq, eq_comm (b := did)] at hfirst hrest ⊢
      split_ifs at hfirst hrest ⊢ <;> omega
    · have hstep : (uncheckedMoveNft p q s (ticker, n)).nft.nftOwner t =
          s.nft.nftOwner t := by
        simp [uncheckedMoveNft, movePortfolioOwner, update₂, ht]
      rw [hstep] at hrest
      simpa [ht] using hrest

theorem transferCounts_eq {n : NFTStorage} {sender receiver : IdentityId} (hn : CountsTokens n)
    (hlen : nfts.ids.length ≤ n.numberOfNFTs nfts.ticker sender)
    (hlt : n.numberOfNFTs nfts.ticker receiver + nfts.ids.length < 2 ^ 64) :
    (NFT.transferCounts sender receiver nfts n).numberOfNFTs =
      update n.numberOfNFTs nfts.ticker
        (shift (n.numberOfNFTs nfts.ticker) sender receiver nfts.ids.length) := by
  have hsub := wrapSub_eq (hn.count_lt _ _) hlen
  have hadd : update (n.numberOfNFTs nfts.ticker) sender
      (n.numberOfNFTs nfts.ticker sender - nfts.ids.length) receiver + nfts.ids.length < 2 ^ 64 := by
    have hsender := hn.count_lt nfts.ticker sender
    rw [update_apply]
    split_ifs <;> omega
  simp only [NFT.transferCounts, NFT.setNumberOfNFTs, update₂, update_self, hsub,
    wrapAdd_eq hadd, Function.update_idem]
  rfl

theorem CountsTokens.transfer (hn : CountsTokens s.nft) (hnodup : nfts.ids.Nodup)
    (hlen : nfts.ids.length ≤ s.nft.numberOfNFTs nfts.ticker p.did)
    (hlt : s.nft.numberOfNFTs nfts.ticker q.did + nfts.ids.length < 2 ^ 64)
    (howner : ∀ n ∈ nfts.ids, s.nft.nftOwner nfts.ticker n = some p) :
    CountsTokens (NFT.unverifiedNftsTransfer p q nfts s).nft := by
  obtain ⟨hnumber, htotal⟩ := moveNfts_counters p q nfts.tokens
    (s.mapNFT (NFT.transferCounts p.did q.did nfts))
  have hnumber : (NFT.unverifiedNftsTransfer p q nfts s).nft.numberOfNFTs =
      update s.nft.numberOfNFTs nfts.ticker
        (shift (s.nft.numberOfNFTs nfts.ticker) p.did q.did nfts.ids.length) :=
    hnumber.trans (transferCounts_eq hn hlen hlt)
  have hshift : ∀ did, shift (s.nft.numberOfNFTs nfts.ticker) p.did q.did nfts.ids.length did +
      (if did = p.did then nfts.ids.length else 0) =
        s.nft.numberOfNFTs nfts.ticker did + if did = q.did then nfts.ids.length else 0 :=
    shift_add hlen
  refine ⟨fun t did => ?_, fun t => ?_, fun t did => ?_⟩
  · have howned := ownedCount_moveNfts (s := s.mapNFT (NFT.transferCounts p.did q.did nfts)) q
      hnodup howner t did
    change ownedCount ((NFT.unverifiedNftsTransfer p q nfts s).nft.nftOwner t) did + _ =
      ownedCount (s.nft.nftOwner t) did + _ at howned
    rw [hnumber, update_apply]
    rw [← hn.count_eq t did] at howned
    by_cases ht : t = nfts.ticker
    · have hshift := hshift did
      subst ht
      simp only [true_and, if_true] at howned ⊢
      omega
    · simpa [ht] using howned.symm
  · rw [hnumber]
    rw [show (NFT.unverifiedNftsTransfer p q nfts s).nft.nftsInCollection =
      s.nft.nftsInCollection from htotal, hn.total_eq t]
    by_cases ht : t = nfts.ticker
    · subst ht
      rw [update_self, sum_shift q.did hlen]
    · rw [update_of_ne ht]
  · rw [hnumber, update_apply]
    have hshift := hshift did
    have hdid := hn.count_lt nfts.ticker did
    split_ifs
    · split_ifs at hshift with hp hq hq
      · omega
      · omega
      · subst hq
        omega
      · omega
    · exact hn.count_lt t did

theorem ownedCount_setNFTOwner (owner : Ticker → NFTId → Option PortfolioId)
    (x : Ticker × NFTId) (o : Option PortfolioId) (t : Ticker) (did : IdentityId) :
    ownedCount (update₂ owner x.1 x.2 o t) did +
        (if t = x.1 ∧ (owner x.1 x.2).map PortfolioId.did = some did then 1 else 0) =
      ownedCount (owner t) did +
        if t = x.1 ∧ o.map PortfolioId.did = some did then 1 else 0 := by
  by_cases ht : t = x.1
  · subst ht
    simpa [update₂] using ownedCount_update (owner x.1) x.2 o did
  · simp [update₂_of_ne_left _ ht, ht]

variable {x : Ticker × NFTId}

theorem CountsTokens.issue (hn : CountsTokens s.nft) (c : NFTCollectionId)
    (hnone : s.nft.nftOwner x.1 x.2 = none) (hlt : s.nft.numberOfNFTs x.1 p.did + 1 < 2 ^ 64) :
    CountsTokens (NFT.writeIssue x c p (s.nft.nftsInCollection x.1 + 1)
      (s.nft.numberOfNFTs x.1 p.did + 1) s).nft := by
  refine ⟨fun t did => ?_, fun t => ?_, fun t did => ?_⟩
  · change update₂ s.nft.numberOfNFTs x.1 p.did (s.nft.numberOfNFTs x.1 p.did + 1) t did =
      ownedCount (update₂ s.nft.nftOwner x.1 x.2 (some p) t) did
    have howned := ownedCount_setNFTOwner s.nft.nftOwner x (some p) t did
    have hcount := hn.count_eq t did
    simp only [hnone, Option.map_none, Option.map_some, Option.some.injEq, reduceCtorEq, and_false,
      if_false] at howned
    rw [update₂_apply]
    by_cases h : t = x.1 ∧ did = p.did
    · obtain ⟨rfl, rfl⟩ := h
      simp at howned ⊢
      omega
    · have h' : ¬ (t = x.1 ∧ p.did = did) := fun h' => h ⟨h'.1, h'.2.symm⟩
      simp only [h, h', if_false] at howned ⊢
      omega
  · change update s.nft.nftsInCollection x.1 (s.nft.nftsInCollection x.1 + 1) t =
      ∑ did, update₂ s.nft.numberOfNFTs x.1 p.did (s.nft.numberOfNFTs x.1 p.did + 1) t did
    by_cases ht : t = x.1
    · subst ht
      simp only [update₂, update_self]
      rw [sum_update_increase, hn.total_eq]
    · rw [update_of_ne ht, update₂_of_ne_left _ ht, hn.total_eq]
  · change update₂ s.nft.numberOfNFTs x.1 p.did (s.nft.numberOfNFTs x.1 p.did + 1) t did < _
    rw [update₂_apply]
    split_ifs
    · exact hlt
    · exact hn.count_lt t did

theorem CountsTokens.redeem (hn : CountsTokens s.nft) (howner : s.nft.nftOwner x.1 x.2 = some p) :
    CountsTokens (NFT.writeRedeem x p (s.nft.nftsInCollection x.1 - 1)
      (s.nft.numberOfNFTs x.1 p.did - 1) s).nft := by
  have howned : ∀ t did, ownedCount (update₂ s.nft.nftOwner x.1 x.2 none t) did +
      (if t = x.1 ∧ did = p.did then 1 else 0) = ownedCount (s.nft.nftOwner t) did := by
    intro t did
    simpa [howner, eq_comm] using ownedCount_setNFTOwner s.nft.nftOwner x none t did
  have hpos : 1 ≤ s.nft.numberOfNFTs x.1 p.did := by
    have h := howned x.1 p.did
    rw [hn.count_eq]
    simp at h
    omega
  refine ⟨fun t did => ?_, fun t => ?_, fun t did => ?_⟩
  · change update₂ s.nft.numberOfNFTs x.1 p.did (s.nft.numberOfNFTs x.1 p.did - 1) t did =
      ownedCount (update₂ s.nft.nftOwner x.1 x.2 none t) did
    have howned := howned t did
    have hcount := hn.count_eq t did
    rw [update₂_apply]
    split_ifs at howned ⊢ with h
    · obtain ⟨rfl, rfl⟩ := h
      omega
    · omega
  · change update s.nft.nftsInCollection x.1 (s.nft.nftsInCollection x.1 - 1) t =
      ∑ did, update₂ s.nft.numberOfNFTs x.1 p.did (s.nft.numberOfNFTs x.1 p.did - 1) t did
    by_cases ht : t = x.1
    · subst ht
      simp only [update₂, update_self]
      rw [sum_update_decrease _ _ hpos, hn.total_eq]
    · rw [update_of_ne ht, update₂_of_ne_left _ ht, hn.total_eq]
  · change update₂ s.nft.numberOfNFTs x.1 p.did (s.nft.numberOfNFTs x.1 p.did - 1) t did < _
    have hlt := hn.count_lt t did
    rw [update₂_apply]
    split_ifs with h
    · obtain ⟨rfl, rfl⟩ := h
      omega
    · exact hlt

theorem CountsTokens.moveNft (hn : CountsTokens s.nft)
    (hdid : (s.nft.nftOwner x.1 x.2).map PortfolioId.did = some q.did) :
    CountsTokens (uncheckedMoveNft p q s x).nft := by
  refine ⟨fun t did => ?_, hn.total_eq, hn.count_lt⟩
  change s.nft.numberOfNFTs t did = ownedCount (update₂ s.nft.nftOwner x.1 x.2 (some q) t) did
  have howned := ownedCount_setNFTOwner s.nft.nftOwner x (some q) t did
  rw [hdid, Option.map_some] at howned
  rw [hn.count_eq]
  omega

end Counts

/-! ## Effects keep the invariant -/

section Effects

variable {p q : PortfolioId} {x : Ticker × NFTId}

theorem TokensInv.newCollection (hs : TokensInv s) {t : Ticker} (c : NFTCollectionId)
    (keys : List AssetMetadataKey) (hnone : s.nft.collectionTicker t = none) :
    TokensInv (s.mapNFT (NFT.insertCollection t c keys)) := by
  have hissued : ∀ y, Issued s.nft y → Issued (NFT.insertCollection t c keys s.nft) y := by
    rintro y ⟨c', hc', hle⟩
    refine ⟨c', ?_, hle⟩
    have hne : y.1 ≠ t := by
      rintro rfl
      rw [hnone] at hc'
      cases hc'
    simpa [NFT.insertCollection, hne] using hc'
  exact ⟨hs.held_iff, fun y hy => hissued y (hs.issued y hy),
    fun r y hy => (hs.locked_owned r y hy).imp_right fun h => ⟨h.1, hissued y h.2⟩,
    hs.locked_unique⟩

variable {c : NFTCollectionId} {f : Footprint}

theorem not_issued_next (hc : s.nft.collectionTicker x.1 = some c)
    (hid : checkedInc (s.nft.nextNFTId c).id = some x.2.id) : ¬ Issued s.nft x := by
  rintro ⟨c', hc', hle⟩
  rw [hc] at hc'
  cases hc'
  have hval := checkedInc_val hid
  have hle : x.2.id.val ≤ (s.nft.nextNFTId c).id.val := hle
  omega

theorem TokensInv.issue (hs : TokensInv s) (supply count : ℕ)
    (hc : s.nft.collectionTicker x.1 = some c)
    (hid : checkedInc (s.nft.nextNFTId c).id = some x.2.id) :
    TokensInv (NFT.writeIssue x c p supply count s) := by
  have hnew := not_issued_next hc hid
  have hnone : s.nft.nftOwner x.1 x.2 = none := by
    by_contra h
    exact hnew (hs.issued x h)
  -- numbers only grow, and the new token has the last one
  have hissued : ∀ y, Issued s.nft y ∨ y = x →
      Issued (NFT.writeIssue x c p supply count s).nft y := by
    rintro y (⟨c', hc', hle⟩ | rfl)
    · refine ⟨c', hc', ?_⟩
      change y.2.id ≤ (update s.nft.nextNFTId c x.2 c').id
      by_cases hcc : c' = c
      · subst hcc
        have hval := checkedInc_val hid
        rw [update_self]
        exact hle.trans (Fin.le_def.mpr (by omega))
      · rwa [update_of_ne hcc]
    · refine ⟨c, hc, ?_⟩
      change y.2.id ≤ (update s.nft.nextNFTId c y.2 c).id
      rw [update_self]
  refine ⟨fun r y => ?_, fun y hy => ?_, fun r y hy => ?_, hs.locked_unique⟩
  · change y ∈ (insertNFT p x s.portfolio).portfolioNFT r ↔
      update₂ s.nft.nftOwner x.1 x.2 (some p) y.1 y.2 = some r
    rw [mem_insertNFT, owner_update, hs.held_iff]
    by_cases hyx : y = x
    · subst hyx
      simp [hnone, eq_comm]
    · simp [hyx]
  · change update₂ s.nft.nftOwner x.1 x.2 (some p) y.1 y.2 ≠ none at hy
    rw [owner_update] at hy
    by_cases hyx : y = x
    · exact hissued y (.inr hyx)
    · exact hissued y (.inl (hs.issued y (by simpa [hyx] using hy)))
  · change update₂ s.nft.nftOwner x.1 x.2 (some p) y.1 y.2 = some r ∨
      update₂ s.nft.nftOwner x.1 x.2 (some p) y.1 y.2 = none ∧ _
    rw [owner_update]
    have hyx : y ≠ x := by
      rintro rfl
      rcases hs.locked_owned r y hy with h | ⟨-, h⟩
      · rw [hnone] at h
        cases h
      · exact hnew h
    rcases hs.locked_owned r y hy with h | ⟨h, hi⟩
    · exact .inl (by simpa [hyx] using h)
    · exact .inr ⟨by simpa [hyx] using h, hissued y (.inl hi)⟩

theorem TokensInv.redeem (hs : TokensInv s) (supply count : ℕ)
    (hheld : x ∈ s.portfolio.portfolioNFT p) :
    TokensInv (NFT.writeRedeem x p supply count s) := by
  have howner := (hs.held_iff p x).mp hheld
  refine ⟨fun r y => ?_, fun y hy => ?_, fun r y hy => ?_, hs.locked_unique⟩
  · change y ∈ (removeNFT p x s.portfolio).portfolioNFT r ↔
      update₂ s.nft.nftOwner x.1 x.2 none y.1 y.2 = some r
    rw [mem_removeNFT, owner_update, hs.held_iff]
    by_cases hyx : y = x
    · subst hyx
      simp [howner, eq_comm]
    · simp [hyx]
  · change update₂ s.nft.nftOwner x.1 x.2 none y.1 y.2 ≠ none at hy
    rw [owner_update] at hy
    by_cases hyx : y = x
    · simp [hyx] at hy
    · exact hs.issued y (by simpa [hyx] using hy)
  · change update₂ s.nft.nftOwner x.1 x.2 none y.1 y.2 = some r ∨
      update₂ s.nft.nftOwner x.1 x.2 none y.1 y.2 = none ∧ Issued s.nft y
    rw [owner_update]
    by_cases hyx : y = x
    · subst hyx
      exact .inr ⟨by simp, hs.issued y (by simp [howner])⟩
    · simpa [hyx] using hs.locked_owned r y hy

theorem NFTInv.redeem (hs : NFTInv s) (hheld : x ∈ s.portfolio.portfolioNFT p) :
    NFTInv (NFT.writeRedeem x p (s.nft.nftsInCollection x.1 - 1)
      (s.nft.numberOfNFTs x.1 p.did - 1) s) :=
  ⟨hs.tokens.redeem _ _ hheld, hs.counts.redeem ((hs.tokens.held_iff p x).mp hheld)⟩

theorem NFTInv.transfer (hs : NFTInv s) (hnodup : nfts.ids.Nodup)
    (hlen : nfts.ids.length ≤ s.nft.numberOfNFTs nfts.ticker p.did)
    (hlt : s.nft.numberOfNFTs nfts.ticker q.did + nfts.ids.length < 2 ^ 64)
    (hheld : ∀ x ∈ nfts.tokens,
      x ∈ s.portfolio.portfolioNFT p ∧ x ∉ s.portfolio.portfolioLockedNFT p) :
    NFTInv (NFT.unverifiedNftsTransfer p q nfts s) := by
  have htokens : TokensInv (s.mapNFT (NFT.transferCounts p.did q.did nfts)) :=
    ⟨hs.tokens.held_iff, hs.tokens.issued, hs.tokens.locked_owned, hs.tokens.locked_unique⟩
  refine ⟨htokens.moveNfts nfts.ticker nfts.ids fun x hx => ?_, ?_⟩
  · exact ⟨.inl (hheld x hx).1, (hheld x hx).2⟩
  · refine hs.counts.transfer hnodup hlen hlt fun n hn => ?_
    exact (hs.tokens.held_iff p (nfts.ticker, n)).mp (hheld _ (List.mem_map_of_mem hn)).1

theorem Movement.nftInv (h : Movement f s s') (hs : NFTInv s) :
    NFTInv s' := by
  cases h with
  | other h => exact hs.of_same ⟨h.held, h.lockedNFT, h.nft⟩
  | checkpoint | mint | redeem | transfer | move | delete => exact hs.of_same ⟨rfl, rfl, rfl⟩
  | newCollection t c keys hnone =>
    have hcounts := hs.counts
    exact ⟨hs.tokens.newCollection c keys hnone,
      ⟨hcounts.count_eq, hcounts.total_eq, hcounts.count_lt⟩⟩
  | issueNft p x c hc hid hlt =>
    have hnone : s.nft.nftOwner x.1 x.2 = none := by
      by_contra h
      exact not_issued_next hc hid (hs.tokens.issued x h)
    exact ⟨hs.tokens.issue _ _ hc hid, hs.counts.issue c hnone hlt⟩
  | transferNfts p q nfts _ hnodup hlen hlt hheld => exact hs.transfer hnodup hlen hlt hheld
  | moveNft p q x _ hdid hheld hfree =>
    refine ⟨hs.tokens.moveNft hheld hfree, hs.counts.moveNft ?_⟩
    rcases hheld with h | h
    · rw [(hs.tokens.held_iff p x).mp h, Option.map_some, hdid]
    · rw [(hs.tokens.held_iff q x).mp h, Option.map_some]

/-- **Every effect keeps the records of the tokens in order.** -/
theorem Effect.nftInv (h : Effect f s s') (hs : NFTInv s) :
    NFTInv s' := by
  cases h with
  | record h => exact hs.of_same ⟨h.held, h.lockedNFT, h.nft⟩
  | movement h => exact h.nftInv hs
  | lock | unlock => exact hs.of_same ⟨rfl, rfl, rfl⟩
  | lockNft p x hheld _ => exact ⟨hs.tokens.lock hheld, hs.counts⟩
  | unlockNft p x => exact ⟨hs.tokens.unlock, hs.counts⟩

theorem Effects.nftInv (h : Effects s s') (hs : NFTInv s) : NFTInv s' := by
  induction h with
  | refl => exact hs
  | tail _ h ih => exact h.nftInv ih

end Effects

/-! ## Runs -/

theorem genesis_nftInv : NFTInv genesis where
  tokens := ⟨by simp [genesis], by simp [genesis], by simp [genesis], by simp [genesis]⟩
  counts := ⟨by simp [genesis, ownedCount], by simp [genesis], by simp [genesis]⟩

theorem step_nftInv (a : Action) (hs : NFTInv s) : NFTInv (step a s) := by
  rcases step_effects a s with h | ⟨p, x, -, hheld, h⟩
  · exact h.nftInv hs
  · rw [h]
    exact hs.redeem hheld

/-- **The records of the tokens are in order in every state of the chain.** -/
theorem reachable_nftInv (h : Reachable s) : NFTInv s :=
  h.invariant NFTInv genesis_nftInv fun _ a hs => step_nftInv a hs

/-- **Coherence of the token ledger.** In every state of the chain the two records of the owner
agree, the count of an identity is the number of tokens that its portfolios own, and the count of
a collection is the sum over all identities. -/
theorem nft_ledger_coherence {s : Storage} (hs : Reachable s) (t : Ticker) :
    (∀ n p, s.nft.nftOwner t n = some p ↔ (t, n) ∈ s.portfolio.portfolioNFT p) ∧
    (∀ did, s.nft.numberOfNFTs t did = ownedCount (s.nft.nftOwner t) did) ∧
    s.nft.nftsInCollection t = ∑ did, s.nft.numberOfNFTs t did := by
  have hinv := reachable_nftInv hs
  exact ⟨fun n p => (hinv.tokens.held_iff p (t, n)).symm, hinv.counts.count_eq t,
    hinv.counts.total_eq t⟩

/-- Two tokens, one of which is moved to another portfolio twice in one call. -/
theorem nft_ledger_coherence_moved :
    let run := run step genesis
      [.calls 1 (.createNftCollection ⟨1⟩ true []), .calls 1 (.issueNft ⟨1⟩ [] .default),
        .calls 1 (.issueNft ⟨1⟩ [] .default), .calls 1 (.createPortfolio "vault"),
        .calls 1 (.movePortfolioFunds (.defaultPortfolio ⟨1⟩) (.userPortfolio ⟨1⟩ ⟨1⟩)
          [.nonFungible ⟨⟨1⟩, [⟨2⟩, ⟨2⟩]⟩])]
    (⟨1⟩, ⟨2⟩) ∈ run.portfolio.portfolioNFT (.userPortfolio ⟨1⟩ ⟨1⟩) ∧
      2 = ownedCount (run.nft.nftOwner ⟨1⟩) ⟨1⟩ ∧
      2 = ∑ did, run.nft.numberOfNFTs ⟨1⟩ did := by
  intro run
  have hrun : Reachable run := ⟨_, rfl⟩
  obtain ⟨howner, hcount, htotal⟩ := nft_ledger_coherence hrun ⟨1⟩
  exact ⟨(howner ⟨2⟩ _).mp (by rfl), hcount ⟨1⟩, htotal⟩

/-! ## Forced transfers -/

theorem nftOwner_moveNfts (p q : PortfolioId) (xs : List (Ticker × NFTId)) (s : Storage)
    (y : Ticker × NFTId) :
    (xs.foldl (uncheckedMoveNft p q) s).nft.nftOwner y.1 y.2 =
      if y ∈ xs then some q else s.nft.nftOwner y.1 y.2 := by
  induction xs generalizing s with
  | nil => simp
  | cons x xs ih =>
    rw [List.foldl_cons, ih]
    change (if y ∈ xs then some q else update₂ s.nft.nftOwner x.1 x.2 (some q) y.1 y.2) = _
    rw [owner_update]
    by_cases hy : y ∈ xs <;> simp [hy]

theorem nftOwner_transfer (p q : PortfolioId) (nfts : NFTs) (s : Storage)
    (y : Ticker × NFTId) :
    (NFT.unverifiedNftsTransfer p q nfts s).nft.nftOwner y.1 y.2 =
      if y ∈ nfts.tokens then some q else s.nft.nftOwner y.1 y.2 :=
  nftOwner_moveNfts p q nfts.tokens (s.mapNFT (NFT.transferCounts p.did q.did nfts)) y

/-- **Authority of forced transfers.** The permission of the caller is checked for `ticker`. If
the tokens are of that collection, the caller is an agent of the collection. A caller who is an
agent of no other ticker is an agent of the collection only then; and the tokens that change hands
are all of the checked collection only then. -/
theorem controllerTransfer_authority {env : Env} {origin : RuntimeOrigin} {ticker : Ticker}
    {nfts : NFTs} {source : PortfolioId} {kind : PortfolioKind} {s s' : Storage} {u : Unit}
    {data : PermissionedCallOriginData} (hdata : env.ensureOriginCallPermissions origin = .ok data)
    (h : NFT.controllerTransfer env origin ticker nfts source kind s = (.ok u, s')) :
    (nfts.ticker = ticker →
      agentPermissioned env nfts.ticker data.primaryDid) ∧
    ((∀ t, t ≠ ticker → agentPermissioned env t data.primaryDid = false) →
      (agentPermissioned env nfts.ticker data.primaryDid ↔
        nfts.ticker = ticker)) ∧
    (Reachable s →
      ((∀ t n, s'.nft.nftOwner t n ≠ s.nft.nftOwner t n → t = ticker) ↔
        nfts.ticker = ticker)) := by
  simp [NFT.controllerTransfer, Asset.ensureOriginTickerAndPortfolioPermissions,
    ExternalAgents.ensureAgentAssetPerms, ExternalAgents.ensureAssetPerms,
    ExternalAgents.ensureAgentPermissioned, hdata] at h
  obtain ⟨⟨-, hagent, -⟩, ⟨_, hvalid⟩, rfl⟩ := h
  obtain ⟨hne, hpos, -, -, -, hheld⟩ := NFT.validateNftOwnership_ok env hvalid
  have hself : nfts.ticker = ticker →
      agentPermissioned env nfts.ticker data.primaryDid := fun heq => heq ▸ hagent
  refine ⟨hself, fun honly => ⟨fun hperm => ?_, hself⟩, fun hs => ⟨fun hchanged => ?_, ?_⟩⟩
  · by_contra hother
    rw [honly nfts.ticker hother] at hperm
    cases hperm
  · -- the first token goes from its owner to another portfolio
    obtain ⟨n, hn⟩ := List.exists_mem_of_length_pos hpos
    have hx : (nfts.ticker, n) ∈ nfts.tokens := List.mem_map_of_mem hn
    have howner := ((reachable_nftInv hs).tokens.held_iff source _).mp (hheld _ hx).1
    refine hchanged nfts.ticker n fun hsame => hne ?_
    have hnew := nftOwner_transfer source ⟨data.primaryDid, kind⟩ nfts s (nfts.ticker, n)
    rw [if_pos hx, hsame, howner] at hnew
    exact Option.some.inj hnew
  · rintro rfl t n hne
    have hnew := nftOwner_transfer source ⟨data.primaryDid, kind⟩ nfts s (t, n)
    split_ifs at hnew with hx
    · obtain ⟨m, -, hm⟩ := List.mem_map.mp hx
      exact (congrArg Prod.fst hm).symm
    · exact absurd hnew hne

/-- An agent takes a token of its own collection from one portfolio into another. -/
theorem controllerTransfer_authority_own :
    let s := run step genesis
      [.calls 1 (.createNftCollection ⟨1⟩ true []), .calls 1 (.createPortfolio "vault"),
        .calls 1 (.issueNft ⟨1⟩ [] (.user ⟨1⟩))]
    let outcome := NFT.controllerTransfer .consenting (.signed ⟨1⟩) ⟨1⟩ ⟨⟨1⟩, [⟨1⟩]⟩
      (.userPortfolio ⟨1⟩ ⟨1⟩) .default s
    outcome.1 = .ok () ∧ agentPermissioned .consenting ⟨1⟩ ⟨1⟩ ∧
      ∀ t n, outcome.2.nft.nftOwner t n ≠ s.nft.nftOwner t n → t = ⟨1⟩ := by
  intro s outcome
  have hs : Reachable s := ⟨_, rfl⟩
  have hdata : Env.consenting.ensureOriginCallPermissions (.signed ⟨1⟩) = .ok ⟨⟨1⟩, none⟩ := rfl
  have hok : outcome = (.ok (), outcome.2) := Prod.ext (by rfl) rfl
  obtain ⟨hagent, -, howner⟩ := controllerTransfer_authority hdata hok
  exact ⟨by rfl, hagent rfl, (howner hs).mpr rfl⟩

/-- An agent of ticker 1, and of no other, takes a token of the collection of identity 2. -/
theorem controllerTransfer_foreign_collection :
    let s := run step genesis
      [.calls 1 (.createAsset ⟨1⟩ true .equityCommon), .calls 2 (.createNftCollection ⟨2⟩ true []),
        .calls 2 (.issueNft ⟨2⟩ [] .default)]
    let outcome := NFT.controllerTransfer .consenting (.signed ⟨1⟩) ⟨1⟩ ⟨⟨2⟩, [⟨1⟩]⟩
      (.defaultPortfolio ⟨2⟩) .default s
    Reachable s ∧ Env.consenting.ensurePerms (.signed ⟨1⟩) = .ok ⟨1⟩ ∧ outcome.1 = .ok () ∧
      agentPermissioned .consenting ⟨2⟩ ⟨1⟩ = false ∧
      s.nft.nftOwner ⟨2⟩ ⟨1⟩ = some (.defaultPortfolio ⟨2⟩) ∧
      outcome.2.nft.nftOwner ⟨2⟩ ⟨1⟩ = some (.defaultPortfolio ⟨1⟩) :=
  ⟨⟨_, rfl⟩, rfl, rfl, rfl, rfl, rfl⟩

end Polymesh
