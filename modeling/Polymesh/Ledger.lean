import Polymesh.Library.Bookkeeping
import Polymesh.Effects.Steps

/-!
# Conservation of fungible assets

Every asset is a book of three levels: its supply, the balance of every identity, and the
balances of the portfolios of every identity. The pallets change the levels by separate writes,
some of which saturate or wrap; every effect amounts to a credit, a debit or a move of the book,
so the levels agree in every state of the chain and no write loses a token.
-/

open scoped BigOperators

namespace Polymesh

open Transactional Collections Bookkeeping Relation
open Function (eq_update_iff update update_eq_self_iff update_of_ne update_self)
open Portfolio (setLocked setPortfolioBalance uncheckedMoveNft uncheckedTransferPortfolioBalance)
open Asset (setBalanceOf setToken totalSupply writeTransfer)
open Book (credit debit ext move)

/-- The three levels at which the holdings of an asset are recorded. -/
def book (s : Storage) (t : Ticker) : Book IdentityId PortfolioKind where
  supply := totalSupply t s
  total := s.asset.balanceOf t
  holding := fun did kind => s.portfolio.portfolioAssetBalances ⟨did, kind⟩ t

/-! ## The number of assets of a portfolio -/

/-- The number of assets of every portfolio is the number of its balances that are not zero, and
only valid tickers have such balances. -/
structure CountsAssets (p : PortfolioStorage) : Prop where
  count : ∀ pid, p.portfolioAssetCount pid =
    (Finset.univ.filter fun t => p.portfolioAssetBalances pid t ≠ 0).card
  valid : ∀ pid t, p.portfolioAssetBalances pid t ≠ 0 → t.Valid

theorem transitionAssetCount_eq {f : Ticker → ℕ} {t : Ticker} {v : ℕ}
    (hvalid : ∀ t', update f t v t' ≠ 0 → t'.Valid) :
    Portfolio.transitionAssetCount (f t) v (Finset.univ.filter fun t => f t ≠ 0).card =
      (Finset.univ.filter fun t' => update f t v t' ≠ 0).card := by
  have h := card_filter_update (· ≠ 0) f t v
  have hle := card_le_validTickers hvalid
  have hlt : validTickers < 2 ^ 64 := by decide
  unfold Portfolio.transitionAssetCount saturatingAdd
  split_ifs at h ⊢ <;> omega

variable {p : PortfolioStorage} {s s' : Storage} {token : SecurityToken}

theorem CountsAssets.setPortfolioBalance (h : CountsAssets p) (pid : PortfolioId) (t : Ticker)
    (v : ℕ) (hv : v ≠ 0 → t.Valid) :
    CountsAssets (setPortfolioBalance pid t v p) := by
  have hvalid : ∀ pid' t', update₂ p.portfolioAssetBalances pid t v pid' t' ≠ 0 → t'.Valid := by
    intro pid' t' hne
    rw [update₂_apply] at hne
    split_ifs at hne with heq
    · exact heq.2 ▸ hv hne
    · exact h.valid pid' t' hne
  refine ⟨fun pid' => ?_, hvalid⟩
  by_cases hpid : pid' = pid
  · subst hpid
    simp only [Portfolio.setPortfolioBalance, update_self, update₂]
    rw [h.count pid', transitionAssetCount_eq]
    exact fun t' => by simpa only [update₂, update_self] using hvalid pid' t'
  · simp only [Portfolio.setPortfolioBalance, update_of_ne hpid, update₂_of_ne_left _ hpid]
    exact h.count pid'

theorem CountsAssets.balance_eq_zero (h : CountsAssets p) {pid : PortfolioId}
    (hcount : p.portfolioAssetCount pid = 0) (t : Ticker) :
    p.portfolioAssetBalances pid t = 0 := by
  rw [h.count pid, Finset.card_eq_zero, Finset.filter_eq_empty_iff] at hcount
  simpa using hcount (Finset.mem_univ t)

/-! ## The invariant -/

/-- The levels of every book agree and bound the locks. -/
structure LedgerInv (s : Storage) : Prop where
  balanced : ∀ t, (book s t).Balanced
  supply_le : ∀ t, totalSupply t s ≤ maxSupply
  counts : CountsAssets s.portfolio
  locked_le : ∀ p t,
    s.portfolio.portfolioLockedAssets p t ≤ s.portfolio.portfolioAssetBalances p t
  valid : TickersValid s

/-- The fungible holdings are the same. -/
structure SameFungible (s s' : Storage) : Prop where
  supply : ∀ t, totalSupply t s' = totalSupply t s := by intro; rfl
  balanceOf : s'.asset.balanceOf = s.asset.balanceOf := by rfl
  count : s'.portfolio.portfolioAssetCount = s.portfolio.portfolioAssetCount := by rfl
  balances : s'.portfolio.portfolioAssetBalances = s.portfolio.portfolioAssetBalances := by rfl
  locked : s'.portfolio.portfolioLockedAssets = s.portfolio.portfolioLockedAssets := by rfl
  valid : TickersValid s → TickersValid s'

theorem SameHoldings.sameFungible (h : SameHoldings s s') : SameFungible s s' :=
  ⟨h.supply, h.balanceOf, h.count, h.balances, h.locked, h.valid⟩

theorem SameFungible.of_eq (h : s'.holdings = s.holdings) : SameFungible s s' :=
  (SameHoldings.of_eq h).sameFungible

theorem sameFungible_moveNfts (p q : PortfolioId) (xs : List (Ticker × NFTId)) (s : Storage) :
    SameFungible s (xs.foldl (uncheckedMoveNft p q) s) := by
  induction xs generalizing s with
  | nil => exact ⟨fun _ => rfl, rfl, rfl, rfl, rfl, id⟩
  | cons x xs ih =>
    obtain ⟨h₁, h₂, h₃, h₄, h₅, h₆⟩ := ih (uncheckedMoveNft p q s x)
    exact ⟨h₁, h₂, h₃, h₄, h₅, h₆⟩

theorem sameFungible_transferNfts (p q : PortfolioId) (nfts : NFTs) (s : Storage) :
    SameFungible s (NFT.unverifiedNftsTransfer p q nfts s) := by
  obtain ⟨h₁, h₂, h₃, h₄, h₅, h₆⟩ := sameFungible_moveNfts p q nfts.tokens
    (s.mapNFT (NFT.transferCounts p.did q.did nfts))
  exact ⟨h₁, h₂, h₃, h₄, h₅, h₆⟩

theorem LedgerInv.of_same (hs : LedgerInv s) (h : SameFungible s s') :
    LedgerInv s' := by
  have hbook : book s' = book s := by
    funext t
    simp [book, h.supply, h.balanceOf, h.balances]
  refine ⟨fun t => ?_, fun t => ?_, ⟨fun p => ?_, fun p t => ?_⟩, fun p t => ?_, h.valid hs.valid⟩
  · rw [hbook]
    exact hs.balanced t
  · rw [h.supply]
    exact hs.supply_le t
  · rw [h.count, h.balances]
    exact hs.counts.count p
  · rw [h.balances]
    exact hs.counts.valid p t
  · rw [h.locked, h.balances]
    exact hs.locked_le p t

/-! ## Effects on the books -/

theorem maxSupply_lt : maxSupply < 2 ^ 128 := by decide

section Books

variable {p q : PortfolioId} {t : Ticker} {v : ℕ}

theorem holding_update₂ (m : PortfolioId → Ticker → ℕ) (p : PortfolioId) (t : Ticker) (v : ℕ) :
    (fun did kind => update₂ m p t v ⟨did, kind⟩ t) =
      update₂ (fun did kind => m ⟨did, kind⟩ t) p.did p.kind v := by
  funext did kind
  simp [update₂_apply, PortfolioId.ext_iff]

theorem LedgerInv.balanceOf_le (hs : LedgerInv s) (t : Ticker) (did : IdentityId) :
    s.asset.balanceOf t did ≤ maxSupply :=
  ((hs.balanced t).total_le_supply did).trans (hs.supply_le t)

theorem LedgerInv.balance_le_balanceOf (hs : LedgerInv s) (p : PortfolioId) (t : Ticker) :
    s.portfolio.portfolioAssetBalances p t ≤ s.asset.balanceOf t p.did :=
  (hs.balanced t).holding_le_total p.did p.kind

theorem LedgerInv.balance_le_supply (hs : LedgerInv s) (p : PortfolioId) (t : Ticker) :
    s.portfolio.portfolioAssetBalances p t ≤ totalSupply t s :=
  (hs.balanced t).holding_le_supply p.did p.kind

/-- Two portfolios hold together at most the supply, so no addition saturates. -/
theorem LedgerInv.balance_add_le (hs : LedgerInv s) (hne : p ≠ q)
    (hv : v ≤ s.portfolio.portfolioAssetBalances p t) :
    s.portfolio.portfolioAssetBalances q t + v ≤ balanceMax := by
  have hne' : (p.did, p.kind) ≠ (q.did, q.kind) := fun h =>
    hne (PortfolioId.ext (congrArg Prod.fst h) (congrArg Prod.snd h))
  have hsum : s.portfolio.portfolioAssetBalances p t + s.portfolio.portfolioAssetBalances q t ≤
      totalSupply t s :=
    (hs.balanced t).holding_add_holding_le p.did q.did p.kind q.kind hne'
  have hsupply := hs.supply_le t
  have hmax := maxSupply_lt
  unfold balanceMax
  omega

theorem totalSupply_of_some (h : s.asset.tokens t = some token) :
    totalSupply t s = token.totalSupply := by
  simp [totalSupply, h]

theorem book_writeMint (hs : LedgerInv s) (htoken : s.asset.tokens t = some token)
    (hmax : token.totalSupply + v ≤ maxSupply) :
    book (writeMint p t v token s) =
      update (book s) t ((book s t).credit p.did p.kind v) := by
  have hlt := maxSupply_lt
  have hsupply := totalSupply_of_some htoken
  have htotal := (hs.balanced t).total_le_supply p.did
  have hholding := hs.balance_le_supply p t
  simp only [book] at htotal
  have h₁ : wrapAdd 128 (s.asset.balanceOf t p.did) v = s.asset.balanceOf t p.did + v :=
    wrapAdd_eq (by omega)
  have h₂ : wrapAdd 128 (s.portfolio.portfolioAssetBalances p t) v =
      s.portfolio.portfolioAssetBalances p t + v := wrapAdd_eq (by omega)
  refine eq_update_iff.mpr ⟨ext ?_ ?_ ?_, fun t' ht => ext ?_ ?_ ?_⟩
  · simp [book, writeMint, totalSupply, setToken, credit, htoken]
  · simp [book, writeMint, setToken, setBalanceOf, credit, update₂, h₁]
  · simp only [book, writeMint, credit, Storage.mapAsset_portfolio,
      Storage.mapPortfolio_portfolio, setPortfolioBalance, h₂, holding_update₂]
  · simp [book, writeMint, totalSupply, setToken, setBalanceOf, ht]
  · simp [book, writeMint, setToken, setBalanceOf, update₂, ht]
  · simp [book, writeMint, setPortfolioBalance, update₂_apply, ht]

theorem book_writeRedeem (hs : LedgerInv s) (htoken : s.asset.tokens t = some token)
    (hv : v + s.portfolio.portfolioLockedAssets p t ≤ s.portfolio.portfolioAssetBalances p t) :
    book (writeRedeem p t v token s) =
      update (book s) t ((book s t).debit p.did p.kind v) := by
  have hlt := maxSupply_lt
  have htotal := hs.balanceOf_le t p.did
  have hholding := hs.balance_le_balanceOf p t
  have h₁ : wrapSub 128 (s.asset.balanceOf t p.did) v = s.asset.balanceOf t p.did - v :=
    wrapSub_eq (by omega) (by omega)
  refine eq_update_iff.mpr ⟨ext ?_ ?_ ?_, fun t' ht => ext ?_ ?_ ?_⟩
  · simp [book, writeRedeem, totalSupply, setToken, debit, htoken]
  · simp [book, writeRedeem, setToken, setBalanceOf, debit, update₂, h₁]
  · simp only [book, writeRedeem, debit, Storage.mapAsset_portfolio,
      Storage.mapPortfolio_portfolio, setPortfolioBalance, holding_update₂]
  · simp [book, writeRedeem, totalSupply, setToken, setBalanceOf, ht]
  · simp [book, writeRedeem, setToken, setBalanceOf, update₂, ht]
  · simp [book, writeRedeem, setPortfolioBalance, update₂_apply, ht]

theorem uncheckedTransfer_balances (hne : p ≠ q) {st : PortfolioStorage}
    (hmax : st.portfolioAssetBalances q t + v ≤ balanceMax) :
    (uncheckedTransferPortfolioBalance p q t v st).portfolioAssetBalances =
      update₂ (update₂ st.portfolioAssetBalances p t (st.portfolioAssetBalances p t - v)) q t
        (st.portfolioAssetBalances q t + v) := by
  simp only [uncheckedTransferPortfolioBalance, setPortfolioBalance]
  rw [update₂_of_ne_left _ hne.symm, satAdd_eq hmax]

theorem holding_transfer (hs : LedgerInv s) (hne : p ≠ q)
    (hv : v ≤ s.portfolio.portfolioAssetBalances p t) :
    (fun did kind => (uncheckedTransferPortfolioBalance p q t v
        s.portfolio).portfolioAssetBalances ⟨did, kind⟩ t) =
      ((book s t).move p.did p.kind q.did q.kind v).holding := by
  rw [uncheckedTransfer_balances hne (hs.balance_add_le hne hv), holding_update₂, holding_update₂]
  have hpq : ¬ (q.did = p.did ∧ q.kind = p.kind) := fun h => hne (PortfolioId.ext h.1.symm h.2.symm)
  simp only [move, credit, debit, book]
  congr 1
  rw [update₂_apply, if_neg hpq]

theorem holding_transfer_of_ne (p q : PortfolioId) {t' : Ticker} (ht : t' ≠ t) (v : ℕ)
    (pid : PortfolioId) (st : PortfolioStorage) :
    (uncheckedTransferPortfolioBalance p q t v st).portfolioAssetBalances pid t' =
      st.portfolioAssetBalances pid t' := by
  simp [uncheckedTransferPortfolioBalance, setPortfolioBalance, update₂_apply,
    ht]

theorem book_writeTransfer (hs : LedgerInv s) (hdid : p.did ≠ q.did)
    (hv : v ≤ s.portfolio.portfolioAssetBalances p t) :
    book (writeTransfer p q t v (s.asset.balanceOf t p.did - v)
        (s.asset.balanceOf t q.did + v) s) =
      update (book s) t ((book s t).move p.did p.kind q.did q.kind v) := by
  have hne : p ≠ q := fun h => hdid (congrArg PortfolioId.did h)
  have hsupply := hs.balance_le_supply p t
  refine eq_update_iff.mpr ⟨ext ?_ ?_ ?_, fun t' ht => ext rfl ?_ ?_⟩
  · change totalSupply t s = totalSupply t s - v + v
    omega
  · simp [book, writeTransfer, setBalanceOf, move, credit, debit,
      update₂, hdid.symm]
  · have h := holding_transfer hs hne hv
    exact h
  · simp [book, writeTransfer, setBalanceOf, update₂, ht]
  · funext did kind
    exact holding_transfer_of_ne p q ht v ⟨did, kind⟩ s.portfolio

theorem book_move (hs : LedgerInv s) (hne : p ≠ q) (hdid : p.did = q.did)
    (hv : v ≤ s.portfolio.portfolioAssetBalances p t) :
    book (s.mapPortfolio (uncheckedTransferPortfolioBalance p q t v)) =
      update (book s) t ((book s t).move p.did p.kind q.did q.kind v) := by
  have hsupply := hs.balance_le_supply p t
  have htotal := hs.balance_le_balanceOf p t
  refine eq_update_iff.mpr ⟨ext ?_ ?_ ?_, fun t' ht => ext rfl rfl ?_⟩
  · change totalSupply t s = totalSupply t s - v + v
    omega
  · have hback : s.asset.balanceOf t q.did - v + v = s.asset.balanceOf t q.did := by
      rw [← hdid]
      omega
    simp [book, move, credit, debit, hdid, hback]
  · exact holding_transfer hs hne hv
  · funext did kind
    exact holding_transfer_of_ne p q ht v ⟨did, kind⟩ s.portfolio

end Books

/-! ## Effects keep the invariant -/

section Effects

variable {p q : PortfolioId} {t : Ticker} {v : ℕ}

theorem LedgerInv.of_book {b : Book IdentityId PortfolioKind} (hs : LedgerInv s)
    (hbook : book s' = update (book s) t b) (hbalanced : b.Balanced)
    (hsupply : b.supply ≤ maxSupply) (hcounts : CountsAssets s'.portfolio) (hlocked : ∀ p t,
      s'.portfolio.portfolioLockedAssets p t ≤ s'.portfolio.portfolioAssetBalances p t)
    (hvalid : TickersValid s') : LedgerInv s' := by
  have hall : ∀ t', (book s' t').Balanced ∧ (book s' t').supply ≤ maxSupply := by
    intro t'
    rw [hbook]
    by_cases ht : t' = t
    · subst ht
      rw [update_self]
      exact ⟨hbalanced, hsupply⟩
    · rw [update_of_ne ht]
      exact ⟨hs.balanced t', hs.supply_le t'⟩
  exact ⟨fun t' => (hall t').1, fun t' => (hall t').2, hcounts, hlocked, hvalid⟩

theorem TickersValid.setToken {token' : SecurityToken} (hs : TickersValid s)
    (htoken : s.asset.tokens t = some token) (hknown : s'.asset.tickers = s.asset.tickers)
    (htokens : s'.asset.tokens = update s.asset.tokens t (some token')) : TickersValid s' := by
  refine Asset.tickersValid_update (Asset.valid_of_token htoken) (fun t' ht' => ?_) (fun t' _ => ?_) hs
  · rw [htokens, update_of_ne ht']
  · rw [hknown]

theorem LedgerInv.mint (hs : LedgerInv s) (htoken : s.asset.tokens t = some token)
    (hmax : token.totalSupply + v ≤ maxSupply) :
    LedgerInv (writeMint p t v token s) := by
  refine hs.of_book (book_writeMint hs htoken hmax) ((hs.balanced t).credit _ _ v) ?_
    (hs.counts.setPortfolioBalance p t _ fun _ => Asset.valid_of_token htoken hs.valid)
    (fun p' t' => ?_) (hs.valid.setToken htoken rfl rfl)
  · change totalSupply t s + v ≤ maxSupply
    rwa [totalSupply_of_some htoken]
  · have hgrow : s.portfolio.portfolioAssetBalances p' t' ≤
        (book (writeMint p t v token s) t').holding p'.did p'.kind := by
      rw [book_writeMint hs htoken hmax]
      by_cases ht : t' = t
      · subst ht
        rw [update_self]
        simp only [credit, update₂_apply, book]
        split_ifs with h
        · rw [← h.1, ← h.2]
          exact Nat.le_add_right _ v
        · exact le_rfl
      · rw [update_of_ne ht]
        exact le_rfl
    exact (hs.locked_le p' t').trans hgrow

theorem LedgerInv.redeem (hs : LedgerInv s) (htoken : s.asset.tokens t = some token)
    (hv : v + s.portfolio.portfolioLockedAssets p t ≤ s.portfolio.portfolioAssetBalances p t) :
    LedgerInv (writeRedeem p t v token s) := by
  have hsupply := hs.supply_le t
  refine hs.of_book (book_writeRedeem hs htoken hv) ((hs.balanced t).debit ?_) ?_
    (hs.counts.setPortfolioBalance p t _ fun _ => Asset.valid_of_token htoken hs.valid)
    (fun p' t' => ?_) (hs.valid.setToken htoken rfl rfl)
  · change v ≤ s.portfolio.portfolioAssetBalances p t
    omega
  · change totalSupply t s - v ≤ maxSupply
    omega
  · have hlocked := hs.locked_le p' t'
    simp only [writeRedeem, Storage.mapAsset_portfolio, Storage.mapPortfolio_portfolio,
      setPortfolioBalance, update₂_apply]
    split_ifs with h
    · rw [h.1, h.2]
      omega
    · exact hlocked

theorem LedgerInv.locked_transfer (hs : LedgerInv s) (hne : p ≠ q) (hv : v ≤ freeBalance p t s)
    (p' : PortfolioId) (t' : Ticker) :
    s.portfolio.portfolioLockedAssets p' t' ≤
      (uncheckedTransferPortfolioBalance p q t v
        s.portfolio).portfolioAssetBalances p' t' := by
  have hlocked := hs.locked_le p' t'
  have hmax := hs.balance_add_le hne (hv.trans (Nat.sub_le _ _))
  rw [uncheckedTransfer_balances hne hmax, update₂_apply, update₂_apply]
  unfold freeBalance at hv
  split_ifs with hq hp
  · rw [hq.1, hq.2] at hlocked ⊢
    omega
  · rw [hp.1, hp.2] at hlocked ⊢
    omega
  · exact hlocked

theorem LedgerInv.of_book_move (hs : LedgerInv s) (hne : p ≠ q) (hv : v ≤ freeBalance p t s)
    (hportfolio : s'.portfolio = uncheckedTransferPortfolioBalance p q t v s.portfolio)
    (hbook : v ≤ s.portfolio.portfolioAssetBalances p t →
      book s' = update (book s) t ((book s t).move p.did p.kind q.did q.kind v))
    (hvalid : TickersValid s') : LedgerInv s' := by
  have hbalance : v ≤ s.portfolio.portfolioAssetBalances p t := hv.trans (Nat.sub_le _ _)
  have hmove := (hs.balanced t).move (o := p.did) (k := p.kind) hbalance q.did q.kind
  have hsupply := hs.supply_le t
  have hle := hs.balance_le_supply p t
  -- whoever receives something has it from a portfolio with a balance
  have hp : s.portfolio.portfolioAssetBalances p t - v ≠ 0 → t.Valid := fun h =>
    hs.counts.valid p t fun hzero => h (by rw [hzero, Nat.zero_sub])
  have hq : satAdd (update₂ s.portfolio.portfolioAssetBalances p t
      (s.portfolio.portfolioAssetBalances p t - v) q t) v ≠ 0 → t.Valid := by
    rw [update₂_of_ne_left _ hne.symm]
    intro h
    by_contra hnot
    have hpzero := not_imp_not.mpr (hs.counts.valid p t) hnot
    have hqzero := not_imp_not.mpr (hs.counts.valid q t) hnot
    rw [not_not] at hpzero hqzero
    rw [hpzero] at hbalance
    simp [hqzero, Nat.le_zero.mp hbalance, satAdd] at h
  refine hs.of_book (hbook hbalance) hmove ?_ ?_ ?_ hvalid
  · change totalSupply t s - v + v ≤ maxSupply
    omega
  · exact hportfolio ▸ (hs.counts.setPortfolioBalance p t _ hp).setPortfolioBalance q t _ hq
  · exact hportfolio ▸ hs.locked_transfer hne hv

theorem LedgerInv.transfer (hs : LedgerInv s) (hdid : p.did ≠ q.did)
    (hv : v ≤ freeBalance p t s) :
    LedgerInv (writeTransfer p q t v (s.asset.balanceOf t p.did - v)
      (s.asset.balanceOf t q.did + v) s) :=
  hs.of_book_move (fun h => hdid (congrArg PortfolioId.did h)) hv rfl (book_writeTransfer hs hdid)
    hs.valid

theorem LedgerInv.move (hs : LedgerInv s) (hne : p ≠ q) (hdid : p.did = q.did)
    (hv : v ≤ freeBalance p t s) :
    LedgerInv (s.mapPortfolio (uncheckedTransferPortfolioBalance p q t v)) :=
  hs.of_book_move hne hv rfl (book_move hs hne hdid) hs.valid

theorem LedgerInv.sameFungible_delete (hs : LedgerInv s) {did : IdentityId}
    {num : PortfolioNumber}
    (hcount : s.portfolio.portfolioAssetCount (.userPortfolio did num) = 0)
    (name : PortfolioName) (holder : IdentityId) :
    SameFungible s (s.mapPortfolio (Portfolio.removePortfolio did num name holder)) := by
  refine ⟨fun _ => rfl, rfl, ?_, ?_, ?_, id⟩
  · exact update_eq_self_iff.mpr hcount.symm
  · refine update_eq_self_iff.mpr (funext fun t => ?_)
    exact (hs.counts.balance_eq_zero hcount t).symm
  · refine update_eq_self_iff.mpr (funext fun t => ?_)
    have h := hs.locked_le (.userPortfolio did num) t
    rw [hs.counts.balance_eq_zero hcount t] at h
    exact (Nat.le_zero.mp h).symm

theorem LedgerInv.writeStatistics (hs : LedgerInv s) (env : Env) (t : Ticker)
    (ch : Statistics.Change) : LedgerInv (writeStatistics env t ch s) :=
  hs.of_same (.of_eq rfl)

variable {f : Footprint}

theorem Movement.ledgerInv (h : Movement f s s') (hs : LedgerInv s) : LedgerInv s' := by
  cases h with
  | other h => exact hs.of_same h.sameFungible
  | checkpoint => exact hs.of_same (.of_eq rfl)
  | mint env p t v token _ htoken hmax => exact (hs.mint htoken hmax).writeStatistics env t _
  | redeem env p t v token _ htoken _ hv => exact (hs.redeem htoken hv).writeStatistics env t _
  | transfer env p q t v _ hdid _ hv => exact (hs.transfer hdid hv).writeStatistics env t _
  | move p q t v hne hdid hv => exact hs.move hne hdid hv
  | delete did num name holder _ hcount =>
    exact hs.of_same (hs.sameFungible_delete hcount name holder)
  | newCollection | issueNft => exact hs.of_same ⟨fun _ => rfl, rfl, rfl, rfl, rfl, id⟩
  | transferNfts p q nfts => exact hs.of_same (sameFungible_transferNfts p q nfts s)
  | moveNft => exact hs.of_same ⟨fun _ => rfl, rfl, rfl, rfl, rfl, id⟩

theorem LedgerInv.setLocked (hs : LedgerInv s) {locked : ℕ}
    (h : locked ≤ s.portfolio.portfolioAssetBalances p t) :
    LedgerInv (s.mapPortfolio (setLocked p t locked)) where
  balanced := hs.balanced
  supply_le := hs.supply_le
  counts := ⟨hs.counts.count, hs.counts.valid⟩
  valid := hs.valid
  locked_le p' t' := by
    simp only [Storage.mapPortfolio_portfolio, Portfolio.setLocked, update₂_apply]
    split_ifs with heq
    · rwa [heq.1, heq.2]
    · exact hs.locked_le p' t'

/-- **Every effect keeps the ledger in order.** -/
theorem Effect.ledgerInv (h : Effect f s s') (hs : LedgerInv s) :
    LedgerInv s' := by
  cases h with
  | record h => exact hs.of_same h.sameFungible
  | movement h => exact h.ledgerInv hs
  | lock p t v hv =>
    refine hs.setLocked ((min_le_left _ _).trans ?_)
    have hlocked := hs.locked_le p t
    unfold freeBalance at hv
    omega
  | unlock p t v hv => exact hs.setLocked ((Nat.sub_le _ _).trans (hs.locked_le p t))
  | lockNft | unlockNft => exact hs.of_same ⟨fun _ => rfl, rfl, rfl, rfl, rfl, id⟩

theorem Effects.ledgerInv (h : Effects s s') (hs : LedgerInv s) :
    LedgerInv s' := by
  induction h with
  | refl => exact hs
  | tail _ h ih => exact h.ledgerInv ih

end Effects

/-! ## Runs -/

theorem genesis_ledgerInv : LedgerInv genesis where
  balanced t := ⟨by simp [book, genesis, totalSupply], fun did => by simp [book, genesis]⟩
  supply_le t := Nat.zero_le _
  counts := ⟨fun p => by simp [genesis], fun _ _ h => absurd rfl h⟩
  locked_le p t := le_rfl
  valid := nofun

theorem step_ledgerInv (a : Action) (hs : LedgerInv s) : LedgerInv (step a s) := by
  rcases step_effects a s with h | ⟨p, x, -, -, h⟩
  · exact h.ledgerInv hs
  · rw [h]
    exact hs.of_same ⟨fun _ => rfl, rfl, rfl, rfl, rfl, id⟩

/-- **The ledger is in order in every state of the chain.** -/
theorem reachable_ledgerInv (h : Reachable s) : LedgerInv s :=
  h.invariant LedgerInv genesis_ledgerInv fun _ a hs => step_ledgerInv a hs

/-- **Conservation of fungible assets.** In every state of the chain, and in every state `s₁`
that a call passes through between two effects, the supply of an asset is the sum of the
balances of all identities and the balance of an identity is the sum over its portfolios. So the
additions of an issuance do not overflow, the addition of a transfer does not saturate, and the
subtraction of a redemption does not underflow. -/
theorem fungible_conservation {s s₁ : Storage} (hs : Reachable s) (h : Effects s s₁)
    (t : Ticker) :
    (∀ token, s₁.asset.tokens t = some token →
      token.totalSupply = ∑ did, s₁.asset.balanceOf t did) ∧
    (∀ did, s₁.asset.balanceOf t did =
      ∑ kind, s₁.portfolio.portfolioAssetBalances ⟨did, kind⟩ t) ∧
    (∀ token p v, s₁.asset.tokens t = some token → token.totalSupply + v ≤ maxSupply →
      wrapAdd 128 (s₁.asset.balanceOf t p.did) v = s₁.asset.balanceOf t p.did + v ∧
      wrapAdd 128 (s₁.portfolio.portfolioAssetBalances p t) v =
        s₁.portfolio.portfolioAssetBalances p t + v) ∧
    (∀ p q v, p ≠ q → v ≤ freeBalance p t s₁ →
      v ≤ s₁.portfolio.portfolioAssetBalances p t ∧
      satAdd (s₁.portfolio.portfolioAssetBalances q t) v =
        s₁.portfolio.portfolioAssetBalances q t + v) ∧
    ∀ p v s₂, Portfolio.reducePortfolioBalance p t v s₁ = (.ok (), s₂) →
      v ≤ s₂.asset.balanceOf t p.did ∧
      wrapSub 128 (s₂.asset.balanceOf t p.did) v = s₂.asset.balanceOf t p.did - v := by
  have hinv : LedgerInv s₁ := h.ledgerInv (reachable_ledgerInv hs)
  have hlt := maxSupply_lt
  refine ⟨fun token htoken => ?_, (hinv.balanced t).total_eq, fun token p v htoken hmax => ?_,
    fun p q v hne hv => ?_, fun p v s₂ hred => ?_⟩
  · rw [← totalSupply_of_some htoken]
    exact (hinv.balanced t).supply_eq.symm
  · have hsupply := totalSupply_of_some htoken
    have htotal := (hinv.balanced t).total_le_supply p.did
    have hholding := hinv.balance_le_supply p t
    simp only [book] at htotal
    exact ⟨wrapAdd_eq (by omega), wrapAdd_eq (by omega)⟩
  · have hbalance : v ≤ s₁.portfolio.portfolioAssetBalances p t := hv.trans (Nat.sub_le _ _)
    exact ⟨hbalance, satAdd_eq (hinv.balance_add_le hne hbalance)⟩
  · simp [Portfolio.reducePortfolioBalance] at hred
    obtain ⟨⟨hv, -⟩, rfl⟩ := hred
    have hle := hv.trans (hinv.balance_le_balanceOf p t)
    have htotal := hinv.balanceOf_le t p.did
    exact ⟨hle, wrapSub_eq (lt_of_le_of_lt htotal hlt) hle⟩

/-- An asset of a thousand tokens, ten of which are moved to a new portfolio. -/
theorem fungible_conservation_issued :
    let run := TransitionSystem.run step genesis
      [.calls 1 (.createAsset ⟨1⟩ true .equityCommon), .calls 1 (.issue ⟨1⟩ 1000 .default),
        .calls 1 (.createPortfolio "savings"),
        .calls 1 (.movePortfolioFunds (.defaultPortfolio ⟨1⟩) (.userPortfolio ⟨1⟩ ⟨1⟩)
          [.fungible ⟨1⟩ 10])]
    1000 = ∑ did, run.asset.balanceOf ⟨1⟩ did ∧
      run.portfolio.portfolioAssetBalances (.userPortfolio ⟨1⟩ ⟨1⟩) ⟨1⟩ = 10 ∧
      satAdd (run.portfolio.portfolioAssetBalances (.userPortfolio ⟨1⟩ ⟨1⟩) ⟨1⟩) 7 = 17 := by
  intro run
  have hrun : Reachable run := ⟨_, rfl⟩
  obtain ⟨hsupply, -, -, htransfer, -⟩ := fungible_conservation hrun .refl ⟨1⟩
  refine ⟨hsupply ⟨1000, ⟨1⟩, true, .equityCommon⟩ (by rfl), by rfl, ?_⟩
  exact (htransfer (.defaultPortfolio ⟨1⟩) (.userPortfolio ⟨1⟩ ⟨1⟩) 7 (by decide)
    (by decide +kernel)).2

end Polymesh
