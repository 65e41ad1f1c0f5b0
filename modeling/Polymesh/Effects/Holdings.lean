import Polymesh.Effects

/-!
# Calls that move holdings

The calls of the portfolio, asset and NFT pallets, and those that manage a venue, are
sequences of movements: they touch no lock, and no record of an instruction, a fundraiser or a
distribution.
-/

namespace Polymesh

open Transactional Tx Collections Relation

variable {f : Footprint}

variable {p sender receiver : PortfolioId} {s s' : Storage} {u : Unit} {ticker : Ticker}
  {nfts : NFTs}

namespace Portfolio

/-! ## Portfolio calls -/

variable (env : Env) (origin : RuntimeOrigin)

theorem ensurePortfolioValidity_eq_ok :
    ensurePortfolioValidity p s = .ok u ↔ PortfolioExists p s := by
  unfold ensurePortfolioValidity PortfolioExists
  cases p.kind <;> simp

variable {num : PortfolioNumber} {pid : PortfolioId} {funds : List FundDescription}
  {fund : FundDescription}

theorem exists_setName {did : IdentityId} {name : PortfolioName} (hp : PortfolioExists p s)
    (h : s'.portfolio.portfolios = update₂ s.portfolio.portfolios did num (some name)) :
    PortfolioExists p s' := by
  unfold PortfolioExists at hp ⊢
  split
  · trivial
  next num' hkind =>
    rw [hkind] at hp
    rw [h, update₂_apply]
    split
    · rfl
    · exact hp

theorem baseCreatePortfolio_movements (hf : .registry ∉ f.kept) (did : IdentityId)
    (name : PortfolioName) :
    Respects (MovementsIn f) (baseCreatePortfolio env did name) :=
  .read_bind fun _ => respects_modify_other (fun _ => .of_eq rfl) (fun _ => .of_eq rfl)
    fun _ => keeps_setRegistry hf (fun _ hp => exists_setName hp rfl) rfl

theorem deletePortfolio_ok (h : deletePortfolio env origin num s = (.ok u, s')) :
    ∃ did name holder, s.portfolio.portfolioAssetCount (.userPortfolio did num) = 0 ∧
      s.portfolio.portfolioNFT (.userPortfolio did num) = ∅ ∧
      s' = s.mapPortfolio (removePortfolio did num name holder) := by
  simp [deletePortfolio] at h
  obtain ⟨data, -, hcount, hnft, -, name, -, -, rfl⟩ := h
  exact ⟨data.primaryDid, name, _, hcount, hnft, rfl⟩

theorem deletePortfolio_movements (hf : .portfolios ∉ f.kept) (hcustody : .custody ∉ f.kept)
    (hregistry : .registry ∉ f.kept) (num : PortfolioNumber) : Respects (MovementsIn f) (deletePortfolio env origin num) := by
  intro s u s' h
  obtain ⟨did, name, holder, hcount, hnft, rfl⟩ := deletePortfolio_ok env origin h
  exact (Movement.delete did num name holder hf hcount hnft hcustody hregistry).movements

theorem acceptPortfolioCustody_movements (hf : .custody ∉ f.kept) (authId : ℕ) :
    Respects (MovementsIn f) (acceptPortfolioCustody env origin authId) := by
  refine .read_bind fun did => .read_bind fun ⟨authorizer, pid⟩ => .bind .get fun _ =>
    .ensure_bind fun _ => ?_
  by_cases h : pid.did = did
  · simp only [if_pos h]
    exact respects_modify_other (fun _ => .of_eq rfl) (fun _ => .of_eq rfl)
      fun _ => keeps_setCustody hf _ fun _ => rfl
  · simp only [if_neg h]
    exact respects_modify_other (fun _ => .of_eq rfl) (fun _ => .of_eq rfl)
      fun _ => keeps_setCustody hf _ fun _ => rfl

/-! ### Moving funds -/

/-- Whether a fund can still be moved. A token can also when it has been moved before. -/
def Movable (sender receiver : PortfolioId) (s : Storage) : FundDescription → Prop
  | .fungible ticker amount => amount ≤ freeBalance sender ticker s ∧ Granular ticker amount s
  | .nonFungible nfts => ∀ x ∈ nfts.tokens,
      (x ∈ s.portfolio.portfolioNFT sender ∨ x ∈ s.portfolio.portfolioNFT receiver) ∧
        x ∉ s.portfolio.portfolioLockedNFT sender

/-- Two funds of different fungible tickers. -/
def DifferentTickers : FundDescription → FundDescription → Prop
  | .fungible ticker _, .fungible ticker' _ => ticker ≠ ticker'
  | _, _ => True

theorem ensureSufficientBalance_ok {amount : ℕ}
    (h : ensureSufficientBalance pid ticker amount s = .ok u) :
    amount ≤ freeBalance pid ticker s ∧ Granular ticker amount s := by
  simp [ensureSufficientBalance, Asset.ensureGranular] at h
  exact ⟨h.2, h.1⟩

theorem ensureValidNfts_ok (h : ensureValidNfts pid nfts s = .ok u) :
    ∀ x ∈ nfts.tokens, x ∈ s.portfolio.portfolioNFT pid ∧
      x ∉ s.portfolio.portfolioLockedNFT pid := by
  intro x hx
  simpa using except_forM_eq_ok.mp h x hx

theorem ensureValidFunds_ok {seen : List Ticker}
    (h : ensureValidFunds sender s funds seen = .ok u) :
    (∀ fund ∈ funds, Movable sender receiver s fund) ∧ funds.Pairwise DifferentTickers ∧
      ∀ t ∈ seen, ∀ v, .fungible t v ∉ funds := by
  induction funds generalizing seen with
  | nil => simp
  | cons fund funds ih =>
    cases fund with
    | fungible ticker amount =>
      simp [ensureValidFunds] at h
      obtain ⟨-, hseen, ⟨_, hbalance⟩, hfunds⟩ := h
      obtain ⟨hmov, hpair, hnew⟩ := ih hfunds
      refine ⟨?_, ?_, ?_⟩
      · exact List.forall_mem_cons.mpr ⟨ensureSufficientBalance_ok hbalance, hmov⟩
      · refine List.pairwise_cons.mpr ⟨fun fund' hmem => ?_, hpair⟩
        cases fund' with
        | fungible ticker' amount' =>
          rintro rfl
          exact hnew ticker List.mem_cons_self amount' hmem
        | nonFungible nfts => trivial
      · intro t ht v hmem
        rcases List.mem_cons.mp hmem with heq | hmem
        · cases heq
          exact hseen ht
        · exact hnew t (List.mem_cons_of_mem _ ht) v hmem
    | nonFungible nfts =>
      simp [ensureValidFunds] at h
      obtain ⟨-, ⟨_, hnfts⟩, hfunds⟩ := h
      obtain ⟨hmov, hpair, hnew⟩ := ih hfunds
      refine ⟨?_, ?_, fun t ht v hmem => ?_⟩
      · refine List.forall_mem_cons.mpr ⟨fun x hx => ?_, hmov⟩
        have hx := ensureValidNfts_ok hnfts x hx
        exact ⟨.inl hx.1, hx.2⟩
      · exact List.pairwise_cons.mpr ⟨fun fund' _ => by cases fund' <;> trivial, hpair⟩
      · rcases List.mem_cons.mp hmem with heq | hmem
        · cases heq
        · exact hnew t ht v hmem

theorem Movable.uncheckedMoveNft (h : Movable sender receiver s fund) (x : Ticker × NFTId) :
    Movable sender receiver (Portfolio.uncheckedMoveNft sender receiver s x) fund := by
  cases fund with
  | fungible ticker amount => exact h
  | nonFungible nfts =>
    intro y hy
    refine ⟨?_, (h y hy).2⟩
    by_cases hyx : y = x
    · exact .inr (by simp [Portfolio.uncheckedMoveNft, insertNFT, hyx])
    · by_cases hp : sender = receiver
      · simpa [Portfolio.uncheckedMoveNft, insertNFT, removeNFT, hyx, hp] using (h y hy).1
      · have hp' : receiver ≠ sender := Ne.symm hp
        simpa [Portfolio.uncheckedMoveNft, insertNFT, removeNFT, hyx, hp, hp'] using (h y hy).1

theorem Movable.uncheckedMoveNfts (h : Movable sender receiver s fund)
    (xs : List (Ticker × NFTId)) :
    Movable sender receiver (xs.foldl (Portfolio.uncheckedMoveNft sender receiver) s) fund := by
  induction xs generalizing s with
  | nil => exact h
  | cons x xs ih => exact ih (h.uncheckedMoveNft x)

theorem Movable.uncheckedMoveFund {fund' : FundDescription} (h : Movable sender receiver s fund')
    (hne : DifferentTickers fund fund') :
    Movable sender receiver (Portfolio.uncheckedMoveFund sender receiver s fund) fund' := by
  cases fund with
  | nonFungible nfts => exact h.uncheckedMoveNfts nfts.tokens
  | fungible ticker amount =>
    cases fund' with
    | nonFungible nfts => exact h
    | fungible ticker' amount' =>
      have hne : ticker' ≠ ticker := Ne.symm hne
      refine ⟨?_, h.2⟩
      simpa [freeBalance, Portfolio.uncheckedMoveFund, uncheckedTransferPortfolioBalance,
        setPortfolioBalance, update₂_apply, hne] using h.1

theorem uncheckedMoveNfts_movements (hne : sender ≠ receiver) (hdid : sender.did = receiver.did)
    {ids : List NFTId} (hexists : PortfolioExists receiver s)
    (h : Movable sender receiver s (.nonFungible ⟨ticker, ids⟩)) :
    MovementsIn f s ((NFTs.tokens ⟨ticker, ids⟩).foldl (uncheckedMoveNft sender receiver) s) := by
  induction ids generalizing s with
  | nil => exact .refl
  | cons id ids ih =>
    have hx := h (ticker, id) List.mem_cons_self
    have hids : Movable sender receiver s (.nonFungible ⟨ticker, ids⟩) :=
      fun y hy => h y (List.mem_cons_of_mem _ hy)
    exact .head (.moveNft sender receiver (ticker, id) hne hdid hx.1 hx.2 hexists)
      (ih hexists (hids.uncheckedMoveNft (ticker, id)))

theorem exists_uncheckedMoveFund (hp : PortfolioExists p s) (fund : FundDescription) :
    PortfolioExists p (uncheckedMoveFund sender receiver s fund) := by
  cases fund with
  | fungible ticker amount => exact hp
  | nonFungible nfts => exact kept_moveNfts .portfolios sender receiver nfts.tokens s p hp

theorem uncheckedMoveFunds_movements (hne : sender ≠ receiver) (hdid : sender.did = receiver.did)
    (hexists : PortfolioExists receiver s) (hmov : ∀ fund ∈ funds, Movable sender receiver s fund)
    (hpair : funds.Pairwise DifferentTickers) :
    MovementsIn f s (uncheckedMoveFunds sender receiver funds s) := by
  induction funds generalizing s with
  | nil => exact .refl
  | cons fund funds ih =>
    obtain ⟨hfund, hfunds⟩ := List.forall_mem_cons.mp hmov
    obtain ⟨hdiff, hpair⟩ := List.pairwise_cons.mp hpair
    have hrest := ih (exists_uncheckedMoveFund hexists fund)
      (fun fund' hmem => (hfunds fund' hmem).uncheckedMoveFund (hdiff fund' hmem)) hpair
    cases fund with
    | fungible ticker amount =>
      exact .head (.move sender receiver ticker amount hne hdid hfund.1 hfund.2 hexists) hrest
    | nonFungible nfts => exact (uncheckedMoveNfts_movements hne hdid hexists hfund).trans hrest

theorem movePortfolioFunds_movements (sender receiver : PortfolioId)
    (funds : List FundDescription) :
    Respects (MovementsIn f) (movePortfolioFunds env origin sender receiver funds) := by
  intro s u s' h
  simp [movePortfolioFunds, ensurePortfoliosValidityAndPermissions] at h
  obtain ⟨⟨_, -, hne, hdid, ⟨_, hreceiver⟩, -⟩, ⟨_, hvalid⟩, rfl⟩ := h
  obtain ⟨hmov, hpair, -⟩ := ensureValidFunds_ok hvalid
  exact uncheckedMoveFunds_movements hne hdid (ensurePortfolioValidity_eq_ok.mp hreceiver) hmov
    hpair

end Portfolio

/-! ## Checkpoints and statistics -/

theorem Checkpoint.advanceUpdateBalances_ok (dids : List IdentityId)
    (h : advanceUpdateBalances ticker
      (dids.map fun did => (did, s.asset.balanceOf ticker did)) s = (.ok u, s')) :
    ∃ c, Advanced ticker dids c s ∧ s' = s.setCheckpoints ticker c := by
  simp [advanceUpdateBalances] at h
  obtain ⟨c, hc, rfl⟩ := h
  exact ⟨c, hc, rfl⟩

theorem Statistics.updateAssetStats_ok {env : Env} {ch : Change}
    (h : updateAssetStats env ticker ch s = (.ok u, s')) :
    s' = writeStatistics env ticker ch s := by
  rcases onlyIf_ok.mp h with ⟨hamount, h⟩ | ⟨hamount, rfl⟩
  · simp at h
    rw [← h.2, writeStatistics, if_neg hamount]
  · rw [writeStatistics, if_pos (not_not.mp hamount), Storage.setStatistics,
      Function.update_eq_self]

/-! ## Asset calls -/

namespace Asset

variable (env : Env) (origin : RuntimeOrigin)

variable {value : ℕ} {kind : PortfolioKind} {issuer : PortfolioId} {fee divisible : Bool}
  {token : SecurityToken} {assetType : AssetType}

theorem ensureGranular_eq_ok :
    ensureGranular ticker value s = .ok u ↔ Granular ticker value s := by
  simp [ensureGranular, Granular]

theorem ensureOriginTickerAndPortfolioPermissions_ok {custody : Bool}
    (h : ensureOriginTickerAndPortfolioPermissions env origin ticker kind custody s = .ok p) :
    PortfolioExists p s := by
  simp [ensureOriginTickerAndPortfolioPermissions] at h
  obtain ⟨data, -, ⟨_, hvalid⟩, -, -, rfl⟩ := h
  exact Portfolio.ensurePortfolioValidity_eq_ok.mp hvalid

theorem unsafeTransfer_ok (h : unsafeTransfer env sender receiver ticker value s = (.ok u, s')) :
    ∃ c, sender.did ≠ receiver.did ∧ value ≤ s.asset.balanceOf ticker sender.did ∧
      value ≤ freeBalance sender ticker s ∧ Granular ticker value s ∧
      Advanced ticker [sender.did, receiver.did] c s ∧
      s' = writeStatistics env ticker (transferChange sender receiver ticker value s)
        (writeTransfer sender receiver ticker value (s.asset.balanceOf ticker sender.did - value)
          (s.asset.balanceOf ticker receiver.did + value) (s.setCheckpoints ticker c)) := by
  simp [unsafeTransfer, tokenDetails] at h
  obtain ⟨-, token, -, -, hdid, hvalue, -, ⟨_, hfree⟩, _, s₁, hadvance, hstats⟩ := h
  obtain ⟨hfree, hgranular⟩ := Portfolio.ensureSufficientBalance_ok hfree
  obtain ⟨c, hc, rfl⟩ :=
    Checkpoint.advanceUpdateBalances_ok [sender.did, receiver.did] hadvance
  exact ⟨c, hdid, hvalue, hfree, hgranular, hc, Statistics.updateAssetStats_ok hstats⟩

theorem mint_movements (henv : env ∈ f.envs) (hissuer : PortfolioExists issuer s)
    (h : mint env ticker issuer value fee s = (.ok u, s')) : MovementsIn f s s' := by
  simp [mint, tokenDetails, ensureWithinMaxSupply] at h
  obtain ⟨⟨_, hgranular⟩, token, htoken, -, -, hmax, _, s₁, ⟨-, hadvance⟩, hstats⟩ := h
  obtain ⟨c, hc, rfl⟩ := Checkpoint.advanceUpdateBalances_ok [issuer.did] hadvance
  rw [Statistics.updateAssetStats_ok hstats]
  exact .tail (.single (.checkpoint ticker _ c hc)) (.mint env issuer ticker value token henv
    htoken hmax (ensureGranular_eq_ok.mp hgranular) hissuer hc.ready)

theorem baseIssue_movements (henv : env ∈ f.envs) (ticker : Ticker) (amount : ℕ)
    (kind : PortfolioKind) :
    Respects (MovementsIn f) (baseIssue env origin ticker amount kind) := by
  intro s u s' h
  simp [baseIssue] at h
  obtain ⟨p, hp, h⟩ := h
  exact mint_movements env henv (ensureOriginTickerAndPortfolioPermissions_ok env origin hp) h

theorem baseRedeem_movements (henv : env ∈ f.envs) (ticker : Ticker) (value : ℕ)
    (kind : PortfolioKind) :
    Respects (MovementsIn f) (baseRedeem env origin ticker value kind) := by
  intro s u s' h
  simp [baseRedeem, tokenDetails, Portfolio.reducePortfolioBalance] at h
  obtain ⟨p, -, ⟨_, hgranular⟩, token, htoken, -, s₁,
    ⟨⟨hvalue, hlocked⟩, hsupply, _, hadvance⟩, hstats⟩ := h
  -- the checkpoints do not depend on the portfolio balance that has been written before them
  obtain ⟨c, hc, rfl⟩ := Checkpoint.advanceUpdateBalances_ok [p.did] hadvance
  have hc : Advanced ticker [p.did] c s := hc
  have hlocked : value + s.portfolio.portfolioLockedAssets p ticker ≤
    s.portfolio.portfolioAssetBalances p ticker := by omega
  rw [Statistics.updateAssetStats_ok hstats]
  exact .tail (.single (.checkpoint ticker _ c hc)) (.redeem env p ticker value token henv htoken
    hsupply hlocked (ensureGranular_eq_ok.mp hgranular) hc.ready)

theorem unsafeTransfer_movements (henv : env ∈ f.envs) (hreceiver : PortfolioExists receiver s)
    (h : unsafeTransfer env sender receiver ticker value s = (.ok u, s')) :
    MovementsIn f s s' := by
  obtain ⟨c, hdid, hvalue, hfree, hgranular, hc, rfl⟩ := unsafeTransfer_ok env h
  exact .tail (.single (.checkpoint ticker _ c hc))
    (.transfer env sender receiver ticker value henv hdid hvalue hfree hgranular hreceiver
      hc.ready)

theorem isValidTransfer_ok
    (h : isValidTransfer env ticker sender receiver value s = .ok .transferSuccess) :
    PortfolioExists receiver s := by
  unfold isValidTransfer at h
  split_ifs at h with _ hportfolio
  · simp at h
  · simp at h
  · simp at h
  · simp only [portfolioFailure] at hportfolio
    split at hportfolio
    next hvalid =>
      simp [Portfolio.ensurePortfolioTransferValidity] at hvalid
      obtain ⟨-, -, ⟨_, hreceiver⟩, -⟩ := hvalid
      exact Portfolio.ensurePortfolioValidity_eq_ok.mp hreceiver
    · exact absurd rfl hportfolio

theorem baseTransfer_movements (henv : env ∈ f.envs) (sender receiver : PortfolioId)
    (ticker : Ticker) (value : ℕ) :
    Respects (MovementsIn f) (baseTransfer env sender receiver ticker value) := by
  intro s u s' h
  simp [baseTransfer] at h
  exact unsafeTransfer_movements env henv (isValidTransfer_ok env h.1) h.2

theorem baseControllerTransfer_movements (henv : env ∈ f.envs) (ticker : Ticker) (value : ℕ)
    (sender : PortfolioId) :
    Respects (MovementsIn f) (baseControllerTransfer env origin ticker value sender) := by
  intro s u s' h
  simp [baseControllerTransfer] at h
  obtain ⟨p, hp, h⟩ := h
  exact unsafeTransfer_movements env henv
    (ensureOriginTickerAndPortfolioPermissions_ok env origin hp) h

/-! ### Tickers and descriptions of assets -/

theorem totalSupply_setToken (h : token.totalSupply = totalSupply ticker s) (t : Ticker) :
    (Function.update s.asset.tokens ticker (some token) t).elim 0 SecurityToken.totalSupply =
      totalSupply t s := by
  by_cases ht : t = ticker
  · subst ht
    simpa using h
  · rw [Function.update_of_ne ht]
    rfl

theorem tickersValid_update {tokens : Ticker → Option SecurityToken}
    {tickers : Ticker → Option TickerRegistration} (hticker : TickersValid s → ticker.Valid)
    (htokens : ∀ t, t ≠ ticker → tokens t = s.asset.tokens t)
    (htickers : ∀ t, t ≠ ticker → tickers t = s.asset.tickers t) (hs : TickersValid s) (t : Ticker)
    (ht : (tokens t).isSome || (tickers t).isSome) : t.Valid := by
  by_cases heq : t = ticker
  · exact heq ▸ hticker hs
  · rw [htokens t heq, htickers t heq] at ht
    exact hs t ht

theorem valid_of_token (htoken : s.asset.tokens ticker = some token) (hs : TickersValid s) :
    ticker.Valid := hs ticker (by simp [Storage.known, htoken])

theorem valid_of_registration {registration : TickerRegistration}
    (h : s.asset.tickers ticker = some registration) (hs : TickersValid s) : ticker.Valid :=
  hs ticker (by simp [Storage.known, h])

theorem movement_setToken {token' : SecurityToken} (htoken : s.asset.tokens ticker = some token)
    (hsupply : token'.totalSupply = token.totalSupply) (hdiv : token.divisible → token'.divisible)
    (howner : token'.ownerDid = token.ownerDid) :
    Movement f s (s.mapAsset (setToken ticker token')) := by
  have hsupply : token'.totalSupply = totalSupply ticker s := by simp [totalSupply, htoken, hsupply]
  have hvalid : TickersValid s → TickersValid (s.mapAsset (setToken ticker token')) :=
    tickersValid_update (valid_of_token htoken) (fun _ h => Function.update_of_ne h ..) fun _ _ => rfl
  refine .other ⟨totalSupply_setToken hsupply, rfl, rfl, rfl, rfl, rfl, rfl, rfl, hvalid⟩
    (.of_eq rfl) fun r _ => ?_
  cases r with
  | divisibility => exact kept_divisibility htoken rfl hdiv
  | ownership => exact kept_ownership htoken rfl howner rfl rfl
  | _ => exact .of_same rfl

theorem movement_setOwners (hf : .ownership ∉ f.kept) {tokens : Ticker → Option SecurityToken}
    {tickers : Ticker → Option TickerRegistration}
    {relations : IdentityId → Ticker → AssetOwnershipRelation}
    (hsupply : ∀ t, (tokens t).elim 0 SecurityToken.totalSupply = totalSupply t s)
    (hdiv : ∀ t token, s.asset.tokens t = some token →
      ∃ token', tokens t = some token' ∧ (token.divisible → token'.divisible))
    (hvalid : TickersValid s → ∀ t, (tokens t).isSome || (tickers t).isSome → t.Valid) :
    Movement f s (s.mapAsset fun a =>
      { a with tokens := tokens, tickers := tickers, assetOwnershipRelations := relations }) := by
  refine .other ⟨hsupply, rfl, rfl, rfl, rfl, rfl, rfl, rfl, hvalid⟩ (.of_eq rfl) fun r hr => ?_
  cases r with
  | divisibility => exact hdiv
  | ownership => exact absurd hr hf
  | _ => exact .of_same rfl

theorem unverifiedRegisterTicker_eq (ticker : Ticker) (owner : IdentityId)
    (expiry : Option Moment) (a : AssetStorage) : ∃ registration relations,
    unverifiedRegisterTicker ticker owner expiry a =
      { a with
        tickers := Function.update a.tickers ticker registration
        assetOwnershipRelations := relations } := by
  unfold unverifiedRegisterTicker
  split
  · exact ⟨_, _, rfl⟩
  · exact ⟨_, _, rfl⟩

theorem registerTicker_movements (hf : .ownership ∉ f.kept) (ticker : Ticker) :
    Respects (MovementsIn f) (registerTicker env origin ticker) := by
  intro s u s' h
  simp [registerTicker, tickerRegistrationChecks] at h
  obtain ⟨did, -, ⟨⟨_, hchars⟩, -⟩, -, rfl⟩ := h
  obtain ⟨registration, relations, heq⟩ := unverifiedRegisterTicker_eq ticker did
    (env.registrationLength.map (s.system.now + ·)) s.asset
  rw [Storage.mapAsset, heq]
  refine (movement_setOwners hf (fun _ => rfl) (fun t token htoken => ⟨token, htoken, id⟩)
    (tickersValid_update (fun _ => ?_) (fun _ _ => rfl) fun _ h => Function.update_of_ne h ..)).movements
  exact env.verifyTickerCharacters_ok ticker hchars

theorem acceptTickerTransfer_movements (hf : .ownership ∉ f.kept) (authId : ℕ) :
    Respects (MovementsIn f) (acceptTickerTransfer env origin authId) := by
  intro s u s' h
  simp [acceptTickerTransfer] at h
  obtain ⟨did, -, ticker, registration, -, -, hregistration, rfl⟩ := h
  exact (movement_setOwners hf (fun _ => rfl) (fun _ token htoken => ⟨token, htoken, id⟩)
    (tickersValid_update (valid_of_registration hregistration) (fun _ _ => rfl)
      fun _ h => Function.update_of_ne h ..)).movements

theorem acceptAssetOwnershipTransfer_movements (hf : .ownership ∉ f.kept) (authId : ℕ) :
    Respects (MovementsIn f) (acceptAssetOwnershipTransfer env origin authId) := by
  intro s u s' h
  simp [acceptAssetOwnershipTransfer, tokenDetails] at h
  obtain ⟨did, -, authBy, ticker, -, token, htoken, -, registration, -, rfl⟩ := h
  refine (movement_setOwners hf (totalSupply_setToken ?_) ?_
    (tickersValid_update (valid_of_token htoken) (fun _ h => Function.update_of_ne h ..)
      fun _ h => Function.update_of_ne h ..)).movements
  · simp [totalSupply, htoken]
  · show Aspect.Kept .divisibility s (s.mapAsset (setToken ticker { token with ownerDid := did }))
    exact kept_divisibility htoken rfl id

/-- The writes of a new asset, for a ticker that is registered first or is registered already. -/
def writeAsset (ticker : Ticker) (did : IdentityId) (available : Bool) (token : SecurityToken)
    (a : AssetStorage) : AssetStorage :=
  setOwnership did ticker .assetOwned <| setToken ticker token <|
    if available then unverifiedRegisterTicker ticker did none a else clearExpiry ticker a

theorem exists_registration_of_registeredByDid {did : IdentityId}
    (h : ensureTickerForAsset ticker did s = .ok false) :
    ∃ registration, s.asset.tickers ticker = some registration ∧ registration.owner = did := by
  unfold ensureTickerForAsset isTickerAvailableOrRegisteredTo at h
  cases hticker : s.asset.tickers ticker with
  | none => simp [hticker] at h
  | some registration =>
    simp only [hticker] at h
    split_ifs at h with hexpired howner
    · cases h
    · exact ⟨registration, rfl, howner⟩

theorem createAsset_ok (h : createAsset env origin ticker divisible assetType s = (.ok u, s')) :
    ∃ did available, s.asset.tokens ticker = none ∧
      ensureTickerForAsset ticker did s = .ok available ∧ (available = true → ticker.Valid) ∧
      s' = s.mapAsset (writeAsset ticker did available ⟨0, did, divisible, assetType⟩) := by
  simp only [createAsset, unsafeCreateAsset, ensureAssetFresh, run_ok, bind_ok, ensure_eq_ok,
    onlyIf_read_ok] at h
  obtain ⟨data, _, ⟨-, rfl⟩, _, _, ⟨-, rfl⟩, _, _, ⟨-, rfl⟩, _, _, ⟨hfresh, rfl⟩, _, _, ⟨-, rfl⟩,
    available, _, ⟨havailable, rfl⟩, _, _, ⟨hchars, rfl⟩, _, _, ⟨-, rfl⟩, _, _, ⟨-, rfl⟩, _, _,
    ⟨-, rfl⟩, _, _, rfl, rfl⟩ := h
  exact ⟨data.primaryDid, available, hfresh, havailable,
    fun h => env.verifyTickerCharacters_ok ticker (hchars h), rfl⟩

theorem createAsset_movement (hf : .ownership ∉ f.kept)
    (h : createAsset env origin ticker divisible assetType s = (.ok u, s')) :
    Movement f s s' ∧ s'.nft = s.nft := by
  obtain ⟨did, available, hfresh, hticker, hchars, rfl⟩ := createAsset_ok env origin h
  obtain ⟨registration, relations, heq⟩ : ∃ registration relations,
      (if available then unverifiedRegisterTicker ticker did none s.asset
        else clearExpiry ticker s.asset) =
      { s.asset with
        tickers := Function.update s.asset.tickers ticker registration
        assetOwnershipRelations := relations } := by
    split
    · exact unverifiedRegisterTicker_eq ticker did none s.asset
    · exact ⟨_, _, rfl⟩
  refine ⟨?_, rfl⟩
  simp only [Storage.mapAsset, writeAsset, heq]
  refine movement_setOwners hf (totalSupply_setToken ?_) (fun t token htoken => ?_)
    (tickersValid_update (fun hs => ?_) (fun _ h => Function.update_of_ne h ..)
      fun _ h => Function.update_of_ne h ..)
  · simp [totalSupply, hfresh]
  · have ht : t ≠ ticker := by
      rintro rfl
      simp [hfresh] at htoken
    exact ⟨token, by rw [← htoken]; exact Function.update_of_ne ht .., id⟩
  · cases available with
    | true => exact hchars rfl
    | false =>
      obtain ⟨registration, hregistered, -⟩ := exists_registration_of_registeredByDid hticker
      exact valid_of_registration hregistered hs

theorem makeDivisible_movements (ticker : Ticker) :
    Respects (MovementsIn f) (makeDivisible env origin ticker) := by
  intro s u s' h
  simp [makeDivisible, tokenDetails] at h
  obtain ⟨-, token, htoken, -, -, rfl⟩ := h
  have hmove : Movement f s (s.mapAsset (setToken ticker { token with divisible := true })) :=
    movement_setToken htoken rfl (fun _ => rfl) rfl
  exact hmove.movements

theorem updateAssetType_movements (ticker : Ticker) (assetType : AssetType) :
    Respects (MovementsIn f) (updateAssetType env origin ticker assetType) := by
  intro s u s' h
  simp [updateAssetType, tokenDetails] at h
  obtain ⟨-, -, -, token, htoken, -, rfl⟩ := h
  have hmove : Movement f s (s.mapAsset (setToken ticker { token with assetType := assetType })) :=
    movement_setToken htoken rfl id rfl
  exact hmove.movements

end Asset

/-! ## NFT calls -/

namespace NFT

variable (env : Env) (origin : RuntimeOrigin)

theorem createNftCollection_ok {hasNftType : Bool} {keys : List AssetMetadataKey}
    (h : createNftCollection env origin ticker hasNftType keys s = (.ok u, s')) :
    ∃ s₁ c, (Asset.createAsset env origin ticker false .nonFungible s = (.ok (), s₁) ∨ s₁ = s) ∧
      s.nft.collectionTicker ticker = none ∧
      checkedInc s₁.nft.nextCollectionId.id = some c ∧
      s' = s₁.mapNFT (insertCollection ticker ⟨c⟩ keys) := by
  simp only [createNftCollection, ↓run_ok, bind_ok, okOr_eq_ok] at h
  obtain ⟨create, _, ⟨-, rfl⟩, hnone, -, -, -, _, s₁, hcreate, c, hc, rfl⟩ := h
  refine ⟨s₁, c, ?_, hnone, hc, rfl⟩
  rcases onlyIf_ok.mp hcreate with ⟨-, hcreate⟩ | ⟨-, rfl⟩
  · simp at hcreate
    exact .inl hcreate.2
  · exact .inr rfl

theorem createNftCollection_movements (hf : .ownership ∉ f.kept) (ticker : Ticker)
    (hasNftType : Bool) (keys : List AssetMetadataKey) :
    Respects (MovementsIn f) (createNftCollection env origin ticker hasNftType keys) := by
  intro s u s' h
  obtain ⟨s₁, c, hcreate, hnone, hc, rfl⟩ := createNftCollection_ok env origin h
  -- creating the asset does not touch the collections
  obtain ⟨hmove, hnft⟩ : MovementsIn f s s₁ ∧ s₁.nft = s.nft := by
    rcases hcreate with hcreate | rfl
    · obtain ⟨hmove, hnft⟩ := Asset.createAsset_movement env origin hf hcreate
      exact ⟨hmove.movements, hnft⟩
    · exact ⟨.refl, rfl⟩
  exact hmove.tail (.newCollection ticker ⟨c⟩ keys (hnft ▸ hnone) hc)

theorem issueNft_movements (ticker : Ticker) (attributes : List AssetMetadataKey)
    (kind : PortfolioKind) : Respects (MovementsIn f) (issueNft env origin ticker attributes kind) := by
  intro s u s' h
  simp [issueNft, collectionOf] at h
  obtain ⟨c, hc, p, -, ⟨_, hp⟩, -, -, hcount, id, hid, rfl⟩ := h
  exact (Movement.issueNft p (ticker, ⟨id⟩) c hc hid hcount
    (Portfolio.ensurePortfolioValidity_eq_ok.mp hp)).movements

theorem validateNftOwnership_ok (h : validateNftOwnership env sender receiver nfts s = .ok u) :
    sender ≠ receiver ∧ 0 < nfts.ids.length ∧ nfts.ids.Nodup ∧
      nfts.ids.length ≤ s.nft.numberOfNFTs nfts.ticker sender.did ∧
      s.nft.numberOfNFTs nfts.ticker receiver.did + nfts.ids.length < 2 ^ 64 ∧
      ∀ x ∈ nfts.tokens, x ∈ s.portfolio.portfolioNFT sender ∧
        x ∉ s.portfolio.portfolioLockedNFT sender := by
  simp only [validateNftOwnership, collectionOf, ensureWithinNftsTransferLimits,
    ensureNoDuplicateNfts, except_bind_eq_ok, ensure_eq_ok, okOr_eq_ok, except_pure_eq_ok,
    checkedAdd_eq_some] at h
  obtain ⟨_, -, _, hne, _, hlen, _, ⟨_, hpos, -⟩, _, hnodup, _, htokens, _, ⟨hcount, -⟩, -⟩ := h
  refine ⟨hne, hpos, hnodup, hlen, hcount, fun x hx => ?_⟩
  simpa using except_forM_eq_ok.mp htokens x hx

theorem unverifiedNftsTransfer_movements
    (hreceiver : PortfolioExists receiver s ∨ receiver ∈ f.receivers)
    (h : validateNftOwnership env sender receiver nfts s = .ok u) :
    MovementsIn f s (unverifiedNftsTransfer sender receiver nfts s) := by
  obtain ⟨hne, -, hnodup, hlen, hcount, htokens⟩ := validateNftOwnership_ok env h
  exact (Movement.transferNfts sender receiver nfts hne hnodup hlen hcount htokens
    hreceiver).movements

/-- The settlement engine does not ask whether the receiver of tokens exists. -/
theorem baseNftTransfer_movements (sender receiver : PortfolioId) (nfts : NFTs)
    (hreceiver : nfts.ids ≠ [] → receiver ∈ f.receivers) :
    Respects (MovementsIn f) (baseNftTransfer env sender receiver nfts) := by
  intro s u s' h
  simp [baseNftTransfer, validateNftTransfer] at h
  obtain ⟨⟨-, ⟨_, h⟩, -⟩, rfl⟩ := h
  have hids : nfts.ids ≠ [] := List.ne_nil_of_length_pos (validateNftOwnership_ok env h).2.1
  exact unverifiedNftsTransfer_movements env (.inr (hreceiver hids)) h

theorem controllerTransfer_movements (ticker : Ticker) (nfts : NFTs) (source : PortfolioId)
    (kind : PortfolioKind) :
    Respects (MovementsIn f) (controllerTransfer env origin ticker nfts source kind) := by
  intro s u s' h
  simp [controllerTransfer] at h
  obtain ⟨receiver, hreceiver, ⟨_, h⟩, rfl⟩ := h
  exact unverifiedNftsTransfer_movements env
    (.inl (Asset.ensureOriginTickerAndPortfolioPermissions_ok env origin hreceiver)) h

end NFT

/-! ## Venue calls -/

namespace Settlement

variable (env : Env) (origin : RuntimeOrigin)

theorem movement_setVenueSigners (hf : .venues ∉ f.kept) (id : VenueId)
    (signers : List AccountId) (add : Bool) (count : ℕ) (info : VenueId → Option Venue)
    (counter : VenueId) (s : Storage) :
    Movement f s (s.mapSettlement fun t => setVenueSigners id signers add count
      { t with venueCounter := counter, venueInfo := info }) := by
  refine .other (.of_eq rfl) (.of_eq rfl) fun r hr => ?_
  cases r with
  | venues => exact absurd hr hf
  | _ => exact .of_same rfl

theorem updateVenueType_movements (id : VenueId) (typ : VenueType) :
    Respects (MovementsIn f) (updateVenueType env origin id typ) := by
  intro s u s' h
  simp [updateVenueType, venueForManagement] at h
  obtain ⟨venue, -, hvenue, rfl⟩ := h
  refine ReflTransGen.single (.other (.of_eq rfl) (.of_eq rfl) fun r hr => ?_)
  cases r with
  | venues =>
    refine congrArg₂ Prod.mk rfl (congrArg₂ Prod.mk (funext fun id' => ?_) rfl)
    by_cases hid : id' = id
    · subst hid
      simp [hvenue]
    · simp [hid]
  | _ => exact .of_same rfl

theorem updateVenueSigners_movements (hf : .venues ∉ f.kept) (id : VenueId)
    (signers : List AccountId) (addSigners : Bool) :
    Respects (MovementsIn f) (updateVenueSigners env origin id signers addSigners) := by
  have hwrite (add : Bool) (count : ℕ) : Respects (MovementsIn f)
      (Tx.modify (Storage.mapSettlement (setVenueSigners id signers add count)) : Dispatch Unit) :=
    .modify fun s => (movement_setVenueSigners hf id signers add count s.settlement.venueInfo
      s.settlement.venueCounter s).movements
  exact .read_bind fun _ => .read_bind fun _ => .bind .get fun _ => .ite (.ensure_bind fun _ =>
    .ensure_bind fun _ => hwrite true _)
      (.ensure_bind fun _ => hwrite false _)

end Settlement

/-! ## Checkpoint and statistics calls -/

namespace Checkpoint

variable (env : Env) (origin : RuntimeOrigin)

theorem respects_setCheckpoints (hf : .checkpoints ∉ f.kept) (ticker : Ticker)
    (c : TickerCheckpoints) :
    Respects (MovementsIn f) (Tx.modify (Storage.setCheckpoints ticker c) : Dispatch Unit) :=
  respects_modify_other (fun _ => .of_eq rfl) (fun _ => .of_eq rfl)
    fun _ => keeps_setCheckpoints hf ticker c

theorem setSchedulesMaxComplexity_movements (hf : .checkpoints ∉ f.kept) (maxComplexity : ℕ) :
    Respects (MovementsIn f) (setSchedulesMaxComplexity origin maxComplexity) :=
  .read_bind fun _ => respects_modify_other (fun _ => .of_eq rfl) (fun _ => .of_eq rfl)
    fun _ r hr => by
      cases r with
      | checkpoints => exact absurd hr hf
      | _ => exact .of_same rfl

end Checkpoint

namespace Statistics

variable (env : Env) (origin : RuntimeOrigin)

theorem respects_setStatistics (hf : .statistics ∉ f.kept) (ticker : Ticker)
    (c : TickerStatistics) :
    Respects (MovementsIn f) (Tx.modify (Storage.setStatistics ticker c) : Dispatch Unit) :=
  respects_modify_other (fun _ => .of_eq rfl) (fun _ => .of_eq rfl)
    fun _ => keeps_setStatistics hf ticker c

end Statistics

end Polymesh
