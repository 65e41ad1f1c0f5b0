import Polymesh.Settlement.Delivery

/-!
# The accounts of capital distributions

A distribution locks its amount. A holder of the asset claims a benefit, or is pushed one: it is
released from the lock, the holder gets it less the tax and less what cannot be divided, and the
rest stays free with the distributor. What nobody has claimed by the expiry is reclaimed. A
distribution can be removed before the payment date, and then its whole amount is released.

The payment date is before the expiry and time does not go back. So a distribution that is removed
has paid nobody, and one that has been reclaimed pays nobody any more.
-/

namespace Polymesh

open Transactional Tx Collections Relation Settlement
open TransitionSystem (along_true run run_append trace trace_invariant)

/-- A benefit that is paid: how much the distribution gives away, and how much the holder gets. -/
structure Payment where
  caId : CAId
  holder : IdentityId
  benefit : ℕ
  gain : ℕ
deriving DecidableEq

/-- The distribution and the holder that a call is to pay. -/
def Call.payee (env : Env) (origin : RuntimeOrigin) : Call → Option (CAId × IdentityId)
  | .claim caId => (env.ensurePerms origin).toOption.map fun did => (caId, did)
  | .pushBenefit caId holder => some (caId, holder)
  | _ => none

namespace CapitalDistribution

/-- What a distribution gives away for a holder. -/
def benefit (ca : CorporateAction) (s : Storage) (dist : Distribution) (caId : CAId)
    (holder : IdentityId) : ℕ :=
  balanceAtCp caId s holder (recordDateCp caId s ca) * dist.perShare / perSharePrecision

/-- The payment of a holder, if there is a distribution. -/
def payment (env : Env) (s : Storage) (caId : CAId) (holder : IdentityId) : Option Payment :=
  match s.distribution.distributions caId, env.corporateAction s caId with
  | some dist, some ca =>
    let benefit := benefit ca s dist caId holder
    some ⟨caId, holder, benefit, gainOf env ca holder dist.currency benefit s⟩
  | _, _ => none

end CapitalDistribution

/-- The payments that are made with an action: that of a call that succeeds. -/
def Action.payments (s : Storage) (a : Action) : List Payment :=
  a.onSuccess (fun env origin call =>
    ((call.payee env origin).bind fun x => CapitalDistribution.payment env s x.1 x.2).toList) s

namespace CapitalDistribution

/-- The payments that are made in a run, in order. -/
def payments (actions : List Action) : List Payment :=
  trace step (fun s a => a.payments s) genesis actions

/-- What a distribution has given away. -/
def deducted (past : List Payment) (caId : CAId) : ℕ :=
  ((past.filter fun p => p.caId = caId).map Payment.benefit).sum

/-! ## Accounts -/

/-- **What can happen to the distributions in one step**, with the payments that are made. -/
inductive DistributionStep (s s' : Storage) : List Payment → Prop
  | same : s'.distribution = s.distribution → DistributionStep s s' []
  | create (caId : CAId) (dist : Distribution) : s.distribution.distributions caId = none →
      dist.remaining = dist.amount →
      s'.distribution = setDistribution caId (some dist) s.distribution →
      DistributionStep s s' []
  | pay (p : Payment) (dist : Distribution) : s.distribution.distributions p.caId = some dist →
      s.distribution.holderPaid p.caId p.holder = false → dist.paymentAt ≤ s.system.now →
      p.benefit ≤ dist.remaining →
      s'.distribution = setDistribution p.caId
        (some { dist with remaining := dist.remaining - p.benefit })
        (setHolderPaid p.caId p.holder s.distribution) →
      DistributionStep s s' [p]
  | reclaim (caId : CAId) (dist : Distribution) : s.distribution.distributions caId = some dist →
      s'.distribution = setDistribution caId
        (some { dist with reclaimed := true, remaining := 0 }) s.distribution →
      DistributionStep s s' []
  /-- The whole amount is released. -/
  | remove (caId : CAId) (dist : Distribution) : s.distribution.distributions caId = some dist →
      s.system.now < dist.paymentAt →
      (∀ k, reserve s' k + (if k = (dist.from_, .inl dist.currency) then dist.amount else 0) =
        reserve s k) →
      s'.distribution = setDistribution caId none s.distribution →
      DistributionStep s s' []

/-- **The accounts agree with the payments so far.** -/
structure DistributionsInv (past : List Payment) (now : Moment) (d : DistributionStorage) :
    Prop where
  once : (past.map fun p => (p.caId, p.holder)).Nodup
  paid : ∀ p ∈ past, d.holderPaid p.caId p.holder = true
  /-- A distribution that has paid is still there, and its payment date is past. -/
  started : ∀ p ∈ past, ∃ dist, d.distributions p.caId = some dist ∧ dist.paymentAt ≤ now
  tally : ∀ caId dist, d.distributions caId = some dist → dist.reclaimed = false →
    deducted past caId + dist.remaining = dist.amount

variable {caId : CAId} {p : Payment} {dist : Distribution} {s s' : Storage} {holder : IdentityId}
  {call : Call} {env : Env}

section Accounts

variable {past new : List Payment} {now later : Moment} {d d' : DistributionStorage}

theorem deducted_append (past new : List Payment) (caId : CAId) :
    deducted (past ++ new) caId = deducted past caId + deducted new caId := by
  simp [deducted]

theorem deducted_eq_zero (h : ∀ p ∈ past, p.caId ≠ caId) :
    deducted past caId = 0 := by
  have hnil : past.filter (fun p => p.caId = caId) = [] :=
    List.filter_eq_nil_iff.mpr fun p hp => by simpa using h p hp
  rw [deducted, hnil]
  rfl

theorem distributions_setDistribution (caId caId' : CAId) (dist : Option Distribution)
    (d : DistributionStorage) : (setDistribution caId dist d).distributions caId' =
      if caId' = caId then dist else d.distributions caId' := by
  simp [setDistribution, Function.update_apply]

theorem DistributionsInv.mono (h : DistributionsInv past now d) (hle : now ≤ later) :
    DistributionsInv past later d := by
  refine ⟨h.once, h.paid, fun p hp => ?_, h.tally⟩
  obtain ⟨dist, hdist, hstarted⟩ := h.started p hp
  exact ⟨dist, hdist, hstarted.trans hle⟩

theorem DistributionsInv.set (h : DistributionsInv past now d) {dist' : Option Distribution}
    (hstarted : ∀ p ∈ past, p.caId = caId → ∃ dist, dist' = some dist ∧ dist.paymentAt ≤ now)
    (htally : ∀ dist, dist' = some dist → dist.reclaimed = false →
      deducted past caId + dist.remaining = dist.amount) :
    DistributionsInv past now (setDistribution caId dist' d) := by
  refine ⟨h.once, h.paid, fun p hp => ?_, fun caId' dist hdist hopen => ?_⟩
  · rw [distributions_setDistribution]
    split_ifs with hca
    · exact hstarted p hp hca
    · exact h.started p hp
  · rw [distributions_setDistribution] at hdist
    split_ifs at hdist with hca
    · rw [hca]
      exact htally dist hdist hopen
    · exact h.tally caId' dist hdist hopen

theorem DistributionsInv.pay (h : DistributionsInv past now d)
    (hdist : d.distributions p.caId = some dist) (hunpaid : d.holderPaid p.caId p.holder = false)
    (hstarted : dist.paymentAt ≤ now) (hle : p.benefit ≤ dist.remaining) :
    DistributionsInv (past ++ [p]) now (setDistribution p.caId
      (some { dist with remaining := dist.remaining - p.benefit })
      (setHolderPaid p.caId p.holder d)) := by
  refine ⟨nodup_map_append h.once (List.nodup_singleton _) fun q hq p' hp' heq => ?_,
    fun q hq => ?_, fun q hq => ?_, fun caId dist' hdist' hopen => ?_⟩
  · -- who has been paid is marked
    rw [List.mem_singleton.mp hp', Prod.mk.injEq] at heq
    have hpaid := h.paid q hq
    rw [heq.1, heq.2, hunpaid] at hpaid
    cases hpaid
  · change update₂ d.holderPaid p.caId p.holder true q.caId q.holder = true
    rw [update₂_apply]
    split_ifs with heq
    · rfl
    · rcases List.mem_append.mp hq with hq | hq
      · exact h.paid q hq
      · rw [List.mem_singleton.mp hq] at heq
        exact absurd ⟨rfl, rfl⟩ heq
  · rw [distributions_setDistribution]
    split_ifs with hca
    · exact ⟨_, rfl, hstarted⟩
    · rcases List.mem_append.mp hq with hq | hq
      · exact h.started q hq
      · exact absurd (congrArg Payment.caId (List.mem_singleton.mp hq)) hca
  · rw [distributions_setDistribution] at hdist'
    rw [deducted_append]
    split_ifs at hdist' with hca
    · subst hca
      cases hdist'
      have htally := h.tally p.caId dist hdist hopen
      have hnew : deducted [p] p.caId = p.benefit := by simp [deducted]
      rw [hnew]
      show deducted past p.caId + p.benefit + (dist.remaining - p.benefit) = dist.amount
      omega
    · have hnew : deducted [p] caId = 0 :=
        deducted_eq_zero fun q hq => by rw [List.mem_singleton.mp hq]; exact Ne.symm hca
      rw [hnew]
      exact h.tally caId dist' hdist' hopen

/-- **Every step keeps the accounts.** -/
theorem DistributionStep.inv (hstep : DistributionStep s s' new)
    (h : DistributionsInv past s.system.now s.distribution) :
    DistributionsInv (past ++ new) s.system.now s'.distribution := by
  cases hstep with
  | same hsame =>
    rw [List.append_nil, hsame]
    exact h
  | create caId dist hnone hremaining hwrite =>
    -- nothing has been paid from a distribution that is not there
    have hunpaid : ∀ p ∈ past, p.caId ≠ caId := by
      rintro p hp rfl
      obtain ⟨dist', hdist', -⟩ := h.started p hp
      cases hdist'.symm.trans hnone
    rw [List.append_nil, hwrite]
    refine h.set (fun p hp hca => absurd hca (hunpaid p hp)) ?_
    rintro _ ⟨rfl⟩ -
    rw [deducted_eq_zero hunpaid, hremaining, Nat.zero_add]
  | pay p dist hdist hunpaid hstarted hle hwrite =>
    rw [hwrite]
    exact h.pay hdist hunpaid hstarted hle
  | reclaim caId dist hdist hwrite =>
    rw [List.append_nil, hwrite]
    refine h.set (fun p hp hca => ?_) ?_
    · obtain ⟨dist', hdist', hstarted⟩ := h.started p hp
      rw [hca, hdist] at hdist'
      cases hdist'
      exact ⟨_, rfl, hstarted⟩
    · rintro _ ⟨rfl⟩ hopen
      cases hopen
  | remove caId dist hdist hnow _ hwrite =>
    rw [List.append_nil, hwrite]
    refine h.set (fun p hp hca => ?_) nofun
    -- a distribution that has paid has started
    obtain ⟨dist', hdist', hstarted⟩ := h.started p hp
    rw [hca, hdist] at hdist'
    cases hdist'
    exact absurd hnow (not_lt.mpr hstarted)

/-- **A distribution that goes had all of its amount locked**, and just that is released. -/
theorem DistributionStep.removal (hstep : DistributionStep s s' new)
    (hdist : s.distribution.distributions caId = some dist) (hsound : dist.Sound s.system.now)
    (hgone : s'.distribution.distributions caId = none) :
    dist.remaining = dist.amount ∧ ∀ k, reserve s' k + dist.due k = reserve s k := by
  -- all other writes leave a distribution where there is one
  have hset : ∀ caId' dist' d, d.distributions = s.distribution.distributions →
      s'.distribution = setDistribution caId' (some dist') d → False := by
    intro caId' dist' d hd hwrite
    rw [hwrite, distributions_setDistribution, hd, hdist] at hgone
    split_ifs at hgone
  cases hstep with
  | same hsame =>
    rw [hsame, hdist] at hgone
    cases hgone
  | create caId' dist' _ _ hwrite => exact absurd hwrite (hset caId' dist' _ rfl)
  | pay p dist' _ _ _ _ hwrite => exact absurd hwrite (hset p.caId _ _ rfl)
  | reclaim caId' dist' _ hwrite => exact absurd hwrite (hset caId' _ _ rfl)
  | remove caId' dist' hdist' hnow hlocks hwrite =>
    rw [hwrite, distributions_setDistribution] at hgone
    split_ifs at hgone with hca
    · subst hca
      cases hdist.symm.trans hdist'
      have hremaining := hsound.unclaimed hnow
      refine ⟨hremaining, fun k => ?_⟩
      rw [Distribution.due, hremaining]
      exact hlocks k
    · cases hdist.symm.trans hgone

end Accounts

/-! ## Calls -/

section Calls

variable {origin : RuntimeOrigin} {u : Unit}

variable {perShare : ℕ}

theorem benefitOf_ok {balance benefit : ℕ} (h : benefitOf balance perShare = .ok benefit) :
    benefit = balance * perShare / perSharePrecision := by
  simp [benefitOf] at h
  exact h.2.symm

theorem transferBenefit_ok (h : transferBenefit env holder caId s = (.ok u, s')) :
    ∃ dist ca s₁ s₂, s.distribution.distributions caId = some dist ∧
      env.corporateAction s caId = some ca ∧
      s.distribution.holderPaid caId holder = false ∧ dist.paymentAt ≤ s.system.now ∧
      benefit ca s dist caId holder ≤ dist.remaining ∧
      Portfolio.unlockTokens dist.from_ dist.currency (benefit ca s dist caId holder) s =
        (.ok (), s₁) ∧
      Asset.baseTransfer env dist.from_ (.defaultPortfolio holder) dist.currency
        (gainOf env ca holder dist.currency (benefit ca s dist caId holder) s) s₁ = (.ok (), s₂) ∧
      s' = s₂.mapDistribution fun d => setDistribution caId
        (some { dist with remaining := dist.remaining - benefit ca s dist caId holder })
        (setHolderPaid caId holder d) := by
  simp [transferBenefit, ensureActiveDistribution, ensureDistributionExists, ensureCaExists,
    unlock] at h
  obtain ⟨hunpaid, dist, ⟨hdist, hstarted, -⟩, ca, hca, -, _, hbenefit, hle, _, s₂,
    ⟨_, s₁, hunlock, htransfer⟩, rfl⟩ := h
  obtain rfl := benefitOf_ok hbenefit
  exact ⟨dist, ca, s₁, s₂, hdist, hca, hunpaid, hstarted, hle, hunlock, htransfer, rfl⟩

theorem transferBenefit_step (h : transferBenefit env holder caId s = (.ok u, s')) :
    DistributionStep s s' (payment env s caId holder).toList := by
  obtain ⟨dist, ca, s₁, s₂, hdist, hca, hunpaid, hstarted, hle, hunlock, htransfer, rfl⟩ :=
    transferBenefit_ok h
  have hmove := Asset.baseTransfer_movements env (Footprint.env_mem_any env) _ _ _ _ htransfer
  have hsame := (unlockTokens_onlyPortfolio _ _ _ hunlock).sameRecords.trans hmove.sameRecords
  have hpayment : payment env s caId holder = some ⟨caId, holder, benefit ca s dist caId holder,
      gainOf env ca holder dist.currency (benefit ca s dist caId holder) s⟩ := by
    simp only [payment, hdist, hca]
  rw [hpayment]
  refine .pay _ dist hdist hunpaid hstarted hle ?_
  rw [← hsame.distribution]
  rfl

theorem unverifiedDistribute_step {originData : PermissionedCallOriginData}
    {portfolio : PortfolioKind} {currency : Ticker} {amount : ℕ} {paymentAt : Moment}
    {expiresAt : Option Moment}
    (h : unverifiedDistribute env originData caId portfolio currency perShare amount paymentAt
      expiresAt s = (.ok u, s')) :
    DistributionStep s s' [] := by
  simp [unverifiedDistribute] at h
  obtain ⟨-, -, -, hnone, -, -, ca, -, -, -, -, -, rfl⟩ := h
  exact .create caId _ hnone rfl rfl

theorem reclaim_step (h : reclaim env origin caId s = (.ok u, s')) :
    DistributionStep s s' [] := by
  simp [reclaim, ensureDistributionExists, unlock] at h
  obtain ⟨_, -, dist, hdist, -, -, -, _, s₁, hunlock, rfl⟩ := h
  refine .reclaim caId dist hdist ?_
  rw [← (unlockTokens_onlyPortfolio _ _ _ hunlock).sameRecords.distribution]
  rfl

theorem unverifiedRemoveDistribution_step (hdist : s.distribution.distributions caId = some dist)
    (h : unverifiedRemoveDistribution caId dist s = (.ok u, s')) :
    DistributionStep s s' [] := by
  simp [unverifiedRemoveDistribution, ensureDistributionNotStarted, unlock] at h
  obtain ⟨hnow, _, s₁, hunlock, rfl⟩ := h
  refine .remove caId dist hdist hnow (fun k => unlockTokens_reserve hunlock k) ?_
  rw [← (unlockTokens_onlyPortfolio _ _ _ hunlock).sameRecords.distribution]
  rfl

theorem removeCa_ok (h : removeCa env origin caId s = (.ok u, s')) :
    s' = s ∨ ∃ dist, s.distribution.distributions caId = some dist ∧
      unverifiedRemoveDistribution caId dist s = (.ok u, s') := by
  simp [removeCa, onlyIf_ok] at h
  obtain ⟨-, ca, -, ⟨-, h⟩ | ⟨-, rfl⟩⟩ := h
  · cases hdist : s.distribution.distributions caId with
    | some dist =>
      rw [hdist] at h
      exact .inr ⟨dist, rfl, h⟩
    | none =>
      rw [hdist] at h
      simp [removeDistributionIfAny] at h
      exact .inl h.symm
  · exact .inl rfl

/-- **What a call does to the distributions.** -/
theorem dispatch_distributions (htouches : .distributions ∈ call.touches)
    (h : dispatch env origin call s = (.ok u, s')) :
    DistributionStep s s'
      ((call.payee env origin).bind fun x => payment env s x.1 x.2).toList := by
  cases call with
  | distribute =>
    simp only [dispatch, distribute, run_ok] at h
    obtain ⟨_, -, h⟩ := h
    exact unverifiedDistribute_step h
  | initiateCorporateActionAndDistribute =>
    simp only [dispatch, initiateCorporateActionAndDistribute, run_ok, transaction_ok] at h
    obtain ⟨_, -, _, -, h⟩ := h
    exact unverifiedDistribute_step h
  | claim caId =>
    simp only [dispatch, claim, run_ok] at h
    obtain ⟨holder, hholder, h⟩ := h
    simp only [Call.payee, hholder]
    exact transferBenefit_step h
  | pushBenefit caId holder =>
    simp only [dispatch, pushBenefit, run_ok] at h
    obtain ⟨_, -, h⟩ := h
    exact transferBenefit_step h
  | reclaim => exact reclaim_step h
  | removeDistribution caId =>
    simp [dispatch, removeDistribution, ensureDistributionExists] at h
    obtain ⟨-, dist, hdist, h⟩ := h
    exact unverifiedRemoveDistribution_step hdist h
  | removeCa caId =>
    rcases removeCa_ok h with rfl | ⟨dist, hdist, h⟩
    · exact .same rfl
    · exact unverifiedRemoveDistribution_step hdist h
  | _ => simp [Call.touches] at htouches

end Calls

/-- **Every step of the chain does one of these things to the distributions.** -/
theorem step_distributions (a : Action) (s : Storage) :
    DistributionStep s (step a s) (a.payments s) := by
  rcases step_kept_or_touches (r := .distributions) (by decide) (by decide) (by decide) (by decide)
    a s with hkept | ⟨env, origin, call, rfl, htouches, hstep⟩
  · by_cases hnil : a.payments s = []
    · rw [hnil]
      exact .same hkept
    · obtain ⟨env, origin, call, rfl, hpayee, hstep⟩ := ok_of_onSuccess hnil
      have htouches : .distributions ∈ call.touches := by
        cases call with
        | claim | pushBenefit => exact List.mem_cons_self
        | _ => exact absurd rfl hpayee
      rw [Action.payments, onSuccess_of_ok hstep]
      exact dispatch_distributions htouches hstep
  · rw [Action.payments, onSuccess_of_ok hstep]
    exact dispatch_distributions htouches hstep

/-! ## Payments -/

/-- **A benefit is paid out**: it is taken from what remains of the distribution, the holder
receives a part of it, and the rest is free in the portfolio of the distributor. -/
structure PaidOut (env : Env) (dist : Distribution) (s s' : Storage) (p : Payment) : Prop where
  benefit : ∃ ca, env.corporateAction s p.caId = some ca ∧ p.benefit =
    balanceAtCp p.caId s p.holder (recordDateCp p.caId s ca) * dist.perShare / perSharePrecision
  deducted : ∃ dist', s'.distribution.distributions p.caId = some dist' ∧
    dist'.remaining + p.benefit = dist.remaining
  received : s'.portfolio.portfolioAssetBalances (.defaultPortfolio p.holder) dist.currency =
    s.portfolio.portfolioAssetBalances (.defaultPortfolio p.holder) dist.currency + p.gain
  unlocked : s'.portfolio.portfolioLockedAssets dist.from_ dist.currency + p.benefit =
    s.portfolio.portfolioLockedAssets dist.from_ dist.currency
  free : freeBalance dist.from_ dist.currency s' + p.gain =
    freeBalance dist.from_ dist.currency s + p.benefit
  /-- What the holder receives and what stays unlocked with the distributor. -/
  divided : s'.portfolio.portfolioAssetBalances (.defaultPortfolio p.holder) dist.currency -
      s.portfolio.portfolioAssetBalances (.defaultPortfolio p.holder) dist.currency +
    (freeBalance dist.from_ dist.currency s' - freeBalance dist.from_ dist.currency s) = p.benefit

theorem gainOf_le (env : Env) (ca : CorporateAction) (holder : IdentityId) (currency : Ticker)
    (benefit : ℕ) (s : Storage) : gainOf env ca holder currency benefit s ≤ benefit := by
  unfold gainOf
  split
  · exact Nat.sub_le _ _
  · exact (Nat.div_mul_le_self _ _).trans (Nat.sub_le _ _)

/-- **How a payment divides the benefit.** -/
theorem transferBenefit_paidOut {u : Unit} (hs : LedgerInv s)
    (h : transferBenefit env holder caId s = (.ok u, s'))
    (hp : payment env s caId holder = some p) :
    ∃ dist, s.distribution.distributions p.caId = some dist ∧ PaidOut env dist s s' p := by
  obtain ⟨dist, ca, s₁, s₂, hdist, hca, -, -, hle, hunlock, htransfer, rfl⟩ := transferBenefit_ok h
  simp only [payment, hdist, hca, Option.some.injEq] at hp
  subst hp
  have hs₁ := Effects.ledgerInv (Portfolio.unlockTokens_effects _ _ _ hunlock) hs
  have hmove := Asset.baseTransfer_movements env (Footprint.env_mem_any env) _ _ _ _ htransfer
  have hdid : dist.from_.did ≠ holder := by
    simp [Asset.baseTransfer] at htransfer
    obtain ⟨_, hdid, -⟩ := Asset.unsafeTransfer_ok env htransfer.2
    exact hdid
  have hne : dist.from_ ≠ .defaultPortfolio holder := fun heq => hdid (congrArg PortfolioId.did heq)
  have hlocked := unlockTokens_reserve hunlock (dist.from_, .inl dist.currency)
  rw [if_pos rfl, ← Movements.reserve_eq hmove hs₁] at hlocked
  have hleg : transferLeg env (.fungible dist.from_ (.defaultPortfolio holder) dist.currency
      (gainOf env ca holder dist.currency (benefit ca s dist caId holder) s)) s₁ = _ := htransfer
  have hbalance := transferLeg_balance hs₁ hleg
  have hsame : s₁.portfolio.portfolioAssetBalances = s.portfolio.portfolioAssetBalances := by
    obtain ⟨-, rfl⟩ := Portfolio.unlockTokens_ok.mp hunlock
    rfl
  have hgiven := hbalance dist.from_ dist.currency
  have hreceived := hbalance (.defaultPortfolio holder) dist.currency
  simp only [Leg.amountFrom, Leg.amountTo, hsame, hne, hne.symm, and_true, if_true, if_false,
    Nat.add_zero] at hgiven hreceived
  have hgain := gainOf_le env ca holder dist.currency (benefit ca s dist caId holder) s
  have hle' := hs.locked_le dist.from_ dist.currency
  have hlocked : s₂.portfolio.portfolioLockedAssets dist.from_ dist.currency +
      benefit ca s dist caId holder =
    s.portfolio.portfolioLockedAssets dist.from_ dist.currency := hlocked
  have hfree : freeBalance dist.from_ dist.currency s₂ +
      gainOf env ca holder dist.currency (benefit ca s dist caId holder) s =
    freeBalance dist.from_ dist.currency s + benefit ca s dist caId holder := by
    simp only [freeBalance]
    omega
  refine ⟨dist, hdist, ⟨ca, hca, rfl⟩, ⟨_, Function.update_self .., Nat.sub_add_cancel hle⟩, hreceived,
    hlocked, hfree, ?_⟩
  show s₂.portfolio.portfolioAssetBalances (.defaultPortfolio holder) dist.currency -
      s.portfolio.portfolioAssetBalances (.defaultPortfolio holder) dist.currency +
    (freeBalance dist.from_ dist.currency s₂ - freeBalance dist.from_ dist.currency s) =
      benefit ca s dist caId holder
  omega

theorem paidOut_of_mem {origin : RuntimeOrigin} (hs : LedgerInv s)
    (hp : p ∈ (Action.extrinsic env origin call).payments s) :
    ∃ dist, s.distribution.distributions p.caId = some dist ∧
      PaidOut env dist s (step (.extrinsic env origin call) s) p := by
  obtain ⟨env', origin', call', heq, -, hstep⟩ := ok_of_onSuccess (List.ne_nil_of_mem hp)
  cases heq
  rw [Action.payments, onSuccess_of_ok hstep, Option.mem_toList] at hp
  cases call with
  | claim caId =>
    simp only [dispatch, claim, run_ok] at hstep
    obtain ⟨holder, hholder, hstep⟩ := hstep
    simp only [Call.payee, hholder] at hp
    exact transferBenefit_paidOut hs hstep hp
  | pushBenefit caId holder =>
    simp only [dispatch, pushBenefit, run_ok] at hstep
    obtain ⟨_, -, hstep⟩ := hstep
    exact transferBenefit_paidOut hs hstep hp
  | _ => cases hp

/-! ## Runs -/

theorem distributionsInv_payments (actions : List Action) :
    DistributionsInv (payments actions) (run step genesis actions).system.now
      (run step genesis actions).distribution := by
  have hgenesis : DistributionsInv [] genesis.system.now genesis.distribution :=
    ⟨.nil, nofun, nofun, nofun⟩
  exact trace_invariant
    (fun past s => DistributionsInv past s.system.now s.distribution)
    (fun past s a hs _ => ((step_distributions a s).inv hs).mono (step_now_le a s)) [] hgenesis
    (along_true genesis actions)

/-- **The accounts of every distribution.** In every run, each holder is paid once by each
distribution at most. What a distribution has given away and what remains of it make up its amount
until it is reclaimed. Of every benefit that is given away, the holder receives a part and the rest
is free with the distributor. And a distribution that is removed has given nothing away, and just
what it has locked is released. -/
theorem distributions_balance (actions : List Action) :
    ((payments actions).map fun p => (p.caId, p.holder)).Nodup ∧
    (∀ caId dist,
      (run step genesis actions).distribution.distributions caId = some dist →
      dist.reclaimed = false → deducted (payments actions) caId + dist.remaining = dist.amount) ∧
    (∀ env origin call,
      ∀ p ∈ (Action.extrinsic env origin call).payments (run step genesis actions),
      ∃ dist,
        (run step genesis actions).distribution.distributions p.caId = some dist ∧
        PaidOut env dist (run step genesis actions)
          (run step genesis (actions ++ [.extrinsic env origin call])) p) ∧
    ∀ a caId dist,
      (run step genesis actions).distribution.distributions caId = some dist →
      (run step genesis (actions ++ [a])).distribution.distributions caId = none →
      dist.remaining = dist.amount ∧ ∀ k,
        reserve (run step genesis (actions ++ [a])) k + dist.due k =
          reserve (run step genesis actions) k := by
  have hinv := distributionsInv_payments actions
  have hreachable : Reachable (run step genesis actions) := ⟨actions, rfl⟩
  have hbooks := (reachable_coverInv hreachable).books
  refine ⟨hinv.once, hinv.tally, fun env origin call p hp => ?_, fun a caId dist hdist hgone => ?_⟩
  · rw [run_append]
    exact paidOut_of_mem hbooks.ledger hp
  · rw [run_append] at hgone ⊢
    exact (step_distributions a _).removal hdist (hbooks.distributions caId dist hdist) hgone

/-- An environment in which everybody is an agent and taxed a quarter, by the holdings at the first
checkpoint. -/
def quarterTaxed : Env :=
  { Env.consenting with
    groupOfAgent := fun _ _ => some .full
    corporateAction := fun _ _ =>
      some ⟨true, some ⟨0, .existing 1⟩, fun _ => true, fun _ => 250000⟩ }

/-- Fifty of a hundred tokens are distributed, two a share of another asset. Its holder has ten at
the record date and more later; they claim, and then are pushed again. -/
def benefitRun : List Action :=
  [.calls 1 (.createAsset ⟨1⟩ true .equityCommon), .calls 1 (.issue ⟨1⟩ 100000000 .default),
    .calls 2 (.createAsset ⟨2⟩ true .equityCommon), .calls 2 (.issue ⟨2⟩ 10000000 .default),
    .calls 2 (.createCheckpoint ⟨2⟩), .calls 2 (.issue ⟨2⟩ 5000000 .default),
    .extrinsic quarterTaxed (.signed ⟨1⟩)
      (.distribute ⟨⟨2⟩, ⟨0⟩⟩ .default ⟨1⟩ 2000000 50000000 5 (some 9)), .nextBlock 5,
    .extrinsic quarterTaxed (.signed ⟨2⟩) (.claim ⟨⟨2⟩, ⟨0⟩⟩),
    .extrinsic quarterTaxed (.signed ⟨1⟩) (.pushBenefit ⟨⟨2⟩, ⟨0⟩⟩ ⟨2⟩)]

/-- The holder is paid once: twenty tokens are given away, of which fifteen are received. -/
theorem distributions_balance_claimed :
    payments benefitRun = [⟨⟨⟨2⟩, ⟨0⟩⟩, ⟨2⟩, 20000000, 15000000⟩] ∧
      ∃ dist, (run step genesis benefitRun).distribution.distributions
        ⟨⟨2⟩, ⟨0⟩⟩ = some dist ∧
        deducted (payments benefitRun) ⟨⟨2⟩, ⟨0⟩⟩ + dist.remaining = 50000000 := by
  have hpayments : payments benefitRun = [⟨⟨⟨2⟩, ⟨0⟩⟩, ⟨2⟩, 20000000, 15000000⟩] := by
    decide +kernel
  have hdist : (run step genesis benefitRun).distribution.distributions
      ⟨⟨2⟩, ⟨0⟩⟩ = some ⟨.defaultPortfolio ⟨1⟩, ⟨1⟩, 2000000, 50000000, 30000000, false, 5, some 9⟩ := by
    decide +kernel
  exact ⟨hpayments, _, hdist, (distributions_balance benefitRun).2.1 _ _ hdist rfl⟩

end CapitalDistribution

end Polymesh
