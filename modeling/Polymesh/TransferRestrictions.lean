import Polymesh.Effects.Steps

/-!
# Transfer restrictions

A transfer is checked against conditions on the numbers that the statistics pallet keeps, from the
balances before it, and the numbers are updated from the balances after it
(`pallets/statistics/src/lib.rs`). The check predicts the update: what it accepts leaves the number
within the bounds of the condition, and what it refuses does not. It fails to do so for a transfer
of nothing, which it takes for the coming or going of an investor, and which is not counted.
-/

namespace Polymesh

open Transactional Tx Collections Relation
open TransitionSystem (run)

/-- A transfer, with the balances before it. -/
structure Transfer where
  sender : IdentityId
  receiver : IdentityId
  senderBalance : ℕ
  receiverBalance : ℕ
  amount : ℕ

namespace TransferCondition

/-- The investors that the condition is about. -/
def key2 : TransferCondition → Stat2ndKey
  | .maxInvestorCount _ | .maxInvestorOwnership _ => .noClaimStat
  | .claimCount claim _ _ _ | .claimOwnership claim _ _ _ => .claim claim

/-- The least and the largest number of investors, for a condition on their number. -/
def countBounds : TransferCondition → Option (ℕ × Option ℕ)
  | .maxInvestorCount max => some (0, some max)
  | .claimCount _ _ min max => some (min, max)
  | _ => none

variable (env : Env) (supply v : ℕ)

/-- The number is above the maximum of the condition. -/
def Exceeds : TransferCondition → Prop
  | .maxInvestorCount max => max < v
  | .claimCount _ _ _ max => ∃ m ∈ max, m < v
  | .maxInvestorOwnership max | .claimOwnership _ _ _ max => 
    max < env.permill.fromRational v supply

/-- The number is below the minimum of the condition. -/
def Below : TransferCondition → Prop
  | .maxInvestorCount _ | .maxInvestorOwnership _ => False
  | .claimCount _ _ min _ => v < min
  | .claimOwnership _ _ min _ => env.permill.fromRational v supply < min

end TransferCondition

namespace Statistics

/-! ## Updates -/

/-- What becomes of a number when investors leave with an amount, others enter, or both. -/
def shift (leaves enters : Bool) (amount old : ℕ) : ℕ :=
  if leaves = enters then old else if leaves then old - amount else satAdd old amount

section Updates

variable (fromKey toKey key : Stat2ndKey) (stats : Stats)

theorem subAt_apply (amount : ℕ) :
    subAt fromKey amount stats key = shift (fromKey = key) false amount (stats key) := by
  by_cases hkey : fromKey = key <;> simp [subAt, shift, hkey, eq_comm]

theorem addAt_apply (amount : ℕ) :
    addAt toKey amount stats key = shift false (toKey = key) amount (stats key) := by
  by_cases hkey : toKey = key <;> simp [addAt, shift, hkey, eq_comm]

theorem move_apply (amount : ℕ) :
    (if fromKey = toKey then stats else addAt toKey amount (subAt fromKey amount stats)) key =
      shift (fromKey = key) (toKey = key) amount (stats key) := by
  by_cases hsame : fromKey = toKey
  · simp [hsame, shift]
  · rw [if_neg hsame, addAt_apply, subAt_apply]
    by_cases hfrom : fromKey = key
    · have hto : toKey ≠ key := fun h => hsame (hfrom.trans h.symm)
      simp [shift, hfrom, hto]
    · simp [shift, hfrom]

theorem updateAssetCountStats_apply (fromChange toChange : Bool) :
    updateAssetCountStats fromKey toKey (fromChange, toChange) stats key =
      shift (fromChange && fromKey = key) (toChange && toKey = key) 1 (stats key) := by
  cases fromChange <;> cases toChange
  · simp [updateAssetCountStats, shift]
  · exact addAt_apply ..
  · exact subAt_apply ..
  · exact move_apply ..

theorem updateAssetBalanceStats_apply (fromBalance toBalance amount : ℕ) :
    updateAssetBalanceStats fromKey toKey (some fromBalance) (some toBalance) amount stats key =
      shift (fromKey = key) (toKey = key) amount (stats key) := by
  rw [← move_apply]
  simp [updateAssetBalanceStats]

end Updates

/-- The change of the balances. -/
def transferred (t : Transfer) : Change :=
  ⟨some t.sender, some t.receiver, some (t.senderBalance - t.amount),
    some (satAdd t.receiverBalance t.amount), t.amount⟩

/-! ## The statistics of conditions -/

/-- The statistics that the conditions of an asset read are among its active ones. -/
def ConditionsActive (s : Storage) : Prop :=
  ∀ ticker, ∀ condition ∈ (s.statistics.ofTicker ticker).assetTransferCompliance.elems,
    condition.getStatType ∈ (s.statistics.ofTicker ticker).activeAssetStats.elems

namespace ConditionsActive

variable {f : Footprint} {s s' : Storage} {u : Unit}

theorem setStatistics (hs : ConditionsActive s) (t : Ticker) {c : TickerStatistics}
    (hc : ∀ condition ∈ c.assetTransferCompliance.elems,
      condition.getStatType ∈ c.activeAssetStats.elems) :
    ConditionsActive (s.setStatistics t c) := by
  intro ticker
  rcases eq_or_ne ticker t with rfl | hne
  · simpa only [Storage.setStatistics, Function.update_self] using hc
  · simpa only [Storage.setStatistics, Function.update_of_ne hne] using hs ticker

theorem writeStatistics (hs : ConditionsActive s) (env : Env) (t : Ticker) (ch : Change) :
    ConditionsActive (writeStatistics env t ch s) := by
  refine hs.setStatistics t ?_
  split
  · exact hs t
  · exact hs t

theorem movement (hs : ConditionsActive s) (h : Movement f s s') (hf : .statistics ∈ f.kept) :
    ConditionsActive s' := by
  cases h with
  | other _ _ h => exact fun ticker => (h .statistics hf : s'.statistics = _) ▸ hs ticker
  | mint env p t v token | redeem env p t v token => exact writeStatistics hs env t _
  | transfer env p q t v => exact writeStatistics hs env t _
  | transferNfts p q nfts =>
    have hkept : Storage.statistics _ = s.statistics :=
      kept_moveNfts .statistics p q nfts.tokens (s.mapNFT (NFT.transferCounts p.did q.did nfts))
    exact fun ticker => hkept ▸ hs ticker
  | _ => exact hs

theorem effects (hs : ConditionsActive s) (h : EffectsIn f s s') (hf : .statistics ∈ f.kept) :
    ConditionsActive s' := by
  induction h with
  | refl => exact hs
  | tail _ h ih =>
    cases h with
    | record _ h => exact fun ticker => (h .statistics hf : Storage.statistics _ = _) ▸ ih ticker
    | movement h => exact ih.movement h hf
    | _ => exact ih

theorem dispatch (hs : ConditionsActive s) {env : Env} {origin : RuntimeOrigin} {call : Call}
    (hcall : .statistics ∈ call.touches)
    (h : Polymesh.dispatch env origin call s = (.ok u, s')) : ConditionsActive s' := by
  cases call with
  | setActiveAssetStats ticker statTypes =>
    simp [Polymesh.dispatch, setActiveAssetStats] at h
    obtain ⟨-, -, hunused, rfl⟩ := h
    refine hs.setStatistics ticker fun condition hmem => ?_
    by_contra hremoved
    exact hunused _ (hs ticker condition hmem) hremoved condition hmem rfl
  | batchUpdateAssetStats ticker statType values =>
    simp [Polymesh.dispatch, batchUpdateAssetStats] at h
    obtain ⟨-, -, rfl⟩ := h
    exact hs.setStatistics ticker (hs ticker)
  | setAssetTransferCompliance ticker conditions =>
    simp [Polymesh.dispatch, setAssetTransferCompliance] at h
    obtain ⟨-, -, hactive, rfl⟩ := h
    exact hs.setStatistics ticker hactive
  | _ => simp [Call.touches] at hcall

end ConditionsActive

/-- **The numbers that conditions read are kept** in every state of the chain. -/
theorem reachable_conditionsActive {s : Storage} (h : Reachable s) : ConditionsActive s := by
  refine h.invariant ConditionsActive (fun _ _ hmem => absurd hmem List.not_mem_nil) fun s a hs => ?_
  rcases step_effectsIn a s with h | ⟨p, x, -, -, h⟩
  · by_cases hf : .statistics ∈ (a.footprint s).kept
    · exact hs.effects h hf
    · cases a with
      | extrinsic env origin call =>
        rcases step_extrinsic env origin call s with hstep | hstep
        · rwa [hstep]
        · exact hs.dispatch (not_not.mp hf) hstep
      | scheduled env id => exact absurd (by simp [Action.footprint]) hf
      | nextBlock elapsed => exact absurd (by simp [Action.footprint]) hf
  · rw [h]
    exact hs

section Agreement

variable {env : Env} {ticker : Ticker} {s s' : Storage} {t : Transfer} {u : Unit}

theorem updateAssetStats_apply {statType : StatType}
    (hactive : statType ∈ (s.statistics.ofTicker ticker).activeAssetStats.elems)
    (h : updateAssetStats env ticker (transferred t) s = (.ok u, s')) (key : Stat2ndKey) :
    (s'.statistics.ofTicker ticker).assetStats statType key =
      if t.amount = 0 then (s.statistics.ofTicker ticker).assetStats statType key
      else updateStats env ticker (transferred t) statType
        ((s.statistics.ofTicker ticker).assetStats statType) key := by
  obtain rfl := updateAssetStats_ok h
  have hnodup := (s.statistics.ofTicker ticker).activeAssetStats.ordered
  have hloop := foldl_replace_apply (updateStats env ticker (transferred t)) hnodup
    (s.statistics.ofTicker ticker).assetStats statType
  rw [if_pos hactive] at hloop
  simp only [writeStatistics, Storage.setStatistics, Function.update_self]
  by_cases hamount : t.amount = 0
  · simp [transferred, hamount]
  · have hchange : (transferred t).amount ≠ 0 := hamount
    rw [if_neg hchange, if_neg hamount]
    exact congrFun hloop key

variable (env ticker t) in
/-- Whether the sender leaves the investors that a condition on numbers is about. -/
def leaves (condition : TransferCondition) : Bool :=
  t.senderBalance - t.amount = 0 &&
    hasMatchingClaim env ticker t.sender condition.getStatType condition.key2

variable (env ticker t) in
/-- Whether the receiver enters them. -/
def enters (condition : TransferCondition) : Bool :=
  satAdd t.receiverBalance t.amount = t.amount &&
    hasMatchingClaim env ticker t.receiver condition.getStatType condition.key2

variable {condition : TransferCondition} {stats : Stats} {min : ℕ} {max : Option ℕ}

theorem updateStats_count (h : condition.countBounds = some (min, max)) :
    updateStats env ticker (transferred t) condition.getStatType stats condition.key2 =
      shift (leaves env ticker t condition) (enters env ticker t condition) 1
        (stats condition.key2) := by
  have hop : condition.getStatType.op = .count := by
    cases condition <;> first | rfl | cases h
  simp only [updateStats, hop, transferred, investorCountChanges, leaves, enters, hasMatchingClaim,
    Option.some.injEq]
  cases decide (t.senderBalance - t.amount = 0) <;>
    cases decide (satAdd t.receiverBalance t.amount = t.amount)
  · simp [shift]
  all_goals exact updateAssetCountStats_apply ..

variable {exempt : TransferConditionExemptKey → IdentityId → Bool} {c : TickerStatistics}
  {supply : ℕ}

variable (env ticker exempt c t supply) in
/-- Whether a condition lets the transfer pass. -/
def accepts (condition : TransferCondition) : Bool :=
  checkTransferCondition env ticker exempt c.assetStats condition t.sender t.receiver
    t.receiverBalance t.amount supply (investorCountChanges (some (t.senderBalance - t.amount))
      (some (satAdd t.receiverBalance t.amount)) t.amount)

variable (hexempt : isExempt ticker exempt condition t.sender t.receiver = false)

include hexempt

/-- The check of a condition on numbers: a number that somebody leaves is above the minimum, one
that somebody enters below the maximum. -/
theorem accepts_count (h : condition.countBounds = some (min, max)) :
    accepts env ticker t exempt c supply condition = true ↔
      leaves env ticker t condition = enters env ticker t condition ∨
        (leaves env ticker t condition = true →
          min = 0 ∨ min < c.assetStats condition.getStatType condition.key2) ∧
        (enters env ticker t condition = true →
          ∀ m ∈ max, c.assetStats condition.getStatType condition.key2 < m) := by
  simp only [accepts, checkTransferCondition, hexempt, Bool.or_false, investorCountChanges,
    leaves, enters, Option.some.injEq]
  generalize decide (t.senderBalance - t.amount = 0) = fromChange
  generalize decide (satAdd t.receiverBalance t.amount = t.amount) = toChange
  cases condition with
  | maxInvestorCount maxCount =>
    cases h
    have hmatches (did : IdentityId) : hasMatchingClaim env ticker did
        (TransferCondition.maxInvestorCount maxCount).getStatType .noClaimStat = true := rfl
    cases fromChange <;> cases toChange <;>
      simp [verifyAssetCountRestriction, TransferCondition.key2, hmatches]
  | claimCount claim issuer min max =>
    cases h
    simp only [TransferCondition.key2, verifyClaimCountRestriction]
    generalize hasMatchingClaim env ticker t.sender _ _ = fromMatches
    generalize hasMatchingClaim env ticker t.receiver _ _ = toMatches
    cases fromChange <;> cases toChange <;> cases fromMatches <;> cases toMatches <;>
      simp [Nat.pos_iff_ne_zero, or_iff_not_imp_left]
  | maxInvestorOwnership | claimOwnership => cases h

theorem accepts_ownership {claim : StatClaim} {issuer : IdentityId} {min max : Percentage}
    (h : condition = .claimOwnership claim issuer min max) :
    let old := c.assetStats condition.getStatType condition.key2
    let fromMatches := hasMatchingClaim env ticker t.sender condition.getStatType condition.key2
    let toMatches := hasMatchingClaim env ticker t.receiver condition.getStatType condition.key2
    accepts env ticker t exempt c supply condition = true ↔
      fromMatches = toMatches ∨
        (fromMatches = true → min ≤ env.permill.fromRational (old - t.amount) supply) ∧
        (toMatches = true → env.permill.fromRational (satAdd old t.amount) supply ≤ max) := by
  subst h
  simp only [accepts, checkTransferCondition, hexempt, Bool.or_false, TransferCondition.key2,
    verifyClaimOwnershipRestriction]
  generalize hasMatchingClaim env ticker t.sender _ _ = fromMatches
  generalize hasMatchingClaim env ticker t.receiver _ _ = toMatches
  cases fromMatches <;> cases toMatches <;> simp

omit hexempt

variable (env condition supply) in
/-- The check predicts what happens to a number: what it accepts leaves it as it is or within the
bound that it moves to, and what it refuses is out of bounds. -/
def Agrees (accepted : Bool) (old new : ℕ) : Prop :=
  (accepted = true → new = old ∨ old < new ∧ ¬ condition.Exceeds env supply new ∨
    new < old ∧ ¬ condition.Below env supply new) ∧
  (accepted = false → condition.Exceeds env supply new ∨ condition.Below env supply new)

variable (env ticker t condition) in
/-- A number of investors is within its bounds, and at the one that a transfer is taken to move it
beyond. -/
def AtBound (old : ℕ) : Prop :=
  ∃ min max, condition.countBounds = some (min, max) ∧ min ≤ old ∧ (∀ m ∈ max, old ≤ m) ∧
    (leaves env ticker t condition = true ∧ enters env ticker t condition = false ∧ 0 < min ∧
        old = min ∨
      enters env ticker t condition = true ∧ leaves env ticker t condition = false ∧
        max = some old)

theorem agrees_count_iff {l e accepted : Bool} {amount old new : ℕ} (hold : old ≤ balanceMax)
    (hmax : ∀ m ∈ max, m < balanceMax) (hnew : new = if amount = 0 then old else shift l e 1 old)
    (haccepted : accepted = true ↔ l = e ∨ (l = true → min = 0 ∨ min < old) ∧
      (e = true → ∀ m ∈ max, old < m)) :
    ((accepted = true → new = old ∨ old < new ∧ ¬ (∃ m ∈ max, m < new) ∨ new < old ∧ ¬ new < min) ∧
      (accepted = false → (∃ m ∈ max, m < new) ∨ new < min)) ↔
    ¬ (amount = 0 ∧ min ≤ old ∧ (∀ m ∈ max, old ≤ m) ∧
      (l = true ∧ e = false ∧ 0 < min ∧ old = min ∨ e = true ∧ l = false ∧ max = some old)) := by
  have hsat : satAdd old 1 = old ∧ old = balanceMax ∨ satAdd old 1 = old + 1 := by
    unfold satAdd
    omega
  subst hnew
  cases l <;> cases e
  · simp [shift, haccepted]
  · cases max <;> cases accepted <;> simp [shift] at * <;> split_ifs <;> omega
  · cases max <;> cases accepted <;> simp [shift] at * <;> split_ifs <;> omega
  · simp [shift, haccepted]

theorem agrees_ownership (share : ℕ → ℕ) {l e accepted : Bool} {amount old new min max : ℕ}
    (hold : old ≤ balanceMax) (hnew : new = shift l e amount old)
    (haccepted : accepted = true ↔ l = e ∨ (l = true → min ≤ share (old - amount)) ∧
      (e = true → share (satAdd old amount) ≤ max)) :
    (accepted = true → new = old ∨ old < new ∧ ¬ max < share new ∨ new < old ∧ ¬ share new < min) ∧
      (accepted = false → max < share new ∨ share new < min) := by
  have hsat : old ≤ satAdd old amount := le_min (Nat.le_add_right _ _) hold
  subst hnew
  cases l <;> cases e
  · simp [shift, haccepted]
  · cases accepted <;> simp [shift] at * <;> omega
  · cases accepted <;> simp [shift] at * <;> omega
  · simp [shift, haccepted]

/-- **The check of a condition agrees with the update** of its number, unless nothing is
transferred and the number is at the bound that the transfer is taken to move it beyond. -/
theorem restrictions_agree_iff
    (hexempt : isExempt ticker exempt condition t.sender t.receiver = false)
    (hcondition : ∀ max, condition ≠ .maxInvestorOwnership max)
    (hrange : ∀ min max, condition.countBounds = some (min, max) → ∀ m ∈ max, m < 2 ^ 64)
    (hs : Reachable s)
    (hmem : condition ∈ (s.statistics.ofTicker ticker).assetTransferCompliance.elems)
    (hold : (s.statistics.ofTicker ticker).assetStats condition.getStatType condition.key2 <
      2 ^ 128)
    (hupdate : updateAssetStats env ticker (transferred t) s = (.ok (), s')) :
    let old := (s.statistics.ofTicker ticker).assetStats condition.getStatType condition.key2
    let new := (s'.statistics.ofTicker ticker).assetStats condition.getStatType condition.key2
    Agrees env condition supply
        (accepts env ticker t exempt (s.statistics.ofTicker ticker) supply condition) old new ↔
      ¬ (t.amount = 0 ∧ AtBound env ticker t condition old) := by
  intro old new
  have hactive := reachable_conditionsActive hs ticker condition hmem
  have hnew : new = _ := updateAssetStats_apply hactive hupdate condition.key2
  have hle : old ≤ balanceMax := Nat.le_pred_of_lt hold
  cases hbounds : condition.countBounds with
  | some bounds =>
    obtain ⟨min, max⟩ := bounds
    rw [updateStats_count hbounds] at hnew
    have hmax : ∀ m ∈ max, m < balanceMax := fun m hm =>
      (hrange min max hbounds m hm).trans (by decide)
    have haccepts : accepts env ticker t exempt (s.statistics.ofTicker ticker) supply condition =
      true ↔ _ := accepts_count hexempt hbounds
    have hexceeds : ∀ v, condition.Exceeds env supply v ↔ ∃ m ∈ max, m < v := by
      cases condition <;> cases hbounds <;> simp [TransferCondition.Exceeds]
    have hbelow : ∀ v, condition.Below env supply v ↔ v < min := by
      cases condition <;> cases hbounds <;> simp [TransferCondition.Below]
    simp only [Agrees, AtBound, hexceeds, hbelow, hbounds, Option.some.injEq, Prod.mk.injEq]
    rw [agrees_count_iff hle hmax hnew haccepts]
    simp
  | none =>
    refine iff_of_true ?_ fun hbound => ?_
    · cases condition with
      | maxInvestorCount | claimCount => cases hbounds
      | maxInvestorOwnership max => exact absurd rfl (hcondition max)
      | claimOwnership claim issuer min max =>
        have haccepts : accepts env ticker t exempt (s.statistics.ofTicker ticker) supply _ =
          true ↔ _ := accepts_ownership hexempt rfl
        refine agrees_ownership (env.permill.fromRational · supply) hle (hnew.trans ?_) haccepts
        -- a transfer of nothing leaves the balance as it is
        split
        next hzero => simp [shift, hzero, satAdd, hle, old]
        next => exact updateAssetBalanceStats_apply ..
    · obtain ⟨-, min, max, hsome, -⟩ := hbound
      rw [hbounds] at hsome
      cases hsome

end Agreement

/-- One investor, and no more than one allowed. -/
def oneInvestor : Storage :=
  run step genesis
    [.calls 5 (.createAsset ⟨5⟩ true .equityCommon),
      .calls 5 (.setActiveAssetStats ⟨5⟩ ⟨[⟨.count, none⟩], List.pairwise_singleton ..⟩),
      .calls 5 (.issue ⟨5⟩ 5 .default),
      .calls 5 (.setAssetTransferCompliance ⟨5⟩ ⟨[.maxInvestorCount 1], List.pairwise_singleton ..⟩)]

/-- The check refuses a second investor, and there would be two. -/
theorem restrictions_agree_iff_second :
    let t : Transfer := ⟨⟨5⟩, ⟨2⟩, 5, 0, 2⟩
    Agrees .consenting (.maxInvestorCount 1) 5 (accepts .consenting ⟨5⟩ t (fun _ _ => false)
      (oneInvestor.statistics.ofTicker ⟨5⟩) 5 (.maxInvestorCount 1)) 1 2 := by
  intro t
  have hupdate : updateAssetStats .consenting ⟨5⟩ (transferred t) oneInvestor =
    (.ok (), (updateAssetStats .consenting ⟨5⟩ (transferred t) oneInvestor).2) := rfl
  have hrange : ∀ min max, (TransferCondition.maxInvestorCount 1).countBounds = some (min, max) →
      ∀ m ∈ max, m < 2 ^ 64 := by
    rintro _ _ ⟨⟩ m ⟨⟩
    decide
  have hagrees : Agrees .consenting (.maxInvestorCount 1) 5 (accepts .consenting ⟨5⟩ t
      (fun _ _ => false) (oneInvestor.statistics.ofTicker ⟨5⟩) 5 (.maxInvestorCount 1)) 1 2 ↔ _ :=
    restrictions_agree_iff rfl (by simp) hrange ⟨_, rfl⟩ List.mem_cons_self (by decide +kernel)
      hupdate
  exact hagrees.mpr fun h => absurd h.1 (by decide)

/-- The check refuses a transfer of nothing to somebody who is no investor, and the number of
investors would stay what it may be. -/
theorem restrictions_agree_nothing :
    let t : Transfer := ⟨⟨5⟩, ⟨2⟩, 5, 0, 0⟩
    updateAssetStats .consenting ⟨5⟩ (transferred t) oneInvestor = (.ok (), oneInvestor) ∧
      ¬ Agrees .consenting (.maxInvestorCount 1) 5 (accepts .consenting ⟨5⟩ t (fun _ _ => false)
        (oneInvestor.statistics.ofTicker ⟨5⟩) 5 (.maxInvestorCount 1)) 1 1 := by
  refine ⟨rfl, fun h => ?_⟩
  rcases h.2 rfl with hexceeds | hbelow
  · exact lt_irrefl 1 hexceeds
  · exact hbelow

/-! ## Shares of the supply -/

/-- Nobody may own more than the given share. -/
def capped (maxPercentage : Percentage) : TickerStatistics where
  activeAssetStats := ⟨[], .nil⟩
  assetStats := fun _ _ => 0
  assetTransferCompliance :=
    ⟨[.maxInvestorOwnership maxPercentage], List.pairwise_singleton ..⟩

/-- **The cap on the share of an investor is exact** if and only if no balance has a share that is
above it by less than a part per million. -/
theorem ownership_cap_exact_iff (maxPercentage : Percentage) {supply : ℕ}
    (hsupply : supply < 2 ^ 128) :
    (∀ env ticker exempt (c : TickerStatistics) (t : Transfer),
      .maxInvestorOwnership maxPercentage ∈ c.assetTransferCompliance.elems →
      isExempt ticker exempt (.maxInvestorOwnership maxPercentage) t.sender t.receiver = false →
      t.sender ≠ t.receiver → t.amount ≤ t.senderBalance →
      t.senderBalance + t.receiverBalance ≤ supply →
      verifyTransferRestrictions env ticker exempt false c t.sender t.receiver t.senderBalance
        t.receiverBalance t.amount supply = .ok () →
      (t.receiverBalance + t.amount) * 1000000 ≤ maxPercentage * supply) ↔
    ∀ n ≤ supply, n * 1000000 ≤ maxPercentage * supply ∨
      (maxPercentage + 1) * supply ≤ n * 1000000 := by
  -- a balance within the supply does not wrap around
  have hpasses : ∀ env balance amount, balance + amount ≤ supply →
      (verifyOwnershipRestriction env amount balance supply maxPercentage = true ↔
        (balance + amount) * 1000000 < (maxPercentage + 1) * max supply 1) := by
    intro env balance amount hle
    rw [verifyOwnershipRestriction, wrapAdd_eq (hle.trans_lt hsupply), decide_eq_true_iff,
      env.permill.fromRational_le_iff hle]
  constructor
  · intro h n hn
    by_contra hbetween
    push Not at hbetween
    obtain ⟨habove, hbelow⟩ := hbetween
    have hne : (⟨1⟩ : IdentityId) ≠ ⟨2⟩ := by decide
    have hone : supply ≤ max supply 1 := le_max_left ..
    have hpass : verifyOwnershipRestriction .consenting n 0 supply maxPercentage = true := by
      rw [hpasses .consenting 0 n (by simpa using hn), Nat.zero_add]
      exact hbelow.trans_le (Nat.mul_le_mul_left _ hone)
    have hexact := h .consenting ⟨0⟩ (fun _ _ => false) (capped maxPercentage) ⟨⟨1⟩, ⟨2⟩, n, 0, n⟩
      List.mem_cons_self rfl hne le_rfl hn (except_forM_eq_ok.mpr ?_)
    · rw [Nat.zero_add] at hexact
      exact absurd hexact (Nat.not_le.mpr habove)
    · intro condition hcondition
      rw [List.mem_singleton.mp hcondition, ensure_eq_ok, checkTransferCondition, hpass]
      rfl
  · intro h env ticker exempt c t hmem hexempt _ hamount hbalances hverify
    have hle : t.receiverBalance + t.amount ≤ supply := by omega
    have hcheck := except_forM_eq_ok.mp hverify _ hmem
    simp only [ensure_eq_ok, checkTransferCondition, hexempt, Bool.or_false, hpasses _ _ _ hle]
      at hcheck
    rcases Nat.eq_zero_or_pos supply with rfl | hpos
    · simp [Nat.le_zero.mp hle]
    · rw [max_eq_left hpos] at hcheck
      exact (h _ hle).resolve_right (Nat.not_le.mpr hcheck)

/-- A quarter of 1000 is a whole balance. -/
theorem ownership_cap_exact_iff_quarter :
    verifyTransferRestrictions .consenting ⟨5⟩ (fun _ _ => false) false (capped 250000) ⟨1⟩ ⟨2⟩ 500
      200 50 1000 = .ok () ∧ (200 + 50) * 1000000 ≤ 250000 * 1000 := by
  have hverify : verifyTransferRestrictions .consenting ⟨5⟩ (fun _ _ => false) false (capped 250000)
    ⟨1⟩ ⟨2⟩ 500 200 50 1000 = .ok () := by decide +kernel
  have hsupply : 1000 < 2 ^ 128 := by decide
  have hcap := (ownership_cap_exact_iff 250000 hsupply).mpr fun n _ => by omega
  exact ⟨hverify, hcap .consenting ⟨5⟩ (fun _ _ => false) (capped 250000)
    ⟨⟨1⟩, ⟨2⟩, 500, 200, 50⟩ List.mem_cons_self rfl (by decide) (by decide) (by decide) hverify⟩

/-- An investor gets 1500001 of 3000001, which is more than half. -/
theorem ownership_cap_exact_exceeded :
    verifyTransferRestrictions .consenting ⟨5⟩ (fun _ _ => false) false (capped 500000) ⟨1⟩ ⟨2⟩
      3000001 0 1500001 3000001 = .ok () ∧ ¬ (0 + 1500001) * 1000000 ≤ 500000 * 3000001 := by
  decide +kernel

end Statistics

end Polymesh
