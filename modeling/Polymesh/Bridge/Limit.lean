import Polymesh.Bridge.Once

/-!
# The limit of the bridge

An identity that is not exempted receives at most the limit of the bridge in one interval of blocks.
What it has received is recorded with the interval of the last credit, and is written over by the
first credit of another interval. So the record bounds what was credited in the current interval,
and nothing is credited in an interval that is over.
-/

namespace Polymesh

open Transactional Tx TransitionSystem

namespace Bridge

/-! ## Credits that count -/

/-- A credit to an account of an identity. -/
structure Credit where
  did : IdentityId
  amount : ℕ
  block : BlockNumber
deriving DecidableEq

/-- The credit, if the account is one of an identity that is not exempted. -/
def countedCredit (env : Env) (exempted : IdentityId → Bool) : Event → Option Credit
  | .credited key amount block =>
    match env.getKeyCddDid key.1 with
    | some did => if exempted did then none else some ⟨did, amount, block⟩
    | none => none
  | _ => none

/-- The credits that count among the events since the state `s`. -/
def countedSince (env : Env) (s s' : Storage) : List Credit :=
  (s'.history.drop s.history.length).filterMap (countedCredit env s.bridgeLimitExempted)

/-- The credits of a step that count against the limit: those of forced transactions do not. -/
def counted (s : Storage) (a : Action) : List Credit :=
  match a with
  | .call _ _ (.forceHandleBridgeTx _) => []
  | .call env _ _ | .task env _ => countedSince env s (step a s)
  | _ => []

/-- What an identity receives by the credits. -/
def total (did : IdentityId) (credits : List Credit) : ℕ :=
  ((credits.filter (·.did = did)).map (·.amount)).sum

@[simp] theorem total_nil (did : IdentityId) : total did [] = 0 := rfl

theorem total_append (did : IdentityId) (cs ds : List Credit) :
    total did (cs ++ ds) = total did cs + total did ds := by
  simp [total]

theorem total_singleton (did : IdentityId) (c : Credit) :
    total did [c] = if c.did = did then c.amount else 0 := by
  by_cases h : c.did = did <;> simp [total, h]

/-- What is recorded of an identity in the current interval. -/
def spent (duration : BlockNumber) (s : Storage) (did : IdentityId) : ℕ :=
  if (s.polyxBridged did).2 = s.block / duration then (s.polyxBridged did).1 else 0

/-! ## Handling a transaction -/

/-- The block and the settings that the limit depends on. -/
def Storage.limits (s : Storage) := (s.block, s.bridgeLimit, s.bridgeLimitExempted)

/-- Between the two states something was noted, and the credits in it that count are on record. -/
structure Charged (env : Env) (s s' : Storage) : Prop where
  limits : s'.limits = s.limits
  history : s.history <+: s'.history
  block : ∀ c ∈ countedSince env s s', c.block = s.block
  recorded : ∀ did, spent s.bridgeLimit.2 s did + total did (countedSince env s s') ≤
    spent s.bridgeLimit.2 s' did
  limited : ∀ did, spent s.bridgeLimit.2 s' did ≤ s.bridgeLimit.1 ∨
    spent s.bridgeLimit.2 s' did = spent s.bridgeLimit.2 s did

variable {did : IdentityId} {amount paid : ℕ} {u : Unit} {bridgeTx : BridgeTx} {origin : Origin}
  {a : Action}

section Handling

variable {env : Env} {s s' s'' : Storage}

theorem countedSince_eq {events : List Event} (h : s'.history = s.history ++ events) :
    countedSince env s s' = events.filterMap (countedCredit env s.bridgeLimitExempted) := by
  rw [countedSince, h, List.drop_left]

theorem Charged.of_quiet (events : List Event) (hlimits : s'.limits = s.limits)
    (hrecord : s'.polyxBridged = s.polyxBridged) (hhistory : s'.history = s.history ++ events)
    (hevents : ∀ e ∈ events, countedCredit env s.bridgeLimitExempted e = none) :
    Charged env s s' := by
  have hnone : countedSince env s s' = [] := by
    rw [countedSince_eq hhistory, List.filterMap_eq_nil_iff]
    exact hevents
  have hspent : ∀ did, spent s.bridgeLimit.2 s' did = spent s.bridgeLimit.2 s did := by
    intro did
    simp only [Storage.limits, Prod.mk.injEq] at hlimits
    rw [spent, spent, hrecord, hlimits.1]
  refine ⟨hlimits, ⟨events, hhistory.symm⟩, ?_, fun did => ?_, fun did => .inr (hspent did)⟩
  · rw [hnone]
    exact fun _ h => absurd h List.not_mem_nil
  · rw [hnone, hspent, total_nil, add_zero]

theorem Charged.of_silent (hlimits : s'.limits = s.limits)
    (hrecord : s'.polyxBridged = s.polyxBridged) (hhistory : s'.history = s.history) :
    Charged env s s' :=
  .of_quiet [] hlimits hrecord (hhistory.trans (List.append_nil _).symm)
    fun _ h => absurd h List.not_mem_nil

theorem Charged.refl (env : Env) (s : Storage) : Charged env s s := .of_silent rfl rfl rfl

theorem Charged.trans (h : Charged env s s') (h' : Charged env s' s'') : Charged env s s'' := by
  have hlimits := h.limits
  simp only [Storage.limits, Prod.mk.injEq] at hlimits
  obtain ⟨hblock, hlimit, hexempted⟩ := hlimits
  obtain ⟨events, hevents⟩ := h.history
  obtain ⟨events', hevents'⟩ := h'.history
  have hsince : countedSince env s s'' = countedSince env s s' ++ countedSince env s' s'' := by
    rw [countedSince_eq hevents.symm, countedSince_eq hevents'.symm, hexempted,
      ← List.filterMap_append]
    exact countedSince_eq (by rw [← hevents', ← hevents, List.append_assoc])
  have hrecorded := h'.recorded
  have hlimited := h'.limited
  rw [hlimit] at hrecorded hlimited
  refine ⟨h'.limits.trans h.limits, h.history.trans h'.history, ?_, fun did => ?_, fun did => ?_⟩
  · rw [hsince]
    intro c hc
    rcases List.mem_append.mp hc with hc | hc
    · exact h.block c hc
    · exact (h'.block c hc).trans hblock
  · have h₁ := h.recorded did
    have h₂ := hrecorded did
    rw [hsince, total_append]
    omega
  · rcases hlimited did with h₂ | h₂
    · exact .inl h₂
    · rw [h₂]
      exact h.limited did

instance : Std.Refl (Charged env) := ⟨Charged.refl env⟩

instance : IsTrans Storage (Charged env) := ⟨fun _ _ _ => Charged.trans⟩

theorem deposited_le (recipient : AccountId) (amount : ℕ) (balances : Currency.Storage) :
    deposited recipient amount balances ≤ amount := by
  by_cases hzero : amount = 0
  · subst hzero
    rfl
  · simp only [deposited, Currency.depositCreating, if_neg hzero]
    cases checkedAdd 128 (balances.account recipient).free amount with
    | none => exact Nat.zero_le amount
    | some free => exact le_rfl

/-- Record what an identity has received in the current interval. -/
def recordBridged (did : IdentityId) (amount : ℕ) (s : Storage) : Storage :=
  { s with
    polyxBridged := Function.update s.polyxBridged did (amount, s.block / s.bridgeLimit.2) }

theorem spent_recordBridged (did did' : IdentityId) (amount : ℕ) :
    spent s.bridgeLimit.2 (recordBridged did amount s) did' =
      if did' = did then amount else spent s.bridgeLimit.2 s did' := by
  unfold spent recordBridged
  by_cases h : did' = did
  · subst h
    simp
  · simp [h]

theorem countBridged_ok (h : countBridged did amount s = (.ok u, s')) :
    amount + spent s.bridgeLimit.2 s did ≤ s.bridgeLimit.1 ∧
      s' = recordBridged did (amount + spent s.bridgeLimit.2 s did) s := by
  simp only [countBridged, run_ok] at h
  obtain ⟨-, totalMint, htotal, hle, rfl⟩ := h
  have hmint : totalMint = amount + spent s.bridgeLimit.2 s did := by
    unfold spent
    split_ifs at htotal ⊢ with hinterval
    · simp only [okOr_eq_ok, checkedAdd_eq_some] at htotal
      exact htotal.2.symm
    · exact (Except.ok.inj htotal).symm
  subst hmint
  exact ⟨hle, rfl⟩

/-- **A credit** that is not forced is on record, unless the identity is exempted. -/
theorem finish_charged (detail : BridgeTxDetail)
    (h : issue env bridgeTx.recipient amount none s = (.ok paid, s')) :
    Charged env s (finish bridgeTx detail paid s') := by
  simp only [issue, ↓run_ok, bind_ok, okOr_eq_ok, Option.none_or] at h
  obtain ⟨did, _, ⟨hdid, rfl⟩, _, s₁, hcount, rfl, rfl⟩ := h
  have hpaid := deposited_le bridgeTx.recipient amount s.balances
  generalize deposited bridgeTx.recipient amount s.balances = paid at hpaid ⊢
  rcases onlyIf_ok.mp hcount with ⟨⟨-, hexempted⟩, hcount⟩ | ⟨hexempted, rfl⟩
  · obtain ⟨hle, rfl⟩ := countBridged_ok hcount
    set s₂ := finish bridgeTx detail paid (deposit env bridgeTx.recipient amount
      (recordBridged did (amount + spent s.bridgeLimit.2 s did) s)) with hs₂
    have hevents : s₂.history = s.history ++ [.credited bridgeTx.key paid s.block] := rfl
    have hsince : countedSince env s s₂ = [⟨did, paid, s.block⟩] := by
      rw [countedSince_eq hevents]
      simp [countedCredit, BridgeTx.key, hdid, hexempted]
    have hspent : ∀ did', spent s.bridgeLimit.2 s₂ did' =
        if did' = did then amount + spent s.bridgeLimit.2 s did else spent s.bridgeLimit.2 s did' :=
      fun did' => spent_recordBridged did did' _
    refine ⟨rfl, ⟨_, hevents.symm⟩, ?_, fun did' => ?_, fun did' => ?_⟩
    · rw [hsince]
      simp
    · rw [hsince, hspent, total_singleton]
      split_ifs with h₁ h₂ h₃
      · subst h₁
        dsimp only
        omega
      · exact absurd h₁.symm h₂
      · exact absurd h₃ (Ne.symm h₁)
      · exact le_rfl
    · rw [hspent]
      split_ifs
      · exact .inl hle
      · exact .inr rfl
  · -- the identity is exempted
    refine .of_quiet [.credited bridgeTx.key paid s.block] rfl rfl rfl ?_
    have hexempted' : s.bridgeLimitExempted did = true := by simpa using hexempted
    simp [countedCredit, BridgeTx.key, hdid, hexempted']

theorem putDetail_charged (key : Key) (detail : BridgeTxDetail) :
    Charged env s (putDetail key detail s) :=
  .of_silent rfl rfl rfl

theorem noteSubmission_charged (sender : AccountId) (bridgeTx : BridgeTx) :
    Charged env s (noteSubmission sender bridgeTx s) := by
  refine .of_quiet [_] rfl rfl rfl fun e he => ?_
  rw [List.mem_singleton.mp he]
  rfl

variable {detail : BridgeTxDetail} {untrusted : Bool}

theorem handleBridgeTxLater_charged {timelock : BlockNumber}
    (h : handleBridgeTxLater env bridgeTx detail timelock s = (.ok u, s')) : Charged env s s' := by
  simp only [handleBridgeTxLater, scheduleCall, ↓run_ok, bind_ok] at h
  obtain ⟨r, _, ⟨-, rfl⟩, _, _, ⟨_, _, ⟨-, rfl⟩, rfl⟩, rfl⟩ := h
  exact .of_silent rfl rfl rfl

theorem handleBridgeTxNow_rule {exemptedDid : Option IdentityId} {P : Storage → Prop} (hrefl : P s)
    (hlater : ∀ {s' timelock u},
      handleBridgeTxLater env bridgeTx detail timelock s = (.ok u, s') → P s')
    (hfinish : ∀ {s' amount paid}, issue env bridgeTx.recipient amount exemptedDid s =
      (.ok paid, s') → P (finish bridgeTx detail paid s'))
    (h : handleBridgeTxNow env bridgeTx detail untrusted exemptedDid s = (.ok u, s')) : P s' := by
  simp only [handleBridgeTxNow, run_ok] at h
  obtain ⟨-, -, h⟩ := h
  split at h
  case isTrue hfrozen =>
    simp only [run_ok] at h
    obtain ⟨-, h⟩ := h
    exact hlater h
  case isFalse hfrozen =>
    simp only [bind_ok, attempt_ok] at h
    obtain ⟨result, s₁, hissue, h⟩ := h
    cases result with
    | ok paid =>
      obtain rfl := modify_ok.mp h
      exact hfinish hissue
    | error e =>
      obtain ⟨rfl, -⟩ := issue_error hissue
      cases untrusted with
      | true => exact absurd h fail_ok
      | false =>
        simp only [Bool.false_eq_true, if_false, ↓run_ok, bind_ok, attempt_ok] at h
        obtain ⟨result, _, hresult, -, rfl⟩ := h
        cases result with
        | ok _ => exact hlater hresult
        | error _ =>
          rw [handleBridgeTxLater_error hresult]
          exact hrefl

/-- **Handling a transaction** that is not forced charges what it credits. -/
theorem handleBridgeTxNow_charged
    (h : handleBridgeTxNow env bridgeTx detail untrusted none s = (.ok u, s')) :
    Charged env s s' :=
  handleBridgeTxNow_rule (.refl env s) handleBridgeTxLater_charged (finish_charged detail) h

/-! ## Calls -/

theorem baseHandleBridgeTx_charged (h : baseHandleBridgeTx env origin bridgeTx s = (.ok u, s')) :
    Charged env s s' := by
  simp only [baseHandleBridgeTx, run_ok] at h
  obtain ⟨sender, -, h⟩ := h
  cases hstatus : (s.details bridgeTx.key).status with
  | absent =>
    simp only [hstatus, run_ok] at h
    obtain ⟨_, -, h⟩ := h
    refine (noteSubmission_charged sender bridgeTx).trans ?_
    split at h
    case isTrue => exact handleBridgeTxNow_charged h
    case isFalse => exact handleBridgeTxLater_charged h
  | pending tries =>
    simp only [hstatus] at h
    exact handleBridgeTxNow_charged h
  | frozen =>
    simp only [hstatus, run_ok] at h
    obtain ⟨_, -, rfl⟩ := h
    exact (noteSubmission_charged sender bridgeTx).trans (putDetail_charged _ _)
  | timelocked | handled =>
    simp only [hstatus] at h
    exact absurd h fail_ok

theorem baseHandleScheduledBridgeTx_charged
    (h : baseHandleScheduledBridgeTx env origin bridgeTx s = (.ok u, s')) : Charged env s s' := by
  simp only [baseHandleScheduledBridgeTx, run_ok] at h
  obtain ⟨_, -, h⟩ := h
  exact handleBridgeTxNow_charged h

theorem unfreezeTx_charged (bridgeTx : BridgeTx) (s : Storage) :
    Charged env s (unfreezeTx env bridgeTx s) := by
  by_cases hfrozen : (s.details bridgeTx.key).status = .frozen
  · rw [unfreezeTx, if_pos hfrozen]
    dsimp only
    generalize { s.details bridgeTx.key with status := BridgeTxStatus.absent } = detail
    refine (putDetail_charged bridgeTx.key detail).trans ?_
    rcases h : handleBridgeTxNow env bridgeTx detail true none (putDetail bridgeTx.key detail s)
      with ⟨e | u, s'⟩
    · rw [handleBridgeTxNow_error h]
      exact .refl env _
    · exact handleBridgeTxNow_charged h
  · rw [unfreezeTx, if_neg hfrozen]
    exact .refl env s

theorem freezeTx_charged (bridgeTx : BridgeTx) (s : Storage) :
    Charged env s (freezeTx bridgeTx s) := by
  unfold freezeTx
  dsimp only
  split
  · exact putDetail_charged _ _
  · exact .refl env s

theorem removeTx_charged (bridgeTx : BridgeTx) (s : Storage) :
    Charged env s (removeTx bridgeTx s) := by
  refine .of_quiet [.removed bridgeTx.key] rfl rfl rfl fun e he => ?_
  rw [List.mem_singleton.mp he]
  rfl

theorem run_charged {f : BridgeTx → Storage → Storage}
    (hf : ∀ bridgeTx s, Charged env s (f bridgeTx s)) (s : Storage) (bridgeTxs : List BridgeTx) :
    Charged env s (run f s bridgeTxs) :=
  run_rel (fun _ => True) (Charged env) (fun _ _ _ _ => trivial)
    (fun s bridgeTx _ _ => hf bridgeTx s) trivial (along_true s bridgeTxs)

end Handling

/-! ## Steps -/

/-- The credits of a step are on record, and within the limit. -/
structure Accounted (limit : ℕ) (duration : BlockNumber) (s s' : Storage) (credits : List Credit) :
    Prop where
  block : s'.block = s.block
  now : ∀ c ∈ credits, c.block = s.block
  recorded : ∀ did, spent duration s did + total did credits ≤ spent duration s' did
  limited : ∀ did, spent duration s' did ≤ limit ∨ spent duration s' did = spent duration s did

section Steps

variable {limit : ℕ} {duration : BlockNumber} {env : Env} {s s' : Storage}

theorem Charged.accounted (h : Charged env s s') (hlimit : s.bridgeLimit = (limit, duration)) :
    Accounted limit duration s s' (countedSince env s s') := by
  have hlimits := h.limits
  simp only [Storage.limits, Prod.mk.injEq] at hlimits
  have hrecorded := h.recorded
  have hlimited := h.limited
  rw [hlimit] at hrecorded hlimited
  exact ⟨hlimits.1, h.block, hrecorded, hlimited⟩

theorem Accounted.of_unrecorded (hblock : s'.block = s.block)
    (hrecord : s'.polyxBridged = s.polyxBridged) : Accounted limit duration s s' [] := by
  have hspent : ∀ did, spent duration s' did = spent duration s did := by
    intro did
    rw [spent, spent, hrecord, hblock]
  refine ⟨hblock, fun _ h => absurd h List.not_mem_nil, fun did => ?_, fun did => .inr (hspent did)⟩
  rw [hspent, total_nil, add_zero]

theorem Accounted.refl (limit : ℕ) (duration : BlockNumber) (s : Storage) :
    Accounted limit duration s s [] :=
  .of_unrecorded rfl rfl

theorem countedSince_of_history (h : s'.history = s.history) : countedSince env s s' = [] := by
  rw [countedSince, h, List.drop_length]
  rfl

theorem issue_exempted {recipient : AccountId}
    (h : issue env recipient amount (some did) s = (.ok paid, s')) :
    s' = deposit env recipient amount s := by
  simp only [issue, ↓run_ok, bind_ok] at h
  obtain ⟨_, _, ⟨-, rfl⟩, _, s₁, hcount, -, rfl⟩ := h
  rcases onlyIf_ok.mp hcount with ⟨⟨hnone, -⟩, -⟩ | ⟨-, rfl⟩
  · cases hnone
  · rfl

theorem force_accounted (h : baseForceHandleBridgeTx env origin bridgeTx s = (.ok u, s')) :
    Accounted limit duration s s' [] := by
  simp only [baseForceHandleBridgeTx, run_ok] at h
  obtain ⟨sender, -, did, -, h⟩ := h
  have hnoted : Accounted limit duration s (noteSubmission sender bridgeTx s) [] :=
    .of_unrecorded rfl rfl
  refine handleBridgeTxNow_rule (P := fun s' => Accounted limit duration s s' []) hnoted
    (fun hlater => ?_) (fun hissue => ?_) h
  · simp only [handleBridgeTxLater, scheduleCall, ↓run_ok, bind_ok] at hlater
    obtain ⟨r, _, ⟨-, rfl⟩, _, _, ⟨_, _, ⟨-, rfl⟩, rfl⟩, rfl⟩ := hlater
    exact .of_unrecorded rfl rfl
  · rw [issue_exempted hissue]
    exact .of_unrecorded rfl rfl

variable {call : Call}

theorem setting_unrecorded (hcall : call.IsSetting) (h : dispatch env origin call s = (.ok u, s')) :
    s'.block = s.block ∧ s'.polyxBridged = s.polyxBridged ∧ s'.history = s.history := by
  have hchange : ∀ {change : Storage → Storage}, changeSetting env origin change s = (.ok u, s') →
      s' = change s := by
    intro change h
    simp only [changeSetting, run_ok] at h
    obtain ⟨_, -, rfl⟩ := h
    rfl
  have hfreeze : ∀ {freeze : Bool}, setFreeze env origin freeze s = (.ok u, s') →
      s' = { s with frozen := freeze } := by
    intro freeze h
    simp only [setFreeze, run_ok] at h
    obtain ⟨_, -, _, -, rfl⟩ := h
    rfl
  cases call with
  | changeController controller | changeAdmin admin | changeTimelock timelock =>
    rw [hchange h]; exact ⟨rfl, rfl, rfl⟩
  | freeze | unfreeze => rw [hfreeze h]; exact ⟨rfl, rfl, rfl⟩
  | changeBridgeLimit amount duration =>
    simp only [dispatch, baseChangeBridgeLimit, run_ok] at h
    obtain ⟨_, -, -, rfl⟩ := h
    exact ⟨rfl, rfl, rfl⟩
  | changeBridgeExempted exempted | addFreezeAdmin freezeAdmin | removeFreezeAdmin freezeAdmin =>
    rw [hchange h]; exact ⟨rfl, rfl, rfl⟩
  | _ => exact hcall.elim

theorem counted_call (hcall : ∀ bridgeTx, call ≠ .forceHandleBridgeTx bridgeTx) :
    counted s (.call env origin call) = countedSince env s (step (.call env origin call) s) := by
  cases call with
  | forceHandleBridgeTx bridgeTx => exact absurd rfl (hcall bridgeTx)
  | _ => rfl

theorem dispatch_accounted (hlimit : s.bridgeLimit = (limit, duration))
    (hcall : ∀ bridgeTx, call ≠ .forceHandleBridgeTx bridgeTx)
    (h : dispatch env origin call s = (.ok u, s')) :
    Accounted limit duration s s' (countedSince env s s') := by
  by_cases hsetting : call.IsSetting
  · obtain ⟨hblock, hrecord, hhistory⟩ := setting_unrecorded hsetting h
    rw [countedSince_of_history hhistory]
    exact .of_unrecorded hblock hrecord
  · refine Charged.accounted ?_ hlimit
    cases call with
    | forceHandleBridgeTx bridgeTx => exact absurd rfl (hcall bridgeTx)
    | handleBridgeTx bridgeTx => exact baseHandleBridgeTx_charged h
    | handleScheduledBridgeTx bridgeTx => exact baseHandleScheduledBridgeTx_charged h
    | freezeTxs bridgeTxs =>
      simp only [dispatch, baseFreezeTxs, run_ok] at h
      obtain ⟨_, -, rfl⟩ := h
      exact run_charged freezeTx_charged s bridgeTxs
    | unfreezeTxs bridgeTxs =>
      simp only [dispatch, baseUnfreezeTxs, run_ok] at h
      obtain ⟨_, -, rfl⟩ := h
      exact run_charged unfreezeTx_charged s bridgeTxs
    | removeTxs bridgeTxs =>
      simp only [dispatch, baseRemoveTxs, run_ok] at h
      obtain ⟨_, -, _, -, rfl⟩ := h
      exact run_charged removeTx_charged s bridgeTxs
    | _ => exact absurd trivial hsetting

/-- **What a step credits is on record**, unless a new block begins. -/
theorem step_accounted (hblock : a ≠ .nextBlock) (hlimit : s.bridgeLimit = (limit, duration)) :
    Accounted limit duration s (step a s) (counted s a) := by
  cases a with
  | nextBlock => exact absurd rfl hblock
  | otherPallets balances => exact .of_unrecorded rfl rfl
  | call env origin call =>
    have hstep : step (.call env origin call) s = (transaction (dispatch env origin call) s).2 :=
      rfl
    rcases h : transaction (dispatch env origin call) s with ⟨e | u, s'⟩
    · -- a call that fails changes nothing
      have hsame : step (.call env origin call) s = s := by rw [hstep, h, transaction_error h]
      have hnone : counted s (.call env origin call) = [] := by
        by_cases hcall : ∃ bridgeTx, call = .forceHandleBridgeTx bridgeTx
        · obtain ⟨bridgeTx, rfl⟩ := hcall
          rfl
        · rw [counted_call fun bridgeTx hcall' => hcall ⟨bridgeTx, hcall'⟩, hsame]
          exact countedSince_of_history rfl
      rw [hsame, hnone]
      exact .refl limit duration s
    · have hok := transaction_ok.mp h
      rw [h] at hstep
      by_cases hcall : ∃ bridgeTx, call = .forceHandleBridgeTx bridgeTx
      · obtain ⟨bridgeTx, rfl⟩ := hcall
        rw [hstep]
        exact force_accounted hok
      · have hcall' : ∀ bridgeTx, call ≠ .forceHandleBridgeTx bridgeTx := fun bridgeTx h =>
          hcall ⟨bridgeTx, h⟩
        rw [counted_call hcall', hstep]
        exact dispatch_accounted hlimit hcall' hok
  | task env index =>
    suffices hcharged : Charged env s (step (.task env index) s) from hcharged.accounted hlimit
    simp only [step]
    cases hdue : dueTask index s with
    | none => exact .refl env s
    | some bridgeTx =>
      dsimp only
      have hforgotten : Charged env s (forgetTask index s) :=
        .of_silent rfl rfl rfl
      rcases h : transaction (dispatch env .root (.handleScheduledBridgeTx bridgeTx))
        (forgetTask index s) with ⟨e | u, s'⟩
      · rw [transaction_error h]
        exact hforgotten
      · exact hforgotten.trans (baseHandleScheduledBridgeTx_charged (transaction_ok.mp h))

end Steps

/-! ## Runs -/

/-- The credits in an interval. -/
def within (duration interval : BlockNumber) (credits : List Credit) : List Credit :=
  credits.filter (·.block / duration = interval)

theorem within_append (duration interval : BlockNumber) (cs ds : List Credit) :
    within duration interval (cs ++ ds) =
      within duration interval cs ++ within duration interval ds :=
  List.filter_append ..

/-- **Credits so far**: within the limit in every interval, none of them ahead of the chain, and
those of the current interval on record. -/
structure LimitKept (limit : ℕ) (duration : BlockNumber) (past : List Credit) (s : Storage) :
    Prop where
  bounded : ∀ did interval, total did (within duration interval past) ≤ limit
  earlier : ∀ c ∈ past, c.block ≤ s.block
  recorded : ∀ did, total did (within duration (s.block / duration) past) ≤ spent duration s did

section Runs

variable {limit : ℕ} {duration : BlockNumber} {past credits : List Credit} {s s' : Storage}

theorem within_of_ahead {interval : BlockNumber} (h : ∀ c ∈ past, c.block / duration < interval) :
    within duration interval past = [] := by
  rw [within, List.filter_eq_nil_iff]
  intro c hc
  simpa using (h c hc).ne

theorem LimitKept.nextBlock (h : LimitKept limit duration past s) :
    LimitKept limit duration past { s with block := s.block + 1 } := by
  refine ⟨h.bounded, fun c hc => (h.earlier c hc).trans (Nat.le_succ _), fun did => ?_⟩
  dsimp only
  by_cases hsame : (s.block + 1) / duration = s.block / duration
  · have hrecorded := h.recorded did
    unfold spent at hrecorded ⊢
    dsimp only
    rwa [hsame]
  · have hlt : s.block / duration < (s.block + 1) / duration :=
      lt_of_le_of_ne (Nat.div_le_div_right (Nat.le_succ _)) (Ne.symm hsame)
    rw [within_of_ahead fun c hc => (Nat.div_le_div_right (h.earlier c hc)).trans_lt hlt]
    exact Nat.zero_le _

theorem LimitKept.credited (h : LimitKept limit duration past s)
    (hcredits : Accounted limit duration s s' credits) :
    LimitKept limit duration (past ++ credits) s' := by
  have hinterval : ∀ interval, interval ≠ s.block / duration →
      within duration interval credits = [] := by
    intro interval hne
    rw [within, List.filter_eq_nil_iff]
    intro c hc
    rw [hcredits.now c hc]
    simpa using hne.symm
  have hcurrent : within duration (s.block / duration) credits = credits := by
    rw [within, List.filter_eq_self]
    intro c hc
    rw [hcredits.now c hc]
    simp
  have hrecorded : ∀ did, total did (within duration (s.block / duration) (past ++ credits)) ≤
      spent duration s' did := by
    intro did
    have h₁ := h.recorded did
    have h₂ := hcredits.recorded did
    rw [within_append, hcurrent, total_append]
    omega
  refine ⟨fun did interval => ?_, fun c hc => ?_, ?_⟩
  · by_cases hi : interval = s.block / duration
    · subst hi
      rcases hcredits.limited did with hle | hsame
      · exact (hrecorded did).trans hle
      · -- the record is as before, so that nothing was credited
        have h₂ := hcredits.recorded did
        have hzero : total did credits = 0 := by omega
        rw [within_append, hcurrent, total_append, hzero, add_zero]
        exact h.bounded did _
    · rw [within_append, hinterval interval hi, List.append_nil]
      exact h.bounded did interval
  · rw [hcredits.block]
    rcases List.mem_append.mp hc with hc | hc
    · exact h.earlier c hc
    · exact (hcredits.now c hc).le
  · rw [hcredits.block]
    exact hrecorded

theorem LimitKept.step (h : LimitKept limit duration past s)
    (hlimit : s.bridgeLimit = (limit, duration)) :
    LimitKept limit duration (past ++ counted s a) (step a s) := by
  by_cases hblock : a = .nextBlock
  · subst hblock
    rw [show counted s .nextBlock = [] from rfl, List.append_nil]
    exact h.nextBlock
  · exact h.credited (step_accounted hblock hlimit)

/-- **The limit of the bridge.** While the limit of the bridge stays the same, the credits to an
identity that is not exempted, those of forced transactions apart, are within it in every
interval. -/
theorem bridge_limit_kept {as : List Action}
    (h : Along step (fun s _ => s.bridgeLimit = (limit, duration)) s as) (did : IdentityId)
    (interval : BlockNumber) :
    total did (within duration interval (trace step counted s as)) ≤ limit := by
  have hstart : LimitKept limit duration [] s :=
    ⟨fun _ _ => Nat.zero_le _, fun _ h => absurd h List.not_mem_nil, fun _ => Nat.zero_le _⟩
  have hend := trace_invariant (LimitKept limit duration) (fun _ _ _ h hlimit => h.step hlimit)
    [] hstart h
  exact hend.bounded did interval

end Runs

/-- A chain without a timelock, whose limit is 100 in ten blocks. -/
def hundred : Storage :=
  genesis { smallChain with timelock := 0, bridgeLimit := (100, 10) }

/-- Three transactions of 50 for the account 9: the third has to wait for the next interval. -/
def threeTimesFifty : List Action :=
  [1, 2, 3].map fun nonce =>
    .call allChecked (.signed ⟨1⟩) (.handleBridgeTx { fifty with nonce })

theorem bridge_limit_kept_threeTimes :
    total ⟨7⟩ (within 10 0 (trace step counted hundred threeTimesFifty)) = 100 ∧
      total ⟨7⟩ (within 10 0 (trace step counted hundred threeTimesFifty)) ≤ 100 := by
  have hlimit : Along step (fun s _ => s.bridgeLimit = (100, 10)) hundred threeTimesFifty :=
    ⟨rfl, rfl, rfl, trivial⟩
  exact ⟨by decide +kernel, bridge_limit_kept hlimit ⟨7⟩ 0⟩

end Bridge

end Polymesh
