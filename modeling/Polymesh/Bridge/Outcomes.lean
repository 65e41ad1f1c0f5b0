import Polymesh.Bridge.Runtime

/-!
# What becomes of a bridge transaction

What is stored, noted and scheduled of the transactions is a ledger. Handling a transaction credits it, or puts
it off, or leaves the ledger as it is, and every call of the bridge changes the ledger in one of a
few ways. All results about runs are drawn from these.
-/

namespace Polymesh

open Transactional Tx TransitionSystem

namespace Bridge

/-! ## The ledger -/

/-- What is stored, noted and scheduled of the transactions, and the number of the block. -/
@[ext] structure Ledger where
  details : Key → BridgeTxDetail
  history : List Event
  block : BlockNumber
  agenda : List (BlockNumber × BridgeTx)

namespace Ledger

def put (key : Key) (detail : BridgeTxDetail) (l : Ledger) : Ledger :=
  { l with details := Function.update l.details key detail }

def note (event : Event) (l : Ledger) : Ledger := { l with history := l.history ++ [event] }

@[simp] theorem put_self (key : Key) (detail : BridgeTxDetail) (l : Ledger) :
    (l.put key detail).details key = detail :=
  Function.update_self ..

/-- A transaction is put off, with a task. -/
def postpone (bridgeTx : BridgeTx) (detail : BridgeTxDetail) (l : Ledger) : Ledger :=
  { l.put bridgeTx.key detail with agenda := l.agenda ++ [(detail.executionBlock, bridgeTx)] }

def status (l : Ledger) (key : Key) : BridgeTxStatus := (l.details key).status

/-- A transaction is credited. -/
def credit (key : Key) (detail : BridgeTxDetail) (amount : ℕ) (l : Ledger) : Ledger :=
  (l.put key { detail with status := .handled, executionBlock := l.block }).note
    (.credited key amount l.block)

end Ledger

def Storage.ledger (s : Storage) : Ledger := ⟨s.details, s.history, s.block, s.agenda⟩

/-- The submission of a transaction, as it is noted. -/
def submission (sender : AccountId) (bridgeTx : BridgeTx) (s : Storage) : Submission :=
  ⟨bridgeTx.amount, isAdmin sender s, s.block, s.timelock⟩

@[simp] theorem ledger_noteSubmission (sender : AccountId) (bridgeTx : BridgeTx) (s : Storage) :
    (noteSubmission sender bridgeTx s).ledger =
      s.ledger.note (.submitted bridgeTx.key (submission sender bridgeTx s)) := rfl

@[simp] theorem ledger_putDetail (key : Key) (detail : BridgeTxDetail) (s : Storage) :
    (putDetail key detail s).ledger = s.ledger.put key detail := rfl

theorem ledger_finish (bridgeTx : BridgeTx) (detail : BridgeTxDetail) (amount : ℕ) (s : Storage) :
    (finish bridgeTx detail amount s).ledger = s.ledger.credit bridgeTx.key detail amount := rfl

/-! ## Handling -/

/-- What is stored of a transaction when it is put off. -/
def postponed (bridgeTx : BridgeTx) (timelock block : BlockNumber) (r : BridgeTxDetail × ℕ) :
    BridgeTxDetail :=
  { r.1 with
    txHash := bridgeTx.txHash
    executionBlock := unlockBlockNumber block timelock r.2 }

/-- What comes of handling a transaction now. -/
inductive Outcome (bridgeTx : BridgeTx) (detail : BridgeTxDetail) (untrusted : Bool)
    (exemptedDid : Option IdentityId) (s : Storage) : Ledger → Prop
  | credited (hfrozen : s.frozen = false) :
    Outcome bridgeTx detail untrusted exemptedDid s (s.ledger.credit bridgeTx.key detail
      (deposited bridgeTx.recipient (if untrusted then detail.amount else bridgeTx.amount)
        s.balances))
  | postponed (htrusted : untrusted = false) (hwhy : s.frozen = true ∨ exemptedDid = none)
    (r : BridgeTxDetail × ℕ) (hr : putOff bridgeTx detail = .ok r) :
    Outcome bridgeTx detail untrusted exemptedDid s
      (s.ledger.postpone bridgeTx (postponed bridgeTx s.timelock s.block r))
  | ignored (htrusted : untrusted = false) (hwhy : s.frozen = false ∧ exemptedDid = none) :
    Outcome bridgeTx detail untrusted exemptedDid s s.ledger

variable {u : Unit} {untrusted : Bool} {s : Storage}

section Handling

variable {env : Env} {bridgeTx : BridgeTx} {detail : BridgeTxDetail} {recipient : AccountId}
  {amount : ℕ} {timelock : BlockNumber} {exemptedDid : Option IdentityId} {s' : Storage}

variable {did : IdentityId} {e : Error}

theorem countBridged_error (h : countBridged did amount s = (.error e, s')) : s' = s := by
  have hatomic : Atomic (countBridged did amount) := by
    refine Atomic.get_bind fun s => Atomic.ensure_bind ?_
    exact Atomic.read_bind fun total => Atomic.ensure_bind (Atomic.modify _)
  exact hatomic h

theorem countBridged_ledger (h : countBridged did amount s = (.ok u, s')) :
    s'.ledger = s.ledger ∧ s'.balances = s.balances := by
  simp only [countBridged, run_ok] at h
  obtain ⟨-, _, -, -, rfl⟩ := h
  exact ⟨rfl, rfl⟩

theorem issue_ok {paid : ℕ} (h : issue env recipient amount exemptedDid s = (.ok paid, s')) :
    s'.ledger = s.ledger ∧ paid = deposited recipient amount s.balances := by
  simp only [issue, ↓run_ok, bind_ok] at h
  obtain ⟨did, _, ⟨-, rfl⟩, _, s₁, hcount, rfl, rfl⟩ := h
  refine ⟨?_, rfl⟩
  rcases onlyIf_ok.mp hcount with ⟨-, hcount⟩ | ⟨-, rfl⟩
  · exact (countBridged_ledger hcount).1
  · rfl

/-- A failed attempt to credit leaves no trace, and the exempted cannot fail. -/
theorem issue_error (h : issue env recipient amount exemptedDid s = (.error e, s')) :
    s' = s ∧ exemptedDid = none := by
  simp only [issue, bind_error, get_ok, read_ok, read_error, get_error, false_or] at h
  rcases h with ⟨hdid, rfl⟩ | ⟨did, _, ⟨-, rfl⟩, _, _, ⟨rfl, rfl⟩, h⟩
  · cases exemptedDid with
    | none => exact ⟨rfl, rfl⟩
    | some did => cases hdid
  · rcases h with h | ⟨_, _, -, h | ⟨_, _, -, h⟩⟩
    · unfold onlyIf at h
      split at h
      case isTrue hcount => exact ⟨countBridged_error h, hcount.1⟩
      case isFalse => cases h
    · cases h
    · cases h

theorem handleBridgeTxLater_ok
    (h : handleBridgeTxLater env bridgeTx detail timelock s = (.ok u, s')) :
    ∃ r, putOff bridgeTx detail = .ok r ∧
      s'.ledger = s.ledger.postpone bridgeTx (postponed bridgeTx timelock s.block r) := by
  simp only [handleBridgeTxLater, scheduleCall, ↓run_ok, bind_ok] at h
  obtain ⟨r, _, ⟨hr, rfl⟩, _, _, ⟨_, _, ⟨-, rfl⟩, rfl⟩, rfl⟩ := h
  exact ⟨r, hr, rfl⟩

theorem handleBridgeTxLater_error
    (h : handleBridgeTxLater env bridgeTx detail timelock s = (.error e, s')) : s' = s := by
  simp only [handleBridgeTxLater, scheduleCall, bind_error, run_ok, bind_ok, read_error, get_error,
    ensure_error, false_or] at h
  rcases h with ⟨-, rfl⟩ | ⟨r, _, ⟨-, rfl⟩, _, _, ⟨rfl, rfl⟩, h⟩
  · rfl
  · rcases h with (⟨-, -, rfl⟩ | ⟨_, _, -, h⟩) | ⟨_, _, -, h⟩
    · rfl
    · cases h
    · cases h

/-- **Handling a transaction that is neither handled nor frozen has one of the outcomes.** -/
theorem handleBridgeTxNow_outcome
    (h : handleBridgeTxNow env bridgeTx detail untrusted exemptedDid s = (.ok u, s')) :
    (detail.status ≠ .handled ∧ detail.status ≠ .frozen) ∧
      Outcome bridgeTx detail untrusted exemptedDid s s'.ledger := by
  simp only [handleBridgeTxNow, run_ok] at h
  obtain ⟨hhandled, hstatus, h⟩ := h
  refine ⟨⟨hhandled, hstatus⟩, ?_⟩
  split at h
  case isTrue hfrozen =>
    simp only [run_ok] at h
    obtain ⟨htrusted, h⟩ := h
    obtain ⟨r, hr, hledger⟩ := handleBridgeTxLater_ok h
    rw [hledger]
    exact .postponed htrusted (.inl hfrozen) r hr
  case isFalse hfrozen =>
    have hopen : s.frozen = false := by simpa using hfrozen
    simp only [bind_ok, attempt_ok] at h
    obtain ⟨result, s₁, hissue, h⟩ := h
    cases result with
    | ok paid =>
      obtain ⟨hledger, rfl⟩ := issue_ok hissue
      obtain rfl := modify_ok.mp h
      rw [ledger_finish, hledger]
      exact .credited hopen
    | error e =>
      obtain ⟨rfl, hexempted⟩ := issue_error hissue
      cases untrusted with
      | true => exact absurd h fail_ok
      | false =>
        simp only [Bool.false_eq_true, if_false, ↓run_ok, bind_ok, attempt_ok] at h
        obtain ⟨result, _, hlater, -, rfl⟩ := h
        cases result with
        | ok _ =>
          obtain ⟨r, hr, hledger⟩ := handleBridgeTxLater_ok hlater
          rw [hledger]
          exact .postponed rfl (.inr hexempted) r hr
        | error _ =>
          rw [handleBridgeTxLater_error hlater]
          exact .ignored rfl ⟨hopen, hexempted⟩

theorem handleBridgeTxNow_error
    (h : handleBridgeTxNow env bridgeTx detail untrusted exemptedDid s = (.error e, s')) :
    s' = s := by
  simp only [handleBridgeTxNow, bind_error, ensure_ok, ensure_error, get_ok, get_error,
    false_or] at h
  rcases h with ⟨-, -, rfl⟩ | ⟨_, _, ⟨-, rfl⟩, ⟨-, -, rfl⟩ | ⟨_, _, ⟨-, rfl⟩, _, _, ⟨rfl, rfl⟩, h⟩⟩
  · rfl
  · rfl
  · split at h
    case isTrue =>
      simp only [bind_error, ensure_ok, ensure_error] at h
      rcases h with ⟨-, -, rfl⟩ | ⟨_, _, ⟨-, rfl⟩, h⟩
      · rfl
      · exact handleBridgeTxLater_error h
    case isFalse =>
      simp only [bind_error, attempt_ok] at h
      rcases h with h | ⟨result, s₁, hissue, h⟩
      · cases h
      · cases result with
        | ok paid => cases h
        | error e' =>
          obtain ⟨rfl, -⟩ := issue_error hissue
          cases untrusted with
          | true =>
            cases h
            rfl
          | false =>
            simp only [Bool.false_eq_true, if_false, bind_error] at h
            rcases h with h | ⟨_, _, -, h⟩
            · cases h
            · cases h

end Handling

/-! ## Calls -/

/-- What comes of a transaction that somebody submits or retries. -/
inductive HandleCase (sender : AccountId) (bridgeTx : BridgeTx) (s : Storage) : Ledger → Prop
  | later (habsent : s.ledger.status bridgeTx.key = .absent) (htimelock : s.timelock ≠ 0)
    (r : BridgeTxDetail × ℕ) (hr : putOff bridgeTx (s.details bridgeTx.key) = .ok r) :
    HandleCase sender bridgeTx s ((noteSubmission sender bridgeTx s).ledger.postpone bridgeTx
      (postponed bridgeTx s.timelock s.block r))
  | now (habsent : s.ledger.status bridgeTx.key = .absent) (htimelock : s.timelock = 0)
    (l : Ledger) (h : Outcome bridgeTx (s.details bridgeTx.key) false none
      (noteSubmission sender bridgeTx s) l) : HandleCase sender bridgeTx s l
  | retried (tries : ℕ) (hpending : s.ledger.status bridgeTx.key = .pending tries) (l : Ledger)
    (h : Outcome bridgeTx (s.details bridgeTx.key) true none s l) : HandleCase sender bridgeTx s l
  | amended (hfrozen : s.ledger.status bridgeTx.key = .frozen) :
    HandleCase sender bridgeTx s ((noteSubmission sender bridgeTx s).ledger.put bridgeTx.key
      { s.details bridgeTx.key with amount := bridgeTx.amount })

section Calls

variable {env : Env} {origin : Origin} {bridgeTx : BridgeTx} {s' : Storage}

theorem handle_cases (h : baseHandleBridgeTx env origin bridgeTx s = (.ok u, s')) :
    ∃ sender, origin = .signed sender ∧ HandleCase sender bridgeTx s s'.ledger := by
  simp only [baseHandleBridgeTx, run_ok] at h
  obtain ⟨sender, hsender, h⟩ := h
  have horigin : origin = .signed sender := by
    cases origin with
    | signed sender' =>
      cases hsender
      rfl
    | root => cases hsender
  refine ⟨sender, horigin, ?_⟩
  cases hstatus : (s.details bridgeTx.key).status with
  | absent =>
    simp only [hstatus, run_ok] at h
    obtain ⟨_, -, h⟩ := h
    split at h
    case isTrue htimelock =>
      exact .now hstatus htimelock _ (handleBridgeTxNow_outcome h).2
    case isFalse htimelock =>
      obtain ⟨r, hr, hledger⟩ := handleBridgeTxLater_ok h
      rw [hledger]
      exact .later hstatus htimelock r hr
  | pending tries =>
    simp only [hstatus] at h
    exact .retried tries hstatus _ (handleBridgeTxNow_outcome h).2
  | frozen =>
    simp only [hstatus, run_ok] at h
    obtain ⟨_, -, rfl⟩ := h
    rw [← hstatus]
    exact .amended hstatus
  | timelocked | handled =>
    simp only [hstatus] at h
    exact absurd h fail_ok

theorem force_cases (h : baseForceHandleBridgeTx env origin bridgeTx s = (.ok u, s')) :
    ∃ sender did, isAdmin sender s = true ∧
      (s.ledger.status bridgeTx.key ≠ .handled ∧ s.ledger.status bridgeTx.key ≠ .frozen) ∧
      Outcome bridgeTx (s.details bridgeTx.key) false (some did)
        (noteSubmission sender bridgeTx s) s'.ledger := by
  simp only [baseForceHandleBridgeTx, ensureAdmin, run_ok, except_bind_eq_ok, ensure_eq_ok,
    except_pure_eq_ok] at h
  obtain ⟨sender, ⟨_, -, _, hadmin, rfl⟩, did, -, h⟩ := h
  obtain ⟨hstatus, houtcome⟩ := handleBridgeTxNow_outcome h
  exact ⟨_, did, hadmin, hstatus, houtcome⟩

theorem scheduled_cases (h : baseHandleScheduledBridgeTx env origin bridgeTx s = (.ok u, s')) :
    (s.ledger.status bridgeTx.key ≠ .handled ∧ s.ledger.status bridgeTx.key ≠ .frozen) ∧
      Outcome bridgeTx (s.details bridgeTx.key) false none s s'.ledger := by
  simp only [baseHandleScheduledBridgeTx, run_ok] at h
  obtain ⟨_, -, h⟩ := h
  exact handleBridgeTxNow_outcome h

theorem unfreezeTx_cases (env : Env) (bridgeTx : BridgeTx) (s : Storage)
    (hfrozen : s.ledger.status bridgeTx.key = .frozen) :
    let detail := { s.details bridgeTx.key with status := .absent }
    let s₁ := putDetail bridgeTx.key detail s
    (unfreezeTx env bridgeTx s).ledger = s₁.ledger ∨
      Outcome bridgeTx detail true none s₁ (unfreezeTx env bridgeTx s).ledger := by
  intro detail s₁
  have hunfreeze : unfreezeTx env bridgeTx s = (handleBridgeTxNow env bridgeTx detail true none s₁).2 :=
    if_pos hfrozen
  rw [hunfreeze]
  rcases h : handleBridgeTxNow env bridgeTx detail true none s₁ with ⟨e | u, s'⟩
  · exact .inl (by rw [handleBridgeTxNow_error h])
  · exact .inr (handleBridgeTxNow_outcome h).2

theorem unfreezeTx_of_ne (env : Env) (h : s.ledger.status bridgeTx.key ≠ .frozen) :
    unfreezeTx env bridgeTx s = s :=
  if_neg h

theorem changeSetting_ledger {change : Storage → Storage}
    (h : changeSetting env origin change s = (.ok u, s'))
    (hchange : ∀ s, (change s).ledger = s.ledger) : s'.ledger = s.ledger := by
  simp only [changeSetting, run_ok] at h
  obtain ⟨_, -, rfl⟩ := h
  exact hchange s

theorem baseChangeBridgeLimit_ledger {amount : ℕ} {duration : BlockNumber}
    (h : baseChangeBridgeLimit env origin amount duration s = (.ok u, s')) :
    s'.ledger = s.ledger := by
  simp only [baseChangeBridgeLimit, run_ok] at h
  obtain ⟨_, -, -, rfl⟩ := h
  rfl

theorem setFreeze_ledger {freeze : Bool} (h : setFreeze env origin freeze s = (.ok u, s')) :
    s'.ledger = s.ledger := by
  simp only [setFreeze, run_ok] at h
  obtain ⟨_, -, _, -, rfl⟩ := h
  rfl

end Calls

/-! ## Steps -/

/-- Whether a call only changes the settings of the bridge. -/
def Call.IsSetting : Call → Prop
  | .forceHandleBridgeTx _ | .handleBridgeTx _ | .freezeTxs _ | .unfreezeTxs _
  | .handleScheduledBridgeTx _ | .removeTxs _ => False
  | _ => True

/-- What a call does to the ledger when it succeeds. -/
inductive CallCase (env : Env) (origin : Origin) (s : Storage) : Call → Ledger → Prop
  | setting (call : Call) (hcall : call.IsSetting) : CallCase env origin s call s.ledger
  | handle (sender : AccountId) (bridgeTx : BridgeTx) (l : Ledger)
    (horigin : origin = .signed sender) (h : HandleCase sender bridgeTx s l) :
    CallCase env origin s (.handleBridgeTx bridgeTx) l
  | force (sender : AccountId) (did : IdentityId) (bridgeTx : BridgeTx) (l : Ledger)
    (hadmin : isAdmin sender s = true)
    (hstatus : s.ledger.status bridgeTx.key ≠ .handled ∧ s.ledger.status bridgeTx.key ≠ .frozen)
    (h : Outcome bridgeTx (s.details bridgeTx.key) false (some did)
      (noteSubmission sender bridgeTx s) l) :
    CallCase env origin s (.forceHandleBridgeTx bridgeTx) l
  | scheduled (bridgeTx : BridgeTx) (l : Ledger)
    (hstatus : s.ledger.status bridgeTx.key ≠ .handled ∧ s.ledger.status bridgeTx.key ≠ .frozen)
    (h : Outcome bridgeTx (s.details bridgeTx.key) false none s l) :
    CallCase env origin s (.handleScheduledBridgeTx bridgeTx) l
  | freeze (bridgeTxs : List BridgeTx) :
    CallCase env origin s (.freezeTxs bridgeTxs) (run freezeTx s bridgeTxs).ledger
  | unfreeze (bridgeTxs : List BridgeTx) :
    CallCase env origin s (.unfreezeTxs bridgeTxs) (run (unfreezeTx env) s bridgeTxs).ledger
  | remove (bridgeTxs : List BridgeTx)
    (hfrozen : ∀ bridgeTx ∈ bridgeTxs, s.ledger.status bridgeTx.key = .frozen) :
    CallCase env origin s (.removeTxs bridgeTxs) (run removeTx s bridgeTxs).ledger

theorem dispatch_cases {env : Env} {origin : Origin} {call : Call} {s' : Storage}
    (h : dispatch env origin call s = (.ok u, s')) : CallCase env origin s call s'.ledger := by
  have hsetting : call.IsSetting → s'.ledger = s.ledger → CallCase env origin s call s'.ledger := by
    intro hcall hledger
    rw [hledger]
    exact .setting call hcall
  cases call with
  | changeController controller | changeAdmin admin | changeTimelock timelock =>
    exact hsetting trivial (changeSetting_ledger h fun _ => rfl)
  | freeze | unfreeze => exact hsetting trivial (setFreeze_ledger h)
  | changeBridgeLimit amount duration => exact hsetting trivial (baseChangeBridgeLimit_ledger h)
  | changeBridgeExempted exempted | addFreezeAdmin freezeAdmin | removeFreezeAdmin freezeAdmin =>
    exact hsetting trivial (changeSetting_ledger h fun _ => rfl)
  | forceHandleBridgeTx bridgeTx =>
    obtain ⟨sender, did, hadmin, hstatus, houtcome⟩ := force_cases h
    exact .force sender did bridgeTx _ hadmin hstatus houtcome
  | handleBridgeTx bridgeTx =>
    obtain ⟨sender, horigin, hcase⟩ := handle_cases h
    exact .handle sender bridgeTx _ horigin hcase
  | handleScheduledBridgeTx bridgeTx =>
    obtain ⟨hstatus, houtcome⟩ := scheduled_cases h
    exact .scheduled bridgeTx _ hstatus houtcome
  | freezeTxs bridgeTxs =>
    simp only [dispatch, baseFreezeTxs, run_ok] at h
    obtain ⟨_, -, rfl⟩ := h
    exact .freeze bridgeTxs
  | unfreezeTxs bridgeTxs =>
    simp only [dispatch, baseUnfreezeTxs, run_ok] at h
    obtain ⟨_, -, rfl⟩ := h
    exact .unfreeze bridgeTxs
  | removeTxs bridgeTxs =>
    simp only [dispatch, baseRemoveTxs, run_ok, ensure_eq_ok] at h
    obtain ⟨_, -, _, hfrozen, rfl⟩ := h
    exact .remove bridgeTxs hfrozen

/-- What a step does to the ledger. -/
inductive StepCase (s : Storage) : Action → Ledger → Prop
  | idle (a : Action) : StepCase s a s.ledger
  | call (env : Env) (origin : Origin) (call : Call) (l : Ledger)
    (hok : (dispatch env origin call s).1 = .ok ()) (h : CallCase env origin s call l) :
    StepCase s (.call env origin call) l
  | lapsed (env : Env) (index : ℕ) : StepCase s (.task env index) (forgetTask index s).ledger
  | task (env : Env) (index : ℕ) (bridgeTx : BridgeTx) (l : Ledger)
    (hdue : dueTask index s = some bridgeTx)
    (hok : (dispatch env .root (.handleScheduledBridgeTx bridgeTx) (forgetTask index s)).1 = .ok ())
    (h : CallCase env .root (forgetTask index s) (.handleScheduledBridgeTx bridgeTx) l) :
    StepCase s (.task env index) l
  | nextBlock : StepCase s .nextBlock { s.ledger with block := s.block + 1 }

/-- **Every step changes the ledger in one of these ways.** -/
theorem step_cases (a : Action) (s : Storage) : StepCase s a (step a s).ledger := by
  cases a with
  | call env origin call =>
    simp only [step]
    rcases h : transaction (dispatch env origin call) s with ⟨e | u, s'⟩
    · rw [transaction_error h]
      exact .idle _
    · have hok := transaction_ok.mp h
      exact .call env origin call _ (by rw [hok]) (dispatch_cases hok)
  | task env index =>
    simp only [step]
    cases hdue : dueTask index s with
    | none => exact .idle _
    | some bridgeTx =>
      dsimp only
      rcases h : transaction (dispatch env .root (.handleScheduledBridgeTx bridgeTx))
        (forgetTask index s) with ⟨e | u, s'⟩
      · rw [transaction_error h]
        exact .lapsed env index
      · have hok := transaction_ok.mp h
        exact .task env index bridgeTx _ hdue (by rw [hok]) (dispatch_cases hok)
  | nextBlock => exact .nextBlock
  | otherPallets balances => exact .idle _

end Bridge

end Polymesh
