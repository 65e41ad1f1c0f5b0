import Polymesh.Bridge.Outcomes

/-!
# Submissions that stand

A submission of a transaction stands until the transaction is removed or submitted again. What the
ledger holds of a transaction that may still be credited should be backed by a submission that
stands, and so should every credit.
-/

namespace Polymesh

open Transactional TransitionSystem

namespace Bridge

/-! ## Histories -/

variable {event : Event} {C : Option Submission → ℕ → BlockNumber → Prop} {bridgeTx : BridgeTx}

namespace Event

/-- The transaction that an event is about. -/
def key : Event → Key
  | .submitted key _ => key
  | .credited key _ _ => key
  | .removed key => key

/-- The submission that stands after an event. -/
def stand (key : Key) (before : Option Submission) : Event → Option Submission
  | .submitted key' submission => if key' = key then some submission else before
  | .credited _ _ _ => before
  | .removed key' => if key' = key then none else before

theorem stand_of_ne {key : Key} (h : event.key ≠ key) (before : Option Submission) :
    event.stand key before = before := by
  cases event with
  | submitted key' submission => exact if_neg h
  | credited key' amount block => rfl
  | removed key' => exact if_neg h

end Event

/-- The latest submission of a transaction, unless it was removed since. -/
def standing (key : Key) (history : List Event) : Option Submission :=
  history.foldl (fun before event => event.stand key before) none

theorem standing_concat (key : Key) (history : List Event) (event : Event) :
    standing key (history ++ [event]) = event.stand key (standing key history) := by
  simp [standing]

/-- All credits of the transaction meet `C`, with the submission that stood then. -/
def CreditsMeet (C : Option Submission → ℕ → BlockNumber → Prop) (key : Key)
    (history : List Event) : Prop :=
  ∀ before amount block after, history = before ++ .credited key amount block :: after →
    C (standing key before) amount block

theorem CreditsMeet.nil (C : Option Submission → ℕ → BlockNumber → Prop) (key : Key) :
    CreditsMeet C key [] := by
  intro before amount block after h
  simp at h

theorem CreditsMeet.note {key : Key} {history : List Event} (h : CreditsMeet C key history)
    (hevent : ∀ amount block, event = .credited key amount block →
      C (standing key history) amount block) : CreditsMeet C key (history ++ [event]) := by
  intro before amount block after hsplit
  rcases List.eq_nil_or_concat after with rfl | ⟨after', last, rfl⟩
  · obtain ⟨rfl, hlast⟩ := List.append_inj' hsplit rfl
    exact hevent amount block (List.singleton_inj.mp hlast)
  · refine h before amount block after' ?_
    rw [List.concat_eq_append, ← List.cons_append, ← List.append_assoc] at hsplit
    exact (List.append_inj' hsplit rfl).1

/-! ## Entries -/

/-- What may be credited without another submission: it waits for a task or a retry, or would be
credited with its amount when it is frozen and unfrozen. -/
def Live (detail : BridgeTxDetail) : Prop :=
  match detail.status with
  | .timelocked => True
  | .pending _ => True
  | .absent => detail.amount ≠ 0
  | .frozen => detail.amount ≠ 0
  | .handled => False

theorem live_pending {detail : BridgeTxDetail} {tries : ℕ} (h : detail.status = .pending tries) :
    Live detail := by
  simp only [Live, h]

theorem live_frozen {detail : BridgeTxDetail} (h : detail.status = .frozen)
    (hamount : detail.amount ≠ 0) : Live detail := by
  simpa only [Live, h] using hamount

/-- A change that does not concern the transaction. -/
structure Apart (key : Key) (l l' : Ledger) : Prop where
  details : l'.details key = l.details key
  standing : standing key l'.history = standing key l.history
  credits : ∀ C, CreditsMeet C key l.history → CreditsMeet C key l'.history
  events : ∀ event ∈ l.history, event ∈ l'.history
  block : l'.block = l.block
  agenda : ∀ task ∈ l'.agenda, task.2.key = key → task ∈ l.agenda

namespace Apart

variable {key key' : Key} {l : Ledger}

instance : Std.Refl (Apart key) := ⟨fun _ => ⟨rfl, rfl, fun _ => id, fun _ => id, rfl, fun _ h _ => h⟩⟩

instance : IsTrans Ledger (Apart key) where
  trans _ _ _ h h' :=
    ⟨h'.details.trans h.details, h'.standing.trans h.standing, fun C hC => h'.credits C (h.credits C hC),
      fun event hevent => h'.events event (h.events event hevent), h'.block.trans h.block,
      fun task htask hkey => h.agenda task (h'.agenda task htask hkey) hkey⟩

theorem put (h : key' ≠ key) (detail : BridgeTxDetail) : Apart key l (l.put key' detail) := by
  refine ⟨?_, rfl, fun _ => id, fun _ => id, rfl, fun _ h _ => h⟩
  simp [Ledger.put, Ne.symm h]

theorem postpone (h : bridgeTx.key ≠ key) (detail : BridgeTxDetail) :
    Apart key l (l.postpone bridgeTx detail) := by
  refine { put h detail with agenda := fun task htask hkey => ?_ }
  rcases List.mem_append.mp htask with htask | htask
  · exact htask
  · rw [List.mem_singleton.mp htask] at hkey
    exact absurd hkey h

theorem forgetTask (index : ℕ) (s : Storage) : Apart key s.ledger (forgetTask index s).ledger :=
  ⟨rfl, rfl, fun _ => id, fun _ => id, rfl, fun _ h _ => List.mem_of_mem_eraseIdx h⟩

theorem note (h : event.key ≠ key) : Apart key l (l.note event) where
  details := rfl
  standing := by
    rw [Ledger.note, standing_concat, Event.stand_of_ne h]
  credits C hC := hC.note fun amount block hevent => absurd (congrArg Event.key hevent) h
  events event' hevent' := List.mem_append_left _ hevent'
  block := rfl
  agenda _ h _ := h

theorem credit (h : key' ≠ key) (detail : BridgeTxDetail) (amount : ℕ) :
    Apart key l (l.credit key' detail amount) :=
  IsTrans.trans _ _ _ (put h _) (note h)

end Apart

section Apart

variable {key : Key} {s : Storage} {l : Ledger}

theorem Outcome.apart {detail : BridgeTxDetail} {untrusted : Bool}
    {exemptedDid : Option IdentityId} (h : Outcome bridgeTx detail untrusted exemptedDid s l)
    (hkey : bridgeTx.key ≠ key) : Apart key s.ledger l := by
  cases h with
  | credited hfrozen => exact Apart.credit hkey _ _
  | postponed htrusted hwhy r hr => exact Apart.postpone hkey _
  | ignored htrusted hwhy => exact refl _

theorem noteSubmission_apart (sender : AccountId) (hkey : bridgeTx.key ≠ key) :
    Apart key s.ledger (noteSubmission sender bridgeTx s).ledger :=
  Apart.note hkey

theorem HandleCase.apart {sender : AccountId} (h : HandleCase sender bridgeTx s l)
    (hkey : bridgeTx.key ≠ key) : Apart key s.ledger l := by
  have hnote := noteSubmission_apart (s := s) sender hkey
  cases h with
  | later habsent htimelock r hr => exact IsTrans.trans _ _ _ hnote (Apart.postpone hkey _)
  | now habsent htimelock l h => exact IsTrans.trans _ _ _ hnote (h.apart hkey)
  | retried tries hpending l h => exact h.apart hkey
  | amended hfrozen => exact IsTrans.trans _ _ _ hnote (Apart.put hkey _)

theorem freezeTx_apart (hkey : bridgeTx.key ≠ key) :
    Apart key s.ledger (freezeTx bridgeTx s).ledger := by
  simp only [freezeTx]
  split
  · exact Apart.put hkey _
  · exact refl _

theorem unfreezeTx_apart (env : Env) (hkey : bridgeTx.key ≠ key) :
    Apart key s.ledger (unfreezeTx env bridgeTx s).ledger := by
  by_cases hfrozen : s.ledger.status bridgeTx.key = .frozen
  · have hput := Apart.put (l := s.ledger) hkey { s.details bridgeTx.key with status := .absent }
    rcases unfreezeTx_cases env bridgeTx s hfrozen with h | h
    · rw [h]
      exact hput
    · exact IsTrans.trans _ _ _ hput (h.apart hkey)
  · rw [unfreezeTx_of_ne env hfrozen]
    exact refl _

theorem removeTx_apart (hkey : bridgeTx.key ≠ key) :
    Apart key s.ledger (removeTx bridgeTx s).ledger :=
  IsTrans.trans _ _ _ (Apart.put hkey _) (Apart.note hkey)

end Apart

/-! ## Submissions -/

theorem standing_noteSubmission (sender : AccountId) (bridgeTx : BridgeTx) (s : Storage) :
    standing bridgeTx.key (noteSubmission sender bridgeTx s).ledger.history =
      some (submission sender bridgeTx s) := by
  rw [ledger_noteSubmission, Ledger.note, standing_concat]
  exact if_pos rfl

theorem creditsMeet_noteSubmission {s : Storage} (h : CreditsMeet C bridgeTx.key s.ledger.history)
    (sender : AccountId) :
    CreditsMeet C bridgeTx.key (noteSubmission sender bridgeTx s).ledger.history :=
  CreditsMeet.note h nofun

theorem genesis_details (config : GenesisConfig) (key : Key) :
    ((genesis config).details key).status = .handled ∨ (genesis config).details key = .default := by
  have hfold : ∀ (bridgeTxs : List BridgeTx) (details : Key → BridgeTxDetail),
      ((details key).status = .handled ∨ details key = .default) →
      let details' := bridgeTxs.foldl (fun details bridgeTx =>
        Function.update details bridgeTx.key ⟨bridgeTx.amount, .handled, 0, bridgeTx.txHash⟩) details
      (details' key).status = .handled ∨ details' key = .default := by
    intro bridgeTxs
    induction bridgeTxs with
    | nil => exact fun details h => h
    | cons bridgeTx bridgeTxs ih =>
      intro details h
      refine ih _ ?_
      by_cases hkey : key = bridgeTx.key
      · subst hkey
        simp
      · simpa [hkey] using h
  exact hfold config.completeTxs (fun _ => .default) (.inr rfl)

/-! ## Runs under conditions -/

/-- Conditions on the calls that may credit a transaction, or remove it. -/
structure Conditions where
  handle : AccountId → BridgeTx → Storage → Prop
  force : BridgeTx → Storage → Prop
  scheduled : BridgeTx → Storage → Prop
  unfreeze : BridgeTx → Storage → Prop
  remove : BridgeTx → Storage → Prop := fun _ _ => True

/-- What is asked of a call. -/
def Conditions.Asked (c : Conditions) (env : Env) (origin : Origin) (s : Storage) : Call → Prop
  | .handleBridgeTx bridgeTx => ∀ sender, origin = .signed sender → c.handle sender bridgeTx s
  | .forceHandleBridgeTx bridgeTx => c.force bridgeTx s
  | .handleScheduledBridgeTx bridgeTx => c.scheduled bridgeTx s
  | .unfreezeTxs bridgeTxs =>
    Along (unfreezeTx env) (fun s bridgeTx => c.unfreeze bridgeTx s) s bridgeTxs
  | .removeTxs bridgeTxs => Along removeTx (fun s bridgeTx => c.remove bridgeTx s) s bridgeTxs
  | _ => True

/-- The conditions are met where the action is taken, unless it fails. -/
def Conditions.Met (c : Conditions) (s : Storage) : Action → Prop
  | .call env origin call => (dispatch env origin call s).1 = .ok () → c.Asked env origin s call
  | .task env index => ∀ bridgeTx ∈ dueTask index s,
    (dispatch env .root (.handleScheduledBridgeTx bridgeTx) (forgetTask index s)).1 = .ok () →
      c.scheduled bridgeTx s
  | _ => True

/-- An invariant of one transaction, under conditions on what is done to it. -/
structure Keeps (c : Conditions) (key : Key) (I : Ledger → Prop) : Prop where
  apart : ∀ l l', Apart key l l' → I l → I l'
  tick : ∀ l, I l → I { l with block := l.block + 1 }
  freeze : ∀ bridgeTx s, bridgeTx.key = key → I s.ledger → I (freezeTx bridgeTx s).ledger
  remove : ∀ bridgeTx s, bridgeTx.key = key → I s.ledger → c.remove bridgeTx s →
    I (removeTx bridgeTx s).ledger
  handle : ∀ sender bridgeTx s l, bridgeTx.key = key → I s.ledger → c.handle sender bridgeTx s →
    HandleCase sender bridgeTx s l → I l
  force : ∀ sender did bridgeTx s l, bridgeTx.key = key → I s.ledger → c.force bridgeTx s →
    isAdmin sender s = true →
    (s.ledger.status bridgeTx.key ≠ .handled ∧ s.ledger.status bridgeTx.key ≠ .frozen) →
    Outcome bridgeTx (s.details bridgeTx.key) false (some did) (noteSubmission sender bridgeTx s) l →
    I l
  scheduled : ∀ bridgeTx s agenda l, bridgeTx.key = key → I s.ledger → c.scheduled bridgeTx s →
    agenda ⊆ s.agenda →
    (s.ledger.status bridgeTx.key ≠ .handled ∧ s.ledger.status bridgeTx.key ≠ .frozen) →
    Outcome bridgeTx (s.details bridgeTx.key) false none { s with agenda } l → I l
  unfreeze : ∀ env bridgeTx s, bridgeTx.key = key → I s.ledger → c.unfreeze bridgeTx s →
    s.ledger.status bridgeTx.key = .frozen → I (unfreezeTx env bridgeTx s).ledger

namespace Keeps

variable {c : Conditions} {key : Key} {I : Ledger → Prop} {s : Storage}

variable {l : Ledger}

/-- What is done to the transaction itself keeps the invariant, and so does what is done to others. -/
theorem of_key (h : Keeps c key I) (hs : I s.ledger) (hsame : bridgeTx.key = key → I l)
    (hother : bridgeTx.key ≠ key → Apart key s.ledger l) : I l := by
  by_cases hkey : bridgeTx.key = key
  · exact hsame hkey
  · exact h.apart _ _ (hother hkey) hs

theorem call (h : Keeps c key I) {env : Env} {origin : Origin} {call : Call} (hs : I s.ledger)
    (hmet : c.Asked env origin s call) (hcase : CallCase env origin s call l) : I l := by
  cases hcase with
  | setting call hcall => exact hs
  | handle sender bridgeTx l horigin hcase =>
    exact h.of_key hs (fun hkey => h.handle sender bridgeTx s l hkey hs (hmet sender horigin) hcase)
      hcase.apart
  | force sender did bridgeTx l hadmin hstatus houtcome =>
    refine h.of_key hs (fun hkey => h.force sender did bridgeTx s l hkey hs hmet hadmin hstatus
      houtcome) fun hkey => ?_
    exact IsTrans.trans _ _ _ (noteSubmission_apart sender hkey) (houtcome.apart hkey)
  | scheduled bridgeTx l hstatus houtcome =>
    exact h.of_key hs (fun hkey => h.scheduled bridgeTx s s.agenda l hkey hs hmet
      (List.Subset.refl _) hstatus houtcome) houtcome.apart
  | freeze bridgeTxs =>
    refine run_invariant (fun s => I s.ledger) (fun s bridgeTx hs _ => ?_) hs (along_true s bridgeTxs)
    exact h.of_key hs (fun hkey => h.freeze bridgeTx s hkey hs) freezeTx_apart
  | unfreeze bridgeTxs =>
    refine run_invariant (fun s => I s.ledger) (fun s bridgeTx hs hunfreeze => ?_) hs hmet
    by_cases hfrozen : s.ledger.status bridgeTx.key = .frozen
    · exact h.of_key hs (fun hkey => h.unfreeze env bridgeTx s hkey hs hunfreeze hfrozen)
        (unfreezeTx_apart env)
    · rw [unfreezeTx_of_ne env hfrozen]
      exact hs
  | remove bridgeTxs hfrozen =>
    refine run_invariant (fun s => I s.ledger) (fun s bridgeTx hs hremove => ?_) hs hmet
    exact h.of_key hs (fun hkey => h.remove bridgeTx s hkey hs hremove) removeTx_apart

theorem step (h : Keeps c key I) {a : Action} (hs : I s.ledger) (hmet : c.Met s a) :
    I (Bridge.step a s).ledger := by
  have hcase := step_cases a s
  generalize (Bridge.step a s).ledger = l at hcase ⊢
  cases hcase with
  | idle => exact hs
  | call env origin call _ hok hcase => exact h.call hs (hmet hok) hcase
  | lapsed env index => exact h.apart _ _ (Apart.forgetTask index s) hs
  | task env index bridgeTx _ hdue hok hcase =>
    cases hcase with
    | setting _ hcall => exact hcall.elim
    | scheduled _ _ hstatus houtcome =>
      refine h.of_key hs (fun hkey => h.scheduled bridgeTx s _ l hkey hs (hmet bridgeTx hdue hok)
        (List.eraseIdx_subset ..) hstatus houtcome) fun hkey => ?_
      exact IsTrans.trans _ _ _ (Apart.forgetTask index s) (houtcome.apart hkey)
  | nextBlock => exact h.tick _ hs

/-- **A run whose steps all meet the conditions.** -/
theorem reachable (h : Keeps c key I) {s₀ : Storage} (hstart : I s₀.ledger)
    (hs : ReachableBy Bridge.step c.Met s₀ s) : I s.ledger :=
  hs.invariant (fun s => I s.ledger) hstart fun _ _ => h.step

end Keeps

end Bridge

end Polymesh
