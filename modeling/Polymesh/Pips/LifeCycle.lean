import Polymesh.Pips.Agreement

/-!
# The life cycle of a proposal

A proposal is made, decided on, and possibly pruned, in this order. Its call is dispatched at most
once, and only when the proposal is scheduled. The schedule, the count of active proposals and the
list of committee proposals follow every transition. All this is of runs in which no proposal calls
the pallet when it is dispatched: one that did could dispatch itself again.
-/

namespace Polymesh

open Transactional Tx Currency Relation TransitionSystem

namespace Pips

/-! ## Stages -/

/-- How far a proposal has come. -/
inductive Stage
  | unmade
  | stored (state : ProposalState)
  | pruned
deriving DecidableEq

/-- What a proposal may come to next. -/
inductive Stage.Moves : Stage → Stage → Prop
  | make : Moves .unmade (.stored .pending)
  | decide {old new : ProposalState} (h : Next old new) : Moves (.stored old) (.stored new)
  | prune {state : ProposalState} (h : isActive state = false) : Moves (.stored state) .pruned

/-- The stage of a proposal, by whether it has been made and what is stored. -/
def Stage.of (made : Bool) : Option ProposalState → Stage
  | some state => .stored state
  | none => if made then .pruned else .unmade

def Ledger.stage (l : Ledger) (id : PipId) : Stage :=
  .of (id.number < l.pipIdSequence.number) (l.pips id).state

section Moves

variable {l l' : Ledger} {id : PipId} {p : PipStorage}

theorem Ledger.moves_of_pip (id : PipId) (hpips : l'.pips = Function.update l.pips id p)
    (hseq : l'.pipIdSequence = l.pipIdSequence)
    (hmoves : ReflTransGen Stage.Moves (l.stage id)
      (.of (id.number < l.pipIdSequence.number) p.state)) (id' : PipId) :
    ReflTransGen Stage.Moves (l.stage id') (l'.stage id') := by
  by_cases hid : id' = id
  · subst hid
    unfold Ledger.stage
    rw [hseq, hpips, Function.update_self]
    exact hmoves
  · have hstage : l'.stage id' = l.stage id' := by
      unfold Ledger.stage
      rw [hseq, hpips, Function.update_of_ne hid]
    rw [hstage]

theorem Ledger.moves_of_state (id : PipId) (hpips : l'.pips = Function.update l.pips id p)
    (hseq : l'.pipIdSequence = l.pipIdSequence) (hstate : p.state = (l.pips id).state)
    (id' : PipId) : ReflTransGen Stage.Moves (l.stage id') (l'.stage id') :=
  Ledger.moves_of_pip id hpips hseq (by rw [hstate]; exact .refl) id'

theorem Ledger.stage_eq {state : ProposalState} (hstate : (l.pips id).state = some state) :
    l.stage id = .stored state := by
  rw [Ledger.stage, hstate, Stage.of]

theorem Ledger.Sound.creating_moves (h : l.Sound) {pip : Pip} (hid : pip.id = l.pipIdSequence)
    (hseq : l'.pipIdSequence.number.val = l.pipIdSequence.number.val + 1)
    (hpips : l'.pips = Function.update l.pips pip.id p) (hp : p.state = some .pending)
    (id : PipId) : ReflTransGen Stage.Moves (l.stage id) (l'.stage id) := by
  by_cases hne : id = pip.id
  · rw [hne]
    have hunmade : l.stage pip.id = .unmade := by
      rw [Ledger.stage, h.fresh pip.id (by rw [hid]), hid, decide_eq_false (lt_irrefl _)]
      rfl
    have hmade : l'.stage pip.id = .stored .pending := by
      rw [Ledger.stage, hpips, Function.update_self, hp, Stage.of]
    rw [hunmade, hmade]
    exact .single .make
  · have hnumber : id.number.val ≠ l.pipIdSequence.number.val := by
      intro heq
      rw [hid] at hne
      exact hne (congrArg PipId.mk (Fin.ext heq))
    have hlt : (id.number < l'.pipIdSequence.number) ↔ id.number < l.pipIdSequence.number := by
      rw [Fin.lt_def, Fin.lt_def]
      omega
    have hstage : l'.stage id = l.stage id := by
      unfold Ledger.stage
      rw [hpips, Function.update_of_ne hne, decide_eq_decide.mpr hlt]
    rw [hstage]

theorem Ledger.closing_moves {old new : ProposalState} {prune : Bool}
    {locks : AccountId → List NamedLock} (hmade : id.number < l.pipIdSequence.number)
    (hstate : (l.pips id).state = some old) (hnext : Next old new ∨ old = new ∧ prune)
    (hinactive : isActive new = false) (id' : PipId) :
    ReflTransGen Stage.Moves (l.stage id') ((l.closing id old new prune locks).stage id') := by
  refine Ledger.moves_of_pip id (l.closing_pips id old new prune locks) rfl ?_ id'
  have hdecided : ReflTransGen Stage.Moves (.stored old) (.stored new) := by
    rcases hnext with hnext | ⟨rfl, -⟩
    · exact .single (.decide hnext)
    · exact .refl
  rw [Ledger.stage_eq hstate, decide_eq_true hmade]
  cases prune with
  | true => exact hdecided.tail (.prune hinactive)
  | false => exact hdecided

theorem Ledger.stage_reschedule (l : Ledger) (id : PipId) (schedule : Option BlockNumber)
    (id' : PipId) : (l.reschedule id schedule).stage id' = l.stage id' := by
  by_cases hid : id' = id
  · subst hid
    rw [Ledger.stage, Ledger.reschedule_pip]
    rfl
  · have hpip : (l.reschedule id schedule).pips id' = l.pips id' := Function.update_of_ne hid ..
    rw [Ledger.stage, hpip]
    rfl

/-- **Every change is along the life cycle.** -/
theorem Change.moves (h : l.Sound) (hchange : Change l l') (id : PipId) :
    ReflTransGen Stage.Moves (l.stage id) (l'.stage id) := by
  cases hchange with
  | create pip seq hid hseq => exact h.creating_moves hid hseq rfl rfl id
  | vote id' voter v stats locks hpending hstats hlocks hothers =>
    exact Ledger.moves_of_state id' (by rfl) (by rfl) (by rfl) id
  | schedule id' block hpending =>
    refine Ledger.moves_of_pip id' (by rfl) (by rfl) ?_ id
    rw [Ledger.stage_eq hpending]
    exact .single (.decide .schedule)
  | reschedule id' block hscheduled => rw [Ledger.stage_reschedule]
  | skip id' count hpending => exact Ledger.moves_of_state id' (by rfl) (by rfl) (by rfl) id
  | close id' old new prune schedule locks hstate hnext hinactive hschedule hlocks =>
    rw [← Ledger.stage_reschedule l id' schedule]
    exact Ledger.closing_moves (l := l.reschedule id' schedule) (h.lt_sequence hstate)
      (by rw [Ledger.reschedule_pip]; exact hstate) hnext hinactive id
  | otherLocks locks hlocks => exact .refl

theorem Executes.moves (h : l.Sound) (hexec : Executes id l l') (id' : PipId) :
    ReflTransGen Stage.Moves (l.stage id') (l'.stage id') := by
  obtain ⟨hscheduled, new, prune, locks, hnext, hinactive, -, rfl⟩ := hexec
  rw [← Ledger.stage_reschedule l id none]
  exact Ledger.closing_moves (l := (l.reschedule id none).dispatched id) (h.lt_sequence hscheduled)
    (by rw [Ledger.dispatched, Ledger.reschedule_pip]; exact hscheduled) (.inl hnext) hinactive id'

/-! ## Dispatches -/

theorem count_refundEvents {id' : PipId} : (p.refundEvents id').count (.dispatched id) = 0 := by
  refine List.count_eq_zero.mpr fun he => ?_
  obtain ⟨_, -, h⟩ := List.mem_map.mp he
  cases h

theorem Change.dispatched (hchange : Change l l') (id : PipId) :
    l.history <+: l'.history ∧
      l'.history.count (.dispatched id) = l.history.count (.dispatched id) := by
  cases hchange with
  | vote id' voter v stats locks hpending hstats hlocks hothers =>
    refine ⟨List.prefix_append .., ?_⟩
    simp
  | close id' old new prune schedule locks hstate hnext hinactive hschedule hlocks =>
    rw [Ledger.closing, List.count_append, count_refundEvents]
    exact ⟨List.prefix_append .., rfl⟩
  | create pip seq hid hseq | schedule id' block hpending | reschedule id' block hscheduled
  | skip id' count hpending | otherLocks locks hlocks => exact ⟨List.prefix_rfl, rfl⟩

theorem Executes.dispatched (hexec : Executes id l l') : l.history <+: l'.history ∧ ∀ id',
    l'.history.count (.dispatched id') =
      l.history.count (.dispatched id') + if id' = id then 1 else 0 := by
  obtain ⟨-, new, prune, locks, -, -, -, rfl⟩ := hexec
  rw [Ledger.closing, Ledger.dispatched, Ledger.reschedule]
  refine ⟨(List.prefix_append _ _).trans (List.prefix_append _ _), fun id' => ?_⟩
  rw [List.count_append, List.count_append, count_refundEvents, List.count_singleton]
  by_cases hid : id' = id
  · simp [hid]
  · simp [hid, Ne.symm hid]

/-! ## Schedules and dispatches -/

/-- Whether a proposal may still be dispatched. -/
def Stage.Ahead : Stage → Prop
  | .unmade => True
  | .stored state => isActive state
  | .pruned => False

theorem Stage.Moves.ahead {a b : Stage} (h : Stage.Moves a b) (hb : b.Ahead) : a.Ahead := by
  cases h with
  | make => trivial
  | decide hnext => cases hnext <;> rfl
  | prune => exact hb.elim

theorem Ledger.Sound.ahead_iff (h : l.Sound) : l.Ahead id ↔ (l.stage id).Ahead := by
  unfold Ledger.Ahead Ledger.stage
  cases hstate : (l.pips id).state with
  | none =>
    have hactive : (l.pips id).active = false := by rw [PipStorage.active, hstate]; rfl
    by_cases hlt : id.number < l.pipIdSequence.number
    · simp [hactive, hlt, Stage.of, Stage.Ahead]
    · simp [hlt, not_lt.mp hlt, Stage.of, Stage.Ahead]
  | some state =>
    have hlt := h.lt_sequence hstate
    simp [PipStorage.active_eq hstate, not_le.mpr hlt, Stage.of, Stage.Ahead]

theorem Ledger.Sound.ahead_of_moves (h : l.Sound) (h' : l'.Sound)
    (hmoves : ReflTransGen Stage.Moves (l.stage id) (l'.stage id)) (hahead : l'.Ahead id) :
    l.Ahead id := by
  rw [h'.ahead_iff] at hahead
  rw [h.ahead_iff]
  generalize l'.stage id = b at hmoves hahead
  induction hmoves with
  | refl => exact hahead
  | tail _ hmove ih => exact ih (hmove.ahead hahead)

/-- **What is scheduled has a schedule**, and nothing is dispatched twice. -/
structure Ledger.Orderly (l : Ledger) : Prop where
  scheduled : ∀ id, (l.pips id).schedule.isSome ↔ (l.pips id).state = some .scheduled
  dispatched_le_one : ∀ id, l.history.count (.dispatched id) ≤ 1
  undispatched : ∀ id, l.Ahead id → l.history.count (.dispatched id) = 0

theorem Ledger.Orderly.update (h : l.Orderly) (id : PipId)
    (hp : p.schedule.isSome ↔ p.state = some .scheduled) (id' : PipId) :
    (Function.update l.pips id p id').schedule.isSome ↔
      (Function.update l.pips id p id').state = some .scheduled := by
  by_cases hid : id' = id
  · subst hid
    rw [Function.update_self]
    exact hp
  · rw [Function.update_of_ne hid]
    exact h.scheduled id'

theorem close_scheduled {new : ProposalState} {prune : Bool} (hinactive : isActive new = false)
    (hschedule : p.schedule = none) :
    (p.close new prune).schedule.isSome ↔ (p.close new prune).state = some .scheduled := by
  have hclosed : (p.close new prune).schedule = none := by
    unfold PipStorage.close
    split <;> exact hschedule
  refine ⟨fun h => ?_, fun h => ?_⟩
  · rw [hclosed] at h
    cases h
  · have hactive := PipStorage.active_iff.mpr (.inr h)
    rw [PipStorage.close_active hinactive] at hactive
    cases hactive

/-- **Every change keeps the order.** -/
theorem Change.orderly (h : l.Sound) (horder : l.Orderly) (hchange : Change l l') : l'.Orderly := by
  have hcount := fun id => (hchange.dispatched id).2
  refine ⟨?_, fun id => (hcount id).trans_le (horder.dispatched_le_one id), fun id hid =>
    (hcount id).trans (horder.undispatched id (h.ahead_of_moves (hchange.sound h)
      (hchange.moves h id) hid))⟩
  cases hchange with
  | create pip seq hid hseq =>
    refine horder.update pip.id ?_
    rw [h.fresh pip.id (by rw [hid])]
    exact ⟨fun hsome => (by cases hsome), fun hstate => (by cases hstate)⟩
  | vote id | skip id => exact horder.update id (horder.scheduled id)
  | schedule id => exact horder.update id ⟨fun _ => rfl, fun _ => rfl⟩
  | reschedule id block hscheduled => exact horder.update id ⟨fun _ => hscheduled, fun _ => rfl⟩
  | otherLocks => exact horder.scheduled
  | close id old new prune schedule locks hstate hnext hinactive hschedule hlocks =>
    have hnone : schedule = none := by
      rw [hschedule]
      split_ifs with hold
      · rfl
      · rw [← Option.not_isSome_iff_eq_none, horder.scheduled, hstate, Option.some_inj]
        exact hold
    rw [Ledger.closing_reschedule_pips]
    exact horder.update id (close_scheduled hinactive hnone)

theorem Executes.orderly (h : l.Sound) (h' : l'.Sound) (horder : l.Orderly)
    (hexec : Executes id l l') : l'.Orderly := by
  have hcount := hexec.dispatched.2
  have hnot : ∀ id', l'.Ahead id' → id' ≠ id := by
    rintro id' hid' rfl
    obtain ⟨hscheduled, new, prune, locks, -, hinactive, -, rfl⟩ := hexec
    rcases hid' with hid' | hle
    · rw [Ledger.closing_pips, Function.update_self, PipStorage.close_active hinactive] at hid'
      cases hid'
    · exact absurd (h.lt_sequence hscheduled) (not_lt.mpr hle)
  refine ⟨?_, fun id' => ?_, fun id' hid' => ?_⟩
  · obtain ⟨hscheduled, new, prune, locks, -, hinactive, -, rfl⟩ := hexec
    have hpips := l.closing_reschedule_pips id .scheduled new prune none locks
    intro id'
    rw [show (((l.reschedule id none).dispatched id).closing id .scheduled new prune locks).pips = _
      from hpips]
    exact horder.update id (close_scheduled hinactive rfl) id'
  · rw [hcount]
    split_ifs with hid
    · rw [hid, horder.undispatched id (.inl (PipStorage.active_iff.mpr (.inr hexec.scheduled)))]
    · exact horder.dispatched_le_one id'
  · rw [hcount, if_neg (hnot id' hid')]
    exact horder.undispatched id' (h.ahead_of_moves h' (hexec.moves h id') hid')

end Moves

/-! ## Changes one after the other -/

section Changes

variable {l l' : Ledger}

theorem changes_moves (h : l.Sound) (hchanges : ReflTransGen Change l l') (id : PipId) :
    ReflTransGen Stage.Moves (l.stage id) (l'.stage id) := by
  induction hchanges with
  | refl => exact .refl
  | tail hbefore hchange ih => exact ih.trans (hchange.moves (sound_of_changes h hbefore) id)

theorem changes_dispatched (hchanges : ReflTransGen Change l l') (id : PipId) :
    l.history <+: l'.history ∧
      l'.history.count (.dispatched id) = l.history.count (.dispatched id) := by
  induction hchanges with
  | refl => exact ⟨List.prefix_rfl, rfl⟩
  | tail _ hchange ih =>
    obtain ⟨hnoted, hcount⟩ := hchange.dispatched id
    exact ⟨ih.1.trans hnoted, hcount.trans ih.2⟩

theorem changes_orderly (h : l.Sound) (horder : l.Orderly) (hchanges : ReflTransGen Change l l') :
    l'.Orderly := by
  induction hchanges with
  | refl => exact horder
  | tail hbefore hchange ih => exact hchange.orderly (sound_of_changes h hbefore) ih

end Changes

/-! ## Runs -/

section Runs

variable {s s' : Storage}

/-- What a call dispatches does not call the pallet. -/
def Action.Plain : Action → Prop
  | .call _ _ _ inner => inner = []
  | .otherLock .. => True

theorem Dispatches.executes {id : PipId}
    (h : Dispatches (fun s s' => s = s' ∧ Good s') id s s') : Executes id s.ledger s'.ledger := by
  obtain ⟨hscheduled, -, _, new, hnext, hinactive, ⟨rfl, -⟩, hcloses⟩ := h
  have hpip : ((s.mapPip id fun p => { p with schedule := none }).note (.dispatched id)).pips id =
      { s.pips id with schedule := none } := Function.update_self ..
  rcases hcloses with ⟨hnone, -⟩ | ⟨old, prune, locks, hstate, hreleased, heq⟩
  · cases hscheduled.symm.trans ((congrArg PipStorage.state hpip).symm.trans hnone)
  · obtain rfl : old = .scheduled := Option.some_inj.mp
      (hstate.symm.trans ((congrArg PipStorage.state hpip).trans hscheduled))
    refine ⟨hscheduled, new, prune, locks, hnext, hinactive, ?_, heq⟩
    exact fun who n hn => (hreleased who n hn).trans
      (congrArg (fun p => lockOf (n - p.depositOf who)) hpip)

/-- **One step** changes the ledger, or dispatches one proposal. -/
theorem step_changes (h : Good s) {a : Action} (hplain : a.Plain) :
    ReflTransGen Change s.ledger (step a s).ledger ∨
      ∃ id, Executes id s.ledger (step a s).ledger := by
  refine step_of_ends (R := fun s' => ReflTransGen Change s.ledger s'.ledger ∨
    ∃ id, Executes id s.ledger s'.ledger) (.inl .refl) ?_
  cases a with
  | call env origin call inner =>
    obtain rfl : inner = [] := hplain
    rw [perform, performAll]
    refine (dispatch_ends (R := fun s s' => s = s' ∧ Good s') (fun s h => .of_ok (a := ()) rfl
      ⟨rfl, h⟩) (by rintro s _ ⟨rfl, h⟩; exact .refl h) h call).mono ?_
    rintro _ s' (hleads | ⟨id, hdispatches⟩)
    · exact .inl hleads.changes
    · exact .inr ⟨id, hdispatches.executes⟩
  | otherLock who id change =>
    rw [perform]
    exact .modify (.inl (otherLock_leads h who id change).changes)

theorem step_orderly (h : Good s) (horder : s.ledger.Orderly) {a : Action} (hplain : a.Plain) :
    (step a s).ledger.Orderly := by
  rcases step_changes h hplain with hchanges | ⟨id, hexec⟩
  · exact changes_orderly h.ledger horder hchanges
  · exact hexec.orderly h.ledger (step_follows h a).good.ledger horder

theorem reachable_orderly {config : GenesisConfig}
    (h : ReachableBy step (fun _ a => a.Plain) (genesis config) s) : s.ledger.Orderly := by
  have hinvariant : Good s ∧ s.ledger.Orderly := h.invariant (fun s => Good s ∧ s.ledger.Orderly)
    ⟨genesis_good config, fun _ => ⟨fun hsome => (by cases hsome), fun hstate => (by cases hstate)⟩,
      fun _ => Nat.zero_le _, fun _ _ => rfl⟩
    fun _ a hs hplain => ⟨(step_follows hs.1 a).good, step_orderly hs.1 hs.2 hplain⟩
  exact hinvariant.2

theorem step_moves (h : Good s) {a : Action} (hplain : a.Plain) (id : PipId) :
    ReflTransGen Stage.Moves (s.ledger.stage id) ((step a s).ledger.stage id) := by
  rcases step_changes h hplain with hchanges | ⟨id', hexec⟩
  · exact changes_moves h.ledger hchanges id
  · exact hexec.moves h.ledger id

theorem step_dispatched (h : Good s) {a : Action} (hplain : a.Plain) (id : PipId) :
    s.history <+: (step a s).history ∧
      (s.history.count (.dispatched id) < (step a s).history.count (.dispatched id) →
        (s.pips id).state = some .scheduled) := by
  rcases step_changes h hplain with hchanges | ⟨id', hexec⟩
  · obtain ⟨hnoted, hcount⟩ := changes_dispatched hchanges id
    exact ⟨hnoted, fun hlt => absurd hcount hlt.ne'⟩
  · obtain ⟨hnoted, hcount⟩ := hexec.dispatched
    refine ⟨hnoted, fun hlt => ?_⟩
    by_cases hid : id = id'
    · rw [hid]
      exact hexec.scheduled
    · have hsame := hcount id
      rw [if_neg hid] at hsame
      exact absurd hsame hlt.ne'

theorem byCommittee_iff {p : PipStorage} : p.byCommittee ↔
    ∃ pip committee, p.proposal = some pip ∧ pip.proposer = .committee committee := by
  unfold PipStorage.byCommittee
  constructor
  · intro h
    split at h
    case h_1 number proposal committee hpip => exact ⟨_, committee, hpip, rfl⟩
    case h_2 => cases h
  · rintro ⟨⟨_, _, _⟩, committee, hpip, rfl⟩
    rw [hpip]

theorem counted_iff (h : Good s) : s.activePipCount = (Finset.univ.filter fun id =>
    (s.pips id).state = some .pending ∨ (s.pips id).state = some .scheduled).card := by
  have hcounted : s.activePipCount = (Finset.univ.filter fun id => (s.pips id).active).card :=
    h.ledger.counted
  rw [hcounted, Finset.filter_congr fun id _ => PipStorage.active_iff]

/-- **The life cycle of a proposal**, from every state on that is reached without a proposal calling
the pallet. A step moves every proposal along the life cycle only, and forgets no event. A call is
dispatched at most once in the history, and by a step only if its proposal is scheduled. A schedule is
set exactly for what is scheduled, the active proposals are counted, and those of committees are
listed. A step makes changes one after the other, or dispatches one proposal, and in each of the
states on the way the count of active proposals is not zero while one of them is active. -/
theorem life_cycle {config : GenesisConfig}
    (h : ReachableBy step (fun _ a => a.Plain) (genesis config) s) :
    (∀ a, a.Plain → ∀ id, ReflTransGen Stage.Moves (s.ledger.stage id) ((step a s).ledger.stage id)) ∧
    (∀ id, s.history.count (.dispatched id) ≤ 1) ∧
    (∀ a, a.Plain → ∀ id, s.history <+: (step a s).history ∧
      (s.history.count (.dispatched id) < (step a s).history.count (.dispatched id) →
        (s.pips id).state = some .scheduled)) ∧
    (∀ id, (s.pips id).schedule.isSome ↔ (s.pips id).state = some .scheduled) ∧
    s.activePipCount = (Finset.univ.filter fun id =>
      (s.pips id).state = some .pending ∨ (s.pips id).state = some .scheduled).card ∧
    (∀ a, a.Plain → ReflTransGen Change s.ledger (step a s).ledger ∨
      ∃ id, Executes id s.ledger (step a s).ledger) ∧
    (∀ l, ReflTransGen Change s.ledger l → ∀ id, (l.pips id).active → 0 < l.activePipCount) ∧
    s.committeePips.Nodup ∧ ∀ id, id ∈ s.committeePips ↔
      ∃ pip committee, (s.pips id).proposal = some pip ∧ pip.proposer = .committee committee := by
  have hgood := reachable_good h.reachable
  have hledger := hgood.ledger
  have horder := reachable_orderly h
  refine ⟨fun _ => step_moves hgood, horder.dispatched_le_one, fun _ => step_dispatched hgood,
    horder.scheduled, counted_iff hgood, fun _ => step_changes hgood, fun l hchanges id =>
      (sound_of_changes hledger hchanges).count_pos, hledger.committee_nodup, fun id => ?_⟩
  rw [← byCommittee_iff]
  exact hledger.mem_committee id

/-- A committee proposes, and its proposal is approved and dispatched. -/
def oneExecuted : List Action :=
  [.call openEnv .root (.propose ⟨7⟩ 0) [], .call openEnv .root (.approveCommitteeProposal ⟨0⟩) [],
    .call openEnv .root (.executeScheduledPip ⟨0⟩) []]

theorem life_cycle_oneExecuted :
    let s := run step (genesis openConfig) oneExecuted
    s.ledger.stage ⟨0⟩ = .stored .executed ∧ s.history.count (.dispatched ⟨0⟩) = 1 ∧
      ∀ a, a.Plain → ReflTransGen Stage.Moves (s.ledger.stage ⟨0⟩) ((step a s).ledger.stage ⟨0⟩) :=
  ⟨by decide +kernel, by decide +kernel, fun a hplain =>
    (life_cycle ⟨oneExecuted, ⟨rfl, rfl, rfl, trivial⟩, rfl⟩).1 a hplain ⟨0⟩⟩

end Runs

end Pips

end Polymesh
