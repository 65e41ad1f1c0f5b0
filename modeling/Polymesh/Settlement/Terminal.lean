import Polymesh.Settlement.Refinement

/-!
# Instructions that are settled for good

An instruction ends as a success or rejected. No call can change such a status except the one of
the scheduler: a task can outlive its instruction, or be scheduled for an instruction that is
long pruned, and its failure is then written over the final status. Where the scheduler executes
only instructions that are still pending or failed, a final status stays.
-/

namespace Polymesh

open Transactional Tx Relation
open TransitionSystem (along_append run run_append run_invariant run_rel)

/-- The status is final. -/
def InstructionStatus.isTerminal : InstructionStatus → Bool
  | .success _ | .rejected _ => true
  | .unknown | .pending | .failed => false

namespace Settlement

/-- The scheduler's call, if the action makes one, is for an instruction that is pending or
failed. -/
def ExecutesLive (s : Storage) (a : Action) : Prop :=
  ∀ id, Executes id s a →
    s.settlement.instructionStatuses id = .pending ∨ s.settlement.instructionStatuses id = .failed

theorem lifeSteps_status_eq {r r' : InstructionRecord} (h : ReflTransGen LifeStep r r')
    (hp : r.status ≠ .pending) (hf : r.status ≠ .failed) : r'.status = r.status := by
  induction h with
  | refl => rfl
  | tail _ hstep ih =>
    rw [← ih] at hp hf ⊢
    exact hstep.status_eq hp hf

theorem not_live_of_isTerminal {status : InstructionStatus} (h : status.isTerminal) :
    status ≠ .pending ∧ status ≠ .failed := by
  cases status <;> simp_all [InstructionStatus.isTerminal]

/-- The records are valid, and ids that have not been given have no status. -/
structure StatusInv (s : Storage) : Prop where
  instructions : InstructionsInv s
  unknown : ∀ id, s.settlement.instructionCounter.id ≤ id.id →
    s.settlement.instructionStatuses id = .unknown

/-- Final statuses are the same. -/
def KeepsTerminal (s s' : Storage) : Prop :=
  ∀ id, (s.settlement.instructionStatuses id).isTerminal →
    s'.settlement.instructionStatuses id = s.settlement.instructionStatuses id

instance : Std.Refl KeepsTerminal := ⟨fun _ _ _ => rfl⟩

instance : IsTrans Storage KeepsTerminal where
  trans _ _ _ h₁ h₂ id hid := by
    have h₁ := h₁ id hid
    rw [← h₁] at hid ⊢
    exact h₂ id hid

section Steps

variable {s : Storage} {a : Action}

variable {id : InstructionId}

/-- A status that is neither pending nor failed stays, unless the step makes the scheduler's call
for the instruction, or adds it. -/
theorem step_status_eq (hs : InstructionsInv s) (hid : id.id < s.settlement.instructionCounter.id ∨
      (step a s).settlement.instructionCounter.id ≤ id.id)
    (hp : s.settlement.instructionStatuses id ≠ .pending)
    (hf : s.settlement.instructionStatuses id ≠ .failed) (ha : ¬ Executes id s a) :
    (step a s).settlement.instructionStatuses id = s.settlement.instructionStatuses id := by
  rcases (step_advances a hs).2 with hprogress | ⟨id', hid', hfailed⟩
  · exact lifeSteps_status_eq (hprogress.steps id hid) hp hf
  · have hne : id ≠ id' := fun heq => ha (heq ▸ hid')
    rw [hfailed]
    exact Function.update_of_ne hne _ _

theorem not_executes_of_live (ha : ExecutesLive s a)
    (hp : s.settlement.instructionStatuses id ≠ .pending)
    (hf : s.settlement.instructionStatuses id ≠ .failed) : ¬ Executes id s a :=
  fun h => (ha id h).elim hp hf

theorem step_counter_le (hs : InstructionsInv s) :
    s.settlement.instructionCounter.id ≤ (step a s).settlement.instructionCounter.id := by
  rcases (step_advances a hs).2 with hprogress | ⟨id, -, hfailed⟩
  · exact hprogress.counter_le
  · rw [hfailed]
    rfl

theorem StatusInv.keep (hs : StatusInv s) (ha : ExecutesLive s a) : StatusInv (step a s) := by
  refine ⟨(step_advances a hs.instructions).1, fun id hid => ?_⟩
  have hunknown := hs.unknown id ((step_counter_le hs.instructions).trans hid)
  have hp : s.settlement.instructionStatuses id ≠ .pending := by simp [hunknown]
  have hf : s.settlement.instructionStatuses id ≠ .failed := by simp [hunknown]
  rw [step_status_eq hs.instructions (.inr hid) hp hf (not_executes_of_live ha hp hf), hunknown]

theorem StatusInv.keepsTerminal (hs : StatusInv s) (ha : ExecutesLive s a) :
    KeepsTerminal s (step a s) := by
  intro id hid
  obtain ⟨hp, hf⟩ := not_live_of_isTerminal hid
  refine step_status_eq hs.instructions (.inl ?_) hp hf (not_executes_of_live ha hp hf)
  by_contra hfresh
  rw [hs.unknown id (not_lt.mp hfresh)] at hid
  cases hid

/-- The scheduler's call writes a failure over any status that is neither pending nor failed. -/
theorem executeScheduledInstruction_of_not_live {env : Env} (hlimit : env.validWeightLimit)
    (hp : s.settlement.instructionStatuses id ≠ .pending)
    (hf : s.settlement.instructionStatuses id ≠ .failed) :
    executeScheduledInstruction env .root id s =
      (.ok (), s.mapSettlement (setStatus id .failed)) := by
  rcases executeInstructionRetryable_cases env id s with ⟨s₁, hexec, -⟩ | ⟨e, -, hrun⟩
  · exact absurd (executeInstruction_ok hexec).2.2.1 (not_or.mpr ⟨hp, hf⟩)
  · simp [executeScheduledInstruction, baseExecuteScheduledInstruction, Asset.ensureRoot, hlimit,
      hrun]

theorem step_status_of_executes (ha : Executes id s a)
    (hp : s.settlement.instructionStatuses id ≠ .pending)
    (hf : s.settlement.instructionStatuses id ≠ .failed) :
    (step a s).settlement.instructionStatuses id = .failed := by
  have hfailed : ∀ t : SettlementStorage,
      (setStatus id .failed t).instructionStatuses id = .failed := fun t =>
    Function.update_self _ _ _
  cases a with
  | extrinsic env origin call =>
    cases call with
    | executeScheduledInstruction id' =>
      obtain ⟨rfl, rfl, hlimit⟩ := ha
      simp only [step, dispatch, transaction, executeScheduledInstruction_of_not_live hlimit hp hf]
      exact hfailed _
    | _ => cases ha
  | scheduled env id' =>
    obtain ⟨rfl, hdue, hlimit⟩ := ha
    have hrun := executeScheduledInstruction_of_not_live (s := s.mapSystem (cancelNamed id'))
      hlimit hp hf
    simp only [step, hdue, if_true, transaction, hrun]
    exact hfailed _
  | nextBlock => cases ha

end Steps

/-- **Final statuses stay**, in every run whose scheduled executions are for instructions that are
pending or failed. In every state of the chain, the scheduler's call is also the only step that
changes the final status of an instruction. -/
theorem terminal_status_absorbing (id : InstructionId) :
    (∀ as bs, TransitionSystem.Along step ExecutesLive genesis (as ++ bs) →
      ((run step genesis as).settlement.instructionStatuses id).isTerminal →
      (run step genesis (as ++ bs)).settlement.instructionStatuses id =
        (run step genesis as).settlement.instructionStatuses id) ∧
    ∀ s a, Reachable s → id.id < s.settlement.instructionCounter.id →
      (s.settlement.instructionStatuses id).isTerminal →
      ((step a s).settlement.instructionStatuses id = s.settlement.instructionStatuses id ↔
        ¬ Executes id s a) := by
  refine ⟨fun as bs hrun hid => ?_, fun s a hs hgiven hid => ?_⟩
  · obtain ⟨has, hbs⟩ := (along_append step).mp hrun
    have hinit : StatusInv genesis := ⟨instructionsInv_genesis, fun _ _ => rfl⟩
    have hinv := run_invariant StatusInv (fun _ _ => StatusInv.keep) hinit has
    have hrel := run_rel StatusInv KeepsTerminal (fun _ _ => StatusInv.keep)
      (fun _ _ => StatusInv.keepsTerminal) hinv hbs
    rw [run_append]
    exact hrel id hid
  · obtain ⟨hp, hf⟩ := not_live_of_isTerminal hid
    constructor
    · intro heq ha
      rw [step_status_of_executes ha hp hf] at heq
      exact hf heq.symm
    · exact step_status_eq (reachable_instructionsInv hs) (.inl hgiven) hp hf

/-- The setting of the runs below: an instruction that settles on affirmation, between two
identities, in block 0. -/
def twoPartyRun : List Action :=
  [.calls 1 (.createAsset ⟨1⟩ true .equityCommon), .calls 1 (.issue ⟨1⟩ 1000 .default),
    .calls 1 (.createVenue [] .other),
    .calls 1 (.addAndAffirmInstruction ⟨1⟩ .settleOnAffirmation none none
      [.fungible (.defaultPortfolio ⟨1⟩) (.defaultPortfolio ⟨2⟩) ⟨1⟩ 10]
      [.defaultPortfolio ⟨1⟩] [])]

/-- The scheduler executes a pending instruction, which stays a success when the receiver tries
to execute it again. -/
theorem terminal_status_absorbing_executed :
    let as := twoPartyRun ++ [.calls 2 (.affirmInstruction ⟨1⟩ [.defaultPortfolio ⟨2⟩] none),
      .nextBlock 6000, .scheduled .consenting ⟨1⟩]
    let bs := [.calls 2 (.executeManualInstruction ⟨1⟩ (some (.defaultPortfolio ⟨2⟩)) ⟨1, 0, 0⟩)]
    TransitionSystem.Along step ExecutesLive genesis (as ++ bs) ∧
      (run step genesis as).settlement.instructionStatuses ⟨1⟩ = .success 1 ∧
      (run step genesis (as ++ bs)).settlement.instructionStatuses ⟨1⟩ =
        .success 1 := by
  intro as bs
  have hlive : TransitionSystem.Along step ExecutesLive genesis (as ++ bs) := by
    refine ⟨?_, ?_, ?_, ?_, ?_, ?_, ?_, ?_, trivial⟩
    case refine_7 =>
      rintro id ⟨rfl, -⟩
      exact .inl rfl
    all_goals exact fun _ h => False.elim h
  exact ⟨hlive, by rfl, (terminal_status_absorbing ⟨1⟩).1 as bs hlive (by rfl)⟩

/-- A rejected instruction: somebody affirms it for no portfolio at all, which schedules it, and
the task of the next block writes a failure. An executed instruction: the last affirmation
schedules it, it is executed manually, and the task is still due in the next block. -/
theorem scheduled_task_overwrites_terminal :
    let rejected := run step genesis (twoPartyRun ++
      [.calls 2 (.rejectInstruction ⟨1⟩ (some (.defaultPortfolio ⟨2⟩)) none)])
    let executed := run step genesis (twoPartyRun ++
      [.calls 2 (.affirmInstruction ⟨1⟩ [.defaultPortfolio ⟨2⟩] none),
        .calls 2 (.executeManualInstruction ⟨1⟩ (some (.defaultPortfolio ⟨2⟩)) ⟨1, 0, 0⟩)])
    rejected.settlement.instructionStatuses ⟨1⟩ = .rejected 0 ∧
      (run step rejected
        [.calls 9 (.affirmInstruction ⟨1⟩ [] none), .nextBlock 6000,
          .scheduled .consenting ⟨1⟩]).settlement.instructionStatuses ⟨1⟩ = .failed ∧
      executed.settlement.instructionStatuses ⟨1⟩ = .success 0 ∧
      (run step executed
        [.nextBlock 6000, .scheduled .consenting ⟨1⟩]).settlement.instructionStatuses ⟨1⟩ =
          .failed := by
  refine ⟨?_, ?_, ?_, ?_⟩ <;> rfl

end Settlement

end Polymesh
