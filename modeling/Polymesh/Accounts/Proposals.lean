import Polymesh.Accounts.Signers

/-!
# Proposals of multisigs

Signers vote on the proposals of a multisig, and every vote is counted once. When enough of them
approve, the execution is scheduled, and it takes place whatever has happened to the proposal in
between. So a proposal that was rejected may still be run, and one whose call approves it again may
be run twice; apart from that, what is rejected stays so, and what is run was approved and is run
once.
-/

namespace Polymesh

open Transactional Tx TransitionSystem
open Function (update update_apply update_of_ne update_self)

namespace Accounts

/-! ## Ballots -/

/-- The proposals, their votes, the agenda of the scheduler and what has happened. -/
structure Ballots where
  txDone : AccountId → ℕ
  votes : AccountId × ℕ → Signatory → Bool
  details : AccountId × ℕ → ProposalDetails
  agenda : List Task
  history : List Event

def Storage.ballots (s : Storage) : Ballots where
  txDone := s.multisig.multiSigTxDone
  votes := s.multisig.votes
  details := s.multisig.proposalDetail
  agenda := s.agenda
  history := s.history

/-- The proposal of a task. -/
def Task.name (task : Task) : AccountId × ℕ := (task.multisig, task.proposalId)

/-- Events of votes and executions. -/
def Event.onProposal : Event → Bool
  | .approved _ _ _ _ _ | .rejected _ _ | .executed _ _ _ => true
  | _ => false

/-- Approvals of a proposal. -/
def Event.approves (p : AccountId × ℕ) : Event → Bool
  | .approved multisig proposalId _ _ _ => (multisig, proposalId) = p
  | _ => false

namespace Ballots

/-- The agenda with a task, unless there is one of the same name. -/
def plan (task : Task) (b : Ballots) : List Task :=
  if b.agenda.any fun other => other.multisig = task.multisig ∧ other.proposalId = task.proposalId
  then b.agenda else b.agenda ++ [task]

def vote (p : AccountId × ℕ) (signer : Signatory) (b : Ballots) :
    AccountId × ℕ → Signatory → Bool :=
  update b.votes p (update (b.votes p) signer true)

/-- A new proposal. -/
def opened (multisig : AccountId) (expiry : Option Moment) (autoClose : Bool) (b : Ballots) :
    Ballots :=
  { b with
    txDone := update b.txDone multisig (b.txDone multisig + 1)
    details := update b.details (multisig, b.txDone multisig) (.new expiry autoClose) }

/-- An approval, by which the task is planned if there are enough of them. -/
def approved (task : Task) (signer : Signatory) (required : ℕ) (b : Ballots) : Ballots :=
  let details := b.details task.name
  { b with
    votes := b.vote task.name signer
    details := update b.details task.name
      { details with approvals := details.approvals + 1 }
    agenda := if required ≤ details.approvals + 1 then b.plan task else b.agenda
    history := b.history ++
      [.approved task.multisig task.proposalId signer (details.approvals + 1) required] }

/-- A rejection, which may close the proposal. -/
def rejected (multisig : AccountId) (proposalId : ℕ) (signer : Signatory) (closes : Bool)
    (b : Ballots) : Ballots :=
  let details :=
    { (b.details (multisig, proposalId)) with
      rejections := (b.details (multisig, proposalId)).rejections + 1 }
  { b with
    votes := b.vote (multisig, proposalId) signer
    details := update b.details (multisig, proposalId)
      (if closes then { details with status := .rejected } else details)
    history := b.history ++ if closes then [.rejected multisig proposalId] else [] }

/-- The outcome of an execution. -/
def executed (multisig : AccountId) (proposalId : ℕ) (success : Bool) (b : Ballots) : Ballots :=
  { b with
    details := update b.details (multisig, proposalId)
      { (b.details (multisig, proposalId)) with status := executionStatus success }
    history := b.history ++ [.executed multisig proposalId success] }

/-- The proposal is open, and the signer has not voted on it. -/
structure Open (p : AccountId × ℕ) (signer : Signatory) (b : Ballots) : Prop where
  notVoted : b.votes p signer = false
  active : (b.details p).status = .activeOrExpired

/-- What can happen to them. -/
inductive Next : Effect → Ballots → Ballots → Prop
  | other (effect : Effect) (b : Ballots) (events : List Event)
      (h : ∀ event ∈ events, event.onProposal = false) :
      Next effect b { b with history := b.history ++ events }
  | propose {multisig : AccountId} (proposal : Call) (expiry : Option Moment) (autoClose : Bool)
      (task : Task) {signer : Signatory} (required : ℕ) {b : Ballots}
      (hname : task.name = (multisig, b.txDone multisig))
      (hvote : b.votes task.name signer = false) :
      Next (.propose multisig (b.txDone multisig) proposal) b
        ((b.opened multisig expiry autoClose).approved task signer required)
  | approve (task : Task) {signer : Signatory} (required : ℕ) {b : Ballots}
      (h : b.Open task.name signer) :
      Next (.approve task.multisig task.proposalId) b (b.approved task signer required)
  | reject {multisig : AccountId} {proposalId : ℕ} {signer : Signatory} (closes : Bool)
      {b : Ballots} (h : b.Open (multisig, proposalId) signer) :
      Next (.reject multisig proposalId) b (b.rejected multisig proposalId signer closes)
  | execute (multisig : AccountId) (proposalId : ℕ) (success : Bool) (b : Ballots) :
      Next (.execute multisig proposalId) b (b.executed multisig proposalId success)
  | forget (task : Task) (b : Ballots) : Next .forget b { b with agenda := b.agenda.erase task }

theorem Next.same (effect : Effect) (b : Ballots) : Next effect b b := by
  have h := Next.other effect b [] (by simp)
  rwa [show ({ b with history := b.history ++ [] } : Ballots) = b by rw [List.append_nil]] at h

end Ballots

variable {hashes : Hashes} {effect : Effect} {s : Storage} {call : Call} {p : AccountId × ℕ}
  {identities : List GenesisIdentity}

theorem Occurs.ballots {s' : Storage} (h : Occurs hashes effect s s') :
    Ballots.Next effect s.ballots s'.ballots := by
  by_cases hlink : effect.IsLink
  · obtain ⟨i, rfl, -⟩ := h.onlyKeys hlink
    exact .same effect s.ballots
  · cases h with
    | aside h =>
      have hsame : s'.ballots = s.ballots := by
        simp only [Storage.ballots, h.multiSigTxDone, h.votes, h.proposalDetail, h.agenda,
          h.history]
      rw [hsame]
      exact .same _ _
    | @addSigner multisig key s hkey hsigner =>
      obtain ⟨i, hi, -⟩ := addKeyRecord_onlyKeys key (.multiSigSignerKey multisig)
        (writeSigner multisig key s)
      exact (congrArg Storage.ballots hi).symm ▸ .same _ _
    | @removeSigners multisig signers s hsigners hlength hrequired =>
      obtain ⟨i, hi, -⟩ := foldl_unsafeSignerRemoval_onlyKeys multisig signers s
      rw [hi]
      exact .same _ s.ballots
    | @propose multisig signer proposal expiry autoClose s hvote =>
      rw [writeApproval_eq]
      exact .propose (b := s.ballots) proposal expiry autoClose
        ⟨multisig, s.multisig.multiSigTxDone multisig, MultiSig.msToIdentity multisig s,
          s.blockNumber + 1⟩ _ rfl hvote
    | @approve multisig proposalId signer s hvote =>
      rw [writeApproval_eq]
      exact .approve (b := s.ballots)
        ⟨multisig, proposalId, MultiSig.msToIdentity multisig s, s.blockNumber + 1⟩ _
        ⟨hvote.notVoted, hvote.active⟩
    | @reject multisig proposalId signer s hvote =>
      rw [writeRejection_eq]
      exact .reject (b := s.ballots) _ ⟨hvote.notVoted, hvote.active⟩
    | execute multisig proposalId success s => exact .execute multisig proposalId success s.ballots
    | @debit userKey fee subsidy =>
      exact .other _ s.ballots [.charged userKey subsidy.payingKey fee] (by simp [Event.onProposal])
    | limit userKey subsidy events s hne hevents =>
      refine .other _ s.ballots events fun event hevent => ?_
      have := hevents event hevent
      cases event <;> first | exact this.elim | rfl
    | forget task s => exact .forget task s.ballots
    | linkPrimary | linkSecondary | unlink | rotate => exact absurd trivial hlink
    | _ => exact .same _ _

/-- The effects that calls have. Only the scheduler forgets a task, and only the root executes. -/
def Effect.Called : Effect → Prop
  | .execute _ _ | .forget => False
  | _ => True

theorem Effect.Free.called (h : effect.Free) : effect.Called := by
  cases effect <;> first | exact h.elim | trivial

theorem Effect.Of.called (h : effect.Of call) : effect.Called := by
  cases h with
  | free h => exact h.called
  | _ => trivial

namespace Ballots

/-! ## Votes -/

variable {multisig : AccountId} {task : Task} {history events : List Event} {proposalId : ℕ}

section Votes

variable {b b' : Ballots} {signer : Signatory}

/-- Nobody has voted on proposals that are not there yet, and they are not open. -/
def Fresh (b : Ballots) : Prop :=
  ∀ multisig proposalId, b.txDone multisig ≤ proposalId →
    (∀ signer, b.votes (multisig, proposalId) signer = false) ∧
      (b.details (multisig, proposalId)).status ≠ .activeOrExpired

theorem Open.lt (h : b.Open p signer) (hb : b.Fresh) : p.2 < b.txDone p.1 := by
  by_contra hle
  exact (hb p.1 p.2 (Nat.le_of_not_lt hle)).2 h.active

/-- What happens to a proposal that is there does not matter to those that are not. -/
theorem Fresh.of_eq (hb : b.Fresh) (hlt : p.2 < b.txDone p.1) (htxDone : b'.txDone = b.txDone)
    (hvotes : ∀ p' ≠ p, b'.votes p' = b.votes p')
    (hdetails : ∀ p' ≠ p, b'.details p' = b.details p') : b'.Fresh := by
  intro multisig proposalId hle
  rw [htxDone] at hle
  have hne : (multisig, proposalId) ≠ p := by
    rintro rfl
    exact absurd hlt (Nat.not_lt.mpr hle)
  rw [hvotes _ hne, hdetails _ hne]
  exact hb multisig proposalId hle

theorem le_txDone_opened (multisig : AccountId) (expiry : Option Moment) (autoClose : Bool)
    (b : Ballots) (multisig' : AccountId) :
    b.txDone multisig' ≤ (b.opened multisig expiry autoClose).txDone multisig' := by
  simp only [Ballots.opened, update_apply]
  split
  case isTrue heq => exact heq ▸ Nat.le_succ _
  case isFalse => exact le_rfl

theorem Fresh.opened (hb : b.Fresh) (multisig : AccountId) (expiry : Option Moment)
    (autoClose : Bool) : (b.opened multisig expiry autoClose).Fresh := by
  intro multisig' proposalId hle
  have hne : (multisig', proposalId) ≠ (multisig, b.txDone multisig) := by
    rintro heq
    obtain ⟨rfl, rfl⟩ := Prod.mk.inj heq
    simp [Ballots.opened] at hle
  have hle' : b.txDone multisig' ≤ proposalId := (le_txDone_opened ..).trans hle
  simpa only [Ballots.opened, update_of_ne hne] using hb multisig' proposalId hle'

theorem opened_active (multisig : AccountId) (expiry : Option Moment) (autoClose : Bool)
    (b : Ballots) :
    ((b.opened multisig expiry autoClose).details (multisig, b.txDone multisig)).status =
      .activeOrExpired := by
  simp [opened, ProposalDetails.new]

theorem Open.of_opened (expiry : Option Moment) (autoClose : Bool)
    (hp : p = (multisig, b.txDone multisig)) (hvote : b.votes p signer = false) :
    (b.opened multisig expiry autoClose).Open p signer := by
  subst hp
  exact ⟨hvote, opened_active multisig expiry autoClose b⟩

theorem Fresh.approved (hb : b.Fresh) (h : b.Open task.name signer) (required : ℕ) :
    (b.approved task signer required).Fresh :=
  hb.of_eq (h.lt hb) rfl (fun _ hne => update_of_ne hne _ _)
    fun _ hne => update_of_ne hne _ _

theorem Next.fresh (h : Next effect b b') (hb : b.Fresh) : b'.Fresh := by
  cases h with
  | other => exact hb
  | propose proposal expiry autoClose task required hname hvote =>
    exact (hb.opened _ expiry autoClose).approved (.of_opened expiry autoClose hname hvote) required
  | approve task required h => exact hb.approved h required
  | reject closes h =>
    exact hb.of_eq (h.lt hb) rfl (fun _ hne => update_of_ne hne _ _)
      fun _ hne => update_of_ne hne _ _
  | execute multisig proposalId success =>
    intro multisig' proposalId' hle
    refine ⟨(hb multisig' proposalId' hle).1, ?_⟩
    simp only [executed, update_apply]
    split
    · cases success <;> simp [executionStatus]
    · exact (hb multisig' proposalId' hle).2
  | forget => exact hb

/-! ### The tally -/

/-- Who has voted on a proposal. -/
def voters (b : Ballots) (p : AccountId × ℕ) : Set Signatory := {signer | b.votes p signer = true}

/-- Every vote is counted once. -/
def Tally (b : Ballots) : Prop :=
  ∀ p, (b.details p).approvals + (b.details p).rejections = (b.voters p).ncard

theorem Tally.count (hb : b.Tally) (h : b.votes p signer = false) (hvotes : b'.votes = b.vote p signer)
    (hdetails : ∀ p' ≠ p, b'.details p' = b.details p')
    (hcount : (b'.details p).approvals + (b'.details p).rejections =
      (b.details p).approvals + (b.details p).rejections + 1) : b'.Tally := by
  intro p'
  by_cases hp : p' = p
  · subst hp
    have hinsert : b'.voters p' = insert signer (b.voters p') := by
      ext signer'
      simp [voters, hvotes, vote, update_apply]
    have hnew : signer ∉ b.voters p' := by simp [voters, h]
    rw [hcount, hinsert, Set.ncard_insert_of_notMem hnew (finite_signers _), hb p']
  · have hsame : b'.voters p' = b.voters p' := by
      simp only [voters, hvotes, vote, update_of_ne hp]
    rw [hdetails p' hp, hsame, hb p']

theorem Tally.opened (hb : b.Tally) (hfresh : b.Fresh) (multisig : AccountId)
    (expiry : Option Moment) (autoClose : Bool) : (b.opened multisig expiry autoClose).Tally := by
  intro p
  by_cases hp : p = (multisig, b.txDone multisig)
  · subst hp
    have hnone : (b.opened multisig expiry autoClose).voters (multisig, b.txDone multisig) = ∅ := by
      ext signer
      simp [voters, Ballots.opened, (hfresh multisig _ le_rfl).1 signer]
    rw [hnone]
    simp [Ballots.opened, ProposalDetails.new]
  · have h := hb p
    simpa only [Ballots.opened, voters, update_of_ne hp] using h

theorem Tally.approved (hb : b.Tally) (h : b.Open task.name signer) (required : ℕ) :
    (b.approved task signer required).Tally := by
  refine hb.count h.notVoted rfl (fun _ hne => update_of_ne hne _ _) ?_
  simp only [Ballots.approved, update_self]
  omega

/-- **Every vote is counted once**, whatever happens. -/
theorem Next.tally (h : Next effect b b') (hfresh : b.Fresh) (hb : b.Tally) : b'.Tally := by
  cases h with
  | other => exact hb
  | propose proposal expiry autoClose task required hname hvote =>
    exact (hb.opened hfresh _ expiry autoClose).approved
      (.of_opened expiry autoClose hname hvote) required
  | approve task required h => exact hb.approved h required
  | reject closes h =>
    refine hb.count h.notVoted rfl (fun _ hne => update_of_ne hne _ _) ?_
    simp only [rejected, update_self]
    cases closes <;> simp <;> omega
  | execute multisig proposalId success =>
    intro p
    have h := hb p
    by_cases hp : p = (multisig, proposalId)
    · subst hp
      simpa only [executed, voters, update_self] using h
    · simpa only [executed, voters, update_of_ne hp] using h
  | forget => exact hb

end Votes

/-! ## Rejections -/

section Rejections

variable {b b' : Ballots} {signer : Signatory}

theorem approved_status (task : Task) (signer : Signatory) (required : ℕ) (b : Ballots)
    (p : AccountId × ℕ) :
    ((b.approved task signer required).details p).status = (b.details p).status := by
  by_cases hp : p = task.name
  · subst hp
    simp [approved]
  · simp [approved, hp]

/-- No execution comes after the rejection of the same proposal. -/
def NeverAfter (e e' : Event) : Prop :=
  ∀ multisig proposalId success, e = .rejected multisig proposalId →
    e' ≠ .executed multisig proposalId success

/-- What has been rejected is rejected, and has not been run since. -/
structure RejectionsKept (b : Ballots) : Prop where
  status : ∀ multisig proposalId, .rejected multisig proposalId ∈ b.history ↔
    (b.details (multisig, proposalId)).status = .rejected
  there : ∀ multisig proposalId, .rejected multisig proposalId ∈ b.history →
    proposalId < b.txDone multisig
  never : b.history.Pairwise NeverAfter

theorem RejectionsKept.of_append (hb : b.RejectionsKept) (events : List Event)
    (hevents : ∀ event ∈ events, (∀ multisig proposalId, event ≠ .rejected multisig proposalId) ∧
      ∀ multisig proposalId success, event ≠ .executed multisig proposalId success)
    (hhistory : b'.history = b.history ++ events)
    (hdetails : ∀ p, (b'.details p).status = (b.details p).status)
    (htxDone : b'.txDone = b.txDone) : b'.RejectionsKept := by
  have hmem : ∀ multisig proposalId, .rejected multisig proposalId ∈ b'.history ↔
      .rejected multisig proposalId ∈ b.history := by
    intro multisig proposalId
    rw [hhistory, List.mem_append, or_iff_left_iff_imp]
    exact fun h => absurd rfl ((hevents _ h).1 multisig proposalId)
  refine ⟨fun ms id => ?_, fun ms id h => ?_, ?_⟩
  · rw [hmem, hdetails]
    exact hb.status ms id
  · rw [htxDone]
    exact hb.there ms id ((hmem ms id).mp h)
  · rw [hhistory, List.pairwise_append]
    refine ⟨hb.never, List.pairwise_of_forall_mem_list fun e he e' _ ms id success heq => ?_,
      fun e _ e' he' ms id success _ => (hevents e' he').2 ms id success⟩
    exact absurd heq ((hevents e he).1 ms id)

theorem RejectionsKept.opened (hb : b.RejectionsKept) (multisig : AccountId)
    (expiry : Option Moment) (autoClose : Bool) :
    (b.opened multisig expiry autoClose).RejectionsKept := by
  refine ⟨fun ms id => ?_, fun ms id h => ?_, hb.never⟩
  · by_cases hp : (ms, id) = (multisig, b.txDone multisig)
    · obtain ⟨rfl, rfl⟩ := Prod.mk.inj hp
      rw [opened_active]
      refine iff_of_false (fun h => ?_) (by simp)
      exact absurd (hb.there ms _ h) (Nat.lt_irrefl _)
    · simpa only [Ballots.opened, update_of_ne hp] using hb.status ms id
  · exact (hb.there ms id h).trans_le (le_txDone_opened ..)

theorem RejectionsKept.approved (hb : b.RejectionsKept) (required : ℕ) :
    (b.approved task signer required).RejectionsKept :=
  hb.of_append _ (by simp) rfl (approved_status task signer required b) rfl

theorem RejectionsKept.rejected (hb : b.RejectionsKept) (hfresh : b.Fresh)
    (h : b.Open (multisig, proposalId) signer) (closes : Bool) :
    (b.rejected multisig proposalId signer closes).RejectionsKept := by
  cases closes with
  | false =>
    refine hb.of_append [] (by simp) rfl (fun p => ?_) rfl
    by_cases hp : p = (multisig, proposalId)
    · subst hp
      simp [Ballots.rejected]
    · simp [Ballots.rejected, hp]
  | true =>
    refine ⟨fun ms id => ?_, fun ms id hmem => ?_, ?_⟩
    · by_cases hp : (ms, id) = (multisig, proposalId)
      · obtain ⟨rfl, rfl⟩ := Prod.mk.inj hp
        simp [Ballots.rejected]
      · have hne : ¬ (ms = multisig ∧ id = proposalId) := fun heq => hp (Prod.ext heq.1 heq.2)
        simpa [Ballots.rejected, update_of_ne hp, hne] using hb.status ms id
    · rcases List.mem_append.mp hmem with hmem | hmem
      · exact hb.there ms id hmem
      · simp only [if_true, List.mem_singleton, Event.rejected.injEq] at hmem
        obtain ⟨rfl, rfl⟩ := hmem
        exact h.lt hfresh
    · change (b.history ++ [Event.rejected multisig proposalId]).Pairwise NeverAfter
      rw [List.pairwise_append]
      refine ⟨hb.never, List.pairwise_singleton _ _, ?_⟩
      intro e _ e' he' ms id success _ heq
      rw [List.mem_singleton.mp he'] at heq
      cases heq

theorem RejectionsKept.executed (hb : b.RejectionsKept)
    (h : .rejected multisig proposalId ∉ b.history) (success : Bool) :
    (b.executed multisig proposalId success).RejectionsKept := by
  refine ⟨fun ms id => ?_, fun ms id hmem => ?_, ?_⟩
  · by_cases hp : (ms, id) = (multisig, proposalId)
    · obtain ⟨rfl, rfl⟩ := Prod.mk.inj hp
      refine iff_of_false (by simpa [Ballots.executed] using h) ?_
      cases success <;> simp [Ballots.executed, executionStatus]
    · simpa [Ballots.executed, update_of_ne hp] using hb.status ms id
  · exact hb.there ms id (by simpa [Ballots.executed] using hmem)
  · change (b.history ++ [Event.executed multisig proposalId success]).Pairwise NeverAfter
    rw [List.pairwise_append]
    refine ⟨hb.never, List.pairwise_singleton _ _, ?_⟩
    rintro e he e' he' ms id success' rfl heq
    rw [List.mem_singleton.mp he'] at heq
    cases heq
    exact h he

/-- **What is rejected stays rejected**, as long as it is not run. -/
theorem Next.rejectionsKept (h : Next effect b b') (heffect : effect.Called) (hfresh : b.Fresh)
    (hb : b.RejectionsKept) : b'.RejectionsKept := by
  cases h with
  | other _ _ events h =>
    refine hb.of_append events (fun event hevent => ⟨?_, ?_⟩) rfl (fun _ => rfl) rfl
    · rintro ms id rfl
      cases h _ hevent
    · rintro ms id success rfl
      cases h _ hevent
  | propose proposal expiry autoClose task required hname hvote =>
    exact (hb.opened _ expiry autoClose).approved required
  | approve task required h => exact hb.approved required
  | reject closes h => exact hb.rejected hfresh h closes
  | execute | forget => exact heffect.elim

end Rejections

/-! ## Executions -/

/-- The proposals that have been run, in order. -/
def executions : List Event → List (AccountId × ℕ) :=
  List.filterMap fun
    | .executed multisig proposalId _ => some (multisig, proposalId)
    | _ => none

@[simp] theorem executions_append (l l' : List Event) :
    executions (l ++ l') = executions l ++ executions l' := List.filterMap_append

@[simp] theorem executions_approved (multisig : AccountId) (proposalId : ℕ) (signer : Signatory)
    (approvals required : ℕ) :
    executions [.approved multisig proposalId signer approvals required] = [] := rfl

@[simp] theorem executions_executed (multisig : AccountId) (proposalId : ℕ) (success : Bool) :
    executions [.executed multisig proposalId success] = [(multisig, proposalId)] := rfl

/-- A proposal was approved by as many signers as were required at that moment. -/
def ApprovedIn (history : List Event) (p : AccountId × ℕ) : Prop :=
  ∃ signer approvals required,
    .approved p.1 p.2 signer approvals required ∈ history ∧ required ≤ approvals

theorem ApprovedIn.append (h : ApprovedIn history p) (events : List Event) :
    ApprovedIn (history ++ events) p := by
  obtain ⟨signer, approvals, required, hmem, hle⟩ := h
  exact ⟨signer, approvals, required, List.mem_append_left events hmem, hle⟩

/-- What has been run at any time was approved before. -/
def Earned (history : List Event) : Prop :=
  ∀ past, past <+: history → ∀ p ∈ executions past, ApprovedIn past p

theorem Earned.append (h : Earned history) (hevents : executions events = []) :
    Earned (history ++ events) := by
  intro past hpast p hp
  rcases List.prefix_or_prefix_of_prefix hpast (List.prefix_append history events) with hle | hle
  · exact h past hle p hp
  · obtain ⟨l, rfl⟩ := hle
    have hl : executions l = [] := by
      obtain ⟨l', rfl⟩ := (List.prefix_append_right_inj history).mp hpast
      rw [executions_append, List.append_eq_nil_iff] at hevents
      exact hevents.1
    rw [executions_append, hl, List.append_nil] at hp
    exact (h history (List.prefix_refl history) p hp).append l

theorem Earned.executed (h : Earned history) (happroved : ApprovedIn history (multisig, proposalId))
    (success : Bool) :
    Earned (history ++ [.executed multisig proposalId success]) := by
  intro past hpast p hp
  rcases List.prefix_concat_iff.mp hpast with rfl | hle
  · rw [executions_append, executions_executed, List.mem_append, List.mem_singleton] at hp
    rcases hp with hp | rfl
    · exact (h history (List.prefix_refl history) p hp).append _
    · exact happroved.append _
  · exact h past hle p hp

section Orderly

variable {b b' : Ballots} {signer : Signatory}

/-- Every task is for a proposal that was approved and has not been run, and no proposal has been
run twice, or without having been approved. -/
structure Orderly (b : Ballots) : Prop where
  named : (b.agenda.map Task.name).Nodup
  planned : ∀ task ∈ b.agenda, task.proposalId < b.txDone task.multisig ∧
    task.name ∉ executions b.history ∧ ApprovedIn b.history task.name
  done : ∀ p ∈ executions b.history,
    p.2 < b.txDone p.1 ∧ (b.details p).status ≠ .activeOrExpired
  once : (executions b.history).Nodup
  earned : Earned b.history

theorem Open.notMem_executions (h : b.Open p signer) (hb : b.Orderly) :
    p ∉ executions b.history := fun hp => (hb.done p hp).2 h.active

/-- Events that are no executions, and details of proposals that have not been run, are no
matter. -/
theorem Orderly.of_append (hb : b.Orderly) (events : List Event)
    (hevents : executions events = []) (hhistory : b'.history = b.history ++ events)
    (hagenda : b'.agenda = b.agenda) (htxDone : ∀ multisig, b.txDone multisig ≤ b'.txDone multisig)
    (hdetails : ∀ p ∈ executions b.history, (b'.details p).status = (b.details p).status) :
    b'.Orderly := by
  have hsame : executions b'.history = executions b.history := by
    rw [hhistory, executions_append, hevents, List.append_nil]
  refine ⟨hagenda ▸ hb.named, fun task htask => ?_, fun p hp => ?_, hsame ▸ hb.once, ?_⟩
  · rw [hagenda] at htask
    obtain ⟨hlt, hnew, happroved⟩ := hb.planned task htask
    rw [hsame, hhistory]
    exact ⟨hlt.trans_le (htxDone _), hnew, happroved.append events⟩
  · rw [hsame] at hp
    rw [hdetails p hp]
    exact ⟨(hb.done p hp).1.trans_le (htxDone _), (hb.done p hp).2⟩
  · rw [hhistory]
    exact hb.earned.append hevents

theorem Orderly.opened (hb : b.Orderly) (multisig : AccountId) (expiry : Option Moment)
    (autoClose : Bool) : (b.opened multisig expiry autoClose).Orderly := by
  refine hb.of_append [] rfl (List.append_nil _).symm rfl (fun _ => le_txDone_opened ..)
    fun p hp => ?_
  have hne : p ≠ (multisig, b.txDone multisig) := by
    rintro rfl
    exact absurd (hb.done _ hp).1 (Nat.lt_irrefl _)
  simp only [Ballots.opened, update_of_ne hne]

theorem nodup_plan (h : (b.agenda.map Task.name).Nodup) :
    ((b.plan task).map Task.name).Nodup := by
  unfold plan
  split
  · exact h
  case isFalse hany =>
    rw [List.map_append, List.map_singleton, List.nodup_append]
    refine ⟨h, List.nodup_singleton _, ?_⟩
    rintro name hname name' hname' rfl
    rw [List.mem_singleton] at hname'
    subst hname'
    obtain ⟨other, hother, heq⟩ := List.mem_map.mp hname
    refine hany (List.any_eq_true.mpr ⟨other, hother, ?_⟩)
    simpa [Task.name] using heq

theorem mem_plan {other : Task} (h : other ∈ b.plan task) :
    other ∈ b.agenda ∨ other = task := by
  unfold plan at h
  split at h
  · exact .inl h
  · simpa using h

theorem Orderly.plan (hb : b.Orderly) (hlt : task.proposalId < b.txDone task.multisig)
    (hnew : task.name ∉ executions b.history) (happroved : ApprovedIn b.history task.name) :
    Orderly { b with agenda := b.plan task } := by
  refine ⟨nodup_plan hb.named, fun other hother => ?_, hb.done, hb.once, hb.earned⟩
  rcases mem_plan hother with hmem | rfl
  · exact hb.planned other hmem
  · exact ⟨hlt, hnew, happroved⟩

theorem Orderly.approved (hb : b.Orderly) (hfresh : b.Fresh) (h : b.Open task.name signer)
    (required : ℕ) :
    (b.approved task signer required).Orderly := by
  have hcounted : Orderly { (b.approved task signer required) with agenda := b.agenda } :=
    hb.of_append _ (executions_approved _ _ _ _ _) rfl rfl (fun _ => le_rfl)
      fun p _ => approved_status task signer required b p
  by_cases hle : required ≤ (b.details task.name).approvals + 1
  · simp only [Ballots.approved, if_pos hle]
    refine hcounted.plan (h.lt hfresh) ?_ ⟨signer, _, required, ?_, hle⟩
    · simpa [Ballots.approved] using h.notMem_executions hb
    · simp [Ballots.approved, Task.name]
  · simp only [Ballots.approved, if_neg hle]
    exact hcounted

theorem Orderly.rejected (hb : b.Orderly) (h : b.Open (multisig, proposalId) signer)
    (closes : Bool) :
    (b.rejected multisig proposalId signer closes).Orderly := by
  refine hb.of_append _ (by cases closes <;> rfl) rfl rfl (fun _ => le_rfl) fun p hp => ?_
  have hne : p ≠ (multisig, proposalId) := by
    rintro rfl
    exact h.notMem_executions hb hp
  simp only [Ballots.rejected, update_of_ne hne]

theorem executions_of_other (h : ∀ event ∈ events, event.onProposal = false) :
    executions events = [] := by
  rw [executions, List.filterMap_eq_nil_iff]
  intro event hevent
  have := h event hevent
  cases event <;> first | rfl | cases this

theorem Next.orderly (h : Next effect b b') (heffect : effect.Called) (hfresh : b.Fresh)
    (hb : b.Orderly) : b'.Orderly := by
  cases h with
  | other _ _ events h =>
    exact hb.of_append events (executions_of_other h) rfl rfl (fun _ => le_rfl) fun _ _ => rfl
  | propose proposal expiry autoClose task required hname hvote =>
    exact (hb.opened _ expiry autoClose).approved (hfresh.opened _ expiry autoClose)
      (.of_opened expiry autoClose hname hvote) required
  | approve task required h => exact hb.approved hfresh h required
  | reject closes h => exact hb.rejected h closes
  | execute | forget => exact heffect.elim

theorem Next.executions_eq (h : Next effect b b') (heffect : effect.Called) :
    executions b'.history = executions b.history := by
  cases h with
  | other _ _ events h => rw [executions_append, executions_of_other h, List.append_nil]
  | propose | approve => simp [approved, opened]
  | reject closes => cases closes <;> simp [rejected, executions]
  | execute | forget => exact heffect.elim

theorem Next.history_prefix (h : Next effect b b') : b.history <+: b'.history := by
  cases h <;> first | exact List.prefix_append _ _ | exact List.prefix_refl _

/-- A proposal is there, and no task is planned for it. -/
structure Unplanned (b : Ballots) (p : AccountId × ℕ) : Prop where
  unplanned : p ∉ b.agenda.map Task.name
  lt : p.2 < b.txDone p.1

theorem Unplanned.approved (h : b.Unplanned p) (hne : task.name ≠ p) (required : ℕ) :
    (b.approved task signer required).Unplanned p := by
  refine ⟨fun hmem => ?_, h.lt⟩
  obtain ⟨other, hother, rfl⟩ := List.mem_map.mp hmem
  have hother' : other ∈ b.agenda ∨ other = task := by
    simp only [Ballots.approved] at hother
    split at hother
    · exact mem_plan hother
    · exact .inl hother
  rcases hother' with hother' | rfl
  · exact h.unplanned (List.mem_map_of_mem hother')
  · exact hne rfl

theorem Unplanned.ne_new (h : b.Unplanned p) : p ≠ (multisig, b.txDone multisig) := by
  rintro rfl
  exact absurd h.lt (Nat.lt_irrefl _)

theorem Unplanned.proposed (h : b.Unplanned p) (hname : task.name = (multisig, b.txDone multisig))
    (expiry : Option Moment) (autoClose : Bool) (required : ℕ) :
    ((b.opened multisig expiry autoClose).approved task signer required).Unplanned p := by
  have hopened : (b.opened multisig expiry autoClose).Unplanned p :=
    ⟨h.unplanned, h.lt.trans_le (le_txDone_opened ..)⟩
  exact hopened.approved (fun heq => h.ne_new (heq.symm.trans hname)) required

theorem Unplanned.forget (h : b.Unplanned p) (task : Task) :
    Unplanned { b with agenda := b.agenda.erase task } p :=
  ⟨fun hmem => h.unplanned ((List.erase_sublist.map Task.name).subset hmem), h.lt⟩

/-- A proposal that is closed is not planned to be run. -/
structure Settled (b : Ballots) (p : AccountId × ℕ) : Prop extends b.Unplanned p where
  closed : (b.details p).status ≠ .activeOrExpired

theorem Next.settled (h : Next effect b b') (hb : b.Settled p) : b'.Settled p := by
  cases h with
  | other => exact ⟨⟨hb.unplanned, hb.lt⟩, hb.closed⟩
  | propose proposal expiry autoClose task required hname hvote =>
    refine ⟨hb.proposed hname expiry autoClose required, ?_⟩
    rw [approved_status]
    simpa only [opened, update_of_ne hb.ne_new] using hb.closed
  | approve task required h =>
    refine ⟨hb.toUnplanned.approved ?_ required, ?_⟩
    · rintro rfl
      exact hb.closed h.active
    · rw [approved_status]
      exact hb.closed
  | @reject multisig proposalId signer closes b h =>
    have hne : p ≠ (multisig, proposalId) := by
      rintro rfl
      exact hb.closed h.active
    refine ⟨⟨hb.unplanned, hb.lt⟩, ?_⟩
    simpa only [rejected, update_of_ne hne] using hb.closed
  | execute multisig proposalId success =>
    refine ⟨⟨hb.unplanned, hb.lt⟩, ?_⟩
    simp only [executed, update_apply]
    split
    · cases success <;> simp [executionStatus]
    · exact hb.closed
  | forget task => exact ⟨hb.toUnplanned.forget task, hb.closed⟩

/-- A proposal that was approved has not been run, and is not planned to be: it is just about to
run. -/
structure Ready (b : Ballots) (p : AccountId × ℕ) : Prop extends b.Unplanned p where
  new : p ∉ executions b.history
  approved : ApprovedIn b.history p

theorem Orderly.ready (hb : b.Orderly) (h : task ∈ b.agenda) :
    Ready { b with agenda := b.agenda.erase task } task.name := by
  obtain ⟨hlt, hnew, happroved⟩ := hb.planned task h
  refine ⟨⟨?_, hlt⟩, hnew, happroved⟩
  have hnodup := ((List.perm_cons_erase h).map Task.name).nodup_iff.mp hb.named
  rw [List.map_cons, List.nodup_cons] at hnodup
  exact hnodup.1

theorem Orderly.forget (hb : b.Orderly) (task : Task) :
    Orderly { b with agenda := b.agenda.erase task } :=
  ⟨hb.named.sublist (List.erase_sublist.map Task.name),
    fun other hother => hb.planned other (List.mem_of_mem_erase hother), hb.done, hb.once, hb.earned⟩

theorem Next.ready (h : Next effect b b') (heffect : effect.Called) (hb : b.Ready p) :
    b'.Ready p ∨ b.history.countP (Event.approves p) < b'.history.countP (Event.approves p) := by
  obtain ⟨events, hevents⟩ := h.history_prefix
  have hready (hunplanned : b'.Unplanned p) : b'.Ready p := by
    refine ⟨hunplanned, ?_, hevents ▸ hb.approved.append events⟩
    rw [h.executions_eq heffect]
    exact hb.new
  cases h with
  | other | reject => exact .inl (hready ⟨hb.unplanned, hb.lt⟩)
  | propose proposal expiry autoClose task required hname hvote =>
    exact .inl (hready (hb.proposed hname expiry autoClose required))
  | approve task required h =>
    by_cases hne : task.name = p
    · subst hne
      right
      simp [Ballots.approved, Event.approves, Task.name]
    · exact .inl (hready (hb.toUnplanned.approved hne required))
  | execute | forget => exact heffect.elim

theorem Orderly.executed (hb : b.Orderly) (h : b.Ready (multisig, proposalId)) (success : Bool) :
    (b.executed multisig proposalId success).Orderly := by
  have hexecutions : executions (b.executed multisig proposalId success).history =
      executions b.history ++ [(multisig, proposalId)] := executions_append _ _
  refine ⟨hb.named, fun task htask => ?_, fun p hp => ?_, ?_, hb.earned.executed h.approved success⟩
  · obtain ⟨hlt, hnew, happroved⟩ := hb.planned task htask
    refine ⟨hlt, ?_, happroved.append _⟩
    rw [hexecutions, List.mem_append, List.mem_singleton, not_or]
    refine ⟨hnew, fun heq => h.unplanned ?_⟩
    exact heq ▸ List.mem_map_of_mem htask
  · rw [hexecutions, List.mem_append, List.mem_singleton] at hp
    by_cases hne : p = (multisig, proposalId)
    · subst hne
      refine ⟨h.lt, ?_⟩
      cases success <;> simp [Ballots.executed, executionStatus]
    · have hdone := hb.done p (hp.resolve_right hne)
      simpa only [Ballots.executed, update_of_ne hne] using hdone
  · rw [hexecutions, List.nodup_append]
    refine ⟨hb.once, List.nodup_singleton _, ?_⟩
    rintro p hp p' hp' rfl
    rw [List.mem_singleton] at hp'
    exact h.new (hp' ▸ hp)

end Orderly

end Ballots

/-! ## Steps -/

/-- The root executes no proposal. -/
def Action.ExecutesNone : Action → Prop
  | .root _ call => call.Runs fun call => ¬ call.Executes
  | _ => True

theorem fresh_emptyStorage : emptyStorage.ballots.Fresh :=
  fun _ _ _ => ⟨fun _ => rfl, nofun⟩

/-- **An invariant of the ballots**: all calls keep it, and it is kept when a proposal is run for
which `J` holds. -/
structure BallotInvariant (I : Ballots → Prop) (J : AccountId × ℕ → Ballots → Prop) : Prop where
  empty : I emptyStorage.ballots
  called effect b b' : effect.Called → Ballots.Next effect b b' → b.Fresh → I b → I b'
  forgotten b task : I b → I { b with agenda := b.agenda.erase task }
  executed b multisig proposalId success : I b → J (multisig, proposalId) b →
    I (b.executed multisig proposalId success)

namespace BallotInvariant

variable {I : Ballots → Prop} {J : AccountId × ℕ → Ballots → Prop}

theorem effects (hI : BallotInvariant I J) (h : Effects hashes Effect.Called s s')
    (hs : s.ballots.Fresh ∧ I s.ballots) : s'.ballots.Fresh ∧ I s'.ballots :=
  h.invariant (fun s => s.ballots.Fresh ∧ I s.ballots) (fun effect _ _ heffect he hs =>
    ⟨he.ballots.fresh hs.1, hI.called effect _ _ heffect he.ballots hs.1 hs.2⟩) hs

theorem genesis (hI : BallotInvariant I J) (identities : List GenesisIdentity) :
    (Accounts.genesis identities).ballots.Fresh ∧ I (Accounts.genesis identities).ballots := by
  have hgenesis : Effects .numbers Effect.Called emptyStorage (Accounts.genesis identities) :=
    genesis_effects (fun _ h => h.called) identities
  exact hI.effects hgenesis ⟨fresh_emptyStorage, hI.empty⟩

/-- **A step keeps the invariant** if `J` holds of the proposal whose task it runs, when the call of
the proposal has been run. -/
theorem step (hI : BallotInvariant I J) (s : Storage) (a : Action)
    (hs : s.ballots.Fresh ∧ I s.ballots) (ha : a.ExecutesNone)
    (hrun : ∀ envs, ∀ task ∈ s.agenda, a = .task envs task.multisig task.proposalId →
      ∀ s₁, Effects hashes Effect.Called (forget task s) s₁ →
        s₁.history <+: (step hashes a s).history → J task.name s₁.ballots) :
    (step hashes a s).ballots.Fresh ∧ I (step hashes a s).ballots := by
  have hfree : ∀ effect : Effect, effect.Free → effect.Called := fun _ h => h.called
  cases a with
  | extrinsic envs who call fee actualFee =>
    refine hI.effects (extrinsic_effects hfree envs who ?_ fee actualFee s) hs
    exact Call.runs_of_forall (fun _ _ h => h.called) call
  | root envs call =>
    refine hI.effects (root_effects hfree envs ?_ s) hs
    exact Call.Runs.imp (fun call h => ⟨h, fun _ h => h.called⟩) call ha
  | task envs multisig proposalId =>
    have htask : Accounts.step hashes (.task envs multisig proposalId) s = s ∨ _ :=
      task_effects hfree envs multisig proposalId s fun proposal _ =>
        Call.runs_of_forall (fun _ _ h => h.called) proposal
    rcases htask with hsame | ⟨task, hmem, rfl, rfl, s₁, heffects, h⟩
    · rwa [hsame]
    · have hs₁ := hI.effects heffects ⟨hs.1, hI.forgotten _ task hs.2⟩
      rcases h with h | ⟨success, h⟩
      · rwa [h]
      · have hJ : J task.name s₁.ballots :=
          hrun envs task hmem rfl s₁ heffects (h ▸ List.prefix_append _ _)
        rw [h]
        exact ⟨(Ballots.Next.execute _ _ success _).fresh hs₁.1, hI.executed _ _ _ success hs₁.2 hJ⟩
  | nextBlock | timestamp elapsed =>
    refine hI.effects (?_ : Effects hashes Effect.Called s _) hs
    exact .aside hfree (by constructor <;> rfl)

end BallotInvariant

theorem history_prefix_step (hashes : Hashes) (a : Action) (s : Storage) :
    s.history <+: (step hashes a s).history :=
  (step_anyEffects a s).invariant (fun s' => s.history <+: s'.history)
    (fun _ _ _ _ he hs => hs.trans he.ballots.history_prefix) (List.prefix_refl _)

theorem history_prefix_run (hashes : Hashes) (s : Storage) (actions : List Action) :
    s.history <+: (run (step hashes) s actions).history :=
  run_invariant (fun s' => s.history <+: s'.history)
    (fun s' a hs' _ => hs'.trans (history_prefix_step hashes a s')) (List.prefix_refl _)
    (along_true s actions)

/-! ### Rejected proposals -/

/-- Steps that reject no proposal whose task is in the agenda, before the step or after it. -/
def RejectsUnscheduled (hashes : Hashes) (s : Storage) (a : Action) : Prop :=
  a.ExecutesNone ∧ ∀ task ∈ s.agenda ++ (step hashes a s).agenda,
    .rejected task.multisig task.proposalId ∈ (step hashes a s).history →
      .rejected task.multisig task.proposalId ∈ s.history

/-- No proposal whose task is in the agenda has been rejected. -/
def Ballots.Unrejected (b : Ballots) : Prop :=
  ∀ task ∈ b.agenda, .rejected task.multisig task.proposalId ∉ b.history

theorem rejectionsKept_invariant : BallotInvariant Ballots.RejectionsKept
    fun p b => .rejected p.1 p.2 ∉ b.history where
  empty := ⟨fun _ _ => iff_of_false List.not_mem_nil nofun, nofun, .nil⟩
  called _ _ _ heffect h hfresh := h.rejectionsKept heffect hfresh
  forgotten b task hb := hb.of_append [] (by simp) (List.append_nil _).symm (fun _ => rfl) rfl
  executed _ _ _ success hs hnot := hs.executed hnot success

/-- A proposal that was rejected before the step stays settled, and so it has no task afterwards. -/
theorem RejectsUnscheduled.unrejected {a : Action} (ha : RejectsUnscheduled hashes s a)
    (hkept : s.ballots.RejectionsKept) (hs : s.ballots.Unrejected) :
    (step hashes a s).ballots.Unrejected := by
  intro task htask hrejected
  have hbefore := ha.2 task (List.mem_append_right _ htask) hrejected
  have hsettled : s.ballots.Settled task.name := by
    refine ⟨⟨fun hmem => ?_, hkept.there _ _ hbefore⟩, ?_⟩
    · obtain ⟨other, hother, hname⟩ := List.mem_map.mp hmem
      obtain ⟨hmultisig, hproposal⟩ := Prod.mk.inj hname
      exact hs other hother (by rwa [hmultisig, hproposal])
    · rw [show (s.ballots.details task.name).status = _ from (hkept.status _ _).mp hbefore]
      nofun
  have heffects : Effects hashes (fun _ => True) s (step hashes a s) := step_anyEffects a s
  have hafter := heffects.invariant (fun s => s.ballots.Settled task.name)
    (fun _ _ _ _ he hs => he.ballots.settled hs) hsettled
  exact hafter.unplanned (List.mem_map_of_mem htask)

theorem genesis_agenda (identities : List GenesisIdentity) : (genesis identities).agenda = [] := by
  have hgenesis : Effects .numbers Effect.Free emptyStorage (genesis identities) :=
    genesis_effects (fun _ h => h) identities
  refine hgenesis.invariant (fun s => s.ballots.agenda = []) (fun effect s s' heffect he hs => ?_) rfl
  have h := he.ballots
  generalize s'.ballots = b' at h ⊢
  cases h with
  | other => exact hs
  | _ => exact heffect.elim

theorem rejectionsKept_of_reachableBy
    (h : ReachableBy (step hashes) (RejectsUnscheduled hashes) (genesis identities) s) :
    s.ballots.RejectionsKept := by
  refine (h.invariant (fun s => (s.ballots.Fresh ∧ s.ballots.RejectionsKept) ∧ s.ballots.Unrejected)
    ⟨rejectionsKept_invariant.genesis identities, ?_⟩ (fun s a hs ha => ?_)).1.2
  · intro task htask
    rw [show (genesis identities).ballots.agenda = [] from genesis_agenda identities] at htask
    cases htask
  · refine ⟨rejectionsKept_invariant.step s a hs.1 ha.1 ?_, ha.unrejected hs.1.2 hs.2⟩
    rintro envs task hmem rfl s₁ - hpast hrejected
    -- the task was in the agenda before the step, and so the rejection is older than the step
    exact hs.2 task hmem (ha.2 task (List.mem_append_left _ hmem) (hpast.subset hrejected))

/-- **What is rejected stays rejected** in every run that rejects no proposal whose task is in the
agenda: no proposal is run after it was rejected, those that were rejected are so, and they stay
so. -/
theorem rejected_stays_rejected {hashes : Hashes} {identities : List GenesisIdentity} {s : Storage}
    (h : ReachableBy (step hashes) (RejectsUnscheduled hashes) (genesis identities) s)
    (multisig : AccountId) (proposalId : ℕ) :
    (∀ past rest, s.history = past ++ .rejected multisig proposalId :: rest →
      ∀ success, .executed multisig proposalId success ∉ rest) ∧
    (.rejected multisig proposalId ∈ s.history ↔
      (s.multisig.proposalDetail (multisig, proposalId)).status = .rejected) ∧
    ∀ actions, Along (step hashes) (RejectsUnscheduled hashes) s actions →
      (s.multisig.proposalDetail (multisig, proposalId)).status = .rejected →
      ((run (step hashes) s actions).multisig.proposalDetail (multisig, proposalId)).status =
        .rejected := by
  have hkept := rejectionsKept_of_reachableBy h
  refine ⟨fun past rest hhistory success hmem => ?_, hkept.status multisig proposalId,
    fun actions hactions hrejected => ?_⟩
  · have hnever := hkept.never
    rw [show s.ballots.history = past ++ .rejected multisig proposalId :: rest from hhistory,
      List.pairwise_append, List.pairwise_cons] at hnever
    exact hnever.2.1.1 _ hmem multisig proposalId success rfl rfl
  · obtain ⟨as, has, rfl⟩ := h
    have hlater : ReachableBy (step hashes) (RejectsUnscheduled hashes) (genesis identities)
        (run (step hashes) (run (step hashes) (genesis identities) as) actions) :=
      ⟨as ++ actions, (along_append _).mpr ⟨has, hactions⟩, run_append _ _ _ _⟩
    -- the rejection is in the history, which only grows
    have hmem := (history_prefix_run hashes _ actions).subset
      ((hkept.status multisig proposalId).mpr hrejected)
    exact ((rejectionsKept_of_reachableBy hlater).status multisig proposalId).mp hmem

/-- Two of three signatures are required, and so two signers can reject what another proposes. -/
def rejectsOne : List Action :=
  [.calls 1 (.changeSigsRequiredViaCreator ⟨2⟩ 2),
    .calls 10 (.createProposalAsKey ⟨2⟩ (.batch .atomic []) none true),
    .calls 11 (.rejectAsKey ⟨2⟩ 0), .calls 12 (.rejectAsKey ⟨2⟩ 0)]

def rejectedOne : Storage := run (step .numbers) withThreeSigners rejectsOne

/-- Two of them then approve the next proposal. -/
def approvesNext : List Action :=
  [.calls 10 (.createProposalAsKey ⟨2⟩ (.batch .atomic []) none true),
    .calls 11 (.approveAsKey ⟨2⟩ 1), .nextBlock]

def approvedNext : Storage := run (step .numbers) rejectedOne approvesNext

/-- The task of that proposal. -/
def runsNext : Action := .task (fun _ => .consenting) ⟨2⟩ 1

theorem rejected_stays_rejected_next :
    (rejectedOne.multisig.proposalDetail (⟨2⟩, 0)).status = .rejected ∧
      ((run (step .numbers) rejectedOne (approvesNext ++ [runsNext])).multisig.proposalDetail
        (⟨2⟩, 0)).status = .rejected := by
  have hrejected : (rejectedOne.multisig.proposalDetail (⟨2⟩, 0)).status = .rejected := by
    decide +kernel
  have hreachable : ReachableBy (step .numbers) (RejectsUnscheduled .numbers)
      (genesis [⟨⟨1⟩, ⟨1⟩, []⟩]) rejectedOne := by
    refine ⟨threeSigners ++ rejectsOne, ?_, run_append _ _ _ _⟩
    refine ⟨⟨trivial, ?_⟩, ⟨trivial, ?_⟩, ⟨trivial, ?_⟩, ⟨trivial, ?_⟩, ⟨trivial, ?_⟩, ⟨trivial, ?_⟩,
      ⟨trivial, ?_⟩, ⟨trivial, ?_⟩, trivial⟩ <;> decide +kernel
  refine ⟨hrejected, (rejected_stays_rejected hreachable ⟨2⟩ 0).2.2 _ ?_ hrejected⟩
  refine ⟨⟨trivial, ?_⟩, ⟨trivial, ?_⟩, ⟨trivial, ?_⟩, ⟨trivial, ?_⟩, trivial⟩ <;> decide +kernel

/-- A signer proposes a call, which is enough to schedule it. The creator then requires all three
signatures, and so another signer can reject the proposal before its task is due. -/
def rejectsScheduled : List Action :=
  [.calls 10 (.createProposalAsKey ⟨2⟩ (.batch .atomic []) none true),
    .calls 1 (.changeSigsRequiredViaCreator ⟨2⟩ 3), .calls 11 (.rejectAsKey ⟨2⟩ 0)]

def rejectedScheduled : Storage := run (step .numbers) withThreeSigners rejectsScheduled

/-- The task of the proposal. -/
def runsScheduled : List Action := [.nextBlock, .task (fun _ => .consenting) ⟨2⟩ 0]

/-- **A rejected proposal is executed.** -/
theorem rejected_executed :
    Reachable (step .numbers) (genesis [⟨⟨1⟩, ⟨1⟩, []⟩]) rejectedScheduled ∧
      (rejectedScheduled.multisig.proposalDetail (⟨2⟩, 0)).status = .rejected ∧
      ((run (step .numbers) rejectedScheduled runsScheduled).multisig.proposalDetail (⟨2⟩, 0)).status =
        .executionSuccessful ∧
      .executed ⟨2⟩ 0 true ∈ (run (step .numbers) rejectedScheduled runsScheduled).history := by
  refine ⟨⟨threeSigners ++ rejectsScheduled, ?_⟩, by decide +kernel, by decide +kernel,
    by decide +kernel⟩
  rw [run_append]
  rfl

/-! ### Votes and executions -/

theorem tally_of_reachable (h : Reachable (step hashes) (genesis identities) s) :
    s.ballots.Tally := by
  have hempty : emptyStorage.ballots.Tally := by
    intro p
    simp [Ballots.voters, Storage.ballots, emptyStorage, ProposalDetails.default]
  refine (Reachable.of_effects (fun s => s.ballots.Fresh ∧ s.ballots.Tally)
    ⟨fresh_emptyStorage, hempty⟩ (fun effect s s' he hs => ?_) h).2
  exact ⟨he.ballots.fresh hs.1, he.ballots.tally hs.1 hs.2⟩

/-- Steps in which the root executes no proposal, and that approve no proposal whose task they
run. -/
def RunsOnce (hashes : Hashes) (s : Storage) (a : Action) : Prop :=
  a.ExecutesNone ∧ ∀ envs multisig proposalId, a = .task envs multisig proposalId →
    (step hashes a s).history.countP (Event.approves (multisig, proposalId)) =
      s.history.countP (Event.approves (multisig, proposalId))

theorem orderly_invariant : BallotInvariant Ballots.Orderly fun p b => b.Ready p where
  empty := by
    refine ⟨List.nodup_nil, nofun, nofun, List.nodup_nil, fun past hpast p hp => ?_⟩
    rw [List.prefix_nil.mp hpast] at hp
    cases hp
  called _ _ _ heffect h hfresh := h.orderly heffect hfresh
  forgotten _ task hs := hs.forget task
  executed _ _ _ success hs hready := hs.executed hready success

/-- A proposal that is ready when its task is forgotten is so after what calls do, unless they
approve it. -/
theorem ready_of_effects (h : Effects hashes Effect.Called s s') (hs : s.ballots.Ready p) :
    s'.ballots.Ready p ∨ s.history.countP (Event.approves p) < s'.history.countP (Event.approves p) := by
  have hcount {l l' : List Event} (h : l <+: l') :
      l.countP (Event.approves p) ≤ l'.countP (Event.approves p) := h.sublist.countP_le
  refine (h.invariant (fun s' => s.history <+: s'.history ∧ (s'.ballots.Ready p ∨
    s.history.countP (Event.approves p) < s'.history.countP (Event.approves p)))
    ?_ ⟨List.prefix_refl _, .inl hs⟩).2
  rintro effect s₁ s₂ heffect he ⟨hpast, h⟩
  refine ⟨hpast.trans he.ballots.history_prefix, ?_⟩
  rcases h with hready | hlt
  · exact (he.ballots.ready heffect hready).imp_right (hcount hpast).trans_lt
  · exact .inr (hlt.trans_le (hcount he.ballots.history_prefix))

theorem orderly_of_reachableBy
    (h : ReachableBy (step hashes) (RunsOnce hashes) (genesis identities) s) :
    s.ballots.Orderly := by
  refine (h.invariant (fun s => s.ballots.Fresh ∧ s.ballots.Orderly)
    (orderly_invariant.genesis identities) (fun s a hs ha => ?_)).2
  refine orderly_invariant.step s a hs ha.1 ?_
  rintro envs task hmem rfl s₁ heffects hpast
  refine (ready_of_effects heffects (hs.2.ready hmem)).resolve_right fun hlt => ?_
  exact absurd (ha.2 envs _ _ rfl) (hlt.trans_le hpast.sublist.countP_le).ne'

/-- **Every vote is counted once**; and in every run that executes no proposal whose own call
approves it again, **a proposal is run once at most**, and after it was approved by as many as were
required. -/
theorem votes_and_executions (hashes : Hashes) (identities : List GenesisIdentity) :
    (∀ s, Reachable (step hashes) (genesis identities) s → ∀ multisig proposalId,
      (s.multisig.proposalDetail (multisig, proposalId)).approvals +
        (s.multisig.proposalDetail (multisig, proposalId)).rejections =
      {signer | s.multisig.votes (multisig, proposalId) signer = true}.ncard) ∧
    ∀ s, ReachableBy (step hashes) (RunsOnce hashes) (genesis identities) s →
      ∀ multisig proposalId success past rest,
        s.history = past ++ .executed multisig proposalId success :: rest →
        (∀ success', .executed multisig proposalId success' ∉ past ++ rest) ∧
        ∃ signer approvals required,
          .approved multisig proposalId signer approvals required ∈ past ∧ required ≤ approvals := by
  refine ⟨fun s h multisig proposalId => tally_of_reachable h (multisig, proposalId), ?_⟩
  intro s h multisig proposalId success past rest hhistory
  have horderly := orderly_of_reachableBy h
  have hsplit : s.ballots.history = past ++ [.executed multisig proposalId success] ++ rest := by
    rw [List.append_assoc]
    exact hhistory
  constructor
  · have honce := horderly.once
    rw [hsplit, Ballots.executions_append, Ballots.executions_append, Ballots.executions_executed,
      List.append_assoc, List.singleton_append, List.nodup_middle, List.nodup_cons,
      ← Ballots.executions_append] at honce
    intro success' hmem
    exact honce.1 (List.mem_filterMap.mpr ⟨_, hmem, rfl⟩)
  · have hpast : past ++ [.executed multisig proposalId success] <+: s.ballots.history := by
      rw [hsplit]
      exact List.prefix_append _ _
    obtain ⟨signer, approvals, required, hmem, hle⟩ :=
      horderly.earned _ hpast (multisig, proposalId) (by simp)
    refine ⟨signer, approvals, required, ?_, hle⟩
    simpa using hmem

/-- The proposal that two of three signers approve is run once. -/
theorem votes_and_executions_next :
    {signer | approvedNext.multisig.votes (⟨2⟩, 1) signer = true}.ncard = 2 ∧
      ∃ past, (step .numbers runsNext approvedNext).history = past ++ [.executed ⟨2⟩ 1 true] ∧
        ∀ success, .executed ⟨2⟩ 1 success ∉ past := by
  have hsound := votes_and_executions .numbers [⟨⟨1⟩, ⟨1⟩, []⟩]
  have hnext : run (step .numbers) (genesis [⟨⟨1⟩, ⟨1⟩, []⟩])
      (threeSigners ++ rejectsOne ++ approvesNext) = approvedNext := by
    rw [run_append, run_append]
    rfl
  constructor
  · rw [← hsound.1 approvedNext ⟨_, hnext⟩]
    decide +kernel
  · have hruns : RunsOnce .numbers approvedNext runsNext := by
      refine ⟨trivial, ?_⟩
      rintro envs multisig proposalId ⟨⟩
      decide +kernel
    have hreachable : ReachableBy (step .numbers) (RunsOnce .numbers) (genesis [⟨⟨1⟩, ⟨1⟩, []⟩])
        (step .numbers runsNext approvedNext) := by
      refine ⟨threeSigners ++ rejectsOne ++ approvesNext ++ [runsNext], ?_, ?_⟩
      · rw [along_append, hnext]
        refine ⟨?_, hruns, trivial⟩
        simp [threeSigners, rejectsOne, approvesNext, Action.calls, RunsOnce, Action.ExecutesNone]
      · rw [run_append, hnext]
        rfl
    have hhistory : (step .numbers runsNext approvedNext).history =
        approvedNext.history ++ [.executed ⟨2⟩ 1 true] := by decide +kernel
    refine ⟨approvedNext.history, hhistory, ?_⟩
    simpa using (hsound.2 _ hreachable ⟨2⟩ 1 true _ [] hhistory).1

/-- A derivative account of the multisig becomes one of its signers: the first proposal accepts its
authorization. -/
def joinsItself : List Action :=
  [.calls 1 (.createMultisig [.account ⟨10⟩, .account ⟨50⟩] 1),
    .calls 10 (.acceptMultisigSignerAsKey 3),
    .calls 10 (.createProposalAsKey ⟨2⟩ (.asDerivative 50 (.acceptMultisigSignerAsKey 4)) none false),
    .nextBlock, .task (fun _ => .consenting) ⟨2⟩ 0]

/-- The second proposal approves itself as that account, and so it is scheduled again. -/
def approvesItself : List Action :=
  [.calls 10 (.createProposalAsKey ⟨2⟩
      (.batch .optimistic [.asDerivative 50 (.approveAsKey ⟨2⟩ 1)]) none false),
    .nextBlock, .task (fun _ => .consenting) ⟨2⟩ 1, .nextBlock,
    .task (fun _ => .consenting) ⟨2⟩ 1]

def executedTwice : Storage :=
  run (step .numbers) (genesis [⟨⟨1⟩, ⟨1⟩, []⟩]) (joinsItself ++ approvesItself)

/-- **A proposal is executed twice.** -/
theorem proposal_executed_twice :
    Reachable (step .numbers) (genesis [⟨⟨1⟩, ⟨1⟩, []⟩]) executedTwice ∧
      executedTwice.history.count (.executed ⟨2⟩ 1 true) = 2 := by
  refine ⟨⟨joinsItself ++ approvesItself, rfl⟩, ?_⟩
  decide +kernel

end Accounts

end Polymesh
