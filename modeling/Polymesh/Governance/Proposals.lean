import Mathlib.Data.Set.Card
import Mathlib.Order.Interval.Finset.Nat
import Polymesh.Governance.Motions

/-!
# The motions that a committee keeps

A motion is active from its proposal until it is finished or pruned. The number of motions is
limited, but what is counted is every motion that was ever proposed.
-/

namespace Polymesh

open Transactional Tx SortedLists
open TransitionSystem (run run_append run_cons run_nil)

namespace Governance

open Committee
open PolymeshVotes (index)

/-! ## Active motions -/

/-- The motions that are active. -/
def activeMotions (s : Storage) : Set Hash := {proposal | (s.committee.proposalOf proposal).isSome}

/-- Whatever motion is active was so before, under the same number. -/
def Closes (s s' : Storage) : Prop :=
  s'.committee.proposalCount = s.committee.proposalCount ∧
    ∀ proposal ∈ activeMotions s', proposal ∈ activeMotions s ∧
      (s'.committee.voting proposal).map index =
        (s.committee.voting proposal).map index

instance : Std.Refl Closes := ⟨fun _ => ⟨rfl, fun _ h => ⟨h, rfl⟩⟩⟩

instance : IsTrans Storage Closes where
  trans a b c hab hbc := by
    refine ⟨hbc.1.trans hab.1, fun proposal hc => ?_⟩
    obtain ⟨hb, hindex⟩ := hbc.2 proposal hc
    obtain ⟨ha, hindex'⟩ := hab.2 proposal hb
    exact ⟨ha, hindex.trans hindex'⟩

section Closes

variable {s s' : Storage} {proposal : Hash} {v v' : PolymeshVotes} {id : IdentityId}

theorem Closes.of_eq (hcount : s'.committee.proposalCount = s.committee.proposalCount)
    (hproposalOf : s'.committee.proposalOf = s.committee.proposalOf)
    (hvoting : s'.committee.voting = s.committee.voting) : Closes s s' := by
  refine ⟨hcount, fun proposal h => ⟨?_, by rw [hvoting]⟩⟩
  unfold activeMotions at h ⊢
  rwa [← hproposalOf]

theorem closes_mapGroup (s : Storage) (g : GroupStorage → GroupStorage) :
    Closes s (s.mapGroup g) := .of_eq rfl rfl rfl

theorem closes_setVoting (hv : s.committee.voting proposal = some v) (hindex : v'.index = v.index) :
    Closes s (setVoting proposal (some v') s) := by
  refine ⟨rfl, fun q hq => ⟨hq, ?_⟩⟩
  by_cases heq : q = proposal
  · subst heq
    simp [setVoting, hv, hindex]
  · simp [setVoting, Function.update_of_ne heq]

theorem notMem_setProposalOf_none (proposal : Hash) (s : Storage) :
    proposal ∉ activeMotions (setProposalOf proposal none s) := by
  simp [activeMotions, setProposalOf]

theorem closes_setProposalOf_none (proposal : Hash) (s : Storage) :
    Closes s (setProposalOf proposal none s) := by
  refine ⟨rfl, fun q hq => ⟨?_, rfl⟩⟩
  have hne : q ≠ proposal := by
    rintro rfl
    exact notMem_setProposalOf_none q s hq
  simpa [activeMotions, setProposalOf, Function.update_of_ne hne] using hq

theorem closes_clearProposal (h : proposal ∉ activeMotions s) :
    Closes s (clearProposal proposal s) := by
  refine ⟨rfl, fun q hq => ⟨hq, ?_⟩⟩
  have hne : q ≠ proposal := by
    rintro rfl
    exact h hq
  simp [clearProposal, Function.update_of_ne hne]

theorem retract_index (h : retract id v = some v') : v'.index = v.index := by
  unfold retract at h
  split at h
  · cases h
    rfl
  · obtain ⟨_, -, rfl⟩ := Option.map_eq_some_iff.mp h
    rfl

end Closes

/-! ## Motions close motions

A motion is run with the origin of the committee, which has no vote: it proposes nothing. -/

section Motions

variable {inst : Instance} {env : Env} {execute : Call → Dispatch Unit} {origin : Origin}

section Execution

variable (hexecute : ∀ call, Respects Closes (execute call))
include hexecute

theorem runMotion_closes (call : Call) : Respects Closes (runMotion execute call) := by
  intro s u s' h
  rcases runMotion_ok h with rfl | h
  · exact Std.Refl.refl _
  · exact hexecute call h

theorem executeIfPassed_closes (proposal : Hash) :
    Respects Closes (executeIfPassed execute proposal) := by
  intro s u s' h
  have hnote approved : Closes s (noteFinalVotes approved proposal s) := .of_eq rfl rfl rfl
  have htaken approved := notMem_setProposalOf_none proposal (noteFinalVotes approved proposal s)
  have htake approved := IsTrans.trans _ _ _ (hnote approved) (closes_setProposalOf_none proposal _)
  rcases executeIfPassed_cases h with rfl | rfl | ⟨approved, rfl⟩ | ⟨call, s₁, -, hrun, rfl⟩
  · exact Std.Refl.refl _
  · exact IsTrans.trans _ _ _ (closes_setProposalOf_none proposal s)
      (closes_clearProposal (notMem_setProposalOf_none proposal s))
  · exact IsTrans.trans _ _ _ (htake approved) (closes_clearProposal (htaken approved))
  · -- the motion is not active while it runs, nor after
    have hclosed := hexecute call hrun
    have hgone : proposal ∉ activeMotions s₁ := fun hmem => htaken true (hclosed.2 proposal hmem).1
    exact IsTrans.trans _ _ _ (htake true) (IsTrans.trans _ _ _ hclosed (closes_clearProposal hgone))

theorem membershipChanged_closes (inst : Instance) (incoming outgoing new : List IdentityId) :
    Respects Closes (membershipChanged inst execute incoming outgoing new) := by
  have hchange : Respects Closes (changeMembersSorted execute incoming outgoing new) := by
    apply changeMembersSorted_respects
    · exact fun s new => .of_eq rfl rfl rfl
    · exact fun s outgoing => .of_eq rfl rfl rfl
    · exact fun s proposal id v v' hv h => closes_setVoting hv (retract_index h)
    · exact executeIfPassed_closes hexecute
  cases inst with
  | cddProviders => exact .pure ()
  | governanceCommittee | specialCommittee => exact hchange

theorem vote_closes (proposal : Hash) (index : ℕ) (approve : Bool) :
    Respects Closes (vote execute env origin proposal index approve) := by
  intro s u s' h
  obtain ⟨did, v, -, -, hv, -, -, h⟩ := vote_ok h
  have hindex : (castVote did approve v).index = v.index := by
    cases approve <;> rfl
  have hcast := closes_setVoting hv hindex
  exact IsTrans.trans _ _ _ hcast (executeIfPassed_closes hexecute proposal h)

/-- **No call but a proposal makes a motion active.** -/
theorem dispatchWith_closes {R : Storage → Storage → Prop} [Std.Refl R] [IsTrans Storage R]
    (hcloses : ∀ s s', Closes s s' → R s s')
    (hpropose : ∀ approve motion, Respects R (voteOrPropose execute env origin approve motion))
    (call : Call) : Respects R (dispatchWith inst env execute origin call) := by
  have hchanged := membershipChanged_closes hexecute inst
  have hclose : ∀ {x : Dispatch Unit}, Respects Closes x → Respects R x :=
    fun hx _ _ _ h => hcloses _ _ (hx h)
  refine dispatchWith_rule (P := fun _ => True) (fun _ _ _ _ _ => trivial) ?_
    (fun call x _ hruns => ?_) call trivial
  · rintro s _ ⟨_, _, _, _, -, rfl⟩
    exact hcloses _ _ (.of_eq rfl rfl rfl)
  cases hruns with
  | disableMember _ who expiry deactivation =>
    exact hclose (Group.disableMember_respects closes_mapGroup hchanged who expiry deactivation)
  | addMember _ who => exact hclose (Group.addMember_respects closes_mapGroup hchanged who)
  | removeMember _ who =>
    exact hclose (Group.baseRemoveMember_respects closes_mapGroup hchanged who)
  | swapMember _ remove add =>
    exact hclose (Group.swapMember_respects closes_mapGroup hchanged remove add)
  | resetMembers _ members =>
    exact hclose (Group.resetMembers_respects closes_mapGroup hchanged members)
  | abdicateMembership =>
    exact hclose (Group.abdicateMembership_respects closes_mapGroup hchanged origin)
  | voteOrPropose approve motion => exact hpropose approve motion
  | vote proposal index approve => exact hclose (vote_closes hexecute proposal index approve)

end Execution

theorem executeMotion_closes (depth : ℕ) (call : Call) :
    Respects Closes (executeMotion inst env depth call) := by
  induction depth generalizing call with
  | zero => exact .fail _
  | succ depth ih =>
    refine dispatchWith_closes ih (fun _ _ h => h) (fun approve motion => ?_) call
    exact fun s u s' h => absurd rfl (ne_endorsed_of_voteOrPropose h)

end Motions

/-! ## The numbers of motions -/

/-- **What is known of the numbers of motions** in every run: active motions are voted on under
different numbers, which are below the number of motions so far. -/
structure Numbered (s : Storage) : Prop where
  limited : s.committee.proposalCount ≤ proposalsMax
  voted : ∀ proposal ∈ activeMotions s, ∃ v, s.committee.voting proposal = some v ∧
    v.index < s.committee.proposalCount
  injective : ∀ p ∈ activeMotions s, ∀ q ∈ activeMotions s,
    (s.committee.voting p).map index =
      (s.committee.voting q).map index → p = q

namespace Numbered

variable {s s' : Storage}

theorem closes (hs : Numbered s) (h : Closes s s') : Numbered s' := by
  refine ⟨h.1 ▸ hs.limited, fun proposal hmem => ?_, fun p hp q hq heq => ?_⟩
  · obtain ⟨hbefore, hindex⟩ := h.2 proposal hmem
    obtain ⟨v, hv, hlt⟩ := hs.voted proposal hbefore
    rw [hv, Option.map_some] at hindex
    obtain ⟨v', hv', heq⟩ := Option.map_eq_some_iff.mp hindex
    exact ⟨v', hv', by rw [heq, h.1]; exact hlt⟩
  · obtain ⟨hp, hindex⟩ := h.2 p hp
    obtain ⟨hq, hindex'⟩ := h.2 q hq
    exact hs.injective p hp q hq (hindex.symm.trans (heq.trans hindex'))

theorem insert (hs : Numbered s) (hcount : s.committee.proposalCount < proposalsMax)
    (proposal : Hash) (call : Call) (did : IdentityId) :
    Numbered (insertProposal proposal call did s) := by
  -- motions other than the new one are as they were
  have hold : ∀ p ∈ activeMotions (insertProposal proposal call did s), p ≠ proposal →
      p ∈ activeMotions s ∧
        (insertProposal proposal call did s).committee.voting p = s.committee.voting p := by
    intro p hp hne
    simp only [activeMotions, insertProposal, Storage.mapCommittee_committee, Set.mem_ofPred_eq,
      Function.update_of_ne hne] at hp ⊢
    exact ⟨hp, trivial⟩
  have hnew : ((insertProposal proposal call did s).committee.voting proposal).map
      index = some s.committee.proposalCount := by
    simp [insertProposal]
  have hbelow : ∀ p ∈ activeMotions (insertProposal proposal call did s), p ≠ proposal →
      ((insertProposal proposal call did s).committee.voting p).map index ≠
        some s.committee.proposalCount := by
    intro p hp hne heq
    obtain ⟨hp, hsame⟩ := hold p hp hne
    obtain ⟨v, hv, hlt⟩ := hs.voted p hp
    rw [hsame, hv, Option.map_some, Option.some_inj] at heq
    exact absurd heq hlt.ne
  refine ⟨hcount, fun p hp => ?_, fun p hp q hq heq => ?_⟩
  · by_cases hne : p = proposal
    · subst hne
      obtain ⟨v, hv, hindex⟩ := Option.map_eq_some_iff.mp hnew
      exact ⟨v, hv, hindex ▸ Nat.lt_succ_self _⟩
    · obtain ⟨hp, hsame⟩ := hold p hp hne
      obtain ⟨v, hv, hlt⟩ := hs.voted p hp
      exact ⟨v, hsame.trans hv, Nat.lt_succ_of_lt hlt⟩
  · by_cases hp' : p = proposal
    · by_contra hne
      rw [hp', hnew] at heq
      exact hbelow q hq (fun h => hne (hp'.trans h.symm)) heq.symm
    · by_cases hq' : q = proposal
      · rw [hq', hnew] at heq
        exact absurd heq (hbelow p hp hp')
      · obtain ⟨hp, hsame⟩ := hold p hp hp'
        obtain ⟨hq, hsame'⟩ := hold q hq hq'
        exact hs.injective p hp q hq (by rwa [hsame, hsame'] at heq)

end Numbered

variable {inst : Instance} {s : Storage} {count : ℕ}

theorem step_numbered (a : Action) (hs : Numbered s) :
    Numbered (step inst a s) := by
  cases a with
  | nextBlock elapsed => exact hs.closes (.of_eq rfl rfl rfl)
  | extrinsic env depth origin call =>
    rcases step_extrinsic inst env depth origin call s with heq | hstep
    · rwa [heq]
    · have hexecute : ∀ call, Respects Closes (executeMotion inst env depth call) :=
        executeMotion_closes depth
      refine dispatchWith_closes (R := Preserves Numbered) hexecute
        (fun _ _ h hs => hs.closes h) (fun approve motion => ?_) call hstep hs
      intro s u s' h hs
      rcases voteOrPropose_ok h with ⟨index, h⟩ | ⟨-, h⟩
      · exact hs.closes (vote_closes hexecute _ index approve h)
      · obtain ⟨did, -, -, hcount, h | rfl⟩ := propose_ok h
        · exact hs.closes (runMotion_closes hexecute motion h)
        · exact hs.insert hcount _ motion did

theorem genesis_numbered (members : List IdentityId) (limit : ℕ) (threshold : ℕ × ℕ) :
    Numbered (genesis members limit threshold) := by
  have hnone : ∀ proposal, proposal ∉ activeMotions (genesis members limit threshold) := by
    intro proposal h
    cases h
  exact ⟨Nat.zero_le _, fun p hp => absurd hp (hnone p), fun p hp => absurd hp (hnone p)⟩

theorem numbered_of_reachable {members : List IdentityId} {limit : ℕ} {threshold : ℕ × ℕ}
    (h : TransitionSystem.Reachable (step inst) (genesis members limit threshold) s) :
    Numbered s :=
  h.invariant Numbered (genesis_numbered members limit threshold) fun _ a hs => step_numbered a hs

/-! ## The limit -/

/-- All motions that were ever proposed are active. -/
def AllActive (s : Storage) : Prop :=
  ∀ index < s.committee.proposalCount, ∃ proposal ∈ activeMotions s, ∃ v,
    s.committee.voting proposal = some v ∧ v.index = index

theorem Numbered.ncard_iff (hs : Numbered s) :
    (activeMotions s).ncard = s.committee.proposalCount ↔ AllActive s := by
  let number : Hash → ℕ := fun p => ((s.committee.voting p).map index).getD 0
  have hnumber : ∀ p ∈ activeMotions s, ∃ v, s.committee.voting p = some v ∧
      number p = v.index ∧ v.index < s.committee.proposalCount := by
    intro p hp
    obtain ⟨v, hv, hlt⟩ := hs.voted p hp
    exact ⟨v, hv, by simp [number, hv], hlt⟩
  have hinjective : Set.InjOn number (activeMotions s) := by
    intro p hp q hq heq
    obtain ⟨v, hv, hvp, -⟩ := hnumber p hp
    obtain ⟨w, hw, hwq, -⟩ := hnumber q hq
    refine hs.injective p hp q hq ?_
    rw [hv, hw, Option.map_some, Option.map_some, ← hvp, ← hwq, heq]
  have hsubset : number '' activeMotions s ⊆ Set.Iio s.committee.proposalCount := by
    rintro _ ⟨p, hp, rfl⟩
    obtain ⟨v, -, heq, hlt⟩ := hnumber p hp
    exact heq ▸ hlt
  have hcard : (Set.Iio s.committee.proposalCount).ncard = s.committee.proposalCount := by
    rw [Set.ncard_eq_toFinset_card', Set.toFinset_Iio, Nat.card_Iio]
  rw [← hinjective.ncard_image]
  constructor
  · intro h index hindex
    have heq := Set.eq_of_subset_of_ncard_le hsubset (hcard.trans h.symm).le
    obtain ⟨p, hp, rfl⟩ : index ∈ number '' activeMotions s := heq ▸ hindex
    obtain ⟨v, hv, heq, -⟩ := hnumber p hp
    exact ⟨p, hp, v, hv, heq.symm⟩
  · intro hall
    have heq : number '' activeMotions s = Set.Iio s.committee.proposalCount := by
      refine hsubset.antisymm fun index hindex => ?_
      obtain ⟨p, hp, v, hv, rfl⟩ := hall index hindex
      exact ⟨p, hp, by simp [number, hv]⟩
    rw [heq, hcard]

section Limit

variable {env : Env} {execute : Call → Dispatch Unit} {origin : Origin} {s' : Storage}

theorem runMotion_failsWith (E : Error → Prop) (call : Call) :
    FailsWith E (runMotion execute call) :=
  (FailsWith.attempt _).bind fun _ => FailsWith.pure ()

theorem executeIfPassed_failsWith (E : Error → Prop) (proposal : Hash) :
    FailsWith E (executeIfPassed execute proposal) := by
  have hfinalize : ∀ approved, FailsWith E (finalizeProposal execute approved proposal) := by
    intro approved
    refine (FailsWith.modify _).bind fun _ => FailsWith.get.bind fun s =>
      (FailsWith.modify _).bind fun _ => ?_
    refine (FailsWith.onlyIf ?_).bind fun _ => FailsWith.modify _
    cases s.committee.proposalOf proposal with
    | none => exact FailsWith.pure ()
    | some call => exact runMotion_failsWith E call
  refine FailsWith.get.bind fun s => ?_
  cases s.committee.voting proposal with
  | none => exact FailsWith.pure ()
  | some v =>
    refine (FailsWith.attempt _).bind fun r => ?_
    cases r with
    | error e => exact FailsWith.pure ()
    | ok _ => exact (hfinalize _).onlyIf

theorem ensureIsMember_error {e : Error} (h : ensureIsMember env origin s = .error e) :
    e ≠ .proposalsLimitReached := by
  simp only [ensureIsMember, ensureDidIsMember, except_bind_eq_error, ensure_eq_error] at h
  rcases h with h | ⟨did, -, ⟨-, rfl⟩ | ⟨_, -, h⟩⟩
  · rintro rfl
    cases origin with
    | signed account =>
      cases hdid : env.callPermissions account <;> simp [Env.ensurePerms, okOr, hdid] at h
    | _ => cases h
  · decide
  · cases h

theorem vote_failsWith (proposal : Hash) (index : ℕ) (approve : Bool) :
    FailsWith (· ≠ .proposalsLimitReached) (vote execute env origin proposal index approve) := by
  refine (FailsWith.read fun _ _ => ensureIsMember_error).bind fun did =>
    FailsWith.get.bind fun s => (FailsWith.read fun _ _ h => ?_).bind fun v =>
    (FailsWith.ensure (by decide)).bind fun _ => FailsWith.bind ?_ fun _ =>
    (FailsWith.ensure (by decide)).bind fun _ => (FailsWith.modify _).bind fun _ =>
    executeIfPassed_failsWith _ proposal
  · cases hv : s.committee.voting proposal with
    | none =>
      rw [hv] at h
      cases h
      decide
    | some v =>
      rw [hv] at h
      cases h
  · intro s e s' h
    unfold ensureNotExpired at h
    split_ifs at h
    · cases h
      decide
    · cases h

theorem voteOrPropose_limit {approve : Bool} {call : Call}
    (h : voteOrPropose execute env origin approve call s = (.error .proposalsLimitReached, s')) :
    proposalsMax ≤ s.committee.proposalCount := by
  simp only [voteOrPropose, bind_error, get_error, get_ok, false_or] at h
  obtain ⟨_, _, ⟨rfl, rfl⟩, h⟩ := h
  cases hv : s.committee.voting (env.hashOf call) with
  | some v =>
    rw [hv] at h
    exact absurd rfl (vote_failsWith _ v.index approve h)
  | none =>
    simp only [hv] at h
    split_ifs at h
    · simp only [propose, bind_error, read_error, read_ok, get_error, get_ok, ensure_error,
        ensure_ok, false_or] at h
      rcases h with ⟨h, -⟩ | ⟨did, _, ⟨-, rfl⟩, _, _, ⟨rfl, rfl⟩, h⟩
      · exact absurd rfl (ensureIsMember_error h)
      · rcases h with ⟨hcount, -⟩ | ⟨_, _, ⟨-, rfl⟩, ⟨-, h, -⟩ | ⟨_, _, ⟨-, rfl⟩, h⟩⟩
        · exact Nat.not_lt.mp hcount
        · cases h
        · split_ifs at h
          · exact (runMotion_failsWith (fun _ => False) call h).elim
          · cases h
    · cases h

end Limit

/-- **The limit on motions counts those that are active if and only if none was ever closed.** In
every run, a proposal that fails for the limit finds as many active motions as the limit allows if
and only if all motions that were ever proposed are active. -/
theorem limit_counts_active_iff {inst : Instance} {members : List IdentityId} {limit : ℕ}
    {threshold : ℕ × ℕ} {s : Storage}
    (hs : TransitionSystem.Reachable (step inst) (genesis members limit threshold) s) {env : Env}
    {depth : ℕ} {origin : Origin} {approve : Bool} {call : Call}
    (h : (dispatch inst env depth origin (.voteOrPropose approve call) s).1 =
      .error .proposalsLimitReached) :
    (activeMotions s).ncard = proposalsMax ↔ AllActive s := by
  have hnumbered := numbered_of_reachable hs
  have hcount : s.committee.proposalCount = proposalsMax := by
    refine hnumbered.limited.antisymm ?_
    rw [dispatch, dispatchWith] at h
    exact voteOrPropose_limit (Prod.ext h rfl)
  rw [← hcount]
  exact hnumbered.ncard_iff

/-! ## Motions of a committee of two -/

section Forward

variable {env : Env} {execute : Call → Dispatch Unit} {origin : Origin} {s₁ : Storage} {call : Call}
  {did : IdentityId} {proposal : Hash} {v : PolymeshVotes}

theorem voteOrPropose_starts (hmember : ensureIsMember env origin s = .ok did)
    (hcount : s.committee.proposalCount < proposalsMax)
    (hvoting : s.committee.voting (env.hashOf call) = none)
    (hproposalOf : s.committee.proposalOf (env.hashOf call) = none)
    (hmembers : ¬ s.committee.members.length < 2) :
    voteOrPropose execute env origin true call s =
      (.ok (), insertProposal (env.hashOf call) call did s) := by
  simp only [voteOrPropose, run_ok, bind_ok]
  refine ⟨s, s, ⟨rfl, rfl⟩, ?_⟩
  simp only [hvoting, propose, run_ok, bind_ok, if_true]
  refine ⟨did, s, ⟨hmember, rfl⟩, s, s, ⟨rfl, rfl⟩, (), s, ⟨hcount, rfl⟩, (), s, ?_, ?_⟩
  · rw [hproposalOf]
    exact ⟨rfl, rfl⟩
  · rw [if_neg hmembers, modify_ok]

theorem voteOrPropose_full (hmember : ensureIsMember env origin s = .ok did)
    (hcount : proposalsMax ≤ s.committee.proposalCount)
    (hvoting : s.committee.voting (env.hashOf call) = none) :
    voteOrPropose execute env origin true call s = (.error .proposalsLimitReached, s) := by
  simp only [voteOrPropose, bind_error, get_error, get_ok, false_or]
  refine ⟨s, s, ⟨rfl, rfl⟩, ?_⟩
  simp only [hvoting, propose, bind_error, read_error, read_ok, get_error, get_ok, ensure_error,
    false_or, if_true]
  exact .inr ⟨did, s, ⟨hmember, rfl⟩, s, s, ⟨rfl, rfl⟩, .inl ⟨Nat.not_lt.mpr hcount, trivial, rfl⟩⟩

theorem executeIfPassed_passes (hvoting : s.committee.voting proposal = some v)
    (hproposalOf : s.committee.proposalOf proposal = some call) (hexpired : ¬ expired v.expiry s)
    (hsatisfied : satisfied v.ayes v.nays s = true)
    (hexecute : execute call (setProposalOf proposal none (noteFinalVotes true proposal s)) =
      (.ok (), s₁)) :
    executeIfPassed execute proposal s = (.ok (), clearProposal proposal s₁) := by
  have hrun : runMotion execute call
      (setProposalOf proposal none (noteFinalVotes true proposal s)) = (.ok (), s₁) := by
    simp only [runMotion, run_ok, bind_ok, attempt_ok]
    exact ⟨.ok (), s₁, transaction_ok.mpr hexecute, trivial, rfl⟩
  simp only [executeIfPassed, run_ok, bind_ok]
  refine ⟨s, s, ⟨rfl, rfl⟩, ?_⟩
  simp only [hvoting, bind_ok, attempt_ok, ensureNotExpired, if_neg hexpired]
  refine ⟨.ok (), s, rfl, ?_⟩
  simp only [onlyIf_ok, finalizeProposal, run_ok, bind_ok, hsatisfied, true_or]
  refine .inl ⟨trivial, (), _, rfl, _, _, ⟨rfl, rfl⟩, (), _, rfl, (), s₁, .inl ⟨trivial, ?_⟩, rfl⟩
  rw [show (noteFinalVotes true proposal s).committee.proposalOf proposal = _ from hproposalOf]
  exact hrun

theorem voteOrPropose_votes (hmember : ensureIsMember env origin s = .ok did)
    (hvoting : s.committee.voting (env.hashOf call) = some v) (hexpired : ¬ expired v.expiry s)
    (hdup : did ∉ v.ayes) {s' : Storage}
    (h : executeIfPassed execute (env.hashOf call)
      (setVoting (env.hashOf call) (some (castVote did true v)) s) = (.ok (), s')) :
    voteOrPropose execute env origin true call s = (.ok (), s') := by
  simp only [voteOrPropose, run_ok, bind_ok]
  refine ⟨s, s, ⟨rfl, rfl⟩, ?_⟩
  simp only [hvoting, vote, run_ok, bind_ok, okOr_eq_ok]
  refine ⟨did, s, ⟨hmember, rfl⟩, s, s, ⟨rfl, rfl⟩, v, s, ⟨hvoting, rfl⟩, (), s, ⟨rfl, rfl⟩, (), s,
    ?_, (), s, ⟨hdup, rfl⟩, (), _, rfl, h⟩
  rw [ensureNotExpired, if_neg hexpired]

end Forward

/-- One of two members proposes a call, or approves it. -/
def approves (member : AccountId) (number : ℕ) : Action :=
  .calls (.signed member) (.voteOrPropose true (.other number))

theorem ensureIsMember_pair (h : s.committee.members = [⟨1⟩, ⟨2⟩]) :
    ensureIsMember .consenting (.signed ⟨1⟩) s = .ok ⟨1⟩ ∧
      ensureIsMember .consenting (.signed ⟨2⟩) s = .ok ⟨2⟩ := by
  simp only [ensureIsMember, ensureDidIsMember, h]
  decide

theorem step_approves_starts {number : ℕ} (hmembers : s.committee.members = [⟨1⟩, ⟨2⟩])
    (hcount : s.committee.proposalCount < proposalsMax)
    (hvoting : s.committee.voting ⟨Fin.ofNat _ number⟩ = none)
    (hproposalOf : s.committee.proposalOf ⟨Fin.ofNat _ number⟩ = none) :
    step inst (approves ⟨1⟩ number) s =
      insertProposal ⟨Fin.ofNat _ number⟩ (.other number) ⟨1⟩ s := by
  refine step_of_ok ?_
  rw [dispatch, dispatchWith]
  exact voteOrPropose_starts (ensureIsMember_pair hmembers).1 hcount hvoting hproposalOf
    (by simp [hmembers])

/-- The committee has proposed a number of motions and closed them all. -/
def allClosed (count : ℕ) : Storage :=
  (genesis [⟨1⟩, ⟨2⟩] 10 (1, 1)).mapCommittee fun c =>
    { c with
      proposalCount := count
      finalVotes := .replicate count ⟨⟨0⟩, true, [⟨1⟩, ⟨2⟩], [], c.members⟩ }

theorem run_allClosed (hcount : count < proposalsMax) :
    run (step .governanceCommittee) (allClosed count)
      [approves ⟨1⟩ 0, approves ⟨2⟩ 0] = allClosed (count + 1) := by
  have hstart : step .governanceCommittee (approves ⟨1⟩ 0) (allClosed count) =
      insertProposal ⟨0⟩ (.other 0) ⟨1⟩ (allClosed count) :=
    step_approves_starts rfl hcount rfl rfl
  have hpass : step .governanceCommittee (approves ⟨2⟩ 0)
      (insertProposal ⟨0⟩ (.other 0) ⟨1⟩ (allClosed count)) = allClosed (count + 1) := by
    refine step_of_ok ?_
    rw [dispatch, dispatchWith]
    have hnone : ∀ s, ¬ expired none s := by simp [expired]
    have hdup : (⟨2⟩ : IdentityId) ∉ [⟨1⟩] := by decide
    refine voteOrPropose_votes (ensureIsMember_pair rfl).2 rfl (hnone _) hdup ?_
    refine (executeIfPassed_passes rfl rfl (hnone _) rfl rfl).trans ?_
    simp [clearProposal, setProposalOf, noteFinalVotes, setVoting, castVote, withoutVote,
      insertProposal, allClosed, Storage.mapCommittee, genesis, Env.consenting, List.replicate_succ']
  rw [run_cons, run_cons, run_nil, hstart, hpass]

theorem allClosed_reachable (hcount : count ≤ proposalsMax) :
    TransitionSystem.Reachable (step .governanceCommittee) (genesis [⟨1⟩, ⟨2⟩] 10 (1, 1))
      (allClosed count) := by
  induction count with
  | zero => exact ⟨[], rfl⟩
  | succ count ih =>
    obtain ⟨acts, hacts⟩ := ih (Nat.le_of_succ_le hcount)
    refine ⟨acts ++ [approves ⟨1⟩ 0, approves ⟨2⟩ 0], ?_⟩
    rw [run_append, hacts]
    exact run_allClosed hcount

/-- A committee of two passes motions until it has passed as many as the limit allows. No motion is
active, and none can be proposed. -/
theorem limit_reached_without_motions :
    TransitionSystem.Reachable (step .governanceCommittee) (genesis [⟨1⟩, ⟨2⟩] 10 (1, 1))
        (allClosed proposalsMax) ∧
      (dispatch .governanceCommittee .consenting 1 (.signed ⟨1⟩) (.voteOrPropose true (.other 0))
        (allClosed proposalsMax)).1 = .error .proposalsLimitReached ∧
      activeMotions (allClosed proposalsMax) = ∅ := by
  refine ⟨allClosed_reachable le_rfl, ?_, ?_⟩
  · rw [dispatch, dispatchWith, voteOrPropose_full (ensureIsMember_pair rfl).1 le_rfl rfl]
  · ext proposal
    simp [activeMotions, allClosed, genesis]

/-- Motions of the given numbers are active, and no others below the limit. -/
structure Opened (count : ℕ) (s : Storage) : Prop where
  members : s.committee.members = [⟨1⟩, ⟨2⟩]
  counted : s.committee.proposalCount = count
  opened : ∀ number < count, (s.committee.proposalOf ⟨Fin.ofNat _ number⟩).isSome ∧
    ∃ v, s.committee.voting ⟨Fin.ofNat _ number⟩ = some v ∧ v.index = number
  unknown : ∀ number, count ≤ number → number ≤ proposalsMax →
    s.committee.voting ⟨Fin.ofNat _ number⟩ = none ∧
      s.committee.proposalOf ⟨Fin.ofNat _ number⟩ = none

theorem hash_ne {a b : ℕ} (ha : a ≤ proposalsMax) (hb : b ≤ proposalsMax) (h : a ≠ b) :
    (⟨Fin.ofNat _ a⟩ : Hash) ≠ ⟨Fin.ofNat _ b⟩ := by
  intro heq
  have hval := congrArg (fun hash : Hash => hash.bytes.val) heq
  simp only [Fin.val_ofNat] at hval
  rw [Nat.mod_eq_of_lt (ha.trans_lt (by decide)), Nat.mod_eq_of_lt (hb.trans_lt (by decide))] at hval
  exact h hval

theorem Opened.next (hs : Opened count s) (hcount : count < proposalsMax) :
    Opened (count + 1) (step .governanceCommittee (approves ⟨1⟩ count) s) := by
  obtain ⟨hvoting, hproposalOf⟩ := hs.unknown count le_rfl hcount.le
  rw [step_approves_starts hs.members (hs.counted ▸ hcount) hvoting hproposalOf]
  refine ⟨hs.members, congrArg (· + 1) hs.counted, fun number hnumber => ?_,
    fun number hnumber hmax => ?_⟩
  · rcases Nat.lt_succ_iff_lt_or_eq.mp hnumber with hlt | rfl
    · have hne := hash_ne (hlt.le.trans hcount.le) hcount.le hlt.ne
      simp only [insertProposal, Storage.mapCommittee_committee, Function.update_of_ne hne]
      exact hs.opened number hlt
    · simp [insertProposal, hs.counted]
  · have hne := hash_ne hmax hcount.le (Nat.lt_of_succ_le hnumber).ne'
    simp only [insertProposal, Storage.mapCommittee_committee, Function.update_of_ne hne]
    exact hs.unknown number (Nat.le_of_succ_le hnumber) hmax

theorem opened_reachable (hcount : count ≤ proposalsMax) :
    ∃ s, TransitionSystem.Reachable (step .governanceCommittee) (genesis [⟨1⟩, ⟨2⟩] 10 (1, 1)) s ∧
      Opened count s := by
  induction count with
  | zero => exact ⟨_, ⟨[], rfl⟩, rfl, rfl, nofun, fun _ _ _ => ⟨rfl, rfl⟩⟩
  | succ count ih =>
    obtain ⟨s, ⟨acts, rfl⟩, hs⟩ := ih (Nat.le_of_succ_le hcount)
    refine ⟨_, ⟨acts ++ [approves ⟨1⟩ count], ?_⟩, hs.next hcount⟩
    rw [run_append, run_cons, run_nil]

/-- The committee proposes as many motions as the limit allows and passes none. They are all active,
and one more fails for the limit. -/
theorem limit_counts_active_opened :
    ∃ s, (dispatch .governanceCommittee .consenting 1 (.signed ⟨1⟩)
        (.voteOrPropose true (.other proposalsMax)) s).1 = .error .proposalsLimitReached ∧
      (activeMotions s).ncard = 500 := by
  obtain ⟨s, hreach, hs⟩ := opened_reachable (le_refl proposalsMax)
  have hfail : (dispatch .governanceCommittee .consenting 1 (.signed ⟨1⟩)
      (.voteOrPropose true (.other proposalsMax)) s).1 = .error .proposalsLimitReached := by
    have hunknown : s.committee.voting (Env.consenting.hashOf (.other proposalsMax)) = none :=
      (hs.unknown proposalsMax le_rfl le_rfl).1
    rw [dispatch, dispatchWith,
      voteOrPropose_full (ensureIsMember_pair hs.members).1 hs.counted.ge hunknown]
  refine ⟨s, hfail, (limit_counts_active_iff hreach hfail).mpr fun index hindex => ?_⟩
  obtain ⟨hactive, hv⟩ := hs.opened index (hs.counted ▸ hindex)
  exact ⟨_, hactive, hv⟩

end Governance

end Polymesh
