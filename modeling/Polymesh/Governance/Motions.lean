import Polymesh.Governance.Runtime

/-!
# What the changes of a group and the votes of its committee do

Every function of the two pallets, taken apart once: what a successful run has found, and what it
has written. A motion that is run is the parameter of the function, so an invariant is kept by the
function if it is kept by what the function writes and by the motions it may run.
-/

namespace Polymesh

open Transactional Tx SortedLists

namespace Governance

variable {env : Env} {s s' : Storage} {u : Unit}

variable {origin : Origin}

namespace Group

variable {changed : MembershipChanged}

variable {who : IdentityId}

theorem addMember_ok (h : addMember changed who s = (.ok u, s')) :
    ∃ location, searchActive who s = .error location ∧
      changed [who] [] (s.group.activeMembers.insertIdx location who)
        (putActive (s.group.activeMembers.insertIdx location who) s) = (.ok u, s') := by
  cases hsearch : searchActive who s with
  | ok location => simp [addMember, hsearch] at h
  | error location =>
    simp [addMember, hsearch] at h
    exact ⟨location, rfl, h.2⟩

theorem baseRemoveActiveMember_ok (h : baseRemoveActiveMember changed who s = (.ok u, s')) :
    ∃ location, searchActive who s = .ok location ∧
      changed [] [who] (s.group.activeMembers.eraseIdx location)
        (putActive (s.group.activeMembers.eraseIdx location) s) = (.ok u, s') := by
  cases hsearch : searchActive who s with
  | ok location =>
    simp [baseRemoveActiveMember, hsearch] at h
    exact ⟨location, rfl, h⟩
  | error location => simp [baseRemoveActiveMember, hsearch] at h

theorem baseRemoveMember_ok (h : baseRemoveMember changed env who s = (.ok u, s')) :
    baseRemoveActiveMember changed who s = (.ok u, s') ∨
      (∃ location, searchActive who s = .error location) ∧
        ∃ position, searchInactive who s.group.inactiveMembers = .ok position ∧
          s' = putInactive (swapRemove s.group.inactiveMembers position) s := by
  cases hsearch : searchActive who s with
  | ok location =>
    simp only [baseRemoveMember, run_ok] at h
    rw [hsearch] at h
    exact .inl h
  | error location =>
    cases hinactive : searchInactive who s.group.inactiveMembers with
    | ok position =>
      simp [baseRemoveMember, baseRemoveInactiveMember, hsearch, hinactive] at h
      exact .inr ⟨⟨location, rfl⟩, position, rfl, h.2.symm⟩
    | error position =>
      simp [baseRemoveMember, baseRemoveInactiveMember, hsearch, hinactive] at h

theorem disableMember_ok {expiry deactivation : Option Moment}
    (h : disableMember changed who expiry deactivation s = (.ok u, s')) :
    ∃ s₁, baseRemoveActiveMember changed who s = (.ok (), s₁) ∧
      s' = putInactive (disabled ⟨who, deactivation.getD s₁.now, expiry⟩ s₁.now
        s₁.group.inactiveMembers) s₁ := by
  simp only [disableMember, ↓run_ok, bind_ok] at h
  obtain ⟨_, s₁, hremove, rfl⟩ := h
  exact ⟨s₁, hremove, rfl⟩

theorem swapMember_ok {remove add : IdentityId}
    (h : swapMember changed remove add s = (.ok u, s')) :
    s' = s ∨ ∃ location location', searchActive remove s = .ok location ∧
      searchActive add s = .error location' ∧
      changed [add] [remove] (sortOn place (s.group.activeMembers.set location add))
        (putActive (sortOn place (s.group.activeMembers.set location add)) s) = (.ok u, s') := by
  rw [swapMember, onlyIf_ok] at h
  rcases h with ⟨-, h⟩ | ⟨-, rfl⟩
  · cases hremove : searchActive remove s with
    | error location => simp [hremove] at h
    | ok location =>
      cases hadd : searchActive add s with
      | ok location' => simp [hremove, hadd] at h
      | error location' =>
        simp [hremove, hadd] at h
        exact .inr ⟨location, location', rfl, rfl, h⟩
  · exact .inl rfl

theorem resetMembers_ok {members : List IdentityId}
    (h : resetMembers changed env members s = (.ok u, s')) :
    ∃ s₁, changed (env.membersDiff s.group.activeMembers (sortOn place members)).1
        (env.membersDiff s.group.activeMembers (sortOn place members)).2
        (sortOn place members) s = (.ok (), s₁) ∧
      s' = putActive (sortOn place members) s₁ := by
  simp [resetMembers] at h
  obtain ⟨-, _, s₁, hchanged, rfl⟩ := h
  exact ⟨s₁, hchanged, rfl⟩

theorem abdicateMembership_ok (h : abdicateMembership changed env origin s = (.ok u, s')) :
    ∃ did location, origin ≠ .endorsed ∧ searchActive did s = .ok location ∧
      changed [] [did] (s.group.activeMembers.filter (· ≠ did))
        (putActive (s.group.activeMembers.filter (· ≠ did)) s) = (.ok u, s') := by
  simp only [abdicateMembership, run_ok] at h
  obtain ⟨⟨who, did⟩, hdid, -, -, h⟩ := h
  have horigin : origin ≠ .endorsed := by
    rintro rfl
    cases hdid
  cases hsearch : searchActive did s with
  | error location => simp [hsearch] at h
  | ok location =>
    simp only [hsearch, run_ok] at h
    exact ⟨did, location, horigin, hsearch, h⟩

/-! ### The rules of the changes

A relation that does not look at the group is respected by its changes, if it is by whoever is told
of them. -/

section Rules

variable {R : Storage → Storage → Prop} [IsTrans Storage R]
  (hgroup : ∀ s g, R s (s.mapGroup g))
  (hchanged : ∀ incoming outgoing new, Respects R (changed incoming outgoing new))
include hgroup hchanged

theorem addMember_respects (who : IdentityId) : Respects R (addMember changed who) := by
  intro s u s' h
  obtain ⟨location, -, h⟩ := addMember_ok h
  exact IsTrans.trans _ _ _ (hgroup s _) (hchanged _ _ _ h)

theorem baseRemoveActiveMember_respects (who : IdentityId) :
    Respects R (baseRemoveActiveMember changed who) := by
  intro s u s' h
  obtain ⟨location, -, h⟩ := baseRemoveActiveMember_ok h
  exact IsTrans.trans _ _ _ (hgroup s _) (hchanged _ _ _ h)

theorem baseRemoveMember_respects (who : IdentityId) :
    Respects R (baseRemoveMember changed env who) := by
  intro s u s' h
  rcases baseRemoveMember_ok h with h | ⟨-, position, -, rfl⟩
  · exact baseRemoveActiveMember_respects hgroup hchanged who h
  · exact hgroup s _

theorem disableMember_respects (who : IdentityId) (expiry deactivation : Option Moment) :
    Respects R (disableMember changed who expiry deactivation) := by
  intro s u s' h
  obtain ⟨s₁, hremove, rfl⟩ := disableMember_ok h
  have hs₁ := baseRemoveActiveMember_respects hgroup hchanged who hremove
  exact IsTrans.trans _ _ _ hs₁ (hgroup s₁ _)

theorem swapMember_respects [Std.Refl R] (remove add : IdentityId) :
    Respects R (swapMember changed remove add) := by
  intro s u s' h
  rcases swapMember_ok h with rfl | ⟨_, _, -, -, h⟩
  · exact Std.Refl.refl _
  · exact IsTrans.trans _ _ _ (hgroup s _) (hchanged _ _ _ h)

theorem resetMembers_respects (members : List IdentityId) :
    Respects R (resetMembers changed env members) := by
  intro s u s' h
  obtain ⟨s₁, htold, rfl⟩ := resetMembers_ok h
  exact IsTrans.trans _ _ _ (hchanged _ _ _ htold) (hgroup s₁ _)

theorem abdicateMembership_respects (origin : Origin) :
    Respects R (abdicateMembership changed env origin) := by
  intro s u s' h
  obtain ⟨did, location, -, -, h⟩ := abdicateMembership_ok h
  exact IsTrans.trans _ _ _ (hgroup s _) (hchanged _ _ _ h)

end Rules

end Group

namespace Committee

variable {execute : Call → Dispatch Unit} {proposal : Hash}

/-! ## Motions -/

variable {call : Call} {approve : Bool} {outgoing : List IdentityId}

theorem runMotion_ok (h : runMotion execute call s = (.ok u, s')) :
    s' = s ∨ execute call s = (.ok (), s') := by
  simp only [runMotion, ↓run_ok, bind_ok, attempt_ok] at h
  obtain ⟨r, s₁, h, -, rfl⟩ := h
  cases r with
  | ok => exact .inr (transaction_ok.mp h)
  | error e => exact .inl (transaction_error h)

/-- **What becomes of a motion that is looked at**: it stays, it is pruned since it has expired, it
is closed, or it is run and then closed. -/
theorem executeIfPassed_cases (h : executeIfPassed execute proposal s = (.ok u, s')) :
    s' = s ∨ s' = setProposalOf proposal none (clearProposal proposal s) ∨
      (∃ approved, s' = clearProposal proposal
        (setProposalOf proposal none (noteFinalVotes approved proposal s))) ∨
      ∃ call s₁, s.committee.proposalOf proposal = some call ∧
        execute call (setProposalOf proposal none (noteFinalVotes true proposal s)) =
          (.ok (), s₁) ∧ s' = clearProposal proposal s₁ := by
  cases hv : s.committee.voting proposal with
  | none =>
    simp [executeIfPassed, hv] at h
    exact .inl h.symm
  | some v =>
    simp only [executeIfPassed, run_ok] at h
    rw [hv] at h
    simp only [bind_ok, attempt_ok, ensureNotExpired] at h
    obtain ⟨r, s₁, hexpiry, h⟩ := h
    split_ifs at hexpiry with hexpired
    · cases hexpiry
      exact .inr (.inl (pure_ok.mp h).2.symm)
    · cases hexpiry
      rw [onlyIf_ok] at h
      rcases h with ⟨-, h⟩ | ⟨-, rfl⟩
      · simp only [finalizeProposal, ↓run_ok, bind_ok, onlyIf_ok] at h
        obtain ⟨_, _, rfl, _, s₁, hrun, rfl⟩ := h
        have hcommittee : ∀ approved, (noteFinalVotes approved proposal s).committee.proposalOf =
            s.committee.proposalOf := fun _ => rfl
        rcases hrun with ⟨happroved, hrun⟩ | ⟨-, rfl⟩
        · rw [happroved, hcommittee] at hrun
          cases hcall : s.committee.proposalOf proposal with
          | none =>
            rw [hcall, runIfExists, pure_ok] at hrun
            exact .inr (.inr (.inl ⟨true, hrun.2 ▸ rfl⟩))
          | some call =>
            rw [hcall, runIfExists] at hrun
            rcases runMotion_ok hrun with rfl | hrun
            · exact .inr (.inr (.inl ⟨true, rfl⟩))
            · exact .inr (.inr (.inr ⟨call, s₁, rfl, hrun, rfl⟩))
        · exact .inr (.inr (.inl ⟨_, rfl⟩))
      · exact .inl rfl

/-- **The rule of a motion that is looked at.** -/
theorem executeIfPassed_preserves {I : Storage → Prop}
    (hclear : ∀ s, I s → I (clearProposal proposal s))
    (hnote : ∀ s approved, I s → I (noteFinalVotes approved proposal s))
    (htake : ∀ s, I s → I (setProposalOf proposal none s))
    (hrun : ∀ s s' call, I s → s.committee.proposalOf proposal = some call →
      execute call (setProposalOf proposal none s) = (.ok (), s') → I s') :
    Respects (Preserves I) (executeIfPassed execute proposal) := by
  intro s u s' h hs
  rcases executeIfPassed_cases h with rfl | rfl | ⟨approved, rfl⟩ | ⟨call, s₁, hcall, hexecute, rfl⟩
  · exact hs
  · exact htake _ (hclear s hs)
  · exact hclear _ (htake _ (hnote s approved hs))
  · exact hclear _ (hrun _ s₁ call (hnote s true hs) hcall hexecute)

theorem mem_of_ensureIsMember {did : IdentityId} (h : ensureIsMember env origin s = .ok did) :
    did ∈ s.committee.members ∧ origin ≠ .endorsed := by
  simp [ensureIsMember, ensureDidIsMember] at h
  obtain ⟨hdid, hfound⟩ := h
  refine ⟨?_, ?_⟩
  · cases hsearch : binarySearch place s.committee.members (place did) with
    | ok i => exact mem_of_ok place_injective hsearch
    | error i => simp [hsearch, Except.isOk, Except.toBool] at hfound
  · rintro rfl
    cases hdid

theorem vote_ok {index : ℕ} (h : vote execute env origin proposal index approve s = (.ok u, s')) :
    ∃ did v, did ∈ s.committee.members ∧ origin ≠ .endorsed ∧
      s.committee.voting proposal = some v ∧ ¬ expired v.expiry s ∧
      (did ∉ if approve then v.ayes else v.nays) ∧
      executeIfPassed execute proposal (setVoting proposal (some (castVote did approve v)) s) =
        (.ok u, s') := by
  simp only [vote, ↓run_ok, bind_ok, okOr_eq_ok] at h
  obtain ⟨did, _, ⟨hmember, rfl⟩, v, hv, -, _, _, hexpiry, hdup, h⟩ := h
  rw [ensureNotExpired] at hexpiry
  split_ifs at hexpiry with hexpired
  · cases hexpiry
  · cases hexpiry
    obtain ⟨hdid, horigin⟩ := mem_of_ensureIsMember hmember
    exact ⟨did, v, hdid, horigin, hv, hexpired, hdup, h⟩

theorem propose_ok (h : propose execute env origin call s = (.ok u, s')) :
    ∃ did ∈ s.committee.members, origin ≠ .endorsed ∧
      s.committee.proposalCount < proposalsMax ∧
      (runMotion execute call s = (.ok u, s') ∨ s' = insertProposal (env.hashOf call) call did s) := by
  simp only [propose, run_ok] at h
  obtain ⟨did, hmember, hcount, -, h⟩ := h
  obtain ⟨hdid, horigin⟩ := mem_of_ensureIsMember hmember
  refine ⟨did, hdid, horigin, hcount, ?_⟩
  split_ifs at h
  · exact .inl h
  · exact .inr (modify_ok.mp h).symm

theorem voteOrPropose_ok (h : voteOrPropose execute env origin approve call s = (.ok u, s')) :
    (∃ index, vote execute env origin (env.hashOf call) index approve s = (.ok u, s')) ∨
      s.committee.voting (env.hashOf call) = none ∧
        propose execute env origin call s = (.ok u, s') := by
  cases hv : s.committee.voting (env.hashOf call) with
  | some v =>
    simp [voteOrPropose, hv] at h
    exact .inl ⟨v.index, h⟩
  | none =>
    cases approve with
    | true =>
      simp [voteOrPropose, hv] at h
      exact .inr ⟨rfl, h⟩
    | false => simp [voteOrPropose, hv] at h

theorem ne_endorsed_of_voteOrPropose
    (h : voteOrPropose execute env origin approve call s = (.ok u, s')) : origin ≠ .endorsed := by
  rcases voteOrPropose_ok h with ⟨index, h⟩ | ⟨-, h⟩
  · obtain ⟨_, _, -, hne, -⟩ := vote_ok h
    exact hne
  · obtain ⟨_, -, hne, -⟩ := propose_ok h
    exact hne

/-! ## Changes of members -/

theorem removeAnyVoteFrom_cases (s : Storage) (proposal : Hash) (outgoing : List IdentityId) :
    (∀ id ∈ outgoing, (s.committee.voting proposal).bind (retract id) = none) ∧
        removeAnyVoteFrom proposal outgoing s = (false, s) ∨
      ∃ id ∈ outgoing, ∃ v v', s.committee.voting proposal = some v ∧ retract id v = some v' ∧
        removeAnyVoteFrom proposal outgoing s = (true, setVoting proposal (some v') s) := by
  induction outgoing with
  | nil => exact .inl ⟨nofun, rfl⟩
  | cons id outgoing ih =>
    cases hvote : (s.committee.voting proposal).bind (retract id) with
    | some v' =>
      obtain ⟨v, hv, hretract⟩ := Option.bind_eq_some_iff.mp hvote
      refine .inr ⟨id, List.mem_cons_self, v, v', hv, hretract, ?_⟩
      simp [removeAnyVoteFrom, removeVoteFrom, hvote]
    | none =>
      have hskip : removeAnyVoteFrom proposal (id :: outgoing) s =
          removeAnyVoteFrom proposal outgoing s := by
        simp [removeAnyVoteFrom, removeVoteFrom, hvote]
      rw [hskip]
      rcases ih with ⟨hnone, ih⟩ | ⟨id', hid', h⟩
      · exact .inl ⟨List.forall_mem_cons.mpr ⟨hvote, hnone⟩, ih⟩
      · exact .inr ⟨id', List.mem_cons_of_mem id hid', h⟩

/-- **What becomes of a motion when members leave**: nothing, or the vote of one of them is removed
and the motion is looked at. -/
theorem retractVotes_ok (h : retractVotes execute outgoing proposal s = (.ok u, s')) :
    s' = (removeAnyVoteFrom proposal outgoing s).2 ∧ s' = s ∨
      executeIfPassed execute proposal (removeAnyVoteFrom proposal outgoing s).2 =
        (.ok (), s') := by
  simp only [retractVotes, run_ok, onlyIf_ok] at h
  rcases h with ⟨-, h⟩ | ⟨hfalse, rfl⟩
  · exact .inr h
  · rcases removeAnyVoteFrom_cases s proposal outgoing with
      ⟨-, hnone⟩ | ⟨id, hid, v, v', hv, hretract, hsome⟩
    · exact .inl ⟨rfl, by rw [hnone]⟩
    · rw [hsome] at hfalse
      exact absurd rfl hfalse

theorem changeMembersSorted_ok {incoming new : List IdentityId}
    (h : changeMembersSorted execute incoming outgoing new s = (.ok u, s')) :
    ∃ s₁, forM s.committee.proposals (retractVotes execute outgoing) (putMembers new s) =
        (.ok (), s₁) ∧ s' = releaseOutgoing outgoing s₁ := by
  simp only [changeMembersSorted, ↓run_ok, bind_ok] at h
  obtain ⟨_, _, rfl, _, s₁, hloop, rfl⟩ := h
  exact ⟨s₁, hloop, rfl⟩

/-- **The rule of a change of members**: it writes the members and the release coordinator, removes
votes, and looks at motions. -/
theorem changeMembersSorted_respects {R : Storage → Storage → Prop} [Std.Refl R]
    [IsTrans Storage R] (hmembers : ∀ s new, R s (putMembers new s))
    (hrelease : ∀ s outgoing, R s (releaseOutgoing outgoing s))
    (hretract : ∀ s proposal id v v', s.committee.voting proposal = some v →
      retract id v = some v' → R s (setVoting proposal (some v') s))
    (hexecute : ∀ proposal, Respects R (executeIfPassed execute proposal))
    (incoming outgoing new : List IdentityId) :
    Respects R (changeMembersSorted execute incoming outgoing new) := by
  intro s u s' h
  obtain ⟨s₁, hloop, rfl⟩ := changeMembersSorted_ok h
  have hone : ∀ proposal ∈ s.committee.proposals, Respects R
      (retractVotes execute outgoing proposal) := by
    intro proposal _ s u s' h
    rcases retractVotes_ok h with ⟨-, rfl⟩ | h
    · exact Std.Refl.refl _
    · refine IsTrans.trans _ _ _ ?_ (hexecute proposal h)
      rcases removeAnyVoteFrom_cases s proposal outgoing with
        ⟨-, heq⟩ | ⟨id, _, v, v', hv, hv', heq⟩
      · rw [heq]
        exact Std.Refl.refl s
      · rw [heq]
        exact hretract s proposal id v v' hv hv'
  exact IsTrans.trans _ _ _ (hmembers s new)
    (IsTrans.trans _ _ _ (Respects.forM hone hloop) (hrelease s₁ outgoing))

/-! ### The rules of votes

A relation that does not look at the committee is respected by votes, if it is by motions. -/

section Rules

variable {R : Storage → Storage → Prop} [Std.Refl R] [IsTrans Storage R]
  (hcommittee : ∀ s g, R s (s.mapCommittee g)) (hexecute : ∀ call, Respects R (execute call))
include hcommittee hexecute

theorem executeIfPassed_respects (proposal : Hash) :
    Respects R (executeIfPassed execute proposal) := by
  intro s u s' h
  have htake : ∀ approved, R s (setProposalOf proposal none (noteFinalVotes approved proposal s)) :=
    fun _ => IsTrans.trans _ _ _ (hcommittee s _) (hcommittee _ _)
  rcases executeIfPassed_cases h with rfl | rfl | ⟨approved, rfl⟩ | ⟨call, s₁, -, hrun, rfl⟩
  · exact Std.Refl.refl _
  · exact IsTrans.trans _ _ _ (hcommittee s _) (hcommittee _ _)
  · exact IsTrans.trans _ _ _ (htake approved) (hcommittee _ _)
  · have hs₁ := IsTrans.trans _ _ _ (htake true) (hexecute call hrun)
    exact IsTrans.trans _ _ _ hs₁ (hcommittee s₁ _)

theorem vote_respects (origin : Origin) (proposal : Hash) (index : ℕ) (approve : Bool) :
    Respects R (vote execute env origin proposal index approve) := by
  intro s u s' h
  obtain ⟨did, v, -, -, -, -, -, h⟩ := vote_ok h
  exact IsTrans.trans _ _ _ (hcommittee s _) (executeIfPassed_respects hcommittee hexecute _ h)

theorem voteOrPropose_respects (origin : Origin) (approve : Bool) (call : Call) :
    Respects R (voteOrPropose execute env origin approve call) := by
  intro s u s' h
  rcases voteOrPropose_ok h with ⟨index, h⟩ | ⟨-, h⟩
  · exact vote_respects hcommittee hexecute origin _ index approve h
  · obtain ⟨did, -, -, -, h | rfl⟩ := propose_ok h
    · rcases runMotion_ok h with rfl | h
      · exact Std.Refl.refl _
      · exact hexecute call h
    · exact hcommittee s _

end Rules

end Committee

/-! ## Calls -/

/-- Only settings differ, the limit of members among them for the root alone. -/
def Adjusted (origin : Origin) (s s' : Storage) : Prop :=
  ∃ limit threshold coordinator expiry,
    (origin ≠ .root → limit = s.group.activeMembersLimit) ∧ s' =
    { s with
      group := { s.group with activeMembersLimit := limit }
      committee :=
        { s.committee with
          voteThreshold := threshold
          releaseCoordinator := coordinator
          expiresAfter := expiry } }

/-- What a call runs on members and motions, once its origin is checked. -/
inductive Runs (inst : Instance) (env : Env) (execute : Call → Dispatch Unit) (origin : Origin) :
    Call → Dispatch Unit → Prop
  | disableMember (h : inst.managed origin) (who : IdentityId) (expiry deactivation : Option Moment) :
      Runs inst env execute origin (.disableMember who expiry deactivation)
        (Group.disableMember (membershipChanged inst execute) who expiry deactivation)
  | addMember (h : inst.managed origin) (who : IdentityId) :
      Runs inst env execute origin (.addMember who)
        (Group.addMember (membershipChanged inst execute) who)
  | removeMember (h : inst.managed origin) (who : IdentityId) :
      Runs inst env execute origin (.removeMember who)
        (Group.baseRemoveMember (membershipChanged inst execute) env who)
  | swapMember (h : inst.managed origin) (remove add : IdentityId) :
      Runs inst env execute origin (.swapMember remove add)
        (Group.swapMember (membershipChanged inst execute) remove add)
  | resetMembers (h : inst.reset origin) (members : List IdentityId) :
      Runs inst env execute origin (.resetMembers members)
        (Group.resetMembers (membershipChanged inst execute) env members)
  | abdicateMembership : Runs inst env execute origin .abdicateMembership
      (Group.abdicateMembership (membershipChanged inst execute) env origin)
  | voteOrPropose (approve : Bool) (call : Call) :
      Runs inst env execute origin (.voteOrPropose approve call)
        (Committee.voteOrPropose execute env origin approve call)
  | vote (proposal : Hash) (index : ℕ) (approve : Bool) :
      Runs inst env execute origin (.vote proposal index approve)
        (Committee.vote execute env origin proposal index approve)

section Calls

variable {inst : Instance} {execute : Call → Dispatch Unit} {R : Storage → Storage → Prop}
  {P : Call → Prop} [Std.Refl R] [IsTrans Storage R]

theorem dispatchBatch_rule (mode : BatchMode) (calls : List Call)
    (h : ∀ call ∈ calls, Respects R (dispatchWith inst env execute origin call)) :
    Respects R (dispatchBatch inst env execute origin mode calls) := by
  induction calls with
  | nil =>
    rw [dispatchBatch]
    exact .pure ()
  | cons call calls ih =>
    have hrest := ih fun call hmem => h call (List.mem_cons_of_mem _ hmem)
    rw [dispatchBatch]
    refine (h call List.mem_cons_self).attempt_transaction.bind fun r => ?_
    cases r with
    | ok => exact hrest
    | error e =>
      cases mode with
      | interrupted => exact .pure ()
      | atomic => exact .fail e
      | optimistic => exact hrest

/-- **The rule of calls**: a relation that settings do not matter to is respected by calls, and by
batches of them, if it is by what they run. -/
theorem dispatchWith_rule (hbatch : ∀ mode calls, P (.batch mode calls) → ∀ call ∈ calls, P call)
    (hadjusted : ∀ s s', Adjusted origin s s' → R s s')
    (hruns : ∀ call x, P call → Runs inst env execute origin call x → Respects R x)
    (call : Call) (h : P call) : Respects R (dispatchWith inst env execute origin call) := by
  cases call <;> rw [dispatchWith]
  case setActiveMembersLimit limit =>
    exact .ensure_bind fun horigin => .ensure_bind fun _ => .modify fun s =>
      hadjusted s _ ⟨limit, _, _, _, (absurd horigin ·), rfl⟩
  case setVoteThreshold n d =>
    exact .ensure_bind fun _ => .ensure_bind fun _ => .modify fun s =>
      hadjusted s _ ⟨_, (n, d), _, _, fun _ => rfl, rfl⟩
  case setReleaseCoordinator id =>
    exact .ensure_bind fun _ => .read_bind fun _ => .modify fun s =>
      hadjusted s _ ⟨_, _, some id, _, fun _ => rfl, rfl⟩
  case setExpiresAfter expiry =>
    exact .ensure_bind fun _ => .modify fun s =>
      hadjusted s _ ⟨_, _, _, expiry, fun _ => rfl, rfl⟩
  case disableMember who expiry deactivation =>
    exact .ensure_bind fun hm => hruns _ _ h (.disableMember hm who expiry deactivation)
  case addMember who => exact .ensure_bind fun hm => hruns _ _ h (.addMember hm who)
  case removeMember who => exact .ensure_bind fun hm => hruns _ _ h (.removeMember hm who)
  case swapMember remove add =>
    exact .ensure_bind fun hm => hruns _ _ h (.swapMember hm remove add)
  case resetMembers members =>
    exact .ensure_bind fun hm => hruns _ _ h (.resetMembers hm members)
  case abdicateMembership => exact hruns _ _ h .abdicateMembership
  case voteOrPropose approve call => exact hruns _ _ h (.voteOrPropose approve call)
  case vote proposal index approve => exact hruns _ _ h (.vote proposal index approve)
  case batch mode calls =>
    exact dispatchBatch_rule mode calls fun call hmem =>
      dispatchWith_rule hbatch hadjusted hruns call (hbatch mode calls h call hmem)
  case other number => exact .ensure _ _
termination_by call
decreasing_by
  have := List.sizeOf_lt_of_mem hmem
  decreasing_tactic

end Calls

end Governance

end Polymesh
