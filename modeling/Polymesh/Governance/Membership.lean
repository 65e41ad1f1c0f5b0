import Polymesh.Governance.Motions

/-!
# The members of a group are in order

The group pallet searches its two lists of members by halving, so it relies on every change to keep
them sorted. Two changes do not: a reset to a list that names someone twice, and the removal of an
inactive member, whose place is taken by the last one. The lists are in order as long as no list
names anyone twice, and inactive members are removed from the end only.
-/

namespace Polymesh

open Transactional Tx SortedLists

namespace Governance

/-! ## Careful calls -/

mutual

/-- A property of a call, and of all calls in it. -/
def Call.All (P : Call → Prop) : Call → Prop
  | .batch _ calls => Call.AllOf P calls
  | .voteOrPropose _ call => call.All P
  | call => P call

def Call.AllOf (P : Call → Prop) : List Call → Prop
  | [] => True
  | call :: calls => call.All P ∧ Call.AllOf P calls

end

variable {P : Call → Prop} {calls : List Call} {members : List IdentityId} {who : IdentityId}
  {call : Call}

theorem Call.allOf_iff :
    Call.AllOf P calls ↔ ∀ call ∈ calls, call.All P := by
  induction calls with
  | nil => simp [Call.AllOf]
  | cons call calls ih => rw [Call.AllOf, ih, List.forall_mem_cons]

theorem Call.all_of_batch {mode : BatchMode} (h : Call.All P (.batch mode calls)) :
    ∀ call ∈ calls, call.All P := by
  rw [Call.All] at h
  exact Call.allOf_iff.mp h

/-- The call resets members to a list that names nobody twice, disables members of `K` only, and
removes none of them. -/
def Careful (K : Set IdentityId) : Call → Prop
  | .resetMembers members => members.Nodup
  | .removeMember who => who ∉ K
  | .disableMember who _ _ => who ∈ K
  | _ => True

/-- Whoever is removed from the inactive members is one of the last two. -/
def RemovesFromEnd (who : IdentityId) (s : Storage) : Prop :=
  ∀ position, Group.searchInactive who s.group.inactiveMembers = .ok position →
    s.group.inactiveMembers.length ≤ position + 2

/-- The step keeps the lists in order. Of all that it and the open motions may do, members are reset
to lists that name nobody twice, and nobody who is inactive, or becomes so, is removed; but if the
step is a removal itself, that may be from the end of the inactive members. -/
def KeepsOrder (s : Storage) : Action → Prop
  | .extrinsic _ _ _ call =>
    ∃ K : Set IdentityId, (∀ m ∈ s.group.inactiveMembers, m.id ∈ K) ∧
      (∀ proposal motion, s.committee.proposalOf proposal = some motion →
        motion.All (Careful K)) ∧
      (call.All (Careful K) ∨ ∃ who, call = .removeMember who ∧ RemovesFromEnd who s)
  | .nextBlock _ => True

/-- The lists of members are strictly sorted. -/
structure InOrder (s : Storage) : Prop where
  active : s.group.activeMembers.Pairwise (place · < place ·)
  inactive : s.group.inactiveMembers.Pairwise fun a b => place a.id < place b.id

/-- The lists are in order, and what may change them is careful. -/
structure MembersInv (K : Set IdentityId) (s : Storage) : Prop extends InOrder s where
  known : ∀ m ∈ s.group.inactiveMembers, m.id ∈ K
  motions : ∀ proposal motion, s.committee.proposalOf proposal = some motion →
    motion.All (Careful K)

/-! ## The changes of a group -/

section Changes

variable {K : Set IdentityId} {s s' : Storage} {u : Unit} {l : List IdentityId}

theorem MembersInv.of_group (hs : MembersInv K s) (hgroup : s'.group = s.group)
    (hmotions : ∀ proposal motion, s'.committee.proposalOf proposal = some motion →
      motion.All (Careful K)) : MembersInv K s' :=
  ⟨⟨hgroup ▸ hs.active, hgroup ▸ hs.inactive⟩, hgroup ▸ hs.known, hmotions⟩

theorem MembersInv.putActive (hs : MembersInv K s) (hl : l.Pairwise (place · < place ·)) :
    MembersInv K (Group.putActive l s) :=
  ⟨⟨hl, hs.inactive⟩, hs.known, hs.motions⟩

theorem pairwise_set {location : ℕ} {add : IdentityId} (hl : l.Pairwise (place · < place ·))
    (hlocation : location < l.length) (hadd : add ∉ l) :
    (sortOn place (l.set location add)).Pairwise (place · < place ·) := by
  have hnodup : l.Nodup := hl.imp fun h heq => h.ne (congrArg place heq)
  rw [pairwise_sortOn_iff, List.nodup_map_iff place_injective,
    (List.set_perm_cons_eraseIdx hlocation add).nodup_iff, List.nodup_cons]
  have hsub := List.eraseIdx_sublist l location
  exact ⟨fun h => hadd (hsub.subset h), hnodup.sublist hsub⟩

variable {member : InactiveMember}

theorem pairwise_updateInactive {members : List InactiveMember}
    (h : members.Pairwise fun a b => place a.id < place b.id) :
    (Group.updateInactive member members).Pairwise fun a b => place a.id < place b.id := by
  unfold Group.updateInactive
  split
  case h_1 idx hsearch =>
    -- the record that is replaced is of the same member
    obtain ⟨m, hm, heq⟩ := binarySearch_ok hsearch
    obtain ⟨hlt, rfl⟩ := List.getElem?_eq_some_iff.mp hm
    have hsame : (members.set idx member).map (fun m => place m.id) =
        members.map fun m => place m.id := by
      rw [List.map_set, ← heq, ← List.getElem_map (fun m : InactiveMember => place m.id)]
      · exact List.set_getElem_self _
      · simpa using hlt
    have hmap := List.pairwise_map.mpr h
    rw [← hsame] at hmap
    exact List.pairwise_map.mp hmap
  case h_2 idx hsearch =>
    refine (pairwise_sortOn_iff (fun m : InactiveMember => place m.id) _).mpr ?_
    rw [List.map_append, List.map_singleton, List.nodup_append]
    refine ⟨List.pairwise_map.mpr (h.imp ne_of_lt), List.nodup_singleton _, ?_⟩
    intro k hk k' hk'
    obtain ⟨m, hm, rfl⟩ := List.mem_map.mp hk
    rw [List.mem_singleton.mp hk']
    exact notMem_of_error (h.imp le_of_lt) hsearch hm

theorem mem_updateInactive {members : List InactiveMember} {m : InactiveMember}
    (h : m ∈ Group.updateInactive member members) : m = member ∨ m ∈ members := by
  unfold Group.updateInactive at h
  split at h
  · rcases List.mem_or_eq_of_mem_set h with h | rfl
    · exact .inr h
    · exact .inl rfl
  · rcases List.mem_append.mp ((sortOn_perm _).mem_iff.mp h) with h | h
    · exact .inr h
    · exact .inl (List.mem_singleton.mp h)

theorem notMem_of_searchActive (hs : InOrder s) {i : ℕ} (h : Group.searchActive who s = .error i) :
    who ∉ s.group.activeMembers :=
  fun hmem => notMem_of_error (hs.active.imp le_of_lt) h hmem rfl

variable {changed : Group.MembershipChanged} {env : Env}
  (hchanged : ∀ incoming outgoing new,
    Respects (Preserves (MembersInv K)) (changed incoming outgoing new))
include hchanged

theorem addMember_membersInv (who : IdentityId) :
    Respects (Preserves (MembersInv K)) (Group.addMember changed who) := by
  intro s u s' h hs
  obtain ⟨location, hsearch, h⟩ := Group.addMember_ok h
  refine hchanged _ _ _ h (hs.putActive ?_)
  exact pairwise_insertIdx (R := (· < ·)) (fun _ _ => id) (hs.active.imp le_of_lt) hs.active hsearch

theorem baseRemoveActiveMember_membersInv (who : IdentityId) :
    Respects (Preserves (MembersInv K)) (Group.baseRemoveActiveMember changed who) := by
  intro s u s' h hs
  obtain ⟨location, -, h⟩ := Group.baseRemoveActiveMember_ok h
  exact hchanged _ _ _ h (hs.putActive (hs.active.sublist (List.eraseIdx_sublist _ _)))

theorem baseRemoveMember_membersInv (hwho : who ∉ K) :
    Respects (Preserves (MembersInv K)) (Group.baseRemoveMember changed env who) := by
  intro s u s' h hs
  rcases Group.baseRemoveMember_ok h with h | ⟨-, position, hsearch, -⟩
  · exact baseRemoveActiveMember_membersInv hchanged who h hs
  · -- nobody outside of `K` is inactive
    obtain ⟨m, hm, heq⟩ := binarySearch_ok hsearch
    exact absurd (place_injective heq ▸ hs.known m (List.mem_of_getElem? hm)) hwho

theorem disableMember_membersInv {expiry deactivation : Option Moment} (hwho : who ∈ K) :
    Respects (Preserves (MembersInv K))
      (Group.disableMember changed who expiry deactivation) := by
  intro s u s' h hs
  obtain ⟨s₁, hremove, rfl⟩ := Group.disableMember_ok h
  have hs₁ := baseRemoveActiveMember_membersInv hchanged who hremove hs
  refine ⟨⟨hs₁.active, pairwise_updateInactive (hs₁.inactive.filter _)⟩, fun m hm => ?_,
    hs₁.motions⟩
  rcases mem_updateInactive hm with rfl | hm
  · exact hwho
  · exact hs₁.known m (List.mem_of_mem_filter hm)

theorem swapMember_membersInv (remove add : IdentityId) :
    Respects (Preserves (MembersInv K)) (Group.swapMember changed remove add) := by
  intro s u s' h hs
  rcases Group.swapMember_ok h with rfl | ⟨location, _, hremove, hadd, h⟩
  · exact hs
  · refine hchanged _ _ _ h (hs.putActive (pairwise_set hs.active (lt_length_of_ok hremove) ?_))
    exact notMem_of_searchActive hs.toInOrder hadd

theorem resetMembers_membersInv (hmembers : members.Nodup) :
    Respects (Preserves (MembersInv K)) (Group.resetMembers changed env members) := by
  intro s u s' h hs
  obtain ⟨s₁, hrun, rfl⟩ := Group.resetMembers_ok h
  refine (hchanged _ _ _ hrun hs).putActive ((pairwise_sortOn_iff place members).mpr ?_)
  exact (List.nodup_map_iff place_injective).mpr hmembers

theorem abdicateMembership_membersInv (origin : Origin) :
    Respects (Preserves (MembersInv K)) (Group.abdicateMembership changed env origin) := by
  intro s u s' h hs
  obtain ⟨did, location, -, -, h⟩ := Group.abdicateMembership_ok h
  exact hchanged _ _ _ h (hs.putActive (hs.active.filter _))

end Changes

/-! ## Motions -/

section Motions

variable {K : Set IdentityId} {s : Storage} {env : Env} {execute : Call → Dispatch Unit}

theorem MembersInv.take (hs : MembersInv K s) (proposal : Hash) :
    MembersInv K (Committee.setProposalOf proposal none s) := by
  refine hs.of_group rfl fun proposal' motion h => ?_
  by_cases heq : proposal' = proposal
  · simp [Committee.setProposalOf, heq] at h
  · simp only [Committee.setProposalOf, Storage.mapCommittee_committee,
      Function.update_of_ne heq] at h
    exact hs.motions proposal' motion h

variable (hexecute : ∀ call : Call, call.All (Careful K) →
  Respects (Preserves (MembersInv K)) (execute call))
include hexecute

theorem runMotion_membersInv (hcall : call.All (Careful K)) :
    Respects (Preserves (MembersInv K)) (Committee.runMotion execute call) := by
  intro s u s' h hs
  rcases Committee.runMotion_ok h with rfl | h
  · exact hs
  · exact hexecute call hcall h hs

theorem executeIfPassed_membersInv (proposal : Hash) :
    Respects (Preserves (MembersInv K)) (Committee.executeIfPassed execute proposal) := by
  apply Committee.executeIfPassed_preserves
  · exact fun s hs => hs.of_group rfl hs.motions
  · exact fun s _ hs => hs.of_group rfl hs.motions
  · exact fun s hs => hs.take proposal
  · exact fun s s' call hs hcall h => hexecute call (hs.motions proposal call hcall) h
      (hs.take proposal)

theorem changeMembersSorted_membersInv (incoming outgoing new : List IdentityId) :
    Respects (Preserves (MembersInv K))
      (Committee.changeMembersSorted execute incoming outgoing new) := by
  apply Committee.changeMembersSorted_respects
  · exact fun s _ hs => hs.of_group rfl hs.motions
  · exact fun s _ hs => hs.of_group rfl hs.motions
  · exact fun s _ _ _ _ _ _ hs => hs.of_group rfl hs.motions
  · exact executeIfPassed_membersInv hexecute

theorem membershipChanged_membersInv (inst : Instance) (incoming outgoing new : List IdentityId) :
    Respects (Preserves (MembersInv K))
      (membershipChanged inst execute incoming outgoing new) := by
  cases inst with
  | cddProviders => exact .pure ()
  | governanceCommittee | specialCommittee =>
    exact changeMembersSorted_membersInv hexecute incoming outgoing new

theorem vote_membersInv (origin : Origin) (proposal : Hash) (index : ℕ) (approve : Bool) :
    Respects (Preserves (MembersInv K))
      (Committee.vote execute env origin proposal index approve) := by
  intro s u s' h hs
  obtain ⟨did, v, -, -, -, -, -, h⟩ := Committee.vote_ok h
  exact executeIfPassed_membersInv hexecute proposal h (hs.of_group rfl hs.motions)

theorem voteOrPropose_membersInv (origin : Origin) (approve : Bool) (hcall : call.All (Careful K)) :
    Respects (Preserves (MembersInv K))
      (Committee.voteOrPropose execute env origin approve call) := by
  intro s u s' h hs
  rcases Committee.voteOrPropose_ok h with ⟨index, h⟩ | ⟨-, h⟩
  · exact vote_membersInv hexecute origin _ index approve h hs
  · obtain ⟨did, -, -, -, h | rfl⟩ := Committee.propose_ok h
    · exact runMotion_membersInv hexecute hcall h hs
    · refine hs.of_group rfl fun proposal motion h => ?_
      by_cases heq : proposal = env.hashOf call
      · simp only [Committee.insertProposal, Storage.mapCommittee_committee, heq,
          Function.update_self, Option.some_inj] at h
        exact h ▸ hcall
      · simp only [Committee.insertProposal, Storage.mapCommittee_committee,
          Function.update_of_ne heq] at h
        exact hs.motions proposal motion h

end Motions

/-! ## Calls -/

section Calls

variable {K : Set IdentityId} {env : Env} {inst : Instance} {execute : Call → Dispatch Unit}

theorem dispatchWith_membersInv
    (hexecute : ∀ call : Call, call.All (Careful K) →
      Respects (Preserves (MembersInv K)) (execute call))
    (origin : Origin) (call : Call) (hcall : call.All (Careful K)) :
    Respects (Preserves (MembersInv K)) (dispatchWith inst env execute origin call) := by
  have hchanged := membershipChanged_membersInv hexecute inst
  refine dispatchWith_rule (P := Call.All (Careful K)) (fun _ _ h => Call.all_of_batch h)
    ?_ (fun call x hcall hruns => ?_) call hcall
  · rintro s _ ⟨_, _, _, _, -, rfl⟩ hs
    exact ⟨⟨hs.active, hs.inactive⟩, hs.known, hs.motions⟩
  cases hruns with
  | disableMember _ who expiry deactivation =>
    rw [Call.All] at hcall
    · exact disableMember_membersInv hchanged hcall
    all_goals nofun
  | addMember _ who => exact addMember_membersInv hchanged who
  | removeMember _ who =>
    rw [Call.All] at hcall
    · exact baseRemoveMember_membersInv hchanged hcall
    all_goals nofun
  | swapMember _ remove add => exact swapMember_membersInv hchanged remove add
  | resetMembers _ members =>
    rw [Call.All] at hcall
    · exact resetMembers_membersInv hchanged hcall
    all_goals nofun
  | abdicateMembership => exact abdicateMembership_membersInv hchanged origin
  | voteOrPropose approve motion =>
    rw [Call.All] at hcall
    exact voteOrPropose_membersInv hexecute origin approve hcall
  | vote proposal index approve => exact vote_membersInv hexecute origin proposal index approve

theorem executeMotion_membersInv (depth : ℕ) (call : Call) (hcall : call.All (Careful K)) :
    Respects (Preserves (MembersInv K)) (executeMotion inst env depth call) := by
  induction depth generalizing call with
  | zero => exact .fail _
  | succ depth ih => exact dispatchWith_membersInv ih .endorsed call hcall

/-- **Careful calls keep the lists in order**, whatever motions they set off. -/
theorem dispatch_membersInv (depth : ℕ) (origin : Origin) (hcall : call.All (Careful K)) :
    Respects (Preserves (MembersInv K)) (dispatch inst env depth origin call) :=
  dispatchWith_membersInv (executeMotion_membersInv depth) origin call hcall

variable {s s' : Storage} {depth : ℕ} {origin : Origin}

theorem resetMembers_inOrder_iff
    (h : dispatch inst env depth origin (.resetMembers members) s = (.ok (), s')) :
    s'.group.activeMembers.Pairwise (place · < place ·) ↔ members.Nodup := by
  simp only [dispatch, dispatchWith, run_ok] at h
  obtain ⟨s₁, -, rfl⟩ := Group.resetMembers_ok h.2
  exact (pairwise_sortOn_iff place members).trans (List.nodup_map_iff place_injective)

theorem removeMember_inOrder_iff (hs : InOrder s)
    (h : dispatch inst env depth origin (.removeMember who) s = (.ok (), s'))
    (hwho : who ∉ s.group.activeMembers) :
    s'.group.inactiveMembers.Pairwise (fun a b => place a.id < place b.id) ↔
      RemovesFromEnd who s := by
  simp only [dispatch, dispatchWith, run_ok] at h
  rcases Group.baseRemoveMember_ok h.2 with h | ⟨-, position, hsearch, rfl⟩
  · obtain ⟨location, hfound, -⟩ := Group.baseRemoveActiveMember_ok h
    exact absurd (mem_of_ok place_injective hfound) hwho
  · have hiff := pairwise_swapRemove_iff hs.inactive (lt_length_of_ok hsearch)
    refine hiff.trans ⟨fun hlen position' hsearch' => ?_, fun hend => hend position hsearch⟩
    rw [hsearch] at hsearch'
    exact Except.ok.inj hsearch' ▸ hlen

/-- A removal from the end keeps the lists in order, whatever motions it sets off. -/
theorem removeMember_inOrder (hend : RemovesFromEnd who s)
    (h : dispatch inst env depth origin (.removeMember who) s = (.ok (), s'))
    (hs : MembersInv K s) : InOrder s' := by
  simp only [dispatch, dispatchWith, run_ok] at h
  rcases Group.baseRemoveMember_ok h.2 with h | ⟨-, position, hsearch, rfl⟩
  · have hexecute : ∀ call : Call, call.All (Careful K) →
        Respects (Preserves (MembersInv K)) (executeMotion inst env depth call) :=
      executeMotion_membersInv depth
    have hchanged := membershipChanged_membersInv hexecute inst
    exact (baseRemoveActiveMember_membersInv hchanged who h hs).toInOrder
  · refine ⟨hs.active, (pairwise_swapRemove_iff hs.inactive (lt_length_of_ok hsearch)).mpr ?_⟩
    exact hend position hsearch

end Calls

/-! ## Runs -/

section Runs

variable {inst : Instance} {s : Storage} {a : Action}

theorem step_inOrder (ha : KeepsOrder s a) (hs : InOrder s) : InOrder (step inst a s) := by
  cases a with
  | nextBlock elapsed => exact ⟨hs.active, hs.inactive⟩
  | extrinsic env depth origin call =>
    rcases step_extrinsic inst env depth origin call s with heq | hstep
    · rwa [heq]
    · obtain ⟨K, hknown, hmotions, hcall | ⟨who, rfl, hend⟩⟩ := ha
      · exact (dispatch_membersInv depth origin hcall hstep ⟨hs, hknown, hmotions⟩).toInOrder
      · exact removeMember_inOrder hend hstep ⟨hs, hknown, hmotions⟩

end Runs

/-- **The members of a group are in order** in every run of steps that keep them so, from members
that are named once. Then a search by halving finds what a linear search finds. From there, a reset
leaves the active members in order if and only if it names nobody twice, and the removal of an
inactive member leaves these in order if and only if it is one of the last two. -/
theorem members_in_order {inst : Instance} {members : List IdentityId} {limit : ℕ}
    {threshold : ℕ × ℕ} {s : Storage} (hmembers : members.Nodup)
    (h : TransitionSystem.ReachableBy (step inst) KeepsOrder (genesis members limit threshold) s) :
    s.group.activeMembers.Pairwise (place · < place ·) ∧
    s.group.inactiveMembers.Pairwise (fun a b => place a.id < place b.id) ∧
    (∀ who, (Group.searchActive who s).toOption = s.group.activeMembers.findIdx? (· = who)) ∧
    (∀ who, Group.isMember who s = (Group.searchActive who s).isOk) ∧
    (∀ who, (Group.searchInactive who s.group.inactiveMembers).toOption =
      s.group.inactiveMembers.findIdx? (·.id = who)) ∧
    (∀ env depth origin new s',
      dispatch inst env depth origin (.resetMembers new) s = (.ok (), s') →
      (s'.group.activeMembers.Pairwise (place · < place ·) ↔ new.Nodup)) ∧
    ∀ env depth origin who s',
      dispatch inst env depth origin (.removeMember who) s = (.ok (), s') →
      who ∉ s.group.activeMembers →
      (s'.group.inactiveMembers.Pairwise (fun a b => place a.id < place b.id) ↔
        RemovesFromEnd who s) := by
  have hs : InOrder s := h.invariant InOrder 
    ⟨(pairwise_sortOn_iff place members).mpr ((List.nodup_map_iff place_injective).mpr hmembers),
      .nil⟩ fun s a hs ha => step_inOrder ha hs
  have hactive : ∀ who, (Group.searchActive who s).toOption =
      s.group.activeMembers.findIdx? (· = who) := by
    intro who
    have hsearch := binarySearch_eq_findIdx? place hs.active (place who)
    simp only [place_injective.eq_iff] at hsearch
    exact hsearch
  refine ⟨hs.active, hs.inactive, hactive, fun who => ?_, fun who => ?_,
    fun env depth origin new s' hreset => resetMembers_inOrder_iff hreset,
    fun env depth origin who s' hremove hwho => removeMember_inOrder_iff hs hremove hwho⟩
  · cases hsearch : Group.searchActive who s with
    | ok i =>
      have hmem := mem_of_ok place_injective hsearch
      simpa [Group.isMember, Except.isOk, Except.toBool] using hmem
    | error i =>
      have hnot := notMem_of_searchActive hs hsearch
      simpa [Group.isMember, Except.isOk, Except.toBool] using hnot
  · have hsearch := binarySearch_eq_findIdx? (fun m : InactiveMember => place m.id)
      hs.inactive (place who)
    simp only [place_injective.eq_iff] at hsearch
    exact hsearch

/-- Four providers, three of whom are disabled. -/
def disabledRun : List Action :=
  [.calls .root (.disableMember ⟨1⟩ none none), .calls .root (.disableMember ⟨2⟩ none none),
    .calls .root (.disableMember ⟨3⟩ none none)]

theorem along_disabledRun : TransitionSystem.Along (step .cddProviders) KeepsOrder
    (genesis [⟨4⟩, ⟨2⟩, ⟨1⟩, ⟨3⟩] 10 (1, 2)) disabledRun := by
  have hstep : ∀ s who, (∀ proposal, s.committee.proposalOf proposal = none) →
      KeepsOrder s (.calls .root (.disableMember who none none)) := by
    intro s who hnone
    refine ⟨Set.univ, fun _ _ => trivial, fun proposal motion h => ?_, .inl ?_⟩
    · rw [hnone] at h
      cases h
    · simp [Call.All, Careful]
  exact ⟨hstep _ _ fun _ => rfl, hstep _ _ fun _ => rfl, hstep _ _ fun _ => rfl, trivial⟩

/-- Of three inactive members the second is removed, and the others are found. To remove the first
would leave them out of order. -/
theorem members_in_order_removed :
    let s := TransitionSystem.run (step .cddProviders)
      (genesis [⟨4⟩, ⟨2⟩, ⟨1⟩, ⟨3⟩] 10 (1, 2)) disabledRun
    let s₁ := step .cddProviders (.calls .root (.removeMember ⟨2⟩)) s
    let s₂ := step .cddProviders (.calls .root (.removeMember ⟨1⟩)) s
    s₁.group.inactiveMembers.map InactiveMember.id = [⟨1⟩, ⟨3⟩] ∧
      (∀ who, (Group.searchInactive who s₁.group.inactiveMembers).toOption =
        s₁.group.inactiveMembers.findIdx? (·.id = who)) ∧
      s₂.group.inactiveMembers.map InactiveMember.id = [⟨3⟩, ⟨2⟩] ∧
      ¬ s₂.group.inactiveMembers.Pairwise fun a b => place a.id < place b.id := by
  intro s s₁ s₂
  have hnodup : [(⟨4⟩ : IdentityId), ⟨2⟩, ⟨1⟩, ⟨3⟩].Nodup := by decide
  have hend : KeepsOrder s (.calls .root (.removeMember ⟨2⟩)) := by
    refine ⟨Set.univ, fun _ _ => trivial, nofun, .inr ⟨⟨2⟩, rfl, ?_⟩⟩
    have hsearch : Group.searchInactive ⟨2⟩ s.group.inactiveMembers = .ok 1 := by decide +kernel
    have hlen : s.group.inactiveMembers.length = 3 := by decide +kernel
    intro position hposition
    rw [hsearch] at hposition
    cases hposition
    exact hlen.le
  have hids : s₁.group.inactiveMembers.map InactiveMember.id = [⟨1⟩, ⟨3⟩] := by decide +kernel
  have hids' : s₂.group.inactiveMembers.map InactiveMember.id = [⟨3⟩, ⟨2⟩] := by decide +kernel
  have hs₁ : TransitionSystem.ReachableBy (step .cddProviders) KeepsOrder
      (genesis [⟨4⟩, ⟨2⟩, ⟨1⟩, ⟨3⟩] 10 (1, 2)) s₁ := by
    refine ⟨disabledRun ++ [.calls .root (.removeMember ⟨2⟩)], ?_, rfl⟩
    exact (TransitionSystem.along_append _).mpr ⟨along_disabledRun, hend, trivial⟩
  refine ⟨hids, (members_in_order hnodup hs₁).2.2.2.2.1, hids', ?_⟩
  intro hsorted
  have hplaces : (s₂.group.inactiveMembers.map InactiveMember.id).Pairwise
      fun a b => place a < place b := List.pairwise_map.mpr hsorted
  rw [hids'] at hplaces
  exact absurd hplaces (by decide)

/-- A reset that names someone twice leaves them twice among the members. The removal of the first
of four inactive members puts the last in its place, where the search no longer finds it, so that
it can not be removed any more. -/
theorem members_out_of_order :
    let reset := step .governanceCommittee (.calls .root (.resetMembers [⟨3⟩, ⟨1⟩, ⟨3⟩]))
      (genesis [⟨1⟩, ⟨2⟩] 10 (1, 2))
    let s := TransitionSystem.run (step .cddProviders)
      (genesis [⟨4⟩, ⟨2⟩, ⟨1⟩, ⟨3⟩] 10 (1, 2))
      (disabledRun ++ [.calls .root (.disableMember ⟨4⟩ none none),
        .calls .root (.removeMember ⟨1⟩)])
    reset.group.activeMembers = [⟨1⟩, ⟨3⟩, ⟨3⟩] ∧
      s.group.inactiveMembers.map InactiveMember.id = [⟨4⟩, ⟨2⟩, ⟨3⟩] ∧
      Group.searchInactive ⟨4⟩ s.group.inactiveMembers = .error 3 ∧
      (dispatch .cddProviders .consenting 1 .root (.removeMember ⟨4⟩) s).1 =
        .error .noSuchMember := by
  decide +kernel

end Governance

end Polymesh
