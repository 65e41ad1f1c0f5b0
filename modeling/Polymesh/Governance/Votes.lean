import Polymesh.Governance.Membership

/-!
# The votes of a committee are those of its members

When members leave, the committee goes through its motions and removes their votes. Of each motion
it removes one vote only, so when several leave at once, votes of some may stay behind; and a motion
that passes in the middle of this and changes members itself finds votes that are yet to be removed,
or a group that does not know the new members yet. Otherwise every vote on an open motion is that of
a member, and motions pass by votes of members.
-/

namespace Polymesh

open Transactional Tx SortedLists
open Function (update update_of_ne update_self)
open TransitionSystem (along_append run run_append)

namespace Governance

/-! ## Voters -/

/-- All who have voted on a motion. -/
def PolymeshVotes.voters (v : PolymeshVotes) : List IdentityId := v.ayes ++ v.nays

namespace Committee

variable {id did : IdentityId} {l l' : List IdentityId} {v v' : PolymeshVotes}

theorem withoutVote_perm (h : withoutVote id l = some l') : (id :: l').Perm l := by
  obtain ⟨i, hi, rfl⟩ := Option.map_eq_some_iff.mp h
  apply swapRemove_perm
  obtain ⟨hlt, heq, -⟩ := List.idxOf?_eq_some_iff.mp hi
  rw [List.getElem?_eq_getElem hlt, heq]

theorem withoutVote_eq_none : withoutVote id l = none ↔ id ∉ l := by
  rw [withoutVote, Option.map_eq_none_iff, List.idxOf?_eq_none_iff]

theorem retract_perm (h : retract id v = some v') : (id :: v'.voters).Perm v.voters := by
  unfold retract at h
  split at h
  case h_1 ayes hayes =>
    cases h
    exact (withoutVote_perm hayes).append_right v.nays
  case h_2 hayes =>
    obtain ⟨nays, hnays, rfl⟩ := Option.map_eq_some_iff.mp h
    exact List.perm_middle.symm.trans ((withoutVote_perm hnays).append_left v.ayes)

theorem retract_eq_none : retract id v = none ↔ id ∉ v.voters := by
  rw [PolymeshVotes.voters, List.mem_append, not_or]
  unfold retract
  split
  case h_1 ayes hayes =>
    have hmem : id ∈ v.ayes := (withoutVote_perm hayes).subset List.mem_cons_self
    simp [hmem]
  case h_2 hayes =>
    rw [Option.map_eq_none_iff, withoutVote_eq_none]
    exact ⟨fun h => ⟨withoutVote_eq_none.mp hayes, h⟩, And.right⟩

theorem getD_withoutVote (did : IdentityId) (hl : l.Nodup) :
    ((withoutVote did l).getD l).Nodup ∧ did ∉ (withoutVote did l).getD l ∧
      (withoutVote did l).getD l ⊆ l := by
  cases h : withoutVote did l with
  | none => exact ⟨hl, withoutVote_eq_none.mp h, List.Subset.refl l⟩
  | some l' =>
    have hperm := withoutVote_perm h
    obtain ⟨hnot, hnodup⟩ := List.nodup_cons.mp (hperm.nodup_iff.mpr hl)
    exact ⟨hnodup, hnot, fun x hx => hperm.subset (List.mem_cons_of_mem did hx)⟩

theorem append_cast {main other : List IdentityId} (hmain : main.Nodup) (hother : other.Nodup)
    (hdisjoint : main.Disjoint other) (hdid : did ∉ main) :
    (main ++ [did] ++ (withoutVote did other).getD other).Nodup ∧
      ∀ id ∈ main ++ [did] ++ (withoutVote did other).getD other,
        id = did ∨ id ∈ main ∨ id ∈ other := by
  obtain ⟨hnodup, hnot, hsub⟩ := getD_withoutVote did hother
  constructor
  · rw [List.append_assoc, List.singleton_append, List.nodup_middle, List.nodup_cons,
      List.mem_append, not_or]
    refine ⟨⟨hdid, hnot⟩, List.nodup_append'.mpr ⟨hmain, hnodup, ?_⟩⟩
    exact fun id hid hid' => hdisjoint hid (hsub hid')
  · intro id hid
    rw [List.mem_append, List.mem_append, List.mem_singleton] at hid
    rcases hid with (hid | hid) | hid
    · exact .inr (.inl hid)
    · exact .inl hid
    · exact .inr (.inr (hsub hid))

theorem castVote_voters {approve : Bool} (hv : v.voters.Nodup)
    (hdid : did ∉ if approve then v.ayes else v.nays) :
    (castVote did approve v).voters.Nodup ∧
      ∀ id ∈ (castVote did approve v).voters, id = did ∨ id ∈ v.voters := by
  obtain ⟨hayes, hnays, hdisjoint⟩ := List.nodup_append'.mp hv
  simp only [PolymeshVotes.voters, List.mem_append]
  cases approve with
  | true =>
    obtain ⟨hnodup, hmem⟩ := append_cast hayes hnays hdisjoint hdid
    exact ⟨hnodup, fun id hid => hmem id (List.mem_append.mpr hid)⟩
  | false =>
    obtain ⟨hnodup, hmem⟩ := append_cast hnays hayes hdisjoint.symm hdid
    refine ⟨List.perm_append_comm.nodup_iff.mp hnodup, fun id hid => ?_⟩
    exact (hmem id (List.mem_append.mpr hid.symm)).imp_right Or.symm

theorem voting_setVoting (proposal : Hash) (v : Option PolymeshVotes) (s : Storage) :
    (setVoting proposal v s).committee.voting = update s.committee.voting proposal v :=
  rfl

/-- **The removal of votes from a motion is complete** if and only if at most one of those who leave
has voted on it. -/
theorem removeAnyVoteFrom_iff {s : Storage} {proposal : Hash} (outgoing : List IdentityId)
    (hv : s.committee.voting proposal = some v) (hnodup : v.voters.Nodup) :
    (∀ v', (removeAnyVoteFrom proposal outgoing s).2.committee.voting proposal = some v' →
      ∀ id ∈ outgoing, id ∉ v'.voters) ↔
    {id | id ∈ outgoing ∧ id ∈ v.voters}.Subsingleton := by
  rcases removeAnyVoteFrom_cases s proposal outgoing with
    ⟨hnone, heq⟩ | ⟨id, hid, w, w', hw, hretract, heq⟩
  · have hout : ∀ id ∈ outgoing, id ∉ v.voters := by
      intro id hid
      have h := hnone id hid
      rw [hv] at h
      exact retract_eq_none.mp h
    rw [heq, hv]
    constructor
    · rintro - a ⟨ha, hav⟩
      exact absurd hav (hout a ha)
    · rintro - v' hv' id hid
      exact Option.some.inj hv' ▸ hout id hid
  · obtain rfl : v = w := Option.some.inj (hv.symm.trans hw)
    have hperm := retract_perm hretract
    obtain ⟨hnot, -⟩ := List.nodup_cons.mp (hperm.nodup_iff.mpr hnodup)
    have hvoter : id ∈ v.voters := hperm.subset List.mem_cons_self
    rw [heq, voting_setVoting, update_self]
    constructor
    · intro hgone
      -- every other one that leaves would still be there
      have honly : ∀ a, a ∈ outgoing ∧ a ∈ v.voters → a = id := by
        rintro a ⟨ha, hav⟩
        rcases List.mem_cons.mp (hperm.mem_iff.mpr hav) with h | h
        · exact h
        · exact absurd h (hgone w' rfl a ha)
      exact fun a ha b hb => (honly a ha).trans (honly b hb).symm
    · intro hone v' hv' a ha hav
      cases hv'
      have haid : a = id :=
        hone ⟨ha, hperm.subset (List.mem_cons_of_mem id hav)⟩ ⟨hid, hvoter⟩
      exact hnot (haid ▸ hav)

end Committee

/-! ## Motions that change no members -/

/-- The call is no change of a single member. -/
def Settled : Call → Prop
  | .addMember _ | .removeMember _ | .swapMember _ _ | .disableMember _ _ _ => False
  | _ => True

/-- The call is no reset of the members. -/
def NoReset : Call → Prop
  | .resetMembers _ => False
  | _ => True

/-- A call by which the committee changes none of its members, whether as a motion or in one. -/
def Calm (inst : Instance) (call : Call) : Prop := inst.managed .endorsed → call.All Settled

variable {inst : Instance} {env : Env} {execute : Call → Dispatch Unit} {origin : Origin}
  {call : Call} {s s' : Storage} {u : Unit} {proposal : Hash}

theorem Calm.of_batch {mode : BatchMode} {calls : List Call} (h : Calm inst (.batch mode calls)) :
    ∀ call ∈ calls, Calm inst call :=
  fun call hmem hmanaged => Call.all_of_batch (h hmanaged) call hmem

theorem Calm.not_managed (h : Calm inst call) (hcall : ¬ call.All Settled) :
    ¬ inst.managed .endorsed := fun hmanaged => hcall (h hmanaged)

instance : Std.Refl (Adjusted origin) := ⟨fun _ => ⟨_, _, _, _, fun _ => rfl, rfl⟩⟩

instance : IsTrans Storage (Adjusted origin) where
  trans := by
    rintro s _ _ ⟨_, _, _, _, hlimit, rfl⟩ ⟨limit, threshold, coordinator, expiry, hlimit', rfl⟩
    exact ⟨limit, threshold, coordinator, expiry, fun h => (hlimit' h).trans (hlimit h), rfl⟩

/-- **A calm motion adjusts settings only**: the committee has no vote, and does not reset
members. -/
theorem dispatchWith_calm (call : Call) (hcall : Calm inst call) :
    Respects (Adjusted .endorsed) (dispatchWith inst env execute .endorsed call) := by
  refine dispatchWith_rule (P := Calm inst) (fun _ _ h => h.of_batch) (fun _ _ h => h)
    (fun call x hcalm hruns => ?_) call hcall
  cases hruns with
  | disableMember hm | addMember hm | removeMember hm | swapMember hm =>
    exact absurd hm (hcalm.not_managed (by simp [Call.All, Settled]))
  | resetMembers hm => exact absurd hm inst.not_reset_endorsed
  | abdicateMembership =>
    intro s u s' h
    obtain ⟨_, _, hne, -⟩ := Group.abdicateMembership_ok h
    exact absurd rfl hne
  | voteOrPropose approve motion =>
    intro s u s' h
    exact absurd rfl (Committee.ne_endorsed_of_voteOrPropose h)
  | vote proposal index approve =>
    intro s u s' h
    obtain ⟨_, _, -, hne, -⟩ := Committee.vote_ok h
    exact absurd rfl hne

/-- Calm motions are run so that they adjust settings only. -/
def RunsCalm (inst : Instance) (execute : Call → Dispatch Unit) : Prop :=
  ∀ motion, Calm inst motion → Respects (Adjusted .endorsed) (execute motion)

theorem executeMotion_runsCalm (inst : Instance) (env : Env) (depth : ℕ) :
    RunsCalm inst (executeMotion inst env depth) := by
  intro motion hcalm
  cases depth with
  | zero => exact .fail _
  | succ depth => exact dispatchWith_calm motion hcalm

/-! ## The invariant -/

/-- The voters of every open motion are members, or in `X` while votes are being removed, and none
of them is outside of `Y`; every motion that has passed was approved by members; and all open
motions are calm. -/
structure VotesInv (inst : Instance) (X Y : Hash → Set IdentityId)
    (members active : List IdentityId) (s : Storage) : Prop where
  members_eq : s.committee.members = members
  active_eq : s.group.activeMembers = active
  votes : ∀ proposal v, s.committee.voting proposal = some v →
    proposal ∈ s.committee.proposals ∧ v.voters.Nodup ∧
      ∀ id ∈ v.voters, (id ∈ members ∨ id ∈ X proposal) ∧ id ∈ Y proposal
  decided : ∀ final ∈ s.committee.finalVotes, ∀ id ∈ final.ayes, id ∈ final.members
  calm : ∀ proposal motion, s.committee.proposalOf proposal = some motion → Calm inst motion

/-- The invariant while no votes are being removed. -/
def MembersVote (inst : Instance) (s : Storage) : Prop :=
  ∃ members, VotesInv inst (fun _ => ∅) (fun _ => Set.univ) members members s

section Invariant

variable {X X' Y : Hash → Set IdentityId} {members active : List IdentityId}

namespace VotesInv

theorem adjusted (hs : VotesInv inst X Y members active s) (h : Adjusted origin s s') :
    VotesInv inst X Y members active s' := by
  obtain ⟨_, _, _, _, -, rfl⟩ := h
  exact ⟨hs.members_eq, hs.active_eq, hs.votes, hs.decided, hs.calm⟩

theorem clear (hs : VotesInv inst X Y members active s) (proposal : Hash) :
    VotesInv inst X Y members active (Committee.clearProposal proposal s) := by
  refine ⟨hs.members_eq, hs.active_eq, fun proposal' v hv => ?_, hs.decided, hs.calm⟩
  by_cases heq : proposal' = proposal
  · simp [Committee.clearProposal, heq] at hv
  · simp only [Committee.clearProposal, Storage.mapCommittee_committee,
      update_of_ne heq] at hv
    obtain ⟨hlisted, hvotes⟩ := hs.votes proposal' v hv
    exact ⟨List.mem_filter.mpr ⟨hlisted, decide_eq_true heq⟩, hvotes⟩

theorem take (hs : VotesInv inst X Y members active s) (proposal : Hash) :
    VotesInv inst X Y members active (Committee.setProposalOf proposal none s) := by
  refine ⟨hs.members_eq, hs.active_eq, hs.votes, hs.decided, fun proposal' motion h => ?_⟩
  by_cases heq : proposal' = proposal
  · simp [Committee.setProposalOf, heq] at h
  · simp only [Committee.setProposalOf, Storage.mapCommittee_committee,
      update_of_ne heq] at h
    exact hs.calm proposal' motion h

theorem note (hs : VotesInv inst X Y members active s)
    (hvoters : ∀ v, s.committee.voting proposal = some v → ∀ id ∈ v.voters, id ∈ members)
    (approved : Bool) :
    VotesInv inst X Y members active (Committee.noteFinalVotes approved proposal s) := by
  refine ⟨hs.members_eq, hs.active_eq, hs.votes, fun final hfinal id hid => ?_, hs.calm⟩
  rcases List.mem_append.mp hfinal with hfinal | hfinal
  · exact hs.decided final hfinal id hid
  · obtain ⟨v, hv, rfl⟩ := List.mem_map.mp hfinal
    change id ∈ s.committee.members
    rw [hs.members_eq]
    exact hvoters v (Option.mem_toList.mp hv) id (List.mem_append_left _ hid)

theorem setVoting {v : PolymeshVotes} (hs : VotesInv inst X Y members active s)
    (hlisted : proposal ∈ s.committee.proposals) (hnodup : v.voters.Nodup)
    (hv : ∀ id ∈ v.voters, (id ∈ members ∨ id ∈ X' proposal) ∧ id ∈ Y proposal)
    (hX : ∀ proposal', proposal' ≠ proposal → X proposal' ⊆ X' proposal') :
    VotesInv inst X' Y members active (Committee.setVoting proposal (some v) s) := by
  refine ⟨hs.members_eq, hs.active_eq, fun proposal' v' hv' => ?_, hs.decided, hs.calm⟩
  by_cases heq : proposal' = proposal
  · subst heq
    rw [Committee.voting_setVoting, update_self] at hv'
    cases hv'
    exact ⟨hlisted, hnodup, hv⟩
  · rw [Committee.voting_setVoting, update_of_ne heq] at hv'
    obtain ⟨hlisted', hnodup', hvoters⟩ := hs.votes proposal' v' hv'
    refine ⟨hlisted', hnodup', fun id hid => ?_⟩
    exact (hvoters id hid).imp_left fun h => h.imp_right fun hx => hX proposal' heq hx

/-- **A motion is looked at**, and if it passes it is run. -/
theorem executeIfPassed (hs : VotesInv inst X Y members active s)
    (hvoters : ∀ v, s.committee.voting proposal = some v → ∀ id ∈ v.voters, id ∈ members)
    (hexecute : RunsCalm inst execute)
    (h : Committee.executeIfPassed execute proposal s = (.ok u, s')) :
    VotesInv inst X Y members active s' := by
  have htaken approved := (hs.note hvoters approved).take proposal
  rcases Committee.executeIfPassed_cases h with
    rfl | rfl | ⟨approved, rfl⟩ | ⟨call, s₁, hcall, hrun, rfl⟩
  · exact hs
  · exact (hs.clear proposal).take proposal
  · exact (htaken approved).clear proposal
  · exact ((htaken true).adjusted (hexecute call (hs.calm proposal call hcall) hrun)).clear proposal

end VotesInv

end Invariant

/-! ## Changes of members -/

/-- The votes that are yet to be removed: those of who leaves, on the motions that are left. -/
def pending (outgoing : List IdentityId) (rest : List Hash) (proposal : Hash) : Set IdentityId :=
  {id | id ∈ outgoing ∧ proposal ∈ rest}

/-- At most one of those who leave may have voted on a motion. -/
def OneVoter (outgoing : List IdentityId) (Y : Hash → Set IdentityId) : Prop :=
  ∀ proposal, {id | id ∈ outgoing ∧ id ∈ Y proposal}.Subsingleton

section Changes

variable {Y : Hash → Set IdentityId} {members active incoming outgoing new : List IdentityId}
  {rest : List Hash}

theorem voters_of_removeAnyVoteFrom (hone : OneVoter outgoing Y)
    (hs : VotesInv inst (pending outgoing rest) Y members active s) (proposal : Hash)
    (v : PolymeshVotes)
    (hv : (Committee.removeAnyVoteFrom proposal outgoing s).2.committee.voting proposal = some v) :
    proposal ∈ s.committee.proposals ∧ v.voters.Nodup ∧
      ∀ id ∈ v.voters, id ∈ members ∧ id ∈ Y proposal := by
  -- the votes were there before
  obtain ⟨w, hw, hsub, hnodup⟩ : ∃ w, s.committee.voting proposal = some w ∧
      v.voters ⊆ w.voters ∧ (w.voters.Nodup → v.voters.Nodup) := by
    rcases Committee.removeAnyVoteFrom_cases s proposal outgoing with
      ⟨-, heq⟩ | ⟨id, -, w, w', hw, hretract, heq⟩
    · rw [heq] at hv
      exact ⟨v, hv, List.Subset.refl _, fun h => h⟩
    · rw [heq, Committee.voting_setVoting, update_self] at hv
      cases hv
      have hperm := Committee.retract_perm hretract
      exact ⟨w, hw, fun x hx => hperm.subset (List.mem_cons_of_mem id hx),
        fun h => (List.nodup_cons.mp (hperm.nodup_iff.mpr h)).2⟩
  obtain ⟨hlisted, hwnodup, hvoters⟩ := hs.votes proposal w hw
  have hgone := (Committee.removeAnyVoteFrom_iff outgoing hw hwnodup).mpr
    ((hone proposal).anti fun id hid => ⟨hid.1, (hvoters id hid.2).2⟩) v hv
  refine ⟨hlisted, hnodup hwnodup, fun id hid => ?_⟩
  obtain ⟨hmember, hY⟩ := hvoters id (hsub hid)
  exact ⟨hmember.resolve_right fun hpending => hgone id hpending.1 hid, hY⟩

theorem removeAnyVoteFrom_votesInv (hone : OneVoter outgoing Y)
    (hs : VotesInv inst (pending outgoing (proposal :: rest)) Y members active s) :
    VotesInv inst (pending outgoing rest) Y members active
      (Committee.removeAnyVoteFrom proposal outgoing s).2 := by
  have hself := voters_of_removeAnyVoteFrom hone hs proposal
  have hother : ∀ proposal', proposal' ≠ proposal →
      pending outgoing (proposal :: rest) proposal' ⊆ pending outgoing rest proposal' :=
    fun proposal' hne id hid => ⟨hid.1, List.mem_of_ne_of_mem hne hid.2⟩
  rcases Committee.removeAnyVoteFrom_cases s proposal outgoing with
    ⟨-, heq⟩ | ⟨_, -, w, v, hw, -, heq⟩
  · rw [heq] at hself ⊢
    refine ⟨hs.members_eq, hs.active_eq, fun proposal' v hv => ?_, hs.decided, hs.calm⟩
    by_cases hne : proposal' = proposal
    · subst hne
      obtain ⟨hlisted, hnodup, hvoters⟩ := hself v hv
      exact ⟨hlisted, hnodup, fun id hid => (hvoters id hid).imp_left .inl⟩
    · obtain ⟨hlisted, hnodup, hvoters⟩ := hs.votes proposal' v hv
      exact ⟨hlisted, hnodup, fun id hid =>
        (hvoters id hid).imp_left fun h => h.imp_right fun hx => hother proposal' hne hx⟩
  · rw [heq] at hself ⊢
    obtain ⟨hlisted, hnodup, hvoters⟩ := hself v (update_self ..)
    exact hs.setVoting hlisted hnodup (fun id hid => (hvoters id hid).imp_left .inl) hother

theorem forM_retractVotes_votesInv (hexecute : RunsCalm inst execute) (hone : OneVoter outgoing Y)
    {proposals : List Hash}
    (h : forM proposals (Committee.retractVotes execute outgoing) s = (.ok u, s'))
    (hs : VotesInv inst (pending outgoing proposals) Y members active s) :
    VotesInv inst (fun _ => ∅) Y members active s' := by
  induction proposals generalizing s with
  | nil =>
    rw [forM_nil_ok] at h
    have hnone : pending outgoing [] = fun _ => ∅ := by
      funext proposal
      simp [pending]
    exact h ▸ hnone ▸ hs
  | cons proposal proposals ih =>
    obtain ⟨s₁, hstep, h⟩ := forM_cons_ok.mp h
    refine ih h ?_
    have hremoved := removeAnyVoteFrom_votesInv hone hs
    rcases Committee.retractVotes_ok hstep with ⟨heq, -⟩ | hlook
    · exact heq ▸ hremoved
    · -- the motion passes by votes of members, since those of who leaves are gone
      refine hremoved.executeIfPassed (fun v hv id hid => ?_) hexecute hlook
      exact ((voters_of_removeAnyVoteFrom hone hs proposal v hv).2.2 id hid).1

/-- **The loop over all motions.** -/
theorem changeMembersSorted_votesInv (hexecute : RunsCalm inst execute)
    (hone : OneVoter outgoing Y) (hs : VotesInv inst (fun _ => ∅) Y members active s)
    {g : GroupStorage → GroupStorage} (hnew : ∀ id ∈ members, id ∈ new ∨ id ∈ outgoing)
    (h : Committee.changeMembersSorted execute incoming outgoing new (s.mapGroup g) = (.ok u, s')) :
    VotesInv inst (fun _ => ∅) Y new (g s.group).activeMembers s' := by
  obtain ⟨s₂, hloop, rfl⟩ := Committee.changeMembersSorted_ok h
  have hput : VotesInv inst (pending outgoing s.committee.proposals) Y new
      (g s.group).activeMembers (Committee.putMembers new (s.mapGroup g)) := by
    refine ⟨rfl, rfl, fun proposal v hv => ?_, hs.decided, hs.calm⟩
    obtain ⟨hlisted, hnodup, hvoters⟩ := hs.votes proposal v hv
    refine ⟨hlisted, hnodup, fun id hid => ⟨?_, (hvoters id hid).2⟩⟩
    have hmember := (hvoters id hid).1.resolve_right (Set.notMem_empty id)
    exact (hnew id hmember).imp_right fun hout => ⟨hout, hlisted⟩
  have hs₂ := forM_retractVotes_votesInv hexecute hone hloop hput
  exact ⟨hs₂.members_eq, hs₂.active_eq, hs₂.votes, hs₂.decided, hs₂.calm⟩

theorem membershipChanged_eq (hinst : inst ≠ .cddProviders) :
    membershipChanged inst execute = Committee.changeMembersSorted execute := by
  cases inst with
  | cddProviders => exact absurd rfl hinst
  | governanceCommittee | specialCommittee => rfl

theorem mem_eraseIdx_or_eq {who id : IdentityId} {location : ℕ}
    (hsearch : Group.searchActive who s = .ok location) (hid : id ∈ s.group.activeMembers) :
    id ∈ s.group.activeMembers.eraseIdx location ∨ id = who := by
  obtain ⟨x, hx, hplace⟩ := binarySearch_ok hsearch
  obtain ⟨hlt, rfl⟩ := List.getElem?_eq_some_iff.mp hx
  have hperm := List.getElem_cons_eraseIdx_perm hlt
  rcases List.mem_cons.mp (hperm.mem_iff.mpr hid) with heq | hmem
  · exact .inr (heq.trans (place_injective hplace))
  · exact .inl hmem

variable (hinst : inst ≠ .cddProviders) (hexecute : RunsCalm inst execute)
include hinst hexecute

theorem membershipChanged_votesInv (hone : ∀ a ∈ outgoing, ∀ b ∈ outgoing, a = b)
    (hnew : ∀ id ∈ s.group.activeMembers, id ∈ new ∨ id ∈ outgoing)
    (h : membershipChanged inst execute incoming outgoing new (Group.putActive new s) =
      (.ok u, s')) (hs : MembersVote inst s) : MembersVote inst s' := by
  obtain ⟨members, hs⟩ := hs
  rw [membershipChanged_eq hinst] at h
  rw [hs.active_eq] at hnew
  exact ⟨new, changeMembersSorted_votesInv hexecute (fun _ a ha b hb => hone a ha.1 b hb.1) hs hnew h⟩

theorem addMember_votesInv (who : IdentityId) :
    Respects (Preserves (MembersVote inst))
      (Group.addMember (membershipChanged inst execute) who) := by
  intro s u s' h hs
  obtain ⟨location, -, h⟩ := Group.addMember_ok h
  refine membershipChanged_votesInv hinst hexecute (by simp) (fun id hid => .inl ?_) h hs
  rcases Nat.lt_or_ge s.group.activeMembers.length location with hlt | hle
  · rwa [List.insertIdx_of_length_lt hlt]
  · exact (List.mem_insertIdx hle).mpr (.inr hid)

theorem baseRemoveActiveMember_votesInv (who : IdentityId) :
    Respects (Preserves (MembersVote inst))
      (Group.baseRemoveActiveMember (membershipChanged inst execute) who) := by
  intro s u s' h hs
  obtain ⟨location, hsearch, h⟩ := Group.baseRemoveActiveMember_ok h
  refine membershipChanged_votesInv hinst hexecute (by simp) (fun id hid => ?_) h hs
  exact (mem_eraseIdx_or_eq hsearch hid).imp_right List.mem_singleton.mpr

omit hinst hexecute in
theorem MembersVote.putInactive (hs : MembersVote inst s) (l : List InactiveMember) :
    MembersVote inst (Group.putInactive l s) := by
  obtain ⟨members, hs⟩ := hs
  exact ⟨members, hs.members_eq, hs.active_eq, hs.votes, hs.decided, hs.calm⟩

theorem baseRemoveMember_votesInv (who : IdentityId) :
    Respects (Preserves (MembersVote inst))
      (Group.baseRemoveMember (membershipChanged inst execute) env who) := by
  intro s u s' h hs
  rcases Group.baseRemoveMember_ok h with h | ⟨-, position, -, rfl⟩
  · exact baseRemoveActiveMember_votesInv hinst hexecute who h hs
  · exact hs.putInactive _

theorem disableMember_votesInv (who : IdentityId) (expiry deactivation : Option Moment) :
    Respects (Preserves (MembersVote inst))
      (Group.disableMember (membershipChanged inst execute) who expiry deactivation) := by
  intro s u s' h hs
  obtain ⟨s₁, hremove, rfl⟩ := Group.disableMember_ok h
  exact (baseRemoveActiveMember_votesInv hinst hexecute who hremove hs).putInactive _

theorem swapMember_votesInv (remove add : IdentityId) :
    Respects (Preserves (MembersVote inst))
      (Group.swapMember (membershipChanged inst execute) remove add) := by
  intro s u s' h hs
  rcases Group.swapMember_ok h with rfl | ⟨location, _, hsearch, -, h⟩
  · exact hs
  · refine membershipChanged_votesInv hinst hexecute (by simp) (fun id hid => ?_) h hs
    rcases mem_eraseIdx_or_eq hsearch hid with hmem | heq
    · refine .inl ((sortOn_perm _).mem_iff.mpr ?_)
      have hperm := List.set_perm_cons_eraseIdx (lt_length_of_ok hsearch) add
      exact hperm.mem_iff.mpr (List.mem_cons_of_mem add hmem)
    · exact .inr (List.mem_singleton.mpr heq)

theorem abdicateMembership_votesInv (origin : Origin) :
    Respects (Preserves (MembersVote inst))
      (Group.abdicateMembership (membershipChanged inst execute) env origin) := by
  intro s u s' h hs
  obtain ⟨did, location, -, -, h⟩ := Group.abdicateMembership_ok h
  refine membershipChanged_votesInv hinst hexecute (by simp) (fun id hid => ?_) h hs
  by_cases heq : id = did
  · exact .inr (List.mem_singleton.mpr heq)
  · exact .inl (List.mem_filter.mpr ⟨hid, decide_eq_true heq⟩)

end Changes

/-! ## Votes -/

section Calls

theorem vote_votesInv (hexecute : RunsCalm inst execute) (proposal : Hash) (index : ℕ)
    (approve : Bool) :
    Respects (Preserves (MembersVote inst))
      (Committee.vote execute env origin proposal index approve) := by
  rintro s u s' h ⟨members, hs⟩
  obtain ⟨did, v, hdid, -, hv, -, hdup, h⟩ := Committee.vote_ok h
  rw [hs.members_eq] at hdid
  obtain ⟨hlisted, hnodup, hvoters⟩ := hs.votes proposal v hv
  obtain ⟨hnodup', hmem⟩ := Committee.castVote_voters hnodup hdup
  have hcast : VotesInv inst (fun _ => ∅) (fun _ => Set.univ) members members
      (Committee.setVoting proposal (some (Committee.castVote did approve v)) s) := by
    refine hs.setVoting hlisted hnodup' (fun id hid => ?_) fun _ _ => subset_rfl
    rcases hmem id hid with rfl | hid
    · exact ⟨.inl hdid, trivial⟩
    · exact hvoters id hid
  refine ⟨members, hcast.executeIfPassed (fun w hw id hid => ?_) hexecute h⟩
  exact ((hcast.votes proposal w hw).2.2 id hid).1.resolve_right (Set.notMem_empty id)

theorem MembersVote.insert (hs : MembersVote inst s) {did : IdentityId}
    (hdid : did ∈ s.committee.members) (hcall : Calm inst call) :
    MembersVote inst (Committee.insertProposal proposal call did s) := by
  obtain ⟨members, hs⟩ := hs
  rw [hs.members_eq] at hdid
  refine ⟨members, hs.members_eq, hs.active_eq, fun proposal' v hv => ?_, hs.decided,
    fun proposal' motion hmotion => ?_⟩
  · by_cases heq : proposal' = proposal
    · subst heq
      simp only [Committee.insertProposal, Storage.mapCommittee_committee, update_self,
        Option.some_inj] at hv
      subst hv
      refine ⟨List.mem_append_right _ List.mem_cons_self, List.nodup_singleton did, ?_⟩
      intro id hid
      rw [show id = did from List.mem_singleton.mp hid]
      exact ⟨.inl hdid, trivial⟩
    · simp only [Committee.insertProposal, Storage.mapCommittee_committee,
        update_of_ne heq] at hv
      obtain ⟨hlisted, hvotes⟩ := hs.votes proposal' v hv
      exact ⟨List.mem_append_left _ hlisted, hvotes⟩
  · by_cases heq : proposal' = proposal
    · subst heq
      simp only [Committee.insertProposal, Storage.mapCommittee_committee, update_self,
        Option.some_inj] at hmotion
      exact hmotion ▸ hcall
    · simp only [Committee.insertProposal, Storage.mapCommittee_committee,
        update_of_ne heq] at hmotion
      exact hs.calm proposal' motion hmotion

theorem MembersVote.adjusted (hs : MembersVote inst s) (h : Adjusted origin s s') :
    MembersVote inst s' :=
  hs.imp fun _ hs => hs.adjusted h

theorem voteOrPropose_votesInv (hexecute : RunsCalm inst execute) (approve : Bool)
    (hcall : Calm inst call) :
    Respects (Preserves (MembersVote inst))
      (Committee.voteOrPropose execute env origin approve call) := by
  intro s u s' h hs
  rcases Committee.voteOrPropose_ok h with ⟨index, h⟩ | ⟨-, h⟩
  · exact vote_votesInv hexecute _ index approve h hs
  · obtain ⟨did, hdid, -, -, h | rfl⟩ := Committee.propose_ok h
    · rcases Committee.runMotion_ok h with rfl | h
      · exact hs
      · exact hs.adjusted (hexecute call hcall h)
    · exact hs.insert hdid hcall

/-- **A calm call keeps the invariant**, if it resets no members. -/
theorem dispatchWith_votesInv (hinst : inst ≠ .cddProviders) (hexecute : RunsCalm inst execute)
    (call : Call) (hcalm : Calm inst call) (hreset : inst.reset origin → call.All NoReset) :
    Respects (Preserves (MembersVote inst)) (dispatchWith inst env execute origin call) := by
  refine dispatchWith_rule (P := fun call => Calm inst call ∧
      (inst.reset origin → call.All NoReset))
    (fun _ _ h call hmem => ⟨h.1.of_batch call hmem, fun hreset =>
      Call.all_of_batch (h.2 hreset) call hmem⟩)
    (fun _ _ h hs => hs.adjusted h) (fun call x ⟨hcalm, hreset⟩ hruns => ?_) call ⟨hcalm, hreset⟩
  cases hruns with
  | disableMember hm who expiry deactivation =>
    exact disableMember_votesInv hinst hexecute who expiry deactivation
  | addMember hm who => exact addMember_votesInv hinst hexecute who
  | removeMember hm who => exact baseRemoveMember_votesInv hinst hexecute who
  | swapMember hm remove add => exact swapMember_votesInv hinst hexecute remove add
  | resetMembers hm members =>
    have hno := hreset hm
    simp [Call.All, NoReset] at hno
  | abdicateMembership => exact abdicateMembership_votesInv hinst hexecute origin
  | voteOrPropose approve motion =>
    rw [Calm, Call.All] at hcalm
    exact voteOrPropose_votesInv hexecute approve hcalm
  | vote proposal index approve => exact vote_votesInv hexecute proposal index approve

end Calls

/-! ## Runs -/

/-- Who has voted on a motion, if it is open. -/
def votersOf (s : Storage) (proposal : Hash) : Set IdentityId :=
  {id | ∃ v, s.committee.voting proposal = some v ∧ id ∈ v.voters}

/-- Who leaves when the members are reset. -/
def leaving (env : Env) (new : List IdentityId) (s : Storage) : List IdentityId :=
  (env.membersDiff s.group.activeMembers (sortOn place new)).2

/-- A call that succeeds is calm, and members are reset by a call of its own, at a time when at most
one of those who leave has voted on each motion. -/
def KeepsVotes (inst : Instance) (s : Storage) : Action → Prop
  | .extrinsic env depth origin call =>
    step inst (.extrinsic env depth origin call) s = s ∨ Calm inst call ∧ (inst.reset origin →
      call.All NoReset ∨ ∃ new, call = .resetMembers new ∧ OneVoter (leaving env new s) (votersOf s))
  | .nextBlock _ => True

section Runs

variable {depth : ℕ} {a : Action} {new : List IdentityId}

theorem resetMembers_votesInv (hinst : inst ≠ .cddProviders)
    (hone : OneVoter (leaving env new s) (votersOf s)) (hs : MembersVote inst s)
    (h : dispatch inst env depth origin (.resetMembers new) s = (.ok (), s')) :
    MembersVote inst s' := by
  obtain ⟨members, hs⟩ := hs
  simp only [dispatch, dispatchWith, run_ok] at h
  obtain ⟨s₁, hchanged, rfl⟩ := Group.resetMembers_ok h.2
  have hvoted : VotesInv inst (fun _ => ∅) (votersOf s) members members s := by
    refine ⟨hs.members_eq, hs.active_eq, fun proposal v hv => ?_, hs.decided, hs.calm⟩
    obtain ⟨hlisted, hnodup, hvoters⟩ := hs.votes proposal v hv
    exact ⟨hlisted, hnodup, fun id hid => ⟨(hvoters id hid).1, v, hv, hid⟩⟩
  have hnew : ∀ id ∈ members, id ∈ sortOn place new ∨ id ∈ leaving env new s := by
    intro id hid
    rw [← hs.active_eq] at hid
    by_cases hmem : id ∈ sortOn place new
    · exact .inl hmem
    · exact .inr (env.mem_outgoing hid hmem)
  rw [membershipChanged_eq hinst] at hchanged
  -- the group does not know the new members until the committee does
  have hs₁ := changeMembersSorted_votesInv (executeMotion_runsCalm inst env depth) hone hvoted
    (g := fun g => g) hnew hchanged
  refine ⟨sortOn place new, hs₁.members_eq, rfl, fun proposal v hv => ?_, hs₁.decided, hs₁.calm⟩
  obtain ⟨hlisted, hnodup, hvoters⟩ := hs₁.votes proposal v hv
  exact ⟨hlisted, hnodup, fun id hid => ⟨(hvoters id hid).1, trivial⟩⟩

theorem step_membersVote (hinst : inst ≠ .cddProviders) (ha : KeepsVotes inst s a)
    (hs : MembersVote inst s) : MembersVote inst (step inst a s) := by
  cases a with
  | nextBlock elapsed =>
    obtain ⟨members, hs⟩ := hs
    exact ⟨members, hs.members_eq, hs.active_eq, hs.votes, hs.decided, hs.calm⟩
  | extrinsic env depth origin call =>
    rcases ha with heq | ⟨hcalm, hreset⟩
    · rwa [heq]
    rcases step_extrinsic inst env depth origin call s with heq | hstep
    · rwa [heq]
    by_cases hnew : ∃ new, call = .resetMembers new ∧ OneVoter (leaving env new s) (votersOf s)
    · obtain ⟨new, rfl, hone⟩ := hnew
      exact resetMembers_votesInv hinst hone hs hstep
    · exact dispatchWith_votesInv hinst (executeMotion_runsCalm inst env depth) call hcalm
        (fun h => (hreset h).resolve_right hnew) hstep hs

end Runs

/-- **The votes of a committee are those of its members** in every run in which no motion changes
members and no reset leaves votes behind, and nobody votes twice; so every motion that passed was
approved by those who were members when it did. The removal of votes from a motion is complete if
and only if at most one of those who leave has voted on it. -/
theorem votes_of_members {inst : Instance} (hinst : inst ≠ .cddProviders)
    {members : List IdentityId} {limit : ℕ} {threshold : ℕ × ℕ} {s : Storage}
    (h : TransitionSystem.ReachableBy (step inst) (KeepsVotes inst)
      (genesis members limit threshold) s) :
    (∀ proposal v, s.committee.voting proposal = some v →
      proposal ∈ s.committee.proposals ∧
      (∀ id, id ∈ v.ayes ∨ id ∈ v.nays → id ∈ s.committee.members) ∧
      v.ayes.Disjoint v.nays ∧ v.ayes.Nodup ∧ v.nays.Nodup) ∧
    (∀ final ∈ s.committee.finalVotes, ∀ id ∈ final.ayes, id ∈ final.members) ∧
    ∀ proposal v outgoing, s.committee.voting proposal = some v →
      ((∀ v', (Committee.removeAnyVoteFrom proposal outgoing s).2.committee.voting proposal =
          some v' → ∀ id ∈ outgoing, id ∉ v'.ayes ∧ id ∉ v'.nays) ↔
        {id | id ∈ outgoing ∧ (id ∈ v.ayes ∨ id ∈ v.nays)}.Subsingleton) := by
  have hgenesis : MembersVote inst (genesis members limit threshold) :=
    ⟨_, rfl, rfl, nofun, nofun, nofun⟩
  obtain ⟨members', hs⟩ := h.invariant (MembersVote inst) hgenesis
    fun s a hs ha => step_membersVote hinst ha hs
  refine ⟨fun proposal v hv => ?_, hs.decided, fun proposal v outgoing hv => ?_⟩
  · obtain ⟨hlisted, hnodup, hvoters⟩ := hs.votes proposal v hv
    obtain ⟨hayes, hnays, hdisjoint⟩ := List.nodup_append'.mp hnodup
    refine ⟨hlisted, fun id hid => ?_, hdisjoint, hayes, hnays⟩
    rw [hs.members_eq]
    exact (hvoters id (List.mem_append.mpr hid)).1.resolve_right (Set.notMem_empty id)
  · have hiff := Committee.removeAnyVoteFrom_iff outgoing hv (hs.votes proposal v hv).2.1
    simpa only [PolymeshVotes.voters, List.mem_append, not_or] using hiff

/-- Two of five members approve a motion. -/
def approvedRun (motion : Call) : List Action :=
  [.calls (.signed ⟨1⟩) (.voteOrPropose true motion),
    .calls (.signed ⟨2⟩) (.voteOrPropose true motion)]

theorem governanceCommittee_calm (call : Call) : Calm .governanceCommittee call := nofun

/-- One of the two leaves and another member comes, who approves the motion, as one more does. -/
def resetRun : List Action :=
  [.calls .root (.resetMembers [⟨6⟩, ⟨2⟩, ⟨3⟩, ⟨4⟩, ⟨5⟩]),
    .calls (.signed ⟨6⟩) (.voteOrPropose true (.setExpiresAfter (some 9))),
    .calls (.signed ⟨3⟩) (.voteOrPropose true (.setExpiresAfter (some 9)))]

/-- The vote of the one that stays is kept, and the motion passes by it and those of the other
two. -/
theorem votes_of_members_reset :
    let s := run (step .governanceCommittee)
      (genesis [⟨1⟩, ⟨2⟩, ⟨3⟩, ⟨4⟩, ⟨5⟩] 10 (3, 5)) (approvedRun (.setExpiresAfter (some 9)))
    let t := run (step .governanceCommittee) s resetRun
    (s.committee.voting ⟨0⟩).map PolymeshVotes.ayes = some [⟨1⟩, ⟨2⟩] ∧
      t.committee.finalVotes =
        [⟨⟨0⟩, true, [⟨2⟩, ⟨6⟩, ⟨3⟩], [], [⟨2⟩, ⟨3⟩, ⟨4⟩, ⟨5⟩, ⟨6⟩]⟩] ∧
      ∀ final ∈ t.committee.finalVotes, ∀ id ∈ final.ayes, id ∈ final.members := by
  intro s t
  have hleaving : leaving .consenting [⟨6⟩, ⟨2⟩, ⟨3⟩, ⟨4⟩, ⟨5⟩] s = [⟨1⟩] := by decide +kernel
  have hone : OneVoter (leaving .consenting [⟨6⟩, ⟨2⟩, ⟨3⟩, ⟨4⟩, ⟨5⟩] s) (votersOf s) := by
    rw [hleaving]
    intro proposal a ha b hb
    exact (List.mem_singleton.mp ha.1).trans (List.mem_singleton.mp hb.1).symm
  have hvote account s : KeepsVotes .governanceCommittee s
      (.calls (.signed account) (.voteOrPropose true (.setExpiresAfter (some 9)))) :=
    .inr ⟨governanceCommittee_calm _, nofun⟩
  have hreset : KeepsVotes .governanceCommittee s
      (.calls .root (.resetMembers [⟨6⟩, ⟨2⟩, ⟨3⟩, ⟨4⟩, ⟨5⟩])) :=
    .inr ⟨governanceCommittee_calm _, fun _ => .inr ⟨_, rfl, hone⟩⟩
  have hreach : TransitionSystem.ReachableBy (step .governanceCommittee)
      (KeepsVotes .governanceCommittee) (genesis [⟨1⟩, ⟨2⟩, ⟨3⟩, ⟨4⟩, ⟨5⟩] 10 (3, 5)) t :=
    ⟨approvedRun _ ++ resetRun, (along_append _).mpr ⟨⟨hvote ⟨1⟩ _, hvote ⟨2⟩ _, trivial⟩,
      hreset, hvote ⟨6⟩ _, hvote ⟨3⟩ _, trivial⟩, run_append _ _ _ _⟩
  exact ⟨by decide +kernel, by decide +kernel, (votes_of_members (by decide) hreach).2.1⟩

/-- Two of five members approve a motion and leave at once. Only one of their votes is removed; with
the other one, the vote of one of the three new members passes the motion.

Where a committee changes its own members, such a change may pass while votes are being removed. In
the middle of a reset it is made to the old members, who then stay members of the committee but not
of the group. One of them proposes a motion, and its vote is not removed when the members are reset
again. And when one of three members abdicates, by which a motion passes that removes another one,
a second motion passes by the vote of who abdicates, since it is yet to be removed. -/
theorem votes_left_behind :
    let s := run (step .governanceCommittee)
      (genesis [⟨1⟩, ⟨2⟩, ⟨3⟩, ⟨4⟩, ⟨5⟩] 10 (1, 2))
      (approvedRun (.setExpiresAfter (some 9)) ++
        [.calls .root (.resetMembers [⟨3⟩, ⟨4⟩, ⟨5⟩])])
    let s' := step .governanceCommittee
      (.calls (.signed ⟨3⟩) (.voteOrPropose true (.setExpiresAfter (some 9)))) s
    let t := run (step .specialCommittee)
      (genesis [⟨1⟩, ⟨2⟩, ⟨3⟩, ⟨4⟩, ⟨5⟩] 10 (1, 2))
      (approvedRun (.addMember ⟨9⟩) ++ [.calls .governance (.resetMembers [⟨2⟩, ⟨3⟩]),
        .calls (.signed ⟨4⟩) (.voteOrPropose true (.other 8)),
        .calls .governance (.resetMembers [⟨2⟩, ⟨3⟩, ⟨6⟩])])
    let t' := run (step .specialCommittee) (genesis [⟨1⟩, ⟨2⟩, ⟨3⟩] 10 (1, 2))
      [.calls (.signed ⟨1⟩) (.voteOrPropose true (.removeMember ⟨2⟩)),
        .calls (.signed ⟨3⟩) (.voteOrPropose false (.removeMember ⟨2⟩)),
        .calls (.signed ⟨3⟩) (.voteOrPropose true (.other 8)),
        .calls (.signed ⟨2⟩) (.voteOrPropose false (.other 8)),
        .extrinsic .consenting 2 (.signed ⟨3⟩) .abdicateMembership]
    ((s.committee.voting ⟨0⟩).map PolymeshVotes.ayes = some [⟨2⟩] ∧
        s.committee.members = [⟨3⟩, ⟨4⟩, ⟨5⟩] ∧ s'.committee.finalVotes =
          [⟨⟨0⟩, true, [⟨2⟩, ⟨3⟩], [], [⟨3⟩, ⟨4⟩, ⟨5⟩]⟩]) ∧
      ((t.committee.voting ⟨8⟩).map PolymeshVotes.ayes = some [⟨4⟩] ∧
        t.committee.members = [⟨2⟩, ⟨3⟩, ⟨6⟩]) ∧
      ⟨⟨8⟩, true, [⟨3⟩], [], [⟨1⟩]⟩ ∈ t'.committee.finalVotes := by
  decide +kernel

end Governance

end Polymesh
