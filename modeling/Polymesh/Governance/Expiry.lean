import Polymesh.Governance.Proposals

/-!
# Motions that have expired

A vote on a motion that has expired prunes the motion and then fails. The failure takes the pruning
back, so that the motion stays, and since its call is known by the same hash, the call can not be
proposed again. What does prune the motion is that one of its voters leaves the committee.
-/

namespace Polymesh

open Transactional Tx SortedLists
open TransitionSystem (run run_invariant)

namespace Governance

open Committee

/-- A member votes on the motion of a call, or proposes the call again. -/
inductive Concerns (motion : Call) (proposal : Hash) (s : Storage) : Action → Prop
  | vote (env : Env) (depth : ℕ) {account : AccountId} {did : IdentityId} (index : ℕ)
      (approve : Bool) (hdid : env.callPermissions account = some did)
      (hmember : did ∈ s.committee.members) :
      Concerns motion proposal s
        (.extrinsic env depth (.signed account) (.vote proposal index approve))
  | voteOrPropose {env : Env} (depth : ℕ) {account : AccountId} {did : IdentityId}
      (approve : Bool) (hhash : env.hashOf motion = proposal)
      (hdid : env.callPermissions account = some did) (hmember : did ∈ s.committee.members) :
      Concerns motion proposal s
        (.extrinsic env depth (.signed account) (.voteOrPropose approve motion))

/-- Nothing is kept of the motion. -/
def Forgotten (proposal : Hash) (s : Storage) : Prop :=
  proposal ∉ s.committee.proposals ∧ s.committee.proposalOf proposal = none ∧
    s.committee.voting proposal = none

/-- If a member proposes the call, a new motion starts. -/
def Restarts (inst : Instance) (motion : Call) (proposal : Hash) (s : Storage) : Prop :=
  ∀ env depth account did, env.hashOf motion = proposal →
    env.callPermissions account = some did → did ∈ s.committee.members →
    let s' := step inst (.extrinsic env depth (.signed account) (.voteOrPropose true motion)) s
    proposal ∈ s'.committee.proposals ∧ s'.committee.proposalOf proposal = some motion ∧
      ∃ v, s'.committee.voting proposal = some v ∧ v.index = s.committee.proposalCount ∧
        v.ayes = [did] ∧ v.nays = []

/-- The motion is kept, and it has expired. -/
def Lapsed (proposal : Hash) (s : Storage) : Prop :=
  ∃ v, s.committee.voting proposal = some v ∧ expired v.expiry s

section Votes

variable {inst : Instance} {motion : Call} {proposal : Hash} {s : Storage} {a : Action}

theorem vote_lapsed (h : Lapsed proposal s) {execute : Call → Dispatch Unit} {env : Env}
    {origin : Origin} {index : ℕ} {approve : Bool} {u : Unit} {s' : Storage} :
    ¬ vote execute env origin proposal index approve s = (.ok u, s') := by
  intro hvote
  obtain ⟨v, hv, hexpired⟩ := h
  obtain ⟨_, v', -, -, hv', hopen, -⟩ := vote_ok hvote
  rw [hv] at hv'
  cases hv'
  exact hopen hexpired

/-- **A vote on a motion that has expired leaves everything as it was.** -/
theorem step_lapsed (h : Lapsed proposal s) (ha : Concerns motion proposal s a) :
    step inst a s = s := by
  cases ha with
  | vote env depth index approve hdid hmember =>
    rcases step_extrinsic inst env depth _ _ s with heq | hok
    · exact heq
    · rw [dispatch, dispatchWith] at hok
      exact absurd hok (vote_lapsed h)
  | voteOrPropose depth approve hhash hdid hmember =>
    subst hhash
    rcases step_extrinsic inst _ depth _ _ s with heq | hok
    · exact heq
    · rw [dispatch, dispatchWith] at hok
      rcases voteOrPropose_ok hok with ⟨index, hvote⟩ | ⟨hnone, -⟩
      · exact absurd hvote (vote_lapsed h)
      · obtain ⟨v, hv, -⟩ := h
        rw [hnone] at hv
        cases hv

theorem Lapsed.nextBlock (h : Lapsed proposal s) (elapsed : Moment) :
    Lapsed proposal (step inst (.nextBlock elapsed) s) := by
  obtain ⟨v, hv, e, he, hle⟩ := h
  exact ⟨v, hv, e, he, hle.trans (Nat.le_succ _)⟩

end Votes

/-- **The votes of members prune no motion that has expired.** However many of them vote on it or
propose its call again, and whatever time passes, it is kept and no new motion starts: that votes
prune what has expired is true of a motion if and only if it has not expired. -/
theorem expired_motion_pruned_iff {inst : Instance} {motion : Call} {proposal : Hash} {s : Storage}
    {v : PolymeshVotes} (hv : s.committee.voting proposal = some v) {a : Action}
    (ha : Concerns motion proposal s a) {acts : List Action}
    (hacts : TransitionSystem.Along (step inst)
      (fun s a => Concerns motion proposal s a ∨ ∃ elapsed, a = .nextBlock elapsed)
      (step inst a s) acts) :
    (expired v.expiry s →
      Forgotten proposal (run (step inst) (step inst a s) acts) ∧
        Restarts inst motion proposal (run (step inst) (step inst a s) acts)) ↔
      ¬ expired v.expiry s := by
  constructor
  · intro h hexpired
    have hlapsed : Lapsed proposal s := ⟨v, hv, hexpired⟩
    have hstep : Lapsed proposal (step inst a s) := by rwa [step_lapsed hlapsed ha]
    have hrun : Lapsed proposal (run (step inst) (step inst a s) acts) := by
      refine run_invariant (Lapsed proposal) ?_ hstep hacts
      rintro s a hs (ha | ⟨elapsed, rfl⟩)
      · rwa [step_lapsed hs ha]
      · exact hs.nextBlock elapsed
    obtain ⟨w, hw, -⟩ := hrun
    obtain ⟨⟨-, -, hnone⟩, -⟩ := h hexpired
    rw [hnone] at hw
    cases hw
  · exact fun h hexpired => absurd hexpired h

/-- Three members let motions expire after one block. One of them proposes a motion, and a block
passes. -/
def lapsedRun : List Action :=
  [.calls (.signed ⟨1⟩) (.voteOrPropose true (.setExpiresAfter (some 1))),
    .calls (.signed ⟨2⟩) (.voteOrPropose true (.setExpiresAfter (some 1))),
    .calls (.signed ⟨1⟩) (.voteOrPropose true (.other 7)), .nextBlock 6]

/-- A second and a third member approve the motion. Neither starts it anew. -/
theorem expired_motion_pruned_iff_blocked :
    let s := run (step .governanceCommittee) (genesis [⟨1⟩, ⟨2⟩, ⟨3⟩] 10 (2, 3))
      lapsedRun
    let s' := run (step .governanceCommittee) s [approves ⟨2⟩ 7, approves ⟨3⟩ 7]
    Lapsed ⟨7⟩ s ∧
      ¬ (Forgotten ⟨7⟩ s' ∧ Restarts .governanceCommittee (.other 7) ⟨7⟩ s') := by
  intro s s'
  have hv : s.committee.voting ⟨7⟩ = some ⟨1, [⟨1⟩], [], some 1⟩ := by decide +kernel
  have hexpired : expired (some 1) s := ⟨1, rfl, le_rfl⟩
  have hlapsed : Lapsed ⟨7⟩ s := ⟨_, hv, hexpired⟩
  have hmembers : (⟨2⟩ : IdentityId) ∈ s.committee.members ∧ ⟨3⟩ ∈ s.committee.members := by
    decide +kernel
  have hsecond : Concerns (.other 7) ⟨7⟩ s (approves ⟨2⟩ 7) :=
    .voteOrPropose 1 true rfl rfl hmembers.1
  have hthird : Concerns (.other 7) ⟨7⟩ (step .governanceCommittee (approves ⟨2⟩ 7) s)
      (approves ⟨3⟩ 7) := by
    rw [step_lapsed hlapsed hsecond]
    exact .voteOrPropose 1 true rfl rfl hmembers.2
  have hacts : TransitionSystem.Along (step .governanceCommittee)
      (fun s a => Concerns (.other 7) ⟨7⟩ s a ∨ ∃ elapsed, a = .nextBlock elapsed)
      (step .governanceCommittee (approves ⟨2⟩ 7) s) [approves ⟨3⟩ 7] := ⟨.inl hthird, trivial⟩
  exact ⟨hlapsed, fun h => (expired_motion_pruned_iff hv hsecond hacts).mp (fun _ => h) hexpired⟩

/-- The votes fail since the motion has expired, and it is there as before. -/
theorem expired_motion_stays :
    let s := run (step .governanceCommittee) (genesis [⟨1⟩, ⟨2⟩, ⟨3⟩] 10 (2, 3))
      lapsedRun
    let s' := step .governanceCommittee (approves ⟨2⟩ 7) s
    (dispatch .governanceCommittee .consenting 1 (.signed ⟨2⟩) (.voteOrPropose true (.other 7))
        s).1 = .error .proposalExpired ∧
      s'.committee.proposals = [⟨7⟩] ∧ (s'.committee.proposalOf ⟨7⟩).isSome ∧
      s'.committee.voting ⟨7⟩ = some ⟨1, [⟨1⟩], [], some 1⟩ ∧
      (dispatch .governanceCommittee .consenting 1 (.signed ⟨3⟩) (.voteOrPropose true (.other 7))
        s').1 = .error .proposalExpired := by
  decide +kernel

end Governance

end Polymesh
