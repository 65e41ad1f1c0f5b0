import Polymesh.Library.Bookkeeping
import Polymesh.Pallets.Agents
import Polymesh.Runtime

/-!
# Assets keep a full agent

The calls of the external agents pallet, together with the creation of assets, in any order. The
number of full agents is counted by a table of transitions between groups, and by additions that
pass it by; both are a change of the group of one agent with a count that follows it. A group that
was created keeps its permissions.
-/

namespace Polymesh

open Transactional Tx Collections
open Function (update update_eq_self update_of_ne update_self)

namespace ExternalAgents

/-! ## The transition system -/

inductive Call
  | createGroup (ticker : Ticker) (perms : ExtrinsicPermissions)
  | setGroupPermissions (ticker : Ticker) (id : AGId) (perms : ExtrinsicPermissions)
  | removeAgent (ticker : Ticker) (agent : IdentityId)
  | abdicate (ticker : Ticker)
  | changeGroup (ticker : Ticker) (agent : IdentityId) (group : AgentGroup)
  | acceptBecomeAgent (authId : ℕ)
  | createGroupAndAddAuth (ticker : Ticker) (perms : ExtrinsicPermissions) (target : IdentityId)
      (expiry : Option Moment)
  | createAndChangeCustomGroup (ticker : Ticker) (perms : ExtrinsicPermissions)
      (agent : IdentityId)
  | createAsset (ticker : Ticker)

def dispatch (env : Env) (origin : RuntimeOrigin) : Call → Dispatch Unit
  | .createGroup ticker perms => do let _ ← baseCreateGroup env origin ticker perms
  | .setGroupPermissions ticker id perms => baseSetGroupPermissions env origin ticker id perms
  | .removeAgent ticker agent => baseRemoveAgent env origin ticker agent
  | .abdicate ticker => baseAbdicate env origin ticker
  | .changeGroup ticker agent group => baseChangeGroup env origin ticker agent group
  | .acceptBecomeAgent authId => baseAcceptBecomeAgent env origin authId
  | .createGroupAndAddAuth ticker perms target expiry =>
    baseCreateGroupAndAddAuth env origin ticker perms target expiry
  | .createAndChangeCustomGroup ticker perms agent =>
    transaction (baseCreateAndChangeCustomGroup env origin ticker perms agent)
  | .createAsset ticker => unsafeCreateAsset env origin ticker

/-- A call by an origin, with the answers that the other pallets give to it. -/
structure Action where
  env : Env
  origin : RuntimeOrigin
  call : Call

def step (a : Action) (s : Storage) : Storage := (transaction (dispatch a.env a.origin a.call) s).2

/-- Before the first asset there are no agents. -/
def genesis : Storage where
  tokens := fun _ => false
  agIdSequence := fun _ => ⟨0⟩
  agentOf := fun _ _ => false
  groupOfAgent := fun _ _ => none
  numFullAgents := fun _ => 0
  groupPermissions := fun _ _ => none

/-! ## The change of one group -/

variable {ticker : Ticker} {agent : IdentityId} {s s' : Storage}

/-- The agent has the given group from now on, or none, and `n` full agents are counted. -/
@[simps] def regroup (ticker : Ticker) (agent : IdentityId) (group : Option AgentGroup) (n : ℕ)
    (s : Storage) : Storage :=
  { s with
    numFullAgents := update s.numFullAgents ticker n
    groupOfAgent := update₂ s.groupOfAgent ticker agent group
    agentOf := update₂ s.agentOf agent ticker group.isSome }

/-- What a group contributes to the number of full agents. -/
def fullCount (group : Option AgentGroup) : ℕ := if group = some .full then 1 else 0

variable {u : Unit} {group : Option AgentGroup}

theorem decFullCount_ok (h : decFullCount ticker s = (.ok u, s')) :
    ∃ n, s' = setNumFullAgents ticker n s ∧ n + 1 = s.numFullAgents ticker ∧ 1 ≤ n := by
  simp only [decFullCount, run_ok, okOr_eq_ok, Option.filter_eq_some_iff, checkedSub_eq_some,
    decide_eq_true_eq] at h
  obtain ⟨n, ⟨⟨hle, hn⟩, hpos⟩, rfl⟩ := h
  exact ⟨n, rfl, by omega, hpos⟩

theorem incFullCount_ok (h : incFullCount ticker s = (.ok u, s')) :
    s' = setNumFullAgents ticker (s.numFullAgents ticker + 1) s := by
  simp only [incFullCount, run_ok, okOr_eq_ok, checkedAdd_eq_some] at h
  obtain ⟨_, ⟨-, rfl⟩, rfl⟩ := h
  rfl

theorem mutateFullCount_ok {slot : Option AgentGroup}
    (h : mutateFullCount ticker slot group s = (.ok u, s')) :
    ∃ n, s' = setNumFullAgents ticker n s ∧
      n + fullCount slot = s.numFullAgents ticker + fullCount group ∧
      (1 ≤ s.numFullAgents ticker → 1 ≤ n) := by
  have hsame : s = setNumFullAgents ticker (s.numFullAgents ticker) s := by
    simp [setNumFullAgents]
  unfold mutateFullCount at h
  split at h
  · obtain ⟨-, rfl⟩ := pure_ok.mp h
    exact ⟨_, hsame, rfl, id⟩
  · rename_i hgroup
    obtain ⟨n, rfl, hn, hpos⟩ := decFullCount_ok h
    have hnone : fullCount group = 0 := if_neg hgroup
    exact ⟨n, rfl, by rw [hnone, ← hn]; rfl, fun _ => hpos⟩
  · rename_i hslot
    obtain rfl := incFullCount_ok h
    have hnone : fullCount slot = 0 := if_neg hslot
    exact ⟨_, rfl, by rw [hnone]; rfl, fun _ => by omega⟩
  · rename_i hslot hgroup _
    obtain ⟨-, rfl⟩ := pure_ok.mp h
    have hnone : fullCount slot = 0 := if_neg hslot
    have hnone' : fullCount group = 0 := if_neg hgroup
    exact ⟨_, hsame, by rw [hnone, hnone'], id⟩

/-- **A change of groups** of an agent, or its removal. -/
theorem tryMutateAgentsGroup_ok
    (hs : ∀ agent ticker, s.agentOf agent ticker = (s.groupOfAgent ticker agent).isSome)
    (h : tryMutateAgentsGroup ticker agent group s = (.ok u, s')) :
    ∃ n, s' = regroup ticker agent group n s ∧ (s.groupOfAgent ticker agent).isSome ∧
      n + fullCount (s.groupOfAgent ticker agent) = s.numFullAgents ticker + fullCount group ∧
      (1 ≤ s.numFullAgents ticker → 1 ≤ n) := by
  simp only [tryMutateAgentsGroup, ↓run_ok, bind_ok, onlyIf_modify_ok] at h
  obtain ⟨_, _, ⟨rfl, rfl⟩, hagent, _, s₁, htable, _, _, rfl, rfl⟩ := h
  obtain ⟨n, rfl, hcount, hpos⟩ := mutateFullCount_ok htable
  refine ⟨n, ?_, hagent, hcount, hpos⟩
  cases group with
  | none => rfl
  | some group =>
    -- an agent that stays one is recorded already
    have hstays : update₂ s.agentOf agent ticker true = s.agentOf := by
      funext a t
      rw [update₂_apply]
      split_ifs with h
      · rw [h.1, h.2, hs, hagent]
      · rfl
    simp [regroup, setNumFullAgents, hstays]

/-- **A new agent.** -/
theorem uncheckedAddAgent_ok {group : AgentGroup}
    (h : uncheckedAddAgent ticker agent group s = (.ok u, s')) :
    s' = regroup ticker agent (some group) (s.numFullAgents ticker + fullCount (some group)) s := by
  simp only [uncheckedAddAgent, ↓run_ok, bind_ok, onlyIf_ok] at h
  obtain ⟨_, s₁, ⟨rfl, hinc⟩ | ⟨hfull, rfl⟩, rfl⟩ := h
  · obtain rfl := incFullCount_ok hinc
    rfl
  · have hnone : fullCount (some group) = 0 := if_neg (by simpa using hfull)
    simp [regroup, hnone]

/-! ## The invariant -/

/-- Whether the group is one that the ticker has. -/
def GroupExists (s : Storage) (ticker : Ticker) (group : AgentGroup) : Prop :=
  ∀ id, group = .custom id → 1 ≤ id.id ∧ id.id ≤ (s.agIdSequence ticker).id

/-- **The storage of the pallet agrees with itself**, and every asset has a full agent. -/
structure Governed (s : Storage) : Prop where
  counted : ∀ ticker, s.numFullAgents ticker =
    (Finset.univ.filter fun agent => s.groupOfAgent ticker agent = some .full).card
  led : ∀ ticker, s.tokens ticker = true → 1 ≤ s.numFullAgents ticker
  /-- An asset that does not exist has no agents. -/
  unborn : ∀ ticker, s.tokens ticker = false → ∀ agent, s.groupOfAgent ticker agent = none
  agents : ∀ agent ticker, s.agentOf agent ticker = (s.groupOfAgent ticker agent).isSome
  grouped : ∀ ticker agent group, s.groupOfAgent ticker agent = some group →
    GroupExists s ticker group
  /-- Every group that was created has permissions. -/
  permitted : ∀ ticker (id : AGId), 1 ≤ id.id → id.id ≤ (s.agIdSequence ticker).id →
    (s.groupPermissions ticker id).isSome

theorem genesis_governed : Governed genesis where
  counted := fun _ => by simp [genesis]
  led := fun _ h => by cases h
  unborn := fun _ _ _ => rfl
  agents := fun _ _ => rfl
  grouped := fun _ _ _ h => by cases h
  permitted := fun _ id h h' => by
    have hzero : id.id.val ≤ 0 := h'
    have hone : 1 ≤ id.id.val := h
    omega

theorem Governed.exists_of_agent (hs : Governed s)
    (hagent : (s.groupOfAgent ticker agent).isSome) : s.tokens ticker = true := by
  by_contra hborn
  rw [hs.unborn ticker (Bool.eq_false_iff.mpr hborn) agent] at hagent
  cases hagent

/-- **One agent changes its group**, joins or leaves: what is counted follows the change, and a
full agent remains. -/
theorem Governed.regroup {n : ℕ} (hs : Governed s)
    (hexists : ∀ g, group = some g → GroupExists s ticker g)
    (hcount : n + fullCount (s.groupOfAgent ticker agent) =
      s.numFullAgents ticker + fullCount group) (hn : 1 ≤ n) :
    Governed { ExternalAgents.regroup ticker agent group n s with
      tokens := update s.tokens ticker true } where
  counted t := by
    by_cases ht : t = ticker
    · subst ht
      have hcard := Bookkeeping.card_filter_update (· = some AgentGroup.full)
        (s.groupOfAgent t) agent group
      rw [← hs.counted t] at hcard
      simp only [regroup_numFullAgents, regroup_groupOfAgent, update_self, update₂]
      unfold fullCount at hcount
      omega
    · simp only [regroup_numFullAgents, regroup_groupOfAgent, update_of_ne ht,
        update₂_of_ne_left _ ht]
      exact hs.counted t
  led t h := by
    by_cases ht : t = ticker
    · subst ht
      simpa using hn
    · simp only [update_of_ne ht, regroup_numFullAgents] at h ⊢
      exact hs.led t h
  unborn t h a := by
    have ht : t ≠ ticker := by
      rintro rfl
      simp at h
    simp only [update_of_ne ht, regroup_groupOfAgent, update₂_of_ne_left _ ht] at h ⊢
    exact hs.unborn t h a
  agents a t := by
    simp only [regroup_agentOf, regroup_groupOfAgent, update₂_apply, hs.agents a t,
      and_comm (a := a = agent)]
    split_ifs <;> rfl
  grouped t a g h := by
    simp only [regroup_groupOfAgent, update₂_apply] at h
    split_ifs at h with hchanged
    · obtain ⟨rfl, -⟩ := hchanged
      exact hexists g h
    · exact hs.grouped t a g h
  permitted := hs.permitted

theorem Governed.tryMutateAgentsGroup (hs : Governed s)
    (hexists : ∀ g, group = some g → GroupExists s ticker g)
    (h : tryMutateAgentsGroup ticker agent group s = (.ok u, s')) : Governed s' := by
  obtain ⟨n, rfl, hagent, hcount, hpos⟩ := tryMutateAgentsGroup_ok hs.agents h
  have htoken := hs.exists_of_agent hagent
  have hnext := hs.regroup hexists hcount (hpos (hs.led ticker htoken))
  rwa [← htoken, update_eq_self] at hnext

/-! ## Calls -/

section Calls

variable {env : Env} {origin : RuntimeOrigin} {perms : ExtrinsicPermissions}

theorem isSome_of_ensureAgentPermissioned
    (h : ensureAgentPermissioned (env.withGroups s) ticker agent = .ok u) :
    (s.groupOfAgent ticker agent).isSome := by
  rw [ensureAgentPermissioned, ensure_eq_ok] at h
  by_contra hnone
  rw [Option.not_isSome_iff_eq_none] at hnone
  simp [agentPermissioned, agentPermissions, Env.withGroups, hnone,
    ExtrinsicPermissions.sufficientFor] at h

theorem groupExists_of_ensure {group : AgentGroup}
    (h : ensureAgentGroupValid ticker group s = .ok u) : GroupExists s ticker group := by
  rintro id rfl
  exact ensure_eq_ok.mp h

variable {id : AGId}

theorem baseCreateGroup_ok (h : baseCreateGroup env origin ticker perms s = (.ok id, s')) :
    id.id.val = (s.agIdSequence ticker).id.val + 1 ∧
      s' = setGroupPermissions ticker id perms
        { s with agIdSequence := update s.agIdSequence ticker id } := by
  simp only [baseCreateGroup, run_ok, okOr_eq_ok] at h
  obtain ⟨_, -, _, -, next, hnext, rfl, rfl⟩ := h
  exact ⟨checkedInc_val hnext, rfl⟩

theorem GroupExists.create {group : AgentGroup} {t : Ticker} (h : GroupExists s t group)
    (hid : id.id.val = (s.agIdSequence ticker).id.val + 1) :
    GroupExists (setGroupPermissions ticker id perms
      { s with agIdSequence := update s.agIdSequence ticker id }) t group := by
  rintro old rfl
  obtain ⟨hone, hle⟩ := h old rfl
  refine ⟨hone, ?_⟩
  by_cases ht : t = ticker
  · subst ht
    simp only [setGroupPermissions, update_self]
    have hle' : old.id.val ≤ (s.agIdSequence t).id.val := hle
    exact Fin.le_def.mpr (by omega)
  · simpa only [setGroupPermissions, update_of_ne ht] using hle

/-- **A new group** has permissions from the beginning. -/
theorem Governed.createGroup (hs : Governed s)
    (hid : id.id.val = (s.agIdSequence ticker).id.val + 1) :
    Governed (setGroupPermissions ticker id perms
      { s with agIdSequence := update s.agIdSequence ticker id }) where
  counted := hs.counted
  led := hs.led
  unborn := hs.unborn
  agents := hs.agents
  grouped t a g h := (hs.grouped t a g h).create hid
  permitted t i hone hle := by
    simp only [setGroupPermissions, update₂_apply] at hle ⊢
    split_ifs with hnew
    · rfl
    · refine hs.permitted t i hone ?_
      by_cases ht : t = ticker
      · subst ht
        rw [update_self] at hle
        -- an id up to the new one that is not the new one is an old one
        have hne : i.id.val ≠ id.id.val := fun h => hnew ⟨rfl, by
          cases i
          cases id
          exact congrArg AGId.mk (Fin.ext h)⟩
        have hle' : i.id.val ≤ id.id.val := hle
        exact Fin.le_def.mpr (by omega)
      · rwa [update_of_ne ht] at hle

theorem groupExists_create (hid : id.id.val = (s.agIdSequence ticker).id.val + 1) :
    GroupExists (setGroupPermissions ticker id perms
      { s with agIdSequence := update s.agIdSequence ticker id }) ticker (.custom id) := by
  rintro _ ⟨rfl⟩
  have hone : 1 ≤ id.id.val := by omega
  exact ⟨hone, by simp [setGroupPermissions]⟩

theorem baseAcceptBecomeAgent_governed {authId : ℕ} (hs : Governed s)
    (h : baseAcceptBecomeAgent env origin authId s = (.ok u, s')) : Governed s' := by
  simp only [baseAcceptBecomeAgent, run_ok] at h
  obtain ⟨did, -, ⟨sender, ticker, group⟩, -, _, hsender, _, hgroup, hnew, h⟩ := h
  obtain rfl := uncheckedAddAgent_ok h
  -- whoever invites is an agent, so that the asset exists
  have htoken := hs.exists_of_agent (isSome_of_ensureAgentPermissioned hsender)
  have hnone : fullCount (s.groupOfAgent ticker did) = 0 := by rw [hnew]; rfl
  have hexists : ∀ g, some group = some g → GroupExists s ticker g := by
    rintro _ ⟨rfl⟩
    exact groupExists_of_ensure hgroup
  have hnext := hs.regroup (n := s.numFullAgents ticker + fullCount (some group)) hexists
    (by rw [hnone]; rfl) ((hs.led ticker htoken).trans (Nat.le_add_right _ _))
  rwa [← htoken, update_eq_self] at hnext

theorem baseSetGroupPermissions_governed (hs : Governed s)
    (h : baseSetGroupPermissions env origin ticker id perms s = (.ok u, s')) : Governed s' := by
  simp only [baseSetGroupPermissions, run_ok] at h
  obtain ⟨_, -, _, -, _, -, rfl⟩ := h
  refine ⟨hs.counted, hs.led, hs.unborn, hs.agents, hs.grouped, fun t i hone hle => ?_⟩
  simp only [setGroupPermissions, update₂_apply]
  split_ifs
  · rfl
  · exact hs.permitted t i hone hle

theorem unsafeCreateAsset_governed (hs : Governed s)
    (h : unsafeCreateAsset env origin ticker s = (.ok u, s')) : Governed s' := by
  simp only [unsafeCreateAsset, run_ok] at h
  obtain ⟨data, -, hfresh, _, -, h⟩ := h
  obtain rfl := uncheckedAddAgent_ok h
  have hnone : fullCount (s.groupOfAgent ticker data.primaryDid) = 0 := by
    rw [hs.unborn ticker hfresh]
    rfl
  exact hs.regroup (n := s.numFullAgents ticker + 1) (fun _ hg id hid => by subst hid; cases hg)
    (by rw [hnone]; rfl) (Nat.le_add_left 1 _)

/-- **Every call keeps the agreement.** -/
theorem dispatch_governed {call : Call} (hs : Governed s)
    (h : dispatch env origin call s = (.ok u, s')) : Governed s' := by
  cases call with
  | createGroup ticker perms =>
    simp only [dispatch, ↓run_ok, bind_ok] at h
    obtain ⟨id, _, h, -, rfl⟩ := h
    obtain ⟨hid, rfl⟩ := baseCreateGroup_ok h
    exact hs.createGroup hid
  | setGroupPermissions ticker id perms => exact baseSetGroupPermissions_governed hs h
  | removeAgent ticker agent =>
    simp only [dispatch, baseRemoveAgent, run_ok] at h
    obtain ⟨_, -, h⟩ := h
    exact hs.tryMutateAgentsGroup (fun _ hg => by cases hg) h
  | abdicate ticker =>
    simp only [dispatch, baseAbdicate, run_ok] at h
    obtain ⟨_, -, h⟩ := h
    exact hs.tryMutateAgentsGroup (fun _ hg => by cases hg) h
  | changeGroup ticker agent group =>
    simp only [dispatch, baseChangeGroup, unsafeChangeGroup, run_ok] at h
    obtain ⟨_, -, _, hgroup, h⟩ := h
    exact hs.tryMutateAgentsGroup
      (fun _ hg => Option.some.inj hg ▸ groupExists_of_ensure hgroup) h
  | acceptBecomeAgent authId => exact baseAcceptBecomeAgent_governed hs h
  | createGroupAndAddAuth ticker perms target expiry =>
    simp only [dispatch, baseCreateGroupAndAddAuth, ↓run_ok, bind_ok] at h
    obtain ⟨id, _, h, -, rfl⟩ := h
    obtain ⟨hid, rfl⟩ := baseCreateGroup_ok h
    exact hs.createGroup hid
  | createAndChangeCustomGroup ticker perms agent =>
    simp only [dispatch, transaction_ok, baseCreateAndChangeCustomGroup, unsafeChangeGroup,
      ↓run_ok, bind_ok] at h
    obtain ⟨id, _, hcreate, _, -, h⟩ := h
    obtain ⟨hid, rfl⟩ := baseCreateGroup_ok hcreate
    exact (hs.createGroup hid).tryMutateAgentsGroup
      (fun _ hg => Option.some.inj hg ▸ groupExists_create hid) h
  | createAsset ticker => exact unsafeCreateAsset_governed hs h

end Calls

/-! ## Runs -/

theorem Governed.next (hs : Governed s) (a : Action) : Governed (step a s) := by
  have hkeep : Respects (Preserves Governed) (dispatch a.env a.origin a.call) :=
    fun _ _ _ h hs => dispatch_governed hs h
  exact (Atomic.transaction _).rel_run hkeep.transaction s hs

/-- **Assets are never orphaned by their agents**: in every reachable state the number of full
agents of an asset is what is counted and at least one, the two records of agents agree, and the
group of every agent has permissions. -/
theorem assets_never_orphaned {s : Storage} (h : TransitionSystem.Reachable step genesis s) :
    (∀ ticker, s.tokens ticker = true →
      s.numFullAgents ticker = {agent | s.groupOfAgent ticker agent = some .full}.ncard ∧
      1 ≤ s.numFullAgents ticker) ∧
    (∀ agent ticker, s.agentOf agent ticker = true ↔ (s.groupOfAgent ticker agent).isSome) ∧
    ∀ ticker agent id, s.groupOfAgent ticker agent = some (.custom id) →
      (s.groupPermissions ticker id).isSome := by
  have hs : Governed s := h.invariant Governed genesis_governed fun _ a hs => hs.next a
  refine ⟨fun ticker htoken => ⟨?_, hs.led ticker htoken⟩, fun agent ticker => by rw [hs.agents], ?_⟩
  · rw [hs.counted ticker, ← Set.ncard_coe_finset, Finset.coe_filter]
    simp only [Finset.mem_univ, true_and]
  · intro ticker agent id hgroup
    obtain ⟨hone, hle⟩ := hs.grouped ticker agent _ hgroup id rfl
    exact hs.permitted ticker id hone hle

/-- A call of the identity with the given bytes. Everybody is invited by the first identity into the
first custom group of the first asset. -/
def Action.calls (caller : Fin (2 ^ 256)) (call : Call) : Action where
  env := ⟨.consenting, fun _ _ => .ok (⟨1⟩, ⟨1⟩, .custom ⟨1⟩), fun _ => .ok (), fun _ _ => .ok ()⟩
  origin := .signed ⟨caller⟩
  call := call

/-- An agent is invited and promoted, the owner of the asset leaves, and the new agent, now the last
full one, cannot leave. -/
theorem assets_never_orphaned_abdicated :
    let s := TransitionSystem.run step genesis
      [.calls 1 (.createAsset ⟨1⟩), .calls 1 (.createGroup ⟨1⟩ .whole),
        .calls 2 (.acceptBecomeAgent 0), .calls 1 (.changeGroup ⟨1⟩ ⟨2⟩ .full),
        .calls 3 (.acceptBecomeAgent 0), .calls 1 (.abdicate ⟨1⟩), .calls 2 (.abdicate ⟨1⟩)]
    s.tokens ⟨1⟩ = true ∧ s.numFullAgents ⟨1⟩ = 1 ∧ s.groupOfAgent ⟨1⟩ ⟨1⟩ = none ∧
      {agent | s.groupOfAgent ⟨1⟩ agent = some .full}.ncard = 1 ∧
      s.groupOfAgent ⟨1⟩ ⟨3⟩ = some (.custom ⟨1⟩) ∧ (s.groupPermissions ⟨1⟩ ⟨1⟩).isSome := by
  intro s
  have hs : TransitionSystem.Reachable step genesis s := ⟨_, rfl⟩
  have htoken : s.tokens ⟨1⟩ = true := by decide +kernel
  have hone : s.numFullAgents ⟨1⟩ = 1 := by decide +kernel
  have hgone : s.groupOfAgent ⟨1⟩ ⟨1⟩ = none := by decide +kernel
  have hgroup : s.groupOfAgent ⟨1⟩ ⟨3⟩ = some (.custom ⟨1⟩) := by decide +kernel
  clear_value s
  obtain ⟨hcounted, -, hpermitted⟩ := assets_never_orphaned hs
  exact ⟨htoken, hone, hgone, (hcounted ⟨1⟩ htoken).1.symm.trans hone, hgroup,
    hpermitted ⟨1⟩ ⟨3⟩ ⟨1⟩ hgroup⟩

end ExternalAgents

end Polymesh
