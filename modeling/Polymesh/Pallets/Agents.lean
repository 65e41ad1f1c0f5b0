import Polymesh.Pallets.ExternalAgents

/-!
# The agents of an asset

The groups of agents of a ticker and the calls that change them
(`pallets/external-agents/src/lib.rs`), with the part of the creation of an asset that appoints its
first agent (`pallets/asset/src/lib.rs`). The authorizations of the identity pallet and the
other checks of an asset's creation are answers of the environment.
-/

namespace Polymesh

open Transactional Collections

namespace ExternalAgents

structure Storage where
  /-- Whether the asset pallet has a token of the ticker. -/
  tokens : Ticker → Bool
  agIdSequence : Ticker → AGId
  agentOf : IdentityId → Ticker → Bool
  groupOfAgent : Ticker → IdentityId → Option AgentGroup
  numFullAgents : Ticker → ℕ
  groupPermissions : Ticker → AGId → Option ExtrinsicPermissions

/-- Computations over the storage of the pallet. -/
abbrev Dispatch (α : Type) := Tx Storage DispatchError α

/-- The answers of the other pallets to one call. -/
structure Env where
  /-- The keys of identities and the call that is being made. -/
  runtime : Polymesh.Env
  /-- Who authorized the identity to become an agent of which ticker in which group. -/
  becomeAgentAuthorization : IdentityId → ℕ → Query (IdentityId × Ticker × AgentGroup)
  ensureExtrinsicPermsLengthLimited : ExtrinsicPermissions → Query Unit
  /-- The checks on a new asset other than that there is none yet. -/
  ensureCreateAsset : PermissionedCallOriginData → Ticker → Query Unit

/-- Permissions are those of the groups in storage. -/
def Env.withGroups (env : Env) (s : Storage) : Polymesh.Env :=
  { env.runtime with
    groupOfAgent := s.groupOfAgent
    groupPermissions := s.groupPermissions }

/-! ## Groups -/

variable (ticker : Ticker)

def ensureCustomAgentGroupExists (id : AGId) (s : Storage) : Query Unit :=
  ensure (1 ≤ id.id ∧ id.id ≤ (s.agIdSequence ticker).id) (.externalAgents .noSuchAG)

def ensureAgentGroupValid (group : AgentGroup) (s : Storage) : Query Unit :=
  match group with
  | .custom id => ensureCustomAgentGroupExists ticker id s
  | _ => .ok ()

def setNumFullAgents (n : ℕ) (s : Storage) : Storage :=
  { s with numFullAgents := Function.update s.numFullAgents ticker n }

/-- Decrement the number of full agents; it may not become zero. -/
def decFullCount : Dispatch Unit := do
  let n ← Tx.read fun s => okOr ((checkedSub (s.numFullAgents ticker) 1).filter (0 < ·))
    (.externalAgents .removingLastFullAgent)
  Tx.modify (setNumFullAgents ticker n)

def incFullCount : Dispatch Unit := do
  let n ← Tx.read fun s => okOr (checkedAdd 32 (s.numFullAgents ticker) 1) .counterOverflow
  Tx.modify (setNumFullAgents ticker n)

/-- The change of the number of full agents when an agent goes from one group to another. -/
def mutateFullCount : Option AgentGroup → Option AgentGroup → Dispatch Unit
  -- identity transition
  | some .full, some .full => pure ()
  -- demotion or removal
  | some .full, _ => decFullCount ticker
  -- promotion
  | _, some .full => incFullCount ticker
  | _, _ => pure ()

/-- Change the group of an agent, or remove the agent. -/
def tryMutateAgentsGroup (agent : IdentityId) (group : Option AgentGroup) : Dispatch Unit := do
  let slot := (← Tx.get).groupOfAgent ticker agent
  Tx.ensure slot.isSome (.externalAgents .notAnAgent)
  mutateFullCount ticker slot group
  onlyIf (group = none) <| Tx.modify fun s =>
    { s with agentOf := update₂ s.agentOf agent ticker false }
  Tx.modify fun s => { s with groupOfAgent := update₂ s.groupOfAgent ticker agent group }

def uncheckedAddAgent (did : IdentityId) (group : AgentGroup) : Dispatch Unit := do
  onlyIf (group = .full) (incFullCount ticker)
  Tx.modify fun s =>
    { s with
      groupOfAgent := update₂ s.groupOfAgent ticker did (some group)
      agentOf := update₂ s.agentOf did ticker true }

def setGroupPermissions (id : AGId) (perms : ExtrinsicPermissions) (s : Storage) : Storage :=
  { s with groupPermissions := update₂ s.groupPermissions ticker id (some perms) }

def unsafeChangeGroup (agent : IdentityId) (group : AgentGroup) : Dispatch Unit := do
  Tx.read (ensureAgentGroupValid ticker group)
  tryMutateAgentsGroup ticker agent (some group)

/-! ## Calls -/

section Calls

variable (env : Env) (origin : RuntimeOrigin)

def baseAcceptBecomeAgent (authId : ℕ) : Dispatch Unit := do
  let did ← Tx.read fun _ => env.runtime.ensurePerms origin
  let ⟨sender, ticker, group⟩ ← Tx.read fun _ => env.becomeAgentAuthorization did authId
  Tx.read fun s => ensureAgentPermissioned (env.withGroups s) ticker sender
  Tx.read (ensureAgentGroupValid ticker group)
  let s ← Tx.get
  Tx.ensure (s.groupOfAgent ticker did = none) (.externalAgents .alreadyAnAgent)
  uncheckedAddAgent ticker did group

variable (ticker : Ticker) (perms : ExtrinsicPermissions)

def baseCreateGroup : Dispatch AGId := do
  let _ ← Tx.read fun s => ensurePerms (env.withGroups s) origin ticker
  Tx.read fun _ => env.ensureExtrinsicPermsLengthLimited perms
  let next ← Tx.read fun s => okOr (checkedInc (s.agIdSequence ticker).id) .counterOverflow
  Tx.modify fun s => { s with agIdSequence := Function.update s.agIdSequence ticker ⟨next⟩ }
  Tx.modify (setGroupPermissions ticker ⟨next⟩ perms)
  return ⟨next⟩

/-- The authorization that is given to the target is kept by the identity pallet. -/
def baseCreateGroupAndAddAuth (_target : IdentityId) (_expiry : Option Moment) : Dispatch Unit := do
  let _ ← baseCreateGroup env origin ticker perms

def baseSetGroupPermissions (id : AGId) (perms : ExtrinsicPermissions) : Dispatch Unit := do
  let _ ← Tx.read fun s => ensurePerms (env.withGroups s) origin ticker
  Tx.read fun _ => env.ensureExtrinsicPermsLengthLimited perms
  Tx.read (ensureCustomAgentGroupExists ticker id)
  Tx.modify (setGroupPermissions ticker id perms)

def baseRemoveAgent (agent : IdentityId) : Dispatch Unit := do
  let _ ← Tx.read fun s => ensurePerms (env.withGroups s) origin ticker
  tryMutateAgentsGroup ticker agent none

/-- An agent needs no permission of its group to leave. -/
def baseAbdicate : Dispatch Unit := do
  let data ← Tx.read fun s => ensureAssetPerms (env.withGroups s) origin ticker
  tryMutateAgentsGroup ticker data.primaryDid none

def baseCreateAndChangeCustomGroup (agent : IdentityId) : Dispatch Unit := do
  let agId ← baseCreateGroup env origin ticker perms
  unsafeChangeGroup ticker agent (.custom agId)

def baseChangeGroup (agent : IdentityId) (group : AgentGroup) : Dispatch Unit := do
  let _ ← Tx.read fun s => ensurePerms (env.withGroups s) origin ticker
  unsafeChangeGroup ticker agent group

/-- The creation of an asset, as far as it concerns its agents: the owner is the first one. -/
def unsafeCreateAsset : Dispatch Unit := do
  let data ← Tx.read fun _ => env.runtime.ensureOriginCallPermissions origin
  let s ← Tx.get
  Tx.ensure (s.tokens ticker = false) (.asset .assetAlreadyCreated)
  Tx.read fun _ => env.ensureCreateAsset data ticker
  Tx.modify fun s => { s with tokens := Function.update s.tokens ticker true }
  uncheckedAddAgent ticker data.primaryDid .full

end Calls

end ExternalAgents

end Polymesh
