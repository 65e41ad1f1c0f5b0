import Polymesh.Storage

/-!
# External agents

The permissions of the agents of a ticker (`pallets/external-agents/src/lib.rs`).
-/

namespace Polymesh

open Transactional

namespace ExternalAgents

variable (env : Env) (ticker : Ticker)

/-- The permission set of an agent in a ticker. -/
def agentPermissions (agent : IdentityId) : ExtrinsicPermissions :=
  match env.groupOfAgent ticker agent with
  | none => .these []
  | some .full => .whole
  | some (.custom agId) => (env.groupPermissions ticker agId).getD (.these [])
  | some .exceptMeta => .except [.entirePallet "ExternalAgents"]
  | some .polymeshV1CAA =>
    .these [.entirePallet "CorporateAction", .entirePallet "CorporateBallot",
      .entirePallet "CapitalDistribution"]
  | some .polymeshV1PIA =>
    .these [⟨"Sto", .except ["invest"]⟩,
      ⟨"Asset", .these ["issue", "redeem", "controller_transfer"]⟩]

/-- Whether the agent may make the current call for the ticker. -/
def agentPermissioned (agent : IdentityId) : Bool :=
  (agentPermissions env ticker agent).sufficientFor env.currentPalletName
    env.currentDispatchableName

/-- The group of the agent allows the call. -/
def ensureAgentPermissioned (agent : IdentityId) : Query Unit :=
  ensure (agentPermissioned env ticker agent) (.externalAgents .unauthorizedAgent)

/-- The key may call for the asset. -/
def ensureAssetPerms (origin : RuntimeOrigin) (ticker : Ticker) :
    Query PermissionedCallOriginData := do
  let data ← env.ensureOriginCallPermissions origin
  ensure (∀ sk ∈ data.secondaryKey, sk.hasAssetPermission ticker)
    (.externalAgents .secondaryKeyNotAuthorizedForAsset)
  return data

/-- The key may call, and its identity is a permitted agent. -/
def ensureAgentAssetPerms (origin : RuntimeOrigin) (ticker : Ticker) :
    Query PermissionedCallOriginData := do
  let data ← ensureAssetPerms env origin ticker
  ensureAgentPermissioned env ticker data.primaryDid
  return data

/-- The identity of such a caller. -/
def ensurePerms (origin : RuntimeOrigin) (ticker : Ticker) : Query IdentityId :=
  PermissionedCallOriginData.primaryDid <$> ensureAgentAssetPerms env origin ticker

end ExternalAgents

end Polymesh
