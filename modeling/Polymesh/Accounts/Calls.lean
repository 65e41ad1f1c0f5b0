import Polymesh.Accounts.Effects

/-!
# What the calls of the pallets do

Every call of the identity, multisig and relayer pallets is a sequence of effects, and so are the
protocol fees that it charges.
-/

namespace Polymesh

open Transactional Tx

namespace Accounts

section Free

variable {hashes : Hashes} {P : Effect → Prop} (hfree : ∀ effect : Effect, effect.Free → P effect)
  {env : Env} {s s' : Storage}

include hfree in
theorem Effects.free {effect : Effect} (h : Occurs hashes effect s s') (heffect : effect.Free) :
    Effects hashes P s s' :=
  .single (hfree effect heffect) h

include hfree in
theorem Effects.aside (h : Aside s s') : Effects hashes P s s' :=
  .free hfree (.aside h) trivial

include hfree in
theorem modify_aside {g : Storage → Storage} (h : ∀ s, Aside s (g s)) :
    Respects (Effects hashes P) (Tx.modify g : Dispatch Unit) :=
  .modify fun s => Effects.aside hfree (h s)

/-! ### Fees -/

/-- Effects that leave the identities as they are. -/
def Charged (hashes : Hashes) (P : Effect → Prop) (s s' : Storage) : Prop :=
  Effects hashes P s s' ∧ s'.identity = s.identity

instance : Std.Refl (Charged hashes P) := ⟨fun s => ⟨refl s, rfl⟩⟩

instance : IsTrans Storage (Charged hashes P) :=
  ⟨fun _ _ _ h₁ h₂ => ⟨h₁.1.trans h₂.1, h₂.2.trans h₁.2⟩⟩

variable {userKey key multisig : AccountId} {fee proposalId : ℕ} {u : Unit}
  {accepter : AuthorizationData → IdentityId → Dispatch Unit} {did : IdentityId}
  {keys : List AccountId} {children : List (AccountId × IdentityId)} {signers : List Signatory}
  {signer : Signatory} {proposal : Call}

variable {subsidy : Subsidy}

theorem getSubsidy_ok {subsidy : Option Subsidy}
    (h : Relayer.getSubsidy userKey fee s = .ok subsidy) :
    s.subsidies userKey = subsidy ∧ ∀ subsidy' ∈ subsidy, fee ≤ subsidy'.remaining := by
  unfold Relayer.getSubsidy at h
  cases hsubsidy : s.subsidies userKey with
  | none =>
    rw [hsubsidy] at h
    cases h
    simp
  | some subsidy' =>
    rw [hsubsidy] at h
    dsimp only at h
    split at h
    case isTrue => cases h
    case isFalse hle =>
      cases h
      simpa using hle

theorem checkSubsidy_some {pallet : Option Pallet}
    (h : Relayer.checkSubsidy userKey fee pallet s = .ok (some key)) :
    ∃ subsidy, s.subsidies userKey = some subsidy ∧ subsidy.payingKey = key ∧
      ∀ pallet' ∈ pallet, Relayer.ensurePalletIsSubsidised pallet' = .ok true := by
  rw [Relayer.checkSubsidy, except_bind_eq_ok] at h
  obtain ⟨subsidy, hget, h⟩ := h
  rw [(getSubsidy_ok hget).1]
  cases subsidy with
  | none => cases h
  | some subsidy =>
    cases pallet with
    | none =>
      cases h
      exact ⟨subsidy, rfl, rfl, by simp⟩
    | some pallet =>
      simp only [except_bind_eq_ok, except_pure_eq_ok] at h
      obtain ⟨subsidised, hpallet, h⟩ := h
      cases subsidised with
      | false => cases h
      | true =>
        cases h
        exact ⟨subsidy, rfl, rfl, by simpa using hpallet⟩

theorem debitSubsidy_ok {r : Option AccountId} (hsubsidy : s.subsidies userKey = some subsidy)
    (h : Relayer.debitSubsidy userKey fee s = (.ok r, s')) :
    fee ≤ subsidy.remaining ∧ s' = Relayer.setSubsidy userKey
      (some { subsidy with remaining := subsidy.remaining - fee }) s := by
  simp only [Relayer.debitSubsidy, run_ok] at h
  obtain ⟨_, hget, h⟩ := h
  obtain ⟨hget, hle⟩ := getSubsidy_ok hget
  obtain rfl := hsubsidy.symm.trans hget
  simp only [run_ok] at h
  obtain ⟨-, rfl⟩ := h
  exact ⟨hle subsidy rfl, rfl⟩

theorem protocolFee_withdrawFee_ok {account : AccountId}
    (h : ProtocolFee.withdrawFee env account fee s = (.ok u, s')) :
    s' = s ∨ ∃ subsidy, s.subsidies account = some subsidy ∧ fee ≤ subsidy.remaining ∧
      s' = chargeSubsidy account fee subsidy s := by
  simp only [ProtocolFee.withdrawFee, ↓run_ok, bind_ok, orError_ok] at h
  obtain ⟨subsidiser, _, ⟨hcheck, rfl⟩, key, s₁, hkey, -, rfl⟩ := h
  cases subsidiser with
  | none => exact .inl (pure_ok.mp hkey).2.symm
  | some subsidiser =>
    obtain ⟨subsidy, hsubsidy, rfl, -⟩ := checkSubsidy_some hcheck
    simp only [ProtocolFee.feeKey, ↓run_ok, bind_ok, orError_ok] at hkey
    obtain ⟨_, _, hdebit, -, rfl⟩ := hkey
    obtain ⟨hle, rfl⟩ := debitSubsidy_ok hsubsidy hdebit
    exact .inr ⟨subsidy, hsubsidy, hle, rfl⟩

include hfree

theorem withdrawFee_charged (account : AccountId) (fee : ℕ) :
    Respects (Charged hashes P) (ProtocolFee.withdrawFee env account fee) := by
  intro s u s' h
  rcases protocolFee_withdrawFee_ok h with rfl | ⟨subsidy, hsubsidy, hfee, rfl⟩
  · exact refl _
  · exact ⟨.free hfree (.debit hsubsidy hfee) trivial, rfl⟩

/-- **Protocol fees** are debited from subsidies. -/
theorem chargeFees_charged : Respects (Charged hashes P) (ProtocolFee.chargeFees env) := by
  refine .forM fun fee _ => .onlyIf ?_
  refine Respects.get.bind fun s => ?_
  cases s.identity.currentPayer with
  | none => exact .pure ()
  | some payer => exact withdrawFee_charged hfree payer fee

theorem chargeFees_effects : Respects (Effects hashes P) (ProtocolFee.chargeFees env) :=
  fun _ _ _ h => (chargeFees_charged hfree h).1

/-! ### Authorizations -/

omit hfree in
theorem acceptAuthWith_ok {target : Signatory} {authId : ℕ}
    (h : Identity.acceptAuthWith target authId accepter s = (.ok u, s')) :
    ∃ (auth : Authorization) (s₁ : Storage), accepter auth.data auth.authorizedBy s = (.ok (), s₁) ∧
      s' = Identity.putAuthorization target authId none s₁ := by
  simp only [Identity.acceptAuthWith, ↓run_ok, bind_ok, attempt_ok] at h
  obtain ⟨auth, _, ⟨-, rfl⟩, _, -, r, s₁, haccept, h⟩ := h
  cases r with
  | error e =>
    simp only [Identity.settleAuth, bind_ok, fail_ok, and_false, exists_false] at h
  | ok _ => exact ⟨auth, s₁, haccept, (modify_ok.mp h).symm⟩

variable (origin : Origin) (target : Signatory) (authId : ℕ)

theorem acceptAuthWith_effects
    (haccepter : ∀ data authBy, Respects (Effects hashes P) (accepter data authBy)) :
    Respects (Effects hashes P) (Identity.acceptAuthWith target authId accepter) := by
  intro s u s' h
  obtain ⟨auth, s₁, haccept, rfl⟩ := acceptAuthWith_ok h
  exact (haccepter _ _ haccept).trans (.free hfree (.consume target authId s₁) trivial)

theorem addAuth_effects (from_ : IdentityId) (target : Signatory) (data : AuthorizationData)
    (expiry : Option Moment) (s : Storage) :
    Effects hashes P s (Identity.addAuth from_ target data expiry s) :=
  .free hfree (.authorize from_ target data expiry s) trivial

/-! ### Rotation of the primary key -/

omit hfree in
theorem acceptAttestation_ok {optionalCddAuthId : Option ℕ}
    (h : Identity.acceptAttestation env did key optionalCddAuthId s = (.ok u, s')) :
    ∃ authId, s' = Identity.putAuthorization (.account key) authId none s := by
  simp only [Identity.acceptAttestation, run_ok] at h
  obtain ⟨authId, -, h⟩ := h
  obtain ⟨auth, s₁, haccept, rfl⟩ := acceptAuthWith_ok h
  simp only [run_ok] at haccept
  obtain ⟨_, -, -, -, rfl⟩ := haccept
  exact ⟨authId, rfl⟩

theorem commonRotatePrimaryKey_effects (targetDid : IdentityId) (newPrimaryKey : AccountId)
    (toSecondary : Bool) (optionalCddAuthId : Option ℕ) :
    Respects (Effects hashes P)
      (Identity.commonRotatePrimaryKey env targetDid newPrimaryKey toSecondary
        optionalCddAuthId) := by
  intro s u s' h
  simp only [Identity.commonRotatePrimaryKey, run_ok, bind_ok, okOr_eq_ok, onlyIf_read_ok] at h
  obtain ⟨_, _, ⟨rfl, rfl⟩, old, _, ⟨hold, rfl⟩, _, _, ⟨hnew, rfl⟩, _, _, ⟨-, rfl⟩, _, s₁, hattest,
    _, _, rfl, rfl⟩ := h
  -- the attestation leaves the keys as they are
  have hrotate : ∀ s₂ : Storage, s₂.identity.keyRecords = s.identity.keyRecords →
      s₂.identity.didRecords = s.identity.didRecords →
      Effects hashes P s₂ (Identity.retire targetDid old toSecondary
        (Identity.promote targetDid newPrimaryKey
          (decide (s.identity.keyRecords newPrimaryKey = some (.secondaryKey targetDid))) s₂)) := by
    intro s₂ hkeys hdids
    refine .free hfree (.rotate toSecondary ?_ (by rw [hkeys]) (by rwa [hkeys])) trivial
    rwa [Identity.getPrimaryKey, hdids]
  rcases onlyIf_ok.mp hattest with ⟨-, hattest⟩ | ⟨-, rfl⟩
  · obtain ⟨authId, rfl⟩ := acceptAttestation_ok hattest
    exact (Effects.free hfree (.consume _ authId s) trivial).trans
      (hrotate _ rfl rfl)
  · exact hrotate s rfl rfl

theorem acceptRotation_effects (rotationAuthId : ℕ) (optionalCddAuthId : Option ℕ)
    (expected : AuthorizationData) (toSecondary : Bool) :
    Respects (Effects hashes P)
      (Identity.acceptRotation env origin rotationAuthId optionalCddAuthId expected
        toSecondary) := by
  refine .read_bind fun sender => acceptAuthWith_effects hfree _ _ fun data targetDid =>
    .ensure_bind fun _ => ?_
  exact commonRotatePrimaryKey_effects hfree targetDid sender toSecondary optionalCddAuthId

/-! ### Registration and child identities -/

omit hfree in
theorem makeDid_ok (h : Identity.makeDid env s = (.ok did, s')) :
    Aside s s' ∧ s'.identity.multiPurposeNonce = s.identity.multiPurposeNonce + 7 ∧
      did = env.didOf s'.identity.multiPurposeNonce ∧ s.identity.didRecords did = none := by
  simp only [Identity.makeDid, run_ok] at h
  obtain ⟨hnone, rfl, rfl⟩ := h
  refine ⟨by constructor <;> first | rfl | exact Nat.le_add_right _ _, rfl, rfl, ?_⟩
  simpa [Identity.isIdentityExists] using hnone

theorem registerDid_effects (sender : AccountId) (secondaryKeys : List AccountId) :
    Respects (Effects hashes P) (Identity.registerDid env sender secondaryKeys) := by
  intro s u s' h
  simp only [Identity.registerDid, ↓run_ok, bind_ok] at h
  obtain ⟨_, _, ⟨-, rfl⟩, -, did, s₁, hdid, _, -, _, s₂, hfees, hauths⟩ := h
  obtain ⟨haside, -, -, hnone⟩ := makeDid_ok hdid
  obtain ⟨hcharged, hidentity⟩ : Charged hashes P s₁ s₂ := chargeFees_charged hfree hfees
  have hprimary : Identity.getPrimaryKey did s₂ = none := by
    rw [Identity.getPrimaryKey, hidentity, haside.didRecords, hnone]
    rfl
  refine (Effects.aside hfree haside).trans (hcharged.trans ?_)
  refine (Effects.free hfree (.linkPrimary sender did hprimary) trivial).trans ?_
  refine Respects.forM (R := Effects hashes P) (fun key _ => .modify fun s => ?_) hauths
  exact addAuth_effects hfree did (.account key) .joinIdentity none s

theorem unverifiedCreateChildIdentity_effects (key : AccountId) (parentDid : IdentityId) :
    Respects (Effects hashes P)
      (Identity.unverifiedCreateChildIdentity env key parentDid) := by
  intro s u s' h
  simp only [Identity.unverifiedCreateChildIdentity, ↓run_ok, bind_ok] at h
  obtain ⟨_, s₁, hfees, childDid, s₂, hdid, rfl⟩ := h
  obtain ⟨haside, -, -, hnone⟩ := makeDid_ok hdid
  have hprimary : Identity.getPrimaryKey childDid s₂ = none := by
    rw [Identity.getPrimaryKey, haside.didRecords, hnone]
    rfl
  refine (chargeFees_effects hfree hfees).trans ((Effects.aside hfree haside).trans ?_)
  refine (Effects.free hfree (.linkPrimary key childDid hprimary) trivial).trans ?_
  exact Effects.aside hfree (by constructor <;> rfl)

theorem unlink_effects (key : AccountId) (did : IdentityId) (s : Storage) :
    Effects hashes P s (Identity.removeKeyRecord key (some did) s) :=
  .free hfree (.unlink key did s) trivial

theorem linkSecondary_effects (key : AccountId) (did : IdentityId) (s : Storage) :
    Effects hashes P s (Identity.addKeyRecord key (.secondaryKey did) s) :=
  .free hfree (.linkSecondary key did s) trivial

theorem baseCreateChildIdentity_effects (secondaryKey : AccountId) :
    Respects (Effects hashes P) (Identity.baseCreateChildIdentity env origin secondaryKey) := by
  refine .read_bind fun ⟨_, parentDid⟩ => .read_bind fun _ => .read_bind fun _ =>
    .read_bind fun _ =>
    (Respects.modify fun s => unlink_effects hfree secondaryKey parentDid s).bind fun _ => ?_
  exact unverifiedCreateChildIdentity_effects hfree secondaryKey parentDid

/-! Children are created together: their identities are made first, and differ. -/

omit hfree in
theorem ensureChildKeys_ok {seen : List AccountId}
    (h : Identity.ensureChildKeys env s seen keys = .ok u) :
    keys.Nodup ∧ ∀ key ∈ keys, key ∉ seen := by
  induction keys generalizing seen with
  | nil => simp
  | cons key keys ih =>
    simp only [Identity.ensureChildKeys, except_bind_eq_ok, ensure_eq_ok] at h
    obtain ⟨_, -, _, hkey, _, -, hkeys⟩ := h
    obtain ⟨hnodup, hseen⟩ := ih hkeys
    simp only [List.mem_cons, not_or] at hseen
    refine ⟨List.nodup_cons.mpr ⟨fun hmem => (hseen key hmem).1 rfl, hnodup⟩, ?_⟩
    intro key' hmem
    rcases List.mem_cons.mp hmem with rfl | hmem
    · exact hkey
    · exact (hseen key' hmem).2

omit hfree in
theorem length_le_of_nodup (h : keys.Nodup) : keys.length ≤ 2 ^ 256 := by
  have hbytes : (keys.map AccountId.bytes).Nodup :=
    h.map fun k k' hk => congrArg AccountId.mk hk
  simpa using hbytes.length_le_card

omit hfree in
theorem makeDids_ok (h : Identity.makeDids env keys s = (.ok children, s')) :
    Aside s s' ∧ (∀ child ∈ children, s.identity.didRecords child.2 = none) ∧
      children.map Prod.snd = (List.range keys.length).map
        fun i => env.didOf (s.identity.multiPurposeNonce + 7 + 7 * i) := by
  induction keys generalizing s children with
  | nil =>
    obtain ⟨rfl, rfl⟩ := pure_ok.mp h
    exact ⟨by constructor <;> rfl, by simp, rfl⟩
  | cons key keys ih =>
    simp only [Identity.makeDids, ↓run_ok, bind_ok] at h
    obtain ⟨did, s₁, hdid, children, _, hchildren, rfl, rfl⟩ := h
    obtain ⟨haside, hnonce, hdidOf, hnone⟩ := makeDid_ok hdid
    obtain ⟨haside', hnone', hdids⟩ := ih hchildren
    refine ⟨haside.trans haside', ?_, ?_⟩
    · intro child hchild
      rcases List.mem_cons.mp hchild with rfl | hchild
      · exact hnone
      · rw [← haside.didRecords]
        exact hnone' child hchild
    · rw [List.length_cons, List.range_succ_eq_map, List.map_cons, List.map_cons, List.map_map,
        hdids, hdidOf, hnonce]
      refine congrArg₂ _ rfl (List.map_congr_left fun i _ => ?_)
      congr 1
      simp only [Nat.succ_eq_add_one]
      omega

omit hfree in
theorem nodup_didOf (n : ℕ) {k : ℕ} (hk : k ≤ 2 ^ 256) :
    ((List.range k).map fun i => env.didOf (n + 7 * i)).Nodup := by
  refine List.Nodup.map_on ?_ List.nodup_range
  -- of two different places, one comes first
  have hlt : ∀ i j, i < j → j < k → env.didOf (n + 7 * i) ≠ env.didOf (n + 7 * j) := by
    intro i j hij hj
    have hne := env.didOf_ne (n + 7 * i) (j - i) (by omega) (by omega)
    rwa [show n + 7 * i + 7 * (j - i) = n + 7 * j by omega] at hne
  intro i hi j hj heq
  rw [List.mem_range] at hi hj
  rcases Nat.lt_trichotomy i j with hij | hij | hij
  · exact absurd heq (hlt i j hij hj)
  · exact hij
  · exact absurd heq.symm (hlt j i hij hi)

omit hfree in
theorem getPrimaryKey_addKeyRecord_of_ne {did' : IdentityId} (hne : did' ≠ did) (s : Storage) :
    Identity.getPrimaryKey did' (Identity.addKeyRecord key (.primaryKey did) s) =
      Identity.getPrimaryKey did' s := by
  unfold Identity.addKeyRecord Identity.getPrimaryKey
  split
  · simp [Identity.putPrimaryKey, Identity.putDidKey, Identity.putKeyRecord, hne]
  · rfl

theorem forM_children_effects {parentDid : IdentityId} (hnodup : (children.map Prod.snd).Nodup)
    (hnone : ∀ child ∈ children, Identity.getPrimaryKey child.2 s = none)
    (h : (forM children fun (key, childDid) => do
      Tx.modify (Identity.addKeyRecord key (.primaryKey childDid))
      Tx.modify (Identity.setParent childDid (some parentDid)) : Dispatch Unit) s =
        (.ok u, s')) : Effects hashes P s s' := by
  induction children generalizing s with
  | nil =>
    rw [forM_nil_ok] at h
    exact h ▸ refl s
  | cons child children ih =>
    obtain ⟨key, did⟩ := child
    simp only [forM_cons_ok, run_ok] at h
    obtain ⟨_, ⟨_, _, rfl, rfl⟩, h⟩ := h
    rw [List.map_cons, List.nodup_cons] at hnodup
    have hprimary := hnone (key, did) List.mem_cons_self
    refine (Effects.free hfree (.linkPrimary key did hprimary) trivial).trans ?_
    refine (Effects.aside hfree (by constructor <;> rfl)).trans (ih hnodup.2 ?_ h)
    intro child hchild
    have hne : child.2 ≠ did := by
      rintro rfl
      exact hnodup.1 (List.mem_map.mpr ⟨child, hchild, rfl⟩)
    exact (getPrimaryKey_addKeyRecord_of_ne hne s).trans
      (hnone child (List.mem_cons_of_mem _ hchild))

theorem baseCreateChildIdentities_effects (childKeys : List AccountId) (expiresAt : Moment) :
    Respects (Effects hashes P)
      (Identity.baseCreateChildIdentities env origin childKeys expiresAt) := by
  intro s u s' h
  simp only [Identity.baseCreateChildIdentities, ↓run_ok, bind_ok] at h
  obtain ⟨⟨_, parentDid⟩, _, ⟨-, rfl⟩, _, -, _, -, _, hkeys, _, s₁, hfees, children, s₂, hchildren,
    h⟩ := h
  obtain ⟨haside, hnone, hdids⟩ := makeDids_ok hchildren
  have hnodup : (children.map Prod.snd).Nodup := by
    rw [hdids]
    exact nodup_didOf _ (length_le_of_nodup (ensureChildKeys_ok hkeys).1)
  refine (chargeFees_effects hfree hfees).trans ((Effects.aside hfree haside).trans ?_)
  refine (Effects.aside hfree (by constructor <;> rfl)).trans (forM_children_effects hfree hnodup ?_ h)
  intro child hchild
  change (s₂.identity.didRecords child.2).join = none
  rw [haside.didRecords, hnone child hchild]
  rfl

/-! ### Secondary keys -/

theorem baseAddSecondaryKeysWithAuthorization_effects (keys : List AccountId) (expiresAt : Moment) :
    Respects (Effects hashes P)
      (Identity.baseAddSecondaryKeysWithAuthorization env origin keys expiresAt) := by
  refine .read_bind fun ⟨_, did⟩ => .read_bind fun _ =>
    .read_bind fun _ => (chargeFees_effects hfree).bind fun _ => ?_
  refine (Respects.forM fun key _ => .modify fun s => ?_).bind fun _ =>
    modify_aside hfree fun s => by constructor <;> rfl
  exact linkSecondary_effects hfree key did s

theorem joinIdentity_effects :
    Respects (Effects hashes P) (Identity.joinIdentity env origin authId) := by
  refine .read_bind fun key => acceptAuthWith_effects hfree _ _ fun data targetDid => ?_
  refine .ensure_bind fun _ => .read_bind fun _ => .read_bind fun _ => .ensure_bind fun _ =>
    (chargeFees_effects hfree).bind fun _ =>
    (modify_aside hfree fun s => by constructor <;> rfl).bind fun _ => .modify fun s => ?_
  exact linkSecondary_effects hfree key targetDid s

/-! ### Subsidies -/

theorem authAcceptPayingKey_effects (userDid from_ : IdentityId) (userKey payingKey : AccountId)
    (polyxLimit : ℕ) :
    Respects (Effects hashes P) (do
      Relayer.authAcceptPayingKey env userDid from_ userKey payingKey polyxLimit
      Tx.modify (Storage.deposit (.acceptedPayingKey userKey payingKey))) := by
  intro s u s' h
  simp only [Relayer.authAcceptPayingKey, run_ok, bind_ok] at h
  obtain ⟨_, _, ⟨_, _, ⟨-, rfl⟩, _, _, ⟨-, rfl⟩, _, _, ⟨-, rfl⟩, _, _, rfl, _, _, rfl, rfl⟩, rfl⟩ := h
  -- the accounts in use are noted first, and the limit is set in the end
  cases hold : s.subsidies userKey with
  | none =>
    have haside : Aside s (Relayer.addAccountKeyRefCount payingKey
      (Relayer.addAccountKeyRefCount userKey s)) := by constructor <;> rfl
    refine (Effects.aside hfree haside).trans (.single (hfree .limit trivial) ?_)
    exact .limit userKey (some ⟨payingKey, polyxLimit⟩) [.acceptedPayingKey userKey payingKey] _
      (by simp) (by simp [Event.changesLimit])
  | some subsidy =>
    have haside : Aside s (Relayer.addAccountKeyRefCount payingKey
      (Relayer.removeAccountKeyRefCount subsidy.payingKey s)) := by constructor <;> rfl
    have hlimit : Occurs hashes .limit _ _ :=
      .limit userKey (some ⟨payingKey, polyxLimit⟩)
        [.removedPayingKey userKey subsidy.payingKey, .acceptedPayingKey userKey payingKey]
        (Relayer.addAccountKeyRefCount payingKey
          (Relayer.removeAccountKeyRefCount subsidy.payingKey s))
        (by simp) (by simp [Event.changesLimit])
    refine (Effects.aside hfree haside).trans (.single (hfree .limit trivial) ?_)
    convert hlimit using 1
    simp [Relayer.switchPayingKey, Relayer.setSubsidy, Relayer.addAccountKeyRefCount,
      Relayer.removeAccountKeyRefCount, Storage.mapIdentity, Storage.deposit]

theorem baseAcceptPayingKey_effects :
    Respects (Effects hashes P) (Relayer.baseAcceptPayingKey env origin authId) := by
  refine .read_bind fun callerKey => .read_bind fun userDid =>
    acceptAuthWith_effects hfree _ _ fun data authBy => ?_
  refine .read_bind fun ⟨userKey, payingKey, polyxLimit⟩ => .ensure_bind fun _ => ?_
  exact authAcceptPayingKey_effects hfree userDid authBy userKey payingKey polyxLimit

theorem baseRemovePayingKey_effects (userKey payingKey : AccountId) :
    Respects (Effects hashes P) (Relayer.baseRemovePayingKey env origin userKey payingKey) := by
  intro s u s' h
  simp only [Relayer.baseRemovePayingKey, run_ok] at h
  obtain ⟨_, -, _, -, _, -, rfl⟩ := h
  have haside : Aside s (Relayer.removeAccountKeyRefCount userKey
    (Relayer.removeAccountKeyRefCount payingKey s)) := by constructor <;> rfl
  refine (Effects.aside hfree haside).trans (.single (hfree .limit trivial) ?_)
  exact .limit userKey none [.removedPayingKey userKey payingKey] _ (by simp)
    (by simp [Event.changesLimit])

theorem baseUpdatePolyxLimit_effects (userKey : AccountId) (action : Relayer.UpdateAction)
    (amount : ℕ) :
    Respects (Effects hashes P)
      (Relayer.baseUpdatePolyxLimit env origin userKey action amount) := by
  intro s u s' h
  simp only [Relayer.baseUpdatePolyxLimit, run_ok] at h
  obtain ⟨⟨payingKey, _⟩, -, subsidy, -, remaining, -, rfl⟩ := h
  refine .single (hfree .limit trivial) ?_
  exact .limit userKey (some { subsidy with remaining := remaining })
    [.updatedPolyxLimit userKey payingKey remaining] s (by simp) (by simp [Event.changesLimit])

/-! ### Multisigs -/

theorem forM_addAuthForSigners_effects {multisigOwner : IdentityId}
    (g : MultiSigStorage → MultiSigStorage) (h : (forM signers fun signer =>
      Tx.modify (MultiSig.unsafeAddAuthForSigners multisigOwner signer multisig) :
        Dispatch Unit) s = (.ok u, s')) :
    Effects hashes P (s.mapMultisig g) (s'.mapMultisig g) := by
  induction signers generalizing s with
  | nil =>
    rw [forM_nil_ok] at h
    exact h ▸ refl _
  | cons signer signers ih =>
    simp only [forM_cons_ok, modify_ok] at h
    obtain ⟨_, rfl, h⟩ := h
    exact (addAuth_effects hfree multisigOwner signer (.addMultiSigSigner multisig) none
      (s.mapMultisig g)).trans (ih h)

theorem createMultisig_effects (signers : List Signatory) (sigsRequired : ℕ) :
    Respects (Effects hashes P)
      (MultiSig.createMultisig hashes env origin signers sigsRequired) := by
  intro s u s' h
  simp only [MultiSig.createMultisig, MultiSig.createMultisigAccount, MultiSig.ensureSigsInBounds,
    ↓run_ok, bind_ok, except_bind_eq_ok, ensure_eq_ok, okOr_eq_ok, checkedAdd_eq_some] at h
  obtain ⟨⟨sender, _⟩, _, ⟨-, rfl⟩, _, ⟨_, -, -, hrequired⟩, did, -, _, ⟨hnonce, rfl⟩, _, s₁,
    hauths, rfl⟩ := h
  refine (Effects.single (hfree .createMultisig trivial)
    (.createMultisig sender did hrequired hnonce)).trans ?_
  exact forM_addAuthForSigners_effects hfree _ hauths

theorem unsafeAcceptMultisigSigner_effects (key : AccountId) (authId : ℕ) :
    Respects (Effects hashes P) (MultiSig.unsafeAcceptMultisigSigner key authId) := by
  refine acceptAuthWith_effects hfree _ _ fun data authBy => ?_
  intro s u s' h
  simp only [run_ok, ensure_eq_ok] at h
  obtain ⟨multisig, -, _, -, _, -, _, hsigner, _, hkey, _, -, rfl⟩ := h
  have hrecord : s.identity.keyRecords key = none := by
    simp only [MultiSig.ensureKeyMaySign, except_bind_eq_ok, ensure_eq_ok] at hkey
    obtain ⟨_, hidentity, _, hmultisig, -⟩ := hkey
    unfold Identity.isKeyLinked at hidentity hmultisig
    split at hidentity <;> simp_all
  exact .free hfree (.addSigner hrecord (by simpa using hsigner)) trivial

omit hfree in
theorem unsafeSignerRemoval_putNumberOfSigners (multisig : AccountId) (signer : Signatory)
    (number : ℕ) (s : Storage) :
    MultiSig.unsafeSignerRemoval multisig signer (MultiSig.putNumberOfSigners multisig number s) =
      MultiSig.putNumberOfSigners multisig number
        (MultiSig.unsafeSignerRemoval multisig signer s) := by
  cases signer with
  | identity did => rfl
  | account key =>
    have hkey : (MultiSig.putNumberOfSigners multisig number s).identity = s.identity := rfl
    simp only [MultiSig.unsafeSignerRemoval, MultiSig.unlinkSigner, Identity.removeKeyRecord, hkey]
    cases s.identity.keyRecords key with
    | none => rfl
    | some record => cases record <;> rfl

omit hfree in
theorem removeMultisigSigner_effects (hP : ∀ multisig, P (.removeSigners multisig [signer]))
    (origin : Origin) :
    Respects (Effects hashes P) (MultiSig.removeMultisigSigner origin signer) := by
  intro s u s' h
  simp only [MultiSig.removeMultisigSigner, MultiSig.ensureMsSigner, run_ok, ensure_eq_ok] at h
  obtain ⟨sender, -, _, -, _, hsigner, _, hrequired, _, -, rfl⟩ := h
  rw [unsafeSignerRemoval_putNumberOfSigners]
  refine .single (hP sender) (.removeSigners (by simpa using hsigner) ?_ ?_)
  · exact Nat.succ_le_of_lt (Nat.zero_lt_of_lt hrequired)
  · exact Nat.le_sub_one_of_lt hrequired

omit hfree in
theorem removeMultisigSignersViaCreator_ok {origin : Origin}
    (h : MultiSig.removeMultisigSignersViaCreator origin multisig signers s = (.ok u, s')) :
    (∀ signer ∈ signers, s.multisig.multiSigSigners (multisig, signer)) ∧
      signers.length ≤ s.multisig.numberOfSigners multisig ∧
      s.multisig.multiSigSignsRequired multisig ≤
        s.multisig.numberOfSigners multisig - signers.length ∧
      s' = MultiSig.putNumberOfSigners multisig
        (s.multisig.numberOfSigners multisig - signers.length)
        (signers.foldl (fun s signer => MultiSig.unsafeSignerRemoval multisig signer s) s) := by
  simp only [MultiSig.removeMultisigSignersViaCreator, MultiSig.ensureMsSigner, ↓run_ok, bind_ok,
    ensure_eq_ok, okOr_eq_ok, checkedSub_eq_some, List.forM_eq_forM, except_forM_eq_ok] at h
  obtain ⟨_, _, ⟨-, rfl⟩, _, -, _, -, _, ⟨hlength, rfl⟩, _, hrequired, _, hsigners, _, s₁, hremove,
    rfl⟩ := h
  obtain rfl := forM_ok_foldl (g := fun s signer => MultiSig.unsafeSignerRemoval multisig signer s)
    (fun _ _ _ h => (modify_ok.mp h).symm) hremove
  exact ⟨hsigners, hlength, hrequired, rfl⟩

omit hfree in
omit hfree in
theorem baseChangeMultisigRequiredSignatures_effects {signaturesRequired : ℕ}
    (hP : P (.changeRequired multisig signaturesRequired)) :
    Respects (Effects hashes P)
      (MultiSig.baseChangeMultisigRequiredSignatures multisig signaturesRequired) := by
  intro s u s' h
  simp only [MultiSig.baseChangeMultisigRequiredSignatures, run_ok, ensure_eq_ok] at h
  obtain ⟨_, hle, _, -, rfl⟩ := h
  exact .single hP (.changeRequired hle)

/-! ### Proposals -/

omit hfree in
theorem ensureOpen_ok {details : ProposalDetails} (h : MultiSig.ensureOpen details s = .ok u) :
    details.status = .activeOrExpired := by
  unfold MultiSig.ensureOpen at h
  split at h
  case h_5 hstatus => exact hstatus
  all_goals cases h

omit hfree in
theorem unsafeApprove_ok (h : MultiSig.unsafeApprove multisig signer proposalId s = (.ok u, s')) :
    MayVote multisig proposalId signer s ∧ s' = writeApproval multisig proposalId signer s := by
  simp only [MultiSig.unsafeApprove, ↓run_ok, bind_ok, ensure_eq_ok, onlyIf_modify_ok] at h
  obtain ⟨_, _, ⟨-, rfl⟩, _, hvoted, _, -, _, hopen, _, _, rfl, rfl⟩ := h
  exact ⟨⟨by simpa using hvoted, ensureOpen_ok hopen⟩, rfl⟩

omit hfree in
theorem unsafeReject_ok (h : MultiSig.unsafeReject multisig signer proposalId s = (.ok u, s')) :
    MayVote multisig proposalId signer s ∧ s' = writeRejection multisig proposalId signer s := by
  simp only [MultiSig.unsafeReject, ↓run_ok, bind_ok, ensure_eq_ok, onlyIf_modify_ok] at h
  obtain ⟨_, _, ⟨-, rfl⟩, _, hvoted, _, hopen, _, _, rfl, rfl⟩ := h
  exact ⟨⟨by simpa using hvoted, ensureOpen_ok hopen⟩, rfl⟩

omit hfree in
theorem unsafeApprove_effects (hP : P (.approve multisig proposalId)) (signer : Signatory) :
    Respects (Effects hashes P) (MultiSig.unsafeApprove multisig signer proposalId) := by
  intro s u s' h
  obtain ⟨hvote, rfl⟩ := unsafeApprove_ok h
  exact .single hP (.approve hvote)

omit hfree in
theorem unsafeReject_effects (hP : P (.reject multisig proposalId)) (signer : Signatory) :
    Respects (Effects hashes P) (MultiSig.unsafeReject multisig signer proposalId) := by
  intro s u s' h
  obtain ⟨hvote, rfl⟩ := unsafeReject_ok h
  exact .single hP (.reject hvote)

theorem createProposal_effects (hP : ∀ proposalId, P (.propose multisig proposalId proposal))
    (signer : Signatory) (expiry : Option Moment) (autoClose proposalToId : Bool) :
    Respects (Effects hashes P)
      (MultiSig.createProposal hashes multisig signer proposal expiry autoClose
        proposalToId) := by
  intro s u s' h
  simp only [MultiSig.createProposal, ↓run_ok, bind_ok] at h
  obtain ⟨_, _, ⟨-, rfl⟩, _, s₁, hid, happrove⟩ := h
  obtain ⟨haside, htxDone⟩ : Effects hashes P s s₁ ∧
      s.multisig.multiSigTxDone multisig = s₁.multisig.multiSigTxDone multisig := by
    rcases onlyIf_ok.mp hid with ⟨-, hid⟩ | ⟨-, rfl⟩
    · obtain rfl := modify_ok.mp hid
      exact ⟨Effects.aside hfree (by constructor <;> rfl), rfl⟩
    · exact ⟨refl _, rfl⟩
  rw [htxDone] at happrove
  obtain ⟨hvote, rfl⟩ := unsafeApprove_ok happrove
  exact haside.trans (.single (hP _) (.propose proposal expiry autoClose hvote.notVoted))

theorem createOrApproveProposal_effects
    (hpropose : ∀ proposalId, P (.propose multisig proposalId proposal))
    (happrove : ∀ proposalId, P (.approve multisig proposalId)) (signer : Signatory)
    (expiry : Option Moment) (autoClose : Bool) :
    Respects (Effects hashes P)
      (MultiSig.createOrApproveProposal hashes multisig signer proposal expiry autoClose) := by
  refine Respects.get.bind fun s => ?_
  split
  · exact unsafeApprove_effects (happrove _) signer
  · exact createProposal_effects hfree hpropose signer expiry autoClose true

end Free

/-! ### All calls -/

section Calls

variable {hashes : Hashes} (env : Env) (run : AccountId → Call → Dispatch Unit) (origin : Origin)

/-- **What a call of a pallet does** is a sequence of effects that it may have, unless it is to
execute a proposal. -/
theorem dispatchLeaf_effects (call : Call)
    (hcall : ∀ multisig proposalId multisigDid,
      call ≠ .executeScheduledProposal multisig proposalId multisigDid) :
    Respects (Effects hashes fun effect => effect.Of call)
      (dispatchLeaf hashes env run origin call) := by
  have hfree : ∀ effect : Effect, effect.Free → effect.Of call := fun _ h => .free h call
  cases call with
  | cddRegisterDid targetAccount secondaryKeys =>
    exact .read_bind fun _ => .ensure_bind fun _ =>
      .ensure_bind fun _ => registerDid_effects hfree targetAccount secondaryKeys
  | acceptPrimaryKey rotationAuthId optionalCddAuthId =>
    exact acceptRotation_effects hfree origin rotationAuthId optionalCddAuthId _ _
  | rotatePrimaryKeyToSecondary authId optionalCddAuthId =>
    exact acceptRotation_effects hfree origin authId optionalCddAuthId _ _
  | changeCddRequirementForMkRotation authRequired =>
    exact .read_bind fun _ => modify_aside hfree fun s => by constructor <;> rfl
  | joinIdentityAsKey authId => exact joinIdentity_effects hfree origin authId
  | leaveIdentityAsKey =>
    exact .read_bind fun ⟨key, did⟩ => .read_bind fun _ => .read_bind fun _ =>
      .modify (unlink_effects hfree key did)
  | freezeSecondaryKeys | unfreezeSecondaryKeys =>
    exact .read_bind fun ⟨_, _⟩ => modify_aside hfree fun s => by constructor <;> rfl
  | addAuthorization target data expiry =>
    exact .read_bind fun fromDid => (Respects.onlyIf (.ensure _ _)).bind fun _ =>
      .modify (addAuth_effects hfree fromDid target data expiry)
  | removeAuthorization target authId authIssuerPays =>
    exact .read_bind fun _ => .read_bind fun _ => .read_bind fun _ => .ensure_bind fun _ =>
      .modify fun s => .free hfree (.consume target authId s) trivial
  | addSecondaryKeysWithAuthorization keys expiresAt =>
    exact baseAddSecondaryKeysWithAuthorization_effects hfree origin keys expiresAt
  | setSecondaryKeyPermissions key =>
    exact .read_bind fun ⟨_, _⟩ => .read_bind fun _ => .ensure _ _
  | removeSecondaryKeys keys =>
    exact .read_bind fun ⟨_, did⟩ => .read_bind fun _ => .forM fun key _ =>
      .modify (unlink_effects hfree key did)
  | createChildIdentity secondaryKey =>
    exact baseCreateChildIdentity_effects hfree origin secondaryKey
  | createChildIdentities childKeys expiresAt =>
    exact baseCreateChildIdentities_effects hfree origin childKeys expiresAt
  | unlinkChildIdentity childDid =>
    exact .read_bind fun ⟨_, _⟩ => .read_bind fun _ =>
      .ensure_bind fun _ => modify_aside hfree fun s => by constructor <;> rfl
  | createMultisig signers sigsRequired =>
    exact createMultisig_effects hfree origin signers sigsRequired
  | createOrApproveProposalAsIdentity multisig proposal expiry autoClose =>
    exact .read_bind fun signer => createOrApproveProposal_effects hfree
      (fun proposalId => .propose proposalId rfl)
      (fun proposalId => .createOrApproveAsIdentity multisig proposalId proposal expiry autoClose)
      signer expiry autoClose
  | createOrApproveProposalAsKey multisig proposal expiry autoClose =>
    exact .read_bind fun signer => createOrApproveProposal_effects hfree
      (fun proposalId => .propose proposalId rfl)
      (fun proposalId => .createOrApproveAsKey multisig proposalId proposal expiry autoClose)
      signer expiry autoClose
  | createProposalAsIdentity multisig proposal expiry autoClose
  | createProposalAsKey multisig proposal expiry autoClose =>
    exact .read_bind fun signer => createProposal_effects hfree
      (fun proposalId => .propose proposalId rfl) signer expiry autoClose false
  | approveAsIdentity multisig proposalId =>
    exact .read_bind (unsafeApprove_effects (.approveAsIdentity multisig proposalId))
  | approveAsKey multisig proposalId =>
    exact .read_bind (unsafeApprove_effects (.approveAsKey multisig proposalId))
  | rejectAsIdentity multisig proposalId =>
    exact .read_bind (unsafeReject_effects (.rejectAsIdentity multisig proposalId))
  | rejectAsKey multisig proposalId =>
    exact .read_bind (unsafeReject_effects (.rejectAsKey multisig proposalId))
  | acceptMultisigSignerAsIdentity authId =>
    exact .read_bind fun _ => .fail _
  | acceptMultisigSignerAsKey authId =>
    exact .read_bind fun key => unsafeAcceptMultisigSigner_effects hfree key authId
  | addMultisigSigner signer =>
    exact .read_bind fun sender => .read_bind fun _ =>
      .modify fun s => addAuth_effects hfree _ signer (.addMultiSigSigner sender) none s
  | removeMultisigSigner signer =>
    exact removeMultisigSigner_effects (fun multisig => .removeSigner multisig signer) origin
  | addMultisigSignersViaCreator multisig signers =>
    exact .read_bind fun callerDid => .read_bind fun _ => .forM fun signer _ =>
      .modify (addAuth_effects hfree callerDid signer (.addMultiSigSigner multisig) none)
  | removeMultisigSignersViaCreator multisig signers =>
    intro s u s' h
    obtain ⟨hsigners, hlength, hrequired, rfl⟩ := removeMultisigSignersViaCreator_ok h
    exact .single (.removeSigners multisig signers) (.removeSigners hsigners hlength hrequired)
  | changeSigsRequired sigsRequired =>
    exact .read_bind fun account => .read_bind fun _ =>
      baseChangeMultisigRequiredSignatures_effects (.changeRequired account sigsRequired)
  | changeSigsRequiredViaCreator multisig signaturesRequired =>
    exact .read_bind fun _ => .read_bind fun _ => baseChangeMultisigRequiredSignatures_effects
        (.changeRequiredViaCreator multisig signaturesRequired)
  | makeMultisigSecondary multisig =>
    exact .read_bind fun did => .read_bind fun _ => .read_bind fun _ => .read_bind fun _ =>
      .modify (linkSecondary_effects hfree multisig did)
  | makeMultisigPrimary multisig optionalCddAuthId =>
    exact .read_bind fun did => .read_bind fun _ =>
      commonRotatePrimaryKey_effects hfree did multisig false optionalCddAuthId
  | executeScheduledProposal multisig proposalId multisigDid =>
    exact absurd rfl (hcall multisig proposalId multisigDid)
  | removeCreatorControls multisig =>
    exact .read_bind fun did => .modify fun s =>
      .single (hfree .abdicate trivial) (.abdicate multisig did s)
  | setPayingKey userKey polyxLimit =>
    exact .read_bind fun ⟨payingKey, payingDid⟩ => .modify fun s =>
      addAuth_effects hfree payingDid (.account userKey) _ none s
  | acceptPayingKey authId => exact baseAcceptPayingKey_effects hfree origin authId
  | removePayingKey userKey payingKey =>
    exact baseRemovePayingKey_effects hfree origin userKey payingKey
  | updatePolyxLimit userKey polyxLimit =>
    exact baseUpdatePolyxLimit_effects hfree origin userKey .set polyxLimit
  | increasePolyxLimit userKey amount =>
    exact baseUpdatePolyxLimit_effects hfree origin userKey .add amount
  | decreasePolyxLimit userKey amount =>
    exact baseUpdatePolyxLimit_effects hfree origin userKey .sub amount
  | other pallet number =>
    exact (chargeFees_effects hfree).bind fun _ => .ensure _ _
  | batch | relayTx | dispatchAs | asDerivative | withWeight => exact .fail _

end Calls

end Accounts

end Polymesh
