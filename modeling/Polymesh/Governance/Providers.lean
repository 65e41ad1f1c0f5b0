import Polymesh.Governance.Membership

/-!
# Providers of customer due diligence

A claim of customer due diligence is valid if its issuer is an active provider, or is inactive and
was not so yet when the claim was made (`pallets/identity/src/claims.rs`). Providers are one of the
groups. To remove a provider is meant to end its claims; but a provider that was disabled and added
again is in both lists, and only one entry is removed.
-/

namespace Polymesh

open Transactional Tx SortedLists
open TransitionSystem (run run_invariant)

namespace Governance

/-! ## Claims -/

/-- What the validity of a claim depends on. -/
structure IdentityClaim where
  claimIssuer : IdentityId
  lastUpdateDate : Moment
  expiry : Option Moment
deriving DecidableEq

/-- The identities of the chain itself that issue claims of customer due diligence. -/
inductive SystematicIssuers
  | committee
  | cddProvider
deriving DecidableEq

/-- An identity that is written as a text, followed by zeros. -/
def identityOfText (text : String) : IdentityId :=
  ⟨Fin.ofNat _ ((text.toList.map Char.toNat ++ List.replicate (32 - text.length) 0).foldl
    (fun n c => n * 256 + c) 0)⟩

def SystematicIssuers.asId : SystematicIssuers → IdentityId
  | .committee => identityOfText "system:governance_committee"
  | .cddProvider => identityOfText "system:customer_due_diligence"

/-- The moment to which claims have to last. A sum that overflows is zero. -/
def expWithLeeway (leeway : Moment) (s : Storage) : Moment := (checkedAdd 64 s.now leeway).getD 0

def isIdentityClaimNotExpiredAt (claim : IdentityClaim) (moment : Moment) : Bool :=
  match claim.expiry with
  | some expiry => moment < expiry
  | none => true

def isActive (claim : IdentityClaim) (s : Storage) : Bool :=
  claim.claimIssuer ∈ s.group.activeMembers

def isSystematicCddProvider (claim : IdentityClaim) : Bool :=
  SystematicIssuers.asId .cddProvider = claim.claimIssuer ||
    SystematicIssuers.asId .committee = claim.claimIssuer

/-- The issuer is inactive, and the claim was made before it was so. -/
def isInactive (moment : Moment) (claim : IdentityClaim) (s : Storage) : Bool :=
  (((s.group.inactiveMembers.filter (!Group.isMemberExpired · s.now)).filter
    (!Group.isMemberExpired · moment)).filter (·.id = claim.claimIssuer)).any
      (claim.lastUpdateDate < ·.deactivatedAt)

def isCddClaimValid (leeway : Moment) (claim : IdentityClaim) (s : Storage) : Bool :=
  isIdentityClaimNotExpiredAt claim (expWithLeeway leeway s) &&
    (isActive claim s || isSystematicCddProvider claim ||
      isInactive (expWithLeeway leeway s) claim s)

/-- No claim of a provider is valid, with any leeway. -/
def Revoked (who : IdentityId) (s : Storage) : Prop :=
  ∀ leeway claim, claim.claimIssuer = who → isCddClaimValid leeway claim s = false

/-- A record with which no claim is valid: it has expired, or dates from the very start. -/
def Dead (now : Moment) (member : InactiveMember) : Prop :=
  Group.isMemberExpired member now = true ∨ member.deactivatedAt = 0

/-- The group knows nothing of a provider with which a claim would be valid. -/
structure Gone (who : IdentityId) (s : Storage) : Prop where
  active : who ∉ s.group.activeMembers
  inactive : ∀ member ∈ s.group.inactiveMembers, member.id = who → Dead s.now member

section Validity

variable {who : IdentityId} {s : Storage}

theorem expWithLeeway_zero_le (s : Storage) : expWithLeeway 0 s ≤ s.now := by
  unfold expWithLeeway checkedAdd
  split_ifs
  · exact le_rfl
  · exact Nat.zero_le _

theorem isMemberExpired_mono {member : InactiveMember} {m n : Moment} (hmn : m ≤ n)
    (h : Group.isMemberExpired member m = true) : Group.isMemberExpired member n = true := by
  unfold Group.isMemberExpired at h ⊢
  split at h
  · exact decide_eq_true ((of_decide_eq_true h).trans hmn)
  · cases h

theorem isInactive_iff {moment : Moment} {claim : IdentityClaim} :
    isInactive moment claim s = true ↔ ∃ member ∈ s.group.inactiveMembers,
      member.id = claim.claimIssuer ∧ Group.isMemberExpired member s.now = false ∧
        Group.isMemberExpired member moment = false ∧
        claim.lastUpdateDate < member.deactivatedAt := by
  simp only [isInactive, List.any_eq_true, List.mem_filter, Bool.not_eq_true',
    decide_eq_true_eq]
  constructor
  · rintro ⟨member, ⟨⟨⟨hmem, hnow⟩, hmoment⟩, hid⟩, hlt⟩
    exact ⟨member, hmem, hid, hnow, hmoment, hlt⟩
  · rintro ⟨member, hmem, hid, hnow, hmoment, hlt⟩
    exact ⟨member, ⟨⟨⟨hmem, hnow⟩, hmoment⟩, hid⟩, hlt⟩

/-- **When no claim of a provider is valid.** -/
theorem revoked_iff : Revoked who s ↔
    Gone who s ∧ ∀ issuer, SystematicIssuers.asId issuer ≠ who := by
  constructor
  · intro h
    -- a claim from the very start that never expires
    have hclaim := h 0 ⟨who, 0, none⟩ rfl
    simp only [isCddClaimValid, isIdentityClaimNotExpiredAt, Bool.true_and, Bool.or_eq_false_iff,
      isActive, decide_eq_false_iff_not, isSystematicCddProvider] at hclaim
    obtain ⟨⟨hactive, hcdd, hcommittee⟩, hinactive⟩ := hclaim
    refine ⟨⟨hactive, fun member hmem hid => ?_⟩, fun issuer => ?_⟩
    · by_contra hdead
      obtain ⟨hlasts, hdate⟩ := not_or.mp hdead
      rw [Bool.not_eq_true] at hlasts
      have hmoment : Group.isMemberExpired member (expWithLeeway 0 s) = false := by
        refine Bool.eq_false_iff.mpr fun hexpired => ?_
        rw [isMemberExpired_mono (expWithLeeway_zero_le s) hexpired] at hlasts
        cases hlasts
      have hvalid : isInactive (expWithLeeway 0 s) ⟨who, 0, none⟩ s = true :=
        isInactive_iff.mpr ⟨member, hmem, hid, hlasts, hmoment, Nat.pos_of_ne_zero hdate⟩
      rw [hinactive] at hvalid
      cases hvalid
    · cases issuer with
      | committee => exact hcommittee
      | cddProvider => exact hcdd
  · rintro ⟨hgone, hissuer⟩ leeway claim rfl
    have hactive : isActive claim s = false := decide_eq_false hgone.active
    have hsystematic : isSystematicCddProvider claim = false := by
      simp [isSystematicCddProvider, hissuer]
    have hinactive : isInactive (expWithLeeway leeway s) claim s = false := by
      refine Bool.eq_false_iff.mpr fun hvalid => ?_
      obtain ⟨member, hmem, hid, hlasts, -, hlt⟩ := isInactive_iff.mp hvalid
      rcases hgone.inactive member hmem hid with hexpired | hzero
      · rw [hlasts] at hexpired
        cases hexpired
      · rw [hzero] at hlt
        cases hlt
    simp [isCddClaimValid, hactive, hsystematic, hinactive]

end Validity

/-! ## Calls that add a provider -/

mutual

/-- The call, or one of a batch, adds a provider. -/
def Call.Adds (who : IdentityId) : Call → Prop
  | .addMember add => add = who
  | .swapMember _ add => add = who
  | .resetMembers members => who ∈ members
  | .batch _ calls => Call.AnyAdds who calls
  | _ => False

def Call.AnyAdds (who : IdentityId) : List Call → Prop
  | [] => False
  | call :: calls => call.Adds who ∨ Call.AnyAdds who calls

end

/-- A call that adds a provider succeeds. -/
def Action.Adds (who : IdentityId) (s : Storage) : Action → Prop
  | .extrinsic env depth origin call =>
    call.Adds who ∧ ∃ s', dispatch .cddProviders env depth origin call s = (.ok (), s')
  | .nextBlock _ => False

variable {who : IdentityId} {calls : List Call} {s : Storage}

theorem Call.anyAdds_iff :
    Call.AnyAdds who calls ↔ ∃ call ∈ calls, call.Adds who := by
  induction calls with
  | nil => simp [Call.AnyAdds]
  | cons call calls ih => rw [Call.AnyAdds, ih, List.exists_mem_cons_iff]

theorem Call.not_adds_of_batch {mode : BatchMode} (h : ¬ Call.Adds who (.batch mode calls)) :
    ∀ call ∈ calls, ¬ call.Adds who := by
  intro call hmem hadds
  rw [Call.Adds, Call.anyAdds_iff] at h
  exact h ⟨call, hmem, hadds⟩

/-! ## Motions do not concern providers -/

/-- The group and the time are as they were. -/
def SameGroup (s s' : Storage) : Prop := s'.group = s.group ∧ s'.now = s.now

instance : Std.Refl SameGroup := ⟨fun _ => ⟨rfl, rfl⟩⟩

instance : IsTrans Storage SameGroup :=
  ⟨fun _ _ _ hab hbc => ⟨hbc.1.trans hab.1, hbc.2.trans hab.2⟩⟩

theorem sameGroup_mapCommittee (s : Storage) (g : CommitteeStorage → CommitteeStorage) :
    SameGroup s (s.mapCommittee g) := ⟨rfl, rfl⟩

theorem executeMotion_sameGroup (env : Env) (depth : ℕ) (call : Call) :
    Respects SameGroup (executeMotion .cddProviders env depth call) := by
  induction depth generalizing call with
  | zero => exact .fail _
  | succ depth ih =>
    refine dispatchWith_rule (P := fun _ => True) (fun _ _ _ _ _ => trivial) ?_
      (fun call x _ hruns => ?_) call trivial
    · rintro s _ ⟨_, _, _, _, hlimit, rfl⟩
      rw [hlimit nofun]
      exact ⟨rfl, rfl⟩
    cases hruns with
    | disableMember h | addMember h | removeMember h | swapMember h | resetMembers h =>
      exact absurd h (by decide)
    | abdicateMembership =>
      intro s u s' h
      obtain ⟨_, _, horigin, -⟩ := Group.abdicateMembership_ok h
      exact absurd rfl horigin
    | voteOrPropose approve motion =>
      exact Committee.voteOrPropose_respects sameGroup_mapCommittee ih .endorsed approve motion
    | vote proposal index approve =>
      exact Committee.vote_respects sameGroup_mapCommittee ih .endorsed proposal index approve

/-! ## Who is gone stays so -/

namespace Gone

variable {s' : Storage} {env : Env} {u : Unit}

theorem of_sameGroup (hs : Gone who s) (h : SameGroup s s') : Gone who s' := by
  refine ⟨?_, ?_⟩
  · rw [h.1]
    exact hs.active
  · rw [h.1, h.2]
    exact hs.inactive

variable {members : List IdentityId} {add : IdentityId}

theorem putActive (hs : Gone who s) (h : who ∉ members) :
    Gone who (Group.putActive members s) := ⟨h, hs.inactive⟩

theorem putInactive (hs : Gone who s) {members : List InactiveMember}
    (h : ∀ member ∈ members, member.id = who → member ∈ s.group.inactiveMembers) :
    Gone who (Group.putInactive members s) :=
  ⟨hs.active, fun member hmem hid => hs.inactive member (h member hmem hid) hid⟩

theorem of_told {execute : Call → Dispatch Unit} {incoming outgoing new : List IdentityId}
    (hs : Gone who s)
    (h : membershipChanged .cddProviders execute incoming outgoing new s = (.ok u, s')) :
    Gone who s' := by
  obtain ⟨-, rfl⟩ := pure_ok.mp h
  exact hs

variable {execute : Call → Dispatch Unit}

theorem addMember (hne : add ≠ who) :
    Respects (Preserves (Gone who))
      (Group.addMember (membershipChanged .cddProviders execute) add) := by
  intro s u s' h hs
  obtain ⟨location, -, htold⟩ := Group.addMember_ok h
  refine (hs.putActive fun hmem => ?_).of_told htold
  rcases List.eq_or_mem_of_mem_insertIdx hmem with rfl | hmem
  · exact hne rfl
  · exact hs.active hmem

theorem baseRemoveActiveMember (remove : IdentityId) :
    Respects (Preserves (Gone who))
      (Group.baseRemoveActiveMember (membershipChanged .cddProviders execute) remove) := by
  intro s u s' h hs
  obtain ⟨location, -, htold⟩ := Group.baseRemoveActiveMember_ok h
  exact (hs.putActive fun hmem => hs.active (List.mem_of_mem_eraseIdx hmem)).of_told htold

theorem baseRemoveMember (remove : IdentityId) :
    Respects (Preserves (Gone who))
      (Group.baseRemoveMember (membershipChanged .cddProviders execute) env remove) := by
  intro s u s' h hs
  rcases Group.baseRemoveMember_ok h with h | ⟨-, position, hsearch, rfl⟩
  · exact baseRemoveActiveMember remove h hs
  · obtain ⟨member, hmember, -⟩ := binarySearch_ok hsearch
    have hperm := swapRemove_perm hmember
    exact hs.putInactive fun m hm _ => hperm.mem_iff.mp (List.mem_cons_of_mem _ hm)

theorem disableMember (disable : IdentityId) (expiry deactivation : Option Moment) :
    Respects (Preserves (Gone who)) (Group.disableMember (membershipChanged .cddProviders execute)
      disable expiry deactivation) := by
  intro s u s' h hs
  obtain ⟨s₁, hremove, rfl⟩ := Group.disableMember_ok h
  have hne : disable ≠ who := by
    rintro rfl
    obtain ⟨location, hsearch, -⟩ := Group.baseRemoveActiveMember_ok hremove
    exact hs.active (mem_of_ok place_injective hsearch)
  refine (baseRemoveActiveMember disable hremove hs).putInactive fun member hmem hid => ?_
  rcases mem_updateInactive hmem with rfl | hmem
  · exact absurd hid hne
  · exact List.mem_of_mem_filter hmem

theorem swapMember {remove : IdentityId} (hne : add ≠ who) :
    Respects (Preserves (Gone who))
      (Group.swapMember (membershipChanged .cddProviders execute) remove add) := by
  intro s u s' h hs
  rcases Group.swapMember_ok h with rfl | ⟨_, _, -, -, htold⟩
  · exact hs
  · refine (hs.putActive fun hmem => ?_).of_told htold
    rcases List.mem_or_eq_of_mem_set ((sortOn_perm _).mem_iff.mp hmem) with hmem | rfl
    · exact hs.active hmem
    · exact hne rfl

theorem resetMembers (hnot : who ∉ members) :
    Respects (Preserves (Gone who))
      (Group.resetMembers (membershipChanged .cddProviders execute) env members) := by
  intro s u s' h hs
  obtain ⟨s₁, htold, rfl⟩ := Group.resetMembers_ok h
  exact (hs.of_told htold).putActive fun hmem => hnot ((sortOn_perm _).mem_iff.mp hmem)

theorem abdicateMembership (origin : Origin) :
    Respects (Preserves (Gone who))
      (Group.abdicateMembership (membershipChanged .cddProviders execute) env origin) := by
  intro s u s' h hs
  obtain ⟨did, _, -, -, htold⟩ := Group.abdicateMembership_ok h
  exact (hs.putActive fun hmem => hs.active (List.mem_of_mem_filter hmem)).of_told htold

end Gone

theorem dispatch_gone (env : Env) (depth : ℕ) (origin : Origin) {call : Call}
    (hcall : ¬ call.Adds who) :
    Respects (Preserves (Gone who)) (dispatch .cddProviders env depth origin call) := by
  have hcommittee : ∀ s g, Preserves (Gone who) s (s.mapCommittee g) :=
    fun s g hs => hs.of_sameGroup (sameGroup_mapCommittee s g)
  have hexecute : ∀ call, Respects (Preserves (Gone who))
      (executeMotion .cddProviders env depth call) :=
    fun call _ _ _ h hs => hs.of_sameGroup (executeMotion_sameGroup env depth call h)
  refine dispatchWith_rule (P := fun call => ¬ call.Adds who)
    (fun _ _ h => Call.not_adds_of_batch h) ?_ (fun call x hcall hruns => ?_) call hcall
  · rintro s _ ⟨_, _, _, _, -, rfl⟩ hs
    exact ⟨hs.active, hs.inactive⟩
  cases hruns with
  | disableMember _ disable expiry deactivation =>
    exact Gone.disableMember disable expiry deactivation
  | addMember _ add =>
    rw [Call.Adds] at hcall
    exact Gone.addMember hcall
  | removeMember _ remove => exact Gone.baseRemoveMember remove
  | swapMember _ remove add =>
    rw [Call.Adds] at hcall
    exact Gone.swapMember hcall
  | resetMembers _ members =>
    rw [Call.Adds] at hcall
    exact Gone.resetMembers hcall
  | abdicateMembership => exact Gone.abdicateMembership origin
  | voteOrPropose approve motion =>
    exact Committee.voteOrPropose_respects hcommittee hexecute origin approve motion
  | vote proposal index approve =>
    exact Committee.vote_respects hcommittee hexecute origin proposal index approve

/-- **Who is gone stays so** until it is added. -/
theorem step_gone {a : Action} (hs : Gone who s) (ha : ¬ a.Adds who s) :
    Gone who (step .cddProviders a s) := by
  cases a with
  | nextBlock elapsed =>
    refine ⟨hs.active, fun member hmem hid => ?_⟩
    exact (hs.inactive member hmem hid).imp_left (isMemberExpired_mono (Nat.le_add_right _ _))
  | extrinsic env depth origin call =>
    rcases step_extrinsic .cddProviders env depth origin call s with heq | hstep
    · rwa [heq]
    · exact dispatch_gone env depth origin (fun hadds => ha ⟨hadds, _, hstep⟩) hstep hs

/-! ## Removal -/

/-- A provider has no other entry than the one that is found and removed, with which a claim would
be valid. -/
def LeavesNothing (who : IdentityId) (s : Storage) : Prop :=
  match Group.searchActive who s, Group.searchInactive who s.group.inactiveMembers with
  | .ok location, _ =>
    who ∉ s.group.activeMembers.eraseIdx location ∧
      ∀ member ∈ s.group.inactiveMembers, member.id = who → Dead s.now member
  | .error _, .ok position =>
    who ∉ s.group.activeMembers ∧
      ∀ member ∈ swapRemove s.group.inactiveMembers position, member.id = who → Dead s.now member
  | .error _, .error _ => False

theorem removeMember_gone_iff {s' : Storage} {env : Env} {depth : ℕ} {origin : Origin}
    (h : dispatch .cddProviders env depth origin (.removeMember who) s = (.ok (), s')) :
    Gone who s' ↔ LeavesNothing who s := by
  simp only [dispatch, dispatchWith, run_ok] at h
  rcases Group.baseRemoveMember_ok h.2 with h | ⟨⟨location, hactive⟩, position, hsearch, rfl⟩
  · obtain ⟨location, hsearch, htold⟩ := Group.baseRemoveActiveMember_ok h
    obtain ⟨-, rfl⟩ := pure_ok.mp htold
    simp only [LeavesNothing, hsearch]
    exact ⟨fun h => ⟨h.active, h.inactive⟩, fun h => ⟨h.1, h.2⟩⟩
  · simp only [LeavesNothing, hactive, hsearch]
    exact ⟨fun h => ⟨h.active, h.inactive⟩, fun h => ⟨h.1, h.2⟩⟩

/-- **The removal of a provider ends its claims if and only if it leaves no other entry of the
provider**, and the provider is none of the chain itself. That is, in all that may happen until the
provider is added again, no claim of it is valid, with any leeway. -/
theorem removed_provider_revoked_iff {who : IdentityId} {s s' : Storage} {env : Env} {depth : ℕ}
    {origin : Origin}
    (h : dispatch .cddProviders env depth origin (.removeMember who) s = (.ok (), s')) :
    (∀ acts, TransitionSystem.Along (step .cddProviders) (fun s a => ¬ a.Adds who s) s' acts →
      ∀ leeway claim, claim.claimIssuer = who →
        isCddClaimValid leeway claim (run (step .cddProviders) s' acts) = false) ↔
      LeavesNothing who s ∧ ∀ issuer, SystematicIssuers.asId issuer ≠ who := by
  rw [← removeMember_gone_iff h]
  constructor
  · intro hrevoked
    exact revoked_iff.mp (hrevoked [] trivial)
  · rintro ⟨hgone, hissuer⟩ acts hacts
    have hrun : Gone who (run (step .cddProviders) s' acts) :=
      run_invariant (Gone who) (fun s a hs ha => step_gone hs ha) hgone hacts
    exact revoked_iff.mpr ⟨hrun, hissuer⟩

/-- A provider that was disabled later on is removed. Its claims are valid no more, whatever happens
until it is added again. -/
theorem removed_provider_revoked_iff_disabled :
    let s := run (step .cddProviders) (genesis [⟨1⟩, ⟨2⟩] 10 (1, 2))
      [.nextBlock 10, .calls .root (.disableMember ⟨1⟩ none none)]
    isCddClaimValid 0 ⟨⟨1⟩, 5, none⟩ s = true ∧
      ∀ acts, TransitionSystem.Along (step .cddProviders) (fun s a => ¬ a.Adds ⟨1⟩ s)
          (step .cddProviders (.calls .root (.removeMember ⟨1⟩)) s) acts →
        ∀ leeway claim, claim.claimIssuer = ⟨1⟩ →
          isCddClaimValid leeway claim (run (step .cddProviders)
            (step .cddProviders (.calls .root (.removeMember ⟨1⟩)) s) acts) = false := by
  intro s
  have hvalid : isCddClaimValid 0 ⟨⟨1⟩, 5, none⟩ s = true := by decide +kernel
  have hactive : Group.searchActive ⟨1⟩ s = .error 0 ∧ (⟨1⟩ : IdentityId) ∉ s.group.activeMembers ∧
      Group.searchInactive ⟨1⟩ s.group.inactiveMembers = .ok 0 ∧
      swapRemove s.group.inactiveMembers 0 = [] := by decide +kernel
  obtain ⟨hsearch, hnot, hinactive, hnone⟩ := hactive
  have hleaves : LeavesNothing ⟨1⟩ s := by
    simp only [LeavesNothing, hsearch, hinactive, hnone]
    exact ⟨hnot, nofun⟩
  have hissuer : ∀ issuer, SystematicIssuers.asId issuer ≠ ⟨1⟩ := by
    rintro (_ | _) <;> decide
  have hok : (dispatch .cddProviders .consenting 1 .root (.removeMember ⟨1⟩) s).1 = .ok () := by
    decide +kernel
  have hremoved : dispatch .cddProviders .consenting 1 .root (.removeMember ⟨1⟩) s =
      (.ok (), step .cddProviders (.calls .root (.removeMember ⟨1⟩)) s) :=
    Prod.ext hok (step_of_ok (Prod.ext hok rfl)).symm
  exact ⟨hvalid, (removed_provider_revoked_iff hremoved).mpr ⟨hleaves, hissuer⟩⟩

/-- A provider is disabled, added again, and removed. Its claims from before it was disabled are
valid as before. -/
theorem removed_provider_still_valid :
    let s := run (step .cddProviders) (genesis [⟨1⟩, ⟨2⟩] 10 (1, 2))
      [.nextBlock 10, .calls .root (.disableMember ⟨1⟩ none none),
        .calls .root (.addMember ⟨1⟩)]
    let s' := step .cddProviders (.calls .root (.removeMember ⟨1⟩)) s
    (dispatch .cddProviders .consenting 1 .root (.removeMember ⟨1⟩) s).1 = .ok () ∧
      s'.group.activeMembers = [⟨2⟩] ∧ isCddClaimValid 0 ⟨⟨1⟩, 5, none⟩ s' = true := by
  decide +kernel

end Governance

end Polymesh
