import Polymesh.Accounts.Calls

/-!
# What a step does

A call runs other calls, and may propose calls that are run later. What holds of all the calls in
it bounds the effects that it has: those that are run here, for a signed transaction, and those
that are proposed as well, for the root, which may execute proposals.
-/

namespace Polymesh

open Transactional Tx TransitionSystem

namespace Accounts

/-! ## The calls in a call -/

/-- The calls of the utility pallet run others. -/
def Call.isLeaf : Call → Prop
  | .batch _ _ | .relayTx _ _ _ _ | .dispatchAs _ _ | .asDerivative _ _ | .withWeight _ => False
  | _ => True

instance (call : Call) : Decidable call.isLeaf := by
  cases call <;> first | exact isTrue trivial | exact isFalse id

mutual

/-- A property of all calls that a call runs. -/
def Call.Runs (L : Call → Prop) : Call → Prop
  | .batch _ calls => Call.RunsAll L calls
  | .relayTx _ _ _ call => call.Runs L
  | .dispatchAs _ call => call.Runs L
  | .asDerivative _ call => call.Runs L
  | .withWeight call => call.Runs L
  | call => L call

def Call.RunsAll (L : Call → Prop) : List Call → Prop
  | [] => True
  | call :: calls => call.Runs L ∧ Call.RunsAll L calls

end

mutual

/-- A property of all calls that a call runs or proposes. -/
def Call.All (L : Call → Prop) : Call → Prop
  | .batch _ calls => Call.AllOf L calls
  | .relayTx _ _ _ call => call.All L
  | .dispatchAs _ call => call.All L
  | .asDerivative _ call => call.All L
  | .withWeight call => call.All L
  | .createOrApproveProposalAsIdentity multisig proposal expiry autoClose =>
    L (.createOrApproveProposalAsIdentity multisig proposal expiry autoClose) ∧ proposal.All L
  | .createOrApproveProposalAsKey multisig proposal expiry autoClose =>
    L (.createOrApproveProposalAsKey multisig proposal expiry autoClose) ∧ proposal.All L
  | .createProposalAsIdentity multisig proposal expiry autoClose =>
    L (.createProposalAsIdentity multisig proposal expiry autoClose) ∧ proposal.All L
  | .createProposalAsKey multisig proposal expiry autoClose =>
    L (.createProposalAsKey multisig proposal expiry autoClose) ∧ proposal.All L
  | call => L call

def Call.AllOf (L : Call → Prop) : List Call → Prop
  | [] => True
  | call :: calls => call.All L ∧ Call.AllOf L calls

end

section Calls

variable {L : Call → Prop} {call : Call}

theorem Call.runs_of_isLeaf (h : call.isLeaf) : call.Runs L ↔ L call := by
  cases call <;> first | exact h.elim | exact Iff.rfl

theorem Call.All.leaf (h : call.All L) (hleaf : call.isLeaf) :
    L call ∧ ∀ multisig proposal, call.proposed = some (multisig, proposal) → proposal.All L := by
  cases call with
  | createOrApproveProposalAsIdentity | createOrApproveProposalAsKey | createProposalAsIdentity
  | createProposalAsKey =>
    rw [Call.All] at h
    refine ⟨h.1, fun multisig proposal hproposed => ?_⟩
    cases hproposed
    exact h.2
  | batch | relayTx | dispatchAs | asDerivative | withWeight => exact hleaf.elim
  | _ =>
    refine ⟨h, fun multisig proposal hproposed => ?_⟩
    cases hproposed

mutual

theorem Call.All.runs (call : Call) (h : call.All L) : call.Runs fun call => call.All L := by
  by_cases hleaf : call.isLeaf
  · rwa [Call.runs_of_isLeaf hleaf]
  · cases call with
    | batch mode calls =>
      rw [Call.Runs]
      rw [Call.All] at h
      exact Call.AllOf.runsAll calls h
    | relayTx target signature nonce call | dispatchAs asOrigin call | asDerivative index call
    | withWeight call =>
      rw [Call.Runs]
      rw [Call.All] at h
      exact Call.All.runs call h
    | _ => exact absurd trivial hleaf

theorem Call.AllOf.runsAll (calls : List Call) (h : Call.AllOf L calls) :
    Call.RunsAll (fun call => call.All L) calls := by
  cases calls with
  | nil => trivial
  | cons call calls =>
    rw [Call.AllOf] at h
    rw [Call.RunsAll]
    exact ⟨Call.All.runs call h.1, Call.AllOf.runsAll calls h.2⟩

end

mutual

theorem Call.all_of_forall (hL : ∀ call, L call) (call : Call) : call.All L := by
  by_cases hleaf : call.isLeaf
  · cases call with
    | createOrApproveProposalAsIdentity | createOrApproveProposalAsKey | createProposalAsIdentity
    | createProposalAsKey =>
      rw [Call.All]
      exact ⟨hL _, Call.all_of_forall hL _⟩
    | batch | relayTx | dispatchAs | asDerivative | withWeight => exact hleaf.elim
    | _ => exact hL _
  · cases call with
    | batch mode calls =>
      rw [Call.All]
      exact Call.allOf_of_forall hL calls
    | relayTx | dispatchAs | asDerivative | withWeight =>
      rw [Call.All]
      exact Call.all_of_forall hL _
    | _ => exact absurd trivial hleaf

theorem Call.allOf_of_forall (hL : ∀ call, L call) (calls : List Call) : Call.AllOf L calls := by
  cases calls with
  | nil => trivial
  | cons call calls =>
    rw [Call.AllOf]
    exact ⟨Call.all_of_forall hL call, Call.allOf_of_forall hL calls⟩

end

mutual

variable {L' : Call → Prop}

theorem Call.Runs.imp (hL : ∀ call, L call → L' call) (call : Call) (h : call.Runs L) :
    call.Runs L' := by
  by_cases hleaf : call.isLeaf
  · rw [Call.runs_of_isLeaf hleaf] at h ⊢
    exact hL call h
  · cases call with
    | batch mode calls =>
      rw [Call.Runs] at h ⊢
      exact Call.RunsAll.imp hL calls h
    | relayTx | dispatchAs | asDerivative | withWeight =>
      rw [Call.Runs] at h ⊢
      exact Call.Runs.imp hL _ h
    | _ => exact absurd trivial hleaf

theorem Call.RunsAll.imp (hL : ∀ call, L call → L' call) (calls : List Call)
    (h : Call.RunsAll L calls) : Call.RunsAll L' calls := by
  cases calls with
  | nil => trivial
  | cons call calls =>
    rw [Call.RunsAll] at h ⊢
    exact ⟨Call.Runs.imp hL call h.1, Call.RunsAll.imp hL calls h.2⟩

end

theorem Call.runs_of_forall (hL : ∀ call, L call) (call : Call) : call.Runs L :=
  Call.Runs.imp (fun call _ => hL call) call
    (Call.All.runs call (Call.all_of_forall (fun _ => trivial) call) (L := fun _ => True))

end Calls

/-! ## Dispatch -/

variable {call : Call} {origin : Origin} {env : Env} {multisig userKey key who : AccountId}
  {proposalId fee actualFee : ℕ} {multisigDid : IdentityId} {u : Unit} {subsidy : Subsidy}
  {s s' : Storage} {hashes : Hashes} {envs : Envs} {L : Call → Prop} {P : Effect → Prop}

section Dispatch

variable {run : Envs → AccountId → Call → Dispatch Unit} {R : Storage → Storage → Prop}

theorem dispatchWith_of_isLeaf (h : call.isLeaf) (origin : Origin) :
    dispatchWith hashes run call envs origin =
      dispatchLeaf hashes (envs []) (run (envs.inner 0)) origin call := by
  cases call <;> first | exact h.elim | rfl

variable {x : Dispatch Unit}

theorem respects_of_ensureRoot (h : origin = .root → Respects R x) :
    Respects R (Tx.read (fun _ => ensureRoot origin) >>= fun _ => x) := by
  intro s u s' hs
  simp only [run_ok] at hs
  obtain ⟨_, hroot, hx⟩ := hs
  exact h (ensure_eq_ok.mp hroot) hx

theorem respects_aside (haside : ∀ s s', Aside s s' → R s s') {g : Storage → Storage}
    (h : ∀ s, Aside s (g s)) : Respects R (Tx.modify g : Dispatch Unit) :=
  .modify fun s => haside s (g s) (h s)

variable [IsTrans Storage R]

theorem respects_of_ensureRelayed (hrelay : ∀ s s', Occurs hashes .relay s s' → R s s')
    {target : AccountId} {signature : Signature} {nonce : ℕ} (hx : Respects R x) :
    Respects R (Tx.read (ensureRelayed hashes env origin target signature nonce call) >>= fun _ =>
      Tx.modify (noteRelayed target signature nonce call) >>= fun _ => x) := by
  intro s u s' hs
  simp only [run_ok, ensureRelayed, except_bind_eq_ok, ensure_eq_ok] at hs
  obtain ⟨_, ⟨_, -, _, -, _, hnonce, _, hverify, -⟩, hs⟩ := hs
  exact IsTrans.trans _ _ _ (hrelay _ _ (.relay hnonce hverify)) (hx hs)

variable [Std.Refl R]

variable (haside : ∀ s s', Aside s s' → R s s')

include haside

theorem runWithTemporaryDidAndPayer_respects (account : Option AccountId) (hx : Respects R x) :
    Respects R (runWithTemporaryDidAndPayer account x) := by
  refine Respects.get.bind fun s => ?_
  refine (respects_aside haside fun s => by constructor <;> rfl).bind fun _ =>
    (respects_aside haside fun s => by constructor <;> rfl).bind fun _ => ?_
  refine hx.attempt_transaction.bind fun res => ?_
  exact (respects_aside haside fun s => by constructor <;> rfl).bind fun _ =>
    (respects_aside haside fun s => by constructor <;> rfl).bind fun _ => .pure res

variable (hrelay : ∀ s s', Occurs hashes .relay s s' → R s s')
  {O : Origin → Prop} (hsigned : ∀ who, O (.signed who))
  (hleaf : ∀ (env : Env) (envs : Envs) (call : Call) (origin : Origin), call.isLeaf → O origin →
    L call → Respects R (dispatchLeaf hashes env (run envs) origin call))

set_option linter.unusedSectionVars false

include hrelay hsigned hleaf

mutual

/-- **What all calls of the pallets respect** from the origins `O`, a call respects that runs only
those. Only the root can call as the root. -/
theorem dispatchWith_respects (call : Call) (envs : Envs) (origin : Origin) (horigin : O origin)
    (hcall : call.Runs L) : Respects R (dispatchWith hashes run call envs origin) := by
  by_cases hl : call.isLeaf
  · rw [dispatchWith_of_isLeaf hl]
    exact hleaf _ _ call origin hl horigin ((Call.runs_of_isLeaf hl).mp hcall)
  · cases call with
    | batch mode calls =>
      rw [dispatchWith]
      rw [Call.Runs] at hcall
      exact dispatchBatch_respects mode calls envs 0 origin horigin hcall
    | relayTx target signature nonce call =>
      rw [dispatchWith]
      rw [Call.Runs] at hcall
      refine respects_of_ensureRelayed hrelay ?_
      exact (dispatchWith_respects call _ _ (hsigned target) hcall).attempt_transaction.bind
        fun _ => .pure ()
    | dispatchAs asOrigin call =>
      rw [dispatchWith]
      rw [Call.Runs] at hcall
      refine respects_of_ensureRoot fun hroot => ?_
      subst hroot
      have hasOrigin : O asOrigin := by
        cases asOrigin with
        | signed who => exact hsigned who
        | root => exact horigin
      exact (runWithTemporaryDidAndPayer_respects haside _
        (dispatchWith_respects call _ asOrigin hasOrigin hcall)).bind fun _ => .pure ()
    | asDerivative index call =>
      rw [dispatchWith]
      rw [Call.Runs] at hcall
      refine .read_bind fun account => ?_
      refine (runWithTemporaryDidAndPayer_respects haside _
        (dispatchWith_respects call _ _ (hsigned _) hcall)).bind fun res => ?_
      cases res with
      | ok _ => exact .pure ()
      | error e => exact .fail e
    | withWeight call =>
      rw [dispatchWith]
      rw [Call.Runs] at hcall
      refine respects_of_ensureRoot fun hroot => ?_
      subst hroot
      exact dispatchWith_respects call _ .root horigin hcall
    | _ => exact absurd trivial hl

theorem dispatchBatch_respects (mode : BatchMode) (calls : List Call) (envs : Envs) (index : ℕ)
    (origin : Origin) (horigin : O origin) (hcalls : Call.RunsAll L calls) :
    Respects R (dispatchBatch hashes run mode calls envs index origin) := by
  cases calls with
  | nil =>
    rw [dispatchBatch]
    exact .pure ()
  | cons call calls =>
    rw [Call.RunsAll] at hcalls
    have hrest := dispatchBatch_respects mode calls envs (index + 1) origin horigin hcalls.2
    rw [dispatchBatch]
    refine (dispatchWith_respects call _ origin horigin hcalls.1).attempt_transaction.bind
      fun res => ?_
    cases res with
    | ok _ => exact hrest
    | error e =>
      cases mode with
      | interrupted => exact .pure ()
      | atomic => exact .fail e
      | optimistic => exact hrest

end

end Dispatch

/-! ## The effects of a call -/

section Effects

variable {run : Envs → AccountId → Call → Dispatch Unit}
  (hfree : ∀ effect : Effect, effect.Free → P effect)

include hfree

theorem dispatchWith_signed (hcall : call.Runs fun call => ∀ effect : Effect, effect.Of call → P effect)
    (who : AccountId) :
    Respects (Effects hashes P) (dispatchWith hashes run call envs (.signed who)) := by
  refine dispatchWith_respects (O := fun origin => ∃ who, origin = .signed who)
    (fun _ _ h => Effects.aside hfree h) (fun _ _ => Effects.single (hfree .relay trivial))
    (fun who => ⟨who, rfl⟩) ?_ call _ _ ⟨who, rfl⟩ hcall
  rintro env _ call _ - ⟨who, rfl⟩ hP
  by_cases hexecute : ∃ multisig proposalId multisigDid,
      call = .executeScheduledProposal multisig proposalId multisigDid
  · obtain ⟨multisig, proposalId, multisigDid, rfl⟩ := hexecute
    exact respects_of_ensureRoot fun hroot => by cases hroot
  · push Not at hexecute
    exact fun _ _ _ h => (dispatchLeaf_effects _ _ _ call hexecute h).mono hP

/-- Calls that execute a proposal. -/
def Call.Executes : Call → Prop
  | .executeScheduledProposal _ _ _ => True
  | _ => False

theorem dispatchWith_effects
    (hcall : call.Runs fun call => ¬ call.Executes ∧ ∀ effect : Effect, effect.Of call → P effect)
    (origin : Origin) : Respects (Effects hashes P) (dispatchWith hashes run call envs origin) := by
  refine dispatchWith_respects (O := fun _ => True)
    (fun _ _ h => Effects.aside hfree h) (fun _ _ => Effects.single (hfree .relay trivial))
    (fun who => trivial) ?_ call _ _ trivial hcall
  rintro env _ call origin - - ⟨hexecutes, hP⟩
  have hne : ∀ multisig proposalId multisigDid,
      call ≠ .executeScheduledProposal multisig proposalId multisigDid := by
    rintro multisig proposalId multisigDid rfl
    exact hexecutes trivial
  exact fun _ _ _ h => (dispatchLeaf_effects _ _ _ call hne h).mono hP

omit hfree in
/-- **An execution** runs the call of the proposal, if there is one, and notes how that went. -/
theorem executeProposal_ok {run : Call → Dispatch Unit}
    (h : MultiSig.executeProposal env run multisig proposalId multisigDid s = (.ok u, s')) :
    ∃ s₁, Aside s s₁ ∧ ((s.multisig.proposals (multisig, proposalId) = none ∧ s' = s₁) ∨
      ∃ proposal r s₂ success, s.multisig.proposals (multisig, proposalId) = some proposal ∧
        attempt (transaction (run proposal)) s₁ = (.ok r, s₂) ∧
        s' = (MultiSig.setStatus multisig proposalId (executionStatus success) s₂).deposit
          (.executed multisig proposalId success)) := by
  simp only [MultiSig.executeProposal, run_ok, bind_ok] at h
  obtain ⟨_, _, ⟨-, rfl⟩, _, _, rfl, _, s₁, hs₁, _, _, ⟨rfl, rfl⟩, h⟩ := h
  have haside : Aside s s₁ := by
    subst hs₁
    constructor <;> rfl
  refine ⟨s₁, haside, ?_⟩
  rw [← haside.proposals]
  cases hproposal : s₁.multisig.proposals (multisig, proposalId) with
  | none =>
    rw [hproposal] at h
    exact .inl ⟨rfl, (pure_ok.mp h).2.symm⟩
  | some proposal =>
    rw [hproposal] at h
    simp only [MultiSig.runProposal, bind_ok] at h
    obtain ⟨r, s₂, hrun, h⟩ := h
    cases r with
    | ok _ =>
      simp only [run_ok] at h
      subst h
      exact .inr ⟨proposal, _, s₂, true, rfl, hrun, rfl⟩
    | error e =>
      simp only [run_ok] at h
      subst h
      exact .inr ⟨proposal, _, s₂, false, rfl, hrun, rfl⟩

end Effects

/-! ## Stored proposals -/

/-- A property of all calls in the proposals that are stored. -/
def StoredAll (L : Call → Prop) (s : Storage) : Prop :=
  ∀ id proposal, s.multisig.proposals id = some proposal → proposal.All L

/-- A proposal with the property is stored. -/
def Effect.Stores (L : Call → Prop) : Effect → Prop
  | .propose _ _ proposal => proposal.All L
  | _ => True

/-- Calls as `L` asks have effects as `P` asks. -/
structure Bounds (L : Call → Prop) (P : Effect → Prop) : Prop where
  free : ∀ effect : Effect, effect.Free → P effect
  of : ∀ (call : Call) (effect : Effect), L call → effect.Of call → P effect
  execute : ∀ multisig proposalId, P (.execute multisig proposalId)
  forget : P .forget
  scheduled : ∀ multisig proposalId multisigDid,
    L (.executeScheduledProposal multisig proposalId multisigDid)

section Stored

variable {effect : Effect}

theorem Occurs.storedAll (h : Occurs hashes effect s s') (hstores : effect.Stores L)
    (hs : StoredAll L s) : StoredAll L s' := by
  by_cases hlink : effect.IsLink
  · obtain ⟨i, rfl, -⟩ := h.onlyKeys hlink
    exact hs
  · cases h with
    | aside h =>
      unfold StoredAll
      rw [h.proposals]
      exact hs
    | addSigner =>
      obtain ⟨i, hi, -⟩ := addKeyRecord_onlyKeys _ _ _
      rw [hi]
      exact hs
    | removeSigners =>
      obtain ⟨i, hi, -⟩ := foldl_unsafeSignerRemoval_onlyKeys _ _ _
      rw [hi]
      exact hs
    | propose proposal expiry autoClose =>
      rw [writeApproval_eq]
      intro id proposal' hproposal
      change Function.update s.multisig.proposals _ (some proposal) id = _ at hproposal
      rw [Function.update_apply] at hproposal
      split at hproposal
      · cases hproposal
        exact hstores
      · exact hs id proposal' hproposal
    | approve =>
      rw [writeApproval_eq]
      exact hs
    | reject =>
      rw [writeRejection_eq]
      exact hs
    | linkPrimary | linkSecondary | unlink | rotate => exact absurd trivial hlink
    | _ => exact hs

theorem Effects.keeping (h : Effects hashes (fun effect => P effect ∧ effect.Stores L) s s') :
    Keeping (StoredAll L) (Effects hashes P) s s' := by
  intro hs
  refine ⟨h.invariant (StoredAll L) ?_ hs, h.mono fun _ hP => hP.1⟩
  exact fun effect s s' hP he hs => he.storedAll hP.2 hs

theorem Effect.Of.stores (h : effect.Of call) (hleaf : call.isLeaf) (hcall : call.All L) :
    effect.Stores L := by
  cases h with
  | propose _ h => exact (hcall.leaf hleaf).2 _ _ h
  | free h => cases effect <;> first | exact h.elim | trivial
  | _ => trivial

variable (hb : Bounds L P)

include hb

theorem Aside.keeping (h : Aside s s') : Keeping (StoredAll L) (Effects hashes P) s s' :=
  Effects.keeping (.single ⟨hb.free .aside trivial, trivial⟩ (.aside h))

theorem dispatchLeaf_keeping {run : AccountId → Call → Dispatch Unit}
    (hrun : ∀ (multisig : AccountId) (proposal : Call), proposal.All L →
      Respects (Keeping (StoredAll L) (Effects hashes P)) (run multisig proposal))
    (env : Env) (origin : Origin) (call : Call) (hleaf : call.isLeaf) (hcall : call.All L) :
    Respects (Keeping (StoredAll L) (Effects hashes P))
      (dispatchLeaf hashes env run origin call) := by
  by_cases hexec : ∃ multisig proposalId multisigDid,
      call = .executeScheduledProposal multisig proposalId multisigDid
  · obtain ⟨multisig, proposalId, multisigDid, rfl⟩ := hexec
    refine respects_of_ensureRoot fun _ => ?_
    intro s u s' h
    obtain ⟨s₁, haside, h⟩ := executeProposal_ok h
    refine IsTrans.trans _ _ _ (haside.keeping hb) ?_
    rcases h with ⟨-, rfl⟩ | ⟨proposal, r, s₂, success, hproposal, hattempt, rfl⟩
    · exact refl _
    · intro hs₁
      rw [← haside.proposals] at hproposal
      have hproposal := hs₁ _ _ hproposal
      have hrun' := (hrun multisig proposal hproposal).attempt_transaction hattempt
      refine IsTrans.trans _ _ _ hrun' (Effects.keeping ?_) hs₁
      exact .single ⟨hb.execute multisig proposalId, trivial⟩
        (.execute multisig proposalId success s₂)
  · push Not at hexec
    intro s u s' h
    refine ((dispatchLeaf_effects env run origin call hexec h).mono ?_).keeping
    exact fun effect he => ⟨hb.of call effect (hcall.leaf hleaf).1 he, he.stores hleaf hcall⟩

/-- **The effects of a call** whose calls, proposals among them, are all as asked. -/
theorem dispatch_effects (envs : Envs) (call : Call) (hcall : call.All L) (origin : Origin) :
    Respects (Keeping (StoredAll L) (Effects hashes P)) (dispatch hashes envs call origin) := by
  have hwith : ∀ run : Envs → AccountId → Call → Dispatch Unit,
      (∀ (envs : Envs) (multisig : AccountId) (proposal : Call), proposal.All L →
        Respects (Keeping (StoredAll L) (Effects hashes P)) (run envs multisig proposal)) →
      ∀ (call : Call) (envs : Envs) (origin : Origin), call.All L →
        Respects (Keeping (StoredAll L) (Effects hashes P))
          (dispatchWith hashes run call envs origin) := by
    intro run hrun call envs origin hcall
    refine dispatchWith_respects (O := fun _ => True) (fun _ _ h => h.keeping hb)
      (fun _ _ h => Effects.keeping (.single ⟨hb.free .relay trivial, trivial⟩ h))
      (fun _ => trivial) ?_ call envs origin trivial (Call.All.runs call hcall)
    exact fun env envs call origin hleaf _ hcall =>
      dispatchLeaf_keeping hb (hrun envs) env origin call hleaf hcall
  refine hwith _ (fun envs multisig proposal hproposal => ?_) call envs origin hcall
  -- the proposals that are executed run no further ones
  exact hwith _ (fun _ _ _ _ => .fail _) proposal envs (.signed multisig) hproposal

end Stored

theorem bounds_true : Bounds (fun _ => True) fun _ => True := by
  constructor <;> intros <;> trivial

theorem storedAll_true (s : Storage) : StoredAll (fun _ => True) s :=
  fun _ proposal _ => Call.all_of_forall (fun _ => trivial) proposal

theorem dispatch_anyEffects (envs : Envs) (call : Call) (origin : Origin) :
    Respects (Effects hashes fun _ => True) (dispatch hashes envs call origin) := by
  intro s u s' h
  have hall : call.All fun _ => True := Call.all_of_forall (fun _ => trivial) call
  exact (dispatch_effects bounds_true envs call hall origin h (storedAll_true s)).2

/-! ## Transactions -/

/-- The identities are the same, and every subsidy is paid by the same key. -/
def SamePayers (s s' : Storage) : Prop :=
  s'.identity = s.identity ∧
    ∀ userKey, (s'.subsidies userKey).map Subsidy.payingKey =
      (s.subsidies userKey).map Subsidy.payingKey

instance : Std.Refl SamePayers := ⟨fun _ => ⟨rfl, fun _ => rfl⟩⟩

instance : IsTrans Storage SamePayers :=
  ⟨fun _ _ _ h₁ h₂ => ⟨h₂.1.trans h₁.1, fun userKey => (h₂.2 userKey).trans (h₁.2 userKey)⟩⟩

theorem chargeSubsidy_samePayers (h : s.subsidies userKey = some subsidy) :
    SamePayers s (chargeSubsidy userKey fee subsidy s) := by
  refine ⟨rfl, fun key => ?_⟩
  by_cases hkey : key = userKey
  · subst hkey
    simp [chargeSubsidy, Relayer.setSubsidy, Storage.deposit, h]
  · simp [chargeSubsidy, Relayer.setSubsidy, Storage.deposit, hkey]

theorem chargeFees_samePayers (env : Env) : Respects SamePayers (ProtocolFee.chargeFees env) := by
  refine .forM fun fee _ => .onlyIf (Respects.get.bind fun s => ?_)
  cases s.identity.currentPayer with
  | none => exact .pure ()
  | some payer =>
    intro s u s' h
    rcases protocolFee_withdrawFee_ok h with rfl | ⟨subsidy, hsubsidy, -, rfl⟩
    · exact refl _
    · exact chargeSubsidy_samePayers hsubsidy

theorem Call.other_of_subsidised (h : Relayer.ensurePalletIsSubsidised call.pallet = .ok true) :
    ∃ pallet number, call = .other pallet number := by
  cases call with
  | other pallet number => exact ⟨pallet, number, rfl⟩
  | _ => cases h

/-- **A fee that is subsidised** is one of who calls. -/
theorem withdrawFee_some (h : withdrawFee env who call fee s = (.ok (some key), s')) :
    (∃ pallet number, call = .other pallet number) ∧ s'.subsidies = s.subsidies ∧
      s'.identity.currentPayer = some who ∧
      ∃ subsidy, s.subsidies who = some subsidy ∧ subsidy.payingKey = key := by
  unfold withdrawFee at h
  split at h
  · cases (pure_ok.mp h).1
  · simp only [↓run_ok, bind_ok, okOr_eq_ok] at h
    obtain ⟨payer, s₁, hpayer, payerKey, rfl, _, hcheck, -, rfl, rfl⟩ := h
    obtain ⟨subsidy, hsubsidy, hkey, hpallet⟩ := checkSubsidy_some hcheck
    obtain ⟨pallet, number, rfl⟩ := Call.other_of_subsidised (hpallet _ rfl)
    have hcaller : callerPays env who s = (.ok (some payerKey), s₁) := hpayer
    simp only [callerPays, run_ok, Option.some.injEq] at hcaller
    obtain ⟨did, -, -, rfl, rfl⟩ := hcaller
    exact ⟨⟨pallet, number, rfl⟩, rfl, rfl, subsidy, hsubsidy, hkey⟩

theorem subsidised_dispatch {s₁ s₂ : Storage} {r : Except Error Unit}
    (hfee : withdrawFee (envs []) who call fee s = (.ok (some key), s₁))
    (h : attempt (transaction (dispatch hashes envs call (.signed who))) s₁ = (.ok r, s₂)) :
    ∃ subsidy, s₂.identity.currentPayer = some who ∧ s₂.subsidies who = some subsidy ∧
      subsidy.payingKey = key := by
  obtain ⟨⟨pallet, number, rfl⟩, hsubsidies, hpayer, subsidy, hsubsidy, rfl⟩ := withdrawFee_some hfee
  have hdispatch : Respects SamePayers (dispatch hashes envs (.other pallet number) (.signed who)) :=
    (chargeFees_samePayers _).bind fun _ => .ensure _ _
  obtain ⟨hidentity, hkeys⟩ := hdispatch.attempt_transaction h
  have hkey := hkeys who
  rw [hsubsidies, hsubsidy, Option.map_some, Option.map_eq_some_iff] at hkey
  obtain ⟨subsidy', hsubsidy', hkey⟩ := hkey
  exact ⟨subsidy', hidentity ▸ hpayer, hsubsidy', hkey⟩

theorem postDispatch_none (h : postDispatch who actualFee none s = (.ok u, s')) :
    clearContext s = s' := by
  simpa [postDispatch, onlyIf, noteCharge] using h

theorem postDispatch_some {payer : AccountId} (hpayer : s.identity.currentPayer = some payer)
    (hsubsidy : s.subsidies payer = some subsidy)
    (h : postDispatch who actualFee (some subsidy.payingKey) s = (.ok u, s')) :
    actualFee ≤ subsidy.remaining ∧
      s' = clearContext (chargeSubsidy payer actualFee subsidy s) := by
  simp only [postDispatch, ↓run_ok, bind_ok, onlyIf_ok] at h
  obtain ⟨_, _, ⟨rfl, rfl⟩, _, s₁, h, rfl⟩ := h
  rw [hpayer, Option.getD_some] at h ⊢
  simp only [Option.isSome_some, not_true, false_and, or_false] at h
  obtain ⟨-, _, _, hdebit, -, rfl⟩ := h
  obtain ⟨hle, rfl⟩ := debitSubsidy_ok hsubsidy hdebit
  exact ⟨hle, rfl⟩

section Transact

variable {R : Storage → Storage → Prop} [Std.Refl R] [IsTrans Storage R]
  (haside : ∀ s s', Aside s s' → R s s')

include haside

theorem checkCdd_respects (env : Env) (did : IdentityId) : Respects R (checkCdd env did) :=
  Respects.ensure_bind fun _ =>
    (respects_aside haside fun s => by constructor <;> rfl).bind fun _ =>
    Respects.get.bind fun _ => .pure _

theorem getValidPayer_respects (env : Env) (caller : AccountId) (payment : Payment) :
    Respects R (getValidPayer env caller payment) := by
  cases payment with
  | issuer authId callType =>
    exact .read_bind fun auth => checkCdd_respects haside env _
  | multisig multisig =>
    exact .read_bind fun _ => Respects.get.bind fun _ => checkCdd_respects haside env _
  | caller =>
    exact .read_bind fun _ => .ensure_bind fun _ =>
      (respects_aside haside fun s => by constructor <;> rfl).bind fun _ => .pure _

theorem withdrawFee_respects (env : Env) (who : AccountId) (call : Call) (fee : ℕ) :
    Respects R (withdrawFee env who call fee) := by
  refine .ite (.pure _) ?_
  refine (getValidPayer_respects haside env who call.payment).bind fun payer => ?_
  exact .read_bind fun _ => .read_bind fun _ => .ensure_bind fun _ =>
    (respects_aside haside fun s => by constructor <;> rfl).bind fun _ => .pure _

theorem transact_ok (hdebit : ∀ s s', Occurs hashes .debit s s' → R s s')
    (hcall : ∀ subsidiser s₁ r s₂, withdrawFee (envs []) who call fee s = (.ok subsidiser, s₁) →
      attempt (transaction (dispatch hashes envs call (.signed who))) s₁ = (.ok r, s₂) → R s₁ s₂)
    (h : transact hashes envs who call fee actualFee s = (.ok u, s')) : R s s' := by
  obtain ⟨subsidiser, s₁, hfee, h⟩ := bind_ok.mp h
  obtain ⟨r, s₂, hattempt, hpost⟩ := bind_ok.mp h
  have hR₂ : R s s₂ := IsTrans.trans _ _ _
    (withdrawFee_respects haside (envs []) who call fee hfee) (hcall _ _ _ _ hfee hattempt)
  refine IsTrans.trans _ _ _ hR₂ ?_
  cases subsidiser with
  | none =>
    obtain rfl := postDispatch_none hpost
    exact haside _ _ (by constructor <;> rfl)
  | some key =>
    obtain ⟨subsidy, hpayer, hsubsidy, rfl⟩ := subsidised_dispatch hfee hattempt
    obtain ⟨hle, rfl⟩ := postDispatch_some hpayer hsubsidy hpost
    refine IsTrans.trans _ _ _ (hdebit _ _ (.debit hsubsidy hle)) (haside _ _ ?_)
    constructor <;> rfl

end Transact

/-! ## Steps -/

/-- A property of all calls in an action. -/
def Action.All (L : Call → Prop) : Action → Prop
  | .extrinsic _ _ call _ _ => call.All L
  | .root _ call => call.All L
  | .task _ _ _ | .nextBlock | .timestamp _ => True

/-- The call of an action fails, apart from its fee. -/
def Action.Fails (hashes : Hashes) (s : Storage) : Action → Prop
  | .extrinsic envs who call fee _ => ∀ subsidiser s₁,
      withdrawFee (envs []) who call fee s = (.ok subsidiser, s₁) →
      ∃ e s₂, dispatch hashes envs call (.signed who) s₁ = (.error e, s₂)
  | .root envs call => ∃ e s₂, dispatch hashes envs call .root s = (.error e, s₂)
  | .task _ _ _ | .nextBlock | .timestamp _ => False

section Steps

variable (hb : Bounds L P)

include hb

/-- **The effects of a step** whose calls, proposals among them, are all as asked, or whose call
fails. -/
theorem step_effects (a : Action) (s : Storage) (ha : a.All L ∨ a.Fails hashes s) :
    Keeping (StoredAll L) (Effects hashes P) s (step hashes a s) := by
  have hdispatch : ∀ (envs : Envs) (call : Call), call.All L → ∀ origin,
      Respects (Keeping (StoredAll L) (Effects hashes P)) (dispatch hashes envs call origin) :=
    fun envs call hcall => dispatch_effects hb envs call hcall
  cases a with
  | extrinsic envs who call fee actualFee =>
    rw [step]
    rcases hrun : transaction (transact hashes envs who call fee actualFee) s with ⟨e | u, s'⟩
    · rw [transaction_error hrun]
      exact refl s
    · refine transact_ok (fun _ _ h => h.keeping hb)
        (fun s s' h => Effects.keeping (.single ⟨hb.free .debit trivial, trivial⟩ h))
        (fun subsidiser s₁ r s₂ hfee hattempt => ?_) (transaction_ok.mp hrun)
      rcases ha with ha | ha
      · exact (hdispatch envs call ha _).attempt_transaction hattempt
      · -- what a call that fails has written is taken back
        obtain ⟨e, s₃, herror⟩ := ha subsidiser s₁ hfee
        simp only [attempt, Tx.transaction, herror] at hattempt
        cases hattempt
        exact refl s₁
  | root envs call =>
    rcases ha with ha | ⟨e, s₂, herror⟩
    · exact (Atomic.transaction _).rel_run (.transaction (hdispatch envs call ha _)) s
    · simp only [step, Tx.transaction, herror]
      exact refl s
  | task envs multisig proposalId =>
    unfold step
    dsimp only
    split
    case h_1 task htask =>
      have hf : Keeping (StoredAll L) (Effects hashes P) s (forget task s) :=
        Effects.keeping (.single ⟨hb.forget, trivial⟩ (.forget task s))
      refine IsTrans.trans _ _ _ hf ?_
      exact (Atomic.transaction _).rel_run (.transaction (hdispatch envs
        (.executeScheduledProposal multisig proposalId task.multisigDid)
        (hb.scheduled multisig proposalId task.multisigDid) _)) _
    case h_2 => exact refl s
  | nextBlock | timestamp elapsed => exact Aside.keeping hb (by constructor <;> rfl)

omit hb in
/-- **Whatever happens is a sequence of effects.** -/
theorem step_anyEffects (a : Action) (s : Storage) :
    Effects hashes (fun _ => True) s (step hashes a s) := by
  have ha : a.All fun _ => True := by
    cases a <;> first | exact Call.all_of_forall (fun _ => trivial) _ | trivial
  exact (step_effects bounds_true a s (.inl ha) (storedAll_true s)).2

end Steps

/-! ### Steps that execute no other proposals -/

section Single

variable (hfree : ∀ effect : Effect, effect.Free → P effect)

include hfree

theorem extrinsic_effects (envs : Envs) (who : AccountId)
    (hcall : call.Runs fun call => ∀ effect : Effect, effect.Of call → P effect) (fee actualFee : ℕ)
    (s : Storage) :
    Effects hashes P s (step hashes (.extrinsic envs who call fee actualFee) s) := by
  refine (Atomic.transaction _).rel_run (.transaction fun s u s' h => ?_) s
  exact transact_ok (fun _ _ h => Effects.aside hfree h)
    (fun _ _ h => .single (hfree .debit trivial) h) (fun _ _ _ _ _ hattempt =>
      (dispatchWith_signed hfree hcall who).attempt_transaction hattempt) h

theorem root_effects (envs : Envs)
    (hcall : call.Runs fun call => ¬ call.Executes ∧ ∀ effect : Effect, effect.Of call → P effect)
    (s : Storage) : Effects hashes P s (step hashes (.root envs call) s) :=
  (Atomic.transaction _).rel_run (.transaction (dispatchWith_effects hfree hcall _)) s

/-- **A task** is forgotten, and then the call of its proposal is run and its outcome noted, unless
there is nothing to run. -/
theorem task_effects (envs : Envs) (multisig : AccountId) (proposalId : ℕ) (s : Storage)
    (hproposal : ∀ proposal, s.multisig.proposals (multisig, proposalId) = some proposal →
      proposal.Runs fun call => ∀ effect : Effect, effect.Of call → P effect) :
    step hashes (.task envs multisig proposalId) s = s ∨
      ∃ task ∈ s.agenda, task.multisig = multisig ∧ task.proposalId = proposalId ∧
        ∃ s₁, Effects hashes P (forget task s) s₁ ∧
          (step hashes (.task envs multisig proposalId) s = s₁ ∨
            ∃ success, step hashes (.task envs multisig proposalId) s =
              (MultiSig.setStatus multisig proposalId (executionStatus success) s₁).deposit
                (.executed multisig proposalId success)) := by
  cases htask : dueTask multisig proposalId s with
  | none => exact .inl (by simp only [step, htask])
  | some task =>
    have hmem := List.mem_of_find?_eq_some htask
    have hname := List.find?_some htask
    simp only [decide_eq_true_eq] at hname
    refine .inr ⟨task, hmem, hname.1, hname.2.1, ?_⟩
    simp only [step, htask]
    rcases hrun : transaction (dispatch hashes envs
      (.executeScheduledProposal multisig proposalId task.multisigDid) .root) (forget task s) with
      ⟨e | u, s'⟩
    · exact ⟨forget task s, refl _, .inl (transaction_error hrun)⟩
    · have hexecute := transaction_ok.mp hrun
      rw [dispatch, dispatchWith_of_isLeaf (by trivial)] at hexecute
      obtain ⟨_, _, hroot, hexecute⟩ := bind_ok.mp hexecute
      obtain ⟨-, rfl⟩ := read_ok.mp hroot
      obtain ⟨s₁, haside, h⟩ := executeProposal_ok hexecute
      have hforgot : Effects hashes P (forget task s) s₁ := Effects.aside hfree haside
      rcases h with ⟨-, rfl⟩ | ⟨proposal, r, s₂, success, hstored, hattempt, rfl⟩
      · exact ⟨_, hforgot, .inl rfl⟩
      · have hdispatch : Respects (Effects hashes P)
            (dispatchProposal hashes (envs.inner 0) multisig proposal) :=
          dispatchWith_signed hfree (hproposal proposal hstored) multisig
        exact ⟨s₂, hforgot.trans (hdispatch.attempt_transaction hattempt), .inr ⟨success, rfl⟩⟩

end Single

/-! ## Genesis -/

section Genesis

variable (hfree : ∀ effect : Effect, effect.Free → P effect)

theorem Effects.foldl {α : Type} {f : Storage → α → Storage}
    (hf : ∀ s a, Effects hashes P s (f s a)) (l : List α) (s : Storage) :
    Effects hashes P s (l.foldl f s) := by
  induction l generalizing s with
  | nil => exact refl s
  | cons a l ih => exact (hf s a).trans (ih (f s a))

include hfree

theorem registerGenesis_effects (s : Storage) (identity : GenesisIdentity) :
    Effects hashes P s (registerGenesis s identity) := by
  unfold registerGenesis
  split
  · exact refl s
  case isFalse hexists =>
    have hprimary : Identity.getPrimaryKey identity.did s = none := by
      rw [Identity.isIdentityExists, Bool.not_eq_true, Option.isSome_eq_false_iff,
        Option.isNone_iff_eq_none] at hexists
      rw [Identity.getPrimaryKey, hexists]
      rfl
    have hnonce : Aside s (s.mapIdentity fun i =>
        { i with multiPurposeNonce := i.multiPurposeNonce + 1 }) :=
      { multiPurposeNonce := Nat.le_succ _ }
    refine (Effects.aside hfree hnonce).trans ?_
    refine Effects.trans (.single (hfree .linkPrimary trivial)
      (.linkPrimary identity.primaryKey identity.did ?_)) ?_
    · exact hprimary
    · exact Effects.foldl (fun s key => linkSecondary_effects hfree key identity.did s) _ _

theorem genesis_effects (identities : List GenesisIdentity) :
    Effects hashes P emptyStorage (genesis identities) :=
  Effects.foldl (registerGenesis_effects hfree) identities emptyStorage

end Genesis

/-! ## Reachable states -/

section Reachable

variable {identities : List GenesisIdentity}

/-- **Invariants of reachable states**: what holds of the empty chain and is kept by every
effect. -/
theorem Reachable.of_effects (I : Storage → Prop) (hempty : I emptyStorage)
    (keep : ∀ effect s s', Occurs hashes effect s s' → I s → I s')
    (h : Reachable (step hashes) (genesis identities) s) : I s := by
  have hgenesis : Effects hashes (fun _ => True) emptyStorage (genesis identities) :=
    genesis_effects (fun _ _ => trivial) identities
  refine h.invariant I (hgenesis.invariant I (fun e s s' _ => keep e s s') hempty) fun s a hs => ?_
  exact (step_anyEffects a s).invariant I (fun e s s' _ => keep e s s') hs

variable (hb : Bounds L P)

include hb

/-- **Invariants of reachable states**: what holds of the empty chain and is kept by every effect
that the calls may have, when they are all as asked or fail. -/
theorem ReachableBy.of_effects (I : Storage → Prop) (hempty : I emptyStorage)
    (keep : ∀ effect s s', P effect → Occurs hashes effect s s' → I s → I s')
    (h : ReachableBy (step hashes) (fun s a => a.All L ∨ a.Fails hashes s) (genesis identities) s) :
    StoredAll L s ∧ I s := by
  have hstored : StoredAll L emptyStorage := fun _ _ h => by cases h
  have hgenesis : StoredAll L (genesis identities) ∧ Effects hashes P emptyStorage
      (genesis identities) := by
    refine Effects.keeping (genesis_effects ?_ identities) hstored
    intro effect hf
    refine ⟨hb.free effect hf, ?_⟩
    cases effect <;> first | exact hf.elim | trivial
  refine h.invariant (fun s => StoredAll L s ∧ I s) ⟨hgenesis.1, hgenesis.2.invariant I keep hempty⟩
    fun s a hs ha => ?_
  obtain ⟨hstored, heffects⟩ := step_effects hb a s ha hs.1
  exact ⟨hstored, heffects.invariant I keep hs.2⟩

end Reachable

end Accounts

end Polymesh
