import Mathlib.Data.Set.Card
import Polymesh.Accounts.Steps

/-!
# The signers of multisigs

How many signers a multisig has is counted apart from the map that says who they are, and how many
of them are required is checked by every call that changes either. The count goes wrong when a
signer is named twice in a list of those to remove, and the requirement vanishes when it is
changed to none.
-/

namespace Polymesh

open Transactional Tx TransitionSystem Collections
open Function (update update_apply)

namespace Accounts

open MultiSig (putNumberOfSigners putSigner)

/-- The signers of a multisig. -/
def signersOf (s : Storage) (multisig : AccountId) : Set Signatory :=
  {signer | s.multisig.multiSigSigners (multisig, signer) = true}

theorem finite_signers (signers : Set Signatory) : signers.Finite := by
  let code : Signatory → Fin (2 ^ 256) ⊕ Fin (2 ^ 256)
    | .identity did => .inl did.bytes
    | .account key => .inr key.bytes
  refine Set.Finite.of_finite_image (f := code) (Set.toFinite _) ?_
  rintro (did | key) - (did' | key') - h
  · exact congrArg (Signatory.identity ∘ IdentityId.mk) (Sum.inl.inj h)
  · cases h
  · cases h
  · exact congrArg (Signatory.account ∘ AccountId.mk) (Sum.inr.inj h)

/-! ## The number of signers -/

/-- The number of signers is right for every multisig. -/
def SignersCounted (s : Storage) : Prop :=
  ∀ multisig, s.multisig.numberOfSigners multisig = (signersOf s multisig).ncard

section Counts

variable {s s' : Storage} {multisig : AccountId} {signers : List Signatory}

theorem SignersCounted.of_eq (hs : SignersCounted s)
    (hsigners : s'.multisig.multiSigSigners = s.multisig.multiSigSigners)
    (hnumber : s'.multisig.numberOfSigners = s.multisig.numberOfSigners) : SignersCounted s' := by
  unfold SignersCounted signersOf
  rw [hsigners, hnumber]
  exact hs

theorem signersOf_dropSigners (multisig' : AccountId) :
    signersOf (s.mapMultisig (dropSigners multisig signers)) multisig' =
      if multisig' = multisig then signersOf s multisig \ {signer | signer ∈ signers}
      else signersOf s multisig' := by
  ext signer
  by_cases h : multisig' = multisig
  · subst h
    simp [signersOf, dropSigners, and_comm]
  · simp [signersOf, dropSigners, h]

theorem ncard_removal_iff (hsigners : ∀ signer ∈ signers, signer ∈ signersOf s multisig)
    (hlength : signers.length ≤ (signersOf s multisig).ncard) :
    (signersOf s multisig).ncard - signers.length =
        (signersOf s multisig \ {signer | signer ∈ signers}).ncard ↔ signers.Nodup := by
  have hsubset : {signer | signer ∈ signers} ⊆ signersOf s multisig := hsigners
  have hle := List.toFinset_card_le signers
  rw [Set.ncard_sdiff hsubset (finite_signers _), ncard_mem, ← toFinset_card_eq_length]
  omega

/-- The writes by which a key becomes a signer. -/
def writeSigner (multisig key : AccountId) (s : Storage) : Storage :=
  putNumberOfSigners multisig (s.multisig.numberOfSigners multisig + 1)
    (putSigner multisig (.account key) true s)

theorem signersOf_writeSigner (multisig key multisig' : AccountId) :
    signersOf (writeSigner multisig key s) multisig' =
      if multisig' = multisig then insert (.account key) (signersOf s multisig)
      else signersOf s multisig' := by
  ext signer
  by_cases h : multisig' = multisig
  · subst h
    simp [signersOf, writeSigner, putNumberOfSigners, putSigner,
      update_apply]
  · simp [signersOf, writeSigner, putNumberOfSigners, putSigner, h]

theorem SignersCounted.writeSigner {key : AccountId} (hs : SignersCounted s)
    (hkey : s.multisig.multiSigSigners (multisig, .account key) = false) :
    SignersCounted (writeSigner multisig key s) := by
  intro multisig'
  rw [signersOf_writeSigner]
  by_cases h : multisig' = multisig
  · have hnew : Signatory.account key ∉ signersOf s multisig := by simp [signersOf, hkey]
    rw [if_pos h, Set.ncard_insert_of_notMem hnew (finite_signers _), ← hs multisig]
    simp [Accounts.writeSigner, putNumberOfSigners, h]
  · rw [if_neg h, ← hs multisig']
    simp [Accounts.writeSigner, putNumberOfSigners, putSigner, h]

/-- The writes by which signers are removed, apart from those of their keys. -/
def writeRemoval (multisig : AccountId) (signers : List Signatory) (s : Storage) : Storage :=
  putNumberOfSigners multisig (s.multisig.numberOfSigners multisig - signers.length)
    (s.mapMultisig (dropSigners multisig signers))

/-- **The count is right after a removal exactly if nobody is removed twice.** -/
theorem SignersCounted.writeRemoval_iff (hs : SignersCounted s)
    (hsigners : ∀ signer ∈ signers, s.multisig.multiSigSigners (multisig, signer))
    (hlength : signers.length ≤ s.multisig.numberOfSigners multisig) :
    SignersCounted (writeRemoval multisig signers s) ↔ signers.Nodup := by
  have hsignersOf : ∀ multisig', signersOf (writeRemoval multisig signers s) multisig' =
      if multisig' = multisig then signersOf s multisig \ {signer | signer ∈ signers}
      else signersOf s multisig' := signersOf_dropSigners
  have hiff := ncard_removal_iff hsigners (hs multisig ▸ hlength)
  rw [← hiff]
  constructor
  · intro h
    have hms := h multisig
    rw [hsignersOf, if_pos rfl, ← hs multisig] at *
    simpa [writeRemoval, putNumberOfSigners] using hms
  · intro h multisig'
    rw [hsignersOf]
    by_cases hms : multisig' = multisig
    · rw [if_pos hms, ← h, ← hs multisig]
      simp [writeRemoval, putNumberOfSigners, hms]
    · rw [if_neg hms, ← hs multisig']
      simp [writeRemoval, putNumberOfSigners, dropSigners, hms]

end Counts

/-- Calls that name no signer twice among those to remove. -/
def NamesOnce : Call → Prop
  | .removeMultisigSignersViaCreator _ signers => signers.Nodup
  | _ => True

def Effect.NamesOnce : Effect → Prop
  | .removeSigners _ signers => signers.Nodup
  | _ => True

theorem bounds_namesOnce : Bounds NamesOnce Effect.NamesOnce where
  free effect hf := by cases effect <;> first | exact hf.elim | trivial
  of call effect hcall h := by
    cases h with
    | free hf => cases effect <;> first | exact hf.elim | trivial
    | removeSigner multisig signer => exact List.nodup_singleton signer
    | removeSigners multisig signers => exact hcall
    | _ => trivial
  execute _ _ := trivial
  forget := trivial
  scheduled _ _ _ := trivial

theorem Occurs.signersCounted {hashes : Hashes} {effect : Effect} {s s' : Storage}
    (h : Occurs hashes effect s s') (heffect : effect.NamesOnce) (hs : SignersCounted s) :
    SignersCounted s' := by
  by_cases hlink : effect.IsLink
  · obtain ⟨i, rfl, -⟩ := h.onlyKeys hlink
    exact hs.of_eq rfl rfl
  · cases h with
    | aside h => exact hs.of_eq h.multiSigSigners h.numberOfSigners
    | @addSigner multisig key s hkey hsigner =>
      obtain ⟨i, hi, -⟩ := addKeyRecord_onlyKeys key (.multiSigSignerKey multisig)
        (writeSigner multisig key s)
      exact (hs.writeSigner hsigner).of_eq (congrArg (·.multisig.multiSigSigners) hi)
        (congrArg (·.multisig.numberOfSigners) hi)
    | @removeSigners multisig signers s hsigners hlength =>
      obtain ⟨i, hi, -⟩ := foldl_unsafeSignerRemoval_onlyKeys multisig signers s
      rw [hi]
      exact ((hs.writeRemoval_iff hsigners hlength).mpr heffect).of_eq rfl rfl
    | propose | approve =>
      rw [writeApproval_eq]
      exact hs.of_eq rfl rfl
    | reject =>
      rw [writeRejection_eq]
      exact hs.of_eq rfl rfl
    | linkPrimary | linkSecondary | unlink | rotate => exact absurd trivial hlink
    | _ => exact hs.of_eq rfl rfl

theorem SignersCounted.of_reachableBy {hashes : Hashes} {identities : List GenesisIdentity}
    {s : Storage}
    (h : ReachableBy (step hashes) (fun s a => a.All NamesOnce ∨ a.Fails hashes s)
      (genesis identities) s) :
    SignersCounted s := by
  have hempty : SignersCounted emptyStorage := by
    intro multisig
    simp [signersOf, emptyStorage]
  exact (ReachableBy.of_effects bounds_namesOnce SignersCounted hempty
    (fun effect s s' heffect he => he.signersCounted heffect) h).2

/-- **The number of signers** is right as long as no call that succeeds, and no proposal in it, names a
signer twice among those that it removes; and removing some of them keeps it right exactly then. -/
theorem signers_counted {hashes : Hashes} {identities : List GenesisIdentity} {s : Storage}
    (h : ReachableBy (step hashes) (fun s a => a.All NamesOnce ∨ a.Fails hashes s)
      (genesis identities) s) :
    (∀ multisig, s.multisig.numberOfSigners multisig = (signersOf s multisig).ncard) ∧
    ∀ origin multisig signers s',
      MultiSig.removeMultisigSignersViaCreator origin multisig signers s = (.ok (), s') →
      ((∀ multisig', s'.multisig.numberOfSigners multisig' = (signersOf s' multisig').ncard) ↔
        signers.Nodup) := by
  have hs := SignersCounted.of_reachableBy h
  refine ⟨hs, fun origin multisig signers s' hremove => ?_⟩
  obtain ⟨hsigners, hlength, -, rfl⟩ := removeMultisigSignersViaCreator_ok hremove
  obtain ⟨i, hi, -⟩ := foldl_unsafeSignerRemoval_onlyKeys multisig signers s
  rw [hi, ← hs.writeRemoval_iff hsigners hlength]
  exact Iff.rfl

/-- A multisig with three signers, of whom one is required. -/
def threeSigners : List Action :=
  [.calls 1 (.createMultisig [.account ⟨10⟩, .account ⟨11⟩, .account ⟨12⟩] 1),
    .calls 10 (.acceptMultisigSignerAsKey 3), .calls 11 (.acceptMultisigSignerAsKey 4),
    .calls 12 (.acceptMultisigSignerAsKey 5)]

/-- The state with three signers. -/
def withThreeSigners : Storage := run (step .numbers) (genesis [⟨⟨1⟩, ⟨1⟩, []⟩]) threeSigners

theorem signers_counted_three :
    withThreeSigners.multisig.numberOfSigners ⟨2⟩ = 3 ∧
      (signersOf withThreeSigners ⟨2⟩).ncard = 3 := by
  have hnumber : withThreeSigners.multisig.numberOfSigners ⟨2⟩ = 3 := by decide +kernel
  have hreachable : ReachableBy (step .numbers) (fun s a => a.All NamesOnce ∨ a.Fails .numbers s)
      (genesis [⟨⟨1⟩, ⟨1⟩, []⟩]) withThreeSigners :=
    ⟨threeSigners, by simp [threeSigners, Action.calls, Action.All, Call.All, NamesOnce], rfl⟩
  exact ⟨hnumber, ((signers_counted hreachable).1 ⟨2⟩).symm.trans hnumber⟩

/-- The creator removes one of them, and names them twice. -/
def removesTwice : Action :=
  .calls 1 (.removeMultisigSignersViaCreator ⟨2⟩ [.account ⟨10⟩, .account ⟨10⟩])

def removedTwice : Storage := step .numbers removesTwice withThreeSigners

/-- **A signer that is removed twice is counted twice**: two of three signers are left, and one of
them is counted. -/
theorem signers_miscounted :
    Reachable (step .numbers) (genesis [⟨⟨1⟩, ⟨1⟩, []⟩]) removedTwice ∧
      removedTwice.multisig.numberOfSigners ⟨2⟩ = 1 ∧ 1 < (signersOf removedTwice ⟨2⟩).ncard := by
  refine ⟨⟨threeSigners ++ [removesTwice], ?_⟩, by decide +kernel, ?_⟩
  · rw [run_append]
    rfl
  rw [Set.one_lt_ncard_iff (finite_signers _)]
  refine ⟨.account ⟨11⟩, .account ⟨12⟩, ?_, ?_, by decide⟩
  · change removedTwice.multisig.multiSigSigners (⟨2⟩, .account ⟨11⟩) = true
    decide +kernel
  · change removedTwice.multisig.multiSigSigners (⟨2⟩, .account ⟨12⟩) = true
    decide +kernel

/-! ## The number of signatures that are required -/

/-- Which multisigs exist, how many signatures they require and how many signers they have. -/
structure Thresholds where
  nonce : ℕ
  created : AccountId → Bool
  required : AccountId → ℕ
  number : AccountId → ℕ

def Storage.thresholds (s : Storage) : Thresholds where
  nonce := s.multisig.multiSigNonce
  created multisig := (s.multisig.multiSigToIdentity multisig).isSome
  required := s.multisig.multiSigSignsRequired
  number := s.multisig.numberOfSigners

/-- What can happen to them. -/
inductive Thresholds.Next (hashes : Hashes) : Effect → Thresholds → Thresholds → Prop
  | same (effect : Effect) (t : Thresholds) : Next hashes effect t t
  | create (sender : AccountId) {sigsRequired : ℕ} {t : Thresholds} (hrequired : 0 < sigsRequired)
      (hnonce : t.nonce + 1 < 2 ^ 64) :
      Next hashes .createMultisig t
        { t with
          nonce := t.nonce + 1
          created := update t.created (hashes.multisigAddress sender (t.nonce + 1)) true
          required := update t.required (hashes.multisigAddress sender (t.nonce + 1))
            sigsRequired }
  | join (multisig : AccountId) (t : Thresholds) :
      Next hashes .addSigner t
        { t with number := update t.number multisig (t.number multisig + 1) }
  | leave {multisig : AccountId} {signers : List Signatory} {t : Thresholds}
      (h : t.required multisig ≤ t.number multisig - signers.length) :
      Next hashes (.removeSigners multisig signers) t
        { t with
          number := update t.number multisig (t.number multisig - signers.length) }
  | change {multisig : AccountId} {sigsRequired : ℕ} {t : Thresholds}
      (h : sigsRequired ≤ t.number multisig) :
      Next hashes (.changeRequired multisig sigsRequired) t
        { t with required := update t.required multisig sigsRequired }

section Thresholds

variable {hashes : Hashes} {effect : Effect} {s s' : Storage} {t t' : Thresholds}

theorem Occurs.thresholds (h : Occurs hashes effect s s') :
    Thresholds.Next hashes effect s.thresholds s'.thresholds := by
  by_cases hlink : effect.IsLink
  · obtain ⟨i, rfl, -⟩ := h.onlyKeys hlink
    exact .same effect s.thresholds
  · cases h with
    | aside h =>
      have hsame : s'.thresholds = s.thresholds := by
        simp only [Storage.thresholds, h.multiSigNonce, h.multiSigToIdentity,
          h.multiSigSignsRequired, h.numberOfSigners]
      rw [hsame]
      exact .same _ _
    | createMultisig sender did hrequired hnonce =>
      convert Thresholds.Next.create (t := s.thresholds) sender hrequired hnonce using 1
      simp only [Storage.thresholds, MultiSig.putMultisig, Storage.mapMultisig, Thresholds.mk.injEq,
        and_true, true_and]
      funext multisig
      rw [update_apply, update_apply]
      split <;> rfl
    | @addSigner multisig key s hkey hsigner =>
      obtain ⟨i, hi, -⟩ := addKeyRecord_onlyKeys key (.multiSigSignerKey multisig)
        (writeSigner multisig key s)
      exact (congrArg Storage.thresholds hi).symm ▸ .join multisig s.thresholds
    | @removeSigners multisig signers s hsigners hlength hrequired =>
      obtain ⟨i, hi, -⟩ := foldl_unsafeSignerRemoval_onlyKeys multisig signers s
      rw [hi]
      exact .leave hrequired
    | changeRequired h => exact .change h
    | propose | approve =>
      rw [writeApproval_eq]
      exact .same _ _
    | reject =>
      rw [writeRejection_eq]
      exact .same _ _
    | linkPrimary | linkSecondary | unlink | rotate => exact absurd trivial hlink
    | _ => exact .same _ _

/-- The addresses of multisigs are those of the nonces so far. -/
def Thresholds.Addressed (hashes : Hashes) (t : Thresholds) : Prop :=
  ∀ multisig, t.created multisig →
    ∃ sender n, n ≤ t.nonce ∧ n < 2 ^ 64 ∧ multisig = hashes.multisigAddress sender n

theorem Thresholds.Next.addressed (h : Next hashes effect t t') (ht : t.Addressed hashes) :
    t'.Addressed hashes := by
  cases h with
  | create sender hrequired hnonce =>
    intro multisig hcreated
    dsimp only at hcreated
    rw [update_apply] at hcreated
    split at hcreated
    case isTrue heq => exact ⟨sender, t.nonce + 1, le_rfl, hnonce, heq⟩
    case isFalse =>
      obtain ⟨sender', n, hn, hlt, heq⟩ := ht multisig hcreated
      exact ⟨sender', n, Nat.le_succ_of_le hn, hlt, heq⟩
  | _ => exact ht

/-- Every multisig requires a signature. -/
def Thresholds.Positive (t : Thresholds) : Prop :=
  ∀ multisig, t.created multisig → 1 ≤ t.required multisig

/-- Calls that do not ask for none. -/
def AsksForOne : Call → Prop
  | .changeSigsRequired sigsRequired => 1 ≤ sigsRequired
  | .changeSigsRequiredViaCreator _ signaturesRequired => 1 ≤ signaturesRequired
  | _ => True

def Effect.AsksForOne : Effect → Prop
  | .changeRequired _ sigsRequired => 1 ≤ sigsRequired
  | _ => True

theorem bounds_asksForOne : Bounds AsksForOne Effect.AsksForOne where
  free effect hf := by cases effect <;> first | exact hf.elim | trivial
  of call effect hcall h := by
    cases h with
    | free hf => cases effect <;> first | exact hf.elim | trivial
    | changeRequired multisig sigsRequired | changeRequiredViaCreator multisig sigsRequired =>
      exact hcall
    | _ => trivial
  execute _ _ := trivial
  forget := trivial
  scheduled _ _ _ := trivial

theorem Thresholds.Next.positive (h : Next hashes effect t t') (heffect : effect.AsksForOne)
    (ht : t.Positive) : t'.Positive := by
  cases h with
  | create sender hrequired hnonce =>
    intro multisig hcreated
    dsimp only at hcreated ⊢
    rw [update_apply] at hcreated ⊢
    split
    · exact hrequired
    case isFalse hne =>
      rw [if_neg hne] at hcreated
      exact ht multisig hcreated
  | change h =>
    intro multisig hcreated
    dsimp only
    rw [update_apply]
    split
    · exact heffect
    · exact ht multisig hcreated
  | _ => exact ht

/-- A multisig that has enough signers keeps enough. -/
def Thresholds.StaysEnough (t t' : Thresholds) : Prop :=
  ∀ multisig, t.created multisig → t.required multisig ≤ t.number multisig →
    t'.created multisig ∧ t'.required multisig ≤ t'.number multisig

theorem Thresholds.Next.staysEnough (h : Next hashes effect t t') (ht : t.Addressed hashes) :
    t.StaysEnough t' := by
  intro multisig hcreated henough
  cases h with
  | same => exact ⟨hcreated, henough⟩
  | create sender hrequired hnonce =>
    -- the new multisig is not one that had enough
    have hne : multisig ≠ hashes.multisigAddress sender (t.nonce + 1) := by
      rintro rfl
      -- a new multisig has a new address
      obtain ⟨sender', n, hn, hlt, heq⟩ := ht _ hcreated
      have := hashes.nonce_eq hnonce hlt heq
      omega
    simp only [update_apply, if_neg hne]
    exact ⟨hcreated, henough⟩
  | join multisig' =>
    refine ⟨hcreated, ?_⟩
    simp only [update_apply]
    split
    case isTrue heq => exact Nat.le_succ_of_le (heq ▸ henough)
    case isFalse => exact henough
  | leave h | change h =>
    refine ⟨hcreated, ?_⟩
    simp only [update_apply]
    split
    case isTrue heq => exact heq ▸ h
    case isFalse => exact henough

/-- The addresses stay as they are made, and enough signers stay enough. -/
def KeepsEnough (hashes : Hashes) : Storage → Storage → Prop :=
  Keeping (fun s => s.thresholds.Addressed hashes) fun s s' => s.thresholds.StaysEnough s'.thresholds

instance : Std.Refl (KeepsEnough hashes) := ⟨fun _ hs => ⟨hs, fun _ hcreated h => ⟨hcreated, h⟩⟩⟩

instance : IsTrans Storage (KeepsEnough hashes) where
  trans _ _ _ h₁ h₂ hs := by
    obtain ⟨hs₁, henough₁⟩ := h₁ hs
    obtain ⟨hs₂, henough₂⟩ := h₂ hs₁
    refine ⟨hs₂, fun multisig hcreated h => ?_⟩
    obtain ⟨hcreated₁, h₁⟩ := henough₁ multisig hcreated h
    exact henough₂ multisig hcreated₁ h₁

theorem step_keepsEnough (a : Action) (s : Storage) : KeepsEnough hashes s (step hashes a s) :=
  (step_anyEffects a s).rel (KeepsEnough hashes) fun _ _ _ _ he hs =>
    ⟨he.thresholds.addressed hs, he.thresholds.staysEnough hs⟩

theorem addressed_emptyStorage : emptyStorage.thresholds.Addressed hashes := by
  intro multisig hcreated
  cases hcreated

end Thresholds

/-- **Signatures are required** as long as no call that succeeds, and no proposal in it, asks for
none; and a multisig that has as many signers as it requires has enough of them from then on. -/
theorem threshold_sound (hashes : Hashes) (identities : List GenesisIdentity) :
    (∀ s, ReachableBy (step hashes) (fun s a => a.All AsksForOne ∨ a.Fails hashes s)
        (genesis identities) s →
      ∀ multisig, (s.multisig.multiSigToIdentity multisig).isSome →
        1 ≤ s.multisig.multiSigSignsRequired multisig) ∧
    ∀ s, Reachable (step hashes) (genesis identities) s → ∀ actions multisig,
      (s.multisig.multiSigToIdentity multisig).isSome →
      s.multisig.multiSigSignsRequired multisig ≤ s.multisig.numberOfSigners multisig →
      (run (step hashes) s actions).multisig.multiSigSignsRequired multisig ≤
        (run (step hashes) s actions).multisig.numberOfSigners multisig := by
  constructor
  · intro s h
    have hempty : emptyStorage.thresholds.Positive := by
      intro multisig hcreated
      cases hcreated
    exact (ReachableBy.of_effects bounds_asksForOne (fun s => s.thresholds.Positive) hempty
      (fun effect s s' heffect he => he.thresholds.positive heffect) h).2
  · intro s h actions multisig hcreated henough
    have haddressed : s.thresholds.Addressed hashes :=
      Reachable.of_effects (fun s => s.thresholds.Addressed hashes) addressed_emptyStorage
        (fun _ _ _ he => he.thresholds.addressed) h
    have hrun : KeepsEnough hashes s (run (step hashes) s actions) :=
      run_rel (fun _ => True) (KeepsEnough hashes) (fun _ _ _ _ => trivial)
        (fun s a _ _ => step_keepsEnough a s) trivial (along_true s actions)
    exact ((hrun haddressed).2 multisig hcreated henough).2

/-- One of three signers is removed. -/
def removesOne : Action :=
  .calls 1 (.removeMultisigSignersViaCreator ⟨2⟩ [.account ⟨10⟩])

theorem threshold_sound_three :
    1 ≤ withThreeSigners.multisig.multiSigSignsRequired ⟨2⟩ ∧
      (run (step .numbers) withThreeSigners [removesOne]).multisig.multiSigSignsRequired ⟨2⟩ ≤
        (run (step .numbers) withThreeSigners [removesOne]).multisig.numberOfSigners ⟨2⟩ := by
  have hsound := threshold_sound .numbers [⟨⟨1⟩, ⟨1⟩, []⟩]
  have hcreated : (withThreeSigners.multisig.multiSigToIdentity ⟨2⟩).isSome := by decide +kernel
  have henough : withThreeSigners.multisig.multiSigSignsRequired ⟨2⟩ ≤
      withThreeSigners.multisig.numberOfSigners ⟨2⟩ := by decide +kernel
  constructor
  · refine hsound.1 withThreeSigners ⟨threeSigners, ?_, rfl⟩ ⟨2⟩ hcreated
    simp [threeSigners, Action.calls, Action.All, Call.All, AsksForOne]
  · exact hsound.2 withThreeSigners ⟨threeSigners, rfl⟩ [removesOne] ⟨2⟩ hcreated henough

/-- The creator asks for no signature. -/
def asksForNone : Action := .calls 1 (.changeSigsRequiredViaCreator ⟨2⟩ 0)

def noneRequired : Storage := step .numbers asksForNone withThreeSigners

/-- **A multisig may require no signature.** -/
theorem threshold_of_none :
    Reachable (step .numbers) (genesis [⟨⟨1⟩, ⟨1⟩, []⟩]) noneRequired ∧
      (noneRequired.multisig.multiSigToIdentity ⟨2⟩).isSome ∧
      noneRequired.multisig.multiSigSignsRequired ⟨2⟩ = 0 := by
  refine ⟨⟨threeSigners ++ [asksForNone], ?_⟩, by decide +kernel, by decide +kernel⟩
  rw [run_append]
  rfl

end Accounts

end Polymesh
