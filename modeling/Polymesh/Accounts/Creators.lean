import Polymesh.Accounts.Steps

/-!
# The controls of creators

Who creates a multisig may change its signers and the signatures that it requires, and may give
this control up. The call for that names one multisig, but what is stored is that the creator has no
control any more, of whichever multisig.
-/

namespace Polymesh

open Transactional Tx TransitionSystem

namespace Accounts

open MultiSig (ensureMsCreator)

variable {hashes : Hashes} {effect : Effect} {s s' : Storage} {origin : Origin}
  {multisig : AccountId} {did : IdentityId} {call : Call}

/-- Who has lost control is who has given up that of some multisig. -/
def Abdicated (s : Storage) : Prop :=
  ∀ did, s.multisig.lostCreatorPrivileges did ↔ ∃ multisig, (multisig, did) ∈ s.removals

theorem Occurs.abdicated (h : Occurs hashes effect s s') (hs : Abdicated s) : Abdicated s' := by
  by_cases habdicate : effect = .abdicate
  · subst habdicate
    cases h with
    | abdicate multisig did =>
      intro did'
      by_cases heq : did' = did
      · subst heq
        exact iff_of_true (by simp [MultiSig.baseRemoveCreatorControls])
          ⟨multisig, by simp [MultiSig.baseRemoveCreatorControls]⟩
      · simpa [MultiSig.baseRemoveCreatorControls, heq] using hs did'
  · unfold Abdicated
    rw [(h.removals_eq habdicate).1, (h.removals_eq habdicate).2]
    exact hs

/-- The calls by which the creator of a multisig controls it. -/
def Call.ViaCreator (multisig : AccountId) : Call → Prop
  | .addMultisigSignersViaCreator ms _ | .removeMultisigSignersViaCreator ms _
  | .changeSigsRequiredViaCreator ms _ => ms = multisig
  | _ => False

theorem viaCreator_iff {f : IdentityId → Dispatch Unit}
    (hf : FailsWith (· ≠ .creatorControlsHaveBeenRemoved) (f did))
    (hcreator : ensureMsCreator origin multisig s = .ok did) :
    (∃ s', (Tx.read (ensureMsCreator origin multisig) >>= fun callerDid =>
        Tx.read (MultiSig.ensureCreatorControls callerDid) >>= fun _ => f callerDid) s =
          (.error .creatorControlsHaveBeenRemoved, s')) ↔ s.multisig.lostCreatorPrivileges did := by
  simp only [bind_error, read_error, read_ok, hcreator, MultiSig.ensureCreatorControls]
  constructor
  · rintro ⟨s', ⟨hne, -⟩ | ⟨_, _, ⟨hdid, rfl⟩, ⟨hlost, -⟩ | ⟨_, _, ⟨-, rfl⟩, hfail⟩⟩⟩
    · cases hne
    · cases hdid
      simpa using hlost
    · cases hdid
      exact absurd rfl (hf hfail)
  · intro hlost
    exact ⟨s, .inr ⟨did, s, ⟨rfl, rfl⟩, .inl ⟨by simpa using hlost, rfl⟩⟩⟩

theorem dispatch_viaCreator (envs : Envs) (hcall : call.ViaCreator multisig)
    (hcreator : ensureMsCreator origin multisig s = .ok did) :
    (∃ s', dispatch hashes envs call origin s = (.error .creatorControlsHaveBeenRemoved, s')) ↔
      s.multisig.lostCreatorPrivileges did := by
  cases call with
  | addMultisigSignersViaCreator ms signers =>
    obtain rfl := hcall
    exact viaCreator_iff (.forM (fun _ => .modify _) signers) hcreator
  | removeMultisigSignersViaCreator ms signers =>
    obtain rfl := hcall
    refine viaCreator_iff ?_ hcreator
    refine .bind (.read ?_) fun _ => .bind (.read ?_) fun pending => .bind (.read ?_) fun _ =>
      .bind (.read ?_) fun _ => .bind (.forM (fun _ => .modify _) signers) fun _ => .modify _
    · simp
    · intro s e h
      unfold okOr at h
      split at h <;> cases h
      simp
    · simp
    · intro s e h
      obtain ⟨signer, -, he⟩ := except_forM_eq_error h
      simp only [MultiSig.ensureMsSigner, ensure_eq_error] at he
      simp [← he.2]
  | changeSigsRequiredViaCreator ms signaturesRequired =>
    obtain rfl := hcall
    refine viaCreator_iff ?_ hcreator
    refine .bind (.read ?_) fun _ => .bind (.read ?_) fun _ => .modify _
    · simp
    · simp
  | _ => exact hcall.elim

/-- **A creator gives up control of all multisigs at once**: the calls by which they control one of
them fail for that reason iff they have given up control of some multisig, this one or another. -/
theorem controls_removed_iff {identities : List GenesisIdentity} (envs : Envs)
    (hs : Reachable (step hashes) (genesis identities) s)
    (hcreator : ensureMsCreator origin multisig s = .ok did) (hcall : call.ViaCreator multisig) :
    (∃ s', dispatch hashes envs call origin s = (.error .creatorControlsHaveBeenRemoved, s')) ↔
      ∃ multisig', (multisig', did) ∈ s.removals := by
  have habdicated : Abdicated s :=
    Reachable.of_effects Abdicated (by simp [Abdicated, emptyStorage])
      (fun _ _ _ he h => he.abdicated h) hs
  rw [dispatch_viaCreator envs hcall hcreator, habdicated did]

/-- An identity creates two multisigs, and gives up control of the first. -/
def abdication : List Action :=
  [.calls 1 (.createMultisig [.account ⟨7⟩] 1), .calls 1 (.createMultisig [.account ⟨8⟩] 1),
    .calls 1 (.removeCreatorControls ⟨2⟩)]

def abdicated : Storage := run (step .numbers) (genesis [⟨⟨1⟩, ⟨1⟩, []⟩]) abdication

theorem controls_removed_iff_other :
    ∃ s', dispatch .numbers (fun _ => .consenting) (.addMultisigSignersViaCreator ⟨3⟩ [])
      (.signed ⟨1⟩) abdicated = (.error .creatorControlsHaveBeenRemoved, s') := by
  have hcreator : ensureMsCreator (.signed ⟨1⟩) ⟨3⟩ abdicated = .ok ⟨1⟩ := by decide +kernel
  have hremoved : (⟨2⟩, ⟨1⟩) ∈ abdicated.removals := by decide +kernel
  exact (controls_removed_iff _ ⟨abdication, rfl⟩ hcreator (by rfl)).mpr ⟨_, hremoved⟩

/-- The creator of the second multisig has not given up control of it, and has lost it. -/
theorem controls_of_other_removed :
    ensureMsCreator (.signed ⟨1⟩) ⟨3⟩ abdicated = .ok ⟨1⟩ ∧
      (∀ entry ∈ abdicated.removals, entry.1 ≠ ⟨3⟩) ∧
      (dispatch .numbers (fun _ => .consenting) (.changeSigsRequiredViaCreator ⟨3⟩ 0)
        (.signed ⟨1⟩) abdicated).1 = .error .creatorControlsHaveBeenRemoved := by
  decide +kernel

end Accounts

end Polymesh
