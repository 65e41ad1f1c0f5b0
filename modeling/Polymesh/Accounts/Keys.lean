import Polymesh.Accounts.Steps

/-!
# Keys and what they act for

What a key acts for is stored in four maps of two pallets: the record of the key, the primary key
of an identity, the keys of an identity and the signers of a multisig. They agree at all times,
whatever happens to the keys.
-/

namespace Polymesh

open Transactional Tx TransitionSystem
open Function (update update_apply)

namespace Accounts

/-- The record of a key says what the other maps say. -/
structure KeysCoherent (s : Storage) : Prop where
  primary : ∀ key did, s.identity.keyRecords key = some (.primaryKey did) ↔
    s.identity.didRecords did = some (some key)
  linked : ∀ did key, s.identity.didKeys (did, key) = true ↔
    s.identity.keyRecords key = some (.primaryKey did) ∨
      s.identity.keyRecords key = some (.secondaryKey did)
  signer : ∀ multisig key, s.multisig.multiSigSigners (multisig, .account key) = true ↔
    s.identity.keyRecords key = some (.multiSigSignerKey multisig)

section Writes

open Identity

variable {s s' : Storage} {key new old multisig : AccountId} {did : IdentityId}

theorem KeysCoherent.of_eq (hs : KeysCoherent s)
    (hrecords : s'.identity.keyRecords = s.identity.keyRecords)
    (hkeys : s'.identity.didKeys = s.identity.didKeys)
    (hdids : s'.identity.didRecords = s.identity.didRecords)
    (hsigners : s'.multisig.multiSigSigners = s.multisig.multiSigSigners) : KeysCoherent s' := by
  constructor
  · rw [hrecords, hdids]
    exact hs.primary
  · rw [hrecords, hkeys]
    exact hs.linked
  · rw [hrecords, hsigners]
    exact hs.signer

theorem ne_of_getPrimaryKey_eq_none (h : getPrimaryKey did s = none) (key : AccountId) :
    s.identity.didRecords did ≠ some (some key) := by
  intro hkey
  rw [getPrimaryKey, hkey] at h
  cases h

theorem didRecords_of_getPrimaryKey (h : getPrimaryKey did s = some key) :
    s.identity.didRecords did = some (some key) := by
  rw [getPrimaryKey] at h
  exact Option.join_eq_some_iff.mp h

/-! ### Links -/

theorem KeysCoherent.link (hs : KeysCoherent s) {record : KeyRecord}
    (hrecord : record = .secondaryKey did ∨
      record = .primaryKey did ∧ getPrimaryKey did s = none) :
    KeysCoherent (addKeyRecord key record s) := by
  unfold addKeyRecord
  split
  case isTrue hkey =>
    rw [canAddKeyRecord, Option.isNone_iff_eq_none] at hkey
    have hno : getPrimaryKey did s = none → _ := ne_of_getPrimaryKey_eq_none
    have hprimary := hs.primary
    have hlinked := hs.linked
    have hsigner := hs.signer
    rcases hrecord with rfl | ⟨rfl, hdid⟩ <;>
      refine ⟨fun k d => ?_, fun d k => ?_, fun ms k => ?_⟩ <;>
      simp only [putPrimaryKey, putDidKey, putKeyRecord, Storage.mapIdentity,
        update_apply] <;>
      grind
  case isFalse => exact hs

theorem KeysCoherent.linkSigner (hs : KeysCoherent s) (hkey : s.identity.keyRecords key = none)
    (number : ℕ) :
    KeysCoherent (addKeyRecord key (.multiSigSignerKey multisig)
      (MultiSig.putNumberOfSigners multisig number
        (MultiSig.putSigner multisig (.account key) true s))) := by
  have hadd : canAddKeyRecord key (MultiSig.putNumberOfSigners multisig number
      (MultiSig.putSigner multisig (.account key) true s)) = true := by
    rw [canAddKeyRecord]
    exact Option.isNone_iff_eq_none.mpr hkey
  have hprimary := hs.primary
  have hlinked := hs.linked
  have hsigner := hs.signer
  rw [addKeyRecord, if_pos hadd]
  refine ⟨fun k d => ?_, fun d k => ?_, fun ms k => ?_⟩ <;>
    simp only [putKeyRecord, MultiSig.putNumberOfSigners, MultiSig.putSigner, Storage.mapIdentity,
      Storage.mapMultisig, update_apply] <;>
    grind

/-! ### Unlinking -/

theorem KeysCoherent.unlink (hs : KeysCoherent s) :
    KeysCoherent (removeKeyRecord key (some did) s) := by
  have hprimary := hs.primary
  have hlinked := hs.linked
  have hsigner := hs.signer
  unfold removeKeyRecord
  split
  case h_1 did₁ hkey =>
    split
    · -- the primary key is the one that is cleared
      rw [clearPrimaryKey, if_pos ((hprimary key did₁).mp hkey)]
      refine ⟨fun k d => ?_, fun d k => ?_, fun ms k => ?_⟩ <;>
        simp only [putPrimaryKey, putDidKey, putKeyRecord, Storage.mapIdentity,
          update_apply] <;>
        grind
    · exact hs
  case h_2 did₁ hkey =>
    split
    · refine ⟨fun k d => ?_, fun d k => ?_, fun ms k => ?_⟩ <;>
        simp only [putDidKey, putKeyRecord, Storage.mapIdentity, update_apply] <;>
        grind
    · exact hs
  case h_3 => exact hs
  case h_4 => exact hs

/-! ### Rotation -/

theorem promote_eq {isSecondaryKey : Bool}
    (hnew : s.identity.keyRecords new = none ∨ isSecondaryKey) :
    promote did new isSecondaryKey s = putPrimaryKey did (some new)
      (if isSecondaryKey then putKeyRecord new (some (.primaryKey did)) s
      else putDidKey did new true (putKeyRecord new (some (.primaryKey did)) s)) := by
  cases isSecondaryKey with
  | true => rfl
  | false =>
    have hadd : canAddKeyRecord new s = true := by
      rw [canAddKeyRecord]
      exact Option.isNone_iff_eq_none.mpr (hnew.resolve_right (by simp))
    simp only [promote, addKeyRecord, if_pos hadd, Bool.false_eq_true, if_false]

theorem retire_eq (toSecondary : Bool) (hold : s.identity.keyRecords old = some (.primaryKey did))
    (hne : s.identity.didRecords did ≠ some (some old)) :
    retire did old toSecondary s =
      if toSecondary then putKeyRecord old (some (.secondaryKey did)) s
      else putKeyRecord old none (putDidKey did old false s) := by
  cases toSecondary with
  | true => rfl
  | false => simp [retire, removeKeyRecord, hold, clearPrimaryKey, hne]

theorem KeysCoherent.rotate (hs : KeysCoherent s) {isSecondaryKey : Bool} (toSecondary : Bool)
    (hold : getPrimaryKey did s = some old)
    (hsecondary : isSecondaryKey = decide (s.identity.keyRecords new = some (.secondaryKey did)))
    (hnew : s.identity.keyRecords new = none ∨ isSecondaryKey) :
    KeysCoherent (retire did old toSecondary (promote did new isSecondaryKey s)) := by
  have hprimary := hs.primary
  have hlinked := hs.linked
  have hsigner := hs.signer
  have hdid := didRecords_of_getPrimaryKey hold
  have hrecord : s.identity.keyRecords old = some (.primaryKey did) := (hprimary old did).mpr hdid
  have hne : new ≠ old := by
    rintro rfl
    simp_all
  rw [promote_eq hnew, retire_eq]
  · cases isSecondaryKey <;> cases toSecondary <;>
      refine ⟨fun k d => ?_, fun d k => ?_, fun ms k => ?_⟩ <;>
      simp only [putPrimaryKey, putDidKey, putKeyRecord, Storage.mapIdentity, update_apply,
        if_true, if_false, Bool.false_eq_true] <;>
      grind
  · cases isSecondaryKey <;>
      simp [putPrimaryKey, putDidKey, putKeyRecord, hne.symm, hrecord]
  · simp [putPrimaryKey, hne]

/-! ### Removal of signers -/

/-- A key signs for the multisig, or for nobody since it was removed. -/
def SignsOrLeft (multisig : AccountId) (s : Storage) : Signatory → Prop
  | .account key => s.identity.keyRecords key = some (.multiSigSignerKey multisig) ∨
      s.identity.keyRecords key = none
  | .identity _ => True

variable {signer : Signatory}

theorem removeKeyRecord_signer (h : SignsOrLeft multisig s (.account key)) :
    removeKeyRecord key none s = putKeyRecord key none s := by
  rcases h with h | h
  · simp [removeKeyRecord, h]
  · have hnone : update s.identity.keyRecords key none = s.identity.keyRecords := by
      rw [← h, Function.update_eq_self]
    simp only [removeKeyRecord, h, putKeyRecord, Storage.mapIdentity, hnone]

theorem KeysCoherent.unsafeSignerRemoval (hs : KeysCoherent s)
    (h : SignsOrLeft multisig s signer) :
    KeysCoherent (MultiSig.unsafeSignerRemoval multisig signer s) := by
  have hprimary := hs.primary
  have hlinked := hs.linked
  have hsigner := hs.signer
  cases signer with
  | identity did =>
    refine ⟨hprimary, hlinked, fun ms k => ?_⟩
    simpa [MultiSig.unsafeSignerRemoval, MultiSig.unlinkSigner, MultiSig.putSigner,
      update_apply] using hsigner ms k
  | account key =>
    rw [MultiSig.unsafeSignerRemoval, MultiSig.unlinkSigner, removeKeyRecord_signer h]
    unfold SignsOrLeft at h
    refine ⟨fun k d => ?_, fun d k => ?_, fun ms k => ?_⟩ <;>
      simp only [putKeyRecord, MultiSig.putSigner, Storage.mapIdentity, Storage.mapMultisig,
        update_apply] <;>
      grind

theorem SignsOrLeft.unsafeSignerRemoval {signer' : Signatory} (h : SignsOrLeft multisig s signer)
    (h' : SignsOrLeft multisig s signer') :
    SignsOrLeft multisig (MultiSig.unsafeSignerRemoval multisig signer s) signer' := by
  cases signer with
  | identity did => exact h'
  | account key =>
    cases signer' with
    | identity did => trivial
    | account key' =>
      rw [MultiSig.unsafeSignerRemoval, MultiSig.unlinkSigner, removeKeyRecord_signer h]
      by_cases hkey : key' = key
      · subst hkey
        exact .inr (by simp [putKeyRecord, MultiSig.putSigner])
      · simpa [SignsOrLeft, putKeyRecord, MultiSig.putSigner, hkey] using h'

theorem KeysCoherent.foldl_unsafeSignerRemoval {signers : List Signatory} (hs : KeysCoherent s)
    (h : ∀ signer ∈ signers, SignsOrLeft multisig s signer) :
    KeysCoherent
      (signers.foldl (fun s signer => MultiSig.unsafeSignerRemoval multisig signer s) s) := by
  induction signers generalizing s with
  | nil => exact hs
  | cons signer signers ih =>
    have hsigner := h signer List.mem_cons_self
    refine ih (hs.unsafeSignerRemoval hsigner) fun signer' hmem => ?_
    exact hsigner.unsafeSignerRemoval (h signer' (List.mem_cons_of_mem _ hmem))

end Writes

/-! ## Reachable states -/

/-- **Every effect keeps the maps in agreement.** -/
theorem Occurs.keysCoherent {hashes : Hashes} {effect : Effect} {s s' : Storage}
    (h : Occurs hashes effect s s') (hs : KeysCoherent s) : KeysCoherent s' := by
  cases h with
  | aside h => exact hs.of_eq h.keyRecords h.didKeys h.didRecords h.multiSigSigners
  | linkPrimary key did hdid => exact hs.link (.inr ⟨rfl, hdid⟩)
  | linkSecondary => exact hs.link (.inl rfl)
  | unlink => exact hs.unlink
  | rotate toSecondary hold hsecondary hnew => exact hs.rotate toSecondary hold hsecondary hnew
  | addSigner hkey => exact hs.linkSigner hkey _
  | @removeSigners multisig signers s hsigners =>
    refine (hs.foldl_unsafeSignerRemoval fun signer hmem => ?_).of_eq rfl rfl rfl rfl
    cases signer with
    | identity did => trivial
    | account key => exact .inl ((hs.signer multisig key).mp (hsigners _ hmem))
  | propose | approve =>
    rw [writeApproval_eq]
    exact hs.of_eq rfl rfl rfl rfl
  | reject =>
    rw [writeRejection_eq]
    exact hs.of_eq rfl rfl rfl rfl
  | _ => exact hs.of_eq rfl rfl rfl rfl

/-- The identities and the multisigs that a key acts for. -/
def actsFor (s : Storage) (key : AccountId) : Set (IdentityId ⊕ AccountId) :=
  {x | match x with
    | .inl did => s.identity.didKeys (did, key) = true
    | .inr multisig => s.multisig.multiSigSigners (multisig, .account key) = true}

theorem KeysCoherent.actsFor_subsingleton {s : Storage} (hs : KeysCoherent s) (key : AccountId) :
    (actsFor s key).Subsingleton := by
  rintro (did | multisig) hx (did' | multisig') hy
  · have h := (hs.linked did key).mp hx
    have h' := (hs.linked did' key).mp hy
    grind
  · have h := (hs.linked did key).mp hx
    have h' := (hs.signer multisig' key).mp hy
    grind
  · have h := (hs.signer multisig key).mp hx
    have h' := (hs.linked did' key).mp hy
    grind
  · have h := (hs.signer multisig key).mp hx
    have h' := (hs.signer multisig' key).mp hy
    grind

/-- **The maps agree in every reachable state**, and a key acts for one identity or multisig at
most. -/
theorem key_records_coherent {hashes : Hashes} {identities : List GenesisIdentity} {s : Storage}
    (h : Reachable (step hashes) (genesis identities) s) (key : AccountId) :
    (∀ did, s.identity.keyRecords key = some (.primaryKey did) ↔
      s.identity.didRecords did = some (some key)) ∧
    (∀ did, s.identity.didKeys (did, key) = true ↔
      s.identity.keyRecords key = some (.primaryKey did) ∨
        s.identity.keyRecords key = some (.secondaryKey did)) ∧
    (∀ multisig, s.multisig.multiSigSigners (multisig, .account key) = true ↔
      s.identity.keyRecords key = some (.multiSigSignerKey multisig)) ∧
    (actsFor s key).Subsingleton := by
  have hempty : KeysCoherent emptyStorage := by
    refine ⟨fun k d => ?_, fun d k => ?_, fun ms k => ?_⟩ <;> simp [emptyStorage]
  have hs : KeysCoherent s :=
    Reachable.of_effects KeysCoherent hempty (fun _ _ _ he => he.keysCoherent) h
  exact ⟨hs.primary key, fun did => hs.linked did key, fun ms => hs.signer ms key,
    hs.actsFor_subsingleton key⟩

/-- A secondary key becomes the primary key, which becomes a secondary key. -/
def rotation : List Action :=
  [.calls 1 (.addAuthorization (.account ⟨2⟩) .rotatePrimaryKeyToSecondary none),
    .calls 2 (.rotatePrimaryKeyToSecondary 3 none)]

/-- The state after a rotation. -/
def rotated : Storage := run (step .numbers) (genesis [⟨⟨1⟩, ⟨1⟩, [⟨2⟩]⟩]) rotation

theorem key_records_coherent_rotated :
    rotated.identity.keyRecords ⟨2⟩ = some (.primaryKey ⟨1⟩) ∧
      rotated.identity.didRecords ⟨1⟩ = some (some ⟨2⟩) ∧
      rotated.identity.didKeys (⟨1⟩, ⟨1⟩) = true ∧ (actsFor rotated ⟨1⟩).Subsingleton := by
  have hreachable : Reachable (step .numbers) (genesis [⟨⟨1⟩, ⟨1⟩, [⟨2⟩]⟩]) rotated := ⟨rotation, rfl⟩
  have hprimary : rotated.identity.keyRecords ⟨2⟩ = some (.primaryKey ⟨1⟩) := by decide +kernel
  have hsecondary : rotated.identity.keyRecords ⟨1⟩ = some (.secondaryKey ⟨1⟩) := by decide +kernel
  refine ⟨hprimary, ((key_records_coherent hreachable ⟨2⟩).1 ⟨1⟩).mp hprimary, ?_, ?_⟩
  · exact ((key_records_coherent hreachable ⟨1⟩).2.1 ⟨1⟩).mpr (.inr hsecondary)
  · exact (key_records_coherent hreachable ⟨1⟩).2.2.2

end Accounts

end Polymesh
