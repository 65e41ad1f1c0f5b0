import Mathlib.Logic.Relation
import Polymesh.Accounts.Runtime

/-!
# The effects of calls on accounts

Whatever a call does to keys, authorizations, multisigs and subsidies is a sequence of a few
effects, each with what has been checked before it. An invariant is then checked once for every
effect, and not for every call. The effects that depend on what a call says, such as how many
signatures it asks for, are told apart by a label.
-/

namespace Polymesh

open Transactional Tx Relation

namespace Accounts

open MultiSig (closes putSigner putVote schedule unsafeSignerRemoval)
open Identity (addAuth addKeyRecord clearPrimaryKey getPrimaryKey promote removeKeyRecord retire)

/-! ## Effects -/

/-- Keys, authorizations, multisigs, their proposals and the subsidies are the same, and the nonce
of authorizations has not decreased. -/
structure Aside (s s' : Storage) : Prop where
  keyRecords : s'.identity.keyRecords = s.identity.keyRecords := by rfl
  didKeys : s'.identity.didKeys = s.identity.didKeys := by rfl
  didRecords : s'.identity.didRecords = s.identity.didRecords := by rfl
  authorizations : s'.identity.authorizations = s.identity.authorizations := by rfl
  multiPurposeNonce : s.identity.multiPurposeNonce ≤ s'.identity.multiPurposeNonce := by
    exact le_rfl
  multiSigNonce : s'.multisig.multiSigNonce = s.multisig.multiSigNonce := by rfl
  multiSigSigners : s'.multisig.multiSigSigners = s.multisig.multiSigSigners := by rfl
  numberOfSigners : s'.multisig.numberOfSigners = s.multisig.numberOfSigners := by rfl
  multiSigSignsRequired :
    s'.multisig.multiSigSignsRequired = s.multisig.multiSigSignsRequired := by rfl
  multiSigTxDone : s'.multisig.multiSigTxDone = s.multisig.multiSigTxDone := by rfl
  proposals : s'.multisig.proposals = s.multisig.proposals := by rfl
  votes : s'.multisig.votes = s.multisig.votes := by rfl
  multiSigToIdentity : s'.multisig.multiSigToIdentity = s.multisig.multiSigToIdentity := by rfl
  proposalDetail : s'.multisig.proposalDetail = s.multisig.proposalDetail := by rfl
  subsidies : s'.subsidies = s.subsidies := by rfl
  nonces : s'.nonces = s.nonces := by rfl
  relays : s'.relays = s.relays := by rfl
  lostCreatorPrivileges :
    s'.multisig.lostCreatorPrivileges = s.multisig.lostCreatorPrivileges := by rfl
  removals : s'.removals = s.removals := by rfl
  agenda : s'.agenda = s.agenda := by rfl
  history : s'.history = s.history := by rfl

theorem Aside.trans {s₁ s₂ s₃ : Storage} (h : Aside s₁ s₂) (h' : Aside s₂ s₃) : Aside s₁ s₃ := by
  obtain ⟨⟩ := h
  obtain ⟨⟩ := h'
  constructor
  case multiPurposeNonce => exact le_trans ‹_› ‹_›
  all_goals exact Eq.trans ‹_› ‹_›

/-- The names of the effects, with what the calls say that have them. -/
inductive Effect
  | aside
  | authorize
  | consume
  | linkPrimary
  | linkSecondary
  | unlink
  | rotate
  | createMultisig
  | addSigner
  | removeSigners (multisig : AccountId) (signers : List Signatory)
  | changeRequired (multisig : AccountId) (sigsRequired : ℕ)
  | propose (multisig : AccountId) (proposalId : ℕ) (proposal : Call)
  | approve (multisig : AccountId) (proposalId : ℕ)
  | reject (multisig : AccountId) (proposalId : ℕ)
  | execute (multisig : AccountId) (proposalId : ℕ)
  | debit
  | limit
  | relay
  | abdicate
  /-- The scheduler forgets a task. -/
  | forget

/-- What an approval writes. -/
def writeApproval (multisig : AccountId) (proposalId : ℕ) (signer : Signatory) (s : Storage) :
    Storage :=
  let details := s.multisig.proposalDetail (multisig, proposalId)
  let required := s.multisig.multiSigSignsRequired multisig
  (MultiSig.putProposalDetail multisig proposalId
    { details with approvals := details.approvals + 1 }
    (putVote multisig proposalId signer
      (if required ≤ details.approvals + 1 then schedule multisig proposalId s
      else s))).deposit (.approved multisig proposalId signer (details.approvals + 1) required)

/-- The details of a proposal after a rejection that does not close it. -/
def rejectedOnce (multisig : AccountId) (proposalId : ℕ) (s : Storage) : ProposalDetails :=
  let details := s.multisig.proposalDetail (multisig, proposalId)
  { details with rejections := details.rejections + 1 }

/-- What a rejection writes. -/
def writeRejection (multisig : AccountId) (proposalId : ℕ) (signer : Signatory) (s : Storage) :
    Storage :=
  let details := rejectedOnce multisig proposalId s
  MultiSig.putProposalDetail multisig proposalId
    (if closes details multisig s then { details with status := .rejected } else details)
    (putVote multisig proposalId signer
      (if closes details multisig s then s.deposit (.rejected multisig proposalId) else s))

/-- The status of a proposal that has been run. -/
def executionStatus : Bool → ProposalStatus
  | true => .executionSuccessful
  | false => .executionFailed

/-- The events of a subsidy that is accepted, removed or set anew. -/
def Event.changesLimit (userKey : AccountId) : Event → Prop
  | .acceptedPayingKey key _ | .removedPayingKey key _ | .updatedPolyxLimit key _ _ =>
    key = userKey
  | _ => False

/-- A fee is charged to a subsidy. -/
def chargeSubsidy (userKey : AccountId) (fee : ℕ) (subsidy : Subsidy) (s : Storage) : Storage :=
  (Relayer.setSubsidy userKey (some { subsidy with remaining := subsidy.remaining - fee }) s).deposit
    (.charged userKey subsidy.payingKey fee)

/-- The signer has not voted on the proposal, which is open. -/
structure MayVote (multisig : AccountId) (proposalId : ℕ) (signer : Signatory) (s : Storage) :
    Prop where
  notVoted : s.multisig.votes (multisig, proposalId) signer = false
  active : (s.multisig.proposalDetail (multisig, proposalId)).status = .activeOrExpired

/-- What an effect does, with what has been checked. -/
inductive Occurs (hashes : Hashes) : Effect → Storage → Storage → Prop
  | aside {s s' : Storage} (h : Aside s s') : Occurs hashes .aside s s'
  | authorize (from_ : IdentityId) (target : Signatory) (data : AuthorizationData)
      (expiry : Option Moment) (s : Storage) :
      Occurs hashes .authorize s (addAuth from_ target data expiry s)
  | consume (target : Signatory) (authId : ℕ) (s : Storage) :
      Occurs hashes .consume s (Identity.putAuthorization target authId none s)
  | linkPrimary (key : AccountId) (did : IdentityId) {s : Storage}
      (h : getPrimaryKey did s = none) :
      Occurs hashes .linkPrimary s (addKeyRecord key (.primaryKey did) s)
  | linkSecondary (key : AccountId) (did : IdentityId) (s : Storage) :
      Occurs hashes .linkSecondary s (addKeyRecord key (.secondaryKey did) s)
  | unlink (key : AccountId) (did : IdentityId) (s : Storage) :
      Occurs hashes .unlink s (removeKeyRecord key (some did) s)
  | rotate {did : IdentityId} {new old : AccountId} {isSecondaryKey : Bool} (toSecondary : Bool)
      {s : Storage} (hold : getPrimaryKey did s = some old)
      (hsecondary : isSecondaryKey = decide (s.identity.keyRecords new = some (.secondaryKey did)))
      (hnew : s.identity.keyRecords new = none ∨ isSecondaryKey) :
      Occurs hashes .rotate s
        (retire did old toSecondary (promote did new isSecondaryKey s))
  | createMultisig (sender : AccountId) (did : IdentityId) {sigsRequired : ℕ} {s : Storage}
      (hrequired : 0 < sigsRequired) (hnonce : s.multisig.multiSigNonce + 1 < 2 ^ 64) :
      Occurs hashes .createMultisig s
        (MultiSig.putMultisig (hashes.multisigAddress sender (s.multisig.multiSigNonce + 1)) did
          sigsRequired
          (s.mapMultisig fun m => { m with multiSigNonce := s.multisig.multiSigNonce + 1 }))
  | addSigner {multisig key : AccountId} {s : Storage}
      (hkey : s.identity.keyRecords key = none)
      (hsigner : s.multisig.multiSigSigners (multisig, .account key) = false) :
      Occurs hashes .addSigner s
        (addKeyRecord key (.multiSigSignerKey multisig)
          (MultiSig.putNumberOfSigners multisig (s.multisig.numberOfSigners multisig + 1)
            (putSigner multisig (.account key) true s)))
  | removeSigners {multisig : AccountId} {signers : List Signatory} {s : Storage}
      (hsigners : ∀ signer ∈ signers, s.multisig.multiSigSigners (multisig, signer))
      (hlength : signers.length ≤ s.multisig.numberOfSigners multisig)
      (hrequired : s.multisig.multiSigSignsRequired multisig ≤
        s.multisig.numberOfSigners multisig - signers.length) :
      Occurs hashes (.removeSigners multisig signers) s
        (MultiSig.putNumberOfSigners multisig
          (s.multisig.numberOfSigners multisig - signers.length)
          (signers.foldl (fun s signer => unsafeSignerRemoval multisig signer s) s))
  | changeRequired {multisig : AccountId} {sigsRequired : ℕ} {s : Storage}
      (h : sigsRequired ≤ s.multisig.numberOfSigners multisig) :
      Occurs hashes (.changeRequired multisig sigsRequired) s
        (MultiSig.unsafeChangeSigsRequired multisig sigsRequired s)
  | propose {multisig : AccountId} {signer : Signatory} (proposal : Call)
      (expiry : Option Moment) (autoClose : Bool) {s : Storage}
      (h : s.multisig.votes (multisig, s.multisig.multiSigTxDone multisig) signer = false) :
      Occurs hashes (.propose multisig (s.multisig.multiSigTxDone multisig) proposal) s
        (writeApproval multisig (s.multisig.multiSigTxDone multisig) signer
          (MultiSig.putProposal multisig (s.multisig.multiSigTxDone multisig) proposal expiry
            autoClose s))
  | approve {multisig : AccountId} {proposalId : ℕ} {signer : Signatory} {s : Storage}
      (h : MayVote multisig proposalId signer s) :
      Occurs hashes (.approve multisig proposalId) s (writeApproval multisig proposalId signer s)
  | reject {multisig : AccountId} {proposalId : ℕ} {signer : Signatory} {s : Storage}
      (h : MayVote multisig proposalId signer s) :
      Occurs hashes (.reject multisig proposalId) s (writeRejection multisig proposalId signer s)
  | execute (multisig : AccountId) (proposalId : ℕ) (success : Bool) (s : Storage) :
      Occurs hashes (.execute multisig proposalId) s
        ((MultiSig.setStatus multisig proposalId (executionStatus success) s).deposit
          (.executed multisig proposalId success))
  | debit {userKey : AccountId} {fee : ℕ} {subsidy : Subsidy} {s : Storage}
      (hsubsidy : s.subsidies userKey = some subsidy) (hfee : fee ≤ subsidy.remaining) :
      Occurs hashes .debit s (chargeSubsidy userKey fee subsidy s)
  | limit (userKey : AccountId) (subsidy : Option Subsidy) (events : List Event) (s : Storage)
      (hne : events ≠ []) (hevents : ∀ event ∈ events, event.changesLimit userKey) :
      Occurs hashes .limit s
        { Relayer.setSubsidy userKey subsidy s with history := s.history ++ events }
  | relay {target : AccountId} {signature : Signature} {nonce : ℕ} {call : Call} {s : Storage}
      (hnonce : s.nonces target = nonce) (hverify : hashes.verify signature nonce call target) :
      Occurs hashes .relay s (noteRelayed target signature nonce call s)
  | abdicate (multisig : AccountId) (did : IdentityId) (s : Storage) :
      Occurs hashes .abdicate s (MultiSig.baseRemoveCreatorControls multisig did s)
  | forget (task : Task) (s : Storage) : Occurs hashes .forget s (forget task s)

/-- A sequence of effects that meet `P`. -/
def Effects (hashes : Hashes) (P : Effect → Prop) : Storage → Storage → Prop :=
  ReflTransGen fun s s' => ∃ effect, P effect ∧ Occurs hashes effect s s'

section Effects

variable {hashes : Hashes} {P Q : Effect → Prop} {effect : Effect} {s s' s'' : Storage}

instance : Std.Refl (Effects hashes P) := ⟨fun _ => ReflTransGen.refl⟩

instance : IsTrans Storage (Effects hashes P) := ⟨fun _ _ _ h₁ h₂ => ReflTransGen.trans h₁ h₂⟩

theorem Effects.single (hP : P effect) (h : Occurs hashes effect s s') : Effects hashes P s s' :=
  ReflTransGen.single ⟨effect, hP, h⟩

theorem Effects.trans (h₁ : Effects hashes P s s') (h₂ : Effects hashes P s' s'') :
    Effects hashes P s s'' :=
  ReflTransGen.trans h₁ h₂

theorem Effects.mono (hPQ : ∀ effect, P effect → Q effect) (h : Effects hashes P s s') :
    Effects hashes Q s s' :=
  ReflTransGen.mono (fun _ _ ⟨effect, hP, he⟩ => ⟨effect, hPQ effect hP, he⟩) _ _ h

/-- **Effects keep an invariant** that each of them keeps. -/
theorem Effects.invariant (I : Storage → Prop)
    (keep : ∀ effect s s', P effect → Occurs hashes effect s s' → I s → I s')
    (h : Effects hashes P s s') (hs : I s) : I s' := by
  induction h with
  | refl => exact hs
  | tail _ h ih =>
    obtain ⟨effect, hP, he⟩ := h
    exact keep effect _ _ hP he ih

theorem Effects.rel (R : Storage → Storage → Prop) [Std.Refl R] [IsTrans Storage R]
    (keep : ∀ effect s s', P effect → Occurs hashes effect s s' → R s s')
    (h : Effects hashes P s s') : R s s' := by
  induction h with
  | refl => exact refl s
  | tail _ h ih =>
    obtain ⟨effect, hP, he⟩ := h
    exact IsTrans.trans _ _ _ ih (keep effect _ _ hP he)

end Effects

/-! ## Writes of keys -/

/-- Only the links between keys and identities differ. -/
def OnlyKeys (s s' : Storage) : Prop :=
  ∃ i : IdentityStorage, s' = s.mapIdentity (fun _ => i) ∧
    i.authorizations = s.identity.authorizations ∧
    i.multiPurposeNonce = s.identity.multiPurposeNonce

section Keys

variable (key : AccountId) (did : IdentityId)

theorem OnlyKeys.rfl (s : Storage) : OnlyKeys s s := ⟨s.identity, by rfl, by rfl, by rfl⟩

theorem OnlyKeys.trans {s₁ s₂ s₃ : Storage} (h : OnlyKeys s₁ s₂) (h' : OnlyKeys s₂ s₃) :
    OnlyKeys s₁ s₃ := by
  obtain ⟨i, rfl, hauths, hnonce⟩ := h
  obtain ⟨i', rfl, hauths', hnonce'⟩ := h'
  exact ⟨i', by rfl, hauths'.trans hauths, hnonce'.trans hnonce⟩

theorem addKeyRecord_onlyKeys (record : KeyRecord) (s : Storage) :
    OnlyKeys s (addKeyRecord key record s) := by
  unfold addKeyRecord
  split
  · cases record <;> exact ⟨_, by rfl, by rfl, by rfl⟩
  · exact OnlyKeys.rfl s

theorem clearPrimaryKey_onlyKeys (s : Storage) :
    OnlyKeys s (clearPrimaryKey did key s) := by
  unfold clearPrimaryKey
  split
  · exact ⟨_, by rfl, by rfl, by rfl⟩
  · exact OnlyKeys.rfl s

theorem removeKeyRecord_onlyKeys (o : Option IdentityId) (s : Storage) :
    OnlyKeys s (removeKeyRecord key o s) := by
  unfold removeKeyRecord
  split
  · split
    · exact (clearPrimaryKey_onlyKeys key _ s).trans ⟨_, by rfl, by rfl, by rfl⟩
    · exact OnlyKeys.rfl s
  · split
    · exact ⟨_, by rfl, by rfl, by rfl⟩
    · exact OnlyKeys.rfl s
  · split
    · exact ⟨_, by rfl, by rfl, by rfl⟩
    · exact OnlyKeys.rfl s
  · exact OnlyKeys.rfl s

theorem promote_onlyKeys (isSecondaryKey : Bool) (s : Storage) :
    OnlyKeys s (promote did key isSecondaryKey s) := by
  unfold promote
  split
  · exact ⟨_, by rfl, by rfl, by rfl⟩
  · exact addKeyRecord_onlyKeys key _ s

theorem retire_onlyKeys (toSecondary : Bool) (s : Storage) :
    OnlyKeys s (retire did key toSecondary s) := by
  unfold retire
  split
  · exact ⟨_, by rfl, by rfl, by rfl⟩
  · exact removeKeyRecord_onlyKeys key _ s

end Keys

/-- Signers are removed from the map. -/
def dropSigners (multisig : AccountId) (signers : List Signatory) (m : MultiSigStorage) :
    MultiSigStorage :=
  { m with multiSigSigners := fun p =>
      if p.1 = multisig ∧ p.2 ∈ signers then false else m.multiSigSigners p }

theorem dropSigners_cons (multisig : AccountId) (signer : Signatory) (signers : List Signatory)
    (m : MultiSigStorage) :
    dropSigners multisig signers (dropSigners multisig [signer] m) =
      dropSigners multisig (signer :: signers) m := by
  simp only [dropSigners, MultiSigStorage.mk.injEq, and_true, true_and]
  funext p
  by_cases hms : p.1 = multisig
  · by_cases hmem : p.2 ∈ signers <;> simp [hms, hmem]
  · simp [hms]

theorem unsafeSignerRemoval_onlyKeys (multisig : AccountId) (signer : Signatory) (s : Storage) :
    OnlyKeys (s.mapMultisig (dropSigners multisig [signer]))
      (unsafeSignerRemoval multisig signer s) := by
  have hunlink : OnlyKeys s (MultiSig.unlinkSigner signer s) := by
    cases signer with
    | identity did => exact OnlyKeys.rfl s
    | account key => exact removeKeyRecord_onlyKeys key none s
  obtain ⟨i, hi, hauths, hnonce⟩ := hunlink
  refine ⟨i, ?_, hauths, hnonce⟩
  have hdrop : Function.update s.multisig.multiSigSigners (multisig, signer) false =
      (dropSigners multisig [signer] s.multisig).multiSigSigners := by
    funext p
    simp [dropSigners, Function.update_apply, Prod.ext_iff]
  rw [unsafeSignerRemoval, hi]
  simp only [putSigner, Storage.mapMultisig, Storage.mapIdentity, hdrop]
  rfl

theorem foldl_unsafeSignerRemoval_onlyKeys (multisig : AccountId) (signers : List Signatory)
    (s : Storage) :
    OnlyKeys (s.mapMultisig (dropSigners multisig signers))
      (signers.foldl (fun s signer => unsafeSignerRemoval multisig signer s) s) := by
  induction signers generalizing s with
  | nil =>
    have hs : s.mapMultisig (dropSigners multisig []) = s := by
      simp [Storage.mapMultisig, dropSigners]
    rw [hs]
    exact OnlyKeys.rfl s
  | cons signer signers ih =>
    refine OnlyKeys.trans ?_ (ih (unsafeSignerRemoval multisig signer s))
    obtain ⟨i, hi, hauths, hnonce⟩ := unsafeSignerRemoval_onlyKeys multisig signer s
    refine ⟨i, ?_, hauths, hnonce⟩
    rw [hi]
    simp only [Storage.mapMultisig, Storage.mapIdentity, dropSigners_cons]

/-- The effects that link and unlink keys. -/
def Effect.IsLink : Effect → Prop
  | .linkPrimary | .linkSecondary | .unlink | .rotate => True
  | _ => False

theorem Occurs.onlyKeys {hashes : Hashes} {effect : Effect} {s s' : Storage}
    (h : Occurs hashes effect s s') (hlink : effect.IsLink) : OnlyKeys s s' := by
  cases h with
  | linkPrimary key => exact addKeyRecord_onlyKeys key _ _
  | linkSecondary key => exact addKeyRecord_onlyKeys key _ s
  | unlink key did => exact removeKeyRecord_onlyKeys key _ s
  | rotate toSecondary =>
    exact (promote_onlyKeys _ _ _ s).trans (retire_onlyKeys _ _ toSecondary _)
  | _ => exact hlink.elim

/-! ## Writes of votes -/

section Votes

variable (multisig : AccountId) (proposalId : ℕ) (signer : Signatory) (s : Storage)

/-- The agenda after a proposal is scheduled, with no name given twice. -/
def scheduled : List Task :=
  if s.agenda.any fun task => task.multisig = multisig ∧ task.proposalId = proposalId then s.agenda
  else s.agenda ++ [⟨multisig, proposalId, MultiSig.msToIdentity multisig s, s.blockNumber + 1⟩]

theorem schedule_eq :
    schedule multisig proposalId s =
      { s with agenda := scheduled multisig proposalId s } := by
  unfold schedule scheduled
  split <;> rfl

/-- The signer is marked as having voted. -/
def markVote (m : MultiSigStorage) : AccountId × ℕ → Signatory → Bool :=
  Function.update m.votes (multisig, proposalId)
    (Function.update (m.votes (multisig, proposalId)) signer true)

theorem writeApproval_eq :
    writeApproval multisig proposalId signer s =
      let details := s.multisig.proposalDetail (multisig, proposalId)
      let required := s.multisig.multiSigSignsRequired multisig
      { s with
        multisig :=
          { s.multisig with
            votes := markVote multisig proposalId signer s.multisig
            proposalDetail := Function.update s.multisig.proposalDetail (multisig, proposalId)
              { details with approvals := details.approvals + 1 } }
        agenda := if required ≤ details.approvals + 1 then scheduled multisig proposalId s
          else s.agenda
        history := s.history ++
          [.approved multisig proposalId signer (details.approvals + 1) required] } := by
  unfold writeApproval
  rw [schedule_eq]
  dsimp only
  split <;> rfl

theorem writeRejection_eq :
    writeRejection multisig proposalId signer s =
      let details := rejectedOnce multisig proposalId s
      { s with
        multisig :=
          { s.multisig with
            votes := markVote multisig proposalId signer s.multisig
            proposalDetail := Function.update s.multisig.proposalDetail (multisig, proposalId)
              (if closes details multisig s then { details with status := .rejected }
              else details) }
        history := s.history ++
          if closes details multisig s then [.rejected multisig proposalId] else [] } := by
  unfold writeRejection
  dsimp only
  split
  · rfl
  · rw [List.append_nil]
    rfl

end Votes

/-! ## What is noted -/

section Noted

variable {hashes : Hashes} {effect : Effect} {s s' : Storage}

/-- Relayed calls and the controls of creators: what only effects of their own change. -/
def Storage.noted (s : Storage) :=
  ((s.relays, s.nonces), s.multisig.lostCreatorPrivileges, s.removals)

theorem Occurs.noted_eq (h : Occurs hashes effect s s') (hrelay : effect ≠ .relay)
    (habdicate : effect ≠ .abdicate) : s'.noted = s.noted := by
  by_cases hlink : effect.IsLink
  · obtain ⟨i, rfl, -⟩ := h.onlyKeys hlink
    rfl
  · cases h with
    | aside h => simp only [Storage.noted, h.relays, h.nonces, h.lostCreatorPrivileges, h.removals]
    | addSigner =>
      obtain ⟨i, hi, -⟩ := addKeyRecord_onlyKeys _ _ _
      rw [hi]
      rfl
    | removeSigners =>
      obtain ⟨i, hi, -⟩ := foldl_unsafeSignerRemoval_onlyKeys _ _ _
      rw [hi]
      rfl
    | propose | approve =>
      rw [writeApproval_eq]
      rfl
    | reject =>
      rw [writeRejection_eq]
      rfl
    | relay => exact absurd rfl hrelay
    | abdicate => exact absurd rfl habdicate
    | linkPrimary | linkSecondary | unlink | rotate => exact absurd trivial hlink
    | _ => rfl

theorem Occurs.relays_eq (h : Occurs hashes effect s s') (hrelay : effect ≠ .relay) :
    s'.relays = s.relays ∧ s'.nonces = s.nonces := by
  by_cases habdicate : effect = .abdicate
  · subst habdicate
    cases h
    exact ⟨rfl, rfl⟩
  · simpa [Storage.noted] using congrArg Prod.fst (h.noted_eq hrelay habdicate)

theorem Occurs.removals_eq (h : Occurs hashes effect s s') (habdicate : effect ≠ .abdicate) :
    s'.multisig.lostCreatorPrivileges = s.multisig.lostCreatorPrivileges ∧
      s'.removals = s.removals := by
  by_cases hrelay : effect = .relay
  · subst hrelay
    cases h
    exact ⟨rfl, rfl⟩
  · simpa [Storage.noted] using congrArg Prod.snd (h.noted_eq hrelay habdicate)

end Noted

/-! ## The effects of a call -/

/-- The effects that do not depend on what a call says. -/
def Effect.Free : Effect → Prop
  | .removeSigners _ _ | .changeRequired _ _ | .propose _ _ _ | .approve _ _ | .reject _ _
  | .execute _ _ | .forget => False
  | _ => True

/-- The call that is proposed to a multisig. -/
def Call.proposed : Call → Option (AccountId × Call)
  | .createOrApproveProposalAsIdentity multisig proposal _ _
  | .createOrApproveProposalAsKey multisig proposal _ _
  | .createProposalAsIdentity multisig proposal _ _
  | .createProposalAsKey multisig proposal _ _ => some (multisig, proposal)
  | _ => none

/-- The effects that a call may have, other than the execution of proposals. -/
inductive Effect.Of : Effect → Call → Prop
  | free {effect : Effect} (h : effect.Free) (call : Call) : effect.Of call
  | removeSigner (multisig : AccountId) (signer : Signatory) :
      Of (.removeSigners multisig [signer]) (.removeMultisigSigner signer)
  | removeSigners (multisig : AccountId) (signers : List Signatory) :
      Of (.removeSigners multisig signers) (.removeMultisigSignersViaCreator multisig signers)
  | changeRequired (multisig : AccountId) (sigsRequired : ℕ) :
      Of (.changeRequired multisig sigsRequired) (.changeSigsRequired sigsRequired)
  | changeRequiredViaCreator (multisig : AccountId) (sigsRequired : ℕ) :
      Of (.changeRequired multisig sigsRequired)
        (.changeSigsRequiredViaCreator multisig sigsRequired)
  | propose {multisig : AccountId} (proposalId : ℕ) {proposal call : Call}
      (h : call.proposed = some (multisig, proposal)) :
      Of (.propose multisig proposalId proposal) call
  | createOrApproveAsIdentity (multisig : AccountId) (proposalId : ℕ) (proposal : Call)
      (expiry : Option Moment) (autoClose : Bool) :
      Of (.approve multisig proposalId)
        (.createOrApproveProposalAsIdentity multisig proposal expiry autoClose)
  | createOrApproveAsKey (multisig : AccountId) (proposalId : ℕ) (proposal : Call)
      (expiry : Option Moment) (autoClose : Bool) :
      Of (.approve multisig proposalId)
        (.createOrApproveProposalAsKey multisig proposal expiry autoClose)
  | approveAsIdentity (multisig : AccountId) (proposalId : ℕ) :
      Of (.approve multisig proposalId) (.approveAsIdentity multisig proposalId)
  | approveAsKey (multisig : AccountId) (proposalId : ℕ) :
      Of (.approve multisig proposalId) (.approveAsKey multisig proposalId)
  | rejectAsIdentity (multisig : AccountId) (proposalId : ℕ) :
      Of (.reject multisig proposalId) (.rejectAsIdentity multisig proposalId)
  | rejectAsKey (multisig : AccountId) (proposalId : ℕ) :
      Of (.reject multisig proposalId) (.rejectAsKey multisig proposalId)

end Accounts

end Polymesh
