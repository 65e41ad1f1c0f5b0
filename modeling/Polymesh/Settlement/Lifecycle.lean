import Polymesh.Library.Bookkeeping
import Polymesh.Library.AssocLists
import Polymesh.Pallets.Settlement.Execution

/-!
# The life of an instruction

One instruction by itself, away from the storage that it is spread over: its record, what can be
done to the record, and what holds of it throughout. The pallet counts the affirmations that are
still missing in one number and stores the affirmations in three maps; the steps below say how
each of them changes both.
-/

namespace Polymesh

open Collections AssocLists Settlement

/-- What is checked about a leg when its instruction is added. -/
def Leg.WellFormed : Leg → Prop
  | .fungible sender receiver _ amount => sender.did ≠ receiver.did ∧ 0 < amount
  | .nonFungible sender receiver nfts =>
    sender.did ≠ receiver.did ∧ 0 < nfts.ids.length ∧ nfts.ids.Nodup
  | .offChain sender receiver _ amount => sender ≠ receiver ∧ 0 < amount

namespace InstructionRecord

/-! ## Missing affirmations -/

section Pending

variable (r : InstructionRecord)

/-- The portfolios that have still to affirm. -/
def pendingPortfolios : ℕ :=
  (Finset.univ.filter fun p => r.userAffirmations p = .pending).card

/-- The off-chain legs that have still to be affirmed by a receipt. -/
def pendingOffChain : ℕ := r.legs.keys.countP fun l => r.offChainAffirmations l = .pending

/-- The mediators that have still to affirm. -/
def pendingMediators : ℕ := r.mediators.entries.countP fun e => e.2 = .pending

/-- The affirmations that are missing. -/
def pending : ℕ := r.pendingPortfolios + r.pendingOffChain + r.pendingMediators

end Pending

/-- A record of which only the status is stored. -/
def blank (status : InstructionStatus) : InstructionRecord where
  status := status
  details := default
  legs := ∅
  legStatus := fun _ => .pendingTokenLock
  affirmsPending := 0
  userAffirmations := fun _ => .unknown
  offChainAffirmations := fun _ => .unknown
  mediators := ∅

/-- Only the status is stored. -/
def Blank (r : InstructionRecord) : Prop := r = blank r.status

/-- **The invariant of a record.** -/
structure Valid (r : InstructionRecord) : Prop where
  counter : r.affirmsPending = r.pending
  /-- The status of an on-chain leg follows from the affirmation of its sender. -/
  sender : ∀ l leg p, r.legs.lookup l = some leg → leg.sender? = some p →
    (r.userAffirmations p = .pending ∧ r.legStatus l = .pendingTokenLock) ∨
      (r.userAffirmations p = .affirmed ∧ r.legStatus l = .executionPending)
  /-- An off-chain leg is skipped once there is a receipt. -/
  offChain : ∀ l leg, r.legs.lookup l = some leg → leg.isOffChain →
    (r.offChainAffirmations l = .pending ∧ r.legStatus l = .pendingTokenLock) ∨
      (r.offChainAffirmations l = .affirmed ∧
        ∃ signer uid, r.legStatus l = .executionToBeSkipped signer uid)
  offChain_leg : ∀ l, r.offChainAffirmations l ≠ .unknown →
    ∃ leg, r.legs.lookup l = some leg ∧ leg.isOffChain
  status_leg : ∀ l, r.legStatus l ≠ .pendingTokenLock → (r.legs.lookup l).isSome
  party : ∀ p, r.userAffirmations p ≠ .unknown →
    ∃ l leg, r.legs.lookup l = some leg ∧ p ∈ legPortfolios leg
  wellFormed : ∀ l leg, r.legs.lookup l = some leg → leg.WellFormed
  mediator : ∀ did, r.mediators.lookup did ≠ some .unknown

theorem valid_blank (status : InstructionStatus) : (blank status).Valid where
  counter := by simp [blank, pending, pendingPortfolios, pendingOffChain, pendingMediators]
  sender := by simp [blank]
  offChain := by simp [blank]
  offChain_leg := by simp [blank]
  status_leg := by simp [blank]
  party := by simp [blank]
  wellFormed := by simp [blank]
  mediator := by simp [blank]

theorem pendingPortfolios_eq_ncard (r : InstructionRecord) :
    r.pendingPortfolios = {p | r.userAffirmations p = .pending}.ncard := by
  rw [pendingPortfolios, ← Set.ncard_coe_finset, Finset.coe_filter]
  simp only [Finset.mem_univ, true_and]

theorem Valid.mem_keys {r : InstructionRecord} (h : r.Valid) {l : LegId}
    (hl : r.offChainAffirmations l = .pending) : l ∈ r.legs.keys := by
  obtain ⟨leg, hlookup, -⟩ := h.offChain_leg l (by simp [hl])
  exact AList.mem_keys.mp (AList.lookup_isSome.mp (by rw [hlookup]; rfl))

theorem Valid.pendingOffChain_eq_ncard {r : InstructionRecord} (h : r.Valid) :
    r.pendingOffChain = {l | r.offChainAffirmations l = .pending}.ncard := by
  rw [pendingOffChain, countP_eq_ncard r.legs.keys_nodup]
  congr 1
  ext l
  simp only [Set.mem_ofPred_eq, decide_eq_true_eq]
  exact ⟨fun hl => hl.2, fun hl => ⟨h.mem_keys hl, hl⟩⟩

theorem pendingMediators_eq_ncard (r : InstructionRecord) :
    r.pendingMediators = {did | r.mediators.lookup did = some .pending}.ncard := by
  rw [pendingMediators, countP_entries_eq_ncard r.mediators fun a => decide (a = .pending)]
  congr 1
  ext did
  simp

/-- No affirmation is missing. -/
structure Complete (r : InstructionRecord) : Prop where
  portfolios : ∀ p, r.userAffirmations p ≠ .pending
  offChain : ∀ l, r.offChainAffirmations l ≠ .pending
  mediators : ∀ did, r.mediators.lookup did ≠ some .pending

/-- **The counter is zero just when no affirmation is missing.** -/
theorem Valid.complete_iff {r : InstructionRecord} (h : r.Valid) :
    r.affirmsPending = 0 ↔ r.Complete := by
  have hlegs : {l | r.offChainAffirmations l = .pending}.Finite :=
    (List.finite_toSet r.legs.keys).subset fun _ hl => h.mem_keys hl
  rw [h.counter, pending, Nat.add_eq_zero_iff, Nat.add_eq_zero_iff, pendingPortfolios_eq_ncard,
    h.pendingOffChain_eq_ncard, pendingMediators_eq_ncard, Set.ncard_eq_zero (Set.toFinite _),
    Set.ncard_eq_zero hlegs, Set.ncard_eq_zero (Set.toFinite _),
    Set.eq_empty_iff_forall_notMem, Set.eq_empty_iff_forall_notMem, Set.eq_empty_iff_forall_notMem]
  exact ⟨fun ⟨⟨hp, hl⟩, hm⟩ => ⟨hp, hl, hm⟩, fun ⟨hp, hl, hm⟩ => ⟨⟨hp, hl⟩, hm⟩⟩

/-- **With nothing missing, every on-chain leg waits for execution.** -/
theorem Valid.all_locked {r : InstructionRecord} (h : r.Valid) (hcount : r.affirmsPending = 0)
    {l : LegId} {leg : Leg} (hl : r.legs.lookup l = some leg) :
    r.legStatus l = .executionPending ∨ leg.isOffChain := by
  have haffirmed := (h.complete_iff.mp hcount).portfolios
  have hsender : ∀ p, leg.sender? = some p → r.legStatus l = .executionPending := fun p hp =>
    (h.sender l leg p hl hp).elim (fun hpending => absurd hpending.1 (haffirmed p)) And.right
  cases leg with
  | fungible sender | nonFungible sender => exact .inl (hsender sender rfl)
  | offChain => exact .inr rfl

/-! ## Steps -/

section Steps

variable (r : InstructionRecord)

/-- Whether the leg of the given id takes from one of the portfolios. -/
def sends (portfolios : List PortfolioId) (l : LegId) : Bool :=
  (r.legs.lookup l).any (FilteredLegs.isSender portfolios)

/-- Some portfolios affirm, and what they send is locked. -/
def affirm (portfolios : List PortfolioId) : InstructionRecord :=
  { r with
    legStatus := fun l => if r.sends portfolios l then .executionPending else r.legStatus l
    userAffirmations := fun p => if p ∈ portfolios then .affirmed else r.userAffirmations p
    affirmsPending := r.affirmsPending - portfolios.length }

/-- Some portfolios withdraw, and what they send is unlocked. -/
def withdraw (portfolios : List PortfolioId) : InstructionRecord :=
  { r with
    legStatus := fun l => if r.sends portfolios l then .pendingTokenLock else r.legStatus l
    userAffirmations := fun p => if p ∈ portfolios then .pending else r.userAffirmations p
    affirmsPending := r.affirmsPending + portfolios.length }

/-- An off-chain leg is affirmed by a receipt. -/
def claim (l : LegId) (signer : AccountId) (uid : ℕ) : InstructionRecord :=
  { r with
    legStatus := Function.update r.legStatus l (.executionToBeSkipped signer uid)
    offChainAffirmations := Function.update r.offChainAffirmations l .affirmed
    affirmsPending := r.affirmsPending - 1 }

/-- Several off-chain legs are affirmed by receipts. -/
def claimAll (receipts : List ReceiptDetails) : InstructionRecord :=
  { r with
    legStatus := receipts.foldl
      (fun m x => Function.update m x.legId (.executionToBeSkipped x.signer x.uid)) r.legStatus
    offChainAffirmations :=
      receipts.foldl (fun m x => Function.update m x.legId .affirmed) r.offChainAffirmations
    affirmsPending := r.affirmsPending - receipts.length }

/-- A mediator affirms, for the first time or again. -/
def mediate (did : IdentityId) (expiry : Option Moment) : InstructionRecord :=
  { r with
    mediators := r.mediators.insert did (.affirmed expiry)
    affirmsPending :=
      r.affirmsPending - if r.mediators.lookup did = some .pending then 1 else 0 }

/-- A mediator withdraws. -/
def unmediate (did : IdentityId) : InstructionRecord :=
  { r with
    mediators := r.mediators.insert did .pending
    affirmsPending := r.affirmsPending + 1 }

/-- An execution has failed. -/
def fail : InstructionRecord := { r with status := .failed }

end Steps

end InstructionRecord

/-- **One step in the life of an instruction**, with what has been checked before it. -/
inductive LifeStep : InstructionRecord → InstructionRecord → Prop
  | affirm {r} (portfolios : List PortfolioId) : portfolios.Nodup →
      (∀ p ∈ portfolios, r.userAffirmations p = .pending) → LifeStep r (r.affirm portfolios)
  | withdraw {r} (portfolios : List PortfolioId) : portfolios.Nodup →
      (∀ p ∈ portfolios, r.userAffirmations p = .affirmed) → LifeStep r (r.withdraw portfolios)
  | claim {r} (l : LegId) (leg : Leg) (signer : AccountId) (uid : ℕ) :
      r.legs.lookup l = some leg → leg.isOffChain → r.offChainAffirmations l = .pending →
      LifeStep r (r.claim l signer uid)
  | mediate {r} (did : IdentityId) (expiry : Option Moment) :
      did ∈ r.mediators → LifeStep r (r.mediate did expiry)
  | unmediate {r} (did : IdentityId) (expiry : Option Moment) :
      r.mediators.lookup did = some (.affirmed expiry) → LifeStep r (r.unmediate did)
  | prune {r} (status : InstructionStatus) : r.status = .pending ∨ r.status = .failed →
      LifeStep r (.blank status)

/-! ## Steps keep records valid -/

namespace InstructionRecord

variable {r : InstructionRecord} {portfolios : List PortfolioId}

theorem sends_of_sender {l : LegId} {leg : Leg} {p : PortfolioId}
    (hl : r.legs.lookup l = some leg) (hp : leg.sender? = some p) :
    r.sends portfolios l = decide (p ∈ portfolios) := by
  simp [sends, hl, FilteredLegs.isSender, hp]

theorem sends_of_offChain {l : LegId} {leg : Leg} (hl : r.legs.lookup l = some leg)
    (hoff : leg.isOffChain) : r.sends portfolios l = false := by
  cases leg with
  | offChain => simp [sends, hl, FilteredLegs.isSender, Leg.sender?]
  | fungible | nonFungible => cases hoff

theorem isSome_of_sends {l : LegId} (h : r.sends portfolios l) : (r.legs.lookup l).isSome := by
  cases hl : r.legs.lookup l with
  | none => simp [sends, hl] at h
  | some leg => rfl

theorem pendingPortfolios_withdraw (hnodup : portfolios.Nodup)
    (haffirmed : ∀ p ∈ portfolios, r.userAffirmations p = .affirmed) :
    (r.withdraw portfolios).pendingPortfolios = r.pendingPortfolios + portfolios.length := by
  have hdisj : Disjoint (Finset.univ.filter fun p => r.userAffirmations p = .pending)
      portfolios.toFinset := by
    simp only [Finset.disjoint_left, Finset.mem_filter, List.mem_toFinset]
    rintro p ⟨-, hp⟩ hmem
    simp [haffirmed p hmem] at hp
  have hunion : (Finset.univ.filter fun p =>
      (r.withdraw portfolios).userAffirmations p = .pending) =
      (Finset.univ.filter fun p => r.userAffirmations p = .pending) ∪ portfolios.toFinset := by
    ext p
    rw [Finset.mem_union, Finset.mem_filter, Finset.mem_filter, List.mem_toFinset]
    by_cases hp : p ∈ portfolios <;> simp [withdraw, hp]
  rw [pendingPortfolios, hunion, Finset.card_union_of_disjoint hdisj,
    List.toFinset_card_of_nodup hnodup, pendingPortfolios]

theorem pendingPortfolios_affirm (hnodup : portfolios.Nodup)
    (hpending : ∀ p ∈ portfolios, r.userAffirmations p = .pending) :
    (r.affirm portfolios).pendingPortfolios + portfolios.length = r.pendingPortfolios := by
  have hback : ((r.affirm portfolios).withdraw portfolios).userAffirmations =
      r.userAffirmations := by
    funext p
    by_cases hp : p ∈ portfolios <;> simp [affirm, withdraw, hp, hpending p]
  rw [← pendingPortfolios_withdraw hnodup fun p hp => if_pos hp, pendingPortfolios, hback,
    pendingPortfolios]

/-- Some portfolios answer, and the legs that they send follow. -/
def answer (r : InstructionRecord) (portfolios : List PortfolioId) (legStatus : LegStatus)
    (status : AffirmationStatus) (affirmsPending : ℕ) : InstructionRecord :=
  { r with
    legStatus := fun l => if r.sends portfolios l then legStatus else r.legStatus l
    userAffirmations := fun p => if p ∈ portfolios then status else r.userAffirmations p
    affirmsPending := affirmsPending }

theorem Valid.answer (h : r.Valid) {legStatus : LegStatus} {status : AffirmationStatus} {n : ℕ}
    (hstatus : status = .pending ∧ legStatus = .pendingTokenLock ∨
      status = .affirmed ∧ legStatus = .executionPending)
    (hparty : ∀ p ∈ portfolios, r.userAffirmations p ≠ .unknown)
    (hcount : n = (r.answer portfolios legStatus status n).pending) :
    (r.answer portfolios legStatus status n).Valid where
  counter := hcount
  sender l leg p hl hp := by
    have hl : r.legs.lookup l = some leg := hl
    have hold := h.sender l leg p hl hp
    simp only [InstructionRecord.answer, sends_of_sender hl hp]
    by_cases hmem : p ∈ portfolios
    · simpa [hmem] using hstatus
    · simpa [hmem] using hold
  offChain l leg hl hoff := by
    have hl : r.legs.lookup l = some leg := hl
    simpa [InstructionRecord.answer, sends_of_offChain hl hoff] using h.offChain l leg hl hoff
  offChain_leg := h.offChain_leg
  status_leg l hne := by
    by_cases hs : r.sends portfolios l
    · exact isSome_of_sends hs
    · exact h.status_leg l (by simpa [InstructionRecord.answer, hs] using hne)
  party p hne := by
    by_cases hmem : p ∈ portfolios
    · exact h.party p (hparty p hmem)
    · exact h.party p (by simpa [InstructionRecord.answer, hmem] using hne)
  wellFormed := h.wellFormed
  mediator := h.mediator

theorem Valid.affirm (h : r.Valid) (hnodup : portfolios.Nodup)
    (hpending : ∀ p ∈ portfolios, r.userAffirmations p = .pending) :
    (r.affirm portfolios).Valid := by
  refine h.answer (.inr ⟨rfl, rfl⟩) (fun p hp => by simp [hpending p hp]) ?_
  have hcount := pendingPortfolios_affirm hnodup hpending
  have hcounter := h.counter
  change _ = (r.affirm portfolios).pendingPortfolios + r.pendingOffChain + r.pendingMediators
  unfold pending at hcounter
  omega

theorem Valid.withdraw (h : r.Valid) (hnodup : portfolios.Nodup)
    (haffirmed : ∀ p ∈ portfolios, r.userAffirmations p = .affirmed) :
    (r.withdraw portfolios).Valid := by
  refine h.answer (.inl ⟨rfl, rfl⟩) (fun p hp => by simp [haffirmed p hp]) ?_
  have hcount := pendingPortfolios_withdraw hnodup haffirmed
  have hcounter := h.counter
  change _ = (r.withdraw portfolios).pendingPortfolios + r.pendingOffChain + r.pendingMediators
  unfold pending at hcounter
  omega

theorem pendingOffChain_claim {l : LegId} {leg : Leg} (hl : r.legs.lookup l = some leg)
    (hpending : r.offChainAffirmations l = .pending) (signer : AccountId) (uid : ℕ) :
    (r.claim l signer uid).pendingOffChain + 1 = r.pendingOffChain := by
  have hkey : l ∈ r.legs.keys := by
    rw [← AList.mem_keys, ← AList.lookup_isSome, hl]
    rfl
  have h := countP_update r.legs.keys_nodup hkey r.offChainAffirmations .affirmed
    (fun a => decide (a = .pending))
  simp only [hpending, decide_true, if_true, reduceCtorEq, decide_false] at h
  exact h

theorem Valid.claim (h : r.Valid) {l : LegId} {leg : Leg} (hl : r.legs.lookup l = some leg)
    (hoff : leg.isOffChain) (hpending : r.offChainAffirmations l = .pending) (signer : AccountId)
    (uid : ℕ) : (r.claim l signer uid).Valid where
  counter := by
    have hcount := pendingOffChain_claim hl hpending signer uid
    have hcounter := h.counter
    change r.affirmsPending - 1 =
      r.pendingPortfolios + (r.claim l signer uid).pendingOffChain + r.pendingMediators
    unfold pending at hcounter
    omega
  sender l' leg' p hl' hp := by
    have hne : l' ≠ l := by
      rintro rfl
      change r.legs.lookup l' = some leg' at hl'
      rw [hl] at hl'
      cases hl'
      cases leg <;> simp [Leg.isOffChain, Leg.sender?] at hoff hp
    simpa [InstructionRecord.claim, hne] using h.sender l' leg' p hl' hp
  offChain l' leg' hl' hoff' := by
    by_cases heq : l' = l
    · subst heq
      exact .inr ⟨by simp [InstructionRecord.claim], signer, uid, by simp [InstructionRecord.claim]⟩
    · simpa [InstructionRecord.claim, heq] using h.offChain l' leg' hl' hoff'
  offChain_leg l' hne := by
    by_cases heq : l' = l
    · subst heq
      exact ⟨leg, hl, hoff⟩
    · exact h.offChain_leg l' (by simpa [InstructionRecord.claim, heq] using hne)
  status_leg l' hne := by
    by_cases heq : l' = l
    · subst heq
      change (r.legs.lookup l').isSome
      rw [hl]
      rfl
    · exact h.status_leg l' (by simpa [InstructionRecord.claim, heq] using hne)
  party := h.party
  wellFormed := h.wellFormed
  mediator := h.mediator

theorem Valid.setMediator (h : r.Valid) (did : IdentityId) {status : MediatorAffirmationStatus}
    {n : ℕ} (hstatus : status ≠ .unknown)
    (hcount : n = r.pendingPortfolios + r.pendingOffChain +
      (r.mediators.insert did status).entries.countP fun e => decide (e.2 = .pending)) :
    Valid { r with mediators := r.mediators.insert did status, affirmsPending := n } where
  counter := hcount
  sender := h.sender
  offChain := h.offChain
  offChain_leg := h.offChain_leg
  status_leg := h.status_leg
  party := h.party
  wellFormed := h.wellFormed
  mediator did' := by
    by_cases heq : did' = did
    · subst heq
      simpa using hstatus
    · simpa [AList.lookup_insert_ne heq] using h.mediator did'

theorem Valid.mediate (h : r.Valid) {did : IdentityId} (hdid : did ∈ r.mediators)
    (expiry : Option Moment) : (r.mediate did expiry).Valid := by
  refine h.setMediator did (by simp) ?_
  have hcount := countP_insert r.mediators did (.affirmed expiry) fun a => decide (a = .pending)
  have hcounter := h.counter
  obtain ⟨status, hstatus⟩ := Option.isSome_iff_exists.mp (AList.lookup_isSome.mpr hdid)
  simp only [pending, pendingMediators] at hcounter
  simp only [hstatus, countOption, Option.any_some, Option.some.injEq, reduceCtorEq,
    decide_eq_true_eq, decide_false, if_false] at hcount ⊢
  split_ifs at hcount ⊢ <;> omega

theorem Valid.unmediate (h : r.Valid) {did : IdentityId} {expiry : Option Moment}
    (hdid : r.mediators.lookup did = some (.affirmed expiry)) : (r.unmediate did).Valid := by
  refine h.setMediator did (by simp) ?_
  have hcount := countP_insert r.mediators did .pending fun a => decide (a = .pending)
  have hcounter := h.counter
  simp only [pending, pendingMediators] at hcounter
  rw [hdid] at hcount
  simp only [countOption, Option.any_some, reduceCtorEq, decide_false, decide_true, if_true,
    Bool.false_eq_true, if_false] at hcount
  omega

theorem Valid.fail (h : r.Valid) : r.fail.Valid :=
  ⟨h.counter, h.sender, h.offChain, h.offChain_leg, h.status_leg, h.party, h.wellFormed,
    h.mediator⟩

end InstructionRecord

/-- **Every step keeps a record valid.** -/
theorem LifeStep.valid {r r' : InstructionRecord} (h : LifeStep r r') (hr : r.Valid) :
    r'.Valid := by
  cases h with
  | affirm portfolios hnodup hpending => exact hr.affirm hnodup hpending
  | withdraw portfolios hnodup haffirmed => exact hr.withdraw hnodup haffirmed
  | claim l leg signer uid hl hoff hpending => exact hr.claim hl hoff hpending signer uid
  | mediate did expiry hdid => exact hr.mediate hdid expiry
  | unmediate did expiry hdid => exact hr.unmediate hdid
  | prune status => exact InstructionRecord.valid_blank status

theorem LifeStep.blank {r r' : InstructionRecord} (h : LifeStep r r') (hr : r.Blank) :
    r'.Blank := by
  cases h with
  | affirm portfolios _ hpending =>
    obtain rfl : portfolios = [] := by
      refine List.eq_nil_iff_forall_not_mem.mpr fun p hp => ?_
      have := hpending p hp
      rw [hr] at this
      cases this
    rw [hr]
    simp [InstructionRecord.affirm, InstructionRecord.Blank, InstructionRecord.blank,
      InstructionRecord.sends]
  | withdraw portfolios _ haffirmed =>
    obtain rfl : portfolios = [] := by
      refine List.eq_nil_iff_forall_not_mem.mpr fun p hp => ?_
      have := haffirmed p hp
      rw [hr] at this
      cases this
    rw [hr]
    simp [InstructionRecord.withdraw, InstructionRecord.Blank, InstructionRecord.blank,
      InstructionRecord.sends]
  | claim l leg signer uid hl =>
    rw [hr] at hl
    cases hl
  | mediate did expiry hdid | unmediate did expiry hdid =>
    rw [hr] at hdid
    cases hdid
  | prune status => rfl

theorem LifeStep.status_eq {r r' : InstructionRecord} (h : LifeStep r r')
    (hp : r.status ≠ .pending) (hf : r.status ≠ .failed) : r'.status = r.status := by
  cases h with
  | prune status hstatus => exact absurd hstatus (not_or.mpr ⟨hp, hf⟩)
  | _ => rfl

theorem LifeStep.settled {r r' : InstructionRecord} (h : LifeStep r r')
    (hp : r'.status ≠ .pending) (hf : r'.status ≠ .failed)
    (hr : r.status ≠ .pending → r.status ≠ .failed → r.Blank) : r'.Blank := by
  have hcases : r'.Blank ∨ r'.status = r.status := by
    cases h with
    | prune status => exact .inl rfl
    | _ => exact .inr rfl
  rcases hcases with hblank | hstatus
  · exact hblank
  · rw [hstatus] at hp hf
    exact h.blank (hr hp hf)

theorem InstructionRecord.claimAll_cons (r : InstructionRecord) (x : ReceiptDetails)
    (xs : List ReceiptDetails) :
    r.claimAll (x :: xs) = (r.claim x.legId x.signer x.uid).claimAll xs := by
  simp [claimAll, InstructionRecord.claim, Nat.sub_sub, Nat.add_comm]

theorem InstructionRecord.claimAll_lifeSteps {r : InstructionRecord} {receipts : List ReceiptDetails}
    (hnodup : (receipts.map ReceiptDetails.legId).Nodup)
    (hlegs : ∀ x ∈ receipts, ∃ leg, r.legs.lookup x.legId = some leg ∧ leg.isOffChain ∧
      r.offChainAffirmations x.legId = .pending) :
    Relation.ReflTransGen LifeStep r (r.claimAll receipts) := by
  induction receipts generalizing r with
  | nil => exact .refl
  | cons x xs ih =>
    obtain ⟨hx, hxs⟩ := List.nodup_cons.mp hnodup
    obtain ⟨leg, hl, hoff, hpending⟩ := hlegs x List.mem_cons_self
    rw [claimAll_cons]
    refine .head (.claim x.legId leg x.signer x.uid hl hoff hpending) (ih hxs fun y hy => ?_)
    have hne : y.legId ≠ x.legId := fun heq => hx (heq ▸ List.mem_map_of_mem hy)
    obtain ⟨leg', hl', hoff', hpending'⟩ := hlegs y (List.mem_cons_of_mem x hy)
    exact ⟨leg', hl', hoff', by simpa [InstructionRecord.claim, hne] using hpending'⟩

/-! ## New instructions -/

/-- What the checks on the legs of a new instruction have found out. -/
structure InstructionInfo.Describes (info : InstructionInfo) (legs : List Leg) : Prop where
  nodup_pending : info.portfoliosPendingApproval.Nodup
  nodup_mediators : info.mediators.Nodup
  sender_pending : ∀ leg ∈ legs, ∀ p, leg.sender? = some p → p ∈ info.portfoliosPendingApproval
  pending_party : ∀ p ∈ info.portfoliosPendingApproval, ∃ leg ∈ legs, p ∈ legPortfolios leg
  preApproved_party : ∀ p ∈ info.portfoliosPreApproved, ∃ leg ∈ legs, p ∈ legPortfolios leg
  offChain_count : info.instructionAssetCount.offChain = legs.countP Leg.isOffChain
  wellFormed : ∀ leg ∈ legs, leg.WellFormed

namespace InstructionRecord

/-- The record of a new instruction. -/
def added (details : Instruction) (legs : List Leg) (info : InstructionInfo) :
    InstructionRecord where
  status := .pending
  details := details
  legs := insertLegs legs ∅
  legStatus := fun _ => .pendingTokenLock
  affirmsPending := info.numberOfPendingAffirmations
  userAffirmations := fun p =>
    if p ∈ info.portfoliosPreApprovedDifference then .affirmed
    else if p ∈ info.portfoliosPendingApproval then .pending else .unknown
  offChainAffirmations := fun l => if l ∈ offChainLegIds legs then .pending else .unknown
  mediators := insertMany id (fun _ => .pending) info.mediators ∅

variable {legs : List Leg} {info : InstructionInfo}

theorem entries_insertLegs (legs : List Leg) :
    (insertLegs legs ∅).entries.Perm
      (legs.zipIdx.map fun x => (⟨x.2, x.1⟩ : Sigma fun _ : LegId => Leg)) := by
  have hnodup : (legs.zipIdx.map Prod.snd).Nodup := by
    rw [List.zipIdx_map_snd]
    exact List.nodup_range'
  have h := entries_insertMany_perm Prod.snd Prod.fst hnodup (m := ∅) (by simp)
  rw [AList.empty_entries, List.append_nil] at h
  exact h

theorem lookup_insertLegs {l : LegId} {leg : Leg} :
    (insertLegs legs ∅).lookup l = some leg ↔ legs[l]? = some leg := by
  rw [← Option.mem_def, AList.mem_lookup_iff, (entries_insertLegs legs).mem_iff]
  constructor
  · intro h
    obtain ⟨⟨leg', l'⟩, hmem, heq⟩ := List.mem_map.mp h
    cases heq
    exact List.mem_zipIdx_iff_getElem?.mp hmem
  · exact fun h => List.mem_map.mpr ⟨(leg, l), List.mem_zipIdx_iff_getElem?.mpr h, rfl⟩

theorem mem_offChainLegIds {l : LegId} :
    l ∈ offChainLegIds legs ↔ ∃ leg, legs[l]? = some leg ∧ leg.isOffChain := by
  simp only [offChainLegIds, List.mem_map, List.mem_filter]
  constructor
  · rintro ⟨⟨leg, l'⟩, ⟨hmem, hoff⟩, rfl⟩
    exact ⟨leg, List.mem_zipIdx_iff_getElem?.mp hmem, hoff⟩
  · rintro ⟨leg, hl, hoff⟩
    exact ⟨(leg, l), ⟨List.mem_zipIdx_iff_getElem?.mpr hl, hoff⟩, rfl⟩

theorem pendingPortfolios_added (h : info.Describes legs) (details : Instruction) :
    (added details legs info).pendingPortfolios = info.portfoliosPendingApproval.length := by
  have hset : (Finset.univ.filter fun p => (added details legs info).userAffirmations p = .pending) =
      info.portfoliosPendingApproval.toFinset := by
    ext p
    rw [Finset.mem_filter, List.mem_toFinset]
    by_cases hp : p ∈ info.portfoliosPendingApproval
    · simp [added, hp, InstructionInfo.portfoliosPreApprovedDifference]
    · by_cases hq : p ∈ info.portfoliosPreApprovedDifference <;> simp [added, hp, hq]
  rw [pendingPortfolios, hset, List.toFinset_card_of_nodup h.nodup_pending]

theorem pendingOffChain_added (details : Instruction) :
    (added details legs info).pendingOffChain = legs.countP Leg.isOffChain := by
  have hkeys : (insertLegs legs ∅).keys.Perm (legs.zipIdx.map Prod.snd) := by
    simpa [AList.keys, List.keys, Function.comp_def] using (entries_insertLegs legs).map Sigma.fst
  have hlegs : legs.countP Leg.isOffChain = legs.zipIdx.countP fun x => x.1.isOffChain := by
    conv_lhs => rw [← List.zipIdx_map_fst 0 legs]
    rw [List.countP_map]
    rfl
  rw [pendingOffChain, hlegs]
  change (insertLegs legs ∅).keys.countP _ = _
  rw [hkeys.countP_eq, List.countP_map]
  refine List.countP_congr fun x hx => ?_
  have hx := List.mem_zipIdx_iff_getElem?.mp hx
  have hmem : x.2 ∈ offChainLegIds legs ↔ x.1.isOffChain := by
    rw [mem_offChainLegIds, hx]
    simp
  simp only [Function.comp_apply, added]
  by_cases hoff : x.1.isOffChain <;> simp [hmem, hoff]

theorem pendingMediators_added (h : info.Describes legs) (details : Instruction) :
    (added details legs info).pendingMediators = info.mediators.length := by
  have hnodup : (info.mediators.map id).Nodup := by simpa using h.nodup_mediators
  have hperm := entries_insertMany_perm id (fun _ => MediatorAffirmationStatus.pending) hnodup
    (m := ∅) (by simp)
  change (insertMany id (fun _ => MediatorAffirmationStatus.pending) info.mediators
    ∅).entries.countP _ = _
  rw [hperm.countP_eq]
  simp [List.countP_map, Function.comp_def]

/-- **A new instruction has a valid record.** -/
theorem valid_added (h : info.Describes legs) (details : Instruction) :
    (added details legs info).Valid where
  counter := by
    rw [pending, pendingPortfolios_added h, pendingOffChain_added, pendingMediators_added h,
      ← h.offChain_count]
    rfl
  sender l leg p hl hp := by
    have hl := List.mem_of_getElem? (lookup_insertLegs.mp hl)
    have hp := h.sender_pending leg hl p hp
    refine .inl ⟨?_, rfl⟩
    simp [added, InstructionInfo.portfoliosPreApprovedDifference, hp]
  offChain l leg hl hoff := by
    have hl := lookup_insertLegs.mp hl
    refine .inl ⟨?_, rfl⟩
    exact if_pos (mem_offChainLegIds.mpr ⟨leg, hl, hoff⟩)
  offChain_leg l hne := by
    by_cases hmem : l ∈ offChainLegIds legs
    · obtain ⟨leg, hl, hoff⟩ := mem_offChainLegIds.mp hmem
      exact ⟨leg, lookup_insertLegs.mpr hl, hoff⟩
    · exact absurd (if_neg hmem) hne
  status_leg l hne := absurd rfl hne
  party p hne := by
    have hparty : ∃ leg ∈ legs, p ∈ legPortfolios leg := by
      by_cases hpre : p ∈ info.portfoliosPreApprovedDifference
      · exact h.preApproved_party p (List.mem_of_mem_filter hpre)
      · by_cases hpend : p ∈ info.portfoliosPendingApproval
        · exact h.pending_party p hpend
        · simp [added, hpre, hpend] at hne
    obtain ⟨leg, hleg, hp⟩ := hparty
    obtain ⟨l, hl⟩ := List.mem_iff_getElem?.mp hleg
    exact ⟨l, leg, lookup_insertLegs.mpr hl, hp⟩
  wellFormed l leg hl := h.wellFormed leg (List.mem_of_getElem? (lookup_insertLegs.mp hl))
  mediator did := by
    intro hdid
    have hnodup : (info.mediators.map id).Nodup := by simpa using h.nodup_mediators
    have hperm := entries_insertMany_perm id (fun _ => MediatorAffirmationStatus.pending) hnodup
      (m := ∅) (by simp)
    have hmem := hperm.mem_iff.mp (AList.mem_lookup_iff.mp hdid)
    simp at hmem

end InstructionRecord

end Polymesh
