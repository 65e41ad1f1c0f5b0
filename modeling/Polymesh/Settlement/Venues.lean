import Polymesh.Effects.Steps

/-!
# The signers of a venue

The receipts of a venue are signed by accounts that its creator adds and removes, and the number
of these accounts is stored with them. The pallet changes the number by the length of the list it
is given, and the accounts one by one. The two agree as long as no list names an account twice,
or a removal leaves nobody.
-/

namespace Polymesh

open Transactional Tx Collections Relation
open TransitionSystem (along_append run)

namespace Settlement

/-- The accounts that may sign for a venue. -/
def signersOf (s : Storage) (id : VenueId) : Set AccountId :=
  {account | s.settlement.venueSigners id account = true}

/-- The number of signers that is stored with every venue is right. -/
def CountsSigners (s : Storage) : Prop :=
  ∀ id, s.settlement.numberOfVenueSigners id = (signersOf s id).ncard

/-- The call changes the number of signers by as much as the signers: its list names nobody twice,
or it removes all of them. -/
def UpdatesExactly (s : Storage) : Call → Prop
  | .createVenue signers _ => signers.Nodup
  | .updateVenueSigners id signers addSigners =>
    signers.Nodup ∨ addSigners = false ∧ signersOf s id ⊆ {account | account ∈ signers}
  | _ => True

/-! ## Writes -/

section Writes

variable {s : Storage} {id : VenueId} {signers : List AccountId}

theorem finite_accounts (accounts : Set AccountId) : accounts.Finite :=
  Set.Finite.of_finite_image (f := AccountId.bytes) (Set.toFinite _)
    fun _ _ _ _ h => congrArg AccountId.mk h

/-- The signers of the venue when a list of them is added or removed. Fields of the pallet other
than the signers may change as well. -/
theorem signersOf_setVenueSigners (add : Bool) (count : ℕ)
    (g : SettlementStorage → SettlementStorage)
    (hg : (g s.settlement).venueSigners = s.settlement.venueSigners) (id' : VenueId) :
    signersOf (s.mapSettlement fun t => setVenueSigners id signers add count (g t)) id' =
      if id' = id then
        if add then signersOf s id ∪ {account | account ∈ signers}
        else signersOf s id \ {account | account ∈ signers}
      else signersOf s id' := by
  ext account
  by_cases hid : id' = id
  · subst hid
    cases add <;> simp [signersOf, setVenueSigners, insertAll_apply, hg, and_comm, or_comm]
  · simp [signersOf, setVenueSigners, hid, hg]

theorem ncard_add_iff (h : ∀ signer ∈ signers, s.settlement.venueSigners id signer = false) :
    (signersOf s id).ncard + signers.length =
        (signersOf s id ∪ {account | account ∈ signers}).ncard ↔ signers.Nodup := by
  have hdisjoint : Disjoint (signersOf s id) {account | account ∈ signers} := by
    rw [Set.disjoint_right]
    intro account haccount
    simp [signersOf, h account haccount]
  rw [Set.ncard_union_eq hdisjoint (finite_accounts _) (finite_accounts _), ncard_mem,
    Nat.add_left_cancel_iff, eq_comm, toFinset_card_eq_length]

theorem ncard_remove_iff (h : ∀ signer ∈ signers, s.settlement.venueSigners id signer = true) :
    (signersOf s id).ncard - signers.length =
        (signersOf s id \ {account | account ∈ signers}).ncard ↔
      signers.Nodup ∨ signersOf s id ⊆ {account | account ∈ signers} := by
  have hsubset : {account | account ∈ signers} ⊆ signersOf s id := h
  have hle := Set.ncard_le_ncard hsubset (finite_accounts _)
  have hle' := List.toFinset_card_le signers
  have hall : signersOf s id ⊆ {account | account ∈ signers} ↔
      (signersOf s id).ncard ≤ {account | account ∈ signers}.ncard :=
    ⟨fun hall => Set.ncard_le_ncard hall (finite_accounts _),
      fun hcard => (Set.eq_of_subset_of_ncard_le hsubset hcard (finite_accounts _)).ge⟩
  rw [Set.ncard_sdiff hsubset (finite_accounts _), hall, ← toFinset_card_eq_length, ncard_mem]
  rw [ncard_mem] at hle
  omega

end Writes

/-! ## Calls -/

/-- The number of signers is right and bounded, and nothing is stored under the ids that have not
been given. -/
structure VenuesInv (bound : ℕ) (s : Storage) : Prop where
  counts : CountsSigners s
  bounded : ∀ id, s.settlement.numberOfVenueSigners id ≤ bound
  fresh : ∀ id, s.settlement.venueCounter.id ≤ id.id →
    s.settlement.venueInfo id = none ∧ signersOf s id = ∅

section Calls

variable {env : Env} {origin : RuntimeOrigin} {s s' : Storage} {u : Unit} {bound : ℕ}

theorem countsSigners_iff (id : VenueId) (add : Bool) (signers : List AccountId) (count : ℕ)
    (g : SettlementStorage → SettlementStorage) (hs : CountsSigners s)
    (hsigners : (g s.settlement).venueSigners = s.settlement.venueSigners)
    (hcount : (g s.settlement).numberOfVenueSigners = s.settlement.numberOfVenueSigners) :
    CountsSigners (s.mapSettlement fun t => setVenueSigners id signers add count (g t)) ↔
      count = (if add then signersOf s id ∪ {account | account ∈ signers}
        else signersOf s id \ {account | account ∈ signers}).ncard := by
  simp only [CountsSigners, signersOf_setVenueSigners add count g hsigners]
  constructor
  · intro h
    simpa [setVenueSigners] using h id
  · intro h id'
    by_cases hid : id' = id
    · subst hid
      simpa [setVenueSigners] using h
    · simpa [setVenueSigners, hid, hcount] using hs id'

variable {id : VenueId} {signers : List AccountId} {typ : VenueType} {addSigners : Bool}

/-- The invariant when the signers of one venue change, and ids that have not been given stay as
they are. -/
theorem VenuesInv.setVenueSigners {add : Bool} {count : ℕ}
    {g : SettlementStorage → SettlementStorage} (hs : VenuesInv bound s)
    (hsigners : (g s.settlement).venueSigners = s.settlement.venueSigners)
    (hcount : (g s.settlement).numberOfVenueSigners = s.settlement.numberOfVenueSigners)
    (hbound : count ≤ bound) (hfresh : ∀ id', (g s.settlement).venueCounter.id ≤ id'.id → id' ≠ id ∧
      s.settlement.venueCounter.id ≤ id'.id ∧
      (g s.settlement).venueInfo id' = s.settlement.venueInfo id') (hexact : CountsSigners
      (s.mapSettlement fun t => Settlement.setVenueSigners id signers add count (g t))) :
    VenuesInv bound
      (s.mapSettlement fun t => Settlement.setVenueSigners id signers add count (g t)) where
  counts := hexact
  bounded id' := by
    by_cases hid : id' = id
    · simpa [Settlement.setVenueSigners, hid] using hbound
    · simpa [Settlement.setVenueSigners, hid, hcount] using hs.bounded id'
  fresh id' hid' := by
    obtain ⟨hne, hle, hinfo⟩ := hfresh id' hid'
    rw [signersOf_setVenueSigners add count g hsigners, if_neg hne]
    exact ⟨hinfo.trans (hs.fresh id' hle).1, (hs.fresh id' hle).2⟩

theorem updateVenueSigners_ok
    (h : updateVenueSigners env origin id signers addSigners s = (.ok u, s')) :
    (s.settlement.venueInfo id).isSome ∧
      (addSigners = true ∧
        s.settlement.numberOfVenueSigners id + signers.length ≤ env.maxNumberOfVenueSigners ∧
        (∀ signer ∈ signers, s.settlement.venueSigners id signer = false) ∧
        s' = s.mapSettlement (setVenueSigners id signers true
          (s.settlement.numberOfVenueSigners id + signers.length)) ∨
      addSigners = false ∧
        (∀ signer ∈ signers, s.settlement.venueSigners id signer = true) ∧
        s' = s.mapSettlement (setVenueSigners id signers false
          (s.settlement.numberOfVenueSigners id - signers.length))) := by
  cases addSigners with
  | true =>
    simp [updateVenueSigners, venueForManagement] at h
    obtain ⟨venue, -, hvenue, hlen, hnone, rfl⟩ := h
    exact ⟨by simp [hvenue], .inl ⟨rfl, hlen, hnone, rfl⟩⟩
  | false =>
    simp [updateVenueSigners, venueForManagement] at h
    obtain ⟨venue, -, hvenue, hall, rfl⟩ := h
    exact ⟨by simp [hvenue], .inr ⟨rfl, hall, rfl⟩⟩

/-- **A new venue counts its signers right if and only if nobody is named twice.** -/
theorem createVenue_venues (hs : VenuesInv bound s)
    (h : createVenue env origin signers typ s = (.ok u, s')) :
    (CountsSigners s' ↔ signers.Nodup) ∧
      (env.maxNumberOfVenueSigners = bound → signers.Nodup → VenuesInv bound s') := by
  simp [createVenue] at h
  obtain ⟨did, -, hlen, next, hnext, rfl⟩ := h
  have hiff := countsSigners_iff s.settlement.venueCounter true signers signers.length
    (fun t =>
      { t with
        venueCounter := ⟨next⟩
        venueInfo := Function.update t.venueInfo s.settlement.venueCounter (some ⟨did, typ⟩) })
    hs.counts rfl rfl
  rw [if_pos rfl, (hs.fresh _ le_rfl).2, Set.empty_union, ncard_mem, eq_comm,
    toFinset_card_eq_length] at hiff
  refine ⟨hiff, fun hmax hnodup => hs.setVenueSigners rfl rfl (hmax ▸ hlen) ?_ (hiff.mpr hnodup)⟩
  -- the ids after the new one
  intro id' hid'
  have hval := checkedInc_val hnext
  have hnew : s.settlement.venueCounter.id < next := Fin.lt_def.mpr (by omega)
  have hlt : s.settlement.venueCounter.id < id'.id := hnew.trans_le hid'
  have hne : id' ≠ s.settlement.venueCounter := fun heq => hlt.ne' (congrArg VenueId.id heq)
  exact ⟨hne, hlt.le, Function.update_of_ne hne ..⟩

/-- **A change of signers counts them right if and only if nobody is named twice or nobody is
left.** -/
theorem updateVenueSigners_venues (hs : VenuesInv bound s)
    (h : updateVenueSigners env origin id signers addSigners s = (.ok u, s')) :
    (CountsSigners s' ↔ UpdatesExactly s (.updateVenueSigners id signers addSigners)) ∧
      (env.maxNumberOfVenueSigners = bound →
        UpdatesExactly s (.updateVenueSigners id signers addSigners) → VenuesInv bound s') := by
  obtain ⟨hvenue, hupdate⟩ := updateVenueSigners_ok h
  have hgiven : ∀ id', s.settlement.venueCounter.id ≤ id'.id → id' ≠ id ∧
      s.settlement.venueCounter.id ≤ id'.id ∧
      s.settlement.venueInfo id' = s.settlement.venueInfo id' := by
    refine fun id' hid' => ⟨?_, hid', rfl⟩
    rintro rfl
    simp [(hs.fresh id' hid').1] at hvenue
  rcases hupdate with ⟨rfl, hlen, hnone, rfl⟩ | ⟨rfl, hall, rfl⟩
  · have hiff := countsSigners_iff id true signers
      (s.settlement.numberOfVenueSigners id + signers.length) (fun t => t)
      hs.counts rfl rfl
    rw [if_pos rfl, hs.counts id, ncard_add_iff hnone] at hiff
    have hexact : UpdatesExactly s (.updateVenueSigners id signers true) ↔ signers.Nodup := by
      simp [UpdatesExactly]
    rw [hexact, hs.counts id]
    exact ⟨hiff, fun hmax hnodup => hs.setVenueSigners rfl rfl (hmax ▸ hs.counts id ▸ hlen) hgiven
      (hiff.mpr hnodup)⟩
  · have hiff := countsSigners_iff id false signers
      (s.settlement.numberOfVenueSigners id - signers.length) (fun t => t)
      hs.counts rfl rfl
    rw [if_neg Bool.false_ne_true, hs.counts id, ncard_remove_iff hall] at hiff
    have hexact : UpdatesExactly s (.updateVenueSigners id signers false) ↔
        signers.Nodup ∨ signersOf s id ⊆ {account | account ∈ signers} := by
      simp [UpdatesExactly]
    have hbound := (Nat.sub_le _ signers.length).trans (hs.bounded id)
    rw [hexact, hs.counts id]
    exact ⟨hiff, fun _ hupdate => hs.setVenueSigners rfl rfl (hs.counts id ▸ hbound) hgiven
      (hiff.mpr hupdate)⟩

end Calls

/-! ## Runs -/

/-- The action counts signers exactly, with a given bound on their number. -/
def SignersOnce (bound : ℕ) (s : Storage) : Action → Prop
  | .extrinsic env _ call => env.maxNumberOfVenueSigners = bound ∧ UpdatesExactly s call
  | _ => True

section Runs

variable {s s' : Storage} {a : Action} {bound : ℕ}

theorem VenuesInv.of_kept (hs : VenuesInv bound s) (h : Aspect.Kept .venues s s') :
    VenuesInv bound s' := by
  have h : s'.settlement.venues = s.settlement.venues := h
  simp only [SettlementStorage.venues, Prod.mk.injEq] at h
  obtain ⟨hcounter, hinfo, hsigners, hcount⟩ := h
  have hsame : ∀ id, signersOf s' id = signersOf s id := fun id => by rw [signersOf, hsigners]; rfl
  refine ⟨fun id => ?_, fun id => ?_, fun id hid => ?_⟩
  · rw [hcount, hsame]
    exact hs.counts id
  · rw [hcount]
    exact hs.bounded id
  · rw [hcounter] at hid
    obtain ⟨hnone, hempty⟩ := hs.fresh id hid
    have hsome := congrFun hinfo id
    rw [hsame]
    exact ⟨by simpa [hnone] using hsome, hempty⟩

theorem step_venuesInv (ha : SignersOnce bound s a) (hs : VenuesInv bound s) :
    VenuesInv bound (step a s) := by
  rcases step_kept_or_touches (r := .venues) (by decide) (by decide) (by decide) (by decide) a s
    with hkept | ⟨env, origin, call, rfl, htouches, hstep⟩
  · exact hs.of_kept hkept
  · cases call with
    | createVenue => exact (createVenue_venues hs hstep).2 ha.1 ha.2
    | updateVenueSigners => exact (updateVenueSigners_venues hs hstep).2 ha.1 ha.2
    | _ => simp [Call.touches] at htouches

end Runs

/-- **The number of signers of a venue is right** in every run of calls that update it exactly,
and it does not exceed its bound. From there, the creation of a venue and a change of its signers
leave it so if and only if they update it exactly. -/
theorem venue_signers_counted {bound : ℕ} {s : Storage} (h : ReachableBy (SignersOnce bound) s) :
    (∀ id, s.settlement.numberOfVenueSigners id = (signersOf s id).ncard) ∧
    (∀ id, (signersOf s id).ncard ≤ bound) ∧
    (∀ env origin signers typ s', createVenue env origin signers typ s = (.ok (), s') →
      (CountsSigners s' ↔ UpdatesExactly s (.createVenue signers typ))) ∧
    ∀ env origin id signers addSigners s',
      updateVenueSigners env origin id signers addSigners s = (.ok (), s') →
      (CountsSigners s' ↔ UpdatesExactly s (.updateVenueSigners id signers addSigners)) := by
  have hgenesis : VenuesInv bound genesis := by
    have hnone : ∀ id, signersOf genesis id = ∅ := fun id => by simp [signersOf, genesis]
    exact ⟨fun id => by rw [hnone, Set.ncard_empty]; rfl, fun _ => Nat.zero_le _,
      fun id _ => ⟨rfl, hnone id⟩⟩
  have hs : VenuesInv bound s := h.invariant (VenuesInv bound) hgenesis fun s a hs ha =>
    step_venuesInv ha hs
  refine ⟨hs.counts, fun id => ?_, fun _ _ _ _ _ hcreate => (createVenue_venues hs hcreate).1,
    fun _ _ _ _ _ _ hupdate => (updateVenueSigners_venues hs hupdate).1⟩
  rw [← hs.counts id]
  exact hs.bounded id

/-- A venue of three signers. -/
def venueRun : List Action := [.calls 1 (.createVenue [⟨7⟩, ⟨8⟩, ⟨9⟩] .other)]

/-- One of three signers is removed by a list that names them once. To name them twice would count
one signer where there are two. -/
theorem venue_signers_counted_removed :
    let created := run step genesis venueRun
    let s := run step genesis
      (venueRun ++ [.calls 1 (.updateVenueSigners ⟨1⟩ [⟨7⟩] false)])
    2 = (signersOf s ⟨1⟩).ncard ∧
      (updateVenueSigners .consenting (.signed ⟨1⟩) ⟨1⟩ [⟨7⟩, ⟨7⟩] false created).1 = .ok () ∧
      ¬ CountsSigners
        (updateVenueSigners .consenting (.signed ⟨1⟩) ⟨1⟩ [⟨7⟩, ⟨7⟩] false created).2 := by
  intro created s
  have hnodup : [(⟨7⟩ : AccountId), ⟨8⟩, ⟨9⟩].Nodup := by decide
  have hbefore : TransitionSystem.Along step (SignersOnce 50) genesis venueRun :=
    ⟨⟨rfl, hnodup⟩, trivial⟩
  have hafter : TransitionSystem.Along step (SignersOnce 50) genesis
      (venueRun ++ [.calls 1 (.updateVenueSigners ⟨1⟩ [⟨7⟩] false)]) :=
    (along_append step).mpr
      ⟨hbefore, ⟨rfl, .inl (List.nodup_singleton _)⟩, trivial⟩
  have hcreated : ReachableBy (SignersOnce 50) created := ⟨_, hbefore, rfl⟩
  have hs : ReachableBy (SignersOnce 50) s := ⟨_, hafter, rfl⟩
  have hcount : s.settlement.numberOfVenueSigners ⟨1⟩ = 2 := by decide +kernel
  have hok : (updateVenueSigners .consenting (.signed ⟨1⟩) ⟨1⟩ [⟨7⟩, ⟨7⟩] false created).1 =
      .ok () := by decide +kernel
  have hsigner : created.settlement.venueSigners ⟨1⟩ ⟨8⟩ = true := by decide +kernel
  clear_value created s
  refine ⟨hcount.symm.trans ((venue_signers_counted hs).1 ⟨1⟩), hok, fun hcounts => ?_⟩
  have hexact := ((venue_signers_counted hcreated).2.2.2 _ _ _ _ _ _ (Prod.ext hok rfl)).mp hcounts
  rcases hexact with htwice | ⟨-, hall⟩
  · simp at htwice
  · have hmem := hall hsigner
    simp at hmem

/-- An environment with at most two signers to a venue. -/
def twoSigners : Env := { Env.consenting with maxNumberOfVenueSigners := 2 }

/-- A list that names an account twice makes a venue count two signers for one. A removal that
does so makes it count none for one, after which two more can be added: it has three signers, and
counts the two that it may have. -/
theorem venue_signers_miscounted :
    let created := run step genesis [.calls 1 (.createVenue [⟨7⟩, ⟨7⟩] .other)]
    let s := run step genesis
      [.extrinsic twoSigners (.signed ⟨1⟩) (.createVenue [⟨7⟩, ⟨8⟩] .other),
        .extrinsic twoSigners (.signed ⟨1⟩) (.updateVenueSigners ⟨1⟩ [⟨7⟩, ⟨7⟩] false),
        .extrinsic twoSigners (.signed ⟨1⟩) (.updateVenueSigners ⟨1⟩ [⟨7⟩, ⟨9⟩] true)]
    created.settlement.numberOfVenueSigners ⟨1⟩ = 2 ∧ signersOf created ⟨1⟩ = {⟨7⟩} ∧
      s.settlement.numberOfVenueSigners ⟨1⟩ = 2 ∧ 2 < (signersOf s ⟨1⟩).ncard := by
  intro created s
  refine ⟨by rfl, ?_, by rfl, ?_⟩
  · have hsigners : created.settlement.venueSigners ⟨1⟩ =
        insertAll [⟨7⟩, ⟨7⟩] true fun _ => false := by rfl
    ext account
    simp [signersOf, hsigners, insertAll_apply]
  · have hthree : {⟨7⟩, ⟨8⟩, ⟨9⟩} ⊆ signersOf s ⟨1⟩ := by
      rintro account (rfl | rfl | rfl) <;> rfl
    have hle := Set.ncard_le_ncard hthree (finite_accounts _)
    rw [Set.ncard_insert_of_notMem (by decide), Set.ncard_pair (by decide)] at hle
    exact hle

end Settlement

end Polymesh
