import Polymesh.Settlement.Refinement

/-!
# The expiry of a mediator's affirmation

A mediator affirms until a moment in the future, and an execution asks for that moment to have
passed. So an affirmation with an expiry holds an instruction back while it is valid, and lets it
through once it is not. Without an expiry, a mediator's affirmation does what it should.
-/

namespace Polymesh

open Transactional Tx Collections AssocLists

/-- A mediator has affirmed, and the affirmation has not expired. -/
def AffirmedInTime (now : Moment) : MediatorAffirmationStatus → Prop
  | .affirmed (some expiry) => now ≤ expiry
  | .affirmed none => True
  | .unknown | .pending => False

namespace Settlement

/-- Some mediator of the instruction has affirmed until a moment. -/
def HasExpiry (s : Storage) (id : InstructionId) : Prop :=
  ∃ did expiry, (s.settlement.instructionMediatorsAffirmations id).lookup did =
    some (.affirmed (some expiry))

section Check

variable {env : Env} {id : InstructionId} {s s' : Storage} {u : Unit}

theorem mem_mediatorOrder {did : IdentityId} {status : MediatorAffirmationStatus} :
    (did, status) ∈ env.mediatorOrder (s.mediators id) ↔
      (s.settlement.instructionMediatorsAffirmations id).lookup did = some status := by
  rw [(env.mediatorOrder_perm _).mem_iff, ← Option.mem_def, AList.mem_lookup_iff]
  simp only [Storage.mediators, List.mem_map]
  constructor
  · rintro ⟨e, he, heq⟩
    cases heq
    exact he
  · exact fun h => ⟨⟨did, status⟩, h, rfl⟩

theorem ensureNonExpiredAffirmations_ok : ensureNonExpiredAffirmations env id s = .ok u ↔
    ∀ did status, (s.settlement.instructionMediatorsAffirmations id).lookup did = some status →
      status = .affirmed none ∨ ∃ expiry, status = .affirmed (some expiry) ∧
        expiry < s.system.now := by
  rw [ensureNonExpiredAffirmations, except_forM_eq_ok, Prod.forall]
  simp only [mem_mediatorOrder]
  refine forall_congr' fun did => forall_congr' fun status => imp_congr_right fun _ => ?_
  rcases status with _ | _ | (_ | expiry) <;> simp

theorem hasExpiry_of_expired (h : ensureNonExpiredAffirmations env id s =
    .error (.settlement .mediatorAffirmationExpired)) : HasExpiry s id := by
  obtain ⟨⟨did, status⟩, hmem, herror⟩ := except_forM_eq_error h
  rw [mem_mediatorOrder] at hmem
  rcases status with _ | _ | (_ | expiry)
  · cases herror
  · cases herror
  · cases herror
  · exact ⟨did, expiry, hmem⟩

theorem expired_of_error (hvalid : (s.settlement.instruction id).Valid)
    (hcount : s.settlement.instructionAffirmsPending id = 0) {e : DispatchError}
    (h : ensureNonExpiredAffirmations env id s = .error e) :
    e = .settlement .mediatorAffirmationExpired := by
  obtain ⟨⟨did, status⟩, hmem, herror⟩ := except_forM_eq_error h
  rw [mem_mediatorOrder] at hmem
  rcases status with _ | _ | (_ | expiry)
  · exact absurd hmem (hvalid.mediator did)
  · exact absurd hmem ((hvalid.complete_iff.mp hcount).mediators did)
  · cases herror
  · simp only [ensure_eq_error] at herror
    exact herror.2.symm

theorem ensureAllowedVenue_error {venueId : VenueId} {legs : List (LegId × Leg)}
    {tickers : List Ticker} {e : DispatchError}
    (h : ensureAllowedVenue venueId s legs tickers = .error e) :
    e = .settlement .unauthorizedVenue := by
  induction legs generalizing tickers with
  | nil => cases h
  | cons l legs ih =>
    rw [ensureAllowedVenue, except_bind_eq_error] at h
    rcases h with h | ⟨_, -, h⟩
    · unfold ensureVenueFiltering at h
      split at h
      · cases h
      · rw [except_bind_eq_error, ensure_eq_error] at h
        rcases h with ⟨-, h⟩ | ⟨_, -, h⟩
        · exact h.symm
        · cases h
    · exact ih h

/-- **An execution is refused for an expiry exactly if the check on the mediators is.** -/
theorem executeInstruction_expired_iff :
    (executeInstruction env id s).1 = .error (.settlement .mediatorAffirmationExpired) ↔
      s.settlement.instructionAffirmsPending id = 0 ∧ ensureNonExpiredAffirmations env id s =
        .error (.settlement .mediatorAffirmationExpired) := by
  constructor
  · intro h
    have hrun : executeInstruction env id s =
        (.error (.settlement .mediatorAffirmationExpired), (executeInstruction env id s).2) :=
      Prod.ext h rfl
    generalize (executeInstruction env id s).2 = s' at hrun
    simp [executeInstruction] at hrun
    obtain ⟨hcount, ⟨hexpired, -⟩ | ⟨-, -, -, hvenue⟩⟩ := hrun
    · exact ⟨hcount, hexpired⟩
    · cases ensureAllowedVenue_error hvenue
  · rintro ⟨hcount, hexpired⟩
    have hrun : executeInstruction env id s =
        (.error (.settlement .mediatorAffirmationExpired), s) := by
      simp [executeInstruction, hcount, hexpired]
    rw [hrun]

theorem affirmedInTime_iff (h : ensureNonExpiredAffirmations env id s = .ok u) :
    (∀ did status, (s.settlement.instructionMediatorsAffirmations id).lookup did = some status →
      AffirmedInTime s.system.now status) ↔ ¬ HasExpiry s id := by
  have hcheck := ensureNonExpiredAffirmations_ok.mp h
  constructor
  · rintro hall ⟨did, expiry, hdid⟩
    have htime : s.system.now ≤ expiry := hall did _ hdid
    rcases hcheck did _ hdid with heq | ⟨e, heq, hlt⟩
    · cases heq
    · cases heq
      exact absurd hlt (not_lt.mpr htime)
  · intro hnone did status hdid
    rcases hcheck did status hdid with rfl | ⟨expiry, rfl, -⟩
    · trivial
    · exact absurd ⟨did, expiry, hdid⟩ hnone

end Check

/-- **Expiries are honoured exactly where no mediator has given one.** In every state of the chain:
without an expiry, an execution succeeds only on affirmations in time, and is never refused for an
expiry. With one, every execution that succeeds violates it, and every execution that misses no
affirmation is refused for it while all expiries are in the future. -/
theorem mediator_expiry_honoured {s : Storage} (hs : Reachable s) (env : Env)
    (id : InstructionId) :
    (¬ HasExpiry s id →
      (executeInstruction env id s).1 ≠ .error (.settlement .mediatorAffirmationExpired)) ∧
    ((executeInstruction env id s).1 = .ok () →
      ((∀ did status, (s.settlement.instructionMediatorsAffirmations id).lookup did =
        some status → AffirmedInTime s.system.now status) ↔ ¬ HasExpiry s id)) ∧
    (s.settlement.instructionAffirmsPending id = 0 →
      (∀ did expiry, (s.settlement.instructionMediatorsAffirmations id).lookup did =
        some (.affirmed (some expiry)) → s.system.now < expiry) →
      ((executeInstruction env id s).1 ≠ .error (.settlement .mediatorAffirmationExpired) ↔
        ¬ HasExpiry s id)) := by
  have hvalid := (reachable_instructionsInv hs).valid id
  have hnone : ¬ HasExpiry s id →
      (executeInstruction env id s).1 ≠ .error (.settlement .mediatorAffirmationExpired) :=
    fun h herror => h (hasExpiry_of_expired (executeInstruction_expired_iff.mp herror).2)
  refine ⟨hnone, fun hok => ?_, fun hcount hfuture => ⟨fun hrun hexpiry => ?_, hnone⟩⟩
  · have hrun : executeInstruction env id s = (.ok (), (executeInstruction env id s).2) :=
      Prod.ext hok rfl
    exact affirmedInTime_iff (executeInstruction_ok hrun).2.1
  · -- An expiry in the future makes the check fail, and nothing else can.
    obtain ⟨did, expiry, hdid⟩ := hexpiry
    rcases hcheck : ensureNonExpiredAffirmations env id s with e | u
    · rw [expired_of_error hvalid hcount hcheck] at hcheck
      exact hrun (executeInstruction_expired_iff.mpr ⟨hcount, hcheck⟩)
    · rcases ensureNonExpiredAffirmations_ok.mp hcheck did _ hdid with heq | ⟨e, heq, hlt⟩
      · cases heq
      · cases heq
        exact lt_asymm hlt (hfuture did expiry hdid)

/-- An instruction with a mediator that both parties have affirmed at time 0. -/
def mediatedRun : List Action :=
  [.calls 1 (.createAsset ⟨1⟩ true .equityCommon), .calls 1 (.issue ⟨1⟩ 1000 .default),
    .calls 1 (.createVenue [] .other),
    .calls 1 (.addAndAffirmInstruction ⟨1⟩ (.settleManual 0) none none
      [.fungible (.defaultPortfolio ⟨1⟩) (.defaultPortfolio ⟨2⟩) ⟨1⟩ 10]
      [.defaultPortfolio ⟨1⟩] [⟨4⟩]),
    .calls 2 (.affirmInstruction ⟨1⟩ [.defaultPortfolio ⟨2⟩] none)]

/-- The mediator affirms without an expiry, and the instruction is executed. -/
theorem mediator_expiry_honoured_without :
    let s := TransitionSystem.run step genesis
      (mediatedRun ++ [.calls 4 (.affirmInstructionAsMediator ⟨1⟩ none)])
    (executeInstruction .consenting ⟨1⟩ s).1 = .ok () ∧
      ∀ did status, (s.settlement.instructionMediatorsAffirmations ⟨1⟩).lookup did =
        some status → AffirmedInTime s.system.now status := by
  intro s
  have hs : Reachable s := ⟨_, rfl⟩
  have hok : (executeInstruction .consenting ⟨1⟩ s).1 = .ok () := by rfl
  have hnone : ¬ HasExpiry s ⟨1⟩ := by
    rintro ⟨did, expiry, hdid⟩
    have hmem := AList.mem_lookup_iff.mp hdid
    have hentries : (s.settlement.instructionMediatorsAffirmations ⟨1⟩).entries =
        [⟨⟨4⟩, .affirmed none⟩] := by rfl
    rw [hentries] at hmem
    simp at hmem
  exact ⟨hok, ((mediator_expiry_honoured hs .consenting ⟨1⟩).2.1 hok).mpr hnone⟩

/-- A mediator affirms until moment 5000: an execution at moment 0 is refused, and an execution at
moment 6000 succeeds. -/
theorem mediator_expiry_inverted :
    let s := TransitionSystem.run step genesis
      (mediatedRun ++ [.calls 4 (.affirmInstructionAsMediator ⟨1⟩ (some 5000))])
    let later := step (.nextBlock 6000) s
    (s.settlement.instructionMediatorsAffirmations ⟨1⟩).entries =
        [⟨⟨4⟩, .affirmed (some 5000)⟩] ∧
      s.system.now = 0 ∧ later.system.now = 6000 ∧
      (executeInstruction .consenting ⟨1⟩ s).1 =
        .error (.settlement .mediatorAffirmationExpired) ∧
      (executeInstruction .consenting ⟨1⟩ later).1 = .ok () ∧
      ¬ ∀ did status, (later.settlement.instructionMediatorsAffirmations ⟨1⟩).lookup did =
        some status → AffirmedInTime later.system.now status := by
  refine ⟨rfl, rfl, rfl, rfl, rfl, fun h => ?_⟩
  have hlate : 6000 ≤ 5000 := h ⟨4⟩ (.affirmed (some 5000)) rfl
  omega

end Settlement

end Polymesh
