import Polymesh.Effects.Steps

/-!
# Custody of portfolios

Custody is recorded twice: `portfolioCustodian` has the custodian of a portfolio, unless it is its owner,
and `portfoliosInCustody` the portfolios of a custodian. Every change of custody takes the portfolio
from the custodian that is recorded, except for `createCustodyPortfolio`: it takes a number that
nobody is expected to have custody of. An authorization may name a number that is not in use yet,
and the custody that is accepted by it waits for the portfolio.
-/

namespace Polymesh

open Transactional Tx Collections
open TransitionSystem (run)
open Portfolio (custodian deletePortfolio)

/-- The two records of custody agree. -/
def CustodyCoherent (p : PortfolioStorage) : Prop :=
  ∀ pid did, p.portfoliosInCustody did pid = true ↔ p.portfolioCustodian pid = some did

/-- The portfolio is taken from `old` and given to `new`, or to its owner. -/
structure Reassigned (pid : PortfolioId) (old : IdentityId) (new : Option IdentityId)
    (p p' : PortfolioStorage) : Prop where
  custodian : p'.portfolioCustodian = Function.update p.portfolioCustodian pid new
  inCustody : ∀ did q, p'.portfoliosInCustody did q =
    if q = pid ∧ new = some did then true
    else if q = pid ∧ did = old then false
    else p.portfoliosInCustody did q

/-- **The records agree after a change of custody** if and only if the portfolio was taken from the
custodian that was recorded. -/
theorem Reassigned.coherent_iff {pid : PortfolioId} {old : IdentityId} {new : Option IdentityId}
    {p p' : PortfolioStorage} (h : Reassigned pid old new p p') (hp : CustodyCoherent p) :
    CustodyCoherent p' ↔ ∀ did, p.portfolioCustodian pid = some did → did = old ∨ new = some did := by
  constructor
  · intro hp' did hdid
    by_contra hlost
    obtain ⟨hold, hnew⟩ := not_or.mp hlost
    -- the custodian that was recorded keeps the portfolio in the other record
    have hstays := h.inCustody did pid
    rw [if_neg fun h => hnew h.2, if_neg fun h => hold h.2, (hp pid did).mpr hdid] at hstays
    have hcustodian := (hp' pid did).mp hstays
    rw [h.custodian, Function.update_self] at hcustodian
    exact hnew hcustodian
  · intro htaken q did
    rw [h.inCustody, h.custodian]
    by_cases hq : q = pid
    · subst hq
      rw [Function.update_self]
      by_cases hnew : new = some did
      · simp [hnew]
      · refine iff_of_false ?_ hnew
        rw [if_neg fun h => hnew h.2]
        by_cases hold : did = old
        · simp [hold]
        · rw [if_neg fun h => hold h.2]
          intro hin
          exact (htaken did ((hp q did).mp hin)).elim hold hnew
    · rw [if_neg fun h => hq h.1, if_neg fun h => hq h.1, Function.update_of_ne hq]
      exact hp q did

/-! ## Changes of custody -/

section Steps

variable {s s' : Storage} {env : Env} {origin : RuntimeOrigin}

/-- The portfolio that an identity gets next. -/
def nextPortfolio (did : IdentityId) (s : Storage) : PortfolioId :=
  .userPortfolio did (s.portfolio.nextPortfolioNumber did)

theorem quitPortfolioCustody_reassigned {pid : PortfolioId} {u : Unit}
    (h : Portfolio.quitPortfolioCustody env origin pid s = (.ok u, s')) :
    Reassigned pid (custodian pid s) none s.portfolio s'.portfolio := by
  simp only [Portfolio.quitPortfolioCustody, run_ok] at h
  obtain ⟨did, -, hdid, rfl⟩ := h
  subst hdid
  refine ⟨rfl, fun did q => ?_⟩
  simp [update₂_apply, and_comm]

theorem acceptPortfolioCustody_reassigned {authId : ℕ} {u : Unit}
    (h : Portfolio.acceptPortfolioCustody env origin authId s = (.ok u, s')) :
    ∃ pid new, Reassigned pid (custodian pid s) new s.portfolio s'.portfolio := by
  simp only [Portfolio.acceptPortfolioCustody, run_ok] at h
  obtain ⟨did, -, ⟨authorizer, pid⟩, -, -, rfl⟩ := h
  by_cases hown : pid.did = did
  · refine ⟨pid, none, ?_⟩
    simp only [if_pos hown, Storage.mapPortfolio_portfolio]
    refine ⟨rfl, fun did q => ?_⟩
    simp [update₂_apply, and_comm]
  · refine ⟨pid, some did, ?_⟩
    simp only [if_neg hown, Storage.mapPortfolio_portfolio]
    refine ⟨rfl, fun c q => ?_⟩
    simp only [Portfolio.unverifiedTakePortfolioCustody, update₂_apply, Option.some.injEq,
      eq_comm (a := did), and_comm (a := q = pid)]

theorem deletePortfolio_reassigned {num : PortfolioNumber} {u : Unit}
    (h : deletePortfolio env origin num s = (.ok u, s')) :
    ∃ pid, Reassigned pid (custodian pid s) none s.portfolio s'.portfolio := by
  simp only [deletePortfolio, run_ok] at h
  obtain ⟨data, -, -, -, -, name, -, _, -, rfl⟩ := h
  refine ⟨.userPortfolio data.primaryDid num, rfl, fun did q => ?_⟩
  simp [Portfolio.removePortfolio, update₂_apply, and_comm]

theorem createCustodyPortfolio_reassigned {owner : IdentityId} {name : PortfolioName} {u : Unit}
    (h : Portfolio.createCustodyPortfolio env origin owner name s = (.ok u, s')) :
    ∃ did, env.ensurePerms origin = .ok did ∧
      Reassigned (nextPortfolio owner s) did (some did) s.portfolio s'.portfolio := by
  simp only [Portfolio.createCustodyPortfolio, Portfolio.baseCreatePortfolio, ↓run_ok, bind_ok] at h
  obtain ⟨did, _, ⟨hdid, rfl⟩, -, _, _, ⟨_, _, ⟨-, rfl⟩, rfl⟩, rfl⟩ := h
  refine ⟨did, hdid, rfl, fun c q => ?_⟩
  simp only [nextPortfolio, Storage.mapPortfolio_portfolio, Portfolio.insertPortfolio,
    Portfolio.unverifiedTakePortfolioCustody, update₂_apply, Option.some.injEq,
    eq_comm (a := did), and_comm (a := q = _)]
  split_ifs <;> rfl

/-- **Every change of custody**: a portfolio is taken from the custodian that is recorded, or a new one is
given to the caller. -/
theorem step_custody (a : Action) (s : Storage) :
    (step a s).portfolio.custody = s.portfolio.custody ∨
    (∃ pid new, Reassigned pid (custodian pid s) new s.portfolio (step a s).portfolio) ∨
    ∃ env origin owner name did, a = .extrinsic env origin (.createCustodyPortfolio owner name) ∧
      env.ensurePerms origin = .ok did ∧
      dispatch env origin (.createCustodyPortfolio owner name) s = (.ok (), step a s) ∧
      Reassigned (nextPortfolio owner s) did (some did) s.portfolio (step a s).portfolio := by
  rcases step_kept_or_touches (r := .custody) (by decide) (by decide) (by decide) (by decide) a s
    with h | ⟨env, origin, call, rfl, htouches, h⟩
  · exact .inl h
  · right
    cases call with
    | deletePortfolio num =>
      obtain ⟨pid, hpid⟩ := deletePortfolio_reassigned h
      exact .inl ⟨pid, none, hpid⟩
    | quitPortfolioCustody pid => exact .inl ⟨pid, none, quitPortfolioCustody_reassigned h⟩
    | acceptPortfolioCustody authId => exact .inl (acceptPortfolioCustody_reassigned h)
    | createCustodyPortfolio owner name =>
      obtain ⟨did, hdid, hnew⟩ := createCustodyPortfolio_reassigned h
      exact .inr ⟨env, origin, owner, name, did, rfl, hdid, h, hnew⟩
    | invest => simp [Call.touches] at htouches
    | _ => simp [Call.touches] at htouches

end Steps

/-! ## Runs -/

section Runs

variable {s : Storage} {a : Action}

/-- A portfolio that is created for a custodian has no other one yet. -/
def TakesUnclaimed (s : Storage) (a : Action) : Prop :=
  ∀ env origin owner name did, a = .extrinsic env origin (.createCustodyPortfolio owner name) →
    env.ensurePerms origin = .ok did →
    dispatch env origin (.createCustodyPortfolio owner name) s = (.ok (), step a s) →
    ∀ c, s.portfolio.portfolioCustodian (nextPortfolio owner s) = some c → c = did

/-- A portfolio that is created by its owner has no custodian yet. -/
def CreatesUnclaimed (s : Storage) (a : Action) : Prop :=
  ∀ env origin name did, a = .extrinsic env origin (.createPortfolio name) →
    env.ensurePerms origin = .ok did →
    dispatch env origin (.createPortfolio name) s = (.ok (), step a s) →
    custodian (nextPortfolio did s) s = did

/-- **Nobody else has custody** of a portfolio that is created. -/
def Unclaimed (s : Storage) (a : Action) : Prop := TakesUnclaimed s a ∧ CreatesUnclaimed s a

/-- A portfolio that its owner has just created is in the owner's custody. -/
def NewInOwnCustody (s : Storage) (a : Action) : Prop :=
  ∀ env origin name did, a = .extrinsic env origin (.createPortfolio name) →
    env.ensurePerms origin = .ok did →
    dispatch env origin (.createPortfolio name) s = (.ok (), step a s) →
    custodian (nextPortfolio did s) (step a s) = did

theorem step_coherent_iff (hs : CustodyCoherent s.portfolio) :
    CustodyCoherent (step a s).portfolio ↔ TakesUnclaimed s a := by
  by_cases hcreate : ∃ env origin owner name,
      a = .extrinsic env origin (.createCustodyPortfolio owner name) ∧
        dispatch env origin (.createCustodyPortfolio owner name) s = (.ok (), step a s)
  · obtain ⟨env, origin, owner, name, rfl, hok⟩ := hcreate
    obtain ⟨did, hdid, hnew⟩ := createCustodyPortfolio_reassigned hok
    rw [hnew.coherent_iff hs]
    constructor
    · rintro htaken _ _ _ _ did' ⟨⟩ hdid' - c hc
      cases hdid.symm.trans hdid'
      exact (htaken c hc).elim id fun h => (Option.some.inj h).symm
    · intro htakes c hc
      exact .inl (htakes env origin owner name did rfl hdid hok c hc)
  · have htakes : TakesUnclaimed s a :=
      fun env origin owner name did ha _ hok => absurd ⟨env, origin, owner, name, ha, ha ▸ hok⟩ hcreate
    refine iff_of_true ?_ htakes
    rcases step_custody a s with h | ⟨pid, new, h⟩ | ⟨env, origin, owner, name, -, ha, -, hok, -⟩
    · obtain ⟨hcustodian, hin⟩ := Prod.mk.inj h
      unfold CustodyCoherent
      rwa [hcustodian, hin]
    · refine (h.coherent_iff hs).mpr fun did hdid => .inl ?_
      simp [custodian, hdid]
    · exact absurd ⟨env, origin, owner, name, ha, hok⟩ hcreate

theorem newInOwnCustody_iff : NewInOwnCustody s a ↔ CreatesUnclaimed s a := by
  unfold NewInOwnCustody CreatesUnclaimed
  refine forall_congr' fun env => forall_congr' fun origin => forall_congr' fun name =>
    forall_congr' fun did => forall_congr' fun ha => forall_congr' fun hdid =>
      forall_congr' fun hok => ?_
  simp only [dispatch, Portfolio.createPortfolio, Portfolio.baseCreatePortfolio, run_ok] at hok
  obtain ⟨_, -, _, -, hstep⟩ := hok
  rw [← hstep]
  rfl

theorem genesis_coherent : CustodyCoherent genesis.portfolio := fun _ _ => by simp [genesis]

theorem reachableBy_coherent (hs : ReachableBy Unclaimed s) : CustodyCoherent s.portfolio :=
  hs.invariant (fun s => CustodyCoherent s.portfolio) genesis_coherent
    fun _ _ hs ha => (step_coherent_iff hs).mpr ha.1

/-- **Custody is coherent** in every run in which nobody else has custody of a portfolio that is
created: the two records agree, and a portfolio has at most one custodian. From there a step leaves
it so, with a portfolio that its owner creates in the owner's custody, if and only if it creates
no portfolio that somebody else has custody of. -/
theorem custody_coherent_iff {s : Storage} (hs : ReachableBy Unclaimed s) (a : Action) :
    (∀ p c, s.portfolio.portfoliosInCustody c p = true ↔
      s.portfolio.portfolioCustodian p = some c) ∧
    (∀ p c c', s.portfolio.portfoliosInCustody c p = true →
      s.portfolio.portfoliosInCustody c' p = true → c = c') ∧
    (((∀ p c, (step a s).portfolio.portfoliosInCustody c p = true ↔
        (step a s).portfolio.portfolioCustodian p = some c) ∧ NewInOwnCustody s a) ↔
      Unclaimed s a) := by
  have hcoherent := reachableBy_coherent hs
  refine ⟨hcoherent, fun p c c' h h' => ?_, ?_⟩
  · have hc := ((hcoherent p c).mp h).symm.trans ((hcoherent p c').mp h')
    exact Option.some.inj hc
  · exact and_congr (step_coherent_iff hcoherent) newInOwnCustody_iff

end Runs

/-! ## Custody of a number that is not in use -/

/-- The first identity authorizes everybody to take custody of its first portfolio. -/
def firstPortfolioOffered : Env :=
  { Env.consenting with
    portfolioCustodyAuthorization := fun _ _ => .ok (⟨1⟩, .userPortfolio ⟨1⟩ ⟨1⟩) }

/-- The second identity takes custody of the first portfolio of the first identity. -/
def takeFirst : Action := .extrinsic firstPortfolioOffered (.signed ⟨2⟩) (.acceptPortfolioCustody 0)

theorem unclaimed_takeFirst (s : Storage) : Unclaimed s takeFirst := by
  constructor
  · rintro _ _ _ _ _ ⟨⟩
  · rintro _ _ _ _ ⟨⟩

theorem takesUnclaimed_createPortfolio (caller : Fin (2 ^ 256)) (name : PortfolioName)
    (s : Storage) : TakesUnclaimed s (.calls caller (.createPortfolio name)) := by
  rintro _ _ _ _ _ ⟨⟩

/-- Custody of a portfolio that was created before is taken over, and the owner may create another
one. Had custody been taken before, the creation would not leave the portfolio to its owner. -/
theorem custody_coherent_iff_taken :
    let p := PortfolioId.userPortfolio ⟨1⟩ ⟨1⟩
    let create : Action := .calls 1 (.createPortfolio "a")
    let s := run step genesis [create, takeFirst]
    let s₀ := run step genesis [takeFirst]
    s.portfolio.portfolioCustodian p = some ⟨2⟩ ∧ s.portfolio.portfoliosInCustody ⟨2⟩ p = true ∧
      CustodyCoherent (step (.calls 1 (.createPortfolio "b")) s).portfolio ∧
      ¬ NewInOwnCustody s₀ create := by
  intro p create s s₀
  have hcreate : Unclaimed genesis (.calls 1 (.createPortfolio "a")) := by
    refine ⟨takesUnclaimed_createPortfolio 1 "a" genesis, ?_⟩
    rintro _ _ _ did ⟨⟩ - -
    rfl
  have hs : ReachableBy Unclaimed s :=
    ⟨[create, takeFirst], ⟨hcreate, unclaimed_takeFirst _, trivial⟩, rfl⟩
  have hs₀ : ReachableBy Unclaimed s₀ := ⟨[takeFirst], ⟨unclaimed_takeFirst _, trivial⟩, rfl⟩
  have hcustodian : s.portfolio.portfolioCustodian p = some ⟨2⟩ := by decide +kernel
  have hfree : s.portfolio.portfolioCustodian (nextPortfolio ⟨1⟩ s) = none := by decide +kernel
  have hclaimed : custodian (nextPortfolio ⟨1⟩ s₀) s₀ = ⟨2⟩ := by decide +kernel
  have hok : (dispatch .consenting (.signed ⟨1⟩) (.createPortfolio "a") s₀).1 = .ok () := by
    decide +kernel
  clear_value s s₀
  have hnext : Unclaimed s (.calls 1 (.createPortfolio "b")) := by
    refine ⟨takesUnclaimed_createPortfolio 1 "b" s, ?_⟩
    rintro _ _ _ did ⟨⟩ ⟨⟩ -
    change (s.portfolio.portfolioCustodian (nextPortfolio ⟨1⟩ s)).getD ⟨1⟩ = ⟨1⟩
    rw [hfree]
    rfl
  refine ⟨hcustodian, ((custody_coherent_iff hs create).1 p ⟨2⟩).mpr hcustodian,
    ((custody_coherent_iff hs _).2.2.mpr hnext).1, fun hown => ?_⟩
  -- the portfolio would have been unclaimed
  have hcoherent : CustodyCoherent (step create s₀).portfolio :=
    (step_coherent_iff (reachableBy_coherent hs₀)).mpr (takesUnclaimed_createPortfolio 1 "a" s₀)
  have hunclaimed := (custody_coherent_iff hs₀ create).2.2.mp ⟨hcoherent, hown⟩
  have hone := hunclaimed.2 _ _ _ ⟨1⟩ rfl rfl (dispatch_of_ok hok)
  rw [hclaimed] at hone
  exact absurd hone (by decide)

/-- Custody of the first portfolio is taken before there is one. Then it is created for a third
identity: the second one still has it on record, while the third one is the custodian. Or it is
created by its owner, who does not have custody of it. -/
theorem custody_taken_before_creation :
    let p := PortfolioId.userPortfolio ⟨1⟩ ⟨1⟩
    let s := run step genesis
      [takeFirst, .calls 1 (.allowIdentityToCreatePortfolios ⟨3⟩),
        .calls 3 (.createCustodyPortfolio ⟨1⟩ "a")]
    let s' := run step genesis [takeFirst, .calls 1 (.createPortfolio "a")]
    s.portfolio.portfoliosInCustody ⟨2⟩ p = true ∧ s.portfolio.portfolioCustodian p = some ⟨3⟩ ∧
      s'.portfolio.portfolios ⟨1⟩ ⟨1⟩ = some "a" ∧ custodian p s' = ⟨2⟩ :=
  ⟨by decide +kernel, by decide +kernel, by decide +kernel, by decide +kernel⟩

end Polymesh
