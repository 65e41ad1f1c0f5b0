import Polymesh.Effects.Steps

/-!
# Ownership of tickers and assets

Who owns a ticker is stored three times: with its registration, with the asset that it may be the
ticker of, and in the relations of the identities. A ticker has a simple life. It is free, then
registered until its registration expires or it becomes an asset, and an asset for good. Every
call takes each ticker a step in this life and stores the three parts of its state, so that they
agree in every state of the chain.
-/

namespace Polymesh

open Transactional Tx Collections Relation
open Function (eq_update_iff update update_idem update_self)

/-! ## The life of a ticker -/

/-- The state of a ticker. -/
inductive TickerState
  | free
  | registered (registration : TickerRegistration)
  | asset (owner : IdentityId)

namespace TickerState

/-- Who may register the ticker, or create an asset for it. -/
def AvailableTo (did : IdentityId) (now : Moment) : TickerState → Prop
  | free => True
  | registered registration =>
    (∃ expiry ∈ registration.expiry, expiry < now) ∨ registration.owner = did
  | asset _ => False

/-- A step in the life of a ticker, at a given time. -/
inductive Next (now : Moment) : TickerState → TickerState → Prop
  | keep (st : TickerState) : Next now st st
  | register (st : TickerState) (did : IdentityId) (expiry : Option Moment) :
      st.AvailableTo did now → Next now st (registered ⟨did, expiry⟩)
  | transfer (registration : TickerRegistration) (did : IdentityId) :
      Next now (registered registration) (registered { registration with owner := did })
  | create (st : TickerState) (did : IdentityId) :
      st.AvailableTo did now → Next now st (asset did)
  | transferAsset (owner did : IdentityId) : Next now (asset owner) (asset did)

end TickerState

/-! ## What is stored of a ticker -/

/-- The parts of the storage that say who owns a ticker. -/
@[ext] structure StoredOwnership where
  registration : Option TickerRegistration
  assetOwner : Option IdentityId
  relation : IdentityId → AssetOwnershipRelation

/-- What is stored of a ticker. -/
def storedOwnership (a : AssetStorage) (t : Ticker) : StoredOwnership where
  registration := a.tickers t
  assetOwner := (a.tokens t).map SecurityToken.ownerDid
  relation := fun did => a.assetOwnershipRelations did t

/-- The relations of all identities to a ticker that only one of them owns. -/
def soleOwner (owner : IdentityId) (relation : AssetOwnershipRelation) :
    IdentityId → AssetOwnershipRelation :=
  update (fun _ => .notOwned) owner relation

/-- What is to be stored of a ticker in a given state. -/
def TickerState.stored : TickerState → StoredOwnership
  | free => ⟨none, none, fun _ => .notOwned⟩
  | registered registration =>
    ⟨some registration, none, soleOwner registration.owner .tickerOwned⟩
  | asset owner => ⟨some ⟨owner, none⟩, some owner, soleOwner owner .assetOwned⟩

namespace TickerState

variable {st : TickerState} {did : IdentityId}

theorem relation_ne_notOwned : st.stored.relation did ≠ .notOwned ↔
    ∃ registration, st.stored.registration = some registration ∧ did = registration.owner := by
  cases st with
  | free => simp [stored]
  | registered registration =>
    by_cases hdid : did = registration.owner <;> simp [stored, soleOwner, hdid]
  | asset owner => by_cases hdid : did = owner <;> simp [stored, soleOwner, hdid]

theorem relation_eq_assetOwned :
    st.stored.relation did = .assetOwned ↔ st.stored.assetOwner = some did := by
  cases st with
  | free => simp [stored]
  | registered registration =>
    by_cases hdid : did = registration.owner <;> simp [stored, soleOwner, hdid]
  | asset owner =>
    by_cases hdid : did = owner
    · simp [stored, soleOwner, hdid]
    · simp [stored, soleOwner, hdid, Ne.symm hdid]

theorem registration_of_assetOwner (h : st.stored.assetOwner = some did) :
    st.stored.registration = some ⟨did, none⟩ := by
  cases st with
  | free | registered registration => cases h
  | asset owner =>
    cases h
    rfl

end TickerState

namespace Asset

variable {did : IdentityId} {t : Ticker} {a : AssetStorage} {st : TickerState}

/-! ### Writes -/

theorem storedOwnership_setOwnership (did : IdentityId) (t : Ticker)
    (relation : AssetOwnershipRelation) (a : AssetStorage) :
    storedOwnership (setOwnership did t relation a) =
      update (storedOwnership a) t
        { storedOwnership a t with
          relation := update (storedOwnership a t).relation did relation } := by
  refine eq_update_iff.mpr ⟨StoredOwnership.ext rfl rfl ?_, fun t' ht => ?_⟩
  · funext did'
    simp [storedOwnership, setOwnership, update₂_apply, Function.update_apply]
  · simp [storedOwnership, setOwnership, update₂_apply, ht]

theorem storedOwnership_setTicker (t : Ticker) (registration : TickerRegistration)
    (a : AssetStorage) :
    storedOwnership (setTicker t registration a) =
      update (storedOwnership a) t
        { storedOwnership a t with registration := some registration } := by
  refine eq_update_iff.mpr ⟨?_, fun t' ht => ?_⟩
  · simp [storedOwnership, setTicker]
  · simp [storedOwnership, setTicker, ht]

theorem storedOwnership_setToken (t : Ticker) (token : SecurityToken) (a : AssetStorage) :
    storedOwnership (setToken t token a) =
      update (storedOwnership a) t
        { storedOwnership a t with assetOwner := some token.ownerDid } := by
  refine eq_update_iff.mpr ⟨?_, fun t' ht => ?_⟩
  · simp [storedOwnership, setToken]
  · simp [storedOwnership, setToken, ht]

theorem storedOwnership_clearExpiry (t : Ticker) (a : AssetStorage) :
    storedOwnership (clearExpiry t a) =
      update (storedOwnership a) t
        { storedOwnership a t with
          registration := (storedOwnership a t).registration.map fun registration =>
            { registration with expiry := none } } := by
  refine eq_update_iff.mpr ⟨?_, fun t' ht => ?_⟩
  · simp [storedOwnership, clearExpiry]
  · simp [storedOwnership, clearExpiry, ht]

theorem update_soleOwner (owner did : IdentityId) (relation relation' : AssetOwnershipRelation) :
    update (update (soleOwner owner relation) owner .notOwned) did relation' =
      soleOwner did relation' := by
  rw [soleOwner, update_idem, Function.update_eq_self_iff.mpr rfl, soleOwner]

theorem storedOwnership_unverifiedRegisterTicker (h : storedOwnership a t = st.stored)
    (hfresh : a.tokens t = none) (did : IdentityId) (expiry : Option Moment) :
    storedOwnership (unverifiedRegisterTicker t did expiry a) =
      update (storedOwnership a) t (TickerState.registered ⟨did, expiry⟩).stored := by
  have hticker : a.tickers t = st.stored.registration := congrArg StoredOwnership.registration h
  cases st with
  | free =>
    simp only [unverifiedRegisterTicker, hticker, TickerState.stored, storedOwnership_setOwnership,
      storedOwnership_setTicker, update_self, update_idem, h]
    rfl
  | registered registration =>
    simp only [unverifiedRegisterTicker, hticker, TickerState.stored, storedOwnership_setOwnership,
      storedOwnership_setTicker, update_self, update_idem, h, update_soleOwner]
  | asset owner =>
    have howner := congrArg StoredOwnership.assetOwner h
    simp [storedOwnership, hfresh, TickerState.stored] at howner

variable {registration : TickerRegistration} {token : SecurityToken}

theorem storedOwnership_transferTicker
    (h : storedOwnership a t = (TickerState.registered registration).stored) (did : IdentityId) :
    storedOwnership (transferTicker registration t did .tickerOwned a) =
      update (storedOwnership a) t
        (TickerState.registered { registration with owner := did }).stored := by
  simp only [transferTicker, storedOwnership_setOwnership, storedOwnership_setTicker,
    update_self, update_idem, h, TickerState.stored, update_soleOwner]

theorem storedOwnership_transferAsset {owner : IdentityId}
    (h : storedOwnership a t = (TickerState.asset owner).stored) (htoken : token.ownerDid = did) :
    storedOwnership (setToken t token (transferTicker ⟨owner, none⟩ t did .assetOwned a)) =
      update (storedOwnership a) t (TickerState.asset did).stored := by
  simp only [transferTicker, storedOwnership_setOwnership, storedOwnership_setTicker,
    storedOwnership_setToken, update_self, update_idem, h, TickerState.stored,
    update_soleOwner, htoken]

theorem storedOwnership_writeAsset_available (h : storedOwnership a t = st.stored)
    (hfresh : a.tokens t = none) (htoken : token.ownerDid = did) :
    storedOwnership (writeAsset t did true token a) =
      update (storedOwnership a) t (TickerState.asset did).stored := by
  simp only [writeAsset, if_true, storedOwnership_setOwnership, storedOwnership_setToken,
    storedOwnership_unverifiedRegisterTicker h hfresh, update_self, update_idem,
    TickerState.stored, soleOwner, htoken]

theorem storedOwnership_writeAsset_registered
    (h : storedOwnership a t = (TickerState.registered registration).stored)
    (htoken : token.ownerDid = registration.owner) :
    storedOwnership (writeAsset t registration.owner false token a) =
      update (storedOwnership a) t (TickerState.asset registration.owner).stored := by
  simp only [writeAsset, Bool.false_eq_true, if_false, storedOwnership_setOwnership,
    storedOwnership_setToken, storedOwnership_clearExpiry, update_self,
    update_idem, h, TickerState.stored, Option.map_some, soleOwner, htoken]

/-! ### Checks -/

theorem eq_registered (h : storedOwnership a t = st.stored) (hfresh : a.tokens t = none)
    (hticker : a.tickers t = some registration) :
    st = .registered registration := by
  have hregistration := congrArg StoredOwnership.registration h
  have howner := congrArg StoredOwnership.assetOwner h
  cases st <;> simp_all [storedOwnership, TickerState.stored]

theorem eq_asset (h : storedOwnership a t = st.stored) (htoken : a.tokens t = some token) :
    st = .asset token.ownerDid := by
  have howner := congrArg StoredOwnership.assetOwner h
  cases st <;> simp_all [storedOwnership, TickerState.stored]

variable {s : Storage}

theorem availableTo_of_ne (h : storedOwnership s.asset t = st.stored)
    (hfresh : s.asset.tokens t = none)
    (hstatus : isTickerAvailableOrRegisteredTo t did s ≠ .registeredByOther) :
    st.AvailableTo did s.system.now := by
  have hticker : s.asset.tickers t = st.stored.registration :=
    congrArg StoredOwnership.registration h
  cases st with
  | free => trivial
  | registered registration =>
    simp only [isTickerAvailableOrRegisteredTo, hticker, TickerState.stored] at hstatus
    split_ifs at hstatus with hexpired howner
    · exact .inl hexpired
    · exact .inr howner
    · exact absurd rfl hstatus
  | asset owner =>
    have howner := congrArg StoredOwnership.assetOwner h
    simp [storedOwnership, hfresh, TickerState.stored] at howner

end Asset

/-! ## Calls -/

/-- What is stored of every ticker is what some state of it says. -/
def TickersCoherent (a : AssetStorage) : Prop :=
  ∀ t, ∃ st : TickerState, storedOwnership a t = st.stored

/-- Every ticker has taken a step in its life. -/
def NextTickers (now : Moment) (a a' : AssetStorage) : Prop :=
  ∀ t, ∃ st st' : TickerState, storedOwnership a t = st.stored ∧
    storedOwnership a' t = st'.stored ∧ TickerState.Next now st st'

theorem NextTickers.coherent {now : Moment} {a a' : AssetStorage} (h : NextTickers now a a') :
    TickersCoherent a' := by
  intro t
  obtain ⟨_, st', -, hst', -⟩ := h t
  exact ⟨st', hst'⟩

namespace TickersCoherent

variable {now : Moment} {a a' : AssetStorage} {t : Ticker} {st st' : TickerState}

theorem next_of_eq (ha : TickersCoherent a) (h : storedOwnership a' = storedOwnership a) :
    NextTickers now a a' := by
  intro t
  obtain ⟨st, hst⟩ := ha t
  exact ⟨st, st, hst, h ▸ hst, .keep st⟩

theorem next_of_update (ha : TickersCoherent a) (hst : storedOwnership a t = st.stored)
    (h : storedOwnership a' = update (storedOwnership a) t st'.stored)
    (hnext : TickerState.Next now st st') : NextTickers now a a' := by
  intro t'
  by_cases ht : t' = t
  · subst ht
    exact ⟨st, st', hst, by rw [h, update_self], hnext⟩
  · obtain ⟨st₁, hst₁⟩ := ha t'
    exact ⟨st₁, st₁, hst₁, by rw [h, Function.update_of_ne ht, hst₁], .keep st₁⟩

end TickersCoherent

variable {ticker : Ticker} {s s' : Storage}

namespace Asset

variable {env : Env} {origin : RuntimeOrigin} {u : Unit}

theorem registerTicker_next (ha : TickersCoherent s.asset)
    (h : registerTicker env origin ticker s = (.ok u, s')) :
    NextTickers s.system.now s.asset s'.asset := by
  simp [registerTicker, tickerRegistrationChecks, ensureAssetFresh] at h
  obtain ⟨did, -, ⟨-, hfresh, -, hstatus⟩, -, rfl⟩ := h
  obtain ⟨st, hst⟩ := ha ticker
  exact ha.next_of_update hst (storedOwnership_unverifiedRegisterTicker hst hfresh did _)
    (.register st did _ (availableTo_of_ne hst hfresh hstatus))

variable {authId : ℕ}

theorem acceptTickerTransfer_next (ha : TickersCoherent s.asset)
    (h : acceptTickerTransfer env origin authId s = (.ok u, s')) :
    NextTickers s.system.now s.asset s'.asset := by
  simp [acceptTickerTransfer, ensureAssetFresh] at h
  obtain ⟨did, -, ticker, registration, -, hfresh, hticker, rfl⟩ := h
  obtain ⟨st, hst⟩ := ha ticker
  obtain rfl := eq_registered hst hfresh hticker
  exact ha.next_of_update hst (storedOwnership_transferTicker hst did)
    (.transfer registration did)

theorem acceptAssetOwnershipTransfer_next (ha : TickersCoherent s.asset)
    (h : acceptAssetOwnershipTransfer env origin authId s = (.ok u, s')) :
    NextTickers s.system.now s.asset s'.asset := by
  simp [acceptAssetOwnershipTransfer, tokenDetails] at h
  obtain ⟨did, -, authBy, ticker, -, token, htoken, -, registration, hticker, rfl⟩ := h
  obtain ⟨st, hst⟩ := ha ticker
  obtain rfl := eq_asset hst htoken
  -- the registration is that of the asset
  have hregistration := congrArg StoredOwnership.registration hst
  obtain rfl : registration = ⟨token.ownerDid, none⟩ := by
    simpa [storedOwnership, hticker, TickerState.stored] using hregistration
  exact ha.next_of_update hst (storedOwnership_transferAsset hst rfl)
    (.transferAsset token.ownerDid did)

theorem createAsset_next {divisible : Bool} {assetType : AssetType} (ha : TickersCoherent s.asset)
    (h : createAsset env origin ticker divisible assetType s = (.ok u, s')) :
    NextTickers s.system.now s.asset s'.asset := by
  obtain ⟨did, available, hfresh, hticker, -, rfl⟩ := createAsset_ok env origin h
  obtain ⟨st, hst⟩ := ha ticker
  have hstatus : isTickerAvailableOrRegisteredTo ticker did s ≠ .registeredByOther := by
    intro hother
    simp [ensureTickerForAsset, hother] at hticker
  have hnext := TickerState.Next.create st did (availableTo_of_ne hst hfresh hstatus)
  cases available with
  | true => exact ha.next_of_update hst (storedOwnership_writeAsset_available hst hfresh rfl) hnext
  | false =>
    obtain ⟨registration, hregistered, rfl⟩ := exists_registration_of_registeredByDid hticker
    obtain rfl := eq_registered hst hfresh hregistered
    exact ha.next_of_update hst (storedOwnership_writeAsset_registered hst rfl) hnext

end Asset

theorem NFT.createNftCollection_next {env : Env} {origin : RuntimeOrigin} {u : Unit}
    {hasNftType : Bool} {keys : List AssetMetadataKey} (ha : TickersCoherent s.asset)
    (h : createNftCollection env origin ticker hasNftType keys s = (.ok u, s')) :
    NextTickers s.system.now s.asset s'.asset := by
  obtain ⟨s₁, c, hcreate | rfl, -, -, rfl⟩ := createNftCollection_ok env origin h
  · show NextTickers s.system.now s.asset s₁.asset
    exact Asset.createAsset_next ha hcreate
  · exact ha.next_of_eq rfl

/-! ## Runs -/

theorem storedOwnership_eq_of_kept (h : Aspect.Kept .ownership s s') :
    storedOwnership s'.asset = storedOwnership s.asset := by
  obtain ⟨howners, htickers, hrelations⟩ := h
  funext t
  simp [storedOwnership, howners, htickers, hrelations]

/-- **Every step of the chain takes each ticker a step in its life.** -/
theorem step_nextTickers (a : Action) (hs : TickersCoherent s.asset) :
    NextTickers s.system.now s.asset (step a s).asset := by
  rcases step_kept_or_touches (r := .ownership) (by decide) (by decide) (by decide) (by decide) a s
    with hkept | ⟨env, origin, call, rfl, htouches, hstep⟩
  · exact hs.next_of_eq (storedOwnership_eq_of_kept hkept)
  · cases call with
    | registerTicker => exact Asset.registerTicker_next hs hstep
    | acceptTickerTransfer => exact Asset.acceptTickerTransfer_next hs hstep
    | acceptAssetOwnershipTransfer => exact Asset.acceptAssetOwnershipTransfer_next hs hstep
    | createAsset => exact Asset.createAsset_next hs hstep
    | createNftCollection => exact NFT.createNftCollection_next hs hstep
    | _ => simp [Call.touches] at htouches

theorem reachable_tickersCoherent (h : Reachable s) : TickersCoherent s.asset :=
  h.invariant (fun s => TickersCoherent s.asset) (fun _ => ⟨.free, rfl⟩) fun _ a hs =>
    (step_nextTickers a hs).coherent

/-- **The owners of tickers and assets agree.** In every state of the chain, at most one identity
is related to a ticker, namely the owner of its registration if there is one. It owns the asset if
there is one and the ticker otherwise. The ticker of an asset is registered without expiry to the
owner of the asset. -/
theorem ownership_coherent {s : Storage} (hs : Reachable s) (t : Ticker) :
    (∀ did did', s.asset.assetOwnershipRelations did t ≠ .notOwned →
      s.asset.assetOwnershipRelations did' t ≠ .notOwned → did = did') ∧
    (∀ did registration, s.asset.tickers t = some registration →
      (s.asset.assetOwnershipRelations did t ≠ .notOwned ↔ did = registration.owner)) ∧
    (∀ did, s.asset.tickers t = none → s.asset.assetOwnershipRelations did t = .notOwned) ∧
    ((∃ did, s.asset.assetOwnershipRelations did t = .assetOwned) ↔
      (s.asset.tokens t).isSome) ∧
    ∀ token, s.asset.tokens t = some token → ∃ registration,
      s.asset.tickers t = some registration ∧ token.ownerDid = registration.owner ∧
        registration.expiry = none := by
  obtain ⟨st, hst⟩ := reachable_tickersCoherent hs t
  have hticker : s.asset.tickers t = st.stored.registration :=
    congrArg StoredOwnership.registration hst
  have howner : (s.asset.tokens t).map SecurityToken.ownerDid = st.stored.assetOwner :=
    congrArg StoredOwnership.assetOwner hst
  have hrelation : ∀ did, s.asset.assetOwnershipRelations did t = st.stored.relation did :=
    congrFun (congrArg StoredOwnership.relation hst)
  simp only [hrelation, hticker, TickerState.relation_ne_notOwned,
    TickerState.relation_eq_assetOwned]
  refine ⟨?_, fun did registration hreg => ?_, fun did hnone => ?_, ?_, fun token htoken => ?_⟩
  · rintro did did' ⟨registration, hreg, rfl⟩ ⟨registration', hreg', rfl⟩
    rw [Option.some_inj.mp (hreg.symm.trans hreg')]
  · simp [hreg]
  · by_contra hne
    obtain ⟨registration, hreg, -⟩ := TickerState.relation_ne_notOwned.mp hne
    simp [hnone] at hreg
  · rw [← howner, ← Option.isSome_iff_exists, Option.isSome_map]
  · have hasset : st.stored.assetOwner = some token.ownerDid := by rw [← howner, htoken]; rfl
    exact ⟨_, TickerState.registration_of_assetOwner hasset, rfl, rfl⟩

/-- A registration expires, and somebody else registers the ticker and creates the asset. -/
theorem ownership_coherent_reregistered :
    let registered := TransitionSystem.run step genesis [.calls 1 (.registerTicker ⟨5⟩)]
    let s := TransitionSystem.run step genesis
      [.calls 1 (.registerTicker ⟨5⟩), .nextBlock 5184000001, .calls 2 (.registerTicker ⟨5⟩),
        .calls 2 (.createAsset ⟨5⟩ true .equityCommon)]
    (∀ did, registered.asset.assetOwnershipRelations did ⟨5⟩ ≠ .notOwned ↔ did = ⟨1⟩) ∧
      (∀ did, s.asset.assetOwnershipRelations did ⟨5⟩ ≠ .notOwned ↔ did = ⟨2⟩) ∧
      ∃ did, s.asset.assetOwnershipRelations did ⟨5⟩ = .assetOwned := by
  intro registered s
  have hregistered : Reachable registered := ⟨_, rfl⟩
  have hs : Reachable s := ⟨_, rfl⟩
  refine ⟨fun did => ?_, fun did => ?_, ?_⟩
  · exact (ownership_coherent hregistered ⟨5⟩).2.1 did ⟨⟨1⟩, some 5184000000⟩ (by rfl)
  · exact (ownership_coherent hs ⟨5⟩).2.1 did ⟨⟨2⟩, none⟩ (by rfl)
  · exact (ownership_coherent hs ⟨5⟩).2.2.2.1.mpr (by rfl)

end Polymesh
