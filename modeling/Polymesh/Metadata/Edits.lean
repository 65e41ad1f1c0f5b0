import Polymesh.Effects.Steps
import Polymesh.Pallets.AssetMetadata

/-!
# What calls do to the metadata

Every call that succeeds edits the metadata in a few ways, each after its own checks. The edits below
carry what has been checked, so that invariants are proved once for each edit.
-/

namespace Polymesh

open Transactional Tx Collections Registries Relation

namespace Metadata

/-! ## Edits -/

/-- One edit of the metadata or of the chain, with what has been checked before it. -/
inductive Edit : Storage → Storage → Prop
  | chain {s} (c : Polymesh.Storage) : SameCollections s.chain c → now s ≤ c.system.now →
      Edit s { s with chain := c }
  | newCollection {s} (t : Ticker) (c : NFTCollectionId) (keys : List AssetMetadataKey) :
      s.chain.nft.collectionTicker t = none →
      checkedInc s.chain.nft.nextCollectionId.id = some c.id →
      (∀ key ∈ keys, checkAssetMetadataKeyExists t key s) →
      Edit s { s with chain := s.chain.mapNFT (NFT.insertCollection t c keys) }
  | write {s} (t : Ticker) (key : AssetMetadataKey) (value : Option AssetMetadataValue)
      (detail : Option AssetMetadataValueDetail) :
      checkAssetMetadataKeyExists t key s → ¬ isAssetMetadataLocked t key s →
      (∀ d ∈ detail, d.isLocked (now s) → value.isSome) →
      Edit s (setValueDetails t key detail (setValue t key value s))
  | registerLocal {s} (t : Ticker) (name : AssetMetadataName) (spec : AssetMetadataSpec)
      (e : Error) (types : TypeStorage) : (s.localTypes t).register name spec e = .ok types →
      Edit s (setLocalTypes t types s)
  | registerGlobal {s} (name : AssetMetadataName) (spec : AssetMetadataSpec) (e : Error)
      (types : TypeStorage) : s.globalTypes.register name spec e = .ok types →
      Edit s { s with globalTypes := types }
  | removeKey {s} (t : Ticker) (key : KeyNumber) (name : AssetMetadataName) :
      (s.localTypes t).registry.keyToName key = some name →
      s.values t (.local key) = none → s.valueDetails t (.local key) = none →
      ¬ isCollectionKey t (.local key) s.chain →
      Edit s (setLocalTypes t ((s.localTypes t).remove name key) s)
  | nftMetadata {s} (c : NFTCollectionId) (nft : NFTId)
      (values : AssetMetadataKey → Option AssetMetadataValue) :
      (∀ key, (values key).isSome →
        key ∈ s.chain.nft.collectionKeys c ∨ (s.nftMetadata c nft key).isSome) →
      Edit s (setNftMetadata c nft values s)

/-- A sequence of edits. -/
abbrev Edits : Storage → Storage → Prop := ReflTransGen Edit

theorem update₂_eq_self {K L V : Type} [DecidableEq K] [DecidableEq L] (m : K → L → V) (k : K)
    (l : L) : update₂ m k l (m k l) = m := by
  unfold update₂
  rw [Function.update_eq_self, Function.update_eq_self]

variable {s : Storage} {t ticker : Ticker} {key : AssetMetadataKey}
  {detail : AssetMetadataValueDetail} {name : AssetMetadataName} {spec : AssetMetadataSpec}
  {hasNftType : Bool} {keys : List AssetMetadataKey} {c c' : Polymesh.Storage}
  {attributes : List (AssetMetadataKey × AssetMetadataValue)} {kind : PortfolioKind}

theorem Edit.writeValue (hkey : checkAssetMetadataKeyExists t key s)
    (hlock : ¬ isAssetMetadataLocked t key s) (value : AssetMetadataValue) :
    Edit s (setValue t key (some value) s) := by
  have hwrite := Edit.write t key (some value) (s.valueDetails t key) hkey hlock
    fun _ _ _ => rfl
  rwa [setValueDetails, show (setValue t key (some value) s).valueDetails = s.valueDetails from rfl,
    update₂_eq_self] at hwrite

theorem Edit.writeDetails (hkey : checkAssetMetadataKeyExists t key s)
    (hlock : ¬ isAssetMetadataLocked t key s)
    (hdetail : detail.isLocked (now s) → (s.values t key).isSome) :
    Edit s (setValueDetails t key (some detail) s) := by
  have hwrite := Edit.write t key (s.values t key) (some detail) hkey hlock
    fun d hd hd' => hdetail (Option.some.inj hd ▸ hd')
  rwa [setValue, update₂_eq_self] at hwrite

/-! ## Values and types -/

variable {env : Env} {origin : RuntimeOrigin} {s' : Storage} {u : Unit}

theorem unverifiedSetAssetMetadata_edit {value : AssetMetadataValue}
    {detail : Option AssetMetadataValueDetail}
    (h : unverifiedSetAssetMetadata t key value detail s = (.ok u, s')) : Edit s s' := by
  simp only [unverifiedSetAssetMetadata, run_ok, onlyIf_modify_ok] at h
  obtain ⟨_, -, hkey, hlock, rfl⟩ := h
  cases detail with
  | none => exact .writeValue hkey hlock value
  | some d => exact .write t key (some value) (some d) hkey hlock fun _ _ _ => rfl

theorem unverifiedRegisterAssetMetadataLocalType_edit
    (h : unverifiedRegisterAssetMetadataLocalType t name spec s = (.ok key, s')) : Edit s s' := by
  simp only [unverifiedRegisterAssetMetadataLocalType, bind_ok, read_ok, modify_ok] at h
  obtain ⟨_, _, ⟨-, rfl⟩, _, _, ⟨-, rfl⟩, types, _, ⟨htypes, rfl⟩, _, _, rfl, h⟩ := h
  obtain ⟨-, rfl⟩ := pure_ok.mp h
  exact .registerLocal t name spec _ types htypes

theorem setAssetMetadataDetails_edit
    (h : setAssetMetadataDetails env origin t key detail s = (.ok u, s')) : Edit s s' := by
  simp only [setAssetMetadataDetails, run_ok] at h
  obtain ⟨_, -, hkey, hlock, hdetail, rfl⟩ := h
  exact .writeDetails hkey hlock hdetail

theorem removeMetadataValue_edit (h : removeMetadataValue env origin t key s = (.ok u, s')) :
    Edit s s' := by
  simp only [removeMetadataValue, run_ok] at h
  obtain ⟨_, -, hkey, hlock, rfl⟩ := h
  exact .write t key none none hkey hlock (by simp)

theorem registerAssetMetadataGlobalType_edit
    (h : registerAssetMetadataGlobalType origin name spec s = (.ok u, s')) : Edit s s' := by
  simp only [registerAssetMetadataGlobalType, run_ok] at h
  obtain ⟨_, -, _, -, -, types, htypes, rfl⟩ := h
  exact .registerGlobal name spec _ types htypes

theorem removeLocalMetadataKey_edits {key : KeyNumber}
    (h : removeLocalMetadataKey env origin t key s = (.ok u, s')) : Edits s s' := by
  simp only [removeLocalMetadataKey, run_ok, okOr_eq_ok] at h
  obtain ⟨_, -, name, hname, hlock, hcollection, rfl⟩ := h
  have hkey : checkAssetMetadataKeyExists t (.local key) s := by
    simp [checkAssetMetadataKeyExists, nameOf, hname]
  have hwrite := Edit.write t (.local key) none none hkey hlock (by simp)
  refine .tail (.single hwrite) (.removeKey t key name hname ?_ ?_ hcollection)
  · exact update₂_self _ _ _ _
  · exact update₂_self _ _ _ _

/-! ## Collections -/

@[simp] theorem nameOf_chain (t : Ticker) (key : AssetMetadataKey) (s : Storage)
    (c : Polymesh.Storage) : nameOf t key { s with chain := c } = nameOf t key s := by
  cases key <;> rfl

theorem createNftCollection_registered
    (h : NFT.createNftCollection env origin ticker hasNftType keys c = (.ok u, c')) :
    ∀ key ∈ keys, env.checkAssetMetadataKeyExists c ticker key := by
  simp only [NFT.createNftCollection, run_ok] at h
  obtain ⟨_, -, -, -, -, hkeys, -⟩ := h
  exact hkeys

theorem createNftCollection_edits
    (h : createNftCollection env origin ticker hasNftType keys s = (.ok u, s')) : Edits s s' := by
  simp only [createNftCollection, run_ok, onChain_ok] at h
  obtain ⟨c', h, rfl⟩ := h
  have hkeys := createNftCollection_registered h
  obtain ⟨c₁, id, hcreate, hnone, hid, rfl⟩ := NFT.createNftCollection_ok _ _ h
  -- creating the asset leaves the collections and the clock as they are
  obtain ⟨hnft, hsystem⟩ : c₁.nft = s.chain.nft ∧ c₁.system = s.chain.system := by
    rcases hcreate with hcreate | rfl
    · obtain ⟨hmove, hnft⟩ :=
        Asset.createAsset_movement _ _ (Footprint.notMem_any .ownership) hcreate
      exact ⟨hnft, hmove.sameRecords.system⟩
    · exact ⟨rfl, rfl⟩
  have hchain : Edit s { s with chain := c₁ } :=
    .chain c₁ ⟨by rw [hnft], by rw [hnft], by rw [hnft]⟩ (by rw [now, hsystem])
  refine .tail (.single hchain) (.newCollection ticker ⟨id⟩ keys (hnft ▸ hnone) hid ?_)
  intro key hkey
  rw [checkAssetMetadataKeyExists, nameOf_chain]
  exact hkeys key hkey

theorem attributeValues_isSome (h : (attributeValues attributes key).isSome) :
    key ∈ attributes.map Prod.fst := by
  rw [attributeValues, Option.isSome_map, List.find?_isSome] at h
  obtain ⟨x, hmem, hkey⟩ := h
  exact List.mem_map.mpr ⟨x, hmem, of_decide_eq_true hkey⟩

theorem issueNft_edits (h : issueNft env origin ticker attributes kind s = (.ok u, s')) :
    Edits s s' := by
  simp only [issueNft, run_ok, bind_ok, onChain_ok, ofChain_eq_ok, NFT.collectionOf, okOr_eq_ok] at h
  obtain ⟨_, _, ⟨c, h, rfl⟩, _, _, ⟨rfl, rfl⟩, id, _, ⟨hid, rfl⟩, rfl⟩ := h
  simp [NFT.issueNft, NFT.collectionOf, NFT.ensureMetadataAttributes] at h
  obtain ⟨id', hid', _, -, -, ⟨-, -, hkeys⟩, -, -, _, -, hc⟩ := h
  have hchain : Edit s { s with chain := c } := hc ▸ .chain _ ⟨rfl, rfl, rfl⟩ le_rfl
  subst hc
  refine .tail (.single hchain) (.nftMetadata id _ _ fun key hkey => ?_)
  obtain rfl : id' = id := Option.some.inj (hid'.symm.trans hid)
  rw [Option.isSome_or, Bool.or_eq_true] at hkey
  refine hkey.imp_left fun hkey => ?_
  obtain ⟨⟨key, value⟩, hmem, rfl⟩ := List.mem_map.mp (attributeValues_isSome hkey)
  exact hkeys key value hmem

theorem redeemNft_edits {nft : NFTId} (h : redeemNft env origin ticker nft kind s = (.ok u, s')) :
    Edits s s' := by
  simp only [redeemNft, run_ok, bind_ok, onChain_ok] at h
  obtain ⟨id, _, ⟨-, rfl⟩, _, _, ⟨c, h, rfl⟩, rfl⟩ := h
  obtain ⟨_, -, -, hc⟩ := NFT.redeemNft_ok h
  have hchain : Edit s { s with chain := c } := by
    rw [hc]
    exact .chain _ ⟨rfl, rfl, rfl⟩ le_rfl
  refine .tail (.single hchain) (.nftMetadata id nft _ fun _ hkey => ?_)
  cases hkey

/-! ## Steps -/

/-- **A call that succeeds is a sequence of edits.** -/
theorem dispatch_edits {call : Call} (h : dispatch env origin call s = (.ok u, s')) :
    Edits s s' := by
  cases call with
  | setAssetMetadata t key value detail =>
    obtain ⟨_, _, hperms, h⟩ := bind_ok.mp h
    obtain ⟨-, rfl⟩ := read_ok.mp hperms
    exact .single (unverifiedSetAssetMetadata_edit h)
  | setAssetMetadataDetails t key detail => exact .single (setAssetMetadataDetails_edit h)
  | removeMetadataValue t key => exact .single (removeMetadataValue_edit h)
  | registerAssetMetadataLocalType t name spec =>
    obtain ⟨_, _, hperms, h⟩ := bind_ok.mp h
    obtain ⟨-, rfl⟩ := read_ok.mp hperms
    obtain ⟨_, _, hregister, h⟩ := bind_ok.mp h
    obtain ⟨-, rfl⟩ := pure_ok.mp h
    exact .single (unverifiedRegisterAssetMetadataLocalType_edit hregister)
  | registerAndSetLocalAssetMetadata t name spec value detail =>
    obtain ⟨_, _, hperms, h⟩ := bind_ok.mp h
    obtain ⟨-, rfl⟩ := read_ok.mp hperms
    obtain ⟨_, _, hregister, h⟩ := bind_ok.mp h
    exact .tail (.single (unverifiedRegisterAssetMetadataLocalType_edit hregister))
      (unverifiedSetAssetMetadata_edit h)
  | registerAssetMetadataGlobalType name spec =>
    exact .single (registerAssetMetadataGlobalType_edit h)
  | removeLocalMetadataKey t key => exact removeLocalMetadataKey_edits h
  | createNftCollection t hasNftType keys => exact createNftCollection_edits h
  | issueNft t attributes kind => exact issueNft_edits h
  | redeemNft t nft kind => exact redeemNft_edits h

/-- **Whatever happens next is a sequence of edits.** -/
theorem step_edits (a : Action) (s : Storage) : Edits s (step a s) := by
  cases a with
  | extrinsic env origin call =>
    rcases (Atomic.transaction (dispatch env origin call)).run_cases s with ⟨u, hs⟩ | ⟨e, hs⟩
    · rw [step, hs]
      exact dispatch_edits (transaction_ok.mp hs)
    · rw [step, hs]
  | other call =>
    exact .single (.chain _ (call.collections s.chain) (call.clock s.chain).ge)
  | nextBlock elapsed =>
    exact .single (.chain _ ⟨rfl, rfl, rfl⟩ (Nat.le_add_right _ _))

theorem step_invariant {I : Storage → Prop} (hedit : ∀ s s', Edit s s' → I s → I s') (a : Action)
    (hs : I s) : I (step a s) := by
  have hedits := step_edits a s
  generalize step a s = s' at hedits
  induction hedits with
  | refl => exact hs
  | tail _ hlast ih => exact hedit _ _ hlast ih

end Metadata

end Polymesh
