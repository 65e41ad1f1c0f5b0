import Polymesh.Metadata.Edits

/-!
# The coherence of the metadata

The types of metadata are found by name and by key, their keys are listed in collections, and values
are stored under them. All of that is edited separately, and stays coherent: nothing is stored under a
key without a type, and a key that is listed in a collection keeps its type. The number of a type that was
removed is not given again, so what is said about a key is always said about the same type.

A value that is locked stays as it is, and is there to begin with, since a lock is refused where there
is no value.
-/

namespace Polymesh

open Transactional Tx Collections Registries Relation TransitionSystem
open Function (update update_of_ne update_self)

namespace Metadata

/-! ## The types of one asset -/

variable {k : KeyNumber} {d : AssetMetadataValueDetail} {c : NFTCollectionId}

namespace TypeStorage

variable {types types' : TypeStorage} {name : AssetMetadataName} {spec : AssetMetadataSpec}
  {e : Error} {key : KeyNumber}

structure Sound (types : TypeStorage) : Prop where
  coherent : types.registry.Coherent
  /-- Keys are counted up to the last one that was given. -/
  issued : ∀ key, (types.registry.keyToName key).isSome → key ≤ types.nextKey

/-- The numbers that were given have the same names, or none any more. -/
structure Later (types types' : TypeStorage) : Prop where
  nextKey : types.nextKey ≤ types'.nextKey
  names : ∀ key ≤ types.nextKey, types'.registry.keyToName key = types.registry.keyToName key ∨
    types'.registry.keyToName key = none

theorem Later.refl (types : TypeStorage) : types.Later types := ⟨le_rfl, fun _ _ => .inl rfl⟩

theorem Later.trans {types'' : TypeStorage} (h : types.Later types') (h' : types'.Later types'') :
    types.Later types'' where
  nextKey := h.nextKey.trans h'.nextKey
  names key hkey := by
    rcases h'.names key (hkey.trans h.nextKey) with heq | hnone
    · rw [heq]
      exact h.names key hkey
    · exact .inr hnone

theorem register_eq_ok : types.register name spec e = .ok types' ↔
    types.registry.nameToKey name = none ∧ ∃ key, checkedInc types.nextKey = some key ∧
      types' = ⟨types.registry.insert name key spec, key⟩ := by
  simp only [register, except_bind_eq_ok, ensure_eq_ok, okOr_eq_ok, except_pure_eq_ok]
  constructor
  · rintro ⟨-, hname, key, hkey, rfl⟩
    exact ⟨hname, key, hkey, rfl⟩
  · rintro ⟨hname, key, hkey, rfl⟩
    exact ⟨(), hname, key, hkey, rfl⟩

theorem lt_of_checkedInc {i : KeyNumber} (h : checkedInc i = some key) : i < key := by
  have hval := checkedInc_val h
  exact Fin.lt_def.mpr (by omega)

theorem Sound.fresh (h : types.Sound) (hkey : checkedInc types.nextKey = some key) :
    types.registry.keyToName key = none := by
  by_contra hsome
  have hle := h.issued key (Option.isSome_iff_ne_none.mpr hsome)
  exact absurd (lt_of_checkedInc hkey) (not_lt.mpr hle)

theorem Sound.register (h : types.Sound) (hregister : types.register name spec e = .ok types') :
    types'.Sound := by
  obtain ⟨hname, key, hkey, rfl⟩ := register_eq_ok.mp hregister
  refine ⟨h.coherent.insert hname (h.fresh hkey) spec, fun k hk => ?_⟩
  by_cases hne : k = key
  · exact hne.le
  · rw [Registry.insert_keyToName_of_ne hne] at hk
    exact (h.issued k hk).trans (lt_of_checkedInc hkey).le

theorem Sound.register_later (hregister : types.register name spec e = .ok types') :
    types.Later types' := by
  obtain ⟨-, key, hkey, rfl⟩ := register_eq_ok.mp hregister
  have hlt := lt_of_checkedInc hkey
  exact ⟨hlt.le, fun k hk =>
    .inl (Registry.insert_keyToName_of_ne (hk.trans_lt hlt).ne name spec)⟩

theorem Sound.register_keyToName (h : types.Sound)
    (hregister : types.register name spec e = .ok types')
    (hk : (types.registry.keyToName k).isSome) :
    types'.registry.keyToName k = types.registry.keyToName k := by
  obtain ⟨-, key, hkey, rfl⟩ := register_eq_ok.mp hregister
  exact Registry.insert_keyToName_of_ne
    ((h.issued k hk).trans_lt (lt_of_checkedInc hkey)).ne name spec

theorem Sound.remove (h : types.Sound) (hkey : types.registry.keyToName key = some name) :
    (types.remove name key).Sound := by
  refine ⟨h.coherent.erase hkey, fun k hk => h.issued k ?_⟩
  by_cases hne : k = key
  · rw [hne, hkey]
    rfl
  · rwa [TypeStorage.remove, Registry.erase_keyToName_of_ne hne] at hk

theorem remove_later (types : TypeStorage) (name : AssetMetadataName) (key : KeyNumber) :
    types.Later (types.remove name key) := by
  refine ⟨le_rfl, fun k _ => ?_⟩
  by_cases hne : k = key
  · exact .inr (hne ▸ Registry.erase_keyToName_self name key)
  · exact .inl (Registry.erase_keyToName_of_ne hne name)

end TypeStorage

/-! ## What edits do to names, values, collections and the clock -/

theorem AssetMetadataValueDetail.isLocked_of_le {now now' : Moment} (h : now ≤ now')
    (hlocked : d.isLocked now') : d.isLocked now := by
  unfold isLocked AssetMetadataLockStatus.isLocked at *
  split
  · simp_all
  · rfl
  · next until_ heq =>
    rw [heq] at hlocked
    simp only [decide_eq_true_eq] at hlocked ⊢
    exact h.trans_lt hlocked

variable {s s' : Storage} {t : Ticker} {key : AssetMetadataKey}

theorem isAssetMetadataLocked_iff : isAssetMetadataLocked t key s ↔
    ∃ d, s.valueDetails t key = some d ∧ d.isLocked (now s) := by
  simp [isAssetMetadataLocked, Option.any_eq_true]

/-- Nothing in the metadata or in the collections refers to the key. -/
structure Unused (t : Ticker) (key : AssetMetadataKey) (s : Storage) : Prop where
  values : s.values t key = none
  details : s.valueDetails t key = none
  collections : ¬ isCollectionKey t key s.chain

theorem nameOf_setLocalTypes_of_ne {t' : Ticker} (h : t' ≠ t) (types : TypeStorage) :
    nameOf t' key (setLocalTypes t types s) = nameOf t' key s := by
  cases key with
  | global k => rfl
  | «local» k => simp [nameOf, setLocalTypes, h]

@[simp] theorem nameOf_setLocalTypes_local (k : KeyNumber) (types : TypeStorage) :
    nameOf t (.local k) (setLocalTypes t types s) = types.registry.keyToName k := by
  simp [nameOf, setLocalTypes]

/-- **A key keeps its name, or nothing uses it and its type is removed.** -/
theorem Edit.nameOf (h : Edit s s') (hlocal : ∀ t, (s.localTypes t).Sound)
    (hglobal : s.globalTypes.Sound) (hkey : (nameOf t key s).isSome) :
    Metadata.nameOf t key s' = Metadata.nameOf t key s ∨ Unused t key s' := by
  cases h with
  | registerLocal t' name spec e types hregister =>
    refine .inl ?_
    by_cases ht : t = t'
    · subst ht
      cases key with
      | global k => rfl
      | «local» k =>
        rw [nameOf_setLocalTypes_local]
        exact (hlocal t).register_keyToName hregister hkey
    · exact nameOf_setLocalTypes_of_ne ht types
  | registerGlobal name spec e types hregister =>
    refine .inl ?_
    cases key with
    | global k => exact hglobal.register_keyToName hregister hkey
    | «local» k => rfl
  | removeKey t' k name hname hvalue hdetail hcollection =>
    by_cases hsame : t = t' ∧ key = .local k
    · obtain ⟨rfl, rfl⟩ := hsame
      exact .inr ⟨hvalue, hdetail, hcollection⟩
    · refine .inl ?_
      by_cases ht : t = t'
      · subst ht
        cases key with
        | global _ => rfl
        | «local» k' =>
          rw [nameOf_setLocalTypes_local]
          exact Registry.erase_keyToName_of_ne (fun hk => hsame ⟨rfl, congrArg _ hk⟩) name
      · exact nameOf_setLocalTypes_of_ne ht _
  | _ =>
    refine .inl ?_
    cases key <;> rfl

/-- **A value and its details stay, or the value was not locked** and the new one is there if it is
locked now. -/
theorem Edit.values (h : Edit s s') (t : Ticker) (key : AssetMetadataKey) :
    (s'.values t key = s.values t key ∧ s'.valueDetails t key = s.valueDetails t key) ∨
      (Metadata.nameOf t key s).isSome ∧ (Metadata.nameOf t key s').isSome ∧
        ¬ isAssetMetadataLocked t key s ∧
        (isAssetMetadataLocked t key s' → (s'.values t key).isSome) := by
  cases h with
  | write t' key' value detail hkey hlock hdetail =>
    by_cases hsame : t = t' ∧ key = key'
    · obtain ⟨rfl, rfl⟩ := hsame
      refine .inr ⟨hkey, ?_, hlock, fun hlocked => ?_⟩
      · cases key <;> exact hkey
      · obtain ⟨d, hd, hd'⟩ := isAssetMetadataLocked_iff.mp hlocked
        simp only [setValueDetails, update₂_self] at hd
        simp only [setValueDetails, setValue, update₂_self]
        exact hdetail d hd hd'
    · exact .inl ⟨(update₂_apply ..).trans (if_neg hsame),
        (update₂_apply ..).trans (if_neg hsame)⟩
  | _ => exact .inl ⟨rfl, rfl⟩

theorem Edit.now_le (h : Edit s s') : now s ≤ now s' := by
  cases h with
  | chain c hsame hnow => exact hnow
  | _ => exact le_rfl

theorem Edit.collections (h : Edit s s') : SameCollections s.chain s'.chain ∨
    ∃ t c keys, s.chain.nft.collectionTicker t = none ∧
      checkedInc s.chain.nft.nextCollectionId.id = some c.id ∧
      (∀ key ∈ keys, (Metadata.nameOf t key s).isSome) ∧
      s' = { s with chain := s.chain.mapNFT (NFT.insertCollection t c keys) } := by
  cases h with
  | chain c hsame hnow => exact .inl hsame
  | newCollection t c keys hnone hid hkeys => exact .inr ⟨t, c, keys, hnone, hid, hkeys, rfl⟩
  | _ => exact .inl ⟨rfl, rfl, rfl⟩

theorem Edit.localTypes (h : Edit s s') (t : Ticker) : s'.localTypes t = s.localTypes t ∨
    (∃ name spec e, (s.localTypes t).register name spec e = .ok (s'.localTypes t)) ∨
    ∃ key name, (s.localTypes t).registry.keyToName key = some name ∧
      s'.localTypes t = (s.localTypes t).remove name key := by
  cases h with
  | registerLocal t' name spec e types hregister =>
    by_cases ht : t = t'
    · subst ht
      simp only [setLocalTypes, update_self]
      exact .inr (.inl ⟨name, spec, e, hregister⟩)
    · exact .inl (update_of_ne ht _ _)
  | removeKey t' k name hname =>
    by_cases ht : t = t'
    · subst ht
      exact .inr (.inr ⟨k, name, hname, update_self ..⟩)
    · exact .inl (update_of_ne ht _ _)
  | _ => exact .inl rfl

theorem Edit.globalTypes (h : Edit s s') : s'.globalTypes = s.globalTypes ∨
    ∃ name spec e, s.globalTypes.register name spec e = .ok s'.globalTypes := by
  cases h with
  | registerGlobal name spec e types hregister => exact .inr ⟨name, spec, e, hregister⟩
  | _ => exact .inl rfl

theorem Edit.nftMetadata_isSome (h : Edit s s') {nft : NFTId}
    (hsome : (s'.nftMetadata c nft key).isSome) :
    (s.nftMetadata c nft key).isSome ∨ key ∈ s.chain.nft.collectionKeys c := by
  cases h with
  | nftMetadata c' nft' values hvalues =>
    simp only [setNftMetadata, update₂_apply] at hsome
    split at hsome
    · next hsame =>
      obtain ⟨rfl, rfl⟩ := hsame
      exact (hvalues key hsome).symm
    · exact .inl hsome
  | _ => exact .inl hsome

/-! ## The invariant -/

/-- Collections are numbered in order, each belongs to one asset, and its keys have types. -/
structure CollectionsSound (s : Storage) : Prop where
  issued : ∀ t c, s.chain.nft.collectionTicker t = some c →
    c.id ≤ s.chain.nft.nextCollectionId.id
  distinct : ∀ t t' c, s.chain.nft.collectionTicker t = some c →
    s.chain.nft.collectionTicker t' = some c → t' = t
  owned : ∀ c, ∀ key ∈ s.chain.nft.collectionKeys c, ∃ t, s.chain.nft.collectionTicker t = some c
  registered : ∀ t c, s.chain.nft.collectionTicker t = some c →
    ∀ key ∈ s.chain.nft.collectionKeys c, (nameOf t key s).isSome
  nftMetadata : ∀ c nft key, (s.nftMetadata c nft key).isSome →
    key ∈ s.chain.nft.collectionKeys c

structure Sound (s : Storage) : Prop where
  localTypes : ∀ t, (s.localTypes t).Sound
  globalTypes : s.globalTypes.Sound
  values : ∀ t key, (s.values t key).isSome → (nameOf t key s).isSome
  details : ∀ t key, (s.valueDetails t key).isSome → (nameOf t key s).isSome
  locked : ∀ t key, isAssetMetadataLocked t key s → (s.values t key).isSome
  collections : CollectionsSound s

theorem sound_genesis : Sound genesis where
  localTypes _ := ⟨Registry.coherent_empty, nofun⟩
  globalTypes := ⟨Registry.coherent_empty, nofun⟩
  values := nofun
  details := nofun
  locked := nofun
  collections := ⟨nofun, nofun, nofun, nofun, nofun⟩

theorem Sound.nameOf_isSome (hs : Sound s) (h : Edit s s') (hkey : (nameOf t key s).isSome)
    (hused : ¬ Unused t key s') : (nameOf t key s').isSome := by
  rcases h.nameOf hs.localTypes hs.globalTypes hkey with heq | hunused
  · rwa [heq]
  · exact absurd hunused hused

theorem Sound.values_edit (hs : Sound s) (h : Edit s s') (t : Ticker) (key : AssetMetadataKey)
    (hsome : (s'.values t key).isSome) : (nameOf t key s').isSome := by
  rcases h.values t key with ⟨hvalue, -⟩ | ⟨-, hkey, -⟩
  · refine hs.nameOf_isSome h (hs.values t key (hvalue ▸ hsome)) fun hunused => ?_
    rw [hunused.values] at hsome
    cases hsome
  · exact hkey

theorem Sound.details_edit (hs : Sound s) (h : Edit s s') (t : Ticker) (key : AssetMetadataKey)
    (hsome : (s'.valueDetails t key).isSome) : (nameOf t key s').isSome := by
  rcases h.values t key with ⟨-, hdetail⟩ | ⟨-, hkey, -⟩
  · refine hs.nameOf_isSome h (hs.details t key (hdetail ▸ hsome)) fun hunused => ?_
    rw [hunused.details] at hsome
    cases hsome
  · exact hkey

/-- A lock that is there after an edit was there before it, or came with a value. -/
theorem Sound.locked_edit (hs : Sound s) (h : Edit s s') (t : Ticker) (key : AssetMetadataKey)
    (hlocked : isAssetMetadataLocked t key s') : (s'.values t key).isSome := by
  rcases h.values t key with ⟨hvalue, hdetail⟩ | ⟨-, -, -, hsome⟩
  · obtain ⟨d, hd, hd'⟩ := isAssetMetadataLocked_iff.mp hlocked
    rw [hvalue]
    exact hs.locked t key (isAssetMetadataLocked_iff.mpr
      ⟨d, hdetail ▸ hd, AssetMetadataValueDetail.isLocked_of_le h.now_le hd'⟩)
  · exact hsome hlocked

theorem isCollectionKey_of_mem {chain : Polymesh.Storage}
    (hc : chain.nft.collectionTicker t = some c) (hkey : key ∈ chain.nft.collectionKeys c) :
    isCollectionKey t key chain := by
  simp [isCollectionKey, hc, hkey]

theorem CollectionsSound.same (hs : Sound s) (h : Edit s s')
    (hsame : SameCollections s.chain s'.chain) : CollectionsSound s' := by
  obtain ⟨hticker, hkeys, hnext⟩ := hsame
  have hc := hs.collections
  constructor
  · intro t c ht
    rw [hticker] at ht
    rw [hnext]
    exact hc.issued t c ht
  · intro t t' c ht ht'
    rw [hticker] at ht ht'
    exact hc.distinct t t' c ht ht'
  · intro c key hkey
    rw [hkeys] at hkey
    rw [hticker]
    exact hc.owned c key hkey
  · intro t c ht key hkey
    have hcollection := isCollectionKey_of_mem ht hkey
    rw [hticker] at ht
    rw [hkeys] at hkey
    exact hs.nameOf_isSome h (hc.registered t c ht key hkey) fun hunused =>
      hunused.collections hcollection
  · intro c nft key hsome
    rw [hkeys]
    rcases h.nftMetadata_isSome hsome with hsome | hkey
    · exact hc.nftMetadata c nft key hsome
    · exact hkey

theorem CollectionsSound.fresh (hc : CollectionsSound s)
    (hid : checkedInc s.chain.nft.nextCollectionId.id = some c.id) (t : Ticker) :
    s.chain.nft.collectionTicker t ≠ some c := by
  intro ht
  have hle := Fin.le_def.mp (hc.issued t c ht)
  have hval := checkedInc_val hid
  omega

theorem CollectionsSound.insert (hc : CollectionsSound s) {keys : List AssetMetadataKey}
    (hnone : s.chain.nft.collectionTicker t = none)
    (hid : checkedInc s.chain.nft.nextCollectionId.id = some c.id)
    (hkeys : ∀ key ∈ keys, (nameOf t key s).isSome) :
    CollectionsSound { s with chain := s.chain.mapNFT (NFT.insertCollection t c keys) } := by
  have hle : s.chain.nft.nextCollectionId.id ≤ c.id := by
    have hval := checkedInc_val hid
    exact Fin.le_def.mpr (by omega)
  -- the asset and the number of a collection are both new, or both old
  have hticker : ∀ t' c', update s.chain.nft.collectionTicker t (some c) t' = some c' ↔
      t' = t ∧ c' = c ∨ c' ≠ c ∧ s.chain.nft.collectionTicker t' = some c' := by
    intro t' c'
    by_cases ht : t' = t
    · subst ht
      simp [hnone, eq_comm]
    · simp only [update_of_ne ht, ht, false_and, false_or]
      exact ⟨fun h => ⟨fun heq => hc.fresh hid t' (heq ▸ h), h⟩, And.right⟩
  have hkeysOf : ∀ c' ≠ c, update s.chain.nft.collectionKeys c keys c' =
      s.chain.nft.collectionKeys c' := fun c' hne => update_of_ne hne _ _
  have hlist : ∀ c' key, key ∈ update s.chain.nft.collectionKeys c keys c' →
      c' = c ∧ key ∈ keys ∨ c' ≠ c ∧ key ∈ s.chain.nft.collectionKeys c' := by
    intro c' key hkey
    by_cases heq : c' = c
    · subst heq
      rw [update_self] at hkey
      exact .inl ⟨rfl, hkey⟩
    · rw [hkeysOf c' heq] at hkey
      exact .inr ⟨heq, hkey⟩
  constructor
  · intro t' c' h
    rcases (hticker t' c').mp h with ⟨-, rfl⟩ | ⟨-, hold⟩
    · exact le_rfl
    · exact (hc.issued t' c' hold).trans hle
  · intro t₁ t₂ c' h₁ h₂
    rcases (hticker t₁ c').mp h₁ with ⟨rfl, rfl⟩ | ⟨hne, hold₁⟩ <;>
      rcases (hticker t₂ _).mp h₂ with ⟨rfl, heq⟩ | ⟨hne', hold₂⟩
    · rfl
    · exact absurd rfl hne'
    · exact absurd heq hne
    · exact hc.distinct t₁ t₂ c' hold₁ hold₂
  · intro c' key hkey
    rcases hlist c' key hkey with ⟨rfl, -⟩ | ⟨hne, hold⟩
    · exact ⟨t, (hticker t c').mpr (.inl ⟨rfl, rfl⟩)⟩
    · obtain ⟨t', ht'⟩ := hc.owned c' key hold
      exact ⟨t', (hticker t' c').mpr (.inr ⟨hne, ht'⟩)⟩
  · intro t' c' h key hkey
    rw [nameOf_chain]
    rcases (hticker t' c').mp h with ⟨rfl, rfl⟩ | ⟨hne, hold⟩
    · rcases hlist c' key hkey with ⟨-, hnew⟩ | ⟨hne, -⟩
      · exact hkeys key hnew
      · exact absurd rfl hne
    · rcases hlist c' key hkey with ⟨heq, -⟩ | ⟨-, hkey⟩
      · exact absurd heq hne
      · exact hc.registered t' c' hold key hkey
  · intro c' nft key hsome
    have hold := hc.nftMetadata c' nft key hsome
    obtain ⟨t', ht'⟩ := hc.owned c' key hold
    -- a new collection has no tokens yet
    have hne : c' ≠ c := fun heq => hc.fresh hid t' (heq ▸ ht')
    show key ∈ update s.chain.nft.collectionKeys c keys c'
    rw [hkeysOf c' hne]
    exact hold

/-- **Every edit keeps the invariant.** -/
theorem Sound.edit (h : Edit s s') (hs : Sound s) : Sound s' where
  localTypes t := by
    rcases h.localTypes t with heq | ⟨name, spec, e, hregister⟩ | ⟨key, name, hname, heq⟩
    · exact heq ▸ hs.localTypes t
    · exact (hs.localTypes t).register hregister
    · exact heq ▸ (hs.localTypes t).remove hname
  globalTypes := by
    rcases h.globalTypes with heq | ⟨name, spec, e, hregister⟩
    · exact heq ▸ hs.globalTypes
    · exact hs.globalTypes.register hregister
  values := hs.values_edit h
  details := hs.details_edit h
  locked := hs.locked_edit h
  collections := by
    rcases h.collections with hsame | ⟨t, c, keys, hnone, hid, hkeys, rfl⟩
    · exact .same hs h hsame
    · exact hs.collections.insert hnone hid hkeys

theorem Sound.next (hs : Sound s) (a : Action) : Sound (step a s) :=
  step_invariant (fun _ _ => Sound.edit) a hs

theorem reachable_sound (h : TransitionSystem.Reachable step genesis s) : Sound s :=
  h.invariant Sound sound_genesis fun _ a hs => hs.next a

/-! ## What holds at every later time -/

/-- Keys keep their types, those of collections and those under a lock in any case. -/
structure Later (s s' : Storage) : Prop where
  clock : now s ≤ now s'
  localTypes : ∀ t, (s.localTypes t).Later (s'.localTypes t)
  collections : ∀ t c, s.chain.nft.collectionTicker t = some c →
    s'.chain.nft.collectionTicker t = some c ∧
      s'.chain.nft.collectionKeys c = s.chain.nft.collectionKeys c ∧
      ∀ key ∈ s.chain.nft.collectionKeys c, nameOf t key s' = nameOf t key s
  locked : ∀ t key d, s.valueDetails t key = some d → d.isLocked (now s') →
    s'.values t key = s.values t key ∧ s'.valueDetails t key = some d ∧
      nameOf t key s' = nameOf t key s

instance : Std.Refl Later where
  refl _ := ⟨le_rfl, fun _ => .refl _, fun _ _ hc => ⟨hc, rfl, fun _ _ => rfl⟩,
    fun _ _ _ hd _ => ⟨rfl, hd, rfl⟩⟩

instance : IsTrans Storage Later where
  trans s s₁ s₂ h h' := by
    refine ⟨h.clock.trans h'.clock, fun t => (h.localTypes t).trans (h'.localTypes t),
      fun t c hc => ?_, fun t key d hd hlocked => ?_⟩
    · obtain ⟨hc₁, hkeys₁, hnames₁⟩ := h.collections t c hc
      obtain ⟨hc₂, hkeys₂, hnames₂⟩ := h'.collections t c hc₁
      refine ⟨hc₂, hkeys₂.trans hkeys₁, fun key hkey => ?_⟩
      rw [hnames₂ key (hkeys₁ ▸ hkey), hnames₁ key hkey]
    · -- locked at the end, hence locked in between
      have hlocked₁ := AssetMetadataValueDetail.isLocked_of_le h'.clock hlocked
      obtain ⟨hvalue₁, hdetail₁, hname₁⟩ := h.locked t key d hd hlocked₁
      obtain ⟨hvalue₂, hdetail₂, hname₂⟩ := h'.locked t key d hdetail₁ hlocked
      exact ⟨hvalue₂.trans hvalue₁, hdetail₂, hname₂.trans hname₁⟩

theorem Sound.collections_later (hs : Sound s) (h : Edit s s')
    (hc : s.chain.nft.collectionTicker t = some c) :
    s'.chain.nft.collectionTicker t = some c ∧
      s'.chain.nft.collectionKeys c = s.chain.nft.collectionKeys c ∧
      ∀ key ∈ s.chain.nft.collectionKeys c, nameOf t key s' = nameOf t key s := by
  obtain ⟨hticker, hkeys⟩ : s'.chain.nft.collectionTicker t = some c ∧
      s'.chain.nft.collectionKeys c = s.chain.nft.collectionKeys c := by
    rcases h.collections with ⟨hticker, hkeys, -⟩ | ⟨t', c', keys, hnone, hid, -, rfl⟩
    · exact ⟨hticker ▸ hc, congrFun hkeys c⟩
    · have ht : t ≠ t' := by
        rintro rfl
        rw [hc] at hnone
        cases hnone
      have hne : c ≠ c' := fun heq => hs.collections.fresh hid t (heq ▸ hc)
      exact ⟨(update_of_ne ht _ _).trans hc, update_of_ne hne _ _⟩
  refine ⟨hticker, hkeys, fun key hkey => ?_⟩
  rcases h.nameOf hs.localTypes hs.globalTypes (hs.collections.registered t c hc key hkey) with
    heq | hunused
  · exact heq
  · exact absurd (isCollectionKey_of_mem hticker (hkeys.symm ▸ hkey)) hunused.collections

theorem Sound.locked_later (hs : Sound s) (h : Edit s s') (hd : s.valueDetails t key = some d)
    (hlocked : d.isLocked (now s')) :
    s'.values t key = s.values t key ∧ s'.valueDetails t key = some d ∧
      nameOf t key s' = nameOf t key s := by
  have hlocked' := isAssetMetadataLocked_iff.mpr
    ⟨d, hd, AssetMetadataValueDetail.isLocked_of_le h.now_le hlocked⟩
  rcases h.values t key with ⟨hvalue, hdetail⟩ | ⟨-, -, hunlocked, -⟩
  · refine ⟨hvalue, hdetail.trans hd, ?_⟩
    have hkey := hs.details t key (hd ▸ rfl)
    rcases h.nameOf hs.localTypes hs.globalTypes hkey with heq | hunused
    · exact heq
    · have hnone := hunused.details
      rw [hdetail, hd] at hnone
      cases hnone
  · exact absurd hlocked' hunlocked

theorem Sound.edit_later (h : Edit s s') (hs : Sound s) : Later s s' where
  clock := h.now_le
  localTypes t := by
    rcases h.localTypes t with heq | ⟨name, spec, e, hregister⟩ | ⟨key, name, -, heq⟩
    · exact heq ▸ .refl _
    · exact TypeStorage.Sound.register_later hregister
    · exact heq ▸ TypeStorage.remove_later _ name key
  collections _ _ hc := hs.collections_later h hc
  locked _ _ _ hd hlocked := hs.locked_later h hd hlocked

theorem Sound.step_later (hs : Sound s) (a : Action) : Later s (step a s) := by
  let I s' := Sound s' ∧ Later s s'
  have hedit : ∀ s₁ s₂, Edit s₁ s₂ → I s₁ → I s₂ := by
    rintro s₁ s₂ h ⟨hs₁, hlater⟩
    exact ⟨hs₁.edit h, IsTrans.trans _ _ _ hlater (hs₁.edit_later h)⟩
  exact (step_invariant hedit a ⟨hs, refl s⟩ : I (step a s)).2

theorem Sound.run_later (hs : Sound s) (as : List Action) : Later s (run step s as) :=
  run_rel Sound Later (fun _ a hs _ => hs.next a) (fun _ a hs _ => hs.step_later a) hs
    (along_true s as)

/-! ## Locked values -/

/-- **A locked value exists, and stays until the lock ends**: the value, its details and the type of its
key are the same at every later time at which the lock still holds. -/
theorem locked_value_stays (hs : TransitionSystem.Reachable step genesis s) {d : AssetMetadataValueDetail}
    (hd : s.valueDetails t key = some d) (hlocked : d.isLocked (now s)) :
    (s.values t key).isSome ∧ checkAssetMetadataKeyExists t key s ∧
      ∀ as, d.isLocked (now (run step s as)) →
        (run step s as).values t key = s.values t key ∧
          (run step s as).valueDetails t key = some d ∧
          nameOf t key (run step s as) = nameOf t key s := by
  have hsound := reachable_sound hs
  refine ⟨hsound.locked t key (isAssetMetadataLocked_iff.mpr ⟨d, hd, hlocked⟩),
    hsound.details t key (hd ▸ rfl), fun as hstill => ?_⟩
  exact (hsound.run_later as).locked t key d hd hstill

theorem step_createPortfolio (env : Env) (origin : RuntimeOrigin) (name : PortfolioName)
    (c : Polymesh.Storage) :
    ∃ f, Polymesh.step (.extrinsic env origin (.createPortfolio name)) c = c.mapPortfolio f := by
  rw [Polymesh.step, Tx.transaction]
  rcases hrun : Polymesh.dispatch env origin (.createPortfolio name) c with ⟨e | u, c'⟩
  · exact ⟨id, rfl⟩
  · simp [Polymesh.dispatch, Portfolio.createPortfolio, Portfolio.baseCreatePortfolio] at hrun
    obtain ⟨did, -, -, rfl⟩ := hrun
    exact ⟨_, rfl⟩

/-- The creation of a portfolio is such a call. -/
def OtherCall.createPortfolio (env : Env) (origin : RuntimeOrigin) (name : PortfolioName) :
    OtherCall where
  run := Polymesh.step (.extrinsic env origin (.createPortfolio name))
  collections c := by
    obtain ⟨f, hf⟩ := step_createPortfolio env origin name c
    rw [hf]
    exact ⟨rfl, rfl, rfl⟩
  clock c := by
    obtain ⟨f, hf⟩ := step_createPortfolio env origin name c
    rw [hf]
    rfl

/-- A name that is registered and locked for good. -/
def firstLocked : List Action :=
  [.extrinsic .consenting (.signed ⟨0⟩) (.registerAndSetLocalAssetMetadata ⟨0⟩ [] ⟨none, none, none⟩
    [1] (some ⟨none, .locked⟩))]

/-- A new portfolio, and an attempt to remove the value. -/
def firstLockedRemoved : List Action :=
  [.other (.createPortfolio .consenting (.signed ⟨0⟩) "savings"),
    .extrinsic .consenting (.signed ⟨0⟩) (.removeMetadataValue ⟨0⟩ (.local 1))]

theorem locked_value_stays_first :
    (run step (run step genesis firstLocked) firstLockedRemoved).values ⟨0⟩ (.local 1) =
      some [1] := by
  have hd : (run step genesis firstLocked).valueDetails ⟨0⟩ (.local 1) =
      some ⟨none, .locked⟩ := by
    decide +kernel
  have hstays := locked_value_stays ⟨firstLocked, rfl⟩ hd rfl
  rw [(hstays.2.2 firstLockedRemoved rfl).1]
  decide +kernel

/-! ## Coherence -/

structure Coherent (s : Storage) : Prop where
  localTypes : ∀ t, (s.localTypes t).registry.Coherent
  globalTypes : s.globalTypes.registry.Coherent
  values : ∀ t key, (s.values t key).isSome → checkAssetMetadataKeyExists t key s
  valueDetails : ∀ t key, (s.valueDetails t key).isSome → checkAssetMetadataKeyExists t key s
  collectionKeys : ∀ c, ∀ key ∈ s.chain.nft.collectionKeys c,
    ∃ t, s.chain.nft.collectionTicker t = some c ∧ checkAssetMetadataKeyExists t key s ∧
      ∀ t', s.chain.nft.collectionTicker t' = some c → t' = t
  nftMetadata : ∀ c nft key, (s.nftMetadata c nft key).isSome →
    key ∈ s.chain.nft.collectionKeys c

theorem Sound.coherent (hs : Sound s) : Coherent s where
  localTypes t := (hs.localTypes t).coherent
  globalTypes := hs.globalTypes.coherent
  values := hs.values
  valueDetails := hs.details
  collectionKeys c key hkey := by
    obtain ⟨t, ht⟩ := hs.collections.owned c key hkey
    exact ⟨t, ht, hs.collections.registered t c ht key hkey,
      fun t' ht' => hs.collections.distinct t t' c ht ht'⟩
  nftMetadata := hs.collections.nftMetadata

theorem Sound.removed_stays {s₁ s₂ : Storage} (hs : Sound s) (h₁ : Later s s₁) (h₂ : Later s₁ s₂)
    (hkey : checkAssetMetadataKeyExists t (.local k) s)
    (hremoved : ¬ checkAssetMetadataKeyExists t (.local k) s₁) :
    ¬ checkAssetMetadataKeyExists t (.local k) s₂ := by
  have hissued := ((hs.localTypes t).issued k hkey).trans (h₁.localTypes t).nextKey
  rcases (h₂.localTypes t).names k hissued with heq | hnone
  · intro h
    refine hremoved ?_
    rwa [checkAssetMetadataKeyExists, nameOf, heq] at h
  · simp [checkAssetMetadataKeyExists, nameOf, hnone]

/-- **The metadata is coherent** in every reachable state. From there on a number that was given to a
type and is free again is never given to another one, and a collection keeps its keys and their
types. -/
theorem registry_coherent (hs : TransitionSystem.Reachable step genesis s) :
    Coherent s ∧
      (∀ t k as bs, checkAssetMetadataKeyExists t (.local k) s →
        ¬ checkAssetMetadataKeyExists t (.local k) (run step s as) →
        ¬ checkAssetMetadataKeyExists t (.local k) (run step s (as ++ bs))) ∧
      ∀ t c as, s.chain.nft.collectionTicker t = some c →
        (run step s as).chain.nft.collectionTicker t = some c ∧
          (run step s as).chain.nft.collectionKeys c = s.chain.nft.collectionKeys c ∧
          ∀ key ∈ s.chain.nft.collectionKeys c,
            nameOf t key (run step s as) = nameOf t key s := by
  have hsound := reachable_sound hs
  refine ⟨hsound.coherent, fun t k as bs hkey hremoved => ?_,
    fun t c as hc => (hsound.run_later as).collections t c hc⟩
  have hsound' : Sound (run step s as) :=
    run_invariant Sound (fun _ a hs _ => hs.next a) hsound (along_true s as)
  rw [run_append]
  exact hsound.removed_stays (hsound.run_later as) (hsound'.run_later bs) hkey hremoved

def firstType : List Action :=
  [.extrinsic .consenting (.signed ⟨0⟩)
    (.registerAssetMetadataLocalType ⟨0⟩ [] ⟨none, none, none⟩)]

def firstTypeRemoved : List Action :=
  [.extrinsic .consenting (.signed ⟨0⟩) (.removeLocalMetadataKey ⟨0⟩ 1)]

/-- The same name, registered again, has another number. -/
theorem registry_coherent_again :
    Coherent (run step genesis firstType) ∧ ¬ checkAssetMetadataKeyExists ⟨0⟩ (.local 1)
      (run step (run step genesis firstType) (firstTypeRemoved ++ firstType)) := by
  have hcoherent := registry_coherent ⟨firstType, rfl⟩
  exact ⟨hcoherent.1, hcoherent.2.1 ⟨0⟩ 1 firstTypeRemoved firstType (by decide +kernel)
    (by decide +kernel)⟩

end Metadata

end Polymesh
