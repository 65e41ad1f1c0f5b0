import Polymesh.Pallets.ComplianceRequirements

/-!
# The requirements of an asset

What a call does to the requirements and trusted issuers of one asset is one of a few edits, each
with what has been checked. All of them but one keep the identifiers of the requirements strictly
increasing: a requirement that is added after one with the largest identifier of 32 bits gets the
identifier zero. As long as nothing is added there, the search by halving finds what exists.
-/

namespace Polymesh

open Transactional Tx SortedLists TransitionSystem

namespace ComplianceManager

/-! ## Edits -/

/-- The requirements of an asset, and the issuers that are trusted where a condition names none. -/
structure Rules where
  requirements : List ComplianceRequirement
  issuers : List TrustedIssuer

def Storage.rules (s : Storage) (ticker : Ticker) : Rules where
  requirements := (s.assetCompliance ticker).requirements
  issuers := s.trustedClaimIssuer ticker

namespace Rules

/-- The worst case of a transfer is within the bound. -/
def Bounded (r : Rules) : Prop :=
  complexity r.requirements r.issuers.length ≤ maxConditionComplexity

/-- There are at most as many issuers as any list may have. -/
def Limited (r : Rules) : Prop := r.issuers.length ≤ maxLen

/-- The identifiers of the requirements increase. -/
def Ordered (r : Rules) : Prop := r.requirements.Pairwise (·.id < ·.id)

/-- The identifiers have 32 bits. -/
def Encoded (r : Rules) : Prop := ∀ req ∈ r.requirements, req.id < 2 ^ 32

/-- The identifier of the last requirement, or zero. -/
def latestId (r : Rules) : ℕ := (r.requirements.getLast?.map ComplianceRequirement.id).getD 0

end Rules

/-- A requirement is added with the identifier after the last one. -/
def Added (r r' : Rules) : Prop :=
  ∃ req, req.id = wrapAdd 32 r.latestId 1 ∧ r' = ⟨r.requirements ++ [req], r.issuers⟩ ∧ r'.Bounded

/-- What else may become of the rules of an asset. -/
inductive Edit : Rules → Rules → Prop
  | keep (r : Rules) : Edit r r
  | remove (r : Rules) (id : ℕ) : Edit r ⟨r.requirements.filter (·.id ≠ id), r.issuers⟩
  | replace (r : Rules) {requirements : List ComplianceRequirement}
      (hordered : requirements.Pairwise (·.id < ·.id))
      (hencoded : ∀ req ∈ requirements, req.id < 2 ^ 32)
      (hbounded : Rules.Bounded ⟨requirements, r.issuers⟩) : Edit r ⟨requirements, r.issuers⟩
  | change (r : Rules) {pos : ℕ} {old new : ComplianceRequirement}
      (hold : r.requirements[pos]? = some old) (hid : new.id = old.id)
      (hbounded : Rules.Bounded ⟨r.requirements.set pos new, r.issuers⟩) :
      Edit r ⟨r.requirements.set pos new, r.issuers⟩
  | reset (r : Rules) : Edit r ⟨[], r.issuers⟩
  | trust (r : Rules) (issuer : TrustedIssuer) (hlimited : r.issuers.length + 1 ≤ maxLen)
      (hbounded : Rules.Bounded ⟨r.requirements, r.issuers ++ [issuer]⟩) :
      Edit r ⟨r.requirements, r.issuers ++ [issuer]⟩
  | distrust (r : Rules) (issuer : IdentityId) :
      Edit r ⟨r.requirements, r.issuers.filter (·.issuer ≠ issuer)⟩

/-! ## What the calls do -/

variable {req : ComplianceRequirement} {requirements : List ComplianceRequirement} {ticker : Ticker}
  {s : Storage}

section Checks

variable {r r' : ComplianceRequirement}

theorem dedupAndEnsureRequirementLimited_ok (h : dedupAndEnsureRequirementLimited r = .ok r') :
    r'.id = r.id := by
  simp only [dedupAndEnsureRequirementLimited, except_bind_eq_ok, except_pure_eq_ok] at h
  obtain ⟨_, -, rfl⟩ := h
  rfl

theorem mapM_dedup_ids {limited : List ComplianceRequirement}
    (h : requirements.mapM dedupAndEnsureRequirementLimited = .ok limited) :
    limited.map ComplianceRequirement.id = requirements.map ComplianceRequirement.id := by
  induction requirements generalizing limited with
  | nil =>
    rw [List.mapM_nil, except_pure_eq_ok] at h
    rw [← h]
  | cons r requirements ih =>
    simp only [List.mapM_cons, except_bind_eq_ok, except_pure_eq_ok] at h
    obtain ⟨r', hr, limited', hlimited, rfl⟩ := h
    rw [List.map_cons, List.map_cons, ih hlimited, dedupAndEnsureRequirementLimited_ok hr]

theorem sortedById_ordered (h : requirements.length = (sortedById requirements).length) :
    (sortedById requirements).Pairwise (·.id < ·.id) := by
  -- nothing has been removed from the sorted list
  have hsorted : sortedById requirements = requirements.mergeSort (·.id ≤ ·.id) := by
    refine (List.destutter_sublist _ _).eq_of_length ?_
    rw [List.length_mergeSort]
    exact h.symm
  have hne : (requirements.mergeSort (·.id ≤ ·.id)).IsChain (·.id ≠ ·.id) :=
    (List.destutter_eq_self_iff _ _).mp hsorted
  have hle : (requirements.mergeSort (·.id ≤ ·.id)).Pairwise (·.id ≤ ·.id) := by
    have hsort : (requirements.mergeSort (·.id ≤ ·.id)).Pairwise
        fun a b => decide (a.id ≤ b.id) = true :=
      List.pairwise_mergeSort (fun a b c => by simpa using Nat.le_trans)
        (fun a b => by simpa using Nat.le_total a.id b.id) requirements
    simpa using hsort
  rw [hsorted, List.pairwise_iff_getElem]
  rw [List.isChain_iff_getElem] at hne
  intro i j hi hj hij
  have hnext :=
    lt_of_le_of_ne (List.pairwise_iff_getElem.mp hle i (i + 1) hi (by omega) (Nat.lt_succ_self i))
      (hne i (by omega))
  rcases Nat.eq_or_lt_of_le hij with rfl | hij
  · exact hnext
  · exact hnext.trans_le (List.pairwise_iff_getElem.mp hle (i + 1) j (by omega) hj hij)

theorem mem_sortedById (h : req ∈ sortedById requirements) :
    req ∈ requirements :=
  List.mem_mergeSort.mp ((List.destutter_sublist _ _).subset h)

end Checks

section Writes

variable (ticker t : Ticker) (s : Storage)

theorem rules_setRequirements (requirements : List ComplianceRequirement) :
    (setRequirements ticker requirements s).rules t =
      if t = ticker then ⟨requirements, (s.rules t).issuers⟩ else s.rules t := by
  by_cases h : t = ticker
  · subst h
    simp [Storage.rules, setRequirements]
  · simp [Storage.rules, setRequirements, h]

theorem rules_setPaused (paused : Bool) : (setPaused ticker paused s).rules t = s.rules t := by
  by_cases h : t = ticker
  · subst h
    simp [Storage.rules, setPaused]
  · simp [Storage.rules, setPaused, h]

theorem rules_setTrustedClaimIssuer (issuers : List TrustedIssuer) :
    (setTrustedClaimIssuer ticker issuers s).rules t =
      if t = ticker then ⟨(s.rules t).requirements, issuers⟩ else s.rules t := by
  by_cases h : t = ticker
  · subst h
    simp [Storage.rules, setTrustedClaimIssuer]
  · simp [Storage.rules, setTrustedClaimIssuer, h]

end Writes

theorem saturatingAdd_issuers {n k : ℕ} (h : saturatingAdd 32 n k ≤ maxLen) :
    saturatingAdd 32 n k = n + k := by
  unfold saturatingAdd maxLen at *
  omega

theorem verifyComplianceComplexity_ok {u : Unit} (hs : (s.rules ticker).Limited)
    (h : verifyComplianceComplexity requirements ticker 0 s = .ok u) :
    Rules.Bounded ⟨requirements, (s.rules ticker).issuers⟩ := by
  have hcount : saturatingAdd 32 (s.trustedClaimIssuer ticker).length 0 =
      (s.rules ticker).issuers.length := by
    refine saturatingAdd_issuers ((min_le_left _ _).trans ?_)
    exact hs
  rw [verifyComplianceComplexity, hcount, baseVerifyComplianceComplexity, ensure_eq_ok] at h
  exact (le_max_left _ _).trans h

/-- The call adds a requirement to the asset. -/
def Call.addsTo (ticker : Ticker) : Call → Prop
  | .addComplianceRequirement ticker' _ _ => ticker' = ticker
  | _ => False

section Calls

variable {env : Env} {s' : Storage} {u : Unit} (hs : ∀ t, (s.rules t).Limited) (t : Ticker)

include hs in
theorem addComplianceRequirement_rules {senderConditions receiverConditions : List Condition}
    (h : addComplianceRequirement env ticker senderConditions receiverConditions s = (.ok u, s')) :
    if ticker = t then Added (s.rules t) (s'.rules t) else s'.rules t = s.rules t := by
  simp only [addComplianceRequirement, baseAddComplianceRequirement, run_ok] at h
  obtain ⟨_, -, _, -, _, -, req, hreq, _, hverify, _, -, rfl⟩ := h
  rw [rules_setRequirements]
  by_cases hticker : ticker = t
  · subst hticker
    rw [if_pos rfl, if_pos rfl]
    exact ⟨req, dedupAndEnsureRequirementLimited_ok hreq, rfl,
      verifyComplianceComplexity_ok (hs ticker) hverify⟩
  · rw [if_neg hticker, if_neg (Ne.symm hticker)]

omit hs in
theorem edit_ite {r r' : Rules} (h : t = ticker → Edit r r') :
    Edit r (if t = ticker then r' else r) := by
  split
  · exact h ‹_›
  · exact .keep r

omit hs in
theorem removeComplianceRequirement_rules {id : ℕ}
    (h : removeComplianceRequirement env ticker id s = (.ok u, s')) :
    Edit (s.rules t) (s'.rules t) := by
  simp only [removeComplianceRequirement, run_ok] at h
  obtain ⟨_, -, -, rfl⟩ := h
  rw [rules_setRequirements]
  refine edit_ite t fun hticker => ?_
  subst hticker
  exact .remove (s.rules t) id

include hs in
theorem replaceAssetCompliance_rules {assetCompliance : List RequirementArg}
    (h : replaceAssetCompliance env ticker assetCompliance s = (.ok u, s')) :
    Edit (s.rules t) (s'.rules t) := by
  simp only [replaceAssetCompliance, run_ok] at h
  obtain ⟨_, -, _, -, hlength, limited, hlimited, _, hverify, rfl⟩ := h
  rw [rules_setRequirements]
  refine edit_ite t fun hticker => ?_
  subst hticker
  -- the order and the bounds are about identifiers, which stay
  have hids := mapM_dedup_ids hlimited
  refine .replace (s.rules t) ?_ ?_ (verifyComplianceComplexity_ok (hs t) hverify)
  · have hordered := List.pairwise_map.mpr (sortedById_ordered hlength)
    rw [← hids] at hordered
    exact List.pairwise_map.mp hordered
  · intro req hreq
    have hid := List.mem_map_of_mem (f := ComplianceRequirement.id) hreq
    rw [hids] at hid
    obtain ⟨req', hmem, heq⟩ := List.mem_map.mp hid
    obtain ⟨arg, -, rfl⟩ := List.mem_map.mp (mem_sortedById hmem)
    exact heq ▸ arg.2

omit hs in
theorem resetAssetCompliance_rules (h : resetAssetCompliance env ticker s = (.ok u, s')) :
    Edit (s.rules t) (s'.rules t) := by
  simp only [resetAssetCompliance, run_ok] at h
  obtain ⟨_, -, rfl⟩ := h
  by_cases hticker : t = ticker
  · subst hticker
    have hreset := Edit.reset (s.rules t)
    simpa [Storage.rules] using hreset
  · have hkeep := Edit.keep (s.rules t)
    simpa [Storage.rules, hticker] using hkeep

omit hs in
theorem pauseResumeAssetCompliance_rules {pause : Bool}
    (h : pauseResumeAssetCompliance env ticker pause s = (.ok u, s')) :
    Edit (s.rules t) (s'.rules t) := by
  simp only [pauseResumeAssetCompliance, run_ok] at h
  obtain ⟨_, -, rfl⟩ := h
  rw [rules_setPaused]
  exact .keep _

omit hs in
theorem addDefaultTrustedClaimIssuer_rules {issuer : TrustedIssuer}
    (h : addDefaultTrustedClaimIssuer env ticker issuer s = (.ok u, s')) :
    Edit (s.rules t) (s'.rules t) := by
  simp only [addDefaultTrustedClaimIssuer, run_ok] at h
  obtain ⟨_, -, -, _, -, _, hlength, -, _, hverify, rfl⟩ := h
  rw [rules_setTrustedClaimIssuer]
  refine edit_ite t fun hticker => ?_
  subst hticker
  rw [ensureLengthOk, ensure_eq_ok] at hlength
  have hcount := saturatingAdd_issuers hlength
  rw [hcount] at hlength hverify
  rw [baseVerifyComplianceComplexity, ensure_eq_ok] at hverify
  refine .trust (s.rules t) issuer hlength ?_
  rw [Rules.Bounded, List.length_append]
  exact (le_max_left _ _).trans hverify

omit hs in
theorem removeDefaultTrustedClaimIssuer_rules {issuer : IdentityId}
    (h : removeDefaultTrustedClaimIssuer env ticker issuer s = (.ok u, s')) :
    Edit (s.rules t) (s'.rules t) := by
  simp only [removeDefaultTrustedClaimIssuer, run_ok] at h
  obtain ⟨_, -, -, rfl⟩ := h
  rw [rules_setTrustedClaimIssuer]
  refine edit_ite t fun hticker => ?_
  subst hticker
  exact .distrust (s.rules t) issuer

include hs in
theorem changeComplianceRequirement_rules {newReq : RequirementArg}
    (h : changeComplianceRequirement env ticker newReq s = (.ok u, s')) :
    Edit (s.rules t) (s'.rules t) := by
  simp only [changeComplianceRequirement, run_ok] at h
  obtain ⟨_, -, _, -, pos, hpos, req, hreq, _, hverify, rfl⟩ := h
  rw [rules_setRequirements]
  refine edit_ite t fun hticker => ?_
  subst hticker
  split at hpos
  · rename_i found hfound
    cases hpos
    obtain ⟨old, hold, hid⟩ := binarySearch_ok hfound
    refine .change (s.rules t) hold ?_ (verifyComplianceComplexity_ok (hs t) hverify)
    rw [dedupAndEnsureRequirementLimited_ok hreq, hid]
  · cases hpos

include hs in
/-- **What a call does to the rules of an asset.** -/
theorem dispatch_rules {call : Call} (h : dispatch env call s = (.ok u, s')) :
    (call.addsTo t ∧ Added (s.rules t) (s'.rules t)) ∨
      (¬ call.addsTo t ∧ Edit (s.rules t) (s'.rules t)) := by
  cases call with
  | addComplianceRequirement ticker senderConditions receiverConditions =>
    have hadd := addComplianceRequirement_rules hs t h
    by_cases hticker : ticker = t
    · rw [if_pos hticker] at hadd
      exact .inl ⟨hticker, hadd⟩
    · rw [if_neg hticker] at hadd
      exact .inr ⟨hticker, hadd ▸ .keep _⟩
  | removeComplianceRequirement ticker reqId =>
    exact .inr ⟨id, removeComplianceRequirement_rules t h⟩
  | replaceAssetCompliance ticker assetCompliance =>
    exact .inr ⟨id, replaceAssetCompliance_rules hs t h⟩
  | resetAssetCompliance ticker => exact .inr ⟨id, resetAssetCompliance_rules t h⟩
  | pauseAssetCompliance ticker | resumeAssetCompliance ticker =>
    exact .inr ⟨id, pauseResumeAssetCompliance_rules t h⟩
  | addDefaultTrustedClaimIssuer ticker issuer =>
    exact .inr ⟨id, addDefaultTrustedClaimIssuer_rules t h⟩
  | removeDefaultTrustedClaimIssuer ticker issuer =>
    exact .inr ⟨id, removeDefaultTrustedClaimIssuer_rules t h⟩
  | changeComplianceRequirement ticker newReq =>
    exact .inr ⟨id, changeComplianceRequirement_rules hs t h⟩

end Calls

/-! ## Steps -/

/-- The action adds a requirement to the asset, and succeeds. -/
def Adds (ticker : Ticker) (s : Storage) : Action → Prop
  | .extrinsic env call => call.addsTo ticker ∧ (dispatch env call s).1 = .ok ()
  | .others _ _ => False

/-- **What an action does to the rules of an asset.** -/
theorem step_rules (hs : ∀ t, (s.rules t).Limited) (a : Action) (t : Ticker) :
    (Adds t s a ∧ Added (s.rules t) ((step a s).rules t)) ∨
      (¬ Adds t s a ∧ Edit (s.rules t) ((step a s).rules t)) := by
  cases a with
  | others fetchClaim groupOfAgent => exact .inr ⟨id, .keep _⟩
  | extrinsic env call =>
    rcases h : dispatch env call s with ⟨_ | ⟨⟨⟩⟩, s'⟩
    case error e =>
      have hstep : step (.extrinsic env call) s = s := by
        simp only [step, transaction, h]
      rw [hstep]
      refine .inr ⟨?_, .keep _⟩
      rintro ⟨-, hok⟩
      rw [h] at hok
      cases hok
    case ok =>
      have hstep : step (.extrinsic env call) s = s' := by
        simp only [step, transaction, h]
      rw [hstep]
      rcases dispatch_rules hs t h with ⟨hadds, hadded⟩ | ⟨hadds, hedit⟩
      · exact .inl ⟨⟨hadds, by rw [h]⟩, hadded⟩
      · exact .inr ⟨fun hadd => hadds hadd.1, hedit⟩

/-! ## Identifiers -/

namespace Rules

variable {r r' : Rules}

theorem limited_of_edit (h : Edit r r') (hr : r.Limited) : r'.Limited := by
  cases h with
  | trust issuer hlimited => simpa [Limited] using hlimited
  | distrust issuer => exact (List.length_filter_le _ _).trans hr
  | _ => exact hr

theorem encoded_of_edit (h : Edit r r') (hr : r.Encoded) : r'.Encoded := by
  cases h with
  | keep | trust | distrust => exact hr
  | remove id => exact fun req hreq => hr req (List.mem_of_mem_filter hreq)
  | replace hordered hencoded => exact hencoded
  | reset => exact fun req hreq => absurd hreq List.not_mem_nil
  | change hold hid =>
    intro req hreq
    rcases List.mem_or_eq_of_mem_set hreq with hreq | rfl
    · exact hr req hreq
    · exact hid ▸ hr _ (List.mem_of_getElem? hold)

theorem encoded_of_added (h : Added r r') (hr : r.Encoded) : r'.Encoded := by
  obtain ⟨req, hid, rfl, -⟩ := h
  intro req' hreq
  rcases List.mem_append.mp hreq with hreq | hreq
  · exact hr req' hreq
  · rw [List.mem_singleton.mp hreq, hid]
    exact Nat.mod_lt _ (by decide)

theorem map_id_set {pos : ℕ} {old new : ComplianceRequirement}
    (hold : requirements[pos]? = some old) (hid : new.id = old.id) :
    (requirements.set pos new).map ComplianceRequirement.id =
      requirements.map ComplianceRequirement.id := by
  obtain ⟨hlt, rfl⟩ := List.getElem?_eq_some_iff.mp hold
  have hpos : pos < (requirements.map ComplianceRequirement.id).length := by simpa using hlt
  have hsame := List.set_getElem_self hpos
  rwa [List.getElem_map, ← hid, ← List.map_set] at hsame

theorem ordered_of_edit (h : Edit r r') (hr : r.Ordered) : r'.Ordered := by
  cases h with
  | keep | trust | distrust => exact hr
  | remove id => exact hr.filter _
  | replace hordered => exact hordered
  | reset => exact List.Pairwise.nil
  | change hold hid =>
    have hids := List.pairwise_map.mpr hr
    rw [← map_id_set hold hid] at hids
    exact List.pairwise_map.mp hids

theorem Ordered.le_latestId (hr : r.Ordered) (hreq : req ∈ r.requirements) :
    req.id ≤ r.latestId := by
  unfold latestId
  rcases List.eq_nil_or_concat r.requirements with hnil | ⟨front, last, hlast⟩
  · rw [hnil] at hreq
    exact absurd hreq List.not_mem_nil
  · rw [List.concat_eq_append] at hlast
    rw [Ordered, hlast, List.pairwise_append] at hr
    rw [hlast] at hreq ⊢
    rw [List.getLast?_concat, Option.map_some, Option.getD_some]
    rcases List.mem_append.mp hreq with hreq | hreq
    · exact (hr.2.2 req hreq last (List.mem_singleton_self last)).le
    · rw [List.mem_singleton.mp hreq]

theorem Encoded.latestId_lt (hr : r.Encoded) : r.latestId < 2 ^ 32 := by
  unfold latestId
  cases hlast : r.requirements.getLast? with
  | none => decide
  | some last => exact hr last (List.mem_of_getLast? hlast)

theorem ordered_of_added_iff (h : Added r r') (hr : r.Ordered) (hencoded : r.Encoded) :
    r'.Ordered ↔ r.latestId + 1 < 2 ^ 32 := by
  obtain ⟨req, hid, rfl, -⟩ := h
  rw [Ordered, List.pairwise_append]
  constructor
  · rintro ⟨-, -, hlt⟩
    by_contra hroom
    -- the identifier has wrapped to zero, and there is one before it
    have hlatest : r.latestId = 2 ^ 32 - 1 := by
      have := hencoded.latestId_lt
      omega
    have hzero : req.id = 0 := by
      rw [hid, hlatest]
      decide
    cases hlast : r.requirements.getLast? with
    | none =>
      rw [latestId, hlast] at hlatest
      exact absurd hlatest (by decide)
    | some last =>
      have := hlt last (List.mem_of_getLast? hlast) req (List.mem_singleton_self req)
      omega
  · intro hroom
    refine ⟨hr, List.pairwise_singleton _ _, ?_⟩
    intro req' hreq' new hnew
    rw [List.mem_singleton.mp hnew, hid, wrapAdd_eq hroom]
    exact Nat.lt_succ_of_le (hr.le_latestId hreq')

/-- The identifiers increase, and the search for one finds it if it exists. -/
structure Indexed (r : Rules) : Prop where
  ordered : r.Ordered
  found_iff : ∀ id, (∃ pos, binarySearch (·.id) r.requirements id = .ok pos) ↔
    ∃ req ∈ r.requirements, req.id = id

theorem Ordered.indexed (hr : r.Ordered) : r.Indexed where
  ordered := hr
  found_iff id := by
    constructor
    · rintro ⟨pos, hpos⟩
      obtain ⟨req, hreq, hid⟩ := binarySearch_ok hpos
      exact ⟨req, List.mem_of_getElem? hreq, hid⟩
    · rintro ⟨req, hreq, hid⟩
      cases hsearch : binarySearch (·.id) r.requirements id with
      | ok pos => exact ⟨pos, rfl⟩
      | error pos =>
        exact absurd hid (notMem_of_error (hr.imp Nat.le_of_lt) hsearch hreq)

end Rules

theorem limited_step (hs : ∀ t, (s.rules t).Limited) (a : Action) (t : Ticker) :
    ((step a s).rules t).Limited := by
  rcases step_rules hs a t with ⟨-, req, -, hrules, -⟩ | ⟨-, hedit⟩
  · rw [hrules]
    exact hs t
  · exact Rules.limited_of_edit hedit (hs t)

/-- Where a requirement is added, its identifier has not wrapped, and is larger than all others. -/
def AddsFresh (s : Storage) (a : Action) : Prop :=
  ∀ t, Adds t s a → ∃ req, (step a s).rules t =
      ⟨(s.rules t).requirements ++ [req], (s.rules t).issuers⟩ ∧
    req.id = (s.rules t).latestId + 1 ∧ ∀ old ∈ (s.rules t).requirements, old.id < req.id

/-- Where a requirement is added, the latest one does not have the largest identifier. -/
def Fits (s : Storage) (a : Action) : Prop :=
  ∀ t, Adds t s a → (s.rules t).latestId ≠ 2 ^ 32 - 1

/-- What the identifiers need from a state. -/
structure Sound (s : Storage) : Prop where
  limited : ∀ t, (s.rules t).Limited
  encoded : ∀ t, (s.rules t).Encoded
  ordered : ∀ t, (s.rules t).Ordered

section Sound

variable (hs : Sound s) (a : Action)

include hs

theorem Sound.ordered_step_iff : (∀ t, ((step a s).rules t).Ordered) ↔ Fits s a := by
  refine forall_congr' fun t => ?_
  have hlt := (hs.encoded t).latestId_lt
  rcases step_rules hs.limited a t with ⟨hadds, hadded⟩ | ⟨hadds, hedit⟩
  · rw [Rules.ordered_of_added_iff hadded (hs.ordered t) (hs.encoded t)]
    exact ⟨fun hroom _ => by omega, fun hfits => by have := hfits hadds; omega⟩
  · exact iff_of_true (Rules.ordered_of_edit hedit (hs.ordered t)) fun h => absurd h hadds

theorem Sound.next (hfits : Fits s a) : Sound (step a s) where
  limited := limited_step hs.limited a
  encoded t := by
    rcases step_rules hs.limited a t with ⟨-, hadded⟩ | ⟨-, hedit⟩
    · exact Rules.encoded_of_added hadded (hs.encoded t)
    · exact Rules.encoded_of_edit hedit (hs.encoded t)
  ordered := (hs.ordered_step_iff a).mpr hfits

theorem Sound.addsFresh (hfits : Fits s a) : AddsFresh s a := by
  intro t hadds
  have hlt := (hs.encoded t).latestId_lt
  have hne := hfits t hadds
  rcases step_rules hs.limited a t with ⟨-, req, hid, hrules, -⟩ | ⟨hnot, -⟩
  · rw [wrapAdd_eq (by omega)] at hid
    exact ⟨req, hrules, hid, fun old hold => hid ▸ Nat.lt_succ_of_le ((hs.ordered t).le_latestId hold)⟩
  · exact absurd hadds hnot

end Sound

theorem genesis_sound : Sound genesis where
  limited _ := Nat.zero_le _
  encoded _ _ hreq := absurd hreq List.not_mem_nil
  ordered _ := List.Pairwise.nil

theorem Sound.run_iff (hs : Sound s) (as : List Action) :
    ((∀ bs, bs <+: as → ∀ t, ((run step s bs).rules t).Indexed) ∧ Along step AddsFresh s as) ↔
      Along step Fits s as := by
  induction as generalizing s with
  | nil =>
    refine iff_of_true ⟨fun bs hbs t => ?_, trivial⟩ trivial
    rw [List.prefix_nil.mp hbs]
    exact (hs.ordered t).indexed
  | cons a as ih =>
    constructor
    · rintro ⟨hindexed, hfresh⟩
      -- the first step had room, since identifiers increase after it
      have hfits : Fits s a := (hs.ordered_step_iff a).mp fun t =>
        (hindexed [a] ⟨as, rfl⟩ t).ordered
      refine ⟨hfits, (ih (hs.next a hfits)).mp ⟨fun bs hbs t => ?_, hfresh.2⟩⟩
      exact hindexed (a :: bs) ((List.prefix_cons_inj a).mpr hbs) t
    · rintro ⟨hfits, hrest⟩
      obtain ⟨hindexed, hfresh⟩ := (ih (hs.next a hfits)).mpr hrest
      refine ⟨fun bs hbs t => ?_, hs.addsFresh a hfits, hfresh⟩
      cases bs with
      | nil => exact (hs.ordered t).indexed
      | cons b bs =>
        obtain ⟨rfl, htail⟩ := List.cons_prefix_cons.mp hbs
        exact hindexed bs htail t

/-- An agent that may do anything, and fees that can be paid. -/
def Env.permissive : Env := ⟨fun _ => .ok (), fun _ => true, .ok ()⟩

/-- **Requirements are indexed by increasing identifiers** over a whole run, each that is added gets
a new one and the search by halving finds those that exist, exactly if no requirement is added
after one with the largest identifier. -/
theorem requirements_indexed_iff (as : List Action) :
    ((∀ bs, bs <+: as → ∀ t, ((run step genesis bs).rules t).Indexed) ∧
        Along step AddsFresh genesis as) ↔ Along step Fits genesis as :=
  genesis_sound.run_iff as

/-- A requirement with a large identifier, one more, and the removal of the first. -/
def replacedThenRemoved : List Action :=
  [.extrinsic .permissive (.replaceAssetCompliance ⟨0⟩ [⟨⟨[], [], 7⟩, by decide⟩]),
    .extrinsic .permissive (.addComplianceRequirement ⟨0⟩ [] []),
    .extrinsic .permissive (.removeComplianceRequirement ⟨0⟩ 7)]

/-- The requirement that is added has the next identifier, and is found after the removal. -/
theorem requirements_indexed_first :
    ((run step genesis replacedThenRemoved).rules ⟨0⟩).requirements = [⟨[], [], 8⟩] ∧
      ((run step genesis replacedThenRemoved).rules ⟨0⟩).Indexed := by
  have hfits : Along step Fits genesis replacedThenRemoved := by
    refine ⟨fun t h => absurd h.1 id, ?_, fun t h => absurd h.1 id, trivial⟩
    rintro t ⟨rfl, -⟩
    decide +kernel
  exact ⟨by decide +kernel,
    ((requirements_indexed_iff replacedThenRemoved).mpr hfits).1 _ List.prefix_rfl ⟨0⟩⟩

/-- A requirement with the largest identifier, and one more. -/
def largestThenNext (t : Ticker) : List Action :=
  [.extrinsic .permissive (.replaceAssetCompliance t [⟨⟨[], [], 2 ^ 32 - 1⟩, by decide⟩]),
    .extrinsic .permissive (.addComplianceRequirement t [] [])]

/-- After the largest identifier comes zero, and the search does not find the largest any more. -/
theorem largest_then_zero :
    ((run step genesis (largestThenNext ⟨0⟩)).rules ⟨0⟩).requirements.map
        ComplianceRequirement.id = [2 ^ 32 - 1, 0] ∧
      ¬ ((run step genesis (largestThenNext ⟨0⟩)).rules ⟨0⟩).Indexed := by
  have hrules : ((run step genesis (largestThenNext ⟨0⟩)).rules ⟨0⟩).requirements =
      [⟨[], [], 2 ^ 32 - 1⟩, ⟨[], [], 0⟩] := by
    decide +kernel
  rw [hrules]
  refine ⟨rfl, fun hindexed => ?_⟩
  have hordered := hindexed.ordered
  rw [Rules.Ordered, hrules] at hordered
  exact absurd hordered (by decide)

end ComplianceManager

end Polymesh
