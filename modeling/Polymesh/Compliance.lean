import Polymesh.Library.Metering
import Polymesh.Pallets.ComplianceManager

/-!
# The verdict on a transfer and its explanation

The compliance manager evaluates the requirements of an asset twice over: `isCompliant` stops at the
first requirement that is met, and in it at the first condition that is not, with the default
issuers read once; `verifyRestrictionGranular` evaluates everything and reads the default issuers
each time. Both decide the same meaning of conditions.
-/

namespace Polymesh

open Transactional Tx

namespace ComplianceManager

/-! ## The meaning of conditions -/

section Meaning

variable (s : Storage) (ticker : Ticker) (did : IdentityId)

/-- The issuers that a condition names, or the default ones. -/
def trustedIssuers (condition : Condition) : List TrustedIssuer :=
  if condition.issuers = [] then s.trustedClaimIssuer ticker else condition.issuers

/-- A trusted issuer has made the claim `found` about the identity, of the type and scope of
`claim`. -/
def Attested (condition : Condition) (claim found : Claim) : Prop :=
  ∃ i ∈ trustedIssuers s ticker condition, i.isTrustedFor (claimType claim) = true ∧
    s.fetchClaim did (claimType claim) i.issuer (asScope claim) = some found

/-- The claim that was found is the one looked for; a due diligence without an id is any. -/
def Matches (claim found : Claim) : Prop :=
  found = claim ∨ claim = .customerDueDiligence 0 ∧ ∃ id, found = .customerDueDiligence id

/-- **What a condition says** about an identity. -/
def Holds (condition : Condition) : Prop :=
  match condition.conditionType with
  | .isPresent claim => ∃ found, Attested s ticker did condition claim found ∧ Matches claim found
  | .isAbsent claim => ¬ ∃ found, Attested s ticker did condition claim found ∧ Matches claim found
  | .isAnyOf claims => ∃ claim ∈ claims, ∃ found ∈ claims, Attested s ticker did condition claim found
  | .isNoneOf claims =>
    ¬ ∃ claim ∈ claims, ∃ found ∈ claims, Attested s ticker did condition claim found
  | .isIdentity .externalAgent => (s.groupOfAgent ticker did).isSome
  | .isIdentity (.specific id) => did = id

/-- **What a requirement says** about the sender and the receiver of a transfer. -/
def RequirementHolds (sender receiver : IdentityId) (r : ComplianceRequirement) : Prop :=
  (∀ c ∈ r.senderConditions, Holds s ticker sender c) ∧
    ∀ c ∈ r.receiverConditions, Holds s ticker receiver c

end Meaning

/-! ## Weights -/

section Weights

variable (weights : WeightInfo) (s : Storage) (ticker : Ticker)

def conditionWeight (c : Condition) : Weight :=
  match c.conditionType with
  | .isPresent _ | .isAbsent _ =>
    weights.isConditionSatisfied ((trustedIssuers s ticker c).length % 2 ^ 32)
      c.issuers.isEmpty.toNat
  | .isAnyOf claims | .isNoneOf claims =>
    weights.isConditionSatisfied ((trustedIssuers s ticker c).length * claims.length % 2 ^ 32)
      c.issuers.isEmpty.toNat
  | .isIdentity .externalAgent => weights.isIdentityCondition 1
  | .isIdentity (.specific _) => weights.isIdentityCondition 0

def conditionsWeight (cs : List Condition) : Weight :=
  (cs.map (conditionWeight weights s ticker)).sum

def requirementWeight (r : ComplianceRequirement) : Weight :=
  conditionsWeight weights s ticker r.senderConditions +
    conditionsWeight weights s ticker r.receiverConditions

/-- The weight of everything that the compliance of the ticker asks for. -/
def complianceWeight : Weight :=
  ((s.assetCompliance ticker).requirements.map (requirementWeight weights s ticker)).sum

end Weights

theorem room_weaken (w v : Weight) (m : WeightMeter) (h : Room (w + v) m) : Room v m := by
  obtain ⟨h₁, h₂, h₃, h₄⟩ := h
  simp only [Prod.fst_add, Prod.snd_add] at h₁ h₂ h₃ h₄
  exact ⟨by omega, by omega, by omega, by omega⟩

theorem consumeWeightMeter_within (weights : WeightInfo) (w : Weight) :
    Within Room w (consumeWeightMeter weights w) fun _ => True := by
  rintro v m ⟨h₁, h₂, h₃, h₄⟩
  simp only [Prod.fst_add, Prod.snd_add] at h₁ h₂ h₃ h₄
  have hroom : Room w m := ⟨by omega, by omega, by omega, by omega⟩
  refine ⟨(), _, by rw [consumeWeightMeter, weights.checkAccrue_eq hroom], trivial, ?_⟩
  refine ⟨?_, ?_, ?_, ?_⟩ <;> simp only [Prod.fst_add, Prod.snd_add] <;> omega

/-! ## One condition -/

section Conditions

variable {weights : WeightInfo} {s : Storage} {ticker : Ticker} {did : IdentityId}

variable {claim : Claim} {context : Context} {slot : Slot}

theorem mem_fetchClaims {found : Claim} {issuers : List TrustedIssuer} :
    found ∈ fetchClaims s did claim issuers ↔ ∃ i ∈ issuers,
      i.isTrustedFor (claimType claim) = true ∧
        s.fetchClaim did (claimType claim) i.issuer (asScope claim) = some found := by
  simp only [fetchClaims, List.mem_filterMap, List.mem_filter, and_assoc]

theorem existsClaim_iff :
    existsClaim claim context = true ↔ ∃ found ∈ context.claims, Matches claim found := by
  unfold existsClaim Matches
  split
  · rw [List.any_eq_true]
    refine exists_congr fun found => and_congr_right fun _ => ?_
    split <;> simp_all
  · rename_i hnot
    simp only [List.any_eq_true, beq_iff_eq]
    refine exists_congr fun found => and_congr_right fun _ => ?_
    exact ⟨.inl, fun h => h.resolve_right fun h => hnot h.1⟩

theorem anyClaim_iff {claims : List Claim} :
    anyClaim claims context = true ↔ ∃ found ∈ context.claims, found ∈ claims := by
  simp [anyClaim]

/-- The slot is empty or holds the default issuers. -/
def Cached (s : Storage) (ticker : Ticker) (slot : Slot) : Prop :=
  slot.getD (s.trustedClaimIssuer ticker) = s.trustedClaimIssuer ticker

theorem cached_none : Cached s ticker none := rfl

theorem issuersFor_eq (condition : Condition) (hslot : Cached s ticker slot) :
    (issuersFor s ticker condition slot).1 = trustedIssuers s ticker condition ∧
      Cached s ticker (issuersFor s ticker condition slot).2 := by
  unfold issuersFor trustedIssuers
  by_cases hempty : condition.issuers = []
  · simp only [hempty, List.isEmpty_nil, if_true]
    exact ⟨hslot, hslot⟩
  · rw [if_neg (by simpa using hempty), if_neg hempty]
    exact ⟨rfl, hslot⟩

/-- The context of a condition: the claims it asks for, by the issuers that are trusted for them. -/
def contextOf (s : Storage) (ticker : Ticker) (did : IdentityId) (condition : Condition) :
    Context where
  claims :=
    match condition.conditionType with
    | .isPresent claim | .isAbsent claim =>
      fetchClaims s did claim (trustedIssuers s ticker condition)
    | .isAnyOf claims | .isNoneOf claims =>
      claims.flatMap fun claim => fetchClaims s did claim (trustedIssuers s ticker condition)
    | .isIdentity _ => []
  id := did

theorem fetchContext_within (did : IdentityId) (condition : Condition)
    (hslot : Cached s ticker slot) :
    Within Room (conditionWeight weights s ticker condition)
      (fetchContext weights s ticker did slot condition)
      fun r => r.1 = contextOf s ticker did condition ∧ Cached s ticker r.2 := by
  obtain ⟨hissuers, hslot'⟩ := issuersFor_eq condition hslot
  rw [← add_zero (conditionWeight weights s ticker condition)]
  unfold fetchContext conditionWeight contextOf
  rw [← hissuers]
  cases condition.conditionType with
  | isPresent claim | isAbsent claim | isAnyOf claims | isNoneOf claims =>
    exact (consumeWeightMeter_within _ _).bind fun _ _ => .pure ⟨rfl, hslot'⟩
  | isIdentity target =>
    cases target <;> exact (consumeWeightMeter_within _ _).bind fun _ _ => .pure ⟨rfl, hslot⟩

theorem runProposition_iff (did : IdentityId) (condition : Condition) :
    runProposition condition (contextOf s ticker did condition)
        (fun context => (s.groupOfAgent ticker context.id).isSome) = true ↔
      Holds s ticker did condition := by
  have hpresent : ∀ claim, existsClaim claim
      ⟨fetchClaims s did claim (trustedIssuers s ticker condition), did⟩ = true ↔
        ∃ found, Attested s ticker did condition claim found ∧ Matches claim found := by
    intro claim
    rw [existsClaim_iff]
    exact exists_congr fun found => and_congr_left fun _ => mem_fetchClaims
  have hany : ∀ claims, anyClaim claims ⟨claims.flatMap fun claim =>
      fetchClaims s did claim (trustedIssuers s ticker condition), did⟩ = true ↔
        ∃ claim ∈ claims, ∃ found ∈ claims, Attested s ticker did condition claim found := by
    intro claims
    simp only [anyClaim_iff, List.mem_flatMap, mem_fetchClaims]
    constructor
    · rintro ⟨found, ⟨claim, hclaim, hfound⟩, hmem⟩
      exact ⟨claim, hclaim, found, hmem, hfound⟩
    · rintro ⟨claim, hclaim, found, hmem, hfound⟩
      exact ⟨found, ⟨claim, hclaim, hfound⟩, hmem⟩
  unfold runProposition Holds contextOf
  cases condition.conditionType with
  | isPresent claim => exact hpresent claim
  | isAbsent claim => exact Bool.not_eq_true' _ ▸ (Bool.eq_false_iff.trans (hpresent claim).not)
  | isAnyOf claims => exact hany claims
  | isNoneOf claims => exact Bool.not_eq_true' _ ▸ (Bool.eq_false_iff.trans (hany claims).not)
  | isIdentity target =>
    cases target with
    | externalAgent => rfl
    | specific id => exact beq_iff_eq

/-- **The evaluation of a condition** decides what it says. -/
theorem isConditionSatisfied_within (did : IdentityId) (condition : Condition)
    (hslot : Cached s ticker slot) :
    Within Room (conditionWeight weights s ticker condition)
      (isConditionSatisfied weights s ticker did condition slot)
      fun r => (r.1 = true ↔ Holds s ticker did condition) ∧ Cached s ticker r.2 := by
  rw [← add_zero (conditionWeight weights s ticker condition)]
  refine (fetchContext_within did condition hslot).bind ?_
  rintro ⟨_, slot'⟩ ⟨rfl, hslot'⟩
  exact .pure ⟨runProposition_iff did condition, hslot'⟩

/-! ## Lists of conditions -/

/-- **The lazy evaluation** of the conditions on an identity. -/
theorem checkConditions_within (did : IdentityId) (conditions : List Condition)
    (hslot : Cached s ticker slot) :
    Within Room (conditionsWeight weights s ticker conditions)
      (checkConditions weights s ticker did conditions slot)
      fun holds => holds = true ↔ ∀ c ∈ conditions, Holds s ticker did c := by
  induction conditions generalizing slot with
  | nil => exact .pure (by simp)
  | cons c cs ih =>
    rw [conditionsWeight, List.map_cons, List.sum_cons]
    refine (isConditionSatisfied_within did c hslot).bind ?_
    rintro ⟨holds, slot'⟩ ⟨hholds, hslot'⟩
    cases holds with
    | true =>
      refine (ih hslot').mono fun rest hrest => ?_
      rw [hrest, List.forall_mem_cons]
      exact (and_iff_right (hholds.mp rfl)).symm
    | false =>
      -- the rest is not evaluated, and its weight is not used
      have hnot : ¬ Holds s ticker did c := fun h => Bool.noConfusion (hholds.mpr h)
      rw [← zero_add (cs.map _).sum]
      refine (Within.pure ?_).weaken room_weaken _
      simp [hnot]

/-- **The strict evaluation** of the conditions on an identity. -/
theorem evaluateConditions_within (weights : WeightInfo) (s : Storage) (ticker : Ticker)
    (did : IdentityId) (conditions : List ConditionResult) :
    Within Room (conditionsWeight weights s ticker (conditions.map (·.condition)))
      (evaluateConditions weights s ticker did conditions)
      fun r => r.1 = true ↔ ∀ c ∈ conditions, Holds s ticker did c.condition := by
  rw [conditionsWeight, List.map_map]
  refine Within.foldlM _ (fun (done : List ConditionResult) (r : Bool × List ConditionResult) =>
    r.1 = true ↔ ∀ c ∈ done, Holds s ticker did c.condition) ?_ [] (by simp)
  rintro done c ⟨all, evaluated⟩ hall
  rw [Function.comp_apply, ← add_zero (conditionWeight weights s ticker c.condition)]
  refine (isConditionSatisfied_within did c.condition cached_none).bind ?_
  rintro ⟨holds, slot⟩ ⟨hholds, -⟩
  refine .pure ?_
  simp only [Bool.and_eq_true, List.forall_mem_append, List.forall_mem_singleton]
  exact and_congr hall hholds

end Conditions

/-! ## Requirements -/

section Requirements

variable {weights : WeightInfo} {s : Storage} {ticker : Ticker} {sender receiver : IdentityId}

theorem isAnyRequirementCompliant_within (requirements : List ComplianceRequirement) :
    Within Room (requirements.map (requirementWeight weights s ticker)).sum
      (isAnyRequirementCompliant weights s ticker sender receiver requirements)
      fun verdict => verdict = true ↔ ∃ r ∈ requirements,
        RequirementHolds s ticker sender receiver r := by
  induction requirements with
  | nil => exact .pure (by simp)
  | cons r rs ih =>
    rw [List.map_cons, List.sum_cons, requirementWeight, add_assoc]
    refine (checkConditions_within sender r.senderConditions cached_none).bind ?_
    intro senderHolds hsender
    -- when the requirement fails, the verdict is that of the others
    have hothers : ¬ RequirementHolds s ticker sender receiver r →
        Within Room (rs.map (requirementWeight weights s ticker)).sum
          (isAnyRequirementCompliant weights s ticker sender receiver rs)
          fun verdict => verdict = true ↔ ∃ r' ∈ r :: rs,
            RequirementHolds s ticker sender receiver r' := by
      intro hnot
      refine ih.mono fun verdict hverdict => ?_
      simp [hverdict, hnot]
    cases senderHolds with
    | false =>
      rw [add_comm]
      exact (hothers fun h => Bool.noConfusion (hsender.mpr h.1)).weaken room_weaken _
    | true =>
      refine (checkConditions_within receiver r.receiverConditions cached_none).bind ?_
      intro receiverHolds hreceiver
      cases receiverHolds with
      | false => exact hothers fun h => Bool.noConfusion (hreceiver.mpr h.2)
      | true =>
        rw [← zero_add (rs.map _).sum]
        refine (Within.pure ?_).weaken room_weaken _
        simp only [true_iff]
        exact ⟨r, List.mem_cons_self, hsender.mp rfl, hreceiver.mp rfl⟩

/-- The result of a requirement says whether it is met. -/
def Explains (s : Storage) (ticker : Ticker) (sender receiver : IdentityId)
    (r : ComplianceRequirement) (explained : ComplianceRequirementResult) : Prop :=
  explained.id = r.id ∧ (explained.result = true ↔ RequirementHolds s ticker sender receiver r)

theorem forall_mem_ofCondition {P : Condition → Prop} {conditions : List Condition} :
    (∀ c ∈ conditions.map ConditionResult.ofCondition, P c.condition) ↔ ∀ c ∈ conditions, P c := by
  simp [ConditionResult.ofCondition]

theorem map_condition_ofCondition (conditions : List Condition) :
    (conditions.map ConditionResult.ofCondition).map (·.condition) = conditions := by
  rw [List.map_map]
  exact List.map_id conditions

theorem verifyRequirement_within (r : ComplianceRequirement) :
    Within Room (requirementWeight weights s ticker r)
      (verifyRequirement weights s ticker (some sender) (some receiver) (.ofRequirement r))
      (Explains s ticker sender receiver r) := by
  have hsender := evaluateConditions_within weights s ticker sender
    (r.senderConditions.map .ofCondition)
  have hreceiver := evaluateConditions_within weights s ticker receiver
    (r.receiverConditions.map .ofCondition)
  rw [map_condition_ofCondition] at hsender hreceiver
  rw [requirementWeight, ← add_zero (conditionsWeight weights s ticker r.receiverConditions)]
  refine hsender.bind ?_
  rintro ⟨senderHolds, senderConditions⟩ hs
  refine hreceiver.bind ?_
  rintro ⟨receiverHolds, receiverConditions⟩ hr
  rw [forall_mem_ofCondition] at hs hr
  refine .pure ⟨rfl, ?_⟩
  unfold RequirementHolds
  rw [← hs, ← hr]
  cases senderHolds <;> cases receiverHolds <;> simp [ComplianceRequirementResult.ofRequirement]

/-- **The report** explains every requirement, and its result is whether one of them is met. -/
theorem verifyRestrictionGranular_within :
    Within Room (complianceWeight weights s ticker)
      (verifyRestrictionGranular weights s ticker (some sender) (some receiver))
      fun report => (report.result = true ↔ (s.assetCompliance ticker).paused = true ∨
          ∃ r ∈ (s.assetCompliance ticker).requirements,
            RequirementHolds s ticker sender receiver r) ∧
        List.Forall₂ (Explains s ticker sender receiver) (s.assetCompliance ticker).requirements
          report.requirements := by
  unfold verifyRestrictionGranular
  rw [← add_zero (complianceWeight weights s ticker)]
  simp only [AssetComplianceResult.ofCompliance, List.foldlM_map]
  refine Within.bind (Within.foldlM (requirementWeight weights s ticker)
    (fun done r => (r.1 = true ↔ (s.assetCompliance ticker).paused = true ∨
      ∃ r' ∈ done, RequirementHolds s ticker sender receiver r') ∧
        List.Forall₂ (Explains s ticker sender receiver) done r.2) ?_ [] ⟨by simp, .nil⟩)
    fun r hr => .pure hr
  rintro done r ⟨result, verified⟩ ⟨hresult, hverified⟩
  rw [← add_zero (requirementWeight weights s ticker r)]
  refine (verifyRequirement_within r).bind fun explained hexplained => .pure ⟨?_, ?_⟩
  · simp only [Bool.or_eq_true, List.mem_append, List.mem_singleton]
    rw [hresult, hexplained.2, or_assoc]
    refine or_congr_right ⟨?_, ?_⟩
    · rintro (⟨r', hmem, h⟩ | h)
      · exact ⟨r', .inl hmem, h⟩
      · exact ⟨r, .inr rfl, h⟩
    · rintro ⟨r', hmem | rfl, h⟩
      · exact .inl ⟨r', hmem, h⟩
      · exact .inr h
  · exact List.rel_append hverified (.cons hexplained .nil)

theorem isCompliant_within :
    Within Room (complianceWeight weights s ticker)
      (isCompliant weights s ticker sender receiver)
      fun verdict => verdict = true ↔ (s.assetCompliance ticker).paused = true ∨
        ∃ r ∈ (s.assetCompliance ticker).requirements,
          RequirementHolds s ticker sender receiver r := by
  unfold isCompliant
  split_ifs with hpaused
  · rw [← zero_add (complianceWeight weights s ticker)]
    exact (Within.pure (by simp [hpaused])).weaken room_weaken _
  · exact (isAnyRequirementCompliant_within _).mono fun verdict hverdict => by
      simp [hverdict, hpaused]

end Requirements

/-! ## Verdict and report -/

/-- **The verdict and its explanation agree**: with meters that do not run out, both evaluators
return, the verdict is the result of the report, and each requirement's result there is whether
all its conditions on the sender and on the receiver hold. -/
theorem compliance_explained (weights : WeightInfo) (s : Storage) (ticker : Ticker)
    (sender receiver : IdentityId) {m m' : WeightMeter}
    (hm : Room (complianceWeight weights s ticker) m)
    (hm' : Room (complianceWeight weights s ticker) m') :
    ∃ verdict m₁ report m₂,
      isCompliant weights s ticker sender receiver m = (.ok verdict, m₁) ∧
      verifyRestrictionGranular weights s ticker (some sender) (some receiver) m' =
        (.ok report, m₂) ∧
      (verdict = true ↔ report.result = true) ∧
      List.Forall₂ (fun r explained => explained.id = r.id ∧ (explained.result = true ↔
          (∀ c ∈ r.senderConditions, Holds s ticker sender c) ∧
            ∀ c ∈ r.receiverConditions, Holds s ticker receiver c))
        (s.assetCompliance ticker).requirements report.requirements := by
  obtain ⟨verdict, m₁, hrun, hverdict, -⟩ := isCompliant_within 0 m (by rwa [add_zero])
  obtain ⟨report, m₂, hrun', ⟨hresult, hexplained⟩, -⟩ :=
    verifyRestrictionGranular_within 0 m' (by rwa [add_zero])
  exact ⟨verdict, m₁, report, m₂, hrun, hrun', hverdict.trans hresult.symm, hexplained⟩

/-- The asset asks that senders are accredited by its default issuer and that receivers are not
blocked, or else that the third identity receives. The first identity is accredited, and the third
is blocked. -/
def accreditedSenders : Storage where
  assetCompliance := fun _ =>
    ⟨false, [⟨[⟨.isPresent (.accredited (.ticker ⟨1⟩)), []⟩],
        [⟨.isAbsent (.blocked (.ticker ⟨1⟩)), []⟩, ⟨.isNoneOf [.exempted (.ticker ⟨1⟩)], []⟩], 1⟩,
      ⟨[], [⟨.isIdentity (.specific ⟨3⟩), []⟩], 2⟩]⟩
  trustedClaimIssuer := fun _ => [⟨⟨9⟩, .any⟩]
  fetchClaim := fun did type issuer scope =>
    if did = ⟨1⟩ ∧ type = .accredited ∧ issuer = ⟨9⟩ then scope.map .accredited
    else if did = ⟨3⟩ ∧ type = .blocked ∧ issuer = ⟨9⟩ then scope.map .blocked
    else none
  groupOfAgent := fun _ _ => none

/-- A transfer from the first to the third identity meets the second requirement only. -/
theorem compliance_explained_second :
    let weights : WeightInfo :=
      ⟨fun m w => if m.consumed + w ≤ m.limit then some { m with consumed := m.consumed + w } else none,
        fun h => if_pos ⟨h.refTime, h.proofSize⟩,
        fun claims defaults => (claims + defaults, 1), fun _ => (1, 1)⟩
    let m : WeightMeter := ⟨(0, 0), (100, 100)⟩
    Room (complianceWeight weights accreditedSenders ⟨1⟩) m ∧
      (isCompliant weights accreditedSenders ⟨1⟩ ⟨1⟩ ⟨3⟩ m).1 = .ok true ∧
      ∃ report m', verifyRestrictionGranular weights accreditedSenders ⟨1⟩ (some ⟨1⟩) (some ⟨3⟩) m =
        (.ok report, m') ∧ report.result = true := by
  intro weights m
  have hm : Room (complianceWeight weights accreditedSenders ⟨1⟩) m :=
    ⟨by decide, by decide, by decide, by decide⟩
  have hverdict : (isCompliant weights accreditedSenders ⟨1⟩ ⟨1⟩ ⟨3⟩ m).1 = .ok true := by
    decide +kernel
  obtain ⟨verdict, m₁, report, m₂, hrun, hrun', hagree, -⟩ :=
    compliance_explained weights accreditedSenders ⟨1⟩ ⟨1⟩ ⟨3⟩ hm hm
  refine ⟨hm, hverdict, report, m₂, hrun', hagree.mp ?_⟩
  rw [hrun] at hverdict
  exact Except.ok.inj hverdict

end ComplianceManager

end Polymesh
