import Polymesh.Governance.Providers

/-!
# The leeway of customer due diligence

An identity is in good standing if it, or its parent, has a claim of customer due diligence that lasts
for some leeway from now (`pallets/identity/src/claims.rs`). A moment that is too late for 64 bits is
taken for the very start, at which almost every claim is valid. So a longer leeway is harder to meet
unless it overflows and the shorter one does not.
-/

namespace Polymesh

namespace Governance

/-- The claims of customer due diligence about every identity, in the order of the storage, and the
parents of identities. -/
structure ClaimsStorage where
  claims : IdentityId → List IdentityClaim
  parentDid : IdentityId → Option IdentityId

variable {moment moment' leeway leeway' now : Moment} {claim : IdentityClaim} {s : Storage}

namespace ClaimsStorage

variable (c : ClaimsStorage) (claimFor : IdentityId) (leeway : Moment)

def baseFetchParentCddClaims (includeParent : Bool) : List IdentityClaim :=
  if includeParent then (c.parentDid claimFor).elim [] c.claims else []

/-- The valid claims, whatever their CDD id. -/
def baseFetchValidCddClaims (includeParent : Bool) (s : Storage) : List IdentityClaim :=
  (c.claims claimFor ++ c.baseFetchParentCddClaims claimFor includeParent).filter
    (isCddClaimValid leeway · s)

def fetchCdd (s : Storage) : Option IdentityId :=
  ((c.baseFetchValidCddClaims claimFor leeway true s).map IdentityClaim.claimIssuer).head?

theorem fetchCdd_isSome_iff : (c.fetchCdd claimFor leeway s).isSome ↔
    ∃ claim ∈ c.claims claimFor ++ c.baseFetchParentCddClaims claimFor true,
      isCddClaimValid leeway claim s = true := by
  rw [fetchCdd, List.isSome_head?, ne_eq, List.map_eq_nil_iff, baseFetchValidCddClaims,
    List.filter_eq_nil_iff]
  push Not
  rfl

end ClaimsStorage

theorem expWithLeeway_of_lt (h : s.now + leeway < 2 ^ 64) :
    expWithLeeway leeway s = s.now + leeway := by
  rw [expWithLeeway, checkedAdd, if_pos h, Option.getD_some]

theorem expWithLeeway_of_le (h : 2 ^ 64 ≤ s.now + leeway) : expWithLeeway leeway s = 0 := by
  rw [expWithLeeway, checkedAdd, if_neg (Nat.not_lt.mpr h), Option.getD_none]

theorem isCddClaimValid_mono (hle : expWithLeeway leeway s ≤ expWithLeeway leeway' s)
    (h : isCddClaimValid leeway' claim s = true) : isCddClaimValid leeway claim s = true := by
  simp only [isCddClaimValid, Bool.and_eq_true, Bool.or_eq_true] at h ⊢
  obtain ⟨hexpiry, hissuer⟩ := h
  refine ⟨?_, hissuer.imp_right fun hinactive => ?_⟩
  · unfold isIdentityClaimNotExpiredAt at hexpiry ⊢
    split at hexpiry
    · exact decide_eq_true (hle.trans_lt (of_decide_eq_true hexpiry))
    · rfl
  · obtain ⟨member, hmem, hid, hnow, hmoment, hlt⟩ := isInactive_iff.mp hinactive
    refine isInactive_iff.mpr ⟨member, hmem, hid, hnow, ?_, hlt⟩
    -- a provider that has expired before has expired later on
    by_contra hexpired
    rw [isMemberExpired_mono hle (by simpa using hexpired)] at hmoment
    cases hmoment

/-- **A longer leeway is harder to meet** by whoever has whatever claims, if and only if it does not
overflow or the shorter one overflows as well. -/
theorem cdd_leeway_monotone_iff (hle : leeway ≤ leeway') (hmax : leeway' < 2 ^ 64) :
    (∀ (c : ClaimsStorage) (s : Storage) (did : IdentityId), s.now = now →
      (c.fetchCdd did leeway' s).isSome → (c.fetchCdd did leeway s).isSome) ↔
      now + leeway' < 2 ^ 64 ∨ 2 ^ 64 ≤ now + leeway := by
  constructor
  · intro h
    by_contra hover
    push Not at hover
    -- a claim of the chain itself that expires with the shorter leeway
    let claim : IdentityClaim := ⟨SystematicIssuers.asId .cddProvider, 0, some (now + leeway)⟩
    let c : ClaimsStorage := ⟨fun _ => [claim], fun _ => none⟩
    let s : Storage := { genesis [] 0 (1, 2) with now }
    have hvalid : ∀ l, isCddClaimValid l claim s = true ↔ expWithLeeway l s < now + leeway := by
      intro l
      simp [isCddClaimValid, isIdentityClaimNotExpiredAt, isSystematicCddProvider, claim]
    have hlong : isCddClaimValid leeway' claim s = true := by
      rw [hvalid, expWithLeeway_of_le hover.1]
      by_contra hzero
      obtain ⟨rfl, -⟩ := Nat.add_eq_zero_iff.mp (Nat.le_zero.mp (Nat.not_lt.mp hzero))
      exact absurd hmax (by simpa using hover.1)
    obtain ⟨claim', hmem, hshort⟩ := (c.fetchCdd_isSome_iff ⟨0⟩ leeway).mp
      (h c s ⟨0⟩ rfl ((c.fetchCdd_isSome_iff ⟨0⟩ leeway').mpr ⟨claim, by simp [c], hlong⟩))
    obtain rfl : claim' = claim := by
      simpa [c, ClaimsStorage.baseFetchParentCddClaims] using hmem
    rw [hvalid, expWithLeeway_of_lt hover.2] at hshort
    exact lt_irrefl _ hshort
  · rintro hover c s did rfl hsome
    obtain ⟨claim, hmem, hvalid⟩ := (c.fetchCdd_isSome_iff did leeway').mp hsome
    refine (c.fetchCdd_isSome_iff did leeway).mpr ⟨claim, hmem, isCddClaimValid_mono ?_ hvalid⟩
    rcases hover with hlt | hge
    · have hsum : s.now + leeway ≤ s.now + leeway' := Nat.add_le_add_left hle _
      rwa [expWithLeeway_of_lt hlt, expWithLeeway_of_lt (hsum.trans_lt hlt)]
    · rw [expWithLeeway_of_le hge]
      exact Nat.zero_le _

/-- An identity whose claim expires at 5, and its child. -/
def parentClaim : ClaimsStorage where
  claims did := if did = ⟨1⟩ then [⟨SystematicIssuers.asId .cddProvider, 0, some 5⟩] else []
  parentDid did := if did = ⟨2⟩ then some ⟨1⟩ else none

/-- A claim that has expired is valid with a leeway that overflows. -/
theorem cdd_leeway_overflow :
    let s : Storage := { genesis [] 0 (1, 2) with now := 10 }
    (parentClaim.fetchCdd ⟨2⟩ (2 ^ 64 - 1) s).isSome ∧ (parentClaim.fetchCdd ⟨2⟩ 0 s).isSome = false := by
  decide +kernel

/-- A claim that is valid at 4 is valid at 2. -/
theorem cdd_leeway_monotone_iff_child :
    let s : Storage := { genesis [] 0 (1, 2) with now := 2 }
    (parentClaim.fetchCdd ⟨2⟩ 2 s).isSome ∧ (parentClaim.fetchCdd ⟨2⟩ 0 s).isSome := by
  intro s
  have hlate : (parentClaim.fetchCdd ⟨2⟩ 2 s).isSome := by decide +kernel
  refine ⟨hlate, ?_⟩
  exact (cdd_leeway_monotone_iff (Nat.zero_le 2) (by decide)).mpr (.inl (by decide)) parentClaim s
    ⟨2⟩ rfl hlate

end Governance

end Polymesh
