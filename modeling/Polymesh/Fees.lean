import Polymesh.Runtime

/-!
# Protocol fees

The protocol fees of `pallets/protocol-fee/src/lib.rs` are charged to the balance of a payer. A fee
is a sum of base fees times a coefficient, which counts as one if it is above one. An identity
creates an asset either at once, for a ticker that is free, or in two calls, of which the first
registers the ticker. The creation of an asset is only charged for together with the registration
of its ticker, so that the second route is cheaper by the fee of the creation.
-/

namespace Polymesh

open Transactional Tx

namespace ProtocolFee

/-- How much a product with a rounded ratio may be off, times the denominator. -/
def slack (sum d : ℕ) : ℕ := sum * d / 10 ^ 9 + d

/-- **The arithmetic of `Perbill`**, which is not part of the repository: the product of the ratio
`n / d`, in parts per billion, and a balance. -/
structure Perbill where
  mul : ℕ → ℕ → ℕ → ℕ
  /-- A ratio up to one is off by less than a billionth, and its product by a unit. -/
  near {n d : ℕ} (hle : n ≤ d) (hd : 0 < d) (sum : ℕ) :
    (mul n d sum * d - sum * n : ℤ).natAbs ≤ slack sum d
  /-- What exceeds one counts as one. -/
  saturates {n d : ℕ} (hle : d ≤ n) (hd : 0 < d) (sum : ℕ) : mul n d sum = sum
  zero_mul {d : ℕ} (hd : 0 < d) (sum : ℕ) : mul 0 d sum = 0

/-- What the fees are computed from: the base fee of each operation, and the coefficient. -/
structure Schedule extends Perbill where
  baseFees : ProtocolOp → ℕ
  numerator : ℕ
  denominator : ℕ

variable (fees : Schedule)

/-- The fee of some operations together. -/
def computeFee (ops : List ProtocolOp) : ℕ :=
  fees.mul fees.numerator fees.denominator (ops.foldl (fun a op => a + fees.baseFees op) 0)

/-- `charge_fees`: the fee is withdrawn from the balance of the payer. -/
def chargeFees (ops : List ProtocolOp) : Tx ℕ DispatchError Unit := do
  if ops.isEmpty then return ()
  let fee := computeFee fees ops
  onlyIf (fee ≠ 0) do
    let balance ← get
    Tx.ensure (fee ≤ balance) (.other 0)
    Tx.modify (· - fee)

/-! ## The coefficient -/

theorem computeFee_eq (ops : List ProtocolOp) : computeFee fees ops =
    fees.mul fees.numerator fees.denominator (ops.map fees.baseFees).sum := by
  rw [computeFee, List.sum_eq_foldl, List.foldl_map]

/-- The arithmetic that rounds the parts down, and the product to the nearest number. -/
def Perbill.nearest : Perbill where
  mul n d sum := (sum * (if d ≤ n then 10 ^ 9 else 10 ^ 9 * n / d) + 499999999) / 10 ^ 9
  near {n d} hle hd sum := by
    have hparts : (if d ≤ n then 10 ^ 9 else 10 ^ 9 * n / d) = 10 ^ 9 * n / d := by
      split
      · rw [le_antisymm hle ‹_›, Nat.mul_div_cancel _ hd]
      · rfl
    rw [hparts, slack]
    have hparts := Nat.div_mul_le_self (10 ^ 9 * n) d
    have hparts' := (Nat.lt_div_mul_add hd (a := 10 ^ 9 * n)).le
    generalize 10 ^ 9 * n / d = parts at *
    have hfee := Nat.div_mul_le_self (sum * parts + 499999999) (10 ^ 9)
    have hfee' := Nat.lt_div_mul_add (a := sum * parts + 499999999) (b := 10 ^ 9) (by decide)
    generalize (sum * parts + 499999999) / 10 ^ 9 = fee at *
    -- each bound times what it lacks, so that all are linear in the same products
    have h₁ := Nat.mul_le_mul_left sum hparts
    have h₂ := Nat.mul_le_mul_left sum hparts'
    have h₃ := Nat.mul_le_mul_right d hfee
    have h₄ := Nat.mul_le_mul_right d hfee'.le
    simp only [Nat.add_mul, Nat.mul_add, Nat.mul_left_comm sum, Nat.mul_right_comm fee,
      Nat.mul_assoc sum] at h₁ h₂ h₃ h₄
    rw [← Int.natCast_mul, ← Int.natCast_mul]
    omega
  saturates {n d} hle hd sum := by
    rw [if_pos hle]
    omega
  zero_mul hd sum := by simp [hd.ne']

theorem chargeFees_cons {op : ProtocolOp} {ops : List ProtocolOp} {balance : ℕ} {u : Unit} :
    (chargeFees fees (op :: ops) balance).1 = .ok u ↔ computeFee fees (op :: ops) ≤ balance := by
  by_cases hfee : computeFee fees (op :: ops) = 0
  · simp [chargeFees, onlyIf, hfee, pure]
  · by_cases hle : computeFee fees (op :: ops) ≤ balance <;>
      simp [chargeFees, onlyIf, hfee, hle, bind, Tx.get, Tx.ensure, Tx.modify, Transactional.ensure]

end ProtocolFee

open ProtocolFee

/-- The fees of the calls are charged to a payer with the given balance. -/
def Env.payingFrom (env : Env) (fees : Schedule) (balance : ℕ) : Env :=
  { env with chargeFees := fun ops _ => (ProtocolFee.chargeFees fees ops balance).1 }

/-- **What a call charges**: it succeeds for the payers whose balance covers the fee, and for no
other. -/
def Charges (fees : Schedule) (env : Env) (origin : RuntimeOrigin) (call : Call) (s : Storage)
    (fee : ℕ) : Prop :=
  ∀ balance, (∃ s', dispatch (env.payingFrom fees balance) origin call s = (.ok (), s')) ↔
    fee ≤ balance

/-- **A payer makes some calls.** Each of them starts from the storage and from the balance that the
one before has left. -/
inductive Pays (fees : Schedule) (env : Env) :
    List (RuntimeOrigin × Call) → Storage → ℕ → Storage → ℕ → Prop
  | done (s : Storage) (balance : ℕ) : Pays fees env [] s balance s balance
  | call {origin : RuntimeOrigin} {call : Call} {calls : List (RuntimeOrigin × Call)}
      {s s₁ s' : Storage} {fee balance left : ℕ} (hfee : Charges fees env origin call s fee)
      (hcall : dispatch (env.payingFrom fees balance) origin call s = (.ok (), s₁))
      (hcalls : Pays fees env calls s₁ (balance - fee) s' left) :
      Pays fees env ((origin, call) :: calls) s balance s' left

variable {fees : Schedule} {env : Env} {origin origin' : RuntimeOrigin} {call : Call}
  {ticker : Ticker} {divisible : Bool} {assetType : AssetType} {did : IdentityId}
  {s s' s₁ s₂ : Storage} {fee fee' balance : ℕ}

/-- A call that asks for the balance to cover a fee, beside checks that do not depend on the
balance, charges this fee. -/
theorem charges_iff_of {P : Prop}
    (hiff : ∀ balance, (∃ s', dispatch (env.payingFrom fees balance) origin call s = (.ok (), s')) ↔
      P ∧ fee' ≤ balance) :
    Charges fees env origin call s fee ↔ P ∧ fee = fee' := by
  constructor
  · intro h
    have hp : P := ((hiff fee).mp ((h fee).mpr le_rfl)).1
    refine ⟨hp, eq_of_forall_ge_iff fun balance => ?_⟩
    rw [← h balance, hiff balance, and_iff_right hp]
  · rintro ⟨hp, rfl⟩ balance
    rw [hiff balance, and_iff_right hp]

/-- The environment of a call whose operations are free. -/
def Env.free (env : Env) : Env :=
  { env with chargeFees := fun _ _ => .ok () }

theorem charges_registerTicker :
    Charges fees env origin (.registerTicker ticker) s fee ↔
      (∃ s', Asset.registerTicker env.free origin ticker s = (.ok (), s')) ∧
        fee = computeFee fees [.assetRegisterTicker] := by
  refine charges_iff_of fun balance => ?_
  simp only [dispatch, Asset.registerTicker, Env.payingFrom, Env.free, run_ok, bind_ok, chargeFees_cons]
  constructor
  · rintro ⟨_, did, _, hperms, expiry, _, hchecks, _, _, ⟨hfee, rfl⟩, -⟩
    exact ⟨⟨_, did, _, hperms, expiry, _, hchecks, (), _, ⟨trivial, rfl⟩, rfl⟩, hfee⟩
  · rintro ⟨⟨_, did, _, hperms, expiry, _, hchecks, _, _, ⟨-, rfl⟩, -⟩, hfee⟩
    exact ⟨_, did, _, hperms, expiry, _, hchecks, (), _, ⟨hfee, rfl⟩, rfl⟩

/-- The creation of an asset is charged for only if its ticker is registered with it. -/
theorem charges_createAsset (available : Bool) (hdid : env.ensurePerms origin = .ok did)
    (havailable : Asset.ensureTickerForAsset ticker did s = .ok available) :
    Charges fees env origin (.createAsset ticker divisible assetType) s fee ↔
      (∃ s', Asset.createAsset env.free origin ticker divisible assetType s = (.ok (), s')) ∧
        fee = if available then computeFee fees [.assetRegisterTicker, .assetCreateAsset]
          else 0 := by
  refine charges_iff_of fun balance => ?_
  obtain ⟨data, hdata, rfl⟩ : ∃ data, env.ensureOriginCallPermissions origin = .ok data ∧
      data.primaryDid = did := by
    simpa [Env.ensurePerms] using hdid
  cases available
  · simp [dispatch, Asset.createAsset, Asset.unsafeCreateAsset, Env.payingFrom, Env.free, hdata,
      havailable]
  · simp [dispatch, Asset.createAsset, Asset.unsafeCreateAsset, Env.payingFrom, Env.free, hdata,
      havailable, chargeFees_cons, and_assoc]

/-- A ticker that was just registered is that of its owner: the registration ends in the future. -/
theorem ensureTickerForAsset_registerTicker (hdid : env.ensurePerms origin = .ok did)
    (h : Asset.registerTicker env origin ticker s = (.ok (), s')) :
    Asset.ensureTickerForAsset ticker did s' = .ok false := by
  simp [Asset.registerTicker, Asset.tickerRegistrationChecks, hdid] at h
  obtain ⟨-, -, rfl⟩ := h
  have hexpiry : ¬ ∃ expiry ∈ env.registrationLength.map (s.system.now + ·),
      expiry < s.system.now := by
    simp
  have hticker (expiry : Option Moment) :
      (Asset.unverifiedRegisterTicker ticker did expiry s.asset).tickers ticker =
        some ⟨did, expiry⟩ :=
    Function.update_self ..
  simp only [Asset.ensureTickerForAsset, Asset.isTickerAvailableOrRegisteredTo, Storage.mapAsset,
    hticker, if_neg hexpiry, if_true]

/-- Fees for the registration, and for registration and creation, are equal if the creation is free;
otherwise what it costs is lost in the rounding. -/
theorem computeFee_create (fees : Schedule) (hd : 0 < fees.denominator) :
    let both := computeFee fees [.assetRegisterTicker, .assetCreateAsset]
    let register := fees.baseFees .assetRegisterTicker
    let create := fees.baseFees .assetCreateAsset
    (create = 0 ∨ fees.numerator = 0 → both = computeFee fees [.assetRegisterTicker]) ∧
      (both = computeFee fees [.assetRegisterTicker] →
        create * min fees.numerator fees.denominator ≤
          slack (register + create) fees.denominator + slack register fees.denominator) := by
  simp only [computeFee_eq, List.map_cons, List.map_nil, List.sum_cons, List.sum_nil, add_zero]
  generalize fees.baseFees .assetRegisterTicker = register
  generalize fees.baseFees .assetCreateAsset = create
  refine ⟨fun hfree => ?_, fun hequal => ?_⟩
  · rcases hfree with rfl | hzero
    · rfl
    · rw [hzero, fees.zero_mul hd, fees.zero_mul hd]
  · rcases le_total fees.numerator fees.denominator with hle | hge
    · have hboth := fees.near hle hd (register + create)
      have hregister := fees.near hle hd register
      rw [hequal] at hboth
      simp only [← Int.natCast_mul, add_mul] at hboth hregister
      rw [min_eq_left hle]
      omega
    · rw [fees.saturates hge hd, fees.saturates hge hd, Nat.add_eq_left] at hequal
      simp [hequal]

/-- **The routes to a new asset cost the same** if its creation is free or the coefficient is zero,
and otherwise only if what the creation costs is lost in the rounding. -/
theorem creation_fees_equal {left₁ left₂ : ℕ}
    (hdid : env.ensurePerms origin = .ok did) (hdid' : env.ensurePerms origin' = .ok did)
    (hfresh : Asset.isTickerAvailableOrRegisteredTo ticker did s = .available)
    (hd : 0 < fees.denominator)
    (hdirect : Pays fees env [(origin', .createAsset ticker divisible assetType)] s balance s₁ left₁)
    (hroute : Pays fees env [(origin, .registerTicker ticker),
      (origin', .createAsset ticker divisible assetType)] s balance s₂ left₂) :
    let register := fees.baseFees .assetRegisterTicker
    let create := fees.baseFees .assetCreateAsset
    (create = 0 ∨ fees.numerator = 0 → left₁ = left₂) ∧
      (left₁ = left₂ → create * min fees.numerator fees.denominator ≤
        slack (register + create) fees.denominator + slack register fees.denominator) := by
  obtain - | ⟨hfee, hcall, ⟨⟩⟩ := hdirect
  obtain - | ⟨hfirst, hregister, - | ⟨hsecond, -, ⟨⟩⟩⟩ := hroute
  have havailable : Asset.ensureTickerForAsset ticker did s = .ok true := by
    simp [Asset.ensureTickerForAsset, hfresh]
  have hpaying : (env.payingFrom fees balance).ensurePerms origin = .ok did := hdid
  have hregistered : Asset.ensureTickerForAsset ticker did _ = .ok false :=
    ensureTickerForAsset_registerTicker hpaying hregister
  have hcovers := (hfee balance).mp ⟨_, hcall⟩
  have hcovers' := (hfirst balance).mp ⟨_, hregister⟩
  obtain ⟨-, rfl⟩ := (charges_createAsset _ hdid' havailable).mp hfee
  obtain ⟨-, rfl⟩ := charges_registerTicker.mp hfirst
  obtain ⟨-, rfl⟩ := (charges_createAsset _ hdid' hregistered).mp hsecond
  obtain ⟨hfree, hlost⟩ := computeFee_create fees hd
  refine ⟨fun h => ?_, fun h => hlost ?_⟩
  · have := hfree h
    simp_all
  · simp_all
    omega

/-- A key registers a ticker that is free, and then creates its asset. -/
def registeredFirst : List (RuntimeOrigin × Call) :=
  [(.signed ⟨1⟩, .registerTicker ⟨5⟩), (.signed ⟨1⟩, .createAsset ⟨5⟩ true .equityCommon)]

/-- The registration costs one unit, and the creation the given number of units. -/
def unitFees (create : ℕ) : Schedule :=
  ⟨.nearest, fun op => if op = .assetCreateAsset then create else 1, 1, 1⟩

theorem pays_routes (create : ℕ) {fee : ℕ} {s : Storage}
    (hfee : computeFee (unitFees create) [.assetRegisterTicker, .assetCreateAsset] = fee)
    (hle : fee ≤ 10)
    (hregister : dispatch (Env.consenting.payingFrom (unitFees create) 10) (.signed ⟨1⟩)
      (.registerTicker ⟨5⟩) genesis = (.ok (), s))
    (hcreate : ∃ s', Asset.createAsset Env.consenting.free (.signed ⟨1⟩) ⟨5⟩ true .equityCommon s =
      (.ok (), s')) :
    (∃ s', Pays (unitFees create) .consenting registeredFirst.tail genesis 10 s' (10 - fee)) ∧
      ∃ s', Pays (unitFees create) .consenting registeredFirst genesis 10 s' 9 := by
  have hdirect : Charges (unitFees create) .consenting (.signed ⟨1⟩)
      (.createAsset ⟨5⟩ true .equityCommon) genesis fee :=
    (charges_createAsset true rfl rfl).mpr ⟨⟨_, rfl⟩, by rw [if_pos rfl, hfee]⟩
  have hfirst : Charges (unitFees create) .consenting (.signed ⟨1⟩) (.registerTicker ⟨5⟩) genesis 1 :=
    charges_registerTicker.mpr ⟨⟨_, rfl⟩, ((unitFees create).saturates le_rfl Nat.one_pos 1).symm⟩
  have hregistered : Asset.ensureTickerForAsset ⟨5⟩ ⟨1⟩ s = .ok false :=
    ensureTickerForAsset_registerTicker rfl hregister
  have hsecond : Charges (unitFees create) .consenting (.signed ⟨1⟩)
      (.createAsset ⟨5⟩ true .equityCommon) s 0 :=
    (charges_createAsset false rfl hregistered).mpr ⟨hcreate, rfl⟩
  obtain ⟨s₁, hs₁⟩ := (hdirect 10).mpr hle
  obtain ⟨s₂, hs₂⟩ := (hsecond 9).mpr (Nat.zero_le _)
  exact ⟨⟨s₁, .call hdirect hs₁ (.done ..)⟩, s₂,
    .call hfirst hregister (.call hsecond hs₂ (.done ..))⟩

/-- If only the registration costs something, both routes leave the same. -/
theorem creation_fees_equal_free : ∃ s₁ left₁ s₂ left₂,
    Pays (unitFees 0) .consenting registeredFirst.tail genesis 10 s₁ left₁ ∧
      Pays (unitFees 0) .consenting registeredFirst genesis 10 s₂ left₂ ∧ left₁ = left₂ := by
  obtain ⟨⟨s₁, hdirect⟩, s₂, hroute⟩ := pays_routes 0 rfl (by decide) rfl ⟨_, rfl⟩
  exact ⟨s₁, _, s₂, _, hdirect, hroute,
    (creation_fees_equal rfl rfl rfl (by decide) hdirect hroute).1 (.inl rfl)⟩

/-- If the creation costs a unit as well, it is not paid for by a key that registers the ticker
first. -/
theorem creation_fees_registered_first :
    (∃ s, Pays (unitFees 1) .consenting registeredFirst.tail genesis 10 s 8) ∧
      ∃ s, Pays (unitFees 1) .consenting registeredFirst genesis 10 s 9 :=
  pays_routes 1 rfl (by decide) rfl ⟨_, rfl⟩

end Polymesh
