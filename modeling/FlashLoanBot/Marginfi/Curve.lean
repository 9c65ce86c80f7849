import FlashLoanBot.Marginfi.InterestRate

/-!
# marginfi: interest curves

When the configuration of a bank's interest rate is accepted, and what the base rate then is as
a function of the utilization.

* `collectUsed`, `checkAscending`, `validateSevenPoint`, `validateLegacy`, `validate`: the check
  that a configuration has to pass;
* `lerp_at`, `lerp_between`, `lerp_mono`: one linear segment;
* `Rises`: a list of points that is walked upwards, with `walkPoints_total`, `walkPoints_mono` and
  `walkPoints_through`;
* `Interpolates`: a rate for every utilization, rising, through given points;
* `validateSevenPoint_interpolates`, `validateLegacy_interpolates`: an accepted configuration has
  such a curve.
-/

namespace Marginfi

open Solana Checked
open FixedPoint (exists_ofBits exists_checkedDiv ofBits?_eq_some)

/-! ### Validation -/

/-- `MarginfiError::InvalidConfig` -/
def errInvalidConfig : ProgramError := .custom 6015

/-- The points in use, in order; behind the first unused point all must be unused. -/
def collectUsed : List RatePoint → Bool → Result (List RatePoint)
  | [], _ => .ok []
  | p :: points, seenPadding =>
      if p.util = 0 then do
        ensure (p.rate = 0) errInvalidConfig
        collectUsed points true
      else do
        ensure (seenPadding = false) errInvalidConfig
        let used ← collectUsed points false
        .ok (p :: used)

/-- Utilizations increase strictly, and rates do not decrease. -/
def checkAscending : List RatePoint → Result Unit
  | prev :: curr :: points => do
      ensure (prev.util < curr.util) errInvalidConfig
      ensure (prev.rate ≤ curr.rate) errInvalidConfig
      checkAscending (curr :: points)
  | _ => .ok ()

namespace InterestRateConfig

/-- `validate_seven_point` -/
def validateSevenPoint (config : InterestRateConfig) : Result Unit := do
  let used ← collectUsed config.points.toList false
  checkAscending used
  ensure (config.zeroUtilRate ≤ config.hundredUtilRate) errInvalidConfig
  ensure (∀ p ∈ used, config.zeroUtilRate ≤ p.rate ∧ p.rate ≤ config.hundredUtilRate)
    errInvalidConfig

/-- `validate_legacy` -/
def validateLegacy (config : InterestRateConfig) : Result Unit := do
  ensure (0 < config.optimalUtilizationRate ∧ config.optimalUtilizationRate < .one)
    errInvalidConfig
  ensure (0 < config.plateauInterestRate) errInvalidConfig
  ensure (0 < config.maxInterestRate) errInvalidConfig
  ensure (config.plateauInterestRate < config.maxInterestRate) errInvalidConfig

/-- `validate` -/
def validate (config : InterestRateConfig) : Result Unit :=
  if config.curveType = 0 then config.validateLegacy
  else if config.curveType = 1 then config.validateSevenPoint
  else .error .panicked

end InterestRateConfig

/-! ### Conversions -/

theorem bits_one : I80F48.one.bits = 2 ^ 48 := by simp [I80F48.one, I80F48.ofNat]

theorem tdiv_scaled {a n m : ℤ} (ha : 0 ≤ a) (hm : 0 < m) :
    (a * m * m).tdiv (n * m) = a * m / n := by
  rw [Int.tdiv_eq_ediv_of_nonneg (by positivity), Int.mul_ediv_mul_of_pos_left _ _ hm]

/-- A `u32` as a utilization. -/
theorem utilFromU32_spec (u : UInt32) :
    ∃ x, utilFromU32 u = .ok x ∧ x.bits = u.toNat * 2 ^ 48 / (2 ^ 32 - 1) := by
  have hu := u.toNat_lt
  have hbits : (I80F48.ofU32 u).bits = u.toNat * 2 ^ 48 := rfl
  have hmax : (I80F48.ofU32 0xffffffff).bits = (2 ^ 32 - 1) * 2 ^ 48 := rfl
  have hdiv := tdiv_scaled (n := 2 ^ 32 - 1) (Int.natCast_nonneg u.toNat)
    (pow_pos two_pos 48)
  refine ⟨⟨u.toNat * 2 ^ 48 / (2 ^ 32 - 1), by omega, by omega⟩, ?_, rfl⟩
  simp only [utilFromU32, orPanic, fromOption_eq_ok, FixedPoint.checkedDiv, hbits, hmax, hdiv]
  rw [if_neg (by norm_num)]
  exact ofBits?_eq_some.mpr rfl

/-- A `u32` as a rate. -/
theorem rateFromU32_spec (r : UInt32) :
    ∃ x, rateFromU32 r = .ok x ∧ x.bits = 10 * (r.toNat * 2 ^ 48 / (2 ^ 32 - 1)) := by
  have hr := r.toNat_lt
  obtain ⟨ratio, hratio, hbits⟩ := utilFromU32_spec r
  have hten : (I80F48.ofU32 10).bits = 10 * 2 ^ 48 := rfl
  refine ⟨⟨10 * (r.toNat * 2 ^ 48 / (2 ^ 32 - 1)), by omega, by omega⟩, ?_, rfl⟩
  refine bind_eq_ok.mpr ⟨ratio, hratio, ?_⟩
  rw [orPanic, fromOption_eq_ok]
  refine ofBits?_eq_some.mpr ?_
  show 10 * (r.toNat * 2 ^ 48 / (2 ^ 32 - 1) : ℤ) = _
  rw [hbits, hten]
  omega

/-- Different utilizations stay different. -/
theorem utilFromU32_lt {u v : UInt32} {x y : I80F48} (hx : utilFromU32 u = .ok x)
    (hy : utilFromU32 v = .ok y) (huv : u < v) : x < y := by
  obtain ⟨x', hx', hbx⟩ := utilFromU32_spec u
  obtain ⟨y', hy', hby⟩ := utilFromU32_spec v
  obtain rfl : x = x' := Except.ok.inj (hx.symm.trans hx')
  obtain rfl : y = y' := Except.ok.inj (hy.symm.trans hy')
  have hlt : u.toNat < v.toNat := UInt32.lt_iff_toNat_lt.mp huv
  show x.bits < y.bits
  omega

theorem rateFromU32_le {q r : UInt32} {x y : I80F48} (hx : rateFromU32 q = .ok x)
    (hy : rateFromU32 r = .ok y) (hqr : q ≤ r) : x ≤ y := by
  obtain ⟨x', hx', hbx⟩ := rateFromU32_spec q
  obtain ⟨y', hy', hby⟩ := rateFromU32_spec r
  obtain rfl : x = x' := Except.ok.inj (hx.symm.trans hx')
  obtain rfl : y = y' := Except.ok.inj (hy.symm.trans hy')
  have hle : q.toNat ≤ r.toNat := UInt32.le_iff_toNat_le.mp hqr
  show x.bits ≤ y.bits
  omega

/-! ### Segments -/

/-- Linear interpolation on bits: the proportion is rounded down, and so is the rise. -/
def lerpBits (startX startY endX endY targetX : ℤ) : ℤ :=
  startY + (endY - startY) * ((targetX - startX) * 2 ^ 48 / (endX - startX)) / 2 ^ 48

section Segments

variable {startX startY endX endY t t' : ℤ}

theorem proportion_bounds (hs : startX ≤ t) (he : t ≤ endX) (hx : startX < endX) :
    0 ≤ (t - startX) * 2 ^ 48 / (endX - startX) ∧
      (t - startX) * 2 ^ 48 / (endX - startX) ≤ 2 ^ 48 := by
  have hd : 0 < endX - startX := by omega
  refine ⟨Int.ediv_nonneg (mul_nonneg (by omega) (by positivity)) hd.le, ?_⟩
  exact Int.ediv_le_of_le_mul hd (by nlinarith)

theorem lerpBits_bounds (hs : startX ≤ t) (he : t ≤ endX) (hx : startX < endX)
    (hy : startY ≤ endY) :
    startY ≤ lerpBits startX startY endX endY t ∧ lerpBits startX startY endX endY t ≤ endY := by
  obtain ⟨h0, h1⟩ := proportion_bounds hs he hx
  have hrise : 0 ≤ endY - startY := by omega
  unfold lerpBits
  generalize (t - startX) * 2 ^ 48 / (endX - startX) = p at *
  have hlow : 0 ≤ (endY - startY) * p / 2 ^ 48 :=
    Int.ediv_nonneg (mul_nonneg hrise h0) (by positivity)
  have hhigh : (endY - startY) * p / 2 ^ 48 ≤ endY - startY :=
    Int.ediv_le_of_le_mul (by positivity) (mul_le_mul_of_nonneg_left h1 hrise)
  omega

@[simp] theorem lerpBits_start : lerpBits startX startY endX endY startX = startY := by
  simp [lerpBits]

theorem lerpBits_end (hx : startX < endX) : lerpBits startX startY endX endY endX = endY := by
  have hd : endX - startX ≠ 0 := by omega
  rw [lerpBits, Int.mul_ediv_cancel_left _ hd, Int.mul_ediv_cancel _ (by positivity)]
  omega

theorem lerpBits_mono (htt : t ≤ t') (hx : startX < endX) (hy : startY ≤ endY) :
    lerpBits startX startY endX endY t ≤ lerpBits startX startY endX endY t' := by
  have hp : (t - startX) * 2 ^ 48 / (endX - startX) ≤ (t' - startX) * 2 ^ 48 / (endX - startX) :=
    Int.ediv_le_ediv (by omega) (mul_le_mul_of_nonneg_right (by omega) (by positivity))
  have hrise : 0 ≤ endY - startY := by omega
  have hdiv := Int.ediv_le_ediv (c := 2 ^ 48) (by positivity)
    (mul_le_mul_of_nonneg_left hp hrise)
  exact add_le_add_right hdiv startY

end Segments

/-- On a rising segment the interpolation is total. -/
theorem lerp_eq {startX startY endX endY t : I80F48} (hx0 : 0 ≤ startX) (hy0 : 0 ≤ startY)
    (hx : startX < endX) (hy : startY ≤ endY) (hs : startX ≤ t) (he : t ≤ endX) :
    ∃ y, lerp startX startY endX endY t = .ok y ∧
      y.bits = lerpBits startX.bits startY.bits endX.bits endY.bits t.bits := by
  obtain ⟨hp0, hp1⟩ := proportion_bounds (t := t.bits) hs he hx
  obtain ⟨hlow, hhigh⟩ := lerpBits_bounds (t := t.bits) hs he hx hy
  have hx0' : 0 ≤ startX.bits := hx0
  have hy0' : 0 ≤ startY.bits := hy0
  have hx' : startX.bits < endX.bits := hx
  have hy' : startY.bits ≤ endY.bits := hy
  have hs' : startX.bits ≤ t.bits := hs
  have hupX := endX.upper
  have hupY := endY.upper
  have he' : t.bits ≤ endX.bits := he
  obtain ⟨dx, hdx, hdxb⟩ := exists_ofBits (f := 48) (w := 128) (z := endX.bits - startX.bits)
    (by omega) (by omega)
  obtain ⟨offset, hoffset, hoffsetb⟩ := exists_ofBits (f := 48) (w := 128)
    (z := t.bits - startX.bits) (by omega) (by omega)
  obtain ⟨dy, hdy, hdyb⟩ := exists_ofBits (f := 48) (w := 128) (z := endY.bits - startY.bits)
    (by omega) (by omega)
  obtain ⟨p, hp, hpb⟩ := exists_checkedDiv (x := offset) (y := dx)
    (show 0 ≤ offset.bits by omega) (show 0 < dx.bits by omega) (by rw [hoffsetb, hdxb]; omega)
  rw [hoffsetb, hdxb] at hpb
  obtain ⟨scaled, hscaled, hscaledb⟩ := exists_ofBits (f := 48) (w := 128)
    (z := dy.bits * p.bits / 2 ^ 48) (by rw [hdyb, hpb]; unfold lerpBits at hlow; omega)
    (by rw [hdyb, hpb]; unfold lerpBits at hhigh; omega)
  rw [hdyb, hpb] at hscaledb
  obtain ⟨y, hy, hyb⟩ := exists_ofBits (f := 48) (w := 128) (z := startY.bits + scaled.bits)
    (by rw [hscaledb]; unfold lerpBits at hlow; omega)
    (by rw [hscaledb]; unfold lerpBits at hhigh; omega)
  refine ⟨y, ?_, by rw [hyb, hscaledb, lerpBits]⟩
  have hinside : ¬(t < startX ∨ endX < t ∨ endY < startY) := by
    simp only [not_or, not_lt]
    exact ⟨hs, he, by assumption⟩
  simp only [lerp, if_neg (not_le.mpr hx), if_neg hinside, orPanic, math, FixedPoint.checkedSub,
    FixedPoint.checkedMul, FixedPoint.checkedAdd, hdx, hoffset, hdy, hp, hscaled, hy,
    fromOption_some, ok_bind]

section Segments

variable {startX startY endX endY t t' y y' : I80F48}

theorem lerp_of_le (h : endX ≤ startX) : lerp startX startY endX endY t = .ok startY := if_pos h

theorem lerp_total (hx0 : 0 ≤ startX) (hy0 : 0 ≤ startY) (hy : startY ≤ endY) (hs : startX ≤ t)
    (he : t ≤ endX) :
    ∃ y, lerp startX startY endX endY t = .ok y ∧ startY ≤ y ∧ y ≤ endY := by
  rcases lt_or_ge startX endX with hx | hx
  · obtain ⟨y, hlerp, hbits⟩ := lerp_eq hx0 hy0 hx hy hs he
    obtain ⟨hlow, hhigh⟩ := lerpBits_bounds (t := t.bits) hs he hx hy
    rw [← hbits] at hlow hhigh
    exact ⟨y, hlerp, hlow, hhigh⟩
  · exact ⟨startY, lerp_of_le hx, le_rfl, hy⟩

theorem lerp_start (hx0 : 0 ≤ startX) (hy0 : 0 ≤ startY) (hx : startX ≤ endX)
    (hy : startY ≤ endY) : lerp startX startY endX endY startX = .ok startY := by
  rcases lt_or_ge startX endX with hlt | hge
  · obtain ⟨y, hlerp, hbits⟩ := lerp_eq hx0 hy0 hlt hy le_rfl hx
    rw [lerpBits_start] at hbits
    obtain rfl : y = startY := FixedPoint.ext hbits
    exact hlerp
  · exact lerp_of_le hge

theorem lerp_end (hx0 : 0 ≤ startX) (hy0 : 0 ≤ startY) (hx : startX < endX) (hy : startY ≤ endY) :
    lerp startX startY endX endY endX = .ok endY := by
  obtain ⟨y, hlerp, hbits⟩ := lerp_eq hx0 hy0 hx hy hx.le le_rfl
  rw [lerpBits_end hx] at hbits
  obtain rfl : y = endY := FixedPoint.ext hbits
  exact hlerp

theorem lerp_mono (hx0 : 0 ≤ startX) (hy0 : 0 ≤ startY) (hy : startY ≤ endY) (hs : startX ≤ t)
    (htt : t ≤ t') (he : t' ≤ endX) (h : lerp startX startY endX endY t = .ok y)
    (h' : lerp startX startY endX endY t' = .ok y') : y ≤ y' := by
  rcases lt_or_ge startX endX with hx | hx
  · obtain ⟨z, hz, hbits⟩ := lerp_eq hx0 hy0 hx hy hs (htt.trans he)
    obtain ⟨z', hz', hbits'⟩ := lerp_eq hx0 hy0 hx hy (hs.trans htt) he
    obtain rfl : y = z := Except.ok.inj (h.symm.trans hz)
    obtain rfl : y' = z' := Except.ok.inj (h'.symm.trans hz')
    show y.bits ≤ y'.bits
    rw [hbits, hbits']
    exact lerpBits_mono htt hx hy
  · rw [lerp_of_le hx] at h h'
    exact (Except.ok.inj (h.symm.trans h')).le

end Segments

/-! ### Walks -/

/-- Points that are walked upwards from a known one, up to the rate at full utilization. -/
def Rises (hundredRate : I80F48) : List RatePoint → I80F48 → I80F48 → Prop
  | [], prevUtil, prevRate => prevUtil ≤ .one ∧ prevRate ≤ hundredRate
  | p :: points, prevUtil, prevRate =>
      if p.util = 0 then Rises hundredRate points prevUtil prevRate
      else ∃ pointUtil pointRate, utilFromU32 p.util = .ok pointUtil ∧
        rateFromU32 p.rate = .ok pointRate ∧ prevUtil < pointUtil ∧ prevRate ≤ pointRate ∧
        Rises hundredRate points pointUtil pointRate

section Walks

variable {hundredRate prevUtil prevRate ur ur' : I80F48} {points : List RatePoint}

theorem Rises.le (h : Rises hundredRate points prevUtil prevRate) :
    prevUtil ≤ .one ∧ prevRate ≤ hundredRate := by
  induction points generalizing prevUtil prevRate with
  | nil => exact h
  | cons p points ih =>
    unfold Rises at h
    split_ifs at h with hp
    · exact ih h
    · obtain ⟨pointUtil, pointRate, -, -, hutil, hrate, hrest⟩ := h
      obtain ⟨hone, hhundred⟩ := ih hrest
      exact ⟨hutil.le.trans hone, hrate.trans hhundred⟩

/-- All points in use lie above the known one. -/
theorem Rises.lt (h : Rises hundredRate points prevUtil prevRate) {p : RatePoint}
    (hp : p ∈ points) (hused : p.util ≠ 0) {x : I80F48} (hx : utilFromU32 p.util = .ok x) :
    prevUtil < x := by
  induction points generalizing prevUtil prevRate with
  | nil => cases hp
  | cons q points ih =>
    unfold Rises at h
    split_ifs at h with hq
    · rcases List.mem_cons.mp hp with rfl | hmem
      · exact absurd hq hused
      · exact ih h hmem
    · obtain ⟨pointUtil, pointRate, hutil, -, hlt, -, hrest⟩ := h
      rcases List.mem_cons.mp hp with rfl | hmem
      · obtain rfl : x = pointUtil := Except.ok.inj (hx.symm.trans hutil)
        exact hlt
      · exact hlt.trans (ih hrest hmem)

/-- Every walk arrives, between the known rate and the rate at full utilization. -/
theorem walkPoints_total (h : Rises hundredRate points prevUtil prevRate) (hu0 : 0 ≤ prevUtil)
    (hr0 : 0 ≤ prevRate) (hlow : prevUtil ≤ ur) (hone : ur ≤ .one) :
    ∃ y, walkPoints ur hundredRate points prevUtil prevRate = .ok y ∧
      prevRate ≤ y ∧ y ≤ hundredRate := by
  induction points generalizing prevUtil prevRate with
  | nil => exact lerp_total hu0 hr0 h.2 hlow hone
  | cons p points ih =>
    unfold Rises at h
    unfold walkPoints
    split_ifs at h ⊢ with hp
    · exact ih h hu0 hr0 hlow
    · obtain ⟨pointUtil, pointRate, hutil, hrate, hlt, hle, hrest⟩ := h
      simp only [hutil, hrate, ok_bind]
      split_ifs with hur
      · obtain ⟨y, hy, hl, hr⟩ := lerp_total hu0 hr0 hle hlow hur
        exact ⟨y, hy, hl, hr.trans hrest.le.2⟩
      · obtain ⟨y, hy, hl, hr⟩ := ih hrest (hu0.trans hlt.le) (hr0.trans hle) (not_le.mp hur).le
        exact ⟨y, hy, hle.trans hl, hr⟩

/-- Walks to higher utilizations arrive at rates that are not lower. -/
theorem walkPoints_mono {y y' : I80F48} (h : Rises hundredRate points prevUtil prevRate)
    (hu0 : 0 ≤ prevUtil) (hr0 : 0 ≤ prevRate) (hlow : prevUtil ≤ ur) (hle : ur ≤ ur')
    (hone : ur' ≤ .one) (hy : walkPoints ur hundredRate points prevUtil prevRate = .ok y)
    (hy' : walkPoints ur' hundredRate points prevUtil prevRate = .ok y') : y ≤ y' := by
  induction points generalizing prevUtil prevRate with
  | nil => exact lerp_mono hu0 hr0 h.2 hlow hle hone hy hy'
  | cons p points ih =>
    unfold Rises at h
    unfold walkPoints at hy hy'
    split_ifs at h hy hy' with hp
    · exact ih h hu0 hr0 hlow hy hy'
    · obtain ⟨pointUtil, pointRate, hutil, hrate, hlt, hrise, hrest⟩ := h
      have hu0' : 0 ≤ pointUtil := hu0.trans hlt.le
      have hr0' : 0 ≤ pointRate := hr0.trans hrise
      simp only [hutil, hrate, ok_bind] at hy hy'
      by_cases hur' : ur' ≤ pointUtil
      · rw [if_pos (hle.trans hur')] at hy
        rw [if_pos hur'] at hy'
        exact lerp_mono hu0 hr0 hrise hlow hle hur' hy hy'
      · have hbeyond : pointUtil ≤ ur' := (not_le.mp hur').le
        rw [if_neg hur'] at hy'
        by_cases hur : ur ≤ pointUtil
        · -- the point in between separates the two rates
          obtain ⟨z, hz, -, hle₁⟩ := lerp_total hu0 hr0 hrise hlow hur
          obtain ⟨z', hz', hle₂, -⟩ := walkPoints_total hrest hu0' hr0' hbeyond hone
          rw [if_pos hur] at hy
          obtain rfl : y = z := Except.ok.inj (hy.symm.trans hz)
          obtain rfl : y' = z' := Except.ok.inj (hy'.symm.trans hz')
          exact hle₁.trans hle₂
        · rw [if_neg hur] at hy
          exact ih hrest hu0' hr0' (not_le.mp hur).le hy hy'

/-- A walk that stays at the known point keeps its rate. -/
theorem walkPoints_start (h : Rises hundredRate points prevUtil prevRate) (hu0 : 0 ≤ prevUtil)
    (hr0 : 0 ≤ prevRate) :
    walkPoints prevUtil hundredRate points prevUtil prevRate = .ok prevRate := by
  induction points with
  | nil => exact lerp_start hu0 hr0 h.1 h.2
  | cons p points ih =>
    unfold Rises at h
    unfold walkPoints
    split_ifs at h ⊢ with hp
    · exact ih h
    · obtain ⟨pointUtil, pointRate, hutil, hrate, hlt, hle, -⟩ := h
      simp only [hutil, hrate, ok_bind, if_pos hlt.le]
      exact lerp_start hu0 hr0 hlt.le hle

/-- The walk to a point in use arrives at its rate. -/
theorem walkPoints_through {p : RatePoint} {x y : I80F48}
    (h : Rises hundredRate points prevUtil prevRate) (hu0 : 0 ≤ prevUtil) (hr0 : 0 ≤ prevRate)
    (hp : p ∈ points) (hused : p.util ≠ 0) (hx : utilFromU32 p.util = .ok x)
    (hy : rateFromU32 p.rate = .ok y) :
    walkPoints x hundredRate points prevUtil prevRate = .ok y := by
  induction points generalizing prevUtil prevRate with
  | nil => cases hp
  | cons q points ih =>
    unfold Rises at h
    unfold walkPoints
    split_ifs at h ⊢ with hq
    · rcases List.mem_cons.mp hp with rfl | hmem
      · exact absurd hq hused
      · exact ih h hu0 hr0 hmem
    · obtain ⟨pointUtil, pointRate, hutil, hrate, hlt, hle, hrest⟩ := h
      simp only [hutil, hrate, ok_bind]
      rcases List.mem_cons.mp hp with rfl | hmem
      · obtain rfl : x = pointUtil := Except.ok.inj (hx.symm.trans hutil)
        obtain rfl : y = pointRate := Except.ok.inj (hy.symm.trans hrate)
        rw [if_pos le_rfl]
        exact lerp_end hu0 hr0 hlt hle
      · rw [if_neg (not_le.mpr (hrest.lt hmem hused hx))]
        exact ih hrest (hu0.trans hlt.le) (hr0.trans hle) hmem

/-- Where no point lies at full utilization, the walk there arrives at the rate given for it. -/
theorem walkPoints_end (h : Rises hundredRate points prevUtil prevRate) (hu0 : 0 ≤ prevUtil)
    (hr0 : 0 ≤ prevRate) (hprev : prevUtil < .one)
    (hfull : ∀ p ∈ points, p.util ≠ 0 → ∀ x, utilFromU32 p.util = .ok x → x < .one) :
    walkPoints .one hundredRate points prevUtil prevRate = .ok hundredRate := by
  induction points generalizing prevUtil prevRate with
  | nil => exact lerp_end hu0 hr0 hprev h.2
  | cons p points ih =>
    unfold Rises at h
    unfold walkPoints
    split_ifs at h ⊢ with hp
    · exact ih h hu0 hr0 hprev fun q hq => hfull q (List.mem_cons_of_mem p hq)
    · obtain ⟨pointUtil, pointRate, hutil, hrate, hlt, hle, hrest⟩ := h
      have hpoint : pointUtil < .one := hfull p (by simp) hp pointUtil hutil
      simp only [hutil, hrate, ok_bind, if_neg (not_le.mpr hpoint)]
      exact ih hrest (hu0.trans hlt.le) (hr0.trans hle) hpoint
        fun q hq => hfull q (List.mem_cons_of_mem p hq)

end Walks

/-! ### Accepted configurations -/

/-- A later point, at a higher utilization and no lower rate. -/
def RatePoint.Below (p q : RatePoint) : Prop := p.util < q.util ∧ p.rate ≤ q.rate

theorem collectUsed_eq_ok {points used : List RatePoint} {seenPadding : Bool}
    (h : collectUsed points seenPadding = .ok used) :
    used = points.filter fun p => p.util ≠ 0 := by
  induction points generalizing seenPadding used with
  | nil =>
    cases h
    rfl
  | cons p points ih =>
    unfold collectUsed at h
    split_ifs at h with hp
    · obtain ⟨_, -, hrest⟩ := bind_eq_ok.mp h
      simpa [hp] using ih hrest
    · obtain ⟨_, -, h⟩ := bind_eq_ok.mp h
      obtain ⟨rest, hrest, hused⟩ := bind_eq_ok.mp h
      cases hused
      simpa [hp] using ih hrest

theorem checkAscending_eq_ok {points : List RatePoint} {u : Unit}
    (h : checkAscending points = .ok u) : points.IsChain RatePoint.Below := by
  induction points with
  | nil => exact .nil
  | cons p points ih =>
    cases points with
    | nil => exact .singleton p
    | cons q points =>
      simp only [checkAscending, bind_eq_ok, ensure_eq_ok] at h
      obtain ⟨_, hutil, _, hrate, hrest⟩ := h
      exact .cons_cons ⟨hutil, hrate⟩ (ih hrest)

theorem rises_of_chain {points : List RatePoint} {q : RatePoint} {hundred : UInt32}
    {hundredRate prevUtil prevRate : I80F48}
    (hchain : (q :: points.filter fun p => p.util ≠ 0).IsChain RatePoint.Below)
    (hle : q.rate ≤ hundred) (hall : ∀ p ∈ points, p.util ≠ 0 → p.rate ≤ hundred)
    (hutil : utilFromU32 q.util = .ok prevUtil) (hrate : rateFromU32 q.rate = .ok prevRate)
    (hhundred : rateFromU32 hundred = .ok hundredRate) :
    Rises hundredRate points prevUtil prevRate := by
  induction points generalizing q prevUtil prevRate with
  | nil =>
    obtain ⟨x, hx, hbits⟩ := utilFromU32_spec q.util
    obtain rfl : prevUtil = x := Except.ok.inj (hutil.symm.trans hx)
    have hq := q.util.toNat_lt
    refine ⟨?_, rateFromU32_le hrate hhundred hle⟩
    show prevUtil.bits ≤ I80F48.one.bits
    rw [hbits, bits_one]
    omega
  | cons p points ih =>
    have hall' : ∀ p ∈ points, p.util ≠ 0 → p.rate ≤ hundred :=
      fun r hr => hall r (List.mem_cons_of_mem p hr)
    unfold Rises
    split_ifs with hp
    · rw [List.filter_cons_of_neg (by simpa using hp)] at hchain
      exact ih hchain hle hall' hutil hrate
    · rw [List.filter_cons_of_pos (by simpa using hp)] at hchain
      obtain ⟨⟨hlt, hrise⟩, hrest⟩ := List.isChain_cons_cons.mp hchain
      obtain ⟨pointUtil, hpointUtil, -⟩ := utilFromU32_spec p.util
      obtain ⟨pointRate, hpointRate, -⟩ := rateFromU32_spec p.rate
      have hple : p.rate ≤ hundred := hall p (by simp) hp
      exact ⟨pointUtil, pointRate, hpointUtil, hpointRate, utilFromU32_lt hutil hpointUtil hlt,
        rateFromU32_le hrate hpointRate hrise, ih hrest hple hall' hpointUtil hpointRate⟩

theorem utilFromU32_zero : utilFromU32 0 = .ok 0 := by
  obtain ⟨x, hx, hbits⟩ := utilFromU32_spec 0
  obtain rfl : x = 0 := FixedPoint.ext (by simpa using hbits)
  exact hx

theorem rateFromU32_nonneg {r : UInt32} {x : I80F48} (h : rateFromU32 r = .ok x) : 0 ≤ x := by
  obtain ⟨y, hy, hbits⟩ := rateFromU32_spec r
  obtain rfl : x = y := Except.ok.inj (h.symm.trans hy)
  show 0 ≤ x.bits
  omega

namespace InterestRateConfig

variable {config : InterestRateConfig}

/-- The points of an accepted seven-point configuration are walked upwards from its first rate. -/
theorem validateSevenPoint_rises (h : config.validateSevenPoint = .ok ())
    {zeroRate hundredRate : I80F48} (hzero : rateFromU32 config.zeroUtilRate = .ok zeroRate)
    (hhundred : rateFromU32 config.hundredUtilRate = .ok hundredRate) :
    Rises hundredRate config.points.toList 0 zeroRate := by
  simp only [validateSevenPoint, bind_eq_ok, ensure_eq_ok] at h
  obtain ⟨used, hused, _, hascending, _, hends, hbetween⟩ := h
  obtain rfl := collectUsed_eq_ok hused
  have hchain := checkAscending_eq_ok hascending
  have hmem {p : RatePoint} (hp : p ∈ config.points.toList) (hne : p.util ≠ 0) :
      config.zeroUtilRate ≤ p.rate ∧ p.rate ≤ config.hundredUtilRate :=
    hbetween p (List.mem_filter.mpr ⟨hp, by simpa using hne⟩)
  have hfirst : (⟨0, config.zeroUtilRate⟩ ::
      config.points.toList.filter fun p => p.util ≠ 0).IsChain RatePoint.Below := by
    refine List.isChain_cons.mpr ⟨?_, hchain⟩
    intro p hp
    obtain ⟨hpoint, hne⟩ := List.mem_filter.mp (List.mem_of_mem_head? hp)
    have hne' : p.util ≠ 0 := by simpa using hne
    exact ⟨UInt32.pos_iff_ne_zero.mpr hne', (hmem hpoint hne').1⟩
  exact rises_of_chain hfirst hends (fun p hp hne => (hmem hp hne).2) utilFromU32_zero hzero
    hhundred

theorem clamp_bounds (ur : I80F48) : 0 ≤ min (max ur 0) .one ∧ min (max ur 0) .one ≤ .one := by
  have hone : (0 : I80F48) ≤ .one := by decide
  exact ⟨le_min (le_max_right ur 0) hone, min_le_right _ _⟩

theorem clamp_of_mem {ur : I80F48} (h0 : 0 ≤ ur) (h1 : ur ≤ .one) : min (max ur 0) .one = ur := by
  rw [max_eq_left h0, min_eq_left h1]

theorem interestRateMultipointCurve_nonneg (h : config.validateSevenPoint = .ok ())
    {group : MarginfiGroup} {ur base : I80F48}
    (hbase : (config.createInterestRateCalculator group).interestRateMultipointCurve ur =
      .ok base) :
    0 ≤ base := by
  obtain ⟨zeroRate, hzero, -⟩ := rateFromU32_spec config.zeroUtilRate
  obtain ⟨hundredRate, hhundred, -⟩ := rateFromU32_spec config.hundredUtilRate
  have hzero0 : 0 ≤ zeroRate := rateFromU32_nonneg hzero
  obtain ⟨y, hy, hlow, -⟩ := walkPoints_total (validateSevenPoint_rises h hzero hhundred) le_rfl
    hzero0 (clamp_bounds ur).1 (clamp_bounds ur).2
  have hwalk : walkPoints (min (max ur 0) .one) hundredRate config.points.toList 0 zeroRate =
      .ok base := by
    simpa only [InterestRateCalc.interestRateMultipointCurve, createInterestRateCalculator, hzero,
      hhundred, ok_bind] using hbase
  obtain rfl : y = base := Except.ok.inj (hy.symm.trans hwalk)
  exact hzero0.trans hlow

/-- **An accepted seven-point configuration has a curve**: a rate for every utilization, which
never falls as the utilization rises, is the configured one at zero, at every point in use and,
unless a point lies there, at full utilization, and never exceeds the last. -/
theorem validateSevenPoint_curve (h : config.validateSevenPoint = .ok ()) (group : MarginfiGroup) :
    ∃ rate : I80F48 → I80F48,
      (∀ ur, (config.createInterestRateCalculator group).interestRateMultipointCurve ur =
        .ok (rate ur)) ∧
      Monotone rate ∧ rateFromU32 config.zeroUtilRate = .ok (rate 0) ∧
      (∀ p ∈ config.points.toList, p.util ≠ 0 →
        ∃ x, utilFromU32 p.util = .ok x ∧ rateFromU32 p.rate = .ok (rate x)) ∧
      ((∀ p ∈ config.points.toList, p.util ≠ 0xffffffff) →
        rateFromU32 config.hundredUtilRate = .ok (rate .one)) ∧
      ∀ hundredRate, rateFromU32 config.hundredUtilRate = .ok hundredRate →
        ∀ ur, rate ur ≤ hundredRate := by
  obtain ⟨zeroRate, hzero, -⟩ := rateFromU32_spec config.zeroUtilRate
  obtain ⟨hundredRate, hhundred, -⟩ := rateFromU32_spec config.hundredUtilRate
  have hrises := validateSevenPoint_rises h hzero hhundred
  have hzero0 : 0 ≤ zeroRate := rateFromU32_nonneg hzero
  have htotal (ur : I80F48) : ∃ y, walkPoints (min (max ur 0) .one) hundredRate
      config.points.toList 0 zeroRate = .ok y ∧ zeroRate ≤ y ∧ y ≤ hundredRate :=
    walkPoints_total hrises le_rfl hzero0 (clamp_bounds ur).1 (clamp_bounds ur).2
  choose rate hwalk hlow hhigh using htotal
  have hat {ur y : I80F48} (h0 : 0 ≤ ur) (h1 : ur ≤ .one)
      (hy : walkPoints ur hundredRate config.points.toList 0 zeroRate = .ok y) : rate ur = y := by
    have hr := hwalk ur
    rw [clamp_of_mem h0 h1] at hr
    exact Except.ok.inj (hr.symm.trans hy)
  refine ⟨rate, ?_, ?_, ?_, ?_, ?_, ?_⟩
  · intro ur
    simp only [InterestRateCalc.interestRateMultipointCurve, createInterestRateCalculator, hzero,
      hhundred, ok_bind]
    exact hwalk ur
  · intro ur ur' hle
    exact walkPoints_mono hrises le_rfl hzero0 (clamp_bounds ur).1
      (min_le_min_right _ (max_le_max_right _ hle)) (clamp_bounds ur').2 (hwalk ur) (hwalk ur')
  · rw [hat le_rfl (by decide) (walkPoints_start hrises le_rfl hzero0)]
    exact hzero
  · intro p hp hused
    obtain ⟨x, hx, hbits⟩ := utilFromU32_spec p.util
    obtain ⟨y, hy, -⟩ := rateFromU32_spec p.rate
    have hlt := p.util.toNat_lt
    have h0 : 0 ≤ x := show 0 ≤ x.bits by omega
    have h1 : x ≤ .one := by
      show x.bits ≤ I80F48.one.bits
      rw [hbits, bits_one]
      omega
    refine ⟨x, hx, ?_⟩
    rw [hat h0 h1 (walkPoints_through hrises le_rfl hzero0 hp hused hx hy)]
    exact hy
  · intro hfull
    have hbelow (p : RatePoint) (hp : p ∈ config.points.toList) (_ : p.util ≠ 0) (x : I80F48)
        (hx : utilFromU32 p.util = .ok x) : x < .one := by
      obtain ⟨x', hx', hbits⟩ := utilFromU32_spec p.util
      obtain rfl : x = x' := Except.ok.inj (hx.symm.trans hx')
      have hne : p.util.toNat ≠ 0xffffffff := fun heq => hfull p hp (UInt32.toNat_inj.mp heq)
      have hlt := p.util.toNat_lt
      show x.bits < I80F48.one.bits
      rw [hbits, bits_one]
      omega
    rw [hat (by decide) le_rfl (walkPoints_end hrises le_rfl hzero0 (by decide) hbelow)]
    exact hhundred
  · intro hundredRate' hhundred' ur
    obtain rfl : hundredRate = hundredRate' := Except.ok.inj (hhundred.symm.trans hhundred')
    exact hhigh ur

/-- A configuration with the given curve and no fees. -/
def ofCurve (curveType : UInt8) (zeroUtilRate hundredUtilRate : UInt32)
    (points : Vector RatePoint 5) (optimal plateau highest : I80F48) : InterestRateConfig :=
  ⟨optimal, plateau, highest, 0, 0, 0, 0, 0, zeroUtilRate, hundredUtilRate, points, curveType⟩

/-- A group that takes no fees. -/
def plainGroup : MarginfiGroup := ⟨9, 0, 0, 0, 0, 0, 9⟩

/-- From 1% at zero over 10% at half to 100% at full utilization. -/
def sampleSevenPoint : InterestRateConfig :=
  ofCurve 1 4294967 429496729 #v[⟨2147483647, 42949672⟩, ⟨0, 0⟩, ⟨0, 0⟩, ⟨0, 0⟩, ⟨0, 0⟩] 0 0 0

theorem validateSevenPoint_curve_sample :
    ∃ rate : I80F48 → I80F48,
      (∀ ur, (sampleSevenPoint.createInterestRateCalculator plainGroup).interestRateMultipointCurve
        ur = .ok (rate ur)) ∧ Monotone rate := by
  obtain ⟨rate, hrate, hmono, -⟩ :=
    validateSevenPoint_curve (show sampleSevenPoint.validateSevenPoint = .ok () by decide +kernel)
      plainGroup
  exact ⟨rate, hrate, hmono⟩

/-- The legacy curve on bits: a segment from the origin to the kink, and one from there. -/
def legacyBits (config : InterestRateConfig) (ur : ℤ) : ℤ :=
  if ur ≤ config.optimalUtilizationRate.bits then
    lerpBits 0 0 config.optimalUtilizationRate.bits config.plateauInterestRate.bits ur
  else
    lerpBits config.optimalUtilizationRate.bits config.plateauInterestRate.bits (2 ^ 48)
      config.maxInterestRate.bits ur

/-- What `validateLegacy` checks, on bits. -/
theorem validateLegacy_bits (h : config.validateLegacy = .ok ()) :
    0 < config.optimalUtilizationRate.bits ∧ config.optimalUtilizationRate.bits < 2 ^ 48 ∧
      0 < config.plateauInterestRate.bits ∧
      config.plateauInterestRate.bits < config.maxInterestRate.bits := by
  simp only [validateLegacy, bind_eq_ok, ensure_eq_ok] at h
  obtain ⟨_, ⟨hopt, hone⟩, _, hplateau, _, -, hmax⟩ := h
  exact ⟨hopt, by rw [← bits_one]; exact hone, hplateau, hmax⟩

theorem legacyBits_bounds (h : config.validateLegacy = .ok ()) {ur : ℤ} (h0 : 0 ≤ ur)
    (h1 : ur ≤ 2 ^ 48) :
    0 ≤ legacyBits config ur ∧ legacyBits config ur ≤ config.maxInterestRate.bits := by
  obtain ⟨hopt, hone, hplateau, hmax⟩ := validateLegacy_bits h
  unfold legacyBits
  split_ifs with hur
  · obtain ⟨hlow, hhigh⟩ := lerpBits_bounds h0 hur hopt hplateau.le
    exact ⟨hlow, hhigh.trans hmax.le⟩
  · obtain ⟨hlow, hhigh⟩ := lerpBits_bounds (not_le.mp hur).le h1 hone hmax.le
    exact ⟨hplateau.le.trans hlow, hhigh⟩

theorem legacyBits_mono (h : config.validateLegacy = .ok ()) {ur ur' : ℤ} (h0 : 0 ≤ ur)
    (hle : ur ≤ ur') (h1 : ur' ≤ 2 ^ 48) : legacyBits config ur ≤ legacyBits config ur' := by
  obtain ⟨hopt, hone, hplateau, hmax⟩ := validateLegacy_bits h
  unfold legacyBits
  by_cases hur' : ur' ≤ config.optimalUtilizationRate.bits
  · rw [if_pos (hle.trans hur'), if_pos hur']
    exact lerpBits_mono hle hopt hplateau.le
  · rw [if_neg hur']
    have hbeyond := lerpBits_bounds (not_le.mp hur').le h1 hone hmax.le
    by_cases hur : ur ≤ config.optimalUtilizationRate.bits
    · rw [if_pos hur]
      exact (lerpBits_bounds h0 hur hopt hplateau.le).2.trans hbeyond.1
    · rw [if_neg hur]
      exact lerpBits_mono hle hone hmax.le

/-- Up to full utilization the legacy curve is total. -/
theorem interestRateCurve_eq (h : config.validateLegacy = .ok ()) (group : MarginfiGroup)
    {ur : I80F48} (h0 : 0 ≤ ur) (h1 : ur ≤ .one) :
    ∃ y, (config.createInterestRateCalculator group).interestRateCurve ur = .ok y ∧
      y.bits = legacyBits config ur.bits := by
  obtain ⟨hopt, hone, hplateau, hmax⟩ := validateLegacy_bits h
  have h0' : 0 ≤ ur.bits := h0
  have h1' : ur.bits ≤ 2 ^ 48 := by rw [← bits_one]; exact h1
  obtain ⟨hlow, hhigh⟩ := legacyBits_bounds h h0' h1'
  have hup := config.maxInterestRate.upper
  obtain ⟨y, hy, hyb⟩ := exists_ofBits (f := 48) (w := 128) (z := legacyBits config ur.bits)
    (by omega) (by omega)
  refine ⟨y, ?_, hyb⟩
  simp only [InterestRateCalc.interestRateCurve, createInterestRateCalculator]
  unfold legacyBits at hlow hhigh hy
  by_cases hur : ur ≤ config.optimalUtilizationRate
  · have hur' : ur.bits ≤ config.optimalUtilizationRate.bits := hur
    rw [if_pos hur'] at hy
    obtain ⟨-, hp1⟩ := proportion_bounds h0' hur' hopt
    simp only [sub_zero] at hp1
    obtain ⟨share, hshare, hshareb⟩ := exists_checkedDiv h0 (show 0 < _ from hopt)
      (lt_of_le_of_lt hp1 (by norm_num))
    have hmul : share.checkedMul config.plateauInterestRate = some y := by
      rw [FixedPoint.checkedMul, hshareb, mul_comm]
      simpa [lerpBits] using hy
    simp only [if_pos hur, hshare, hmul, math, fromOption_some, ok_bind]
  · have hur' : config.optimalUtilizationRate.bits < ur.bits := not_le.mp hur
    rw [if_neg (not_le.mpr hur')] at hy hlow hhigh
    obtain ⟨-, hp1⟩ := proportion_bounds hur'.le h1' hone
    obtain ⟨above, habove, haboveb⟩ := exists_ofBits (f := 48) (w := 128)
      (z := ur.bits - config.optimalUtilizationRate.bits) (by omega) (by omega)
    obtain ⟨room, hroom, hroomb⟩ := exists_ofBits (f := 48) (w := 128)
      (z := I80F48.one.bits - config.optimalUtilizationRate.bits) (by rw [bits_one]; omega)
      (by rw [bits_one]; omega)
    obtain ⟨rise, hrise, hriseb⟩ := exists_ofBits (f := 48) (w := 128)
      (z := config.maxInterestRate.bits - config.plateauInterestRate.bits) (by omega) (by omega)
    rw [bits_one] at hroomb
    obtain ⟨share, hshare, hshareb⟩ := exists_checkedDiv (x := above) (y := room)
      (show 0 ≤ above.bits by omega) (show 0 < room.bits by omega)
      (by rw [haboveb, hroomb]; exact lt_of_le_of_lt hp1 (by norm_num))
    rw [haboveb, hroomb] at hshareb
    obtain ⟨scaled, hscaled, hscaledb⟩ := exists_ofBits (f := 48) (w := 128)
      (z := share.bits * rise.bits / 2 ^ 48)
      (by rw [hshareb, hriseb, mul_comm]; unfold lerpBits at hlow; omega)
      (by rw [hshareb, hriseb, mul_comm]; unfold lerpBits at hhigh; omega)
    have hadd : scaled.checkedAdd config.plateauInterestRate = some y := by
      rw [FixedPoint.checkedAdd, hscaledb, hshareb, hriseb, add_comm, mul_comm]
      exact hy
    simp only [if_neg hur, FixedPoint.checkedSub, habove, hroom, hrise, hshare,
      FixedPoint.checkedMul, hscaled, hadd, math, orPanic, fromOption_some, ok_bind]

/-- **An accepted legacy configuration has a curve** up to full utilization: a rate that never
falls as the utilization rises, zero at zero, the plateau rate at the optimal utilization, and the
highest rate at full utilization. -/
theorem validateLegacy_curve (h : config.validateLegacy = .ok ()) (group : MarginfiGroup) :
    ∃ rate : I80F48 → I80F48,
      (∀ ur, 0 ≤ ur → ur ≤ .one →
        (config.createInterestRateCalculator group).interestRateCurve ur = .ok (rate ur)) ∧
      MonotoneOn rate (Set.Icc 0 .one) ∧ rate 0 = 0 ∧
      rate config.optimalUtilizationRate = config.plateauInterestRate ∧
      rate .one = config.maxInterestRate := by
  obtain ⟨hopt, hone, hplateau, hmax⟩ := validateLegacy_bits h
  have htotal (ur : I80F48) : ∃ y, 0 ≤ ur ∧ ur ≤ .one →
      (config.createInterestRateCalculator group).interestRateCurve ur = .ok y ∧
        y.bits = legacyBits config ur.bits := by
    by_cases hur : 0 ≤ ur ∧ ur ≤ .one
    · obtain ⟨y, hy, hyb⟩ := interestRateCurve_eq h group hur.1 hur.2
      exact ⟨y, fun _ => ⟨hy, hyb⟩⟩
    · exact ⟨0, fun hin => absurd hin hur⟩
  choose rate hrate using htotal
  have hzero : (0 : I80F48) ≤ .one := by decide
  have hopt1 : config.optimalUtilizationRate ≤ .one := by
    show config.optimalUtilizationRate.bits ≤ I80F48.one.bits
    rw [bits_one]
    exact hone.le
  refine ⟨rate, fun ur h0 h1 => (hrate ur ⟨h0, h1⟩).1, ?_, ?_, ?_, ?_⟩
  · intro ur hur ur' hur' hle
    show (rate ur).bits ≤ (rate ur').bits
    rw [(hrate ur hur).2, (hrate ur' hur').2]
    have h1 : ur'.bits ≤ I80F48.one.bits := hur'.2
    rw [bits_one] at h1
    exact legacyBits_mono h hur.1 hle h1
  · apply FixedPoint.ext
    rw [(hrate 0 ⟨le_rfl, hzero⟩).2, legacyBits, FixedPoint.bits_zero, if_pos hopt.le]
    exact lerpBits_start
  · apply FixedPoint.ext
    rw [(hrate _ ⟨hopt.le, hopt1⟩).2, legacyBits, if_pos le_rfl]
    exact lerpBits_end hopt
  · apply FixedPoint.ext
    rw [(hrate _ ⟨hzero, le_rfl⟩).2, legacyBits, bits_one, if_neg (not_le.mpr hone)]
    exact lerpBits_end hone

/-- Half of the way up at half utilization. -/
def sampleLegacy : InterestRateConfig :=
  ofCurve 0 0 0 (.replicate 5 ⟨0, 0⟩) ⟨2 ^ 47, by decide, by decide⟩ ⟨2 ^ 47, by decide, by decide⟩
    .one

theorem validateLegacy_curve_sample :
    ∃ rate : I80F48 → I80F48, MonotoneOn rate (Set.Icc 0 .one) ∧ rate 0 = 0 ∧
      rate .one = .one := by
  obtain ⟨rate, -, hmono, hzero, -, hone⟩ :=
    validateLegacy_curve (show sampleLegacy.validateLegacy = .ok () by decide +kernel) plainGroup
  exact ⟨rate, hmono, hzero, hone⟩

end InterestRateConfig

end Marginfi
