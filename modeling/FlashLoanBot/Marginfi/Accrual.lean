import FlashLoanBot.Marginfi.Bank
import FlashLoanBot.Marginfi.Curve

/-!
# marginfi: interest accrual

What a bank's share values, debts and fees do when interest is accrued.

* `calcInterestRate_inv`: the rates, taken apart;
* `calcInterestRate_balanced`: what lenders earn and what is taken as fees is paid by borrowers;
* `calcAccrued_val`, `calcInterest_val`: the payments for a period;
* `Pool`, `Pool.claims`, `Pool.debts`: the books of a bank, what it owes, and what it is owed;
* `accrueInterest_inv`, `Accrues.rises`: accrual lowers neither share values nor fees;
* `Accrues.covered`: claims grow by no more than debts, up to an explicit rounding.
-/

namespace Marginfi

open Solana Checked
open FixedPoint (val ulp)

/-! ### Rates -/

/-- The base rate, by the kind of the curve. -/
def InterestRateCalc.baseRate (self : InterestRateCalc) (ur : I80F48) : Result I80F48 :=
  if self.curveType = 0 then self.interestRateCurve ur
  else if self.curveType = 1 then self.interestRateMultipointCurve ur
  else .error .panicked

/-- The rates that follow from a base rate. -/
def InterestRateCalc.ratesOf (self : InterestRateCalc) (util feeIr feeFixed baseRateApr : I80F48) :
    Result ComputedInterestRates := do
  let fees := self.getFees
  let lendingRateApr ← math (baseRateApr.checkedMul util)
  let factor ← math (I80F48.one.checkedAdd feeIr)
  let scaledRate ← math (baseRateApr.checkedMul factor)
  let borrowingRateApr ← math (scaledRate.checkedAdd feeFixed)
  let groupFeeApr ← calcFeeRate baseRateApr fees.groupFeeRate fees.groupFeeFixed
  let insuranceFeeApr ← calcFeeRate baseRateApr fees.insuranceFeeRate fees.insuranceFeeFixed
  let protocolFeeApr ← calcFeeRate baseRateApr fees.protocolFeeRate fees.protocolFeeFixed
  ensure (0 ≤ lendingRateApr ∧ 0 ≤ borrowingRateApr ∧ 0 ≤ groupFeeApr ∧ 0 ≤ insuranceFeeApr ∧
    0 ≤ protocolFeeApr) .panicked
  .ok ⟨baseRateApr, lendingRateApr, borrowingRateApr, groupFeeApr, insuranceFeeApr,
    protocolFeeApr⟩

theorem calcInterestRate_eq (self : InterestRateCalc) (util : I80F48) :
    self.calcInterestRate util = (do
      let rateFees ← orPanic (self.getFees.insuranceFeeRate.checkedAdd self.getFees.groupFeeRate)
      let feeIr ← orPanic (rateFees.checkedAdd self.getFees.protocolFeeRate)
      let fixedFees ←
        orPanic (self.getFees.insuranceFeeFixed.checkedAdd self.getFees.groupFeeFixed)
      let feeFixed ← orPanic (fixedFees.checkedAdd self.getFees.protocolFeeFixed)
      let baseRateApr ← self.baseRate util
      self.ratesOf util feeIr feeFixed baseRateApr) := by
  unfold InterestRateCalc.calcInterestRate InterestRateCalc.baseRate
  split_ifs <;> rfl

/-- The fees that borrowers pay on top of the base rate. -/
def ComputedInterestRates.feesApr (rates : ComputedInterestRates) : ℚ :=
  rates.groupFeeApr.val + rates.insuranceFeeApr.val + rates.protocolFeeApr.val

theorem calcFeeRate_bits {base rateFees fixedFees x : I80F48}
    (h : calcFeeRate base rateFees fixedFees = .ok x) :
    x.bits = base.bits * rateFees.bits / 2 ^ 48 + fixedFees.bits := by
  unfold calcFeeRate at h
  split_ifs at h with hzero
  · cases h
    simp [hzero]
  · simp only [bind_eq_ok, math, fromOption_eq_ok] at h
    obtain ⟨scaled, hscaled, hx⟩ := h
    rw [FixedPoint.checkedAdd_eq_some.mp hx, FixedPoint.checkedMul_bits hscaled]

theorem ediv_add_ediv_le (a b : ℤ) {m : ℤ} (hm : 0 < m) : a / m + b / m ≤ (a + b) / m := by
  have ha := Int.ediv_mul_le a hm.ne'
  have hb := Int.ediv_mul_le b hm.ne'
  apply Int.le_ediv_of_mul_le hm
  rw [add_mul]
  omega

section Rates

variable {irCalc : InterestRateCalc} {util : I80F48} {rates : ComputedInterestRates}

/-- The rates of a bank: lenders earn the base rate on what is lent, borrowers pay the base rate
and the fees, and no rate is negative. -/
theorem calcInterestRate_inv (h : irCalc.calcInterestRate util = .ok rates) :
    irCalc.baseRate util = .ok rates.baseRateApr ∧
      rates.baseRateApr.checkedMul util = some rates.lendingRateApr ∧
      rates.baseRateApr.val + rates.feesApr ≤ rates.borrowingRateApr.val ∧
      0 ≤ rates.lendingRateApr ∧ 0 ≤ rates.borrowingRateApr ∧ 0 ≤ rates.groupFeeApr ∧
      0 ≤ rates.insuranceFeeApr ∧ 0 ≤ rates.protocolFeeApr := by
  simp only [calcInterestRate_eq, InterestRateCalc.ratesOf, bind_eq_ok, orPanic, math,
    fromOption_eq_ok, ensure_eq_ok] at h
  obtain ⟨rateFees, hrateFees, feeIr, hfeeIr, fixedFees, hfixed, feeFixed, hfeeFixed, base, hbase,
    lending, hlending, factor, hfactor, scaled, hscaled, borrowing, hborrowing, group, hgroup,
    insurance, hinsurance, protocol, hprotocol, _, hnonneg, h⟩ := h
  cases h
  refine ⟨hbase, hlending, ?_, hnonneg⟩
  have hcharge : base.bits + (group.bits + insurance.bits + protocol.bits) ≤ borrowing.bits := by
    rw [FixedPoint.checkedAdd_eq_some.mp hborrowing, FixedPoint.checkedMul_bits hscaled,
      FixedPoint.checkedAdd_eq_some.mp hfactor, bits_one, FixedPoint.checkedAdd_eq_some.mp hfeeIr,
      FixedPoint.checkedAdd_eq_some.mp hrateFees, FixedPoint.checkedAdd_eq_some.mp hfeeFixed,
      FixedPoint.checkedAdd_eq_some.mp hfixed, calcFeeRate_bits hgroup,
      calcFeeRate_bits hinsurance, calcFeeRate_bits hprotocol]
    -- every share of the base rate is rounded down on its own
    have hm : (0 : ℤ) < 2 ^ 48 := by positivity
    have h1 := ediv_add_ediv_le (base.bits * irCalc.getFees.insuranceFeeRate.bits)
      (base.bits * irCalc.getFees.groupFeeRate.bits) hm
    have h2 := ediv_add_ediv_le (base.bits * irCalc.getFees.insuranceFeeRate.bits +
      base.bits * irCalc.getFees.groupFeeRate.bits)
      (base.bits * irCalc.getFees.protocolFeeRate.bits) hm
    rw [mul_add, Int.add_ediv_of_dvd_left (Dvd.intro_left _ rfl), Int.mul_ediv_cancel _ hm.ne',
      mul_add, mul_add]
    omega
  have hcast : (base.bits : ℚ) + (group.bits + insurance.bits + protocol.bits) ≤
    borrowing.bits := by
    exact_mod_cast hcharge
  simp only [ComputedInterestRates.feesApr, FixedPoint.val_eq]
  rw [← add_mul, ← add_mul, ← add_mul]
  exact mul_le_mul_of_nonneg_right hcast (FixedPoint.ulp_pos 48).le

/-- **Borrowers pay for everything**: what lenders earn on the deposits and what is taken as fees
on the debts is no more than what borrowers pay on the debts. -/
theorem calcInterestRate_balanced {totalAssets totalLiabilities : I80F48}
    (h : irCalc.calcInterestRate util = .ok rates)
    (hutil : totalLiabilities.checkedDiv totalAssets = some util) (hassets : 0 ≤ totalAssets)
    (hliabs : 0 ≤ totalLiabilities) (hbase : 0 ≤ rates.baseRateApr) :
    rates.lendingRateApr.val * totalAssets.val + rates.feesApr * totalLiabilities.val ≤
      rates.borrowingRateApr.val * totalLiabilities.val := by
  obtain ⟨-, hlending, hcharge, -⟩ := calcInterestRate_inv h
  have hA := FixedPoint.val_nonneg.mpr hassets
  have hL := FixedPoint.val_nonneg.mpr hliabs
  have hearned : rates.lendingRateApr.val * totalAssets.val ≤
      rates.baseRateApr.val * totalLiabilities.val :=
    calc rates.lendingRateApr.val * totalAssets.val
        ≤ rates.baseRateApr.val * util.val * totalAssets.val :=
          mul_le_mul_of_nonneg_right (FixedPoint.val_mul_le hlending) hA
      _ = rates.baseRateApr.val * (util.val * totalAssets.val) := mul_assoc _ _ _
      _ ≤ rates.baseRateApr.val * totalLiabilities.val :=
          mul_le_mul_of_nonneg_left (FixedPoint.val_div_mul_le hliabs hassets hutil)
            (FixedPoint.val_nonneg.mpr hbase)
  have hpaid := mul_le_mul_of_nonneg_right hcharge hL
  rw [add_mul] at hpaid
  linarith

end Rates

/-- The rates of an accepted legacy configuration are not negative. -/
theorem interestRateCurve_nonneg {config : InterestRateConfig} {group : MarginfiGroup}
    {util base : I80F48} (hvalid : config.validateLegacy = .ok ()) (hutil : 0 ≤ util)
    (h : (config.createInterestRateCalculator group).interestRateCurve util = .ok base) :
    0 ≤ base := by
  obtain ⟨hopt, hone, hplateau, hmax⟩ := InterestRateConfig.validateLegacy_bits hvalid
  unfold InterestRateCalc.interestRateCurve at h
  split_ifs at h with hur
  · simp only [bind_eq_ok, math, fromOption_eq_ok] at h
    obtain ⟨share, hshare, hbase⟩ := h
    have hshare0 := FixedPoint.checkedDiv_nonneg hutil (show 0 ≤ _ from hopt.le) hshare
    exact FixedPoint.checkedMul_nonneg hshare0 (show 0 ≤ _ from hplateau.le) hbase
  · simp only [bind_eq_ok, math, orPanic, fromOption_eq_ok] at h
    obtain ⟨above, habove, room, hroom, share, hshare, rise, hrise, scaled, hscaled, hbase⟩ := h
    have habove0 : 0 ≤ above.bits := by
      rw [FixedPoint.checkedSub_eq_some.mp habove]
      exact sub_nonneg.mpr (not_le.mp hur).le
    have hroom0 : 0 ≤ room.bits := by
      rw [FixedPoint.checkedSub_eq_some.mp hroom, bits_one]
      exact sub_nonneg.mpr hone.le
    have hrise0 : 0 ≤ rise.bits := by
      rw [FixedPoint.checkedSub_eq_some.mp hrise]
      exact sub_nonneg.mpr hmax.le
    have hshare0 := FixedPoint.checkedDiv_nonneg habove0 hroom0 hshare
    have hscaled0 : 0 ≤ scaled.bits := FixedPoint.checkedMul_nonneg hshare0 hrise0 hscaled
    show 0 ≤ base.bits
    rw [FixedPoint.checkedAdd_eq_some.mp hbase]
    exact add_nonneg hscaled0 hplateau.le

/-- The base rate of an accepted configuration is not negative. -/
theorem baseRate_nonneg {config : InterestRateConfig} {group : MarginfiGroup} {util base : I80F48}
    (hvalid : config.validate = .ok ()) (hutil : 0 ≤ util)
    (h : (config.createInterestRateCalculator group).baseRate util = .ok base) : 0 ≤ base := by
  have hcurve : (config.createInterestRateCalculator group).curveType = config.curveType := rfl
  unfold InterestRateConfig.validate at hvalid
  split_ifs at hvalid with hlegacy hseven
  · rw [InterestRateCalc.baseRate, if_pos (hcurve.trans hlegacy)] at h
    exact interestRateCurve_nonneg hvalid hutil h
  · rw [InterestRateCalc.baseRate, if_neg (hcurve ▸ hlegacy), if_pos (hcurve.trans hseven)] at h
    exact InterestRateConfig.interestRateMultipointCurve_nonneg hvalid h

/-! ### Payments for a period -/

theorem val_ofNat (n : ℕ) (h : n < 2 ^ 64) : (I80F48.ofNat n h).val = n := by
  rw [val]
  show ((n * 2 ^ 48 : ℤ) : ℚ) / 2 ^ 48 = n
  push_cast
  exact mul_div_cancel_right₀ _ (by positivity)

theorem val_ofU64 (n : UInt64) : (I80F48.ofU64 n).val = n.toNat := val_ofNat _ _

theorem val_secondsPerYear : secondsPerYear.val = 31536000 :=
  (val_ofNat _ _).trans (by norm_num)

theorem val_one : I80F48.one.val = 1 := (val_ofNat _ _).trans (by norm_num)

theorem ofU64_nonneg (n : UInt64) : 0 ≤ I80F48.ofU64 n := by
  rw [← FixedPoint.val_nonneg, val_ofU64]
  positivity

theorem ofU64_pos {n : UInt64} (h : 0 < n) : 0 < I80F48.ofU64 n := by
  have hn : 0 < n.toNat := UInt64.lt_iff_toNat_lt.mp h
  rw [← FixedPoint.val_pos, val_ofU64]
  positivity

/-- The part of a year that a number of seconds is. -/
def years (timeDelta : UInt64) : ℚ := timeDelta.toNat / 31536000

theorem years_nonneg (timeDelta : UInt64) : 0 ≤ years timeDelta := by
  unfold years
  positivity

/-- Multiplying by whole seconds is exact. -/
theorem val_mul_ofU64 {x z : I80F48} {n : UInt64} (h : x.checkedMul (I80F48.ofU64 n) = some z) :
    z.val = x.val * n.toNat := by
  have hbits : z.bits = x.bits * n.toNat := by
    rw [FixedPoint.checkedMul_bits h]
    show x.bits * (n.toNat * 2 ^ 48) / 2 ^ 48 = _
    rw [← mul_assoc, Int.mul_ediv_cancel _ (by positivity)]
  rw [FixedPoint.val, hbits, FixedPoint.val]
  push_cast
  ring

section Payments

variable {apr value x : I80F48} {timeDelta : UInt64}

/-- A value that earns interest grows by the interest, rounded down twice. -/
theorem calcAccrued_val
    (h : calcAccruedInterestPaymentPerPeriod apr timeDelta value = .ok x) (hapr : 0 ≤ apr)
    (hvalue : 0 ≤ value) :
    x.val ≤ value.val * (1 + apr.val * years timeDelta) ∧
      value.val * (1 + apr.val * years timeDelta) < x.val + (1 + value.val) * ulp 48 ∧
      value ≤ x := by
  simp only [calcAccruedInterestPaymentPerPeriod, bind_eq_ok, math, fromOption_eq_ok] at h
  obtain ⟨scaled, hscaled, rate, hrate, factor, hfactor, hx⟩ := h
  have hscaled0 : 0 ≤ scaled :=
    FixedPoint.checkedMul_nonneg hapr (ofU64_nonneg timeDelta) hscaled
  have hyear : (0 : I80F48) ≤ secondsPerYear := by decide
  have hrate0 := FixedPoint.val_nonneg.mpr (FixedPoint.checkedDiv_nonneg hscaled0 hyear hrate)
  have hlow := FixedPoint.val_div_mul_le hscaled0 hyear hrate
  have hhigh := FixedPoint.lt_val_div_mul hscaled0 hyear hrate
  rw [val_mul_ofU64 hscaled, val_secondsPerYear] at hlow hhigh
  have hfac := FixedPoint.val_add hfactor
  rw [val_one] at hfac
  have hx1 := FixedPoint.val_mul_le hx
  have hx2 := FixedPoint.lt_val_mul hx
  rw [hfac] at hx1 hx2
  have hv := FixedPoint.val_nonneg.mpr hvalue
  have hexact : apr.val * years timeDelta = apr.val * timeDelta.toNat / 31536000 := by
    rw [years, mul_div_assoc]
  have hle : rate.val ≤ apr.val * years timeDelta := by
    rw [hexact, le_div_iff₀ (by norm_num)]
    exact hlow
  have hlt : apr.val * years timeDelta < rate.val + ulp 48 := by
    rw [hexact, div_lt_iff₀ (by norm_num)]
    exact hhigh
  refine ⟨?_, ?_, ?_⟩
  · exact hx1.trans (mul_le_mul_of_nonneg_left (by linarith) hv)
  · nlinarith
  · have hrate0' : 0 ≤ rate.bits := FixedPoint.checkedDiv_nonneg hscaled0 hyear hrate
    have hfac0 : 2 ^ 48 ≤ factor.bits := by
      rw [FixedPoint.checkedAdd_eq_some.mp hfactor, bits_one]
      omega
    show value.bits ≤ x.bits
    rw [FixedPoint.checkedMul_bits hx]
    exact Int.le_ediv_of_mul_le (by positivity) (mul_le_mul_of_nonneg_left hfac0 hvalue)

/-- An interest payment is not negative, and at most the exact one. -/
theorem calcInterest_val (h : calcInterestPaymentForPeriod apr timeDelta value = .ok x)
    (hapr : 0 ≤ apr) (hvalue : 0 ≤ value) :
    0 ≤ x ∧ x.val ≤ value.val * (apr.val * years timeDelta) := by
  have hyear : (0 : I80F48) ≤ secondsPerYear := by decide
  unfold calcInterestPaymentForPeriod at h
  split_ifs at h with hzero
  · cases h
    simp [hzero]
  · simp only [bind_eq_ok, math, fromOption_eq_ok] at h
    obtain ⟨yearly, hyearly, scaled, hscaled, hx⟩ := h
    have hyearly0 := FixedPoint.checkedMul_nonneg hvalue hapr hyearly
    have hscaled0 := FixedPoint.checkedMul_nonneg hyearly0 (ofU64_nonneg timeDelta) hscaled
    refine ⟨FixedPoint.checkedDiv_nonneg hscaled0 hyear hx, ?_⟩
    have hpaid := FixedPoint.val_div_mul_le hscaled0 hyear hx
    rw [val_mul_ofU64 hscaled, val_secondsPerYear] at hpaid
    have hle := mul_le_mul_of_nonneg_right (FixedPoint.val_mul_le hyearly)
      (Nat.cast_nonneg (α := ℚ) timeDelta.toNat)
    rw [years, ← mul_assoc, ← mul_div_assoc, le_div_iff₀ (by norm_num)]
    exact hpaid.trans hle

end Payments

/-! ### Banks -/

/-- The books of a bank: the shares it has issued, what one share is worth on either side, and the
fees it has collected and not yet paid out. -/
@[ext] structure Pool where
  assetShares : I80F48
  liabilityShares : I80F48
  assetShareValue : I80F48
  liabilityShareValue : I80F48
  groupFees : I80F48
  insuranceFees : I80F48
  programFees : I80F48
  deriving DecidableEq

namespace Pool

/-- What a bank owes: its deposits, and the fees that it has yet to pay out. -/
def claims (pool : Pool) : ℚ :=
  pool.assetShares.val * pool.assetShareValue.val + pool.groupFees.val + pool.insuranceFees.val +
    pool.programFees.val

/-- What a bank is owed. -/
def debts (pool : Pool) : ℚ := pool.liabilityShares.val * pool.liabilityShareValue.val

/-- No number of shares and no share value is negative. -/
structure Nonneg (pool : Pool) : Prop where
  assetShares : 0 ≤ pool.assetShares
  liabilityShares : 0 ≤ pool.liabilityShares
  assetShareValue : 0 ≤ pool.assetShareValue
  liabilityShareValue : 0 ≤ pool.liabilityShareValue

end Pool

namespace Bank

/-- The books of a bank. -/
def pool (bank : Bank) : Pool where
  assetShares := bank.totalAssetShares
  liabilityShares := bank.totalLiabilityShares
  assetShareValue := bank.assetShareValue
  liabilityShareValue := bank.liabilityShareValue
  groupFees := bank.collectedGroupFeesOutstanding
  insuranceFees := bank.collectedInsuranceFeesOutstanding
  programFees := bank.collectedProgramFeesOutstanding

theorem collect_val {fee outstanding x : I80F48} (h : collect fee outstanding = .ok x)
    (hfee : 0 ≤ fee) : x.val = outstanding.val + fee.val := by
  unfold collect at h
  split_ifs at h with hpos
  · rw [math, fromOption_eq_ok] at h
    rw [FixedPoint.val_add h, add_comm]
  · cases h
    have hzero : fee = 0 := le_antisymm (not_lt.mp hpos) hfee
    simp [hzero]

end Bank

/-- Interest is accrued on the books of a bank for a number of seconds. -/
structure Accrues (irCalc : InterestRateCalc) (timeDelta : UInt64) (pool pool' : Pool) : Prop where
  assetShares : pool'.assetShares = pool.assetShares
  liabilityShares : pool'.liabilityShares = pool.liabilityShares
  changes : ∃ assets liabs changes, pool.assetShares.checkedMul pool.assetShareValue = some assets ∧
    pool.liabilityShares.checkedMul pool.liabilityShareValue = some liabs ∧
    calcInterestRateAccrualStateChanges timeDelta assets liabs irCalc pool.assetShareValue
      pool.liabilityShareValue = .ok changes ∧
    pool'.assetShareValue = changes.newAssetShareValue ∧
    pool'.liabilityShareValue = changes.newLiabilityShareValue ∧
    Bank.collect changes.groupFeesCollected pool.groupFees = .ok pool'.groupFees ∧
    Bank.collect changes.insuranceFeesCollected pool.insuranceFees = .ok pool'.insuranceFees ∧
    Bank.collect changes.protocolFeesCollected pool.programFees = .ok pool'.programFees

/-- An accrual leaves the books as they are or accrues interest on them, and keeps the
configuration of the bank. -/
theorem accrueInterest_inv {bank bank' : Bank} {now : Int64} {group : MarginfiGroup}
    (h : bank.accrueInterest now group = .ok bank') :
    bank'.config = bank.config ∧ (bank'.pool = bank.pool ∨ ∃ timeDelta,
      Accrues (bank.config.interestRateConfig.createInterestRateCalculator group) timeDelta
        bank.pool bank'.pool) := by
  simp only [Bank.accrueInterest, bind_eq_ok] at h
  obtain ⟨timeDelta, -, h⟩ := h
  split_ifs at h with hdelta
  · cases h
    exact ⟨rfl, .inl rfl⟩
  · simp only [bind_eq_ok, Bank.getAssetAmount, Bank.getLiabilityAmount, math,
      fromOption_eq_ok] at h
    obtain ⟨assets, hassets, liabs, hliabs, h⟩ := h
    split_ifs at h with hzero
    · cases h
      exact ⟨rfl, .inl rfl⟩
    · simp only [bind_eq_ok] at h
      obtain ⟨changes, hchanges, _, -, _, -, _, hgroup, _, hinsurance, _, hprogram, h⟩ := h
      cases h
      exact ⟨rfl, .inr ⟨timeDelta, rfl, rfl, assets, liabs, changes, hassets, hliabs, hchanges,
        rfl, rfl, hgroup, hinsurance, hprogram⟩⟩

section Accruals

variable {irCalc : InterestRateCalc} {timeDelta : UInt64} {pool pool' : Pool}

/-- **Accrual lowers no share value and no fee.** -/
theorem Accrues.rises (h : Accrues irCalc timeDelta pool pool') (hpool : pool.Nonneg) :
    pool.assetShareValue ≤ pool'.assetShareValue ∧
      pool.liabilityShareValue ≤ pool'.liabilityShareValue ∧ pool.groupFees ≤ pool'.groupFees ∧
      pool.insuranceFees ≤ pool'.insuranceFees ∧ pool.programFees ≤ pool'.programFees := by
  obtain ⟨assets, liabs, changes, hassets, hliabs, hchanges, hasv, hlsv, hgroup, hinsurance,
    hprogram⟩ := h.changes
  simp only [calcInterestRateAccrualStateChanges, bind_eq_ok, math, fromOption_eq_ok] at hchanges
  obtain ⟨util, -, rates, hrates, a, ha, l, hl, ins, hins, grp, hgrp, prog, hprog, h⟩ := hchanges
  cases h
  obtain ⟨-, -, -, hlend0, hborrow0, hgrp0, hins0, hprog0⟩ := calcInterestRate_inv hrates
  have hliabs0 :=
    FixedPoint.checkedMul_nonneg hpool.liabilityShares hpool.liabilityShareValue hliabs
  have hgrows {fee outstanding x : I80F48} (hx : Bank.collect fee outstanding = .ok x)
      (hfee : 0 ≤ fee) : outstanding ≤ x := by
    rw [← FixedPoint.val_le_val, Bank.collect_val hx hfee]
    exact le_add_of_nonneg_right (FixedPoint.val_nonneg.mpr hfee)
  refine ⟨?_, ?_, ?_, ?_, ?_⟩
  · rw [hasv]
    exact (calcAccrued_val ha hlend0 hpool.assetShareValue).2.2
  · rw [hlsv]
    exact (calcAccrued_val hl hborrow0 hpool.liabilityShareValue).2.2
  · exact hgrows hgroup (calcInterest_val hgrp hgrp0 hliabs0).1
  · exact hgrows hinsurance (calcInterest_val hins hins0 hliabs0).1
  · exact hgrows hprogram (calcInterest_val hprog hprog0 hliabs0).1

/-- **What a bank owes grows by no more than what it is owed**, up to rounding: one step for every
share that was lent out, one for every unit of debt, and the interest on one step. -/
theorem Accrues.covered {config : InterestRateConfig} {group : MarginfiGroup}
    (h : Accrues (config.createInterestRateCalculator group) timeDelta pool pool')
    (hpool : pool.Nonneg) (hvalid : config.validate = .ok ()) :
    ∃ interest, 0 ≤ interest ∧
      pool.assetShareValue.val * (1 + interest) <
        pool'.assetShareValue.val + (1 + pool.assetShareValue.val) * ulp 48 ∧
      pool'.claims - pool.claims ≤ pool'.debts - pool.debts +
        (pool.liabilityShares.val + pool.debts + interest) * ulp 48 := by
  obtain ⟨assets, liabs, changes, hassets, hliabs, hchanges, hasv, hlsv, hgroup, hinsurance,
    hprogram⟩ := h.changes
  simp only [calcInterestRateAccrualStateChanges, bind_eq_ok, math, fromOption_eq_ok] at hchanges
  obtain ⟨util, hutil, rates, hrates, a, ha, l, hl, ins, hins, grp, hgrp, prog, hprog, hc⟩ :=
    hchanges
  cases hc
  obtain ⟨hbase, -, -, hlend0, hborrow0, hgrp0, hins0, hprog0⟩ := calcInterestRate_inv hrates
  have hassets0 := FixedPoint.checkedMul_nonneg hpool.assetShares hpool.assetShareValue hassets
  have hliabs0 :=
    FixedPoint.checkedMul_nonneg hpool.liabilityShares hpool.liabilityShareValue hliabs
  have hutil0 := FixedPoint.checkedDiv_nonneg hliabs0 hassets0 hutil
  have hbalanced := calcInterestRate_balanced hrates hutil hassets0 hliabs0
    (baseRate_nonneg hvalid hutil0 hbase)
  have hyears := years_nonneg timeDelta
  have hinterest : 0 ≤ rates.lendingRateApr.val * years timeDelta :=
    mul_nonneg (FixedPoint.val_nonneg.mpr hlend0) hyears
  obtain ⟨hasv1, hasv2, -⟩ := calcAccrued_val ha hlend0 hpool.assetShareValue
  obtain ⟨-, hlsv2, -⟩ := calcAccrued_val hl hborrow0 hpool.liabilityShareValue
  refine ⟨rates.lendingRateApr.val * years timeDelta, hinterest, by rw [hasv]; exact hasv2, ?_⟩
  -- deposits grow by at most the interest on what is lent
  have hsa := FixedPoint.val_nonneg.mpr hpool.assetShares
  have hsl := FixedPoint.val_nonneg.mpr hpool.liabilityShares
  have hlent := (FixedPoint.lt_val_mul hassets).le
  have howed := FixedPoint.val_mul_le hliabs
  have hdeposits : pool.assetShares.val * (a.val - pool.assetShareValue.val) ≤
      (assets.val + ulp 48) * (rates.lendingRateApr.val * years timeDelta) :=
    calc pool.assetShares.val * (a.val - pool.assetShareValue.val)
        ≤ pool.assetShares.val *
            (pool.assetShareValue.val * (rates.lendingRateApr.val * years timeDelta)) :=
          mul_le_mul_of_nonneg_left (by linarith) hsa
      _ = pool.assetShares.val * pool.assetShareValue.val *
            (rates.lendingRateApr.val * years timeDelta) := (mul_assoc _ _ _).symm
      _ ≤ _ := mul_le_mul_of_nonneg_right hlent hinterest
  -- debts grow by at least the interest that is owed, but for rounding
  have hloans : liabs.val * (rates.borrowingRateApr.val * years timeDelta) -
      (pool.liabilityShares.val + pool.debts) * ulp 48 ≤
      pool.liabilityShares.val * (l.val - pool.liabilityShareValue.val) := by
    have hcharge := mul_le_mul_of_nonneg_right howed
      (mul_nonneg (FixedPoint.val_nonneg.mpr hborrow0) hyears)
    have hgrow := mul_le_mul_of_nonneg_left hlsv2.le hsl
    unfold Pool.debts
    linarith
  -- fees are charged on what is owed
  have hfees : grp.val + ins.val + prog.val ≤ liabs.val * (rates.feesApr * years timeDelta) := by
    have h1 := (calcInterest_val hgrp hgrp0 hliabs0).2
    have h2 := (calcInterest_val hins hins0 hliabs0).2
    have h3 := (calcInterest_val hprog hprog0 hliabs0).2
    unfold ComputedInterestRates.feesApr
    linarith
  have hpaid := mul_le_mul_of_nonneg_right hbalanced hyears
  have hgroup' := Bank.collect_val hgroup (calcInterest_val hgrp hgrp0 hliabs0).1
  have hins' := Bank.collect_val hinsurance (calcInterest_val hins hins0 hliabs0).1
  have hprog' := Bank.collect_val hprogram (calcInterest_val hprog hprog0 hliabs0).1
  unfold Pool.claims Pool.debts at *
  rw [h.assetShares, h.liabilityShares, hasv, hlsv, hgroup', hins', hprog']
  linarith

end Accruals

end Marginfi
