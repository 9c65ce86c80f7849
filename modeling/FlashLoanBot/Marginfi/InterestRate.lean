import FlashLoanBot.Marginfi.Types

/-!
# marginfi: interest rates

The rates that a bank charges and pays, and the change of its share values over a period.

* `InterestRateCalc`: the rate parameters of a bank together with the fees of its group;
* `lerp`, `interestRateCurve`, `interestRateMultipointCurve`: the base rate as a piecewise
  linear function of the utilization;
* `calcInterestRate`: base, lending and borrowing rates and the fee rates;
* `calcInterestRateAccrualStateChanges`: the new share values and the fees collected.

The source computes these in `Option`, and both callers turn `None` into `MathError`; here
that error is raised where the `None` arises.  Operators that the source applies unchecked
abort the program on overflow.
-/

namespace Marginfi

open Solana Checked

/-- `InterestRateCalc` -/
structure InterestRateCalc where
  optimalUtilizationRate : I80F48
  plateauInterestRate : I80F48
  maxInterestRate : I80F48
  insuranceFixedFee : I80F48
  insuranceRateFee : I80F48
  protocolFixedFee : I80F48
  protocolRateFee : I80F48
  programFeeFixed : I80F48
  programFeeRate : I80F48
  addProgramFees : Bool
  zeroUtilRate : UInt32
  hundredUtilRate : UInt32
  points : Vector RatePoint 5
  curveType : UInt8

/-- `program_fees_enabled` -/
def MarginfiGroup.programFeesEnabled (group : MarginfiGroup) : Bool := group.groupFlags &&& 1 != 0

/-- `create_interest_rate_calculator` -/
def InterestRateConfig.createInterestRateCalculator (config : InterestRateConfig)
    (group : MarginfiGroup) : InterestRateCalc where
  optimalUtilizationRate := config.optimalUtilizationRate
  plateauInterestRate := config.plateauInterestRate
  maxInterestRate := config.maxInterestRate
  insuranceFixedFee := config.insuranceFeeFixedApr
  insuranceRateFee := config.insuranceIrFee
  protocolFixedFee := config.protocolFixedFeeApr
  protocolRateFee := config.protocolIrFee
  addProgramFees := group.programFeesEnabled
  programFeeFixed := group.programFeeFixed
  programFeeRate := group.programFeeRate
  zeroUtilRate := config.zeroUtilRate
  hundredUtilRate := config.hundredUtilRate
  points := config.points
  curveType := config.curveType

/-! ### The curve -/

/-- The rate that a `u32` stands for, out of 1000%. -/
def rateFromU32 (rate : UInt32) : Result I80F48 := do
  let ratio ← orPanic ((I80F48.ofU32 rate).checkedDiv (I80F48.ofU32 0xffffffff))
  orPanic (ratio.checkedMul (I80F48.ofU32 10))

/-- The utilization that a `u32` stands for, out of 100%. -/
def utilFromU32 (util : UInt32) : Result I80F48 :=
  orPanic ((I80F48.ofU32 util).checkedDiv (I80F48.ofU32 0xffffffff))

/-- Linear interpolation between two points; decreasing segments are refused. -/
def lerp (startX startY endX endY targetX : I80F48) : Result I80F48 :=
  if endX ≤ startX then .ok startY
  else if targetX < startX ∨ endX < targetX ∨ endY < startY then math none
  else do
    let deltaX ← orPanic (endX.checkedSub startX)
    let offset ← orPanic (targetX.checkedSub startX)
    let proportion ← orPanic (offset.checkedDiv deltaX)
    let deltaY ← orPanic (endY.checkedSub startY)
    let scaledDelta ← math (deltaY.checkedMul proportion)
    orPanic (startY.checkedAdd scaledDelta)

/-- The segment of a multi-point curve that holds `ur`, starting from a known point. -/
def walkPoints (ur hundredRate : I80F48) : List RatePoint → I80F48 → I80F48 → Result I80F48
  | [], prevUtil, prevRate => lerp prevUtil prevRate .one hundredRate ur
  | point :: points, prevUtil, prevRate =>
      -- unused points have utilization zero
      if point.util = 0 then walkPoints ur hundredRate points prevUtil prevRate
      else do
        let pointUtil ← utilFromU32 point.util
        let pointRate ← rateFromU32 point.rate
        if ur ≤ pointUtil then lerp prevUtil prevRate pointUtil pointRate ur
        else walkPoints ur hundredRate points pointUtil pointRate

/-- `interest_rate_multipoint_curve` -/
def InterestRateCalc.interestRateMultipointCurve (self : InterestRateCalc) (ur : I80F48) :
    Result I80F48 := do
  let zeroRate ← rateFromU32 self.zeroUtilRate
  let hundredRate ← rateFromU32 self.hundredUtilRate
  walkPoints (min (max ur 0) .one) hundredRate self.points.toList 0 zeroRate

/-- `interest_rate_curve`, the legacy curve with a single kink. -/
def InterestRateCalc.interestRateCurve (self : InterestRateCalc) (ur : I80F48) :
    Result I80F48 :=
  if ur ≤ self.optimalUtilizationRate then do
    let share ← math (ur.checkedDiv self.optimalUtilizationRate)
    math (share.checkedMul self.plateauInterestRate)
  else do
    let above ← orPanic (ur.checkedSub self.optimalUtilizationRate)
    let room ← orPanic (I80F48.one.checkedSub self.optimalUtilizationRate)
    let share ← math (above.checkedDiv room)
    let rise ← orPanic (self.maxInterestRate.checkedSub self.plateauInterestRate)
    let scaled ← math (share.checkedMul rise)
    math (scaled.checkedAdd self.plateauInterestRate)

/-! ### Rates -/

/-- `Fees` -/
structure Fees where
  insuranceFeeRate : I80F48
  insuranceFeeFixed : I80F48
  groupFeeRate : I80F48
  groupFeeFixed : I80F48
  protocolFeeRate : I80F48
  protocolFeeFixed : I80F48

/-- `get_fees` -/
def InterestRateCalc.getFees (self : InterestRateCalc) : Fees where
  insuranceFeeRate := self.insuranceRateFee
  insuranceFeeFixed := self.insuranceFixedFee
  groupFeeRate := self.protocolRateFee
  groupFeeFixed := self.protocolFixedFee
  protocolFeeRate := if self.addProgramFees then self.programFeeRate else 0
  protocolFeeFixed := if self.addProgramFees then self.programFeeFixed else 0

/-- `calc_fee_rate` -/
def calcFeeRate (baseRate rateFees fixedFees : I80F48) : Result I80F48 :=
  if rateFees = 0 then .ok fixedFees
  else do
    let scaled ← math (baseRate.checkedMul rateFees)
    math (scaled.checkedAdd fixedFees)

/-- `ComputedInterestRates` -/
structure ComputedInterestRates where
  baseRateApr : I80F48
  lendingRateApr : I80F48
  borrowingRateApr : I80F48
  groupFeeApr : I80F48
  insuranceFeeApr : I80F48
  protocolFeeApr : I80F48

/-- `calc_interest_rate` -/
def InterestRateCalc.calcInterestRate (self : InterestRateCalc) (utilizationRatio : I80F48) :
    Result ComputedInterestRates := do
  let fees := self.getFees
  let rateFees ← orPanic (fees.insuranceFeeRate.checkedAdd fees.groupFeeRate)
  let feeIr ← orPanic (rateFees.checkedAdd fees.protocolFeeRate)
  let fixedFees ← orPanic (fees.insuranceFeeFixed.checkedAdd fees.groupFeeFixed)
  let feeFixed ← orPanic (fixedFees.checkedAdd fees.protocolFeeFixed)
  let baseRateApr ←
    if self.curveType = 0 then self.interestRateCurve utilizationRatio
    else if self.curveType = 1 then self.interestRateMultipointCurve utilizationRatio
    else .error .panicked
  let lendingRateApr ← math (baseRateApr.checkedMul utilizationRatio)
  let factor ← math (I80F48.one.checkedAdd feeIr)
  let scaledRate ← math (baseRateApr.checkedMul factor)
  let borrowingRateApr ← math (scaledRate.checkedAdd feeFixed)
  let groupFeeApr ← calcFeeRate baseRateApr fees.groupFeeRate fees.groupFeeFixed
  let insuranceFeeApr ← calcFeeRate baseRateApr fees.insuranceFeeRate fees.insuranceFeeFixed
  let protocolFeeApr ← calcFeeRate baseRateApr fees.protocolFeeRate fees.protocolFeeFixed
  ensure (0 ≤ lendingRateApr ∧ 0 ≤ borrowingRateApr ∧ 0 ≤ groupFeeApr ∧ 0 ≤ insuranceFeeApr ∧
    0 ≤ protocolFeeApr) .panicked
  .ok ⟨baseRateApr, lendingRateApr, borrowingRateApr, groupFeeApr, insuranceFeeApr,
    protocolFeeApr⟩

/-! ### Accrual -/

/-- `calc_accrued_interest_payment_per_period` -/
def calcAccruedInterestPaymentPerPeriod (apr : I80F48) (timeDelta : UInt64) (value : I80F48) :
    Result I80F48 := do
  let scaled ← math (apr.checkedMul (I80F48.ofU64 timeDelta))
  let irPerPeriod ← math (scaled.checkedDiv secondsPerYear)
  let factor ← math (I80F48.one.checkedAdd irPerPeriod)
  math (value.checkedMul factor)

/-- `calc_interest_payment_for_period` -/
def calcInterestPaymentForPeriod (apr : I80F48) (timeDelta : UInt64) (value : I80F48) :
    Result I80F48 :=
  if apr = 0 then .ok 0
  else do
    let yearly ← math (value.checkedMul apr)
    let scaled ← math (yearly.checkedMul (I80F48.ofU64 timeDelta))
    math (scaled.checkedDiv secondsPerYear)

/-- `InterestRateStateChanges` -/
structure InterestRateStateChanges where
  newAssetShareValue : I80F48
  newLiabilityShareValue : I80F48
  insuranceFeesCollected : I80F48
  groupFeesCollected : I80F48
  protocolFeesCollected : I80F48

/-- `calc_interest_rate_accrual_state_changes` -/
def calcInterestRateAccrualStateChanges (timeDelta : UInt64)
    (totalAssetsAmount totalLiabilitiesAmount : I80F48) (interestRateCalc : InterestRateCalc)
    (assetShareValue liabilityShareValue : I80F48) : Result InterestRateStateChanges := do
  let utilizationRate ← math (totalLiabilitiesAmount.checkedDiv totalAssetsAmount)
  let rates ← interestRateCalc.calcInterestRate utilizationRate
  let newAssetShareValue ←
    calcAccruedInterestPaymentPerPeriod rates.lendingRateApr timeDelta assetShareValue
  let newLiabilityShareValue ←
    calcAccruedInterestPaymentPerPeriod rates.borrowingRateApr timeDelta liabilityShareValue
  let insuranceFeesCollected ←
    calcInterestPaymentForPeriod rates.insuranceFeeApr timeDelta totalLiabilitiesAmount
  let groupFeesCollected ←
    calcInterestPaymentForPeriod rates.groupFeeApr timeDelta totalLiabilitiesAmount
  let protocolFeesCollected ←
    calcInterestPaymentForPeriod rates.protocolFeeApr timeDelta totalLiabilitiesAmount
  .ok ⟨newAssetShareValue, newLiabilityShareValue, insuranceFeesCollected, groupFeesCollected,
    protocolFeesCollected⟩

/-- `milli_to_u32`: a rate as a `u32` out of 1000%, clamped at both ends. -/
def milliToU32 (value : I80F48) : Result UInt32 := do
  let maxPercent := I80F48.ofU32 10
  let ratio ← orPanic ((max (min value maxPercent) 0).checkedDiv maxPercent)
  let scaled ← orPanic (ratio.checkedMul (I80F48.ofU32 0xffffffff))
  orPanic ((scaled.toNat? (2 ^ 32)).map UInt32.ofNat)

end Marginfi
