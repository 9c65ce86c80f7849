import FlashLoanBot.Marginfi.InterestRate

/-!
# marginfi: banks

The operations on a bank that borrowing and repaying use.

* `getAssetAmount`, `getLiabilityAmount`, `getAssetShares`, `getLiabilityShares`: shares and
  amounts at the bank's share values;
* `changeAssetShares`, `changeLiabilityShares`, `checkUtilizationRatio`: the bank's totals
  and the limits on them;
* `accrueInterest`, `updateBankCache`, `updateCachePrice`: interest and the cached metrics;
* `validateBankState`, `isMarginfiAssetTag`, …: the guards of the instructions.
-/

namespace Marginfi

open Solana Checked

/-- `Clock` -/
structure Clock where
  unixTimestamp : Int64
  epoch : UInt64

/-- `OraclePriceWithConfidence` -/
structure OraclePriceWithConfidence where
  price : I80F48
  confidence : I80F48
  deriving DecidableEq

/-- A saturating `i32` step up. -/
def saturatingSucc (n : Int32) : Int32 := if n = 2147483647 then n else n + 1

/-- A saturating `i32` step down. -/
def saturatingPred (n : Int32) : Int32 := if n = -2147483648 then n else n - 1

/-- An `I80F48` that is held at the ends of its range on overflow. -/
def saturate (z : ℤ) : I80F48 :=
  if h : -2 ^ 127 ≤ z ∧ z < 2 ^ 127 then ⟨z, h.1, h.2⟩
  else if 0 ≤ z then ⟨2 ^ 127 - 1, by decide, by decide⟩
  else ⟨-2 ^ 127, by decide, by decide⟩

def saturatingAdd (x y : I80F48) : I80F48 := saturate (x.bits + y.bits)

def saturatingSub (x y : I80F48) : I80F48 := saturate (x.bits - y.bits)

/-- `is_zero_with_tolerance`; the absolute value of the least number aborts. -/
def isZeroWithTolerance (x tolerance : I80F48) : Result Bool := do
  let magnitude ← orPanic x.checkedAbs
  .ok (magnitude < tolerance)

namespace BankConfig

/-- `is_deposit_limit_active` -/
def isDepositLimitActive (config : BankConfig) : Bool := config.depositLimit != 0xffffffffffffffff

/-- `is_borrow_limit_active` -/
def isBorrowLimitActive (config : BankConfig) : Bool := config.borrowLimit != 0xffffffffffffffff

/-- `usd_init_limit_active` -/
def usdInitLimitActive (config : BankConfig) : Bool := config.totalAssetValueInitLimit != 0

end BankConfig

namespace Bank

/-! ### Shares and amounts -/

/-- `get_liability_amount` -/
def getLiabilityAmount (bank : Bank) (shares : I80F48) : Result I80F48 :=
  math (shares.checkedMul bank.liabilityShareValue)

/-- `get_asset_amount` -/
def getAssetAmount (bank : Bank) (shares : I80F48) : Result I80F48 :=
  math (shares.checkedMul bank.assetShareValue)

/-- `get_liability_shares` -/
def getLiabilityShares (bank : Bank) (value : I80F48) : Result I80F48 :=
  math (value.checkedDiv bank.liabilityShareValue)

/-- `get_asset_shares` -/
def getAssetShares (bank : Bank) (value : I80F48) : Result I80F48 :=
  if bank.assetShareValue = 0 then .ok 0
  else math (value.checkedDiv bank.assetShareValue)

/-- `DRIFT_SCALED_BALANCE_DECIMALS` -/
def driftScaledBalanceDecimals : UInt8 := 9

/-- `get_balance_decimals` -/
def getBalanceDecimals (bank : Bank) : UInt8 :=
  if bank.config.assetTag = assetTagDrift then driftScaledBalanceDecimals else bank.mintDecimals

/-- `DriftMocksError::MathError` -/
def driftMathError : ProgramError := .custom 6004

/-- `scale_drift_deposit_limit` -/
def scaleDriftDepositLimit (depositLimit : UInt64) (mintDecimals : UInt8) : Result I80F48 :=
  let limit := I80F48.ofU64 depositLimit
  if mintDecimals = driftScaledBalanceDecimals then .ok limit
  else if mintDecimals < driftScaledBalanceDecimals then do
    let scale ← orPanic (exp10 (9 - mintDecimals.toNat))
    fromOption driftMathError (limit.checkedMul scale)
  else do
    let scale ← orPanic (exp10 (mintDecimals.toNat - 9))
    fromOption driftMathError (limit.checkedDiv scale)

/-- `change_asset_shares` -/
def changeAssetShares (bank : Bank) (shares : I80F48) (bypassDepositLimit : Bool) :
    Result Bank := do
  let total ← math (bank.totalAssetShares.checkedAdd shares)
  let bank := { bank with totalAssetShares := total }
  if 0 < shares ∧ bank.config.isDepositLimitActive ∧ ¬bypassDepositLimit then
    let totalDepositsAmount ← bank.getAssetAmount bank.totalAssetShares
    let depositLimit ←
      if bank.config.assetTag = assetTagDrift then
        scaleDriftDepositLimit bank.config.depositLimit bank.mintDecimals
      else .ok (I80F48.ofU64 bank.config.depositLimit)
    check (totalDepositsAmount < depositLimit) .bankAssetCapacityExceeded
  .ok bank

/-- `change_liability_shares` -/
def changeLiabilityShares (bank : Bank) (shares : I80F48) (bypassBorrowLimit : Bool) :
    Result Bank := do
  let total ← math (bank.totalLiabilityShares.checkedAdd shares)
  let bank := { bank with totalLiabilityShares := total }
  if ¬bypassBorrowLimit ∧ 0 < shares ∧ bank.config.isBorrowLimitActive then
    let totalLiabilityAmount ← bank.getLiabilityAmount bank.totalLiabilityShares
    check (totalLiabilityAmount < I80F48.ofU64 bank.config.borrowLimit)
      .bankLiabilityCapacityExceeded
  .ok bank

/-- `check_utilization_ratio` -/
def checkUtilizationRatio (bank : Bank) : Result Unit := do
  let totalAssets ← bank.getAssetAmount bank.totalAssetShares
  let totalLiabilities ← bank.getLiabilityAmount bank.totalLiabilityShares
  check (totalLiabilities ≤ totalAssets) .illegalUtilizationRatio

def incrementLendingPositionCount (bank : Bank) : Bank :=
  { bank with lendingPositionCount := saturatingSucc bank.lendingPositionCount }

def decrementLendingPositionCount (bank : Bank) : Bank :=
  { bank with lendingPositionCount := saturatingPred bank.lendingPositionCount }

def incrementBorrowingPositionCount (bank : Bank) : Bank :=
  { bank with borrowingPositionCount := saturatingSucc bank.borrowingPositionCount }

def decrementBorrowingPositionCount (bank : Bank) : Bank :=
  { bank with borrowingPositionCount := saturatingPred bank.borrowingPositionCount }

/-- `get_flag`: all bits of the flag are set. -/
def getFlag (bank : Bank) (flag : UInt64) : Bool := bank.flags &&& flag == flag

/-! ### Interest -/

/-- The seconds between two timestamps; time that runs backwards aborts. -/
def timeDelta (now before : Int64) : Result UInt64 := do
  let delta := now.toInt - before.toInt
  ensure (0 ≤ delta ∧ delta < 2 ^ 63) .panicked
  .ok (UInt64.ofNat delta.toNat)

/-- A fee that has been collected goes to what is outstanding. -/
def collect (fee outstanding : I80F48) : Result I80F48 :=
  if 0 < fee then math (fee.checkedAdd outstanding) else .ok outstanding

/-- `accrue_interest` -/
def accrueInterest (bank : Bank) (currentTimestamp : Int64) (group : MarginfiGroup) :
    Result Bank := do
  let delta ← timeDelta currentTimestamp bank.lastUpdate
  if delta = 0 then .ok bank
  else
    let totalAssets ← bank.getAssetAmount bank.totalAssetShares
    let totalLiabilities ← bank.getLiabilityAmount bank.totalLiabilityShares
    let bank := { bank with lastUpdate := currentTimestamp }
    if totalAssets = 0 ∨ totalLiabilities = 0 then .ok bank
    else
      let changes ← calcInterestRateAccrualStateChanges delta totalAssets totalLiabilities
        (bank.config.interestRateConfig.createInterestRateCalculator group)
        bank.assetShareValue bank.liabilityShareValue
      let rise ← math (changes.newAssetShareValue.checkedSub bank.assetShareValue)
      let accumulated ← math (rise.checkedMul bank.totalAssetShares)
      let groupFees ← collect changes.groupFeesCollected bank.collectedGroupFeesOutstanding
      let insuranceFees ←
        collect changes.insuranceFeesCollected bank.collectedInsuranceFeesOutstanding
      let programFees ←
        collect changes.protocolFeesCollected bank.collectedProgramFeesOutstanding
      .ok { bank with
        cache := { bank.cache with
          accumulatedSinceLastUpdate := accumulated
          interestAccumulatedFor := UInt32.ofNat (min delta.toNat 0xffffffff) }
        assetShareValue := changes.newAssetShareValue
        liabilityShareValue := changes.newLiabilityShareValue
        collectedGroupFeesOutstanding := groupFees
        collectedInsuranceFeesOutstanding := insuranceFees
        collectedProgramFeesOutstanding := programFees }

/-- `reset_preserving_oracle_price` -/
def resetPreservingOraclePrice (cache : BankCache) : BankCache :=
  { cache with
    baseRate := 0
    lendingRate := 0
    borrowingRate := 0
    interestAccumulatedFor := 0
    accumulatedSinceLastUpdate := 0 }

/-- `update_bank_cache` -/
def updateBankCache (bank : Bank) (group : MarginfiGroup) (clock : Clock) : Result Bank := do
  let totalAssets ← bank.getAssetAmount bank.totalAssetShares
  let totalLiabilities ← bank.getLiabilityAmount bank.totalLiabilityShares
  if totalAssets = 0 ∨ totalLiabilities = 0 then
    .ok { bank with cache := resetPreservingOraclePrice bank.cache }
  else
    let utilizationRate ← math (totalLiabilities.checkedDiv totalAssets)
    let rates ← (bank.config.interestRateConfig.createInterestRateCalculator
      group).calcInterestRate utilizationRate
    let baseRate ← milliToU32 rates.baseRateApr
    let lendingRate ← milliToU32 rates.lendingRateApr
    let borrowingRate ← milliToU32 rates.borrowingRateApr
    .ok { bank with
      cache := { bank.cache with
        baseRate := baseRate
        lendingRate := lendingRate
        borrowingRate := borrowingRate }
      lastUpdate := clock.unixTimestamp }

/-- `update_cache_price` -/
def updateCachePrice (bank : Bank) (oraclePrice : Option OraclePriceWithConfidence)
    (clock : Clock) : Bank :=
  match oraclePrice with
  | none => bank
  | some p => { bank with
      cache := { bank.cache with
        lastOraclePrice := p.price
        lastOraclePriceConfidence := p.confidence
        lastOraclePriceTimestamp := clock.unixTimestamp } }

end Bank

/-! ### Guards -/

/-- `is_marginfi_asset_tag` -/
def isMarginfiAssetTag (tag : UInt8) : Bool :=
  tag == assetTagDefault || tag == assetTagSol || tag == assetTagStaked

/-- `is_integration_asset_tag` -/
def isIntegrationAssetTag (tag : UInt8) : Bool :=
  tag == assetTagKamino || tag == assetTagDrift || tag == assetTagSolend

/-- `InstructionKind` -/
inductive InstructionKind
  | unrestricted
  | failsInReduceState
  | failsInPausedState
  | failsIfPausedOrReduceState
  deriving DecidableEq

/-- `validate_bank_state` -/
def validateBankState (bank : Bank) (kind : InstructionKind) : Result Unit :=
  match bank.config.operationalState, kind with
  | .killedByBankruptcy, _ => .error MarginfiError.bankKilledByBankruptcy.toError
  | .reduceOnly, .failsInReduceState => .error MarginfiError.bankReduceOnly.toError
  | .paused, .failsInPausedState => .error MarginfiError.bankPaused.toError
  | .paused, .failsIfPausedOrReduceState => .error MarginfiError.bankPaused.toError
  | .reduceOnly, .failsIfPausedOrReduceState => .error MarginfiError.bankReduceOnly.toError
  | _, _ => .ok ()

/-- `is_protocol_paused`: the pause flag is set and the pause, of 30 minutes, is running. -/
def MarginfiGroup.isProtocolPaused (group : MarginfiGroup) (clock : Clock) : Result Bool :=
  if group.pauseFlags &&& 1 = 0 then .ok false
  else if clock.unixTimestamp < group.pauseStartTimestamp then .ok true
  else do
    let elapsed ← Bank.timeDelta clock.unixTimestamp group.pauseStartTimestamp
    .ok (elapsed < 1800)

end Marginfi
