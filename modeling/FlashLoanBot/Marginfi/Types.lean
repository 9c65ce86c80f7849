import FlashLoanBot.Lib.FixedPoint
import FlashLoanBot.Solana.Anchor

/-!
# marginfi: numbers, errors and account data

The data that the embedded marginfi program keeps on chain, as far as its flash-loan, borrow
and repay instructions read it.

* `I80F48`: the number format of all shares, amounts and rates;
* `Cluster`: the clusters the program is built for, with its address on each;
* `MarginfiError`: the errors that these instructions raise, with their codes;
* `InterestRateConfig`, `BankConfig`, `Bank`, `MarginfiGroup`: banks and their group;
* `Balance`, `LendingAccount`, `MarginfiAccount`: a user's positions.
-/

namespace Marginfi

open Solana Checked

/-! ### Numbers -/

/-- The signed fixed-point format with 80 integer and 48 fractional bits. -/
abbrev I80F48 := FixedPoint 128 48

namespace I80F48

/-- A natural number below `2 ^ 64`. -/
def ofNat (n : ℕ) (h : n < 2 ^ 64) : I80F48 where
  bits := n * 2 ^ 48
  lower := by omega
  upper := by omega

/-- `I80F48::from_num` on a `u64`. -/
def ofU64 (n : UInt64) : I80F48 := ofNat n.toNat n.toNat_lt

/-- `I80F48::from_num` on a `u32`. -/
def ofU32 (n : UInt32) : I80F48 := ofNat n.toNat (lt_trans n.toNat_lt (by decide))

/-- `I80F48::ONE` -/
def one : I80F48 := ofNat 1 (by decide)

/-- `checked_to_num::<u64>` -/
def toU64? (x : I80F48) : Option UInt64 := (x.toNat? (2 ^ 64)).map UInt64.ofNat

/-- `x > tolerance` -/
def IsPositiveWithTolerance (x tolerance : I80F48) : Prop := tolerance < x

instance (x t : I80F48) : Decidable (x.IsPositiveWithTolerance t) :=
  inferInstanceAs (Decidable (t < x))

end I80F48

/-- `EMPTY_BALANCE_THRESHOLD` -/
def emptyBalanceThreshold : I80F48 := .one

/-- `ZERO_AMOUNT_THRESHOLD`, the number closest to `0.0001`. -/
def zeroAmountThreshold : I80F48 := ⟨28147497671, by decide, by decide⟩

/-- `SECONDS_PER_YEAR` -/
def secondsPerYear : I80F48 := .ofNat 31536000 (by decide)

/-- `MIN_EMISSIONS_START_TIME` -/
def minEmissionsStartTime : UInt64 := 1681989983

/-- `EXP_10_I80F48`, a table of 24 entries; reading past its end aborts. -/
def exp10 (n : ℕ) : Option I80F48 :=
  if n < 24 then FixedPoint.ofInt? (10 ^ n) else none

/-! ### The program -/

/-- The cluster that the program is built for. -/
inductive Cluster
  | mainnetBeta
  | devnet
  | staging
  | stagingAlt
  | localnet
  deriving DecidableEq

/-- The address of the program (`declare_id!`), by cluster. -/
def Cluster.id : Cluster → Pubkey
  | mainnetBeta => .base58 "MFv2hWf31Z9kbCa1snEPYctwafyhdvnV7FZnsebVacA"
  | devnet => .base58 "neetcne3Ctrrud7vLdt2ypMm21gZHGN2mCmqWaMVcBQ"
  | staging => .base58 "stag8sTKds2h4KzjUw3zKTsxbqvT4XKHdaR9X9E6Rct"
  | stagingAlt => .base58 "5UDghkpgW1HfYSrmEj2iAApHShqU44H6PKTAar9LL9bY"
  | localnet => .base58 "2jGhuVUuy3umdzByFx8sNWUAaf5vaeuDm78RDPEnhrMr"

/-! ### Errors -/

/-- `MarginfiError`, as far as the modelled instructions raise it. -/
inductive MarginfiError
  | internalLogicError
  | bankAssetCapacityExceeded
  | invalidTransfer
  | invalidBankAccount
  | riskEngineInitRejected
  | lendingAccountBalanceSlotsFull
  | bankPaused
  | bankReduceOnly
  | bankAccountNotFound
  | operationDepositOnly
  | operationWithdrawOnly
  | operationBorrowOnly
  | operationRepayOnly
  | noLiabilityFound
  | illegalUtilizationRatio
  | bankLiabilityCapacityExceeded
  | isolatedAccountIllegalState
  | cannotCloseOutstandingEmissions
  | accountDisabled
  | illegalFlashloan
  | unauthorized
  | t22MintRequired
  | assetTagMismatch
  | wrongNumberOfOracleAccounts
  | mathError
  | protocolPaused
  | bankKilledByBankruptcy
  | forbiddenIx
  | notAllowedInCPI
  | invalidGroup
  | invalidLiquidityVault
  | accountFrozen
  | wrongAssetTagForStandardInstructions
  | integrationPositionLimitExceeded
  deriving DecidableEq

/-- The error code. -/
def MarginfiError.code : MarginfiError → ℕ
  | internalLogicError => 6000
  | bankAssetCapacityExceeded => 6003
  | invalidTransfer => 6004
  | invalidBankAccount => 6008
  | riskEngineInitRejected => 6009
  | lendingAccountBalanceSlotsFull => 6010
  | bankPaused => 6016
  | bankReduceOnly => 6017
  | bankAccountNotFound => 6018
  | operationDepositOnly => 6019
  | operationWithdrawOnly => 6020
  | operationBorrowOnly => 6021
  | operationRepayOnly => 6022
  | noLiabilityFound => 6024
  | illegalUtilizationRatio => 6026
  | bankLiabilityCapacityExceeded => 6027
  | isolatedAccountIllegalState => 6029
  | cannotCloseOutstandingEmissions => 6033
  | accountDisabled => 6035
  | illegalFlashloan => 6038
  | unauthorized => 6042
  | t22MintRequired => 6044
  | assetTagMismatch => 6047
  | wrongNumberOfOracleAccounts => 6051
  | mathError => 6062
  | protocolPaused => 6080
  | bankKilledByBankruptcy => 6084
  | forbiddenIx => 6089
  | notAllowedInCPI => 6091
  | invalidGroup => 6093
  | invalidLiquidityVault => 6094
  | accountFrozen => 6103
  | wrongAssetTagForStandardInstructions => 6200
  | integrationPositionLimitExceeded => 6212

/-- The failure that the error stands for. -/
def MarginfiError.toError (e : MarginfiError) : ProgramError := .custom e.code

/-- `check!` -/
def check (p : Prop) [Decidable p] (e : MarginfiError) : Result Unit := ensure p e.toError

/-- `.ok_or_else(math_error!())` -/
def math {α : Type} (o : Option α) : Result α := fromOption MarginfiError.mathError.toError o

/-- A value whose absence aborts the program (`unwrap`, an overflow check, an index). -/
def orPanic {α : Type} (o : Option α) : Result α := fromOption .panicked o

theorem check_eq_ok {p : Prop} [Decidable p] {e : MarginfiError} {u : Unit} :
    check p e = .ok u ↔ p := ensure_eq_ok

/-! ### Banks -/

/-- A kink of the interest curve. -/
structure RatePoint where
  util : UInt32
  rate : UInt32
  deriving DecidableEq

/-- `InterestRateConfig` -/
structure InterestRateConfig where
  optimalUtilizationRate : I80F48
  plateauInterestRate : I80F48
  maxInterestRate : I80F48
  insuranceFeeFixedApr : I80F48
  insuranceIrFee : I80F48
  protocolFixedFeeApr : I80F48
  protocolIrFee : I80F48
  protocolOriginationFee : I80F48
  zeroUtilRate : UInt32
  hundredUtilRate : UInt32
  points : Vector RatePoint 5
  curveType : UInt8
  deriving DecidableEq

/-- `BankOperationalState` -/
inductive BankOperationalState
  | paused
  | operational
  | reduceOnly
  | killedByBankruptcy
  deriving DecidableEq

/-- `RiskTier` -/
inductive RiskTier
  | collateral
  | isolated
  deriving DecidableEq

/-- `OracleSetup` -/
inductive OracleSetup
  | none
  | pythLegacy
  | switchboardV2
  | pythPushOracle
  | switchboardPull
  | stakedWithPythPush
  | kaminoPythPush
  | kaminoSwitchboardPull
  | fixed
  | driftPythPull
  | driftSwitchboardPull
  | solendPythPull
  | solendSwitchboardPull
  deriving DecidableEq

/-- `ASSET_TAG_DEFAULT`, … -/
def assetTagDefault : UInt8 := 0

def assetTagSol : UInt8 := 1

def assetTagStaked : UInt8 := 2

def assetTagKamino : UInt8 := 3

def assetTagDrift : UInt8 := 4

def assetTagSolend : UInt8 := 5

/-- `BankConfig` -/
structure BankConfig where
  assetWeightInit : I80F48
  assetWeightMaint : I80F48
  liabilityWeightInit : I80F48
  liabilityWeightMaint : I80F48
  depositLimit : UInt64
  interestRateConfig : InterestRateConfig
  operationalState : BankOperationalState
  oracleSetup : OracleSetup
  borrowLimit : UInt64
  riskTier : RiskTier
  assetTag : UInt8
  totalAssetValueInitLimit : UInt64
  oracleMaxConfidence : UInt32
  deriving DecidableEq

/-- `EmodeEntry` -/
structure EmodeEntry where
  collateralBankEmodeTag : UInt16
  flags : UInt8
  assetWeightInit : I80F48
  assetWeightMaint : I80F48
  deriving DecidableEq

/-- `EmodeConfig` -/
structure EmodeConfig where
  entries : Vector EmodeEntry 10
  deriving DecidableEq

/-- `BankCache` -/
structure BankCache where
  baseRate : UInt32
  lendingRate : UInt32
  borrowingRate : UInt32
  interestAccumulatedFor : UInt32
  accumulatedSinceLastUpdate : I80F48
  lastOraclePrice : I80F48
  lastOraclePriceTimestamp : Int64
  lastOraclePriceConfidence : I80F48
  deriving DecidableEq

/-- `Bank` -/
structure Bank where
  mint : Pubkey
  mintDecimals : UInt8
  group : Pubkey
  assetShareValue : I80F48
  liabilityShareValue : I80F48
  liquidityVault : Pubkey
  liquidityVaultAuthorityBump : UInt8
  collectedInsuranceFeesOutstanding : I80F48
  collectedGroupFeesOutstanding : I80F48
  totalLiabilityShares : I80F48
  totalAssetShares : I80F48
  lastUpdate : Int64
  config : BankConfig
  flags : UInt64
  emissionsRate : UInt64
  emissionsRemaining : I80F48
  collectedProgramFeesOutstanding : I80F48
  emodeTag : UInt16
  emodeConfig : EmodeConfig
  cache : BankCache
  lendingPositionCount : Int32
  borrowingPositionCount : Int32
  deriving DecidableEq

/-- `EMISSIONS_FLAG_BORROW_ACTIVE`, … -/
def emissionsFlagBorrowActive : UInt64 := 1

def emissionsFlagLendingActive : UInt64 := 2

def tokenlessRepaymentsAllowed : UInt64 := 32

def tokenlessRepaymentsComplete : UInt64 := 64

/-- `MarginfiGroup`, with the fields of its fee and panic caches. -/
structure MarginfiGroup where
  admin : Pubkey
  groupFlags : UInt64
  programFeeFixed : I80F48
  programFeeRate : I80F48
  pauseFlags : UInt8
  pauseStartTimestamp : Int64
  riskAdmin : Pubkey
  deriving DecidableEq

/-! ### User accounts -/

/-- `BalanceSide` -/
inductive BalanceSide
  | assets
  | liabilities
  deriving DecidableEq

/-- `Balance`: a user's position in one bank. -/
structure Balance where
  active : UInt8
  bankPk : Pubkey
  bankAssetTag : UInt8
  assetShares : I80F48
  liabilityShares : I80F48
  emissionsOutstanding : I80F48
  lastUpdate : UInt64
  deriving DecidableEq

/-- `MAX_LENDING_ACCOUNT_BALANCES` -/
def maxLendingAccountBalances : ℕ := 16

/-- `LendingAccount`: a fixed number of slots for positions. -/
structure LendingAccount where
  balances : List Balance
  length_eq : balances.length = maxLendingAccountBalances
  deriving DecidableEq

/-- `MarginfiAccount` -/
structure MarginfiAccount where
  group : Pubkey
  authority : Pubkey
  lendingAccount : LendingAccount
  accountFlags : UInt64
  lastUpdate : UInt64
  deriving DecidableEq

/-- `ACCOUNT_DISABLED`, … -/
def accountDisabledFlag : UInt64 := 1

def accountInFlashloanFlag : UInt64 := 2

def accountInReceivershipFlag : UInt64 := 16

def accountFrozenFlag : UInt64 := 64

end Marginfi
