import FlashLoanBot.Marginfi.Lending
import FlashLoanBot.Marginfi.Panic

/-!
# marginfi: deposits and withdrawals

The instructions that move a user's own funds, and those that close a position.

* `Market`: the ledger with the data that only these instructions read;
* `withdrawAll`, `closeBalance`: the ways in which a position is closed, besides `repayAll`;
* `updateWithdrawnEquity`: the daily limit of a group on what deleverages take out;
* `lendingAccountDeposit`, `lendingAccountWithdraw`, `lendingAccountCloseBalance`,
  `lendingAccountPurgeDelevBalance`, `lendingPoolAccrueBankInterest`: the handlers.
-/

namespace Marginfi

open Solana Checked

/-! ### State -/

/-- `WithdrawWindowCache` -/
structure WithdrawWindow where
  dailyLimit : UInt32
  withdrawnToday : UInt32
  lastDailyResetTimestamp : Int64
  deriving DecidableEq

/-- The further bumps of a bank, with which its vaults are derived. -/
structure VaultBumps where
  liquidityVaultBump : UInt8
  insuranceVaultBump : UInt8
  insuranceVaultAuthorityBump : UInt8
  feeVaultBump : UInt8
  deriving DecidableEq

/-- `FeeState`: there is one for the whole program. -/
structure FeeState where
  globalFeeAdmin : Pubkey
  globalFeeWallet : Pubkey
  bankInitFlatSolFee : UInt32
  liquidationMaxFee : I80F48
  programFeeFixed : I80F48
  programFeeRate : I80F48
  panicState : PanicState
  liquidationFlatSolFee : UInt32
  deriving DecidableEq

/-- `LiquidationRecord`: who is the receiver of an account, and what the account was worth when the
receivership began. -/
structure LiquidationRecord where
  liquidationReceiver : Pubkey
  assetValueMaint : I80F48
  liabilityValueMaint : I80F48
  assetValueEquity : I80F48
  liabilityValueEquity : I80F48
  deriving DecidableEq

/-- The ledger, with what only the further instructions read: of the groups the withdrawal window
(`deleverage_withdraw_window_cache`) and the fee wallet, of the banks the further bumps, of the user
accounts the account that each has moved to and its liquidation record, these records, and the fee
state. -/
structure Market (τ : Type) extends Ledger τ where
  windows : Pubkey → WithdrawWindow
  globalFeeWallet : Pubkey → Pubkey
  vaultBumps : Pubkey → VaultBumps
  migratedTo : Pubkey → Pubkey
  liquidationRecord : Pubkey → Pubkey
  records : Pubkey → Option LiquidationRecord
  feeState : FeeState

/-- The environment, with the balances of token accounts. -/
structure VaultEnv (τ : Type) extends Env τ where
  /-- `accessor::amount`, and the `amount` of a token account -/
  tokenAmount : τ → Pubkey → Result UInt64

/-- `ACCOUNT_IN_DELEVERAGE` -/
def accountInDeleverageFlag : UInt64 := 32

/-! ### Account structures -/

/-- `LendingAccountDeposit` -/
structure LendingAccountDeposit where
  group : Pubkey
  marginfiAccount : Pubkey
  authority : Pubkey
  bank : Pubkey
  signerTokenAccount : Pubkey
  liquidityVault : Pubkey
  tokenProgram : Pubkey
  tokenProgram_mem : tokenProgram ∈ [tokenId, token2022Id]

/-- `LendingAccountWithdraw` -/
structure LendingAccountWithdraw where
  group : Pubkey
  marginfiAccount : Pubkey
  authority : Pubkey
  bank : Pubkey
  destinationTokenAccount : Pubkey
  bankLiquidityVaultAuthority : Pubkey
  liquidityVault : Pubkey
  tokenProgram : Pubkey
  tokenProgram_mem : tokenProgram ∈ [tokenId, token2022Id]

/-- `LendingAccountCloseBalance` -/
structure LendingAccountCloseBalance where
  group : Pubkey
  marginfiAccount : Pubkey
  authority : Pubkey
  bank : Pubkey
  deriving DecidableEq

/-- `LendingAccountPurgeDelevBalance` -/
structure LendingAccountPurgeDelevBalance where
  group : Pubkey
  marginfiAccount : Pubkey
  riskAdmin : Pubkey
  bank : Pubkey
  deriving DecidableEq

/-- `LendingPoolAccrueBankInterest` -/
structure LendingPoolAccrueBankInterest where
  group : Pubkey
  bank : Pubkey
  deriving DecidableEq

/-! ### Capacity -/

/-- The deposit limit of a bank, in the decimals of its balances. -/
def Bank.depositLimit (bank : Bank) : Result I80F48 :=
  if bank.config.assetTag = assetTagDrift then
    scaleDriftDepositLimit bank.config.depositLimit bank.mintDecimals
  else .ok (I80F48.ofU64 bank.config.depositLimit)

/-- `get_remaining_deposit_capacity` -/
def Bank.getRemainingDepositCapacity (bank : Bank) : Result UInt64 :=
  if bank.config.isDepositLimitActive = false then .ok 0xffffffffffffffff
  else do
    let currentAssets ← bank.getAssetAmount bank.totalAssetShares
    let limit ← bank.depositLimit
    if limit ≤ currentAssets then .ok 0
    else
      let room ← math (limit.checkedSub currentAssets)
      let below ← math (room.checkedSub I80F48.one)
      let whole ← math below.checkedFloor
      math (I80F48.toU64? whole)

/-! ### Positions -/

namespace BankAccountWrapper

/-- `deposit` -/
def deposit (w : BankAccountWrapper) (amount : I80F48) (clock : Clock) :
    Result BankAccountWrapper :=
  w.increaseBalanceInternal amount .depositOnly clock

/-- `withdraw` -/
def withdraw (w : BankAccountWrapper) (amount : I80F48) (clock : Clock) :
    Result BankAccountWrapper :=
  w.decreaseBalanceInternal amount .withdrawOnly clock

/-- `deposit_ignore_deposit_cap` -/
def depositIgnoreDepositCap (w : BankAccountWrapper) (amount : I80F48) (clock : Clock) :
    Result BankAccountWrapper :=
  w.increaseBalanceInternal amount .bypassDepositLimit clock

/-- `withdraw_ignore_borrow_cap` -/
def withdrawIgnoreBorrowCap (w : BankAccountWrapper) (amount : I80F48) (clock : Clock) :
    Result BankAccountWrapper :=
  w.decreaseBalanceInternal amount .bypassBorrowLimit clock

/-- An amount that an operation must not find, up to a rounding error. -/
def checkNone (amount : I80F48) (e : LendingError) : Result Unit := do
  let isZero ← isZeroWithTolerance amount zeroAmountThreshold
  checkLending (isZero = true) e

/-- `withdraw_all`: the position is closed, and its deposit, rounded down, is to be paid out. -/
def withdrawAll (w : BankAccountWrapper) (clock : Clock) :
    Result (BankAccountWrapper × UInt64) := do
  let w ← w.claimEmissions clock.unixTimestamp.toUInt64
  let totalAssetShares := w.balance.assetShares
  let currentAssetAmount ← w.bank.getAssetAmount totalAssetShares
  let currentLiabilityAmount ← w.bank.getLiabilityAmount w.balance.liabilityShares
  checkLending (currentAssetAmount.IsPositiveWithTolerance zeroAmountThreshold) .noAssetFound
  checkNone currentLiabilityAmount .noAssetFound
  let balance ← w.balance.close true
  let bank := w.bank.decrementLendingPositionCount
  let delta ← orPanic totalAssetShares.checkedNeg
  let bank ← bank.changeAssetShares delta false
  bank.checkUtilizationRatio
  let splWithdrawAmount ← math currentAssetAmount.checkedFloor
  let rounding ← math (currentAssetAmount.checkedSub splWithdrawAmount)
  let fees ← math (rounding.checkedAdd bank.collectedInsuranceFeesOutstanding)
  let amount ← math (I80F48.toU64? splWithdrawAmount)
  .ok ({ w with
      balance := balance, bank := { bank with collectedInsuranceFeesOutstanding := fees } },
    amount)

/-- `close_balance`: a position with nothing in it is closed. -/
def closeBalance (w : BankAccountWrapper) (clock : Clock) : Result BankAccountWrapper := do
  let w ← w.claimEmissions clock.unixTimestamp.toUInt64
  let currentLiabilityAmount ← w.bank.getLiabilityAmount w.balance.liabilityShares
  let currentAssetAmount ← w.bank.getAssetAmount w.balance.assetShares
  checkNone currentLiabilityAmount .illegalBalanceState
  checkNone currentAssetAmount .illegalBalanceState
  let balance ← w.balance.close true
  .ok { w with balance := balance }

end BankAccountWrapper

/-! ### Prices -/

section Prices

variable {τ : Type} (env : Env τ)

/-- `oracle_accounts_for_bank`: the accounts behind the bank's own. -/
def oracleAccountsForBank (bankKey : Pubkey) (bank : Bank) (remaining : List Pubkey) :
    Result (List Pubkey) := do
  let numAccounts ← getRemainingAccountsPerBank bank
  let bankIdx ← fromOption MarginfiError.bankAccountNotFound.toError
    (remaining.findIdx? fun key => key == bankKey)
  check (bankIdx + 1 + (numAccounts - 1) ≤ remaining.length) .wrongNumberOfOracleAccounts
  .ok ((remaining.drop (bankIdx + 1)).take (numAccounts - 1))

/-- `fetch_asset_price_for_bank_low_bias` -/
def fetchAssetPriceForBankLowBias (rest : τ) (bankKey : Pubkey) (bank : Bank)
    (remaining : List Pubkey) : Result I80F48 := do
  let oracleAis ← oracleAccountsForBank bankKey bank remaining
  let feed ← env.priceFeed rest bank oracleAis
  feed.getPriceOfType .realTime .low bank.config.oracleMaxConfidence

/-- `fetch_unbiased_price_for_bank` -/
def fetchUnbiasedPriceForBank (rest : τ) (bankKey : Pubkey) (bank : Bank)
    (remaining : List Pubkey) : Result OraclePriceWithConfidence := do
  let oracleAis ← oracleAccountsForBank bankKey bank remaining
  let feed ← env.priceFeed rest bank oracleAis
  feed.getPriceAndConfidenceOfType .realTime bank.config.oracleMaxConfidence

end Prices

/-! ### The withdrawal window -/

/-- A saturating `u32` sum. -/
def saturatingAddU32 (a b : UInt32) : UInt32 :=
  UInt32.ofNat (min (a.toNat + b.toNat) 0xffffffff)

/-- `to_num::<u32>`; what does not fit is cut off. -/
def toU32Wrapping (x : I80F48) : UInt32 := UInt32.ofNat (x.floor % 2 ^ 32).toNat

namespace WithdrawWindow

/-- A day after the last reset the window starts again. -/
def reset (window : WithdrawWindow) (currentTimestamp : Int64) : WithdrawWindow :=
  -- the difference saturates, which this comparison does not see
  if dailyResetInterval ≤ currentTimestamp.toInt - window.lastDailyResetTimestamp.toInt then
    { window with withdrawnToday := 0, lastDailyResetTimestamp := currentTimestamp }
  else window

/-- `update_withdrawn_equity`; a limit of zero is none. -/
def updateWithdrawnEquity (window : WithdrawWindow) (withdrawnEquity : I80F48)
    (currentTimestamp : Int64) : Result WithdrawWindow := do
  let window := window.reset currentTimestamp
  let window :=
    { window with
      withdrawnToday := saturatingAddU32 window.withdrawnToday (toU32Wrapping withdrawnEquity) }
  checkLending (window.dailyLimit = 0 ∨ window.withdrawnToday ≤ window.dailyLimit)
    .dailyWithdrawalLimitExceeded
  .ok window

end WithdrawWindow

/-! ### Transfers -/

/-- `deposit_spl_transfer`: only the bank's own vault is paid into. -/
def Bank.depositSplTransfer {τ : Type} (env : Env τ) (bank : Bank) (t : Transfer) (rest : τ) :
    Result τ := do
  check (t.destination = bank.liquidityVault) .invalidTransfer
  env.transfer t rest

section Handlers

variable {τ : Type}

/-! ### Deposit -/

/-- The constraints of `LendingAccountDeposit`. -/
def checkDepositConstraints (env : Env τ) (ctx : LendingAccountDeposit) (group : MarginfiGroup)
    (account : MarginfiAccount) (bank : Bank) : Result Unit := do
  checkCommonConstraints env ctx.group ctx.liquidityVault ctx.authority false group account bank
  check (bank.getFlag tokenlessRepaymentsAllowed = false) .bankReduceOnly

/-- What is deposited: the amount, or what the bank has still room for. -/
def Bank.depositAmount (bank : Bank) (amount : UInt64) (depositUpToLimit : Bool) : Result UInt64 :=
  if depositUpToLimit then do
    let capacity ← bank.getRemainingDepositCapacity
    .ok (min amount capacity)
  else .ok amount

/-- The deposit is recorded in the bank's slot, which is opened if needed. -/
def recordDeposit (env : Env τ) (bankKey : Pubkey) (bank : Bank) (account : MarginfiAccount)
    (amount : UInt64) : Result (MarginfiAccount × Bank) := do
  let w ← BankAccountWrapper.findOrCreate bankKey bank account.lendingAccount env.clock
  let w ← w.deposit (I80F48.ofU64 amount) env.clock
  .ok ({ account with
      lendingAccount := account.lendingAccount.store w
      lastUpdate := env.clock.unixTimestamp.toUInt64 }, w.bank)

/-- `lending_account_deposit` -/
def lendingAccountDeposit (env : Env τ) (ctx : LendingAccountDeposit) (remaining : List Pubkey)
    (amount : UInt64) (depositUpToLimit : Option Bool) (s : Ledger τ) : Result (Ledger τ) := do
  let group ← s.loadGroup ctx.group
  let account ← s.loadAccount ctx.marginfiAccount
  let bank ← s.loadBank ctx.bank
  checkTokenAccounts env s [ctx.liquidityVault]
  checkDepositConstraints env ctx group account bank
  let (mint, remaining) ← maybeTakeBankMint env s.rest remaining bank ctx.tokenProgram
  validateAssetTags bank account
  validateBankState bank .failsIfPausedOrReduceState
  check (account.getFlag accountDisabledFlag = false ∧
    account.getFlag accountInReceivershipFlag = false) .accountDisabled
  let depositAmount ← bank.depositAmount amount (depositUpToLimit.getD false)
  if depositAmount = 0 then .ok s
  else
    let bank ← bank.accrueInterest env.clock.unixTimestamp group
    let (account, bank) ← recordDeposit env ctx.bank bank account depositAmount
    let amountPreFee ← calculatePreFeeSplDepositAmount mint depositAmount env.clock.epoch
    let rest ← bank.depositSplTransfer env
      { amount := amountPreFee
        source := ctx.signerTokenAccount
        destination := ctx.liquidityVault
        authority := ctx.authority
        signerSeeds := none
        mint := mint.map Prod.fst
        tokenProgram := ctx.tokenProgram
        remaining := remaining } s.rest
    let bank ← bank.updateBankCache group env.clock
    let account := { account with lendingAccount := account.lendingAccount.sortBalances }
    .ok { (s.setAccount ctx.marginfiAccount account).setBank ctx.bank bank with rest := rest }

/-! ### Withdraw -/

/-- The constraints of `LendingAccountWithdraw`; assets without weight are not for liquidators. -/
def checkWithdrawConstraints (env : Env τ) (ctx : LendingAccountWithdraw) (group : MarginfiGroup)
    (account : MarginfiAccount) (bank : Bank) : Result Unit := do
  checkCommonConstraints env ctx.group ctx.liquidityVault ctx.authority true group account bank
  checkLending (¬(account.getFlag accountInReceivershipFlag = true ∧
    bank.config.assetWeightInit = 0)) .liquidationPremiumTooHigh
  ensure (env.createProgramAddress liquidityVaultAuthoritySeed ctx.bank
    bank.liquidityVaultAuthorityBump = some ctx.bankLiquidityVaultAuthority) errConstraintSeeds

/-- The price of what is withdrawn, which matters in receivership only and is then required. -/
def withdrawPrice (env : Env τ) (rest : τ) (bankKey : Pubkey) (bank : Bank)
    (remaining : List Pubkey) (inReceivership : Bool) : Result I80F48 :=
  if inReceivership then do
    let price ← fetchAssetPriceForBankLowBias env rest bankKey bank remaining
    checkLending (0 < price) .zeroAssetPrice
    .ok price
  else .ok 0

/-- Withdraw everything, or `amount` and the fee of the mint on it; what leaves the books. -/
def BankAccountWrapper.withdrawBy (w : BankAccountWrapper) (mint : Option (Pubkey × Mint))
    (amount : UInt64) (withdrawAll : Bool) (clock : Clock) :
    Result (BankAccountWrapper × UInt64) :=
  if withdrawAll then w.withdrawAll clock
  else do
    let amountPreFee ← calculatePreFeeSplDepositAmount mint amount clock.epoch
    let w ← w.withdraw (I80F48.ofU64 amountPreFee) clock
    .ok (w, amountPreFee)

/-- The withdrawal is recorded in the bank's slot. -/
def recordWithdraw (env : Env τ) (bankKey : Pubkey) (bank : Bank) (account : MarginfiAccount)
    (mint : Option (Pubkey × Mint)) (amount : UInt64) (withdrawAll : Bool) :
    Result (MarginfiAccount × Bank × UInt64) := do
  let w ← BankAccountWrapper.find bankKey bank account.lendingAccount
  let (w, amountPreFee) ← w.withdrawBy mint amount withdrawAll env.clock
  .ok ({ account with
      lendingAccount := account.lendingAccount.store w
      lastUpdate := env.clock.unixTimestamp.toUInt64 }, w.bank, amountPreFee)

/-- What is paid out: once tokenless repayments are complete, no more than what is left. -/
def payableAmount (env : VaultEnv τ) (rest : τ) (bank : Bank) (vault : Pubkey)
    (amount : UInt64) : Result UInt64 :=
  if bank.getFlag tokenlessRepaymentsComplete then do
    let actual ← env.tokenAmount rest vault
    .ok (min amount actual)
  else .ok amount

/-- In a deleverage, what is withdrawn counts against the daily limit of the group. -/
def countWithdrawal (account : MarginfiAccount) (window : WithdrawWindow) (bank : Bank)
    (amount : UInt64) (price : I80F48) (now : Int64) : Result WithdrawWindow :=
  if account.getFlag accountInDeleverageFlag then do
    let withdrawnEquity ← calcValue (I80F48.ofU64 amount) price bank.getBalanceDecimals none
    window.updateWithdrawnEquity withdrawnEquity now
  else .ok window

/-- The health check after a withdrawal, which receivership skips, and the price it saw. -/
def checkWithdrawHealth (env : Env τ) (banks : Pubkey → Option Bank) (rest : τ)
    (account : MarginfiAccount) (bankKey : Pubkey) (bank : Bank) (remaining : List Pubkey) :
    Result (Option OraclePriceWithConfidence) :=
  if account.getFlag accountInReceivershipFlag then
    .ok (fetchUnbiasedPriceForBank env rest bankKey bank remaining).toOption
  else do
    let engine ← RiskEngine.checkAccountInitHealth banks (env.priceFeed rest) account remaining
    .ok (enginePrice engine bankKey)

/-- `lending_account_withdraw` -/
def lendingAccountWithdraw (env : VaultEnv τ) (ctx : LendingAccountWithdraw)
    (remaining : List Pubkey) (amount : UInt64) (withdrawAll : Option Bool) (s : Market τ) :
    Result (Market τ) := do
  let group ← s.loadGroup ctx.group
  let account ← s.loadAccount ctx.marginfiAccount
  let bank ← s.loadBank ctx.bank
  checkTokenAccounts env.toEnv s.toLedger [ctx.destinationTokenAccount, ctx.liquidityVault]
  checkWithdrawConstraints env.toEnv ctx group account bank
  check (account.getFlag accountDisabledFlag = false) .accountDisabled
  validateBankState bank .failsInPausedState
  let (mint, remaining) ← maybeTakeBankMint env.toEnv s.rest remaining bank ctx.tokenProgram
  let price ← withdrawPrice env.toEnv s.rest ctx.bank bank remaining
    (account.getFlag accountInReceivershipFlag)
  let bank ← bank.accrueInterest env.clock.unixTimestamp group
  let (account, bank, amountPreFee) ← recordWithdraw env.toEnv ctx.bank bank account mint amount
    (withdrawAll.getD false)
  let amountPreFee ← payableAmount env s.rest bank ctx.liquidityVault amountPreFee
  let window ← countWithdrawal account (s.windows ctx.group) bank amountPreFee price
    env.clock.unixTimestamp
  let rest ← env.transfer
    { amount := amountPreFee
      source := ctx.liquidityVault
      destination := ctx.destinationTokenAccount
      authority := ctx.bankLiquidityVaultAuthority
      signerSeeds := some (ctx.bank, bank.liquidityVaultAuthorityBump)
      mint := mint.map Prod.fst
      tokenProgram := ctx.tokenProgram
      remaining := remaining } s.rest
  let bank ← bank.updateBankCache group env.clock
  let account := { account with lendingAccount := account.lendingAccount.sortBalances }
  let price ← checkWithdrawHealth env.toEnv (Function.update s.banks ctx.bank (some bank)) rest
    account ctx.bank bank remaining
  let bank := bank.updateCachePrice price env.clock
  .ok { s with
    toLedger :=
      { (s.setAccount ctx.marginfiAccount account).setBank ctx.bank bank with rest := rest }
    windows := Function.update s.windows ctx.group window }

/-! ### Closing positions -/

/-- The constraints on the user account and the bank that a close and a purge declare. -/
def checkCloseConstraints (ctx : LendingAccountCloseBalance) (group : MarginfiGroup)
    (account : MarginfiAccount) (bank : Bank) : Result Unit := do
  check (account.group = ctx.group) .invalidGroup
  check (accountNotFrozenForAuthority account ctx.authority = true) .accountFrozen
  check (isSignerAuthorized account group.admin ctx.authority false = true) .unauthorized
  check (bank.group = ctx.group) .invalidGroup
  check (isMarginfiAssetTag bank.config.assetTag = true) .wrongAssetTagForStandardInstructions

/-- `lending_account_close_balance` -/
def lendingAccountCloseBalance (env : Env τ) (ctx : LendingAccountCloseBalance) (s : Ledger τ) :
    Result (Ledger τ) := do
  let group ← s.loadGroup ctx.group
  let account ← s.loadAccount ctx.marginfiAccount
  let bank ← s.loadBank ctx.bank
  checkCloseConstraints ctx group account bank
  check (account.getFlag accountDisabledFlag = false) .accountDisabled
  let bank ← bank.accrueInterest env.clock.unixTimestamp group
  let bank ← bank.updateBankCache group env.clock
  let w ← BankAccountWrapper.find ctx.bank bank account.lendingAccount
  let w ← w.closeBalance env.clock
  let account :=
    { account with
      lendingAccount := (account.lendingAccount.store w).sortBalances
      lastUpdate := env.clock.unixTimestamp.toUInt64 }
  .ok ((s.setAccount ctx.marginfiAccount account).setBank ctx.bank w.bank)

/-- The constraints of `LendingAccountPurgeDelevBalance`. -/
def checkPurgeConstraints (ctx : LendingAccountPurgeDelevBalance) (group : MarginfiGroup)
    (account : MarginfiAccount) (bank : Bank) : Result Unit := do
  check (group.riskAdmin = ctx.riskAdmin) .unauthorized
  check (account.group = ctx.group) .invalidGroup
  check (bank.group = ctx.group) .invalidGroup
  check (isMarginfiAssetTag bank.config.assetTag = true) .wrongAssetTagForStandardInstructions
  check (bank.getFlag tokenlessRepaymentsComplete = true) .forbiddenIx

/-- The position is closed and its deposit written off. -/
def BankAccountWrapper.purge (w : BankAccountWrapper) : Result BankAccountWrapper := do
  let magnitude ← orPanic w.balance.liabilityShares.checkedAbs
  check (magnitude ≤ zeroAmountThreshold) .operationWithdrawOnly
  let assetShares := w.balance.assetShares
  let balance ← w.balance.close false
  let bank := w.bank.decrementLendingPositionCount
  let delta ← orPanic assetShares.checkedNeg
  let bank ← bank.changeAssetShares delta false
  .ok { w with balance := balance, bank := bank }

/-- `lending_account_purge_delev_balance` -/
def lendingAccountPurgeDelevBalance (env : Env τ) (ctx : LendingAccountPurgeDelevBalance)
    (s : Ledger τ) : Result (Ledger τ) := do
  let group ← s.loadGroup ctx.group
  let account ← s.loadAccount ctx.marginfiAccount
  let bank ← s.loadBank ctx.bank
  checkPurgeConstraints ctx group account bank
  let w ← BankAccountWrapper.find ctx.bank bank account.lendingAccount
  let w ← w.purge
  let account :=
    { account with
      lendingAccount := (account.lendingAccount.store w).sortBalances
      lastUpdate := env.clock.unixTimestamp.toUInt64 }
  .ok ((s.setAccount ctx.marginfiAccount account).setBank ctx.bank w.bank)

/-! ### Accrual -/

/-- `lending_pool_accrue_bank_interest` -/
def lendingPoolAccrueBankInterest (env : Env τ) (ctx : LendingPoolAccrueBankInterest)
    (s : Ledger τ) : Result (Ledger τ) := do
  let group ← s.loadGroup ctx.group
  let bank ← s.loadBank ctx.bank
  check (bank.group = ctx.group) .invalidGroup
  let bank ← bank.accrueInterest env.clock.unixTimestamp group
  let bank ← bank.updateBankCache group env.clock
  .ok (s.setBank ctx.bank bank)

end Handlers

end Marginfi
