import FlashLoanBot.Marginfi.Bankruptcy
import FlashLoanBot.Marginfi.Curve
import FlashLoanBot.Marginfi.Lifecycle

/-!
# marginfi: administration

The instructions of the admins: groups are created, banks are added and closed, fees are collected,
all groups are paused, and what the fee state says is handed on to the groups.

* `PoolEnv`: what the framework and the token program do when a bank is added;
* `BankConfig.validate`, `Bank.new`, `lendingPoolAddBank`: a new bank;
* `Bank.checkClosable`, `lendingPoolCloseBank`: a bank is closed when little is left in it;
* `collectOutstanding`, `lendingPoolCollectBankFees`: fees leave the liquidity vault;
* `panicPause`, `panicUnpause`, `panicUnpausePermissionless`, `propagateFee`: pauses.
-/

namespace Marginfi

open Solana Checked

/-! ### The environment -/

/-- The environment, with what creates and finds the accounts of a bank. -/
structure PoolEnv (τ : Type) extends SystemEnv τ where
  /-- `Pubkey::find_program_address` for a seed and a bank -/
  findProgramAddress : String → Pubkey → Pubkey × UInt8
  /-- `init` of a token account: the payer, the account, the mint, the authority, the program -/
  initTokenAccount : Pubkey → Pubkey → Pubkey → Pubkey → Pubkey → τ → Result τ
  /-- `decimals` of a mint -/
  mintDecimals : τ → Pubkey → Option UInt8
  /-- `get_associated_token_address_with_program_id`: the wallet, the mint, the program -/
  associatedTokenAddress : Pubkey → Pubkey → Pubkey → Pubkey

/-- `FEE_VAULT_SEED` -/
def feeVaultSeed : String := "fee_vault"

/-- `FEE_VAULT_AUTHORITY_SEED` -/
def feeVaultAuthoritySeed : String := "fee_vault_auth"

/-- `CLOSE_ENABLED_FLAG` -/
def closeEnabledFlag : UInt64 := 16

/-- `ORACLE_MIN_AGE` -/
def oracleMinAge : UInt16 := 10

/-! ### Configurations -/

/-- `validate`; the age of the oracle is passed along, since nothing else here reads it. -/
def BankConfig.validate (config : BankConfig) (oracleMaxAge : UInt16) : Result Unit := do
  checkLending (0 ≤ config.assetWeightInit ∧ config.assetWeightInit ≤ .one) .invalidConfig
  checkLending (config.assetWeightMaint ≤ .ofNat 2 (by decide)) .invalidConfig
  checkLending (config.assetWeightInit ≤ config.assetWeightMaint) .invalidConfig
  checkLending (I80F48.one ≤ config.liabilityWeightInit) .invalidConfig
  checkLending (config.liabilityWeightMaint ≤ config.liabilityWeightInit ∧
    I80F48.one ≤ config.liabilityWeightMaint) .invalidConfig
  config.interestRateConfig.validate
  checkLending (config.riskTier = .isolated → config.assetWeightInit = 0) .invalidConfig
  checkLending (config.riskTier = .isolated → config.assetWeightMaint = 0) .invalidConfig
  checkLending (oracleMinAge ≤ oracleMaxAge) .invalidOracleSetup

/-- `BankConfigCompact` -/
structure BankConfigCompact where
  assetWeightInit : I80F48
  assetWeightMaint : I80F48
  liabilityWeightInit : I80F48
  liabilityWeightMaint : I80F48
  depositLimit : UInt64
  insuranceFeeFixedApr : I80F48
  insuranceIrFee : I80F48
  protocolFixedFeeApr : I80F48
  protocolIrFee : I80F48
  protocolOriginationFee : I80F48
  zeroUtilRate : UInt32
  hundredUtilRate : UInt32
  points : Vector RatePoint 5
  operationalState : BankOperationalState
  borrowLimit : UInt64
  riskTier : RiskTier
  assetTag : UInt8
  totalAssetValueInitLimit : UInt64
  oracleMaxAge : UInt16
  oracleMaxConfidence : UInt32
  deriving DecidableEq

/-- `From<BankConfigCompact> for BankConfig` -/
def BankConfigCompact.toBankConfig (config : BankConfigCompact) : BankConfig where
  assetWeightInit := config.assetWeightInit
  assetWeightMaint := config.assetWeightMaint
  liabilityWeightInit := config.liabilityWeightInit
  liabilityWeightMaint := config.liabilityWeightMaint
  depositLimit := config.depositLimit
  interestRateConfig := {
    optimalUtilizationRate := 0
    plateauInterestRate := 0
    maxInterestRate := 0
    insuranceFeeFixedApr := config.insuranceFeeFixedApr
    insuranceIrFee := config.insuranceIrFee
    protocolFixedFeeApr := config.protocolFixedFeeApr
    protocolIrFee := config.protocolIrFee
    protocolOriginationFee := config.protocolOriginationFee
    zeroUtilRate := config.zeroUtilRate
    hundredUtilRate := config.hundredUtilRate
    points := config.points
    curveType := 1 }
  operationalState := config.operationalState
  oracleSetup := .none
  borrowLimit := config.borrowLimit
  riskTier := config.riskTier
  assetTag := config.assetTag
  totalAssetValueInitLimit := config.totalAssetValueInitLimit
  oracleMaxConfidence := config.oracleMaxConfidence

/-! ### New banks -/

/-- `LendingPoolAddBank` -/
structure LendingPoolAddBank where
  marginfiGroup : Pubkey
  admin : Pubkey
  feePayer : Pubkey
  globalFeeWallet : Pubkey
  bankMint : Pubkey
  bank : Pubkey
  liquidityVaultAuthority : Pubkey
  liquidityVault : Pubkey
  insuranceVaultAuthority : Pubkey
  insuranceVault : Pubkey
  feeVaultAuthority : Pubkey
  feeVault : Pubkey
  tokenProgram : Pubkey
  tokenProgram_mem : tokenProgram ∈ [tokenId, token2022Id]

/-- A bank without metrics. -/
def BankCache.zeroed : BankCache := ⟨0, 0, 0, 0, 0, 0, 0, 0⟩

/-- No emode. -/
def EmodeConfig.zeroed : EmodeConfig := ⟨Vector.replicate 10 ⟨0, 0, 0, 0⟩⟩

/-- `Bank::new` -/
def Bank.new (group : Pubkey) (config : BankConfig) (mint : Pubkey) (mintDecimals : UInt8)
    (liquidityVault : Pubkey) (currentTimestamp : Int64) (liquidityVaultAuthorityBump : UInt8) :
    Bank where
  mint := mint
  mintDecimals := mintDecimals
  group := group
  assetShareValue := .one
  liabilityShareValue := .one
  liquidityVault := liquidityVault
  liquidityVaultAuthorityBump := liquidityVaultAuthorityBump
  collectedInsuranceFeesOutstanding := 0
  collectedGroupFeesOutstanding := 0
  totalLiabilityShares := 0
  totalAssetShares := 0
  lastUpdate := currentTimestamp
  config := config
  flags := closeEnabledFlag
  emissionsRate := 0
  emissionsRemaining := 0
  collectedProgramFeesOutstanding := 0
  emodeTag := 0
  emodeConfig := .zeroed
  cache := .zeroed
  lendingPositionCount := 0
  borrowingPositionCount := 0

section Handlers

variable {τ : Type} (env : PoolEnv τ)

/-- `seeds`, `bump`: the account is the one that is found for a seed and a bank. -/
def checkFound (seed : String) (bank key : Pubkey) : Result UInt8 := do
  ensure ((env.findProgramAddress seed bank).1 = key) errConstraintSeeds
  .ok (env.findProgramAddress seed bank).2

/-- The vaults of a new bank are created. -/
def initVaults (ctx : LendingPoolAddBank) (rest : τ) : Result τ := do
  let rest ← env.initTokenAccount ctx.feePayer ctx.liquidityVault ctx.bankMint
    ctx.liquidityVaultAuthority ctx.tokenProgram rest
  let rest ← env.initTokenAccount ctx.feePayer ctx.insuranceVault ctx.bankMint
    ctx.insuranceVaultAuthority ctx.tokenProgram rest
  env.initTokenAccount ctx.feePayer ctx.feeVault ctx.bankMint ctx.feeVaultAuthority
    ctx.tokenProgram rest

/-- `lending_pool_add_bank` -/
def lendingPoolAddBank (ctx : LendingPoolAddBank) (bankConfig : BankConfigCompact)
    (s : Market τ) : Result (Market τ) := do
  let group ← s.loadGroup ctx.marginfiGroup
  check (group.admin = ctx.admin) .unauthorized
  checkLending (ctx.globalFeeWallet = s.feeState.globalFeeWallet) .invalidFeeWallet
  let rest ← initAccount env.toSystemEnv s.toLedger ctx.feePayer ctx.bank
  let liquidityVaultAuthorityBump ←
    checkFound env liquidityVaultAuthoritySeed ctx.bank ctx.liquidityVaultAuthority
  let liquidityVaultBump ← checkFound env liquidityVaultSeed ctx.bank ctx.liquidityVault
  let insuranceVaultAuthorityBump ←
    checkFound env insuranceVaultAuthoritySeed ctx.bank ctx.insuranceVaultAuthority
  let insuranceVaultBump ← checkFound env insuranceVaultSeed ctx.bank ctx.insuranceVault
  let _ ← checkFound env feeVaultAuthoritySeed ctx.bank ctx.feeVaultAuthority
  let feeVaultBump ← checkFound env feeVaultSeed ctx.bank ctx.feeVault
  let rest ← initVaults env ctx rest
  let decimals ← fromOption errWrongOwner (env.mintDecimals rest ctx.bankMint)
  let rest ← env.transferFlatFee ctx.feePayer ctx.globalFeeWallet s.feeState.bankInitFlatSolFee rest
  check (bankConfig.assetTag = assetTagDefault ∨ bankConfig.assetTag = assetTagSol)
    .wrongAssetTagForStandardInstructions
  bankConfig.toBankConfig.validate bankConfig.oracleMaxAge
  let bank := Bank.new ctx.marginfiGroup bankConfig.toBankConfig ctx.bankMint decimals
    ctx.liquidityVault env.clock.unixTimestamp liquidityVaultAuthorityBump
  .ok { s with
    toLedger := { s.setBank ctx.bank bank with rest := rest }
    vaultBumps := Function.update s.vaultBumps ctx.bank
      ⟨liquidityVaultBump, insuranceVaultBump, insuranceVaultAuthorityBump, feeVaultBump⟩ }

/-! ### Closed banks -/

/-- `LendingPoolCloseBank` -/
structure LendingPoolCloseBank where
  group : Pubkey
  bank : Pubkey
  admin : Pubkey
  deriving DecidableEq

/-- The checks on a bank that is closed: no positions are counted in it, and no shares or emissions
are left but for a rounding error. -/
def Bank.checkClosable (bank : Bank) : Result Unit := do
  checkLending (bank.getFlag closeEnabledFlag = true) .bankCannotClose
  checkLending (bank.lendingPositionCount = 0 ∧ bank.borrowingPositionCount = 0) .bankCannotClose
  let noAssets ← isZeroWithTolerance bank.totalAssetShares zeroAmountThreshold
  -- the debts are only looked at when there are no deposits
  let noShares ←
    if noAssets then isZeroWithTolerance bank.totalLiabilityShares zeroAmountThreshold
    else .ok false
  checkLending (noShares = true) .bankCannotClose
  let noEmissions ← isZeroWithTolerance bank.emissionsRemaining zeroAmountThreshold
  checkLending (noEmissions = true) .bankCannotClose

/-- `lending_pool_close_bank`; that the group counts its banks is left out. -/
def lendingPoolCloseBank (ctx : LendingPoolCloseBank) (s : Market τ) : Result (Market τ) := do
  let group ← s.loadGroup ctx.group
  let bank ← s.loadBank ctx.bank
  check (group.admin = ctx.admin) .unauthorized
  check (bank.group = ctx.group) .invalidGroup
  bank.checkClosable
  let rest ← env.closeAccount ctx.bank ctx.admin s.rest
  .ok { s with
    toLedger := { s.toLedger with
      banks := Function.update s.banks ctx.bank none
      rest := rest } }

/-! ### Fees -/

/-- `LendingPoolCollectBankFees` -/
structure LendingPoolCollectBankFees where
  group : Pubkey
  bank : Pubkey
  liquidityVaultAuthority : Pubkey
  liquidityVault : Pubkey
  insuranceVault : Pubkey
  feeVault : Pubkey
  feeAta : Pubkey
  tokenProgram : Pubkey
  tokenProgram_mem : tokenProgram ∈ [tokenId, token2022Id]

/-- `int` -/
def intOf (x : I80F48) : I80F48 :=
  ⟨x.bits / 2 ^ 48 * 2 ^ 48, by have := x.lower; norm_num at *; omega,
    by have := x.upper; norm_num at *; omega⟩

/-- The whole units of a fee that the vault can pay, what is left of the fee, and what is left in
the vault. -/
def collectOutstanding (outstanding available : I80F48) : Result (I80F48 × I80F48 × I80F48) := do
  let transferAmount := intOf (min outstanding available)
  let left ← math (outstanding.checkedSub transferAmount)
  let available ← math (available.checkedSub transferAmount)
  .ok (transferAmount, left, available)

/-- The constraints of `LendingPoolCollectBankFees`. -/
def checkCollectConstraints (ctx : LendingPoolCollectBankFees) (group : MarginfiGroup) (bank : Bank)
    (bumps : VaultBumps) (globalFeeWallet : Pubkey) : Result Unit := do
  let paused ← group.isProtocolPaused env.clock
  check (paused = false) .protocolPaused
  check (bank.group = ctx.group) .invalidGroup
  ensure (env.createProgramAddress liquidityVaultAuthoritySeed ctx.bank
    bank.liquidityVaultAuthorityBump = some ctx.liquidityVaultAuthority) errConstraintSeeds
  ensure (env.createProgramAddress liquidityVaultSeed ctx.bank
    bumps.liquidityVaultBump = some ctx.liquidityVault) errConstraintSeeds
  ensure (env.createProgramAddress insuranceVaultSeed ctx.bank
    bumps.insuranceVaultBump = some ctx.insuranceVault) errConstraintSeeds
  ensure (env.createProgramAddress feeVaultSeed ctx.bank
    bumps.feeVaultBump = some ctx.feeVault) errConstraintSeeds
  checkLending (ctx.feeAta = env.associatedTokenAddress globalFeeWallet bank.mint ctx.tokenProgram)
    .invalidFeeAta

/-- A collected fee is paid out of the liquidity vault. -/
def payFee (ctx : LendingPoolCollectBankFees) (bank : Bank) (mint : Option Pubkey)
    (remaining : List Pubkey) (destination : Pubkey) (fee : I80F48) (rest : τ) : Result τ := do
  let amount ← math (I80F48.toU64? fee)
  env.transfer
    { amount := amount
      source := ctx.liquidityVault
      destination := destination
      authority := ctx.liquidityVaultAuthority
      signerSeeds := some (ctx.bank, bank.liquidityVaultAuthorityBump)
      mint := mint
      tokenProgram := ctx.tokenProgram
      remaining := remaining } rest

/-- `lending_pool_collect_bank_fees` -/
def lendingPoolCollectBankFees (ctx : LendingPoolCollectBankFees) (remaining : List Pubkey)
    (s : Market τ) : Result (Market τ) := do
  let group ← s.loadGroup ctx.group
  let bank ← s.loadBank ctx.bank
  checkTokenAccounts env.toEnv s.toLedger
    [ctx.liquidityVault, ctx.insuranceVault, ctx.feeVault, ctx.feeAta]
  checkCollectConstraints env ctx group bank (s.vaultBumps ctx.bank) s.feeState.globalFeeWallet
  let (mint, remaining) ← maybeTakeBankMint env.toEnv s.rest remaining bank ctx.tokenProgram
  let vault ← env.tokenAmount s.rest ctx.liquidityVault
  let (insuranceFee, insuranceLeft, available) ←
    collectOutstanding bank.collectedInsuranceFeesOutstanding (.ofU64 vault)
  let (groupFee, groupLeft, available) ←
    collectOutstanding bank.collectedGroupFeesOutstanding available
  ensure (0 ≤ available) .panicked
  let pay := payFee env ctx bank (mint.map Prod.fst) remaining
  let rest ← pay ctx.feeVault groupFee s.rest
  let rest ← pay ctx.insuranceVault insuranceFee rest
  let (programFee, programLeft, available) ←
    collectOutstanding bank.collectedProgramFeesOutstanding available
  ensure (0 ≤ available) .panicked
  let rest ← pay ctx.feeAta programFee rest
  .ok { s with
    toLedger := { s.setBank ctx.bank { bank with
      collectedInsuranceFeesOutstanding := insuranceLeft
      collectedGroupFeesOutstanding := groupLeft
      collectedProgramFeesOutstanding := programLeft } with rest := rest } }

/-! ### Pauses -/

/-- `PanicPause`, `PanicUnpause`: the signer. -/
structure PanicAdmin where
  globalFeeAdmin : Pubkey
  deriving DecidableEq

/-- The panic state after one of the instructions that change it. -/
def Market.applyPanic (s : Market τ) (now : Int64) (e : PanicEvent) : Result (Market τ) := do
  let panicState ← s.feeState.panicState.apply now e
  .ok { s with feeState := { s.feeState with panicState := panicState } }

/-- `panic_pause` -/
def panicPause (ctx : PanicAdmin) (s : Market τ) : Result (Market τ) := do
  check (s.feeState.globalFeeAdmin = ctx.globalFeeAdmin) .unauthorized
  s.applyPanic env.clock.unixTimestamp .pause

/-- `panic_unpause` -/
def panicUnpause (ctx : PanicAdmin) (s : Market τ) : Result (Market τ) := do
  check (s.feeState.globalFeeAdmin = ctx.globalFeeAdmin) .unauthorized
  s.applyPanic env.clock.unixTimestamp .unpause

/-- `panic_unpause_permissionless` -/
def panicUnpausePermissionless (s : Market τ) : Result (Market τ) :=
  s.applyPanic env.clock.unixTimestamp .unpausePermissionless

/-- `propagate_fee`: anyone hands the fees and the panic state on to a group. -/
def propagateFee (marginfiGroup : Pubkey) (s : Market τ) : Result (Market τ) := do
  let group ← s.loadGroup marginfiGroup
  .ok { s with
    toLedger := { s.toLedger with
      groups := Function.update s.groups marginfiGroup (some { group with
        programFeeFixed := s.feeState.programFeeFixed
        programFeeRate := s.feeState.programFeeRate
        pauseFlags := s.feeState.panicState.pauseFlags
        pauseStartTimestamp := s.feeState.panicState.pauseStartTimestamp }) }
    globalFeeWallet := Function.update s.globalFeeWallet marginfiGroup s.feeState.globalFeeWallet }

/-- `MarginfiGroupInitialize` -/
structure MarginfiGroupInitialize where
  marginfiGroup : Pubkey
  admin : Pubkey
  deriving DecidableEq

/-- `PROGRAM_FEES_ENABLED` -/
def programFeesEnabled : UInt64 := 1

/-- `initialize_group` -/
def initializeGroup (ctx : MarginfiGroupInitialize) (s : Market τ) : Result (Market τ) := do
  let rest ← initAccount env.toSystemEnv s.toLedger ctx.admin ctx.marginfiGroup
  .ok { s with
    toLedger := { s.toLedger with
      groups := Function.update s.groups ctx.marginfiGroup (some {
        admin := ctx.admin
        groupFlags := programFeesEnabled
        programFeeFixed := s.feeState.programFeeFixed
        programFeeRate := s.feeState.programFeeRate
        pauseFlags := 0
        pauseStartTimestamp := 0
        riskAdmin := 0 })
      rest := rest }
    windows := Function.update s.windows ctx.marginfiGroup ⟨0, 0, 0⟩
    globalFeeWallet :=
      Function.update s.globalFeeWallet ctx.marginfiGroup s.feeState.globalFeeWallet }

end Handlers

end Marginfi
