import FlashLoanBot.Marginfi.Liquidation

/-!
# marginfi: bankruptcy

The instruction that settles the debt of an account that cannot pay it.

* `Bank.socializeLoss`: a loss is taken from the value of all deposits;
* `checkAccountBankrupt`: which accounts are bankrupt;
* `calculatePostFeeSplDepositAmount`: what arrives of a transfer of a Token-2022 mint;
* `lendingPoolHandleBankruptcy`: the handler.
-/

namespace Marginfi

open Solana Checked

/-- `LendingPoolHandleBankruptcy` -/
structure LendingPoolHandleBankruptcy where
  group : Pubkey
  signer : Pubkey
  bank : Pubkey
  marginfiAccount : Pubkey
  liquidityVault : Pubkey
  insuranceVault : Pubkey
  insuranceVaultAuthority : Pubkey
  tokenProgram : Pubkey
  tokenProgram_mem : tokenProgram ∈ [tokenId, token2022Id]

/-- `INSURANCE_VAULT_AUTHORITY_SEED` -/
def insuranceVaultAuthoritySeed : String := "insurance_vault_auth"

/-- `PERMISSIONLESS_BAD_DEBT_SETTLEMENT_FLAG` -/
def permissionlessBadDebtSettlementFlag : UInt64 := 4

/-- `BANKRUPT_THRESHOLD`, the number closest to `0.1`. -/
def bankruptThreshold : I80F48 := ⟨28147497671066, by decide, by decide⟩

/-! ### Losses -/

/-- `socialize_loss`: the loss is taken from the value of all shares; a bank that cannot bear it is
to be killed. -/
def Bank.socializeLoss (bank : Bank) (lossAmount : I80F48) : Result (Bank × Bool) := do
  let totalValue ← math (bank.totalAssetShares.checkedMul bank.assetShareValue)
  if totalValue ≤ lossAmount then .ok ({ bank with assetShareValue := 0 }, true)
  else
    let left ← orPanic (totalValue.checkedSub lossAmount)
    let newShareValue ← math (left.checkedDiv bank.totalAssetShares)
    .ok ({ bank with assetShareValue := newShareValue }, newShareValue = 0)

/-- `check_account_bankrupt` -/
def RiskEngine.checkAccountBankrupt (engine : RiskEngine) (account : MarginfiAccount) :
    Result Unit := do
  let (totalAssets, totalLiabilities) ← engine.getAccountHealthComponents .equity
  checkLending (account.getFlag accountInFlashloanFlag = false) .accountInFlashloan
  checkLending (totalAssets < totalLiabilities) .accountNotBankrupt
  checkLending (totalAssets < bankruptThreshold ∧ zeroAmountThreshold < totalLiabilities)
    .accountNotBankrupt

/-! ### Insurance -/

/-- `calculate_fee` -/
def calculateFee (fee : TransferFee) (preFeeAmount : UInt64) : Option UInt64 :=
  let basisPoints := fee.transferFeeBasisPoints.toNat
  if basisPoints = 0 ∨ preFeeAmount = 0 then some 0
  else do
    let rawFee ← u64? ((preFeeAmount.toNat * basisPoints + 9999) / 10000)
    some (min rawFee fee.maximumFee)

/-- `calculate_post_fee_spl_deposit_amount`, on the mint if there is one. -/
def calculatePostFeeSplDepositAmount (mint : Option (Pubkey × Mint)) (inputAmount : UInt64)
    (epoch : UInt64) : Result UInt64 :=
  match mint with
  | none => .ok inputAmount
  | some (_, mint) =>
      if mint.isTokenMint then .ok inputAmount
      else do
        let fee ← match mint.getEpochFee epoch with
          | some fee => orPanic (calculateFee fee inputAmount)
          | none => .ok 0
        math (checkedSub inputAmount fee)

/-- How much of a bad debt the insurance fund covers, and how much is left to the lenders. -/
def splitBadDebt (badDebt availableInsuranceFund : I80F48) : Result (I80F48 × I80F48) := do
  let coveredByInsurance := min badDebt availableInsuranceFund
  let left ← orPanic (badDebt.checkedSub coveredByInsurance)
  .ok (coveredByInsurance, max left 0)

/-! ### The instruction -/

section Handler

variable {τ : Type}

/-- The constraints of `LendingPoolHandleBankruptcy`. -/
def checkBankruptcyConstraints (env : Env τ) (ctx : LendingPoolHandleBankruptcy)
    (group : MarginfiGroup) (account : MarginfiAccount) (bank : Bank) (bumps : VaultBumps) :
    Result Unit := do
  let paused ← group.isProtocolPaused env.clock
  check (paused = false) .protocolPaused
  check (bank.group = ctx.group) .invalidGroup
  check (isMarginfiAssetTag bank.config.assetTag = true) .wrongAssetTagForStandardInstructions
  check (account.group = ctx.group) .invalidGroup
  checkLending (account.getFlag accountInReceivershipFlag = false) .unexpectedLiquidationState
  checkLending (account.getFlag accountInFlashloanFlag = false) .accountInFlashloan
  ensure (env.createProgramAddress liquidityVaultSeed ctx.bank
    bumps.liquidityVaultBump = some ctx.liquidityVault) errConstraintSeeds
  ensure (env.createProgramAddress insuranceVaultSeed ctx.bank
    bumps.insuranceVaultBump = some ctx.insuranceVault) errConstraintSeeds
  ensure (env.createProgramAddress insuranceVaultAuthoritySeed ctx.bank
    bumps.insuranceVaultAuthorityBump = some ctx.insuranceVaultAuthority) errConstraintSeeds

/-- The debt of the account in the bank, which has to be one. -/
def findBadDebt (bankKey : Pubkey) (bank : Bank) (account : MarginfiAccount) : Result I80F48 := do
  let slot ← fromOption LendingError.lendingAccountBalanceNotFound.toError
    (account.lendingAccount.position? bankKey)
  let balance ← orPanic account.lendingAccount.balances[slot]?
  let badDebt ← bank.getLiabilityAmount balance.liabilityShares
  checkLending (zeroAmountThreshold < badDebt) .balanceNotBadDebt
  .ok badDebt

/-- The loss is taken from the deposits, and the debt is written off. -/
def settleBadDebt (clock : Clock) (bankKey : Pubkey) (bank : Bank) (account : MarginfiAccount)
    (badDebt socializedLoss : I80F48) : Result (MarginfiAccount × Bank × Bool) := do
  let (bank, killBank) ← bank.socializeLoss socializedLoss
  let w ← BankAccountWrapper.find bankKey bank account.lendingAccount
  let w ← w.repay badDebt clock
  .ok ((account.storeWith w).1, w.bank, killBank)

/-- The account is disabled for good. -/
def disableAccount (account : MarginfiAccount) (clock : Clock) : MarginfiAccount :=
  { account.setFlag accountDisabledFlag with lastUpdate := clock.unixTimestamp.toUInt64 }

/-- A bank that could not bear its loss is dead. -/
def Bank.killIf (bank : Bank) (killBank : Bool) : Bank :=
  if killBank then
    { bank with config := { bank.config with operationalState := .killedByBankruptcy } }
  else bank

/-- `lending_pool_handle_bankruptcy` -/
def lendingPoolHandleBankruptcy (env : VaultEnv τ) (ctx : LendingPoolHandleBankruptcy)
    (remaining : List Pubkey) (s : Market τ) : Result (Market τ) := do
  let group ← s.loadGroup ctx.group
  let bank ← s.loadBank ctx.bank
  let account ← s.loadAccount ctx.marginfiAccount
  checkTokenAccounts env.toEnv s.toLedger [ctx.insuranceVault]
  checkBankruptcyConstraints env.toEnv ctx group account bank (s.vaultBumps ctx.bank)
  validateBankState bank .failsInPausedState
  let (mint, remaining) ← maybeTakeBankMint env.toEnv s.rest remaining bank ctx.tokenProgram
  check (bank.getFlag permissionlessBadDebtSettlementFlag = true ∨ ctx.signer = group.riskAdmin ∨
    ctx.signer = group.admin) .unauthorized
  let engine ← RiskEngine.new s.banks (env.priceFeed s.rest) account remaining
  engine.checkAccountBankrupt account
  let bank ← bank.accrueInterest env.clock.unixTimestamp group
  let badDebt ← findBadDebt ctx.bank bank account
  let insuranceAmount ← env.tokenAmount s.rest ctx.insuranceVault
  let availableInsuranceFund ←
    calculatePostFeeSplDepositAmount mint insuranceAmount env.clock.epoch
  let (coveredByInsurance, socializedLoss) ← splitBadDebt badDebt (.ofU64 availableInsuranceFund)
  let coveredCeil ← math coveredByInsurance.checkedCeil
  let coveredByInsuranceRoundedUp ← math (I80F48.toU64? coveredCeil)
  let depositPreFee ←
    calculatePreFeeSplDepositAmount mint coveredByInsuranceRoundedUp env.clock.epoch
  let rest ← env.transfer
    { amount := depositPreFee
      source := ctx.insuranceVault
      destination := ctx.liquidityVault
      authority := ctx.insuranceVaultAuthority
      signerSeeds := some (ctx.bank, (s.vaultBumps ctx.bank).insuranceVaultAuthorityBump)
      mint := mint.map Prod.fst
      tokenProgram := ctx.tokenProgram
      remaining := remaining } s.rest
  let (account, bank, killBank) ←
    settleBadDebt env.clock ctx.bank bank account badDebt socializedLoss
  let bank ← bank.updateCaches group env.clock (engine.getUnbiasedPriceForBank ctx.bank)
  .ok { s with
    toLedger := { ((s.setAccount ctx.marginfiAccount (disableAccount account env.clock)).setBank
      ctx.bank (bank.killIf killBank)) with rest := rest } }

end Handler

end Marginfi
