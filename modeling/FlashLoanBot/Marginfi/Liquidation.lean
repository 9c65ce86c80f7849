import FlashLoanBot.Marginfi.Deposits

/-!
# marginfi: liquidation

The instruction by which a liquidator takes over a part of an unhealthy account.

* `calcAmount`, `liquidationAmounts`: how much debt is paid for how much collateral;
* `checkPreLiquidationConditionAndGetAccountHealth`,
  `checkPostLiquidationConditionAndGetAccountHealth`: what is liquidated, and how far;
* `liquidatorTakesDebt`, `liquidateeGivesAsset`, `liquidatorTakesAsset`, `liquidateeRepays`: the
  four changes of positions;
* `lendingAccountLiquidate`: the handler.
-/

namespace Marginfi

open Solana Checked

/-! ### Account structure -/

/-- `LendingAccountLiquidate` -/
structure LendingAccountLiquidate where
  group : Pubkey
  assetBank : Pubkey
  liabBank : Pubkey
  liquidatorMarginfiAccount : Pubkey
  authority : Pubkey
  liquidateeMarginfiAccount : Pubkey
  bankLiquidityVaultAuthority : Pubkey
  bankLiquidityVault : Pubkey
  bankInsuranceVault : Pubkey
  tokenProgram : Pubkey
  tokenProgram_mem : tokenProgram ∈ [tokenId, token2022Id]

/-- `LIQUIDITY_VAULT_SEED` -/
def liquidityVaultSeed : String := "liquidity_vault"

/-- `INSURANCE_VAULT_SEED` -/
def insuranceVaultSeed : String := "insurance_vault"

/-! ### Prices and amounts -/

/-- `LIQUIDATION_LIQUIDATOR_FEE`, the number closest to `0.025`. -/
def liquidationLiquidatorFee : I80F48 := ⟨7036874417766, by decide, by decide⟩

/-- `LIQUIDATION_INSURANCE_FEE`, the number closest to `0.025`. -/
def liquidationInsuranceFee : I80F48 := ⟨7036874417766, by decide, by decide⟩

/-- `calc_amount` -/
def calcAmount (value price : I80F48) (mintDecimals : UInt8) : Result I80F48 := do
  let scalingFactor ← orPanic (exp10 mintDecimals.toNat)
  let scaled ← math (value.checkedMul scalingFactor)
  math (scaled.checkedDiv price)

/-- The debt that pays for an amount of the asset, at a discount. -/
def discountedDebt (assetAmount assetPrice liabPrice discount : I80F48)
    (assetBank liabBank : Bank) :
    Result I80F48 := do
  let value ← calcValue assetAmount assetPrice assetBank.getBalanceDecimals (some discount)
  calcAmount value liabPrice liabBank.getBalanceDecimals

/-- The debt that the liquidator takes over, the part of it that is repaid for the liquidatee, and
the difference, which goes to the insurance fund. -/
def liquidationAmounts (assetAmount assetPrice liabPrice : I80F48) (assetBank liabBank : Bank) :
    Result (I80F48 × I80F48 × I80F48) := do
  let fees ← orPanic (liquidationInsuranceFee.checkedAdd liquidationLiquidatorFee)
  let finalDiscount ← orPanic (I80F48.one.checkedSub fees)
  let liquidatorDiscount ← orPanic (I80F48.one.checkedSub liquidationLiquidatorFee)
  let liabAmountLiquidator ←
    discountedDebt assetAmount assetPrice liabPrice liquidatorDiscount assetBank liabBank
  let liabAmountFinal ←
    discountedDebt assetAmount assetPrice liabPrice finalDiscount assetBank liabBank
  let insuranceFundFee ← orPanic (liabAmountLiquidator.checkedSub liabAmountFinal)
  ensure (0 ≤ insuranceFundFee) .panicked
  .ok (liabAmountLiquidator, liabAmountFinal, insuranceFundFee)

theorem exp10_pos {n : ℕ} {x : I80F48} (h : exp10 n = some x) : 0 < x := by
  unfold exp10 at h
  split_ifs at h
  show 0 < x.bits
  rw [FixedPoint.ofBits?_eq_some.mp h]
  positivity

section Amounts

variable {assetAmount assetPrice liabPrice : I80F48} {assetBank liabBank : Bank}

/-- A discounted debt is that of an amount, a value and a price, each rounded down. -/
theorem discountedDebt_inv {discount debt : I80F48} (hamount : assetAmount ≠ 0)
    (h : discountedDebt assetAmount assetPrice liabPrice discount assetBank liabBank = .ok debt) :
    ∃ assetScale liabScale weighted worth value scaled,
      exp10 assetBank.getBalanceDecimals.toNat = some assetScale ∧
      exp10 liabBank.getBalanceDecimals.toNat = some liabScale ∧
      assetAmount.checkedMul discount = some weighted ∧
      weighted.checkedMul assetPrice = some worth ∧ worth.checkedDiv assetScale = some value ∧
      value.checkedMul liabScale = some scaled ∧ scaled.checkedDiv liabPrice = some debt := by
  simp only [discountedDebt, calcValue, if_neg hamount, calcAmount, bind_eq_ok, orPanic, math,
    fromOption_eq_ok] at h
  obtain ⟨value, ⟨assetScale, hassetScale, weighted, hweighted, worth, hworth, hvalue⟩, liabScale,
    hliabScale, scaled, hscaled, hdebt⟩ := h
  exact ⟨assetScale, liabScale, weighted, worth, value, scaled, hassetScale, hliabScale, hweighted,
    hworth, hvalue, hscaled, hdebt⟩

theorem discountedDebt_nonneg {discount debt : I80F48} (hamount : 0 < assetAmount)
    (hasset : 0 ≤ assetPrice) (hliab : 0 ≤ liabPrice) (hdiscount : 0 ≤ discount)
    (h : discountedDebt assetAmount assetPrice liabPrice discount assetBank liabBank = .ok debt) :
    0 ≤ debt := by
  obtain ⟨assetScale, liabScale, weighted, worth, value, scaled, hassetScale, hliabScale, hweighted,
    hworth, hvalue, hscaled, hdebt⟩ := discountedDebt_inv hamount.ne' h
  have hweighted0 := FixedPoint.checkedMul_nonneg hamount.le hdiscount hweighted
  have hworth0 := FixedPoint.checkedMul_nonneg hweighted0 hasset hworth
  have hvalue0 := FixedPoint.checkedDiv_nonneg hworth0 (exp10_pos hassetScale).le hvalue
  have hscaled0 := FixedPoint.checkedMul_nonneg hvalue0 (exp10_pos hliabScale).le hscaled
  exact FixedPoint.checkedDiv_nonneg hscaled0 hliab hdebt

/-- The amounts of a liquidation, at the two discounts. -/
theorem liquidationAmounts_inv {paid final fee : I80F48}
    (h : liquidationAmounts assetAmount assetPrice liabPrice assetBank liabBank =
      .ok (paid, final, fee)) :
    ∃ finalDiscount liquidatorDiscount : I80F48, finalDiscount.bits = 267401227875124 ∧
      liquidatorDiscount.bits = 274438102292890 ∧
      discountedDebt assetAmount assetPrice liabPrice liquidatorDiscount assetBank liabBank =
        .ok paid ∧
      discountedDebt assetAmount assetPrice liabPrice finalDiscount assetBank liabBank = .ok final ∧
      fee.bits = paid.bits - final.bits ∧ 0 ≤ fee := by
  simp only [liquidationAmounts, bind_eq_ok, orPanic, fromOption_eq_ok, ensure_eq_ok] at h
  obtain ⟨fees, hfees, d1, hd1, d2, hd2, p, hp, f, hf, e, he, _, hnonneg, h⟩ := h
  cases h
  have hsum : fees.bits = 14073748835532 := FixedPoint.checkedAdd_eq_some.mp hfees
  have hone : I80F48.one.bits = 281474976710656 := rfl
  have h1 := FixedPoint.checkedSub_eq_some.mp hd1
  have h2 : d2.bits = I80F48.one.bits - 7036874417766 := FixedPoint.checkedSub_eq_some.mp hd2
  exact ⟨d1, d2, by omega, by omega, hp, hf, FixedPoint.checkedSub_eq_some.mp he, hnonneg⟩

theorem liquidationAmounts_nonneg {paid final fee : I80F48} (hamount : 0 < assetAmount)
    (hasset : 0 ≤ assetPrice) (hliab : 0 ≤ liabPrice)
    (h : liquidationAmounts assetAmount assetPrice liabPrice assetBank liabBank =
      .ok (paid, final, fee)) : 0 ≤ paid ∧ 0 ≤ final := by
  obtain ⟨d1, d2, hd1, hd2, hpaid, hfinal, -⟩ := liquidationAmounts_inv h
  have h1 : 0 ≤ d1.bits := by omega
  have h2 : 0 ≤ d2.bits := by omega
  exact ⟨discountedDebt_nonneg hamount hasset hliab h2 hpaid,
    discountedDebt_nonneg hamount hasset hliab h1 hfinal⟩

end Amounts

/-- `frac` -/
def fracOf (x : I80F48) : I80F48 :=
  ⟨x.bits % 2 ^ 48, by have := Int.emod_nonneg x.bits (show (2 : ℤ) ^ 48 ≠ 0 by decide); omega,
    by have := Int.emod_lt_of_pos x.bits (show (0 : ℤ) < 2 ^ 48 by decide); omega⟩

/-- `validate_bank_asset_tags` -/
def validateBankAssetTags (bankA bankB : Bank) : Result Unit := do
  check (¬(isDefaultLike bankA.config.assetTag = true ∧ bankB.config.assetTag = assetTagStaked))
    .assetTagMismatch
  check (¬(bankA.config.assetTag = assetTagStaked ∧ isDefaultLike bankB.config.assetTag = true))
    .assetTagMismatch

/-! ### The risk engine in a liquidation -/

namespace RiskEngine

/-- `RiskEngine::new`: not for an account in a flash loan. -/
def new (banks : Pubkey → Option Bank)
    (feed : Bank → List Pubkey → Except ProgramError PriceFeed) (account : MarginfiAccount)
    (remainingAis : List Pubkey) : Result RiskEngine := do
  checkLending (account.getFlag accountInFlashloanFlag = false) .accountInFlashloan
  newNoFlashloanCheck banks feed account remainingAis

/-- The position in the bank whose debt is liquidated is a debt. -/
def checkLiabilityBank (engine : RiskEngine) (bankPk : Pubkey) : Result Unit := do
  let liability ← fromOption LendingError.lendingAccountBalanceNotFound.toError
    (engine.bankAccountsWithPrice.find? fun a => a.balance.bankPk == bankPk)
  checkLending (liability.balance.isEmpty .liabilities = false) .noLiabilitiesInLiabilityBank
  checkLending (liability.balance.isEmpty .assets = true) .assetsInLiabilityBank

/-- Assets less liabilities, at the maintenance weights. -/
def maintenanceHealth (engine : RiskEngine) : Result I80F48 := do
  let (assets, liabs) ← engine.getAccountHealthComponents .maintenance
  math (assets.checkedSub liabs)

/-- `check_pre_liquidation_condition_and_get_account_health` -/
def checkPreLiquidationConditionAndGetAccountHealth (engine : RiskEngine)
    (account : MarginfiAccount) (bankPk : Option Pubkey) (ignoreHealthy : Bool) :
    Result I80F48 := do
  checkLending (account.getFlag accountInFlashloanFlag = false) .accountInFlashloan
  match bankPk with
  | some bankPk => engine.checkLiabilityBank bankPk
  | none => .ok ()
  let accountHealth ← engine.maintenanceHealth
  checkLending (¬(0 < accountHealth ∧ ignoreHealthy = false)) .healthyAccount
  .ok accountHealth

/-- `check_post_liquidation_condition_and_get_account_health` -/
def checkPostLiquidationConditionAndGetAccountHealth (engine : RiskEngine)
    (account : MarginfiAccount) (bankPk : Pubkey) (preLiquidationHealth : I80F48) :
    Result I80F48 := do
  checkLending (account.getFlag accountInFlashloanFlag = false) .accountInFlashloan
  let liability ← orPanic (engine.bankAccountsWithPrice.find? fun a => a.balance.bankPk == bankPk)
  checkLending (liability.balance.isEmpty .liabilities = false) .exhaustedLiability
  checkLending (liability.balance.isEmpty .assets = true) .tooSeverePayoff
  let accountHealth ← engine.maintenanceHealth
  checkLending (accountHealth ≤ 0) .tooSevereLiquidation
  checkLending (preLiquidationHealth < accountHealth) .worseHealthPostLiquidation
  .ok accountHealth

end RiskEngine

/-! ### Positions -/

section Positions

variable (clock : Clock) (bankKey : Pubkey) (bank : Bank) (account : MarginfiAccount)
  (amount : I80F48)

/-- Store a position; the instruction reports the account and the bank. -/
def MarginfiAccount.storeWith (account : MarginfiAccount) (w : BankAccountWrapper) :
    MarginfiAccount × Bank :=
  ({ account with lendingAccount := account.lendingAccount.store w }, w.bank)

/-- The liquidator withdraws collateral in the liability bank, if any, and borrows the rest. -/
def liquidatorTakesDebt : Result (MarginfiAccount × Bank) := do
  let w ← BankAccountWrapper.findOrCreate bankKey bank account.lendingAccount clock
  let _ ← w.bank.getLiabilityAmount w.balance.liabilityShares
  let w ← w.withdrawIgnoreBorrowCap amount clock
  let _ ← w.bank.getLiabilityAmount w.balance.liabilityShares
  .ok (account.storeWith w)

/-- The liquidatee gives up collateral, of which there has to be enough. -/
def liquidateeGivesAsset : Result (MarginfiAccount × Bank) := do
  let w ← BankAccountWrapper.find bankKey bank account.lendingAccount
  let preBalance ← w.bank.getAssetAmount w.balance.assetShares
  checkLending (amount ≤ preBalance) .overliquidationAttempt
  let w ← w.withdrawIgnoreBorrowCap amount clock
  let _ ← w.bank.getAssetAmount w.balance.assetShares
  .ok (account.storeWith w)

/-- The liquidator repays debt in the asset bank, if any, and deposits the rest. -/
def liquidatorTakesAsset : Result (MarginfiAccount × Bank) := do
  let w ← BankAccountWrapper.findOrCreate bankKey bank account.lendingAccount clock
  let _ ← w.bank.getAssetAmount w.balance.assetShares
  let w ← w.depositIgnoreDepositCap amount clock
  let _ ← w.bank.getAssetAmount w.balance.assetShares
  .ok ({ account with lastUpdate := clock.unixTimestamp.toUInt64 }.storeWith w)

/-- The debt of the liquidatee is repaid. -/
def liquidateeRepays : Result (MarginfiAccount × Bank) := do
  let w ← BankAccountWrapper.find bankKey bank account.lendingAccount
  let _ ← w.bank.getLiabilityAmount w.balance.liabilityShares
  let w ← w.repay amount clock
  let _ ← w.bank.getLiabilityAmount w.balance.liabilityShares
  .ok ({ account with lastUpdate := clock.unixTimestamp.toUInt64 }.storeWith w)

end Positions

section Handlers

variable {τ : Type}

/-- The constraints of `LendingAccountLiquidate`. -/
def checkLiquidateConstraints (env : Env τ) (ctx : LendingAccountLiquidate) (group : MarginfiGroup)
    (assetBank liabBank : Bank) (bumps : VaultBumps) (liquidator liquidatee : MarginfiAccount) :
    Result Unit := do
  let paused ← group.isProtocolPaused env.clock
  check (paused = false) .protocolPaused
  check (assetBank.group = ctx.group) .invalidGroup
  check (liabBank.group = ctx.group) .invalidGroup
  check (isMarginfiAssetTag liabBank.config.assetTag = true) .wrongAssetTagForStandardInstructions
  check (liquidator.group = ctx.group) .invalidGroup
  check (liquidator.getFlag accountInReceivershipFlag = false) .forbiddenIx
  check (accountNotFrozenForAuthority liquidator ctx.authority = true) .accountFrozen
  check (isSignerAuthorized liquidator group.admin ctx.authority false = true) .unauthorized
  check (liquidatee.group = ctx.group) .invalidGroup
  check (liquidatee.getFlag accountInReceivershipFlag = false) .forbiddenIx
  ensure (env.createProgramAddress liquidityVaultAuthoritySeed ctx.liabBank
    liabBank.liquidityVaultAuthorityBump = some ctx.bankLiquidityVaultAuthority) errConstraintSeeds
  ensure (env.createProgramAddress liquidityVaultSeed ctx.liabBank
    bumps.liquidityVaultBump = some ctx.bankLiquidityVault) errConstraintSeeds
  ensure (env.createProgramAddress insuranceVaultSeed ctx.liabBank
    bumps.insuranceVaultBump = some ctx.bankInsuranceVault) errConstraintSeeds

/-- What the instruction requires of the banks and of the two accounts. -/
def checkLiquidateBanks (assetBank liabBank : Bank) (liquidator liquidatee : MarginfiAccount) :
    Result Unit := do
  validateBankAssetTags assetBank liabBank
  validateBankState assetBank .failsInPausedState
  validateBankState liabBank .failsInPausedState
  validateAssetTags liabBank liquidatee
  validateAssetTags liabBank liquidator
  validateAssetTags assetBank liquidator

/-- The price of the asset, biased down, and that of the liability, biased up. -/
def liquidationPrices (env : Env τ) (rest : τ) (assetKey : Pubkey) (assetBank liabBank : Bank)
    (remaining : List Pubkey) : Result (I80F48 × I80F48) := do
  let assetAis ← getRemainingAccountsPerBank assetBank
  let assetPrice ← fetchAssetPriceForBankLowBias env rest assetKey assetBank remaining
  checkLending (0 < assetPrice) .zeroAssetPrice
  let liabAis ← getRemainingAccountsPerBank liabBank
  ensure (assetAis - 1 + (liabAis - 1) ≤ remaining.length) .panicked
  let feed ← env.priceFeed rest liabBank ((remaining.drop (assetAis - 1)).take (liabAis - 1))
  let liabPrice ← feed.getPriceOfType .realTime .high liabBank.config.oracleMaxConfidence
  checkLending (0 < liabPrice) .zeroLiabilityPrice
  .ok (assetPrice, liabPrice)

/-- The banks, with two of them replaced. -/
def updateBanks (banks : Pubkey → Option Bank) (ctx : LendingAccountLiquidate)
    (assetBank liabBank : Bank) : Pubkey → Option Bank :=
  Function.update (Function.update banks ctx.assetBank (some assetBank)) ctx.liabBank
    (some liabBank)

/-- The positions and the totals after a liquidation, with what goes to the insurance fund: whole
units of the fee. -/
structure Liquidated where
  liquidator : MarginfiAccount
  liquidatee : MarginfiAccount
  assetBank : Bank
  liabBank : Bank
  insuranceFeeToTransfer : UInt64

/-- The accounting changes of a liquidation, in the order of the source. -/
def liquidatePositions (clock : Clock) (ctx : LendingAccountLiquidate)
    (assetAmount assetPrice liabPrice : I80F48) (assetBank liabBank : Bank)
    (liquidator liquidatee : MarginfiAccount) : Result Liquidated := do
  let (liabAmountLiquidator, liabAmountFinal, insuranceFundFee) ←
    liquidationAmounts assetAmount assetPrice liabPrice assetBank liabBank
  let (liquidator, liabBank) ←
    liquidatorTakesDebt clock ctx.liabBank liabBank liquidator liabAmountLiquidator
  let (liquidatee, assetBank) ←
    liquidateeGivesAsset clock ctx.assetBank assetBank liquidatee assetAmount
  let (liquidator, assetBank) ←
    liquidatorTakesAsset clock ctx.assetBank assetBank liquidator assetAmount
  let insuranceFeeToTransfer ← math (I80F48.toU64? insuranceFundFee)
  let (liquidatee, liabBank) ←
    liquidateeRepays clock ctx.liabBank liabBank liquidatee liabAmountFinal
  let fees ← math (liabBank.collectedInsuranceFeesOutstanding.checkedAdd (fracOf insuranceFundFee))
  .ok {
    liquidator := liquidator
    liquidatee := liquidatee
    assetBank := assetBank
    liabBank := { liabBank with collectedInsuranceFeesOutstanding := fees }
    insuranceFeeToTransfer := insuranceFeeToTransfer }

/-- The metrics of a bank and its price are cached. -/
def Bank.updateCaches (bank : Bank) (group : MarginfiGroup) (clock : Clock)
    (price : Result OraclePriceWithConfidence) : Result Bank := do
  let bank ← bank.updateBankCache group clock
  .ok (bank.updateCachePrice price.toOption clock)

/-- `lending_account_liquidate` -/
def lendingAccountLiquidate (env : Env τ) (ctx : LendingAccountLiquidate) (remaining : List Pubkey)
    (assetAmount : UInt64) (liquidateeAccounts liquidatorAccounts : UInt8) (s : Market τ) :
    Result (Market τ) := do
  let group ← s.loadGroup ctx.group
  let assetBank ← s.loadBank ctx.assetBank
  let liabBank ← s.loadBank ctx.liabBank
  let liquidator ← s.loadAccount ctx.liquidatorMarginfiAccount
  let liquidatee ← s.loadAccount ctx.liquidateeMarginfiAccount
  checkTokenAccounts env s.toLedger [ctx.bankLiquidityVault]
  checkLiquidateConstraints env ctx group assetBank liabBank (s.vaultBumps ctx.liabBank) liquidator
    liquidatee
  checkLending (0 < assetAmount) .zeroLiquidationAmount
  checkLending (ctx.assetBank ≠ ctx.liabBank) .sameAssetAndLiabilityBanks
  checkLiquidateBanks assetBank liabBank liquidator liquidatee
  -- one account cannot be borrowed twice
  ensure (ctx.liquidatorMarginfiAccount ≠ ctx.liquidateeMarginfiAccount) .refused
  let (mint, remaining) ← maybeTakeBankMint env s.rest remaining liabBank ctx.tokenProgram
  let assetBank ← assetBank.accrueInterest env.clock.unixTimestamp group
  let liabBank ← liabBank.accrueInterest env.clock.unixTimestamp group
  ensure (liquidateeAccounts.toNat ≤ remaining.length) .panicked
  let liquidateeStart := remaining.length - liquidateeAccounts.toNat
  let liquidatee := { liquidatee with lendingAccount := liquidatee.lendingAccount.sortBalances }
  let engine ← RiskEngine.new (updateBanks s.banks ctx assetBank liabBank) (env.priceFeed s.rest)
    liquidatee (remaining.drop liquidateeStart)
  let preLiquidationHealth ← engine.checkPreLiquidationConditionAndGetAccountHealth liquidatee
    (some ctx.liabBank) false
  let (assetPrice, liabPrice) ←
    liquidationPrices env s.rest ctx.assetBank assetBank liabBank remaining
  let done ← liquidatePositions env.clock ctx (.ofU64 assetAmount) assetPrice liabPrice assetBank
    liabBank liquidator liquidatee
  let rest ← env.transfer
    { amount := done.insuranceFeeToTransfer
      source := ctx.bankLiquidityVault
      destination := ctx.bankInsuranceVault
      authority := ctx.bankLiquidityVaultAuthority
      signerSeeds := some (ctx.liabBank, done.liabBank.liquidityVaultAuthorityBump)
      mint := mint.map Prod.fst
      tokenProgram := ctx.tokenProgram
      remaining := remaining } s.rest
  let assetBank ← done.assetBank.updateCaches group env.clock
    (engine.getUnbiasedPriceForBank ctx.assetBank)
  let liabBank ← done.liabBank.updateCaches group env.clock
    (engine.getUnbiasedPriceForBank ctx.liabBank)
  ensure (liquidatorAccounts.toNat ≤ liquidateeStart) .panicked
  let liquidatorAis :=
    (remaining.take liquidateeStart).drop (liquidateeStart - liquidatorAccounts.toNat)
  let banks := updateBanks s.banks ctx assetBank liabBank
  let postEngine ← RiskEngine.new banks (env.priceFeed rest) done.liquidatee
    (remaining.drop liquidateeStart)
  let _ ← postEngine.checkPostLiquidationConditionAndGetAccountHealth done.liquidatee ctx.liabBank
    preLiquidationHealth
  let liquidator :=
    { done.liquidator with lendingAccount := done.liquidator.lendingAccount.sortBalances }
  let _ ← RiskEngine.checkAccountInitHealth banks (env.priceFeed rest) liquidator liquidatorAis
  .ok { s with
    toLedger := { ((s.setAccount ctx.liquidatorMarginfiAccount liquidator).setAccount
      ctx.liquidateeMarginfiAccount done.liquidatee) with banks := banks, rest := rest } }

end Handlers

end Marginfi
