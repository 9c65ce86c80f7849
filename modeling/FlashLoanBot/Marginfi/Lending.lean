import FlashLoanBot.Marginfi.Flashloan

/-!
# marginfi: borrowing and repaying

The instructions `lending_account_borrow` and `lending_account_repay`.

* `LendingAccountBorrow`, `LendingAccountRepay`: the account structures, and the constraints
  declared on them (`checkBorrowConstraints`, `checkRepayConstraints`);
* `maybeTakeBankMint`, `calculatePreFeeSplDepositAmount`: mints of Token-2022 and their fees;
* `lendingAccountBorrow`, `lendingAccountRepay`: the handlers.
-/

namespace Marginfi

open Solana Checked

/-! ### Account structures -/

/-- `LendingAccountBorrow` -/
structure LendingAccountBorrow where
  group : Pubkey
  marginfiAccount : Pubkey
  authority : Pubkey
  bank : Pubkey
  destinationTokenAccount : Pubkey
  bankLiquidityVaultAuthority : Pubkey
  liquidityVault : Pubkey
  tokenProgram : Pubkey
  tokenProgram_mem : tokenProgram ∈ [tokenId, token2022Id]
  deriving DecidableEq

instance : Accounts LendingAccountBorrow where
  fields := [.account "group", .mutable "marginfi_account", .signer "authority",
    .mutable "bank", .mutable "destination_token_account",
    .account "bank_liquidity_vault_authority", .mutable "liquidity_vault",
    .program "token_program" [tokenId, token2022Id]]
  keys a := [a.group, a.marginfiAccount, a.authority, a.bank, a.destinationTokenAccount,
    a.bankLiquidityVaultAuthority, a.liquidityVault, a.tokenProgram]
  ofKeys
    | [g, a, s, b, d, va, v, t] =>
        if h : t ∈ [tokenId, token2022Id] then some ⟨g, a, s, b, d, va, v, t, h⟩ else none
    | _ => none
  keys_admitted a := by simpa using a.tokenProgram_mem
  ofKeys_keys a := dif_pos a.tokenProgram_mem
  keys_ofKeys ks a h := by
    split at h
    · split_ifs at h
      cases h
      rfl
    · cases h

/-- `LendingAccountRepay` -/
structure LendingAccountRepay where
  group : Pubkey
  marginfiAccount : Pubkey
  authority : Pubkey
  bank : Pubkey
  signerTokenAccount : Pubkey
  liquidityVault : Pubkey
  tokenProgram : Pubkey
  tokenProgram_mem : tokenProgram ∈ [tokenId, token2022Id]
  deriving DecidableEq

instance : Accounts LendingAccountRepay where
  fields := [.account "group", .mutable "marginfi_account", .signer "authority",
    .mutable "bank", .mutable "signer_token_account", .mutable "liquidity_vault",
    .program "token_program" [tokenId, token2022Id]]
  keys a := [a.group, a.marginfiAccount, a.authority, a.bank, a.signerTokenAccount,
    a.liquidityVault, a.tokenProgram]
  ofKeys
    | [g, a, s, b, d, v, t] =>
        if h : t ∈ [tokenId, token2022Id] then some ⟨g, a, s, b, d, v, t, h⟩ else none
    | _ => none
  keys_admitted a := by simpa using a.tokenProgram_mem
  ofKeys_keys a := dif_pos a.tokenProgram_mem
  keys_ofKeys ks a h := by
    split at h
    · split_ifs at h
      cases h
      rfl
    · cases h

/-! ### Authorization -/

/-- `is_signer_authorized` -/
def isSignerAuthorized (account : MarginfiAccount) (groupAdmin signer : Pubkey)
    (allowReceivership : Bool) : Bool :=
  if allowReceivership ∧ account.getFlag accountInReceivershipFlag then true
  else if account.getFlag accountFrozenFlag then groupAdmin == signer
  else account.authority == signer

/-- `account_not_frozen_for_authority` -/
def accountNotFrozenForAuthority (account : MarginfiAccount) (signer : Pubkey) : Bool :=
  !(account.getFlag accountFrozenFlag && account.authority == signer)

/-- `LIQUIDITY_VAULT_AUTHORITY_SEED` -/
def liquidityVaultAuthoritySeed : String := "liquidity_vault_auth"

section Constraints

variable {τ : Type} (env : Env τ)

/-- The constraints that both instructions declare, in the order of the fields: the protocol
is not paused, the user account belongs to the group and to the signer, and the bank belongs
to the group and owns the vault. -/
def checkCommonConstraints (groupKey liquidityVault authority : Pubkey) (allowReceivership : Bool)
    (group : MarginfiGroup) (account : MarginfiAccount) (bank : Bank) : Result Unit := do
  let paused ← group.isProtocolPaused env.clock
  check (paused = false) .protocolPaused
  check (account.group = groupKey) .invalidGroup
  check (accountNotFrozenForAuthority account authority = true) .accountFrozen
  check (isSignerAuthorized account group.admin authority allowReceivership = true)
    .unauthorized
  check (bank.group = groupKey) .invalidGroup
  check (bank.liquidityVault = liquidityVault) .invalidLiquidityVault
  check (isMarginfiAssetTag bank.config.assetTag = true) .wrongAssetTagForStandardInstructions

/-- The constraints of `LendingAccountBorrow`. -/
def checkBorrowConstraints (ctx : LendingAccountBorrow) (group : MarginfiGroup)
    (account : MarginfiAccount) (bank : Bank) : Result Unit := do
  checkCommonConstraints env ctx.group ctx.liquidityVault ctx.authority false group account bank
  check (bank.getFlag tokenlessRepaymentsAllowed = false) .forbiddenIx
  ensure (env.createProgramAddress liquidityVaultAuthoritySeed ctx.bank
    bank.liquidityVaultAuthorityBump = some ctx.bankLiquidityVaultAuthority) errConstraintSeeds

/-- The constraints of `LendingAccountRepay`. -/
def checkRepayConstraints (ctx : LendingAccountRepay) (group : MarginfiGroup)
    (account : MarginfiAccount) (bank : Bank) : Result Unit :=
  checkCommonConstraints env ctx.group ctx.liquidityVault ctx.authority true group account bank

end Constraints

/-! ### Mints and fees -/

/-- `maybe_take_bank_mint`: under Token-2022 the first remaining account is the bank's mint. -/
def maybeTakeBankMint {τ : Type} (env : Env τ) (rest : τ) (remaining : List Pubkey) (bank : Bank)
    (tokenProgram : Pubkey) : Result (Option (Pubkey × Mint) × List Pubkey) :=
  if tokenProgram = tokenId then .ok (none, remaining)
  else if tokenProgram = token2022Id then
    match remaining with
    | [] => .error MarginfiError.t22MintRequired.toError
    | key :: remaining => do
        check (bank.mint = key) .t22MintRequired
        let mint ← fromOption MarginfiError.t22MintRequired.toError (env.mint rest key)
        .ok (some (key, mint), remaining)
  else .error .panicked

/-- A `u64` result, when it is in range. -/
def u64? (n : ℕ) : Option UInt64 := if n < 2 ^ 64 then some (UInt64.ofNat n) else none

/-- `calculate_pre_fee_amount`: the amount to send so that `postFeeAmount` arrives. -/
def calculatePreFeeAmount (fee : TransferFee) (postFeeAmount : UInt64) : Option UInt64 :=
  let maximumFee := fee.maximumFee.toNat
  let basisPoints := fee.transferFeeBasisPoints.toNat
  let post := postFeeAmount.toNat
  if basisPoints = 0 then some postFeeAmount
  else if post = 0 then some 0
  else if basisPoints = 10000 then u64? (maximumFee + post)
  else if 10000 < basisPoints then none
  else
    let raw := (post * 10000 + (10000 - basisPoints) - 1) / (10000 - basisPoints)
    if raw < post then none
    else if maximumFee ≤ raw - post then u64? (post + maximumFee)
    else u64? raw

/-- `calculate_pre_fee_spl_deposit_amount`, on the mint if there is one. -/
def calculatePreFeeSplDepositAmount (mint : Option (Pubkey × Mint)) (postFeeAmount : UInt64)
    (epoch : UInt64) : Result UInt64 :=
  match mint with
  | none => .ok postFeeAmount
  | some (_, mint) =>
      if mint.isTokenMint then .ok postFeeAmount
      else
        match mint.getEpochFee epoch with
        | some fee => orPanic (calculatePreFeeAmount fee postFeeAmount)
        | none => .ok postFeeAmount

/-! ### Asset tags -/

/-- Tags whose assets behave like default ones. -/
def isDefaultLike (tag : UInt8) : Bool := tag == assetTagDefault || isIntegrationAssetTag tag

/-- `validate_asset_tags`: default and staked positions do not mix. -/
def validateAssetTags (bank : Bank) (account : MarginfiAccount) : Result Unit := do
  let active := account.lendingAccount.activeBalances
  ensure (active.all (fun b => isDefaultLike b.bankAssetTag || b.bankAssetTag == assetTagSol ||
    b.bankAssetTag == assetTagStaked) = true) .panicked
  check (¬(isDefaultLike bank.config.assetTag = true ∧
    active.any (fun b => b.bankAssetTag == assetTagStaked) = true)) .assetTagMismatch
  check (¬(bank.config.assetTag = assetTagStaked ∧
    active.any (fun b => isDefaultLike b.bankAssetTag) = true)) .assetTagMismatch

/-! ### Borrow -/

/-- The origination fee on a loan, and its integer part; a zero rate charges nothing. -/
def originationFee (bank : Bank) (amountPreFee : UInt64) : Result (I80F48 × UInt64) :=
  let rate := bank.config.interestRateConfig.protocolOriginationFee
  if rate = 0 then .ok (0, 0)
  else do
    let fee ← math ((I80F48.ofU64 amountPreFee).checkedMul rate)
    let feeU64 ← math (I80F48.toU64? fee)
    .ok (fee, feeU64)

/-- The origination fee is shared between the program and the group. -/
def creditOriginationFee (bank : Bank) (group : MarginfiGroup) (fee : I80F48) : Result Bank :=
  if fee = 0 then .ok bank
  else if group.programFeeRate = 0 then
    .ok { bank with
      collectedGroupFeesOutstanding := saturatingAdd bank.collectedGroupFeesOutstanding fee }
  else do
    let programFee ← math (fee.checkedMul group.programFeeRate)
    .ok { bank with
      collectedGroupFeesOutstanding :=
        saturatingAdd bank.collectedGroupFeesOutstanding (saturatingSub fee programFee)
      collectedProgramFeesOutstanding :=
        saturatingAdd bank.collectedProgramFeesOutstanding programFee }

section Handlers

variable {τ : Type}

/-- The token accounts of an instruction are token accounts. -/
def checkTokenAccounts (env : Env τ) (s : Ledger τ) (keys : List Pubkey) : Result Unit :=
  ensure (keys.all (fun k => env.isTokenAccount s.rest k) = true) errWrongOwner

/-- The loan and its fee are recorded as a debt of the position, which is stored back. -/
def recordBorrow (env : Env τ) (w : BankAccountWrapper) (account : MarginfiAccount)
    (amountPreFee : UInt64) (fee : I80F48) : Result (MarginfiAccount × Bank) := do
  let debt ← orPanic ((I80F48.ofU64 amountPreFee).checkedAdd fee)
  let w ← w.borrow debt env.clock
  .ok ({ account with
      lendingAccount := account.lendingAccount.store w
      lastUpdate := env.clock.unixTimestamp.toUInt64 }, w.bank)

/-- The price that the health check used for a bank, if there was a health check. -/
def enginePrice (engine : Option RiskEngine) (bankKey : Pubkey) :
    Option OraclePriceWithConfidence :=
  engine.bind fun e => (e.getUnbiasedPriceForBank bankKey).toOption

/-- `lending_account_borrow` -/
def lendingAccountBorrow (env : Env τ) (ctx : LendingAccountBorrow) (remaining : List Pubkey)
    (amount : UInt64) (s : Ledger τ) : Result (Ledger τ) := do
  let group ← s.loadGroup ctx.group
  let account ← s.loadAccount ctx.marginfiAccount
  let bank ← s.loadBank ctx.bank
  checkTokenAccounts env s [ctx.destinationTokenAccount, ctx.liquidityVault]
  checkBorrowConstraints env ctx group account bank
  let (mint, remaining) ← maybeTakeBankMint env s.rest remaining bank ctx.tokenProgram
  check (account.getFlag accountDisabledFlag = false ∧
    account.getFlag accountInReceivershipFlag = false) .accountDisabled
  let bank ← bank.accrueInterest env.clock.unixTimestamp group
  validateAssetTags bank account
  validateBankState bank .failsIfPausedOrReduceState
  let w ← BankAccountWrapper.findOrCreate ctx.bank bank account.lendingAccount env.clock
  let amountPreFee ← calculatePreFeeSplDepositAmount mint amount env.clock.epoch
  let (fee, feeU64) ← originationFee bank amountPreFee
  let (account, bank) ← recordBorrow env w account amountPreFee fee
  let rest ← env.transfer
    { amount := amountPreFee
      source := ctx.liquidityVault
      destination := ctx.destinationTokenAccount
      authority := ctx.bankLiquidityVaultAuthority
      signerSeeds := some (ctx.bank, bank.liquidityVaultAuthorityBump)
      mint := mint.map Prod.fst
      tokenProgram := ctx.tokenProgram
      remaining := remaining } s.rest
  -- the event reports the sum, in checked arithmetic
  ensure (amountPreFee.toNat + feeU64.toNat < 2 ^ 64) .panicked
  let bank ← creditOriginationFee bank group fee
  let account := { account with lendingAccount := account.lendingAccount.sortBalances }
  let engine ← RiskEngine.checkAccountInitHealth (Function.update s.banks ctx.bank (some bank))
    (env.priceFeed rest) account remaining
  let bank ← bank.updateBankCache group env.clock
  let bank := bank.updateCachePrice (enginePrice engine ctx.bank) env.clock
  .ok { (s.setAccount ctx.marginfiAccount account).setBank ctx.bank bank with rest := rest }

/-! ### Repay -/

/-- Repay everything, or `amount`; the amount that has to arrive. -/
def BankAccountWrapper.repayBy (w : BankAccountWrapper) (amount : UInt64) (repayAll : Bool)
    (clock : Clock) : Result (BankAccountWrapper × UInt64) :=
  if repayAll then w.repayAll clock
  else do
    let w ← w.repay (I80F48.ofU64 amount) clock
    .ok (w, amount)

/-- The repayment is recorded in the bank's slot; the amount that has to arrive. -/
def recordRepay (env : Env τ) (bankKey : Pubkey) (bank : Bank) (account : MarginfiAccount)
    (amount : UInt64) (repayAll : Bool) : Result (MarginfiAccount × Bank × UInt64) := do
  let w ← BankAccountWrapper.find bankKey bank account.lendingAccount
  let (w, paid) ← w.repayBy amount repayAll env.clock
  .ok ({ account with
      lendingAccount := account.lendingAccount.store w
      lastUpdate := env.clock.unixTimestamp.toUInt64 }, w.bank, paid)

/-- The risk admin may clear a debt without paying it. -/
def isTokenlessRepayment (group : MarginfiGroup) (bank : Bank) (authority : Pubkey)
    (repayAll : Bool) : Bool :=
  authority == group.riskAdmin && bank.getFlag tokenlessRepaymentsAllowed && repayAll

/-- The transfer of a repayment into the vault. -/
def depositRepayment (env : Env τ) (ctx : LendingAccountRepay) (bank : Bank)
    (mint : Option (Pubkey × Mint)) (remaining : List Pubkey) (paid : UInt64) (rest : τ) :
    Result τ := do
  let amount ← calculatePreFeeSplDepositAmount mint paid env.clock.epoch
  check (ctx.liquidityVault = bank.liquidityVault) .invalidTransfer
  env.transfer
    { amount := amount
      source := ctx.signerTokenAccount
      destination := ctx.liquidityVault
      authority := ctx.authority
      signerSeeds := none
      mint := mint.map Prod.fst
      tokenProgram := ctx.tokenProgram
      remaining := remaining } rest

/-- The repayment is paid for, unless it is a tokenless one. -/
def payRepayment (env : Env τ) (ctx : LendingAccountRepay) (group : MarginfiGroup) (bank : Bank)
    (mint : Option (Pubkey × Mint)) (remaining : List Pubkey) (paid : UInt64) (repayAll : Bool)
    (rest : τ) : Result τ :=
  if isTokenlessRepayment group bank ctx.authority repayAll then .ok rest
  else depositRepayment env ctx bank mint remaining paid rest

/-- A bank whose debts are discharged by tokenless repayments is marked so. -/
def markTokenlessRepayments (bank : Bank) : Result Bank :=
  if bank.getFlag tokenlessRepaymentsAllowed then do
    let magnitude ← orPanic bank.totalLiabilityShares.checkedAbs
    let threshold ← orPanic (zeroAmountThreshold.checkedMul (I80F48.ofU64 10))
    if magnitude < threshold then
      .ok { bank with flags := bank.flags ||| tokenlessRepaymentsComplete }
    else .ok bank
  else .ok bank

/-- `lending_account_repay` -/
def lendingAccountRepay (env : Env τ) (ctx : LendingAccountRepay) (remaining : List Pubkey)
    (amount : UInt64) (repayAll : Option Bool) (s : Ledger τ) : Result (Ledger τ) := do
  let group ← s.loadGroup ctx.group
  let account ← s.loadAccount ctx.marginfiAccount
  let bank ← s.loadBank ctx.bank
  checkTokenAccounts env s [ctx.liquidityVault]
  checkRepayConstraints env ctx group account bank
  let (mint, remaining) ← maybeTakeBankMint env s.rest remaining bank ctx.tokenProgram
  let repayAll := repayAll.getD false
  check (account.getFlag accountDisabledFlag = false) .accountDisabled
  validateBankState bank .failsInPausedState
  let bank ← bank.accrueInterest env.clock.unixTimestamp group
  let (account, bank, paid) ← recordRepay env ctx.bank bank account amount repayAll
  let rest ← payRepayment env ctx group bank mint remaining paid repayAll s.rest
  let bank ← markTokenlessRepayments bank
  let bank ← bank.updateBankCache group env.clock
  let account := { account with lendingAccount := account.lendingAccount.sortBalances }
  .ok { (s.setAccount ctx.marginfiAccount account).setBank ctx.bank bank with rest := rest }

end Handlers

end Marginfi
