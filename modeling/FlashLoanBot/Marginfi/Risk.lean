import FlashLoanBot.Marginfi.Account

/-!
# marginfi: the risk engine

The health check that closes a borrow outside a flash loan and a flash loan itself.

* `Env`: what the program uses and does not contain: the clock, the token program, the
  oracles, the derivation of program addresses, and the data of mints;
* `loadBankAccounts`: the bank and the oracle of every active position, taken from the
  remaining accounts in order;
* `reconcileEmodeConfigs`: the weights common to all banks in which the user has borrowed;
* `checkAccountHealth`, `checkAccountInitHealth`: assets against liabilities;
* `loadBankAccounts_nil`: without remaining accounts only an account without active
  positions can be loaded.
-/

namespace Marginfi

open Solana Checked

/-! ### The environment -/

/-- `OraclePriceType` -/
inductive OraclePriceType
  | timeWeighted
  | realTime
  deriving DecidableEq

/-- `PriceBias` -/
inductive PriceBias
  | low
  | high
  deriving DecidableEq

/-- `OraclePriceFeedAdapter`, by the two questions that the risk engine asks it. -/
structure PriceFeed where
  getPriceOfType : OraclePriceType → PriceBias → UInt32 → Result I80F48
  getPriceAndConfidenceOfType : OraclePriceType → UInt32 → Result OraclePriceWithConfidence

/-- `TransferFee` -/
structure TransferFee where
  maximumFee : UInt64
  transferFeeBasisPoints : UInt16
  deriving DecidableEq

/-- A mint, by what it says about transfer fees: whether it belongs to SPL Token, and the fee
configured for an epoch. -/
structure Mint where
  isTokenMint : Bool
  getEpochFee : UInt64 → Option TransferFee

/-- A transfer that marginfi asks the token program for: the amount, the accounts between
which it moves, the authority, the bank and bump whose vault authority signs it, the mint
when it is passed, the token program, and the accounts that follow. -/
structure Transfer where
  amount : UInt64
  source : Pubkey
  destination : Pubkey
  authority : Pubkey
  signerSeeds : Option (Pubkey × UInt8)
  mint : Option Pubkey
  tokenProgram : Pubkey
  remaining : List Pubkey
  deriving DecidableEq

/-- What the program uses and does not contain, over a state `τ` of everything that marginfi
does not own. -/
structure Env (τ : Type) where
  cluster : Cluster
  clock : Clock
  /-- `transfer`, `invoke_transfer_checked` -/
  transfer : Transfer → τ → Result τ
  /-- `InterfaceAccount::try_from` on a token account -/
  isTokenAccount : τ → Pubkey → Bool
  /-- `InterfaceAccount::try_from` on a mint -/
  mint : τ → Pubkey → Option Mint
  /-- `OraclePriceFeedAdapter::try_from_bank` -/
  priceFeed : τ → Bank → List Pubkey → Except ProgramError PriceFeed
  /-- `Pubkey::create_program_address` for a seed, a bank and a bump -/
  createProgramAddress : String → Pubkey → UInt8 → Option Pubkey

/-- `crate::ID` -/
def Env.id {τ : Type} (env : Env τ) : Pubkey := env.cluster.id

/-! ### Weights -/

/-- `RequirementType` -/
inductive RequirementType
  | initial
  | maintenance
  | equity
  deriving DecidableEq

/-- `get_oracle_price_type` -/
def RequirementType.getOraclePriceType : RequirementType → OraclePriceType
  | initial => .timeWeighted
  | equity => .timeWeighted
  | maintenance => .realTime

/-- `get_weight` -/
def BankConfig.getWeight (config : BankConfig) : RequirementType → BalanceSide → I80F48
  | .initial, .assets => config.assetWeightInit
  | .initial, .liabilities => config.liabilityWeightInit
  | .maintenance, .assets => config.assetWeightMaint
  | .maintenance, .liabilities => config.liabilityWeightMaint
  | .equity, _ => .one

/-- `calc_value` -/
def calcValue (amount price : I80F48) (mintDecimals : UInt8) (weight : Option I80F48) :
    Result I80F48 :=
  if amount = 0 then .ok 0
  else do
    let scalingFactor ← orPanic (exp10 mintDecimals.toNat)
    let weighted ← match weight with
      | some weight => orPanic (amount.checkedMul weight)
      | none => .ok amount
    let value ← math (weighted.checkedMul price)
    math (value.checkedDiv scalingFactor)

/-- `maybe_get_asset_weight_init_discount` -/
def Bank.maybeGetAssetWeightInitDiscount (bank : Bank) (price : I80F48) :
    Result (Option I80F48) :=
  if bank.config.usdInitLimitActive then do
    let totalAssets ← bank.getAssetAmount bank.totalAssetShares
    let value ← calcValue totalAssets price bank.getBalanceDecimals none
    let limit := I80F48.ofU64 bank.config.totalAssetValueInitLimit
    if limit < value then
      let discount ← math (limit.checkedDiv value)
      .ok (some discount)
    else .ok none
  else .ok none

/-! ### Emode -/

namespace EmodeEntry

/-- The entry of zeroed memory. -/
def zeroed : EmodeEntry := ⟨0, 0, 0, 0⟩

/-- `is_empty` -/
def isEmpty (entry : EmodeEntry) : Bool := entry.collateralBankEmodeTag == 0

/-- The lesser of each field. -/
def merge (merged entry : EmodeEntry) : EmodeEntry :=
  { merged with
    flags := min merged.flags entry.flags
    assetWeightInit := min merged.assetWeightInit entry.assetWeightInit
    assetWeightMaint := min merged.assetWeightMaint entry.assetWeightMaint }

end EmodeEntry

/-- Merge an entry into a map that is sorted by tag, counting the merges for each tag. -/
def mergeEntry (entry : EmodeEntry) : List (EmodeEntry × ℕ) → List (EmodeEntry × ℕ)
  | [] => [(entry, 1)]
  | (merged, count) :: rest =>
      if entry.collateralBankEmodeTag < merged.collateralBankEmodeTag then
        (entry, 1) :: (merged, count) :: rest
      else if entry.collateralBankEmodeTag = merged.collateralBankEmodeTag then
        (merged.merge entry, count + 1) :: rest
      else (merged, count) :: mergeEntry entry rest

/-- `from_entries`: the entries, padded with zeroed ones. -/
def EmodeConfig.fromEntries (entries : List EmodeEntry) : EmodeConfig :=
  ⟨Vector.ofFn fun i => entries.getD i.val .zeroed⟩

/-- `reconcile_emode_configs`: the entries whose tag occurs in every config. -/
def reconcileEmodeConfigs (configs : List EmodeConfig) : EmodeConfig :=
  let entries := (configs.flatMap fun c => c.entries.toList).filter fun e => !e.isEmpty
  let merged := entries.foldl (fun map entry => mergeEntry entry map) []
  .fromEntries ((merged.filter fun p => p.2 == configs.length).map Prod.fst)

/-- `find_with_tag` -/
def EmodeConfig.findWithTag (config : EmodeConfig) (tag : UInt16) : Option EmodeEntry :=
  if tag = 0 then none
  else config.entries.toList.find? fun e => e.collateralBankEmodeTag == tag

/-! ### Loading -/

/-- `BankAccountWithPriceFeed` -/
structure BankAccountWithPriceFeed where
  bank : Bank
  priceFeed : Except ProgramError PriceFeed
  balance : Balance

/-- `get_remaining_accounts_per_bank` -/
def getRemainingAccountsPerBank (bank : Bank) : Result ℕ :=
  if bank.config.oracleSetup = .fixed then .ok 1
  else if bank.config.assetTag = assetTagDefault ∨ bank.config.assetTag = assetTagSol then .ok 2
  else if isIntegrationAssetTag bank.config.assetTag then .ok 3
  else if bank.config.assetTag = assetTagStaked then .ok 4
  else .error MarginfiError.assetTagMismatch.toError

/-- `BankAccountWithPriceFeed::load` on the active positions and the accounts that are left. -/
def loadBankAccounts (banks : Pubkey → Option Bank)
    (feed : Bank → List Pubkey → Except ProgramError PriceFeed) :
    List Balance → List Pubkey → Result (List BankAccountWithPriceFeed)
  | [], _ => .ok []
  | _ :: _, [] => .error MarginfiError.invalidBankAccount.toError
  | balance :: balances, bankAi :: ais => do
      let bank ← fromOption errWrongOwner (banks bankAi)
      let numAccounts ← getRemainingAccountsPerBank bank
      check (balance.bankPk = bankAi) .invalidBankAccount
      check (numAccounts ≤ ais.length + 1) .wrongNumberOfOracleAccounts
      let rest ← loadBankAccounts banks feed balances (ais.drop (numAccounts - 1))
      .ok (⟨bank, feed bank (ais.take (numAccounts - 1)), balance⟩ :: rest)

/-- `get_active_balances_iter` -/
def LendingAccount.activeBalances (account : LendingAccount) : List Balance :=
  account.balances.filter Balance.isActive

/-- **Without accounts to load from, a load succeeds only when there is nothing to load.** -/
theorem loadBankAccounts_nil {banks : Pubkey → Option Bank}
    {feed : Bank → List Pubkey → Except ProgramError PriceFeed} {balances : List Balance}
    {loaded : List BankAccountWithPriceFeed}
    (h : loadBankAccounts banks feed balances [] = .ok loaded) : balances = [] := by
  cases balances with
  | nil => rfl
  | cons balance balances => cases h

/-! ### Health -/

/-- `RiskEngine` -/
structure RiskEngine where
  bankAccountsWithPrice : List BankAccountWithPriceFeed
  emodeConfig : EmodeConfig

namespace BankAccountWithPriceFeed

/-- `MarginfiError::from(error_code)`: codes that the conversion does not list are internal. -/
def customError : ProgramError → ProgramError
  | .custom code =>
      if (6001 ≤ code ∧ code ≤ 6102) ∨ (6200 ≤ code ∧ code ≤ 6214) ∨
          (6300 ≤ code ∧ code ≤ 6326) ∨ (6400 ≤ code ∧ code ≤ 6416) then .custom code
      else MarginfiError.internalLogicError.toError
  | _ => MarginfiError.internalLogicError.toError

/-- `try_get_price_feed` -/
def tryGetPriceFeed (account : BankAccountWithPriceFeed) : Result PriceFeed :=
  match account.priceFeed with
  | .ok feed => .ok feed
  | .error e => .error (customError e)

/-- The weight of an asset: the bank's own, or that of an emode entry for it if higher. -/
def assetWeight (account : BankAccountWithPriceFeed) (requirementType : RequirementType)
    (emodeConfig : EmodeConfig) : I80F48 :=
  let bankWeight := account.bank.config.getWeight requirementType .assets
  match emodeConfig.findWithTag account.bank.emodeTag, requirementType with
  | none, _ => bankWeight
  | some entry, .initial => max bankWeight entry.assetWeightInit
  | some entry, .maintenance => max bankWeight entry.assetWeightMaint
  | some _, .equity => max bankWeight .one

/-- The asset weight, discounted when the bank holds more than its limit for new loans. -/
def discountedWeight (bank : Bank) (price weight : I80F48) : RequirementType → Result I80F48
  | .initial => do
      match ← bank.maybeGetAssetWeightInitDiscount price with
      | some discount => math (weight.checkedMul discount)
      | none => .ok weight
  | _ => .ok weight

/-- `calc_weighted_asset_value`; an asset without a price is worth nothing for new loans. -/
def calcWeightedAssetValue (account : BankAccountWithPriceFeed)
    (requirementType : RequirementType) (emodeConfig : EmodeConfig) : Result I80F48 :=
  let bank := account.bank
  if bank.config.riskTier = .isolated then .ok 0
  else if bank.config.operationalState = .reduceOnly ∧ requirementType = .initial then .ok 0
  else
    match account.tryGetPriceFeed, requirementType with
    | .error _, .initial => .ok 0
    | .error e, _ => .error e
    | .ok feed, _ => do
        let lowerPrice ← feed.getPriceOfType requirementType.getOraclePriceType .low
          bank.config.oracleMaxConfidence
        let weight ← discountedWeight bank lowerPrice
          (account.assetWeight requirementType emodeConfig) requirementType
        let amount ← bank.getAssetAmount account.balance.assetShares
        calcValue amount lowerPrice bank.getBalanceDecimals (some weight)

/-- `calc_weighted_liab_value` -/
def calcWeightedLiabValue (account : BankAccountWithPriceFeed)
    (requirementType : RequirementType) : Result I80F48 := do
  let bank := account.bank
  let feed ← account.tryGetPriceFeed
  let higherPrice ← feed.getPriceOfType requirementType.getOraclePriceType .high
    bank.config.oracleMaxConfidence
  let amount ← bank.getLiabilityAmount account.balance.liabilityShares
  calcValue amount higherPrice bank.getBalanceDecimals
    (some (bank.config.getWeight requirementType .liabilities))

/-- `calc_weighted_value`: what a position adds to the assets and to the liabilities. -/
def calcWeightedValue (account : BankAccountWithPriceFeed) (requirementType : RequirementType)
    (emodeConfig : EmodeConfig) : Result (I80F48 × I80F48) := do
  match ← account.balance.getSide with
  | some .assets => do
      let value ← account.calcWeightedAssetValue requirementType emodeConfig
      .ok (value, 0)
  | some .liabilities => do
      let value ← account.calcWeightedLiabValue requirementType
      .ok (0, value)
  | none => .ok (0, 0)

end BankAccountWithPriceFeed

namespace RiskEngine

/-- `get_account_health_components` -/
def getAccountHealthComponents (engine : RiskEngine) (requirementType : RequirementType) :
    Result (I80F48 × I80F48) :=
  engine.bankAccountsWithPrice.foldlM
    (fun total account => do
      let value ← account.calcWeightedValue requirementType engine.emodeConfig
      let assets ← math (total.1.checkedAdd value.1)
      let liabilities ← math (total.2.checkedAdd value.2)
      .ok (assets, liabilities))
    (0, 0)

/-- `check_account_risk_tiers`: an isolated debt must be the only one. -/
def checkAccountRiskTiers (engine : RiskEngine) : Result Unit :=
  let debts := engine.bankAccountsWithPrice.filter fun a => !a.balance.isEmpty .liabilities
  let isolated := debts.filter fun a => a.bank.config.riskTier == .isolated
  check (isolated = [] ∨ debts.length = 1) .isolatedAccountIllegalState

/-- `check_account_health` -/
def checkAccountHealth (engine : RiskEngine) (requirementType : RequirementType) :
    Result Unit := do
  let (assets, liabilities) ← engine.getAccountHealthComponents requirementType
  check (liabilities ≤ assets) .riskEngineInitRejected
  engine.checkAccountRiskTiers

/-- `get_unbiased_price_for_bank` -/
def getUnbiasedPriceForBank (engine : RiskEngine) (bankPk : Pubkey) :
    Result OraclePriceWithConfidence := do
  let account ← fromOption MarginfiError.bankAccountNotFound.toError
    (engine.bankAccountsWithPrice.find? fun a => a.balance.bankPk == bankPk)
  let feed ← account.tryGetPriceFeed
  feed.getPriceAndConfidenceOfType .realTime account.bank.config.oracleMaxConfidence

/-- `new_no_flashloan_check` -/
def newNoFlashloanCheck (banks : Pubkey → Option Bank)
    (feed : Bank → List Pubkey → Except ProgramError PriceFeed) (account : MarginfiAccount)
    (remainingAis : List Pubkey) : Result RiskEngine := do
  let loaded ← loadBankAccounts banks feed account.lendingAccount.activeBalances remainingAis
  let debts := loaded.filter fun a => !a.balance.isEmpty .liabilities
  .ok ⟨loaded, reconcileEmodeConfigs (debts.map fun a => a.bank.emodeConfig)⟩

/-- `check_account_init_health`: skipped inside a flash loan. -/
def checkAccountInitHealth (banks : Pubkey → Option Bank)
    (feed : Bank → List Pubkey → Except ProgramError PriceFeed) (account : MarginfiAccount)
    (remainingAis : List Pubkey) : Result (Option RiskEngine) :=
  if account.getFlag accountInFlashloanFlag then .ok none
  else do
    let engine ← newNoFlashloanCheck banks feed account remainingAis
    engine.checkAccountHealth .initial
    .ok (some engine)

/-- Outside a flash loan, the health check without remaining accounts passes exactly for
accounts without active positions. -/
theorem checkAccountInitHealth_nil {banks : Pubkey → Option Bank}
    {feed : Bank → List Pubkey → Except ProgramError PriceFeed} {account : MarginfiAccount}
    (hflag : account.getFlag accountInFlashloanFlag = false) :
    (∃ engine, checkAccountInitHealth banks feed account [] = .ok engine) ↔
      account.lendingAccount.activeBalances = [] := by
  unfold checkAccountInitHealth
  rw [hflag]
  constructor
  · rintro ⟨engine, h⟩
    obtain ⟨e, hnew, -⟩ := bind_eq_ok.mp h
    obtain ⟨loaded, hload, -⟩ := bind_eq_ok.mp hnew
    exact loadBankAccounts_nil hload
  · intro hnone
    refine ⟨some ⟨[], reconcileEmodeConfigs []⟩, ?_⟩
    simp [newNoFlashloanCheck, hnone, loadBankAccounts, checkAccountHealth,
      getAccountHealthComponents, checkAccountRiskTiers, check, ensure]

end RiskEngine

end Marginfi
