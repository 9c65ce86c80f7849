import FlashLoanBot.Marginfi.Bank

/-!
# marginfi: user accounts

The positions of a user account and the two ways in which an instruction moves one.

* `Balance`, `LendingAccount`, `MarginfiAccount`: flags, sides, slots, sorting;
* `BankAccountWrapper`: a position together with its bank, found in a slot (`find`), found or
  opened in one (`findOrCreate`), and stored back (`LendingAccount.store`);
* `increaseBalanceInternal`, `decreaseBalanceInternal`, `repayAll`: the accounting;
* frame lemmas: which of these keep the slot's activity and bank.
-/

namespace Marginfi

open Solana Checked

/-! ### Accounts -/

namespace MarginfiAccount

/-- `get_flag`: some bit of the flag is set. -/
def getFlag (account : MarginfiAccount) (flag : UInt64) : Bool := account.accountFlags &&& flag != 0

/-- `set_flag` -/
def setFlag (account : MarginfiAccount) (flag : UInt64) : MarginfiAccount :=
  { account with accountFlags := account.accountFlags ||| flag }

/-- `unset_flag` -/
def unsetFlag (account : MarginfiAccount) (flag : UInt64) : MarginfiAccount :=
  { account with accountFlags := account.accountFlags &&& ~~~flag }

@[simp] theorem setFlag_lendingAccount (account : MarginfiAccount) (flag : UInt64) :
    (account.setFlag flag).lendingAccount = account.lendingAccount := rfl

@[simp] theorem unsetFlag_lendingAccount (account : MarginfiAccount) (flag : UInt64) :
    (account.unsetFlag flag).lendingAccount = account.lendingAccount := rfl

theorem getFlag_setFlag (account : MarginfiAccount) {flag : UInt64} (hflag : flag ≠ 0) :
    (account.setFlag flag).getFlag flag = true := by
  have hand : (account.accountFlags ||| flag) &&& flag = flag := by
    apply UInt64.toBitVec_inj.mp
    ext i hi
    simp +contextual
  simp [getFlag, setFlag, hand, hflag]

@[simp] theorem getFlag_unsetFlag (account : MarginfiAccount) (flag : UInt64) :
    (account.unsetFlag flag).getFlag flag = false := by
  have hand : account.accountFlags &&& ~~~flag &&& flag = 0 := by
    rw [UInt64.and_assoc, UInt64.not_and_self, UInt64.and_zero]
  simp [getFlag, unsetFlag, hand]

theorem bit_of_disjoint {a b : UInt64} (h : a &&& b = 0) {i : ℕ} (hi : i < 64) :
    (a.toBitVec[i] && b.toBitVec[i]) = false := by
  have hbit := congrArg (fun x : UInt64 => x.toBitVec[i]) h
  simpa using hbit

theorem or_and_of_disjoint (x : UInt64) {a b : UInt64} (h : a &&& b = 0) :
    (x ||| a) &&& b = x &&& b := by
  apply UInt64.toBitVec_inj.mp
  ext i hi
  simp [Bool.and_or_distrib_right, bit_of_disjoint h hi]

theorem and_not_and_of_disjoint (x : UInt64) {a b : UInt64} (h : a &&& b = 0) :
    x &&& ~~~a &&& b = x &&& b := by
  apply UInt64.toBitVec_inj.mp
  ext i hi
  have hbit := bit_of_disjoint h hi
  simp only [UInt64.toBitVec_and, UInt64.toBitVec_not, BitVec.getElem_and, BitVec.getElem_not]
  grind

/-- Setting a flag leaves the others as they are. -/
theorem getFlag_setFlag_of_disjoint (account : MarginfiAccount) {flag other : UInt64}
    (h : flag &&& other = 0) : (account.setFlag flag).getFlag other = account.getFlag other := by
  simp [getFlag, setFlag, or_and_of_disjoint _ h]

/-- So does unsetting it. -/
theorem getFlag_unsetFlag_of_disjoint (account : MarginfiAccount) {flag other : UInt64}
    (h : flag &&& other = 0) : (account.unsetFlag flag).getFlag other = account.getFlag other := by
  simp [getFlag, unsetFlag, and_not_and_of_disjoint _ h]

/-- The account is in a flash loan. -/
def inFlashloan (account : MarginfiAccount) : Bool := account.getFlag accountInFlashloanFlag

/-- Whether an account is in a flash loan depends on its flags only. -/
theorem inFlashloan_of_flags {account account' : MarginfiAccount}
    (h : account'.accountFlags = account.accountFlags) :
    account'.inFlashloan = account.inFlashloan := by
  simp [inFlashloan, getFlag, h]

end MarginfiAccount

/-! ### Balances -/

namespace Balance

/-- `is_active` -/
def isActive (balance : Balance) : Bool := balance.active != 0

/-- The shares on one side of a position. -/
def shares (balance : Balance) : BalanceSide → I80F48
  | .assets => balance.assetShares
  | .liabilities => balance.liabilityShares

/-- `is_empty` -/
def isEmpty (balance : Balance) (side : BalanceSide) : Bool :=
  balance.shares side < emptyBalanceThreshold

/-- `get_side`; a position with shares on both sides aborts. -/
def getSide (balance : Balance) : Result (Option BalanceSide) := do
  ensure (balance.isEmpty .assets ∨ balance.isEmpty .liabilities) .panicked
  if ¬balance.isEmpty .liabilities then .ok (some .liabilities)
  else if ¬balance.isEmpty .assets then .ok (some .assets)
  else .ok none

/-- `empty_deactivated` -/
def emptyDeactivated : Balance := ⟨0, 0, assetTagDefault, 0, 0, 0, 0⟩

/-- A position just opened in a bank. -/
def opened (bankPk : Pubkey) (bank : Bank) (clock : Clock) : Balance :=
  ⟨1, bankPk, bank.config.assetTag, 0, 0, 0, clock.unixTimestamp.toUInt64⟩

/-- `change_asset_shares` -/
def changeAssetShares (balance : Balance) (delta : I80F48) : Result Balance := do
  let total ← math (balance.assetShares.checkedAdd delta)
  .ok { balance with assetShares := total }

/-- `change_liability_shares` -/
def changeLiabilityShares (balance : Balance) (delta : I80F48) : Result Balance := do
  let total ← math (balance.liabilityShares.checkedAdd delta)
  .ok { balance with liabilityShares := total }

/-- `close` -/
def close (balance : Balance) (checkEmissions : Bool) : Result Balance := do
  if checkEmissions then
    check (balance.emissionsOutstanding < .one) .cannotCloseOutstandingEmissions
  .ok emptyDeactivated

/-- Two values of one slot that hold a position in the same bank. -/
def SameSlot (b c : Balance) : Prop := b.isActive = c.isActive ∧ b.bankPk = c.bankPk

end Balance

namespace LendingAccount

/-- The slot of the active position in a bank. -/
def position? (account : LendingAccount) (bankPk : Pubkey) : Option ℕ :=
  account.balances.findIdx? fun b => b.isActive && b.bankPk == bankPk

/-- `get_first_empty_balance` -/
def getFirstEmptyBalance (account : LendingAccount) : Option ℕ :=
  account.balances.findIdx? fun b => !b.isActive

/-- Write a slot. -/
def set (account : LendingAccount) (slot : ℕ) (balance : Balance) : LendingAccount :=
  ⟨account.balances.set slot balance, by rw [List.length_set, account.length_eq]⟩

/-- `sort_balances`: descending by bank, in a stable way. -/
def sortBalances (account : LendingAccount) : LendingAccount :=
  ⟨account.balances.insertionSort fun a b => b.bankPk ≤ a.bankPk, by
    rw [List.length_insertionSort, account.length_eq]⟩

end LendingAccount

/-! ### Positions with their banks -/

/-- `BankAccountWrapper`: a position taken from a slot, and its bank. -/
structure BankAccountWrapper where
  slot : ℕ
  balance : Balance
  bank : Bank

/-- Write a position back into its slot. -/
def LendingAccount.store (account : LendingAccount) (w : BankAccountWrapper) : LendingAccount :=
  account.set w.slot w.balance

namespace BankAccountWrapper

/-- `find` -/
def find (bankPk : Pubkey) (bank : Bank) (account : LendingAccount) :
    Result BankAccountWrapper := do
  let slot ← fromOption MarginfiError.bankAccountNotFound.toError (account.position? bankPk)
  let balance ← orPanic account.balances[slot]?
  .ok ⟨slot, balance, bank⟩

/-- `MAX_INTEGRATION_POSITIONS` -/
def maxIntegrationPositions : ℕ := 8

/-- A position in an integration bank is opened only below the limit on such positions. -/
def checkIntegrationLimit (bank : Bank) (account : LendingAccount) : Result Unit :=
  if isIntegrationAssetTag bank.config.assetTag then
    check (account.balances.countP (fun b => b.isActive && isIntegrationAssetTag b.bankAssetTag)
      < maxIntegrationPositions) .integrationPositionLimitExceeded
  else .ok ()

/-- `find_or_create` -/
def findOrCreate (bankPk : Pubkey) (bank : Bank) (account : LendingAccount) (clock : Clock) :
    Result BankAccountWrapper :=
  match account.position? bankPk with
  | some slot => do
      let balance ← fromOption MarginfiError.bankAccountNotFound.toError account.balances[slot]?
      .ok ⟨slot, balance, bank⟩
  | none => do
      checkIntegrationLimit bank account
      let slot ← fromOption MarginfiError.lendingAccountBalanceSlotsFull.toError
        account.getFirstEmptyBalance
      .ok ⟨slot, .opened bankPk bank clock, bank⟩

/-! ### Emissions -/

/-- `calc_emissions` -/
def calcEmissions (period balanceAmount : I80F48) (mintDecimals : ℕ) (emissionsRate : I80F48) :
    Result I80F48 := do
  let exponent ← orPanic (exp10 mintDecimals)
  let balanceAmountUi ← math (balanceAmount.checkedDiv exponent)
  let product ← math (period.checkedMul balanceAmountUi)
  let perYear ← math (product.checkedDiv secondsPerYear)
  math (perYear.checkedMul emissionsRate)

/-- The amount on which emissions are due, for a position on a side that earns them. -/
def emissionsAmount (w : BankAccountWrapper) : Result (Option I80F48) := do
  match ← w.balance.getSide with
  | some .assets =>
      if w.bank.getFlag emissionsFlagLendingActive then
        let amount ← w.bank.getAssetAmount w.balance.assetShares
        .ok (some amount)
      else .ok none
  | some .liabilities =>
      if w.bank.getFlag emissionsFlagBorrowActive then
        let amount ← w.bank.getLiabilityAmount w.balance.liabilityShares
        .ok (some amount)
      else .ok none
  | none => .ok none

/-- Add the emissions due on an amount since the position's last update. -/
def addEmissions (w : BankAccountWrapper) (currentTimestamp : UInt64) (amount : I80F48) :
    Result BankAccountWrapper := do
  let lastUpdate :=
    if w.balance.lastUpdate < minEmissionsStartTime then currentTimestamp
    else w.balance.lastUpdate
  let period ← math (checkedSub currentTimestamp lastUpdate)
  let emissions ← calcEmissions (I80F48.ofU64 period) amount w.bank.getBalanceDecimals.toNat
    (I80F48.ofU64 w.bank.emissionsRate)
  let emissionsReal := min emissions w.bank.emissionsRemaining
  let outstanding ← math (w.balance.emissionsOutstanding.checkedAdd emissionsReal)
  let remaining ← math (w.bank.emissionsRemaining.checkedSub emissionsReal)
  .ok { w with
    balance := { w.balance with emissionsOutstanding := outstanding }
    bank := { w.bank with emissionsRemaining := remaining } }

/-- Add the emissions due, if the position earns any. -/
def settleEmissions (w : BankAccountWrapper) (currentTimestamp : UInt64) :
    Option I80F48 → Result BankAccountWrapper
  | some amount => w.addEmissions currentTimestamp amount
  | none => .ok w

/-- `claim_emissions` -/
def claimEmissions (w : BankAccountWrapper) (currentTimestamp : UInt64) :
    Result BankAccountWrapper := do
  let amount ← w.emissionsAmount
  let w ← w.settleEmissions currentTimestamp amount
  .ok { w with balance := { w.balance with lastUpdate := currentTimestamp } }

/-! ### Accounting -/

/-- `BalanceIncreaseType` -/
inductive BalanceIncreaseType
  | any
  | repayOnly
  | depositOnly
  | bypassDepositLimit
  deriving DecidableEq

/-- `BalanceDecreaseType` -/
inductive BalanceDecreaseType
  | withdrawOnly
  | borrowOnly
  | bypassBorrowLimit
  deriving DecidableEq

/-- The position has more than a rounding error on the asset side. -/
def hasAssets (balance : Balance) : Bool :=
  balance.assetShares.IsPositiveWithTolerance zeroAmountThreshold

/-- The position has more than a rounding error on the liability side. -/
def hasLiabs (balance : Balance) : Bool :=
  balance.liabilityShares.IsPositiveWithTolerance zeroAmountThreshold

/-- The bank's position counts, adjusted for a position that changed from one value to
another. -/
def updatePositionCounts (bank : Bank) (before after : Balance) : Bank :=
  let bank := if ¬hasAssets before ∧ hasAssets after then bank.incrementLendingPositionCount
    else bank
  let bank := if hasAssets before ∧ ¬hasAssets after then bank.decrementLendingPositionCount
    else bank
  let bank := if ¬hasLiabs before ∧ hasLiabs after then bank.incrementBorrowingPositionCount
    else bank
  if hasLiabs before ∧ ¬hasLiabs after then bank.decrementBorrowingPositionCount else bank

/-- An amount that an operation must not have, up to a rounding error. -/
def checkZero (amount : I80F48) (e : MarginfiError) : Result Unit := do
  let isZero ← isZeroWithTolerance amount zeroAmountThreshold
  check (isZero = true) e

/-- What an increase may do, given how it splits into repaid debt and new deposit. -/
def BalanceIncreaseType.check (liabilityAmountDecrease assetAmountIncrease : I80F48) :
    BalanceIncreaseType → Result Unit
  | repayOnly => checkZero assetAmountIncrease .operationRepayOnly
  | depositOnly => checkZero liabilityAmountDecrease .operationDepositOnly
  | _ => .ok ()

/-- What a decrease may do, given how it splits into withdrawn deposit and new debt. -/
def BalanceDecreaseType.check (assetAmountDecrease liabilityAmountIncrease : I80F48) :
    BalanceDecreaseType → Result Unit
  | withdrawOnly => checkZero liabilityAmountIncrease .operationWithdrawOnly
  | borrowOnly => checkZero assetAmountDecrease .operationBorrowOnly
  | bypassBorrowLimit => .ok ()

/-- The utilization check after a decrease, which only liquidation may skip. -/
def BalanceDecreaseType.checkUtilization (bank : Bank) : BalanceDecreaseType → Result Unit
  | bypassBorrowLimit => .ok ()
  | _ => bank.checkUtilizationRatio

/-- `increase_balance_internal` -/
def increaseBalanceInternal (w : BankAccountWrapper) (balanceDelta : I80F48)
    (operationType : BalanceIncreaseType) (clock : Clock) : Result BankAccountWrapper := do
  let w ← w.claimEmissions clock.unixTimestamp.toUInt64
  let currentLiabilityAmount ← w.bank.getLiabilityAmount w.balance.liabilityShares
  let liabilityAmountDecrease := min currentLiabilityAmount balanceDelta
  let excess ← math (balanceDelta.checkedSub currentLiabilityAmount)
  let assetAmountIncrease := max excess 0
  operationType.check liabilityAmountDecrease assetAmountIncrease
  let assetSharesIncrease ← w.bank.getAssetShares assetAmountIncrease
  let balance ← w.balance.changeAssetShares assetSharesIncrease
  let bank ← w.bank.changeAssetShares assetSharesIncrease
    (operationType = .bypassDepositLimit)
  let liabilitySharesDecrease ← bank.getLiabilityShares liabilityAmountDecrease
  let delta ← orPanic liabilitySharesDecrease.checkedNeg
  let balance ← balance.changeLiabilityShares delta
  let bank ← bank.changeLiabilityShares delta true
  .ok { w with balance := balance, bank := updatePositionCounts bank w.balance balance }

/-- `decrease_balance_internal` -/
def decreaseBalanceInternal (w : BankAccountWrapper) (balanceDelta : I80F48)
    (operationType : BalanceDecreaseType) (clock : Clock) : Result BankAccountWrapper := do
  let w ← w.claimEmissions clock.unixTimestamp.toUInt64
  let currentAssetAmount ← w.bank.getAssetAmount w.balance.assetShares
  let assetAmountDecrease := min currentAssetAmount balanceDelta
  let excess ← math (balanceDelta.checkedSub currentAssetAmount)
  let liabilityAmountIncrease := max excess 0
  operationType.check assetAmountDecrease liabilityAmountIncrease
  let assetSharesDecrease ← w.bank.getAssetShares assetAmountDecrease
  let delta ← orPanic assetSharesDecrease.checkedNeg
  let balance ← w.balance.changeAssetShares delta
  let bank ← w.bank.changeAssetShares delta false
  let liabilitySharesIncrease ← bank.getLiabilityShares liabilityAmountIncrease
  let balance ← balance.changeLiabilityShares liabilitySharesIncrease
  let bank ← bank.changeLiabilityShares liabilitySharesIncrease
    (operationType = .bypassBorrowLimit)
  operationType.checkUtilization bank
  .ok { w with balance := balance, bank := updatePositionCounts bank w.balance balance }

/-- `repay` -/
def repay (w : BankAccountWrapper) (amount : I80F48) (clock : Clock) :
    Result BankAccountWrapper :=
  w.increaseBalanceInternal amount .repayOnly clock

/-- `borrow` -/
def borrow (w : BankAccountWrapper) (amount : I80F48) (clock : Clock) :
    Result BankAccountWrapper :=
  w.decreaseBalanceInternal amount .borrowOnly clock

/-- `repay_all`: the position is closed, and its debt, rounded up, is to be paid. -/
def repayAll (w : BankAccountWrapper) (clock : Clock) :
    Result (BankAccountWrapper × UInt64) := do
  let w ← w.claimEmissions clock.unixTimestamp.toUInt64
  let totalLiabilityShares := w.balance.liabilityShares
  let currentLiabilityAmount ← w.bank.getLiabilityAmount totalLiabilityShares
  let currentAssetAmount ← w.bank.getAssetAmount w.balance.assetShares
  check (currentLiabilityAmount.IsPositiveWithTolerance zeroAmountThreshold) .noLiabilityFound
  checkZero currentAssetAmount .noLiabilityFound
  let balance ← w.balance.close true
  let bank := w.bank.decrementBorrowingPositionCount
  let delta ← orPanic totalLiabilityShares.checkedNeg
  let bank ← bank.changeLiabilityShares delta false
  let splDepositAmount ← math currentLiabilityAmount.checkedCeil
  let rounding ← math (splDepositAmount.checkedSub currentLiabilityAmount)
  let fees ← math (rounding.checkedAdd bank.collectedInsuranceFeesOutstanding)
  let amount ← math (I80F48.toU64? splDepositAmount)
  .ok ({ w with
      balance := balance, bank := { bank with collectedInsuranceFeesOutstanding := fees } },
    amount)

end BankAccountWrapper

/-! ### What the accounting leaves alone -/

namespace Balance

theorem SameSlot.refl (b : Balance) : b.SameSlot b := ⟨rfl, rfl⟩

theorem SameSlot.trans {b c d : Balance} (hbc : b.SameSlot c) (hcd : c.SameSlot d) :
    b.SameSlot d :=
  ⟨hbc.1.trans hcd.1, hbc.2.trans hcd.2⟩

theorem changeAssetShares_sameSlot {b c : Balance} {delta : I80F48}
    (h : b.changeAssetShares delta = .ok c) : b.SameSlot c := by
  obtain ⟨_, -, h⟩ := bind_eq_ok.mp h
  cases h
  exact ⟨rfl, rfl⟩

theorem changeLiabilityShares_sameSlot {b c : Balance} {delta : I80F48}
    (h : b.changeLiabilityShares delta = .ok c) : b.SameSlot c := by
  obtain ⟨_, -, h⟩ := bind_eq_ok.mp h
  cases h
  exact ⟨rfl, rfl⟩

theorem close_eq_ok {b c : Balance} {checkEmissions : Bool} (h : b.close checkEmissions = .ok c) :
    c = emptyDeactivated := by
  cases checkEmissions with
  | false => cases h; rfl
  | true =>
    obtain ⟨_, -, h⟩ := bind_eq_ok.mp h
    cases h
    rfl

end Balance

namespace BankAccountWrapper

/-- The same slot, with a position in the same bank. -/
def Keeps (w w' : BankAccountWrapper) : Prop :=
  w'.slot = w.slot ∧ w.balance.SameSlot w'.balance

theorem Keeps.trans {w w' w'' : BankAccountWrapper} (h : w.Keeps w') (h' : w'.Keeps w'') :
    w.Keeps w'' :=
  ⟨h'.1.trans h.1, h.2.trans h'.2⟩

theorem addEmissions_keeps {w w' : BankAccountWrapper} {now : UInt64} {amount : I80F48}
    (h : w.addEmissions now amount = .ok w') : w.Keeps w' := by
  simp only [addEmissions, bind_eq_ok] at h
  obtain ⟨_, -, _, -, _, -, _, -, h⟩ := h
  cases h
  exact ⟨rfl, rfl, rfl⟩

theorem claimEmissions_keeps {w w' : BankAccountWrapper} {now : UInt64}
    (h : w.claimEmissions now = .ok w') : w.Keeps w' := by
  simp only [claimEmissions, bind_eq_ok] at h
  obtain ⟨amount, -, v, hsettle, h⟩ := h
  cases h
  cases amount with
  | none => cases hsettle; exact ⟨rfl, rfl, rfl⟩
  | some amount =>
    have hkeep : w.Keeps v := addEmissions_keeps hsettle
    exact hkeep

theorem increaseBalanceInternal_keeps {w w' : BankAccountWrapper} {delta : I80F48}
    {op : BalanceIncreaseType} {clock : Clock}
    (h : w.increaseBalanceInternal delta op clock = .ok w') : w.Keeps w' := by
  simp only [increaseBalanceInternal, bind_eq_ok] at h
  obtain ⟨v, hclaim, _, -, _, -, _, -, _, -, b, hassets, _, -, _, -, _, -, c, hliabs, _, -, h⟩ := h
  cases h
  have hkeep : v.balance.SameSlot c :=
    (Balance.changeAssetShares_sameSlot hassets).trans
      (Balance.changeLiabilityShares_sameSlot hliabs)
  exact (claimEmissions_keeps hclaim).trans ⟨rfl, hkeep⟩

theorem decreaseBalanceInternal_keeps {w w' : BankAccountWrapper} {delta : I80F48}
    {op : BalanceDecreaseType} {clock : Clock}
    (h : w.decreaseBalanceInternal delta op clock = .ok w') : w.Keeps w' := by
  simp only [decreaseBalanceInternal, bind_eq_ok] at h
  obtain ⟨v, hclaim, _, -, _, -, _, -, _, -, _, -, b, hassets, _, -, _, -, c, hliabs, _, -, _, -,
    h⟩ := h
  cases h
  have hkeep : v.balance.SameSlot c :=
    (Balance.changeAssetShares_sameSlot hassets).trans
      (Balance.changeLiabilityShares_sameSlot hliabs)
  exact (claimEmissions_keeps hclaim).trans ⟨rfl, hkeep⟩

/-- Repaying all closes the position. -/
theorem repayAll_closes {w w' : BankAccountWrapper} {clock : Clock} {amount : UInt64}
    (h : w.repayAll clock = .ok (w', amount)) :
    w'.slot = w.slot ∧ w'.balance = .emptyDeactivated := by
  simp only [repayAll, bind_eq_ok] at h
  obtain ⟨v, hclaim, _, -, _, -, _, -, _, -, b, hclose, _, -, _, -, _, -, _, -, _, -, _, -, h⟩ := h
  cases h
  exact ⟨(claimEmissions_keeps hclaim).1, Balance.close_eq_ok hclose⟩

end BankAccountWrapper

end Marginfi
