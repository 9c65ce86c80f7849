import FlashLoanBot.Marginfi.Deposits

/-!
# marginfi: the life of a user account

The instructions that open a user account, move it to another address, freeze it and close it.

* `SystemEnv`: what the system program and the framework do for them;
* `marginfiAccountInitialize`, `transferToNewAccount`, `setAccountFreeze`, `closeAccount`: the
  handlers.
-/

namespace Marginfi

open Solana Checked

/-! ### The system program -/

/-- The environment, with the system program. -/
structure SystemEnv (τ : Type) extends VaultEnv τ where
  /-- `init`: the payer, the new account -/
  createAccount : Pubkey → Pubkey → τ → Result τ
  /-- `system_program::transfer`: the payer, the receiver, the lamports -/
  transferLamports : Pubkey → Pubkey → UInt64 → τ → Result τ
  /-- `close`: the account, the receiver -/
  closeAccount : Pubkey → Pubkey → τ → Result τ

/-- `transfer_flat_fee`, when there is a fee. -/
def SystemEnv.transferFlatFee {τ : Type} (env : SystemEnv τ) (payer receiver : Pubkey)
    (fee : UInt32) (rest : τ) : Result τ :=
  if 0 < fee then env.transferLamports payer receiver fee.toUInt64 rest else .ok rest

/-- `ACCOUNT_TRANSFER_FEE` -/
def accountTransferFee : UInt64 := 5000000

/-! ### Accounts -/

/-- `MarginfiAccountInitialize` -/
structure MarginfiAccountInitialize where
  marginfiGroup : Pubkey
  marginfiAccount : Pubkey
  authority : Pubkey
  feePayer : Pubkey
  deriving DecidableEq

/-- `TransferToNewAccount` -/
structure TransferToNewAccount where
  group : Pubkey
  oldMarginfiAccount : Pubkey
  newMarginfiAccount : Pubkey
  authority : Pubkey
  feePayer : Pubkey
  newAuthority : Pubkey
  globalFeeWallet : Pubkey
  deriving DecidableEq

/-- `SetAccountFreeze` -/
structure SetAccountFreeze where
  group : Pubkey
  marginfiAccount : Pubkey
  admin : Pubkey
  deriving DecidableEq

/-- `MarginfiAccountClose` -/
structure MarginfiAccountClose where
  marginfiAccount : Pubkey
  authority : Pubkey
  feePayer : Pubkey
  deriving DecidableEq

namespace LendingAccount

theorem length_emptyBalances : (List.replicate 16 Balance.emptyDeactivated).length = 16 := rfl

/-- `LendingAccount::zeroed` -/
def zeroed : LendingAccount := ⟨List.replicate 16 .emptyDeactivated, length_emptyBalances⟩

/-- No position is counted as one on either side. -/
def hasOnlyEmptyBalances (account : LendingAccount) : Result Bool :=
  account.balances.foldlM
    (fun all balance => do
      -- `all` stops at the first position that is not empty
      if all then
        let side ← balance.getSide
        .ok (side = none)
      else .ok false) true

end LendingAccount

namespace MarginfiAccount

/-- `initialize`, on a zeroed account. -/
def initialized (group authority : Pubkey) (currentTimestamp : UInt64) : MarginfiAccount where
  group := group
  authority := authority
  lendingAccount := .zeroed
  accountFlags := 0
  lastUpdate := currentTimestamp

/-- `can_be_closed` -/
def canBeClosed (account : MarginfiAccount) : Result Bool := do
  let onlyHasEmptyBalances ← account.lendingAccount.hasOnlyEmptyBalances
  .ok (!account.getFlag accountDisabledFlag && onlyHasEmptyBalances &&
    !account.getFlag accountInFlashloanFlag && !account.getFlag accountInReceivershipFlag)

end MarginfiAccount

/-! ### The handlers -/

section Handlers

variable {τ : Type} (env : SystemEnv τ)

/-- The address holds no account of the program yet. -/
def Ledger.Unused (s : Ledger τ) (key : Pubkey) : Prop :=
  s.marginfiAccounts key = none ∧ s.banks key = none ∧ s.groups key = none

instance (s : Ledger τ) (key : Pubkey) : Decidable (s.Unused key) :=
  inferInstanceAs (Decidable (_ ∧ _ ∧ _))

/-- `init`: an account is created at an address that is not in use. -/
def initAccount (s : Ledger τ) (payer key : Pubkey) : Result τ := do
  ensure (s.Unused key) .refused
  env.createAccount payer key s.rest

/-- A new user account is written; it has not moved, and has no liquidation record. -/
def Market.addAccount (s : Market τ) (key : Pubkey) (account : MarginfiAccount) (rest : τ) :
    Market τ :=
  { s with
    toLedger := { s.setAccount key account with rest := rest }
    migratedTo := Function.update s.migratedTo key 0
    liquidationRecord := Function.update s.liquidationRecord key 0 }

/-- `initialize_account` -/
def marginfiAccountInitialize (ctx : MarginfiAccountInitialize) (s : Market τ) :
    Result (Market τ) := do
  let _ ← s.loadGroup ctx.marginfiGroup
  let rest ← initAccount env s.toLedger ctx.feePayer ctx.marginfiAccount
  .ok (s.addAccount ctx.marginfiAccount (.initialized ctx.marginfiGroup ctx.authority
    env.clock.unixTimestamp.toUInt64) rest)

/-- The constraints on the account that is moved. -/
def checkTransferConstraints (ctx : TransferToNewAccount) (group : MarginfiGroup)
    (oldAccount : MarginfiAccount) : Result Unit := do
  let paused ← group.isProtocolPaused env.clock
  check (paused = false) .protocolPaused
  check (oldAccount.group = ctx.group) .invalidGroup
  check (accountNotFrozenForAuthority oldAccount ctx.authority = true) .accountFrozen
  check (isSignerAuthorized oldAccount group.admin ctx.authority false = true) .unauthorized

/-- The account that takes over, and what is left of the old one. -/
def moveAccount (oldAccount : MarginfiAccount) (newAuthority : Pubkey) (currentTimestamp : UInt64) :
    MarginfiAccount × MarginfiAccount :=
  ({ MarginfiAccount.initialized oldAccount.group newAuthority currentTimestamp with
      lendingAccount := oldAccount.lendingAccount
      accountFlags := oldAccount.accountFlags },
    { oldAccount.setFlag accountDisabledFlag with
      lendingAccount := .zeroed
      lastUpdate := currentTimestamp })

/-- `transfer_to_new_account` -/
def transferToNewAccount (ctx : TransferToNewAccount) (s : Market τ) : Result (Market τ) := do
  let group ← s.loadGroup ctx.group
  let oldAccount ← s.loadAccount ctx.oldMarginfiAccount
  checkTransferConstraints env ctx group oldAccount
  let rest ← initAccount env s.toLedger ctx.feePayer ctx.newMarginfiAccount
  checkLending (ctx.globalFeeWallet = s.globalFeeWallet ctx.group) .invalidFeeAta
  let rest ← env.transferLamports ctx.feePayer ctx.globalFeeWallet accountTransferFee rest
  checkLending (oldAccount.getFlag accountInFlashloanFlag = false) .accountInFlashloan
  check (oldAccount.getFlag accountInReceivershipFlag = false) .forbiddenIx
  checkLending (s.migratedTo ctx.oldMarginfiAccount = 0) .accountAlreadyMigrated
  let (newAccount, oldAccount) :=
    moveAccount oldAccount ctx.newAuthority env.clock.unixTimestamp.toUInt64
  let s := s.addAccount ctx.newMarginfiAccount newAccount rest
  .ok { s with
    toLedger := s.setAccount ctx.oldMarginfiAccount oldAccount
    migratedTo := Function.update s.migratedTo ctx.oldMarginfiAccount ctx.newMarginfiAccount }

/-- `set_account_freeze` -/
def setAccountFreeze (ctx : SetAccountFreeze) (frozen : Bool) (s : Ledger τ) :
    Result (Ledger τ) := do
  let group ← s.loadGroup ctx.group
  let account ← s.loadAccount ctx.marginfiAccount
  check (account.group = ctx.group) .invalidGroup
  check (group.admin = ctx.admin) .unauthorized
  let account :=
    if frozen then account.setFlag accountFrozenFlag else account.unsetFlag accountFrozenFlag
  .ok (s.setAccount ctx.marginfiAccount
    { account with lastUpdate := env.clock.unixTimestamp.toUInt64 })

/-- `close_account` -/
def closeAccount (ctx : MarginfiAccountClose) (s : Ledger τ) : Result (Ledger τ) := do
  let account ← s.loadAccount ctx.marginfiAccount
  check (account.authority = ctx.authority) .unauthorized
  check (account.getFlag accountFrozenFlag = false) .accountFrozen
  let canBeClosed ← account.canBeClosed
  checkLending (canBeClosed = true) .illegalAction
  let rest ← env.closeAccount ctx.marginfiAccount ctx.feePayer s.rest
  .ok { s with
    marginfiAccounts := Function.update s.marginfiAccounts ctx.marginfiAccount none
    rest := rest }

end Handlers

end Marginfi
