import FlashLoanBot.Marginfi.Operations

/-!
# marginfi: who is in a flash loan

The start of a flash loan sets a flag of the account, and the end clears it.  No other instruction
touches the flag: most of them only write what they change, and those that would take the account
away refuse it while the flag is set.

* `InFlashloan`: an account whose flag is set;
* `SameLoans`: the flags are as they were;
* `Operation.name`, `Executes`: an instruction by its name;
* `Operation.sameLoans`: what is neither a start nor an end leaves the flags alone.
-/

namespace Marginfi

open Solana Checked

section Loans

variable {τ : Type}

/-- The account is in a flash loan. -/
def InFlashloan (s : Ledger τ) (key : Pubkey) : Prop :=
  ∃ account, s.marginfiAccounts key = some account ∧
    account.getFlag accountInFlashloanFlag = true

/-- The same accounts are in flash loans. -/
def SameLoans (s t : Ledger τ) : Prop := ∀ key, InFlashloan t key ↔ InFlashloan s key

variable {s t u : Ledger τ} {key : Pubkey} {account account' : MarginfiAccount}

theorem SameLoans.trans (h : SameLoans s t) (h' : SameLoans t u) : SameLoans s u :=
  fun key => (h' key).trans (h key)

theorem inFlashloan_iff :
    InFlashloan s key ↔ (s.marginfiAccounts key).any MarginfiAccount.inFlashloan = true := by
  unfold InFlashloan
  cases s.marginfiAccounts key <;> simp [MarginfiAccount.inFlashloan]

theorem inFlashloan_setAccount (other : Pubkey) : InFlashloan (s.setAccount key account) other ↔
    if other = key then account.getFlag accountInFlashloanFlag = true else InFlashloan s other := by
  by_cases hkey : other = key
  · subst hkey
    simp [InFlashloan]
  · simp [InFlashloan, hkey]

/-! ### One account is written -/

theorem sameLoans_of_accounts (h : t.marginfiAccounts = s.marginfiAccounts) : SameLoans s t := by
  intro key
  rw [inFlashloan_iff, inFlashloan_iff, h]

/-- An address is written, and the account there is in a flash loan if one was before. -/
theorem sameLoans_of_update {entry : Option MarginfiAccount}
    (hflag : entry.any MarginfiAccount.inFlashloan =
      (s.marginfiAccounts key).any MarginfiAccount.inFlashloan)
    (ht : t.marginfiAccounts = Function.update s.marginfiAccounts key entry) : SameLoans s t := by
  intro other
  rw [inFlashloan_iff, inFlashloan_iff, ht]
  by_cases hkey : other = key
  · subst hkey
    rw [Function.update_self, hflag]
  · rw [Function.update_of_ne hkey]

/-- An account is changed, but not its flag. -/
theorem sameLoans_of_write (hs : s.marginfiAccounts key = some account)
    (hflag : account'.inFlashloan = account.inFlashloan)
    (ht : t.marginfiAccounts = Function.update s.marginfiAccounts key (some account')) :
    SameLoans s t := by
  refine sameLoans_of_update ?_ ht
  rw [hs]
  exact hflag

/-- A new account is not in a flash loan. -/
theorem sameLoans_of_create (hs : s.marginfiAccounts key = none)
    (hflag : account.inFlashloan = false)
    (ht : t.marginfiAccounts = Function.update s.marginfiAccounts key (some account)) :
    SameLoans s t := by
  refine sameLoans_of_update ?_ ht
  rw [hs]
  exact hflag

/-- An account that goes is not in a flash loan. -/
theorem sameLoans_of_close (hs : s.marginfiAccounts key = some account)
    (hflag : account.inFlashloan = false)
    (ht : t.marginfiAccounts = Function.update s.marginfiAccounts key none) : SameLoans s t := by
  refine sameLoans_of_update ?_ ht
  rw [hs]
  exact hflag.symm

/-- A move of positions leaves the flags of all accounts as they are. -/
theorem sameLoans_of_moves {o : Slots.Op Pubkey} (h : s.Moves key o t) : SameLoans s t := by
  obtain ⟨account, account', hs, ht, -, hflags, -⟩ := h
  exact sameLoans_of_write hs (MarginfiAccount.inFlashloan_of_flags hflags) ht

end Loans

/-! ### The instructions by name -/

/-- The name of the instruction. -/
def Operation.name : Operation → String
  | initializeAccount _ => "marginfi_account_initialize"
  | deposit _ _ _ _ => "lending_account_deposit"
  | withdraw _ _ _ _ => "lending_account_withdraw"
  | borrow _ _ _ => "lending_account_borrow"
  | repay _ _ _ _ => "lending_account_repay"
  | closeBalance _ => "lending_account_close_balance"
  | purgeDelevBalance _ => "purge_deleverage_balance"
  | accrueBankInterest _ => "lending_pool_accrue_bank_interest"
  | liquidate _ _ _ _ _ => "lending_account_liquidate"
  | handleBankruptcy _ _ => "lending_pool_handle_bankruptcy"
  | startFlashloan _ _ _ => "lending_account_start_flashloan"
  | endFlashloan _ _ _ => "lending_account_end_flashloan"
  | transferAccount _ => "transfer_to_new_account"
  | setFreeze _ _ => "marginfi_account_set_freeze"
  | closeAccount _ => "marginfi_account_close"
  | initializeGroup _ => "marginfi_group_initialize"
  | addBank _ _ => "lending_pool_add_bank"
  | closeBank _ => "lending_pool_close_bank"
  | collectBankFees _ _ => "lending_pool_collect_bank_fees"
  | panicPause _ => "panic_pause"
  | panicUnpause _ => "panic_unpause"
  | panicUnpausePermissionless => "panic_unpause_permissionless"
  | propagateFee _ => "propagate_fee_state"

section Instructions

variable {τ : Type} {env : PoolEnv τ} {m m' : Market τ}

/-- Nobody takes over an account in a flash loan. -/
theorem transferToNewAccount_sameLoans {env : SystemEnv τ} {ctx : TransferToNewAccount}
    (h : transferToNewAccount env ctx m = .ok m') : SameLoans m.toLedger m'.toLedger := by
  obtain ⟨account, new, old, _, hne, haccount, hnone, -, -, -, -, hbooks, -, hflag, hnew, hold⟩ :=
    transferToNewAccount_inv h
  have hcreated : SameLoans m.toLedger (m.setAccount ctx.newMarginfiAccount new) :=
    sameLoans_of_create hnone hnew rfl
  have hstill : (m.setAccount ctx.newMarginfiAccount new).marginfiAccounts ctx.oldMarginfiAccount =
      some account := by
    rw [Ledger.setAccount_of_ne _ hne]
    exact haccount
  exact hcreated.trans (sameLoans_of_write hstill (hold.trans hflag.symm)
    (congrArg Books.accounts hbooks))

theorem lendingAccountLiquidate_sameLoans {env : Env τ} {ctx : LendingAccountLiquidate}
    {remaining : List Pubkey} {assetAmount : UInt64} {liquidateeAccounts liquidatorAccounts : UInt8}
    (h : lendingAccountLiquidate env ctx remaining assetAmount liquidateeAccounts liquidatorAccounts
      m = .ok m') : SameLoans m.toLedger m'.toLedger := by
  obtain ⟨_, _, liquidator, liquidatee, _, _, _, _, done, _, _, _, liquidator', -, -, hne, -, -,
    hliquidator, hliquidatee, -, -, -, -, -, -, -, -, -, -, -, hbooks, -, hfirst, hsecond⟩ :=
    lendingAccountLiquidate_inv h
  have hwritten :
      SameLoans m.toLedger (m.setAccount ctx.liquidatorMarginfiAccount liquidator') :=
    sameLoans_of_write hliquidator hfirst rfl
  have hstill : (m.setAccount ctx.liquidatorMarginfiAccount liquidator').marginfiAccounts
      ctx.liquidateeMarginfiAccount = some liquidatee := by
    rw [Ledger.setAccount_of_ne _ hne.symm]
    exact hliquidatee
  exact hwritten.trans (sameLoans_of_write hstill hsecond (congrArg Books.accounts hbooks))

/-- **Only a start and an end of a flash loan touch the flag.** -/
theorem Operation.sameLoans {op : Operation} (h : op.run env m = .ok m')
    (hstart : op.name ≠ "lending_account_start_flashloan")
    (hend : op.name ≠ "lending_account_end_flashloan") : SameLoans m.toLedger m'.toLedger := by
  cases op with
  | startFlashloan => exact absurd rfl hstart
  | endFlashloan => exact absurd rfl hend
  | initializeAccount =>
    obtain ⟨_, hnone, -, -, hbooks, -, hflag⟩ := marginfiAccountInitialize_inv h
    exact sameLoans_of_create hnone hflag (congrArg Books.accounts hbooks)
  | deposit =>
    rcases lendingAccountDeposit_inv (lift_eq_ok h).1 with hnothing | ⟨_, _, _, _, _, _, _, _, _, _,
      haccount, -, -, -, -, -, -, -, -, -, -, -, -, hbooks, -, hflag⟩
    · exact sameLoans_of_accounts (congrArg Ledger.marginfiAccounts hnothing)
    · exact sameLoans_of_write haccount hflag (congrArg Books.accounts hbooks)
  | withdraw =>
    obtain ⟨_, _, _, _, _, _, _, _, _, _, haccount, -, -, -, -, -, -, -, -, -, -, -, hbooks, -,
      hflag⟩ := lendingAccountWithdraw_inv h
    exact sameLoans_of_write haccount hflag (congrArg Books.accounts hbooks)
  | borrow => exact sameLoans_of_moves (lendingAccountBorrow_moves (lift_eq_ok h).1)
  | repay => exact sameLoans_of_moves (lendingAccountRepay_moves (lift_eq_ok h).1)
  | closeBalance =>
    obtain ⟨_, _, _, _, _, _, _, haccount, -, -, -, -, -, hbooks, -, -, hflag⟩ :=
      lendingAccountCloseBalance_inv (lift_eq_ok h).1
    exact sameLoans_of_write haccount hflag (congrArg Books.accounts hbooks)
  | purgeDelevBalance =>
    obtain ⟨_, _, _, _, _, haccount, -, -, -, -, hbooks, -, -, hflag⟩ :=
      lendingAccountPurgeDelevBalance_inv (lift_eq_ok h).1
    exact sameLoans_of_write haccount hflag (congrArg Books.accounts hbooks)
  | accrueBankInterest =>
    obtain ⟨_, _, _, -, -, hbooks, -⟩ := lendingPoolAccrueBankInterest_inv (lift_eq_ok h).1
    exact sameLoans_of_accounts (congrArg Books.accounts hbooks)
  | liquidate => exact lendingAccountLiquidate_sameLoans h
  | handleBankruptcy =>
    obtain ⟨_, _, _, _, _, _, _, _, _, _, _, _, _, _, _, _, _, haccount, -, -, -, -, -, -, -, -, -,
      -, -, -, -, -, -, -, -, -, -, hbooks, -, hflag⟩ := lendingPoolHandleBankruptcy_inv h
    exact sameLoans_of_write haccount hflag (congrArg Books.accounts hbooks)
  | transferAccount => exact transferToNewAccount_sameLoans h
  | setFreeze =>
    obtain ⟨_, _, haccount, -, hbooks, -, -, hflag⟩ := setAccountFreeze_inv (lift_eq_ok h).1
    exact sameLoans_of_write haccount hflag (congrArg Books.accounts hbooks)
  | closeAccount =>
    obtain ⟨_, haccount, -, hbooks, -, hflag⟩ := closeAccount_inv (lift_eq_ok h).1
    exact sameLoans_of_close haccount hflag (congrArg Books.accounts hbooks)
  | addBank =>
    obtain ⟨_, _, _, _, -, -, -, -, -, -, -, -, hbooks, -⟩ := lendingPoolAddBank_inv h
    exact sameLoans_of_accounts (congrArg Books.accounts hbooks)
  | closeBank =>
    obtain ⟨-, hbooks, -⟩ := lendingPoolCloseBank_inv h
    exact sameLoans_of_accounts (congrArg Books.accounts hbooks)
  | collectBankFees =>
    obtain ⟨_, _, _, _, _, _, _, _, _, _, _, _, -, -, -, -, -, -, -, -, -, -, -, hbooks, -⟩ :=
      lendingPoolCollectBankFees_inv h
    exact sameLoans_of_accounts (congrArg Books.accounts hbooks)
  | initializeGroup =>
    obtain ⟨_, -, h⟩ := bind_eq_ok.mp h
    cases h
    exact sameLoans_of_accounts rfl
  | panicPause =>
    obtain ⟨_, -, h⟩ := bind_eq_ok.mp h
    exact sameLoans_of_accounts (congrArg Books.accounts (applyPanic_books h))
  | panicUnpause =>
    obtain ⟨_, -, h⟩ := bind_eq_ok.mp h
    exact sameLoans_of_accounts (congrArg Books.accounts (applyPanic_books h))
  | panicUnpausePermissionless =>
    exact sameLoans_of_accounts (congrArg Books.accounts (applyPanic_books h))
  | propagateFee =>
    obtain ⟨_, -, h⟩ := bind_eq_ok.mp h
    cases h
    exact sameLoans_of_accounts rfl

/-- The instruction of that name is executed, as one of the operations. -/
def Executes (name : String) (s t : Ledger τ) : Prop :=
  ∃ (env : PoolEnv τ) (op : Operation) (m m' : Market τ),
    op.name = name ∧ m.toLedger = s ∧ m'.toLedger = t ∧ op.run env m = .ok m'

theorem Executes.sameLoans {name : String} {s t : Ledger τ} (h : Executes name s t)
    (hstart : name ≠ "lending_account_start_flashloan")
    (hend : name ≠ "lending_account_end_flashloan") : SameLoans s t := by
  obtain ⟨_, _, _, _, rfl, rfl, rfl, hrun⟩ := h
  exact Operation.sameLoans hrun hstart hend

end Instructions

end Marginfi
