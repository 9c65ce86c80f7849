import FlashLoanBot.Marginfi.Effects

/-!
# marginfi: the instructions as operations on the books

All instructions that change positions, banks or accounts, as one type of operations.

* `Operation`, `Operation.run`: the instructions with their accounts and arguments;
* `Operation.books`: each of them is a run of steps of the books;
* `Operation.setting_of_run`, `Operation.groups_of_run`: what most of them leave alone.
-/

namespace Marginfi

open Solana Checked

/-! ### Operations -/

/-- An instruction that changes positions, banks or accounts. -/
inductive Operation
  | initializeAccount (ctx : MarginfiAccountInitialize)
  | deposit (ctx : LendingAccountDeposit) (remaining : List Pubkey) (amount : UInt64)
      (depositUpToLimit : Option Bool)
  | withdraw (ctx : LendingAccountWithdraw) (remaining : List Pubkey) (amount : UInt64)
      (withdrawAll : Option Bool)
  | borrow (ctx : LendingAccountBorrow) (remaining : List Pubkey) (amount : UInt64)
  | repay (ctx : LendingAccountRepay) (remaining : List Pubkey) (amount : UInt64)
      (repayAll : Option Bool)
  | closeBalance (ctx : LendingAccountCloseBalance)
  | purgeDelevBalance (ctx : LendingAccountPurgeDelevBalance)
  | accrueBankInterest (ctx : LendingPoolAccrueBankInterest)
  | liquidate (ctx : LendingAccountLiquidate) (remaining : List Pubkey) (assetAmount : UInt64)
      (liquidateeAccounts liquidatorAccounts : UInt8)
  | handleBankruptcy (ctx : LendingPoolHandleBankruptcy) (remaining : List Pubkey)
  | startFlashloan (tx : TxContext) (ctx : LendingAccountStartFlashloan) (endIndex : UInt64)
  | endFlashloan (tx : TxContext) (ctx : LendingAccountEndFlashloan) (remaining : List Pubkey)
  | transferAccount (ctx : TransferToNewAccount)
  | setFreeze (ctx : SetAccountFreeze) (frozen : Bool)
  | closeAccount (ctx : MarginfiAccountClose)
  | initializeGroup (ctx : MarginfiGroupInitialize)
  | addBank (ctx : LendingPoolAddBank) (bankConfig : BankConfigCompact)
  | closeBank (ctx : LendingPoolCloseBank)
  | collectBankFees (ctx : LendingPoolCollectBankFees) (remaining : List Pubkey)
  | panicPause (ctx : PanicAdmin)
  | panicUnpause (ctx : PanicAdmin)
  | panicUnpausePermissionless
  | propagateFee (marginfiGroup : Pubkey)

/-- The bank whose deposits an instruction may take a loss from. -/
def Operation.losses : Operation → Set Pubkey
  | handleBankruptcy ctx _ => {ctx.bank}
  | _ => ∅

/-- The bank that an instruction adds. -/
def Operation.opens : Operation → Set Pubkey
  | addBank ctx _ => {ctx.bank}
  | _ => ∅

/-- The bank that an instruction closes. -/
def Operation.closes : Operation → Set Pubkey
  | closeBank ctx => {ctx.bank}
  | _ => ∅

section Run

variable {τ : Type}

/-- An instruction that only needs the ledger. -/
def Market.lift (s : Market τ) (f : Ledger τ → Result (Ledger τ)) : Result (Market τ) := do
  let ledger ← f s.toLedger
  .ok { s with toLedger := ledger }

/-- Execute an instruction. -/
def Operation.run (env : PoolEnv τ) (s : Market τ) : Operation → Result (Market τ)
  | initializeAccount ctx => marginfiAccountInitialize env.toSystemEnv ctx s
  | deposit ctx remaining amount upToLimit =>
      s.lift (lendingAccountDeposit env.toEnv ctx remaining amount upToLimit)
  | withdraw ctx remaining amount withdrawAll =>
      lendingAccountWithdraw env.toVaultEnv ctx remaining amount withdrawAll s
  | borrow ctx remaining amount => s.lift (lendingAccountBorrow env.toEnv ctx remaining amount)
  | repay ctx remaining amount repayAll =>
      s.lift (lendingAccountRepay env.toEnv ctx remaining amount repayAll)
  | closeBalance ctx => s.lift (lendingAccountCloseBalance env.toEnv ctx)
  | purgeDelevBalance ctx => s.lift (lendingAccountPurgeDelevBalance env.toEnv ctx)
  | accrueBankInterest ctx => s.lift (lendingPoolAccrueBankInterest env.toEnv ctx)
  | liquidate ctx remaining assetAmount liquidateeAccounts liquidatorAccounts =>
      lendingAccountLiquidate env.toEnv ctx remaining assetAmount liquidateeAccounts
        liquidatorAccounts s
  | handleBankruptcy ctx remaining => lendingPoolHandleBankruptcy env.toVaultEnv ctx remaining s
  | startFlashloan tx ctx endIndex =>
      s.lift (lendingAccountStartFlashloan env.toEnv tx ctx endIndex)
  | endFlashloan tx ctx remaining =>
      s.lift (lendingAccountEndFlashloan env.toEnv tx ctx remaining)
  | transferAccount ctx => transferToNewAccount env.toSystemEnv ctx s
  | setFreeze ctx frozen => s.lift (setAccountFreeze env.toSystemEnv ctx frozen)
  | closeAccount ctx => s.lift (Marginfi.closeAccount env.toSystemEnv ctx)
  | initializeGroup ctx => Marginfi.initializeGroup env ctx s
  | addBank ctx bankConfig => lendingPoolAddBank env ctx bankConfig s
  | closeBank ctx => lendingPoolCloseBank env ctx s
  | collectBankFees ctx remaining => lendingPoolCollectBankFees env ctx remaining s
  | panicPause ctx => Marginfi.panicPause env ctx s
  | panicUnpause ctx => Marginfi.panicUnpause env ctx s
  | panicUnpausePermissionless => Marginfi.panicUnpausePermissionless env s
  | propagateFee marginfiGroup => Marginfi.propagateFee marginfiGroup s

end Run

/-! ### The instructions as steps of the books -/

section Refinement

open Relation (ReflTransGen)

variable {τ : Type} {remaining : List Pubkey} {amount : UInt64} {losses closed : Set Pubkey}

theorem perm_of_eq_sortBalances {account sorted : LendingAccount}
    (h : sorted = account.sortBalances) :
    sorted.balances.Perm account.balances := by
  rw [h]
  exact List.perm_insertionSort _ _

section

variable {env : Env τ} {s s' : Ledger τ}

theorem Ledger.AccruedTo.revalues {key : Pubkey} {bank accrued : Bank}
    (h : s.AccruedTo env key bank accrued) (hsound : s.books.Sound) : bank.Revalues accrued := by
  obtain ⟨group, -, haccrued⟩ := h.accrued
  exact Bank.accrueInterest_revalues haccrued (hsound.pool_nonneg h.loaded)

theorem lendingAccountDeposit_books {ctx : LendingAccountDeposit} {upToLimit : Option Bool}
    (h : lendingAccountDeposit env ctx remaining amount upToLimit s = .ok s')
    (hsound : s.books.Sound) : ReflTransGen (Books.Step losses closed) s.books s'.books := by
  rcases lendingAccountDeposit_inv h with rfl | ⟨account, bank, accrued, w, w', deposited, mint, t,
    bank', account', haccount, haccrued, -, hw, hw', -, -, -, -, -, -, hcached, hsorted, hbooks, -⟩
  · exact .refl
  · rw [hbooks]
    refine Books.run_posting hsound haccount haccrued.loaded ?_
      (BankAccountWrapper.findOrCreate_located hw)
      (fun hsound => BankAccountWrapper.increaseBalanceInternal_entry hw' hsound (ofU64_nonneg _))
      (perm_of_eq_sortBalances hsorted) (.of_pool_eq hcached.pool)
    rw [BankAccountWrapper.findOrCreate_bank hw]
    exact haccrued.revalues hsound

theorem originationFee_nonneg {bank : Bank} {fee : I80F48} {feeU64 : UInt64}
    (h : originationFee bank amount = .ok (fee, feeU64)) : 0 ≤ fee := by
  simp only [originationFee] at h
  split_ifs at h
  · cases h
    exact le_rfl
  · simp only [bind_eq_ok, math, fromOption_eq_ok] at h
    obtain ⟨f, -, n, hn, h⟩ := h
    cases h
    obtain ⟨k, hk, -⟩ := Option.map_eq_some_iff.mp hn
    have hfloor : 0 ≤ fee.bits / 2 ^ 48 := by
      rw [show fee.bits / 2 ^ 48 = k from (FixedPoint.toNat?_eq_some.mp hk).1]
      positivity
    exact (Int.ediv_nonneg_iff_of_pos (by positivity)).mp hfloor

theorem lendingAccountBorrow_books {ctx : LendingAccountBorrow}
    (h : lendingAccountBorrow env ctx remaining amount s = .ok s') (hsound : s.books.Sound) :
    ReflTransGen (Books.Step losses closed) s.books s'.books := by
  obtain ⟨group, account, bank, accrued, w, w', fee, feeU64, debt, mint, t, credited, bank',
    account', haccount, haccrued, -, hw, -, -, -, -, -, hfee, hdebt, hw', hcredited, hcached,
    hsorted, hbooks, -⟩ := lendingAccountBorrow_inv h
  have hdebt0 : 0 ≤ debt := by
    show 0 ≤ debt.bits
    rw [FixedPoint.checkedAdd_eq_some.mp hdebt]
    exact add_nonneg (ofU64_nonneg t.amount) (originationFee_nonneg hfee)
  rw [hbooks]
  refine Books.run_posting hsound haccount haccrued.loaded ?_
    (BankAccountWrapper.findOrCreate_located hw)
    (fun hsound => BankAccountWrapper.decreaseBalanceInternal_entry hw' hsound hdebt0)
    (perm_of_eq_sortBalances hsorted)
    ((Bank.creditOriginationFee_revalues hcredited).trans (.of_pool_eq hcached.pool))
  rw [BankAccountWrapper.findOrCreate_bank hw]
  exact haccrued.revalues hsound

theorem repayBy_entry {w w' : BankAccountWrapper} {repayAll : Bool} {clock : Clock} {paid : UInt64}
    (h : w.repayBy amount repayAll clock = .ok (w', paid)) (hw : w.Sound) : w.Entry w' := by
  cases repayAll with
  | true => exact BankAccountWrapper.repayAll_entry h hw
  | false =>
    obtain ⟨v, hv, hpair⟩ := bind_eq_ok.mp h
    cases hpair
    exact BankAccountWrapper.increaseBalanceInternal_entry hv hw (ofU64_nonneg _)

theorem lendingAccountRepay_books {ctx : LendingAccountRepay} {repayAll : Option Bool}
    (h : lendingAccountRepay env ctx remaining amount repayAll s = .ok s')
    (hsound : s.books.Sound) : ReflTransGen (Books.Step losses closed) s.books s'.books := by
  obtain ⟨account, bank, accrued, w, w', paid, mint, bank', account', haccount, haccrued, -, hw,
    hw', -, hcached, hsorted, hbooks, -⟩ := lendingAccountRepay_inv h
  rw [hbooks]
  refine Books.run_posting hsound haccount haccrued.loaded ?_ (BankAccountWrapper.find_located hw)
    (repayBy_entry hw') (perm_of_eq_sortBalances hsorted) (.of_pool_eq hcached.pool)
  rw [BankAccountWrapper.find_bank hw]
  exact haccrued.revalues hsound

theorem withdrawBy_entry {w w' : BankAccountWrapper} {mint : Option (Pubkey × Mint)}
    {withdrawAll : Bool} {clock : Clock} {withdrawn : UInt64}
    (h : w.withdrawBy mint amount withdrawAll clock = .ok (w', withdrawn)) (hw : w.Sound) :
    w.Entry w' := by
  cases withdrawAll with
  | true => exact BankAccountWrapper.withdrawAll_entry h hw
  | false =>
    simp only [BankAccountWrapper.withdrawBy, Bool.false_eq_true, if_false, bind_eq_ok] at h
    obtain ⟨pre, -, v, hv, hpair⟩ := h
    cases hpair
    exact BankAccountWrapper.decreaseBalanceInternal_entry hv hw (ofU64_nonneg _)

theorem lendingAccountCloseBalance_books {ctx : LendingAccountCloseBalance}
    (h : lendingAccountCloseBalance env ctx s = .ok s') (hsound : s.books.Sound) :
    ReflTransGen (Books.Step losses closed) s.books s'.books := by
  obtain ⟨account, bank, accrued, cached, w, w', account', haccount, haccrued, hcached, hw, hw',
    hsorted, hbooks, -⟩ := lendingAccountCloseBalance_inv h
  rw [hbooks]
  refine Books.run_posting hsound haccount haccrued.loaded ?_ (BankAccountWrapper.find_located hw)
    (BankAccountWrapper.closeBalance_entry hw') (perm_of_eq_sortBalances hsorted) (.refl _)
  rw [BankAccountWrapper.find_bank hw]
  exact (haccrued.revalues hsound).trans (.of_pool_eq hcached.pool)

theorem lendingAccountPurgeDelevBalance_books {ctx : LendingAccountPurgeDelevBalance}
    (h : lendingAccountPurgeDelevBalance env ctx s = .ok s') (hsound : s.books.Sound) :
    ReflTransGen (Books.Step losses closed) s.books s'.books := by
  obtain ⟨account, bank, w, w', account', haccount, hbank, hw, hw', hsorted, hbooks, -⟩ :=
    lendingAccountPurgeDelevBalance_inv h
  rw [hbooks]
  refine Books.run_posting hsound haccount hbank ?_ (BankAccountWrapper.find_located hw)
    (BankAccountWrapper.purge_entry hw') (perm_of_eq_sortBalances hsorted) (.refl _)
  rw [BankAccountWrapper.find_bank hw]
  exact .refl bank

theorem lendingPoolAccrueBankInterest_books {ctx : LendingPoolAccrueBankInterest}
    (h : lendingPoolAccrueBankInterest env ctx s = .ok s') (hsound : s.books.Sound) :
    ReflTransGen (Books.Step losses closed) s.books s'.books := by
  obtain ⟨bank, accrued, bank', haccrued, hcached, hbooks, -⟩ := lendingPoolAccrueBankInterest_inv h
  rw [hbooks]
  exact .single (.revalue haccrued.loaded
    ((haccrued.revalues hsound).trans (.of_pool_eq hcached.pool)))

end

theorem lendingAccountWithdraw_books {env : VaultEnv τ} {s s' : Market τ}
    {ctx : LendingAccountWithdraw} {withdrawAll : Option Bool}
    (h : lendingAccountWithdraw env ctx remaining amount withdrawAll s = .ok s')
    (hsound : s.books.Sound) : ReflTransGen (Books.Step losses closed) s.books s'.books := by
  obtain ⟨account, bank, accrued, w, w', withdrawn, mint, t, bank', account', haccount, haccrued, -,
    hw, hw', -, -, -, -, -, hcached, hsorted, hbooks, -⟩ := lendingAccountWithdraw_inv h
  rw [hbooks]
  refine Books.run_posting hsound haccount haccrued.loaded ?_ (BankAccountWrapper.find_located hw)
    (withdrawBy_entry hw') (perm_of_eq_sortBalances hsorted) (.of_pool_eq hcached.pool)
  rw [BankAccountWrapper.find_bank hw]
  exact haccrued.revalues hsound

/-- The positions and the banks that a liquidation changes, before it looks at the result. -/
theorem liquidatePositions_books (losses closed : Set Pubkey) {books : Books} {clock : Clock}
    {ctx : LendingAccountLiquidate} {assetAmount assetPrice liabPrice : I80F48}
    {assetBank liabBank : Bank}
    {liquidator liquidatee : MarginfiAccount} {done : Liquidated}
    (h : liquidatePositions clock ctx assetAmount assetPrice liabPrice assetBank liabBank liquidator
      liquidatee = .ok done)
    (hsound : books.Sound) (hbanks : ctx.assetBank ≠ ctx.liabBank)
    (haccounts : ctx.liquidatorMarginfiAccount ≠ ctx.liquidateeMarginfiAccount)
    (hasset : books.banks ctx.assetBank = some assetBank)
    (hliab : books.banks ctx.liabBank = some liabBank)
    (hliquidator : books.accounts ctx.liquidatorMarginfiAccount = some liquidator)
    (hliquidatee : books.accounts ctx.liquidateeMarginfiAccount = some liquidatee)
    (hamount : 0 < assetAmount) (hassetPrice : 0 < assetPrice) (hliabPrice : 0 < liabPrice) :
    ReflTransGen (Books.Step losses closed) books
      ((((books.setAccount ctx.liquidatorMarginfiAccount done.liquidator).setAccount
        ctx.liquidateeMarginfiAccount done.liquidatee).setBank ctx.assetBank done.assetBank).setBank
          ctx.liabBank done.liabBank) := by
  obtain ⟨paid, final, fee, w1, v1, w2, v2, w3, v3, w4, v4, fees, hamounts, hw1, hv1, hw2, hv2, hw3,
    hv3, hw4, hv4, -, -, hliquidator', hliquidatee', hassetBank', hliabBank', -⟩ :=
    liquidatePositions_inv h
  obtain ⟨hpaid, hfinal⟩ :=
    liquidationAmounts_nonneg hamount hassetPrice.le hliabPrice.le hamounts
  have hrun : ReflTransGen (Books.Step losses closed) books
      ((((books.setAccount ctx.liquidatorMarginfiAccount done.liquidator).setAccount
        ctx.liquidateeMarginfiAccount done.liquidatee).setBank ctx.assetBank v3.bank).setBank
          ctx.liabBank v4.bank) :=
          Books.run_exchange hsound haccounts hbanks hliquidator hliquidatee
    (by rw [BankAccountWrapper.find_bank hw2]; exact hasset)
    (by rw [BankAccountWrapper.findOrCreate_bank hw1]; exact hliab)
    (BankAccountWrapper.findOrCreate_located hw1)
    (fun hw => BankAccountWrapper.decreaseBalanceInternal_entry hv1 hw hpaid)
    (BankAccountWrapper.find_located hw2)
    (fun hw => BankAccountWrapper.decreaseBalanceInternal_entry hv2 hw hamount.le)
    (BankAccountWrapper.findOrCreate_bank hw3) (BankAccountWrapper.findOrCreate_located hw3)
    (fun hw => BankAccountWrapper.increaseBalanceInternal_entry hv3 hw hamount.le)
    (BankAccountWrapper.find_bank hw4) (BankAccountWrapper.find_located hw4)
    (fun hw => BankAccountWrapper.increaseBalanceInternal_entry hv4 hw hfinal)
    hliquidator' hliquidatee'
  -- the fee is set aside after the debt has been repaid
  have hfee : v4.bank.Revalues done.liabBank := by
    rw [hliabBank']
    exact .of_pool rfl rfl rfl rfl
  have hend := hrun.tail (.revalue (Books.banks_setBank_same _) hfee)
  rwa [Books.setBank_setBank, ← hassetBank'] at hend

theorem lendingAccountLiquidate_books {env : Env τ} {s s' : Market τ}
    {ctx : LendingAccountLiquidate} {assetAmount : UInt64}
    {liquidateeAccounts liquidatorAccounts : UInt8}
    (h : lendingAccountLiquidate env ctx remaining assetAmount liquidateeAccounts
      liquidatorAccounts s = .ok s') (hsound : s.books.Sound) :
    ReflTransGen (Books.Step losses closed) s.books s'.books := by
  obtain ⟨A, L, liquidator, liquidatee, A1, L1, assetPrice, liabPrice, done, t, A', L', liquidator',
    hpositive, hbanks, haccounts, hA, hL, hliquidator, hliquidatee, hassetPrice, hliabPrice, hdone,
    -, -, -, -, -, hA', hL', hsorted, hbooks, -⟩ := lendingAccountLiquidate_inv h
  have hamount : 0 < I80F48.ofU64 assetAmount := ofU64_pos hpositive
  -- interest is accrued on both banks, and the positions of the liquidatee are sorted
  have s1 : Books.Step losses closed s.books (s.books.setBank ctx.assetBank A1) :=
    .revalue hA.loaded (hA.revalues hsound)
  have s2 : Books.Step losses closed _
    ((s.books.setBank ctx.assetBank A1).setBank ctx.liabBank L1) :=
    .revalue ((Books.banks_setBank_of_ne hbanks.symm).trans hL.loaded) (hL.revalues hsound)
  have s3 : Books.Step losses closed _
      (((s.books.setBank ctx.assetBank A1).setBank ctx.liabBank L1).setAccount
      ctx.liquidateeMarginfiAccount
      { liquidatee with lendingAccount := liquidatee.lendingAccount.sortBalances }) :=
    .sort hliquidatee (List.perm_insertionSort _ _)
  have hprepare := (ReflTransGen.single s1).tail s2 |>.tail s3
  have hA3 : ((s.books.setBank ctx.assetBank A1).setBank ctx.liabBank L1).banks ctx.assetBank =
      some A1 := by
    rw [Books.banks_setBank_of_ne hbanks, Books.banks_setBank_same]
  have hexchange :=
    liquidatePositions_books losses closed hdone (Books.sound_of_run hprepare hsound) hbanks
    haccounts hA3 (Books.banks_setBank_same L1)
    ((Books.accounts_setAccount_of_ne haccounts).trans hliquidator)
    (Books.accounts_setAccount_same _) hamount hassetPrice hliabPrice
  -- the caches of both banks are updated, and the positions of the liquidator are sorted
  have hend := (hprepare.trans hexchange).trans (Books.run_refresh hbanks
    ((Books.accounts_setAccount_of_ne haccounts).trans (Books.accounts_setAccount_same _))
    (perm_of_eq_sortBalances hsorted) (.of_pool_eq hA'.pool) (.of_pool_eq hL'.pool))
  rw [hbooks]
  refine Eq.mp (congrArg _ ?_) hend
  simp only [Books.setBank, Books.setAccount, updateBanks, Ledger.books, Books.mk.injEq]
  constructor
  · funext a
    simp only [Function.update_apply]
    split_ifs <;> simp_all
  · funext k
    simp only [Function.update_apply]
    split_ifs <;> simp_all

theorem findBadDebt_nonneg {bankKey : Pubkey} {bank : Bank} {account : MarginfiAccount}
    {badDebt : I80F48} (h : findBadDebt bankKey bank account = .ok badDebt) : 0 ≤ badDebt := by
  simp only [findBadDebt, bind_eq_ok, checkLending_eq_ok] at h
  obtain ⟨_, -, _, -, _, -, _, hdebt, h⟩ := h
  cases h
  exact le_of_lt (lt_trans (by decide) hdebt)

theorem lendingPoolHandleBankruptcy_books {env : VaultEnv τ} {s s' : Market τ}
    {ctx : LendingPoolHandleBankruptcy}
    (h : lendingPoolHandleBankruptcy env ctx remaining s = .ok s') (hsound : s.books.Sound)
    (hlosses : ctx.bank ∈ losses) :
    ReflTransGen (Books.Step losses closed) s.books s'.books := by
  obtain ⟨account, bank, accrued, badDebt, mint, available, covered, loss, coveredCeil, units, t,
    shared, kill, w, w', bank', account', haccount, haccrued, -, -, hbadDebt, -, -, -, -, -, -, -,
    -, -, hshared, hw, hw', hcached, -, hstored, hbooks, -⟩ := lendingPoolHandleBankruptcy_inv h
  have s1 : Books.Step losses closed s.books (s.books.setBank ctx.bank accrued) :=
    .revalue haccrued.loaded (haccrued.revalues hsound)
  have hsound1 := s1.sound hsound
  have s2 : Books.Step losses closed _
    ((s.books.setBank ctx.bank accrued).setBank ctx.bank shared) :=
    .lose hlosses (Books.banks_setBank_same _) (Bank.socializeLoss_loses hshared
      (hsound1.pool_nonneg (Books.banks_setBank_same _)).assetShares)
  have hsound2 := s2.sound hsound1
  rw [Books.setBank_setBank] at s2 hsound2
  have hpost : ReflTransGen (Books.Step losses closed) (s.books.setBank ctx.bank shared)
      (((s.books.setBank ctx.bank shared).setAccount ctx.marginfiAccount account').setBank ctx.bank
        bank') := Books.run_posting hsound2 haccount (Books.banks_setBank_same shared)
    (by rw [BankAccountWrapper.find_bank hw]; exact .refl _)
    (BankAccountWrapper.find_located hw)
    (fun hw => BankAccountWrapper.increaseBalanceInternal_entry hw' hw
    (findBadDebt_nonneg hbadDebt))
    (by rw [hstored]) (.of_pool_eq hcached.pool)
  have hend := ((ReflTransGen.single s1).tail s2).trans hpost
  rw [hbooks]
  simpa only [Books.setAccount, Books.setBank, Function.update_idem] using hend

theorem lendingAccountStartFlashloan_books {env : Env τ} {s s' : Ledger τ} {tx : TxContext}
    {ctx : LendingAccountStartFlashloan} {endIndex : UInt64}
    (h : lendingAccountStartFlashloan env tx ctx endIndex s = .ok s') :
    ReflTransGen (Books.Step losses closed) s.books s'.books := by
  obtain ⟨account, _, _, haccount, -, -, -, -, -, -, -, -, -, -, -, -, rfl⟩ :=
    lendingAccountStartFlashloan_eq_ok.mp h
  exact .single (.sort haccount (.refl _))

theorem lendingAccountEndFlashloan_books {env : Env τ} {s s' : Ledger τ} {tx : TxContext}
    {ctx : LendingAccountEndFlashloan}
    (h : lendingAccountEndFlashloan env tx ctx remaining s = .ok s') :
    ReflTransGen (Books.Step losses closed) s.books s'.books := by
  obtain ⟨account, _, haccount, -, -, rfl⟩ := lendingAccountEndFlashloan_inv h
  exact .single (.sort haccount (.refl _))

theorem marginfiAccountInitialize_books {env : SystemEnv τ} {s s' : Market τ}
    {ctx : MarginfiAccountInitialize} (h : marginfiAccountInitialize env ctx s = .ok s') :
    ReflTransGen (Books.Step losses closed) s.books s'.books := by
  obtain ⟨account, hnone, hzeroed, -, hbooks, -⟩ := marginfiAccountInitialize_inv h
  rw [hbooks]
  exact .single (.create hnone hzeroed)

theorem transferToNewAccount_books {env : SystemEnv τ} {s s' : Market τ}
    {ctx : TransferToNewAccount} (h : transferToNewAccount env ctx s = .ok s') :
    ReflTransGen (Books.Step losses closed) s.books s'.books := by
  obtain ⟨account, new, old, rest, hne, haccount, hnone, hnew, hold, -, -, hbooks, -⟩ :=
    transferToNewAccount_inv h
  rw [hbooks]
  exact .single (.move hne haccount hnone hnew hold)

theorem setAccountFreeze_books {env : SystemEnv τ} {s s' : Ledger τ} {ctx : SetAccountFreeze}
    {frozen : Bool} (h : setAccountFreeze env ctx frozen s = .ok s') :
    ReflTransGen (Books.Step losses closed) s.books s'.books := by
  obtain ⟨account, account', haccount, hsame, hbooks, -⟩ := setAccountFreeze_inv h
  rw [hbooks]
  exact .single (.sort haccount (by rw [hsame]))

theorem closeAccount_books {env : SystemEnv τ} {s s' : Ledger τ} {ctx : MarginfiAccountClose}
    (h : Marginfi.closeAccount env ctx s = .ok s') :
    ReflTransGen (Books.Step losses closed) s.books s'.books := by
  obtain ⟨account, haccount, -, hbooks, -⟩ := closeAccount_inv h
  rw [hbooks]
  exact .single (.close haccount)

theorem lendingPoolAddBank_books {env : PoolEnv τ} {s s' : Market τ} {ctx : LendingPoolAddBank}
    {bankConfig : BankConfigCompact} (h : lendingPoolAddBank env ctx bankConfig s = .ok s')
    (hvacant : s.books.Vacant ctx.bank) :
    ReflTransGen (Books.Step losses closed) s.books s'.books := by
  obtain ⟨bank, bumps, r, r', hnone, hpool, -, -, -, -, -, -, hbooks, -⟩ := lendingPoolAddBank_inv h
  rw [hbooks]
  refine .single (.add hnone hvacant (fun side => ?_) (congrArg Pool.assetShareValue hpool)
    (congrArg Pool.liabilityShareValue hpool))
  cases side with
  | assets => exact congrArg Pool.assetShares hpool
  | liabilities => exact congrArg Pool.liabilityShares hpool

theorem lendingPoolCloseBank_books {env : PoolEnv τ} {s s' : Market τ} {ctx : LendingPoolCloseBank}
    (h : lendingPoolCloseBank env ctx s = .ok s') (hclosed : ctx.bank ∈ closed) :
    ReflTransGen (Books.Step losses closed) s.books s'.books := by
  obtain ⟨-, hbooks, -⟩ := lendingPoolCloseBank_inv h
  rw [hbooks]
  exact .single (.remove hclosed)

theorem lendingPoolCollectBankFees_books {env : PoolEnv τ} {s s' : Market τ}
    {ctx : LendingPoolCollectBankFees}
    (h : lendingPoolCollectBankFees env ctx remaining s = .ok s') :
    ReflTransGen (Books.Step losses closed) s.books s'.books := by
  obtain ⟨bank, _, _, _, _, _, _, _, _, _, _, _, hbank, -, -, -, -, -, -, -, -, -, -, hbooks, -⟩ :=
    lendingPoolCollectBankFees_inv h
  rw [hbooks]
  exact .single (.revalue hbank (.of_pool rfl rfl rfl rfl))

theorem applyPanic_books {s s' : Market τ} {now : Int64} {e : PanicEvent}
    (h : s.applyPanic now e = .ok s') : s'.books = s.books := by
  obtain ⟨_, -, h⟩ := bind_eq_ok.mp h
  cases h
  rfl

theorem lift_eq_ok {s s' : Market τ} {f : Ledger τ → Result (Ledger τ)} (h : s.lift f = .ok s') :
    f s.toLedger = .ok s'.toLedger ∧ s'.feeState = s.feeState ∧ s'.vaultBumps = s.vaultBumps := by
  obtain ⟨ledger, hledger, h⟩ := bind_eq_ok.mp h
  cases h
  exact ⟨hledger, rfl, rfl⟩

/-- **Every instruction is a run of steps of the books**, when nobody holds shares of a bank that is
added. -/
theorem Operation.books {env : PoolEnv τ} {s s' : Market τ} {op : Operation}
    (h : op.run env s = .ok s') (hsound : s.books.Sound)
    (hvacant : ∀ k ∈ op.opens, s.books.Vacant k) :
    ReflTransGen (Books.Step op.losses op.closes) s.books s'.books := by
  cases op with
  | initializeAccount => exact marginfiAccountInitialize_books h
  | deposit => exact lendingAccountDeposit_books (lift_eq_ok h).1 hsound
  | withdraw => exact lendingAccountWithdraw_books h hsound
  | borrow => exact lendingAccountBorrow_books (lift_eq_ok h).1 hsound
  | repay => exact lendingAccountRepay_books (lift_eq_ok h).1 hsound
  | closeBalance => exact lendingAccountCloseBalance_books (lift_eq_ok h).1 hsound
  | purgeDelevBalance => exact lendingAccountPurgeDelevBalance_books (lift_eq_ok h).1 hsound
  | accrueBankInterest => exact lendingPoolAccrueBankInterest_books (lift_eq_ok h).1 hsound
  | liquidate => exact lendingAccountLiquidate_books h hsound
  | handleBankruptcy => exact lendingPoolHandleBankruptcy_books h hsound rfl
  | startFlashloan => exact lendingAccountStartFlashloan_books (lift_eq_ok h).1
  | endFlashloan => exact lendingAccountEndFlashloan_books (lift_eq_ok h).1
  | transferAccount => exact transferToNewAccount_books h
  | setFreeze => exact setAccountFreeze_books (lift_eq_ok h).1
  | closeAccount => exact closeAccount_books (lift_eq_ok h).1
  | initializeGroup =>
    obtain ⟨rest, -, h⟩ := bind_eq_ok.mp h
    cases h
    exact .refl
  | addBank ctx => exact lendingPoolAddBank_books h (hvacant ctx.bank rfl)
  | closeBank => exact lendingPoolCloseBank_books h rfl
  | collectBankFees => exact lendingPoolCollectBankFees_books h
  | panicPause =>
    obtain ⟨_, -, h⟩ := bind_eq_ok.mp h
    rw [applyPanic_books h]
  | panicUnpause =>
    obtain ⟨_, -, h⟩ := bind_eq_ok.mp h
    rw [applyPanic_books h]
  | panicUnpausePermissionless => rw [applyPanic_books h]
  | propagateFee =>
    obtain ⟨group, -, h⟩ := bind_eq_ok.mp h
    cases h
    exact .refl

end Refinement

/-! ### What the instructions leave alone -/

/-- The instructions that change the fee state, the groups, or the bumps of the vaults. -/
def Operation.isControl : Operation → Bool
  | initializeGroup _ => true
  | addBank _ _ => true
  | panicPause _ => true
  | panicUnpause _ => true
  | panicUnpausePermissionless => true
  | propagateFee _ => true
  | _ => false

/-- What an instruction does to the panic state. -/
def Operation.panicEvent : Operation → Option PanicEvent
  | panicPause _ => some .pause
  | panicUnpause _ => some .unpause
  | panicUnpausePermissionless => some .unpausePermissionless
  | _ => none

section Frame

variable {τ : Type} {env : PoolEnv τ} {s s' : Market τ} {op : Operation}

theorem applyPanic_inv {now : Int64} {e : PanicEvent} (h : s.applyPanic now e = .ok s') :
    ∃ panicState, s.feeState.panicState.apply now e = .ok panicState ∧
      s' = { s with feeState := { s.feeState with panicState := panicState } } := by
  obtain ⟨panicState, happly, h⟩ := bind_eq_ok.mp h
  cases h
  exact ⟨panicState, happly, rfl⟩

theorem lift_setting {f : Ledger τ → Result (Ledger τ)} (h : s.lift f = .ok s')
    (hgroups : s'.groups = s.groups) : s.SameSetting s' :=
  ⟨⟨hgroups, (lift_eq_ok h).2.1⟩, (lift_eq_ok h).2.2⟩

/-- All other instructions leave these alone. -/
theorem Operation.setting_of_run (h : op.run env s = .ok s') (hop : op.isControl = false) :
    s.SameSetting s' := by
  cases op with
  | initializeAccount =>
    obtain ⟨_, -, -, -, -, hsetting, -⟩ := marginfiAccountInitialize_inv h
    exact hsetting
  | deposit =>
    rcases lendingAccountDeposit_inv (lift_eq_ok h).1 with hnothing | ⟨_, _, _, _, _, _, _, _, _, _,
      -, -, -, -, -, -, -, -, -, -, -, -, -, -, hgroups, -⟩
    · exact lift_setting h (congrArg Ledger.groups hnothing)
    · exact lift_setting h hgroups
  | withdraw =>
    obtain ⟨_, _, _, _, _, _, _, _, _, _, -, -, -, -, -, -, -, -, -, -, -, -, -, hsetting, -⟩ :=
      lendingAccountWithdraw_inv h
    exact hsetting
  | borrow =>
    obtain ⟨_, _, _, _, _, _, _, _, _, _, _, _, _, _, -, -, -, -, -, -, -, -, -, -, -, -, -, -, -,
      -, hgroups, -⟩ := lendingAccountBorrow_inv (lift_eq_ok h).1
    exact lift_setting h hgroups
  | repay =>
    obtain ⟨_, _, _, _, _, _, _, _, _, -, -, -, -, -, -, -, -, -, hgroups⟩ :=
      lendingAccountRepay_inv (lift_eq_ok h).1
    exact lift_setting h hgroups
  | closeBalance =>
    obtain ⟨_, _, _, _, _, _, _, -, -, -, -, -, -, -, -, hgroups, -⟩ :=
      lendingAccountCloseBalance_inv (lift_eq_ok h).1
    exact lift_setting h hgroups
  | purgeDelevBalance =>
    obtain ⟨_, _, _, _, _, -, -, -, -, -, -, -, hgroups, -⟩ :=
      lendingAccountPurgeDelevBalance_inv (lift_eq_ok h).1
    exact lift_setting h hgroups
  | accrueBankInterest =>
    obtain ⟨_, _, _, -, -, -, -, hgroups⟩ := lendingPoolAccrueBankInterest_inv (lift_eq_ok h).1
    exact lift_setting h hgroups
  | liquidate =>
    obtain ⟨_, _, _, _, _, _, _, _, _, _, _, _, _, -, -, -, -, -, -, -, -, -, -, -, -, -, -, -, -,
      -, -, -, hsetting, -⟩ := lendingAccountLiquidate_inv h
    exact hsetting
  | handleBankruptcy =>
    obtain ⟨_, _, _, _, _, _, _, _, _, _, _, _, _, _, _, _, _, -, -, -, -, -, -, -, -, -, -, -, -,
      -, -, -, -, -, -, -, -, -, hsetting, -⟩ := lendingPoolHandleBankruptcy_inv h
    exact hsetting
  | startFlashloan =>
    obtain ⟨_, _, _, -, -, -, -, -, -, -, -, -, -, -, -, -, hend⟩ :=
      lendingAccountStartFlashloan_eq_ok.mp (lift_eq_ok h).1
    exact lift_setting h (by rw [hend]; rfl)
  | endFlashloan =>
    obtain ⟨_, _, -, -, -, hend⟩ := lendingAccountEndFlashloan_inv (lift_eq_ok h).1
    exact lift_setting h (by rw [hend]; rfl)
  | transferAccount =>
    obtain ⟨_, _, _, _, -, -, -, -, -, -, -, -, hsetting, -⟩ := transferToNewAccount_inv h
    exact hsetting
  | setFreeze =>
    obtain ⟨_, _, -, -, -, -, hgroups, -⟩ := setAccountFreeze_inv (lift_eq_ok h).1
    exact lift_setting h hgroups
  | closeAccount =>
    obtain ⟨_, -, -, -, hgroups, -⟩ := closeAccount_inv (lift_eq_ok h).1
    exact lift_setting h hgroups
  | closeBank =>
    obtain ⟨-, -, hsetting⟩ := lendingPoolCloseBank_inv h
    exact hsetting
  | collectBankFees =>
    obtain ⟨_, _, _, _, _, _, _, _, _, _, _, _, -, -, -, -, -, -, -, -, -, -, -, -, hsetting⟩ :=
      lendingPoolCollectBankFees_inv h
    exact hsetting
  | initializeGroup => cases hop
  | addBank => cases hop
  | panicPause => cases hop
  | panicUnpause => cases hop
  | panicUnpausePermissionless => cases hop
  | propagateFee => cases hop

/-- The instructions change the panic state as their events say. -/
theorem Operation.panicState_of_run (h : op.run env s = .ok s') :
    match op.panicEvent with
    | none => s'.feeState = s.feeState
    | some e => s.feeState.panicState.apply env.clock.unixTimestamp e =
        .ok s'.feeState.panicState := by
  cases op with
  | initializeGroup =>
    obtain ⟨_, -, h⟩ := bind_eq_ok.mp h
    cases h
    rfl
  | addBank =>
    obtain ⟨_, _, _, _, -, -, -, -, -, -, -, -, -, -, hcontrol⟩ := lendingPoolAddBank_inv h
    exact hcontrol.feeState
  | propagateFee =>
    obtain ⟨_, -, h⟩ := bind_eq_ok.mp h
    cases h
    rfl
  | panicPause =>
    obtain ⟨_, -, h⟩ := bind_eq_ok.mp h
    obtain ⟨_, happly, rfl⟩ := applyPanic_inv h
    exact happly
  | panicUnpause =>
    obtain ⟨_, -, h⟩ := bind_eq_ok.mp h
    obtain ⟨_, happly, rfl⟩ := applyPanic_inv h
    exact happly
  | panicUnpausePermissionless =>
    obtain ⟨_, happly, rfl⟩ := applyPanic_inv h
    exact happly
  | _ => exact (setting_of_run h rfl).feeState

/-- What a group says about a pause. -/
def MarginfiGroup.pause (group : MarginfiGroup) : UInt8 × Int64 :=
  (group.pauseFlags, group.pauseStartTimestamp)

/-- What a panic state says about a pause. -/
def PanicState.paused (p : PanicState) : UInt8 × Int64 := (p.pauseFlags, p.pauseStartTimestamp)

/-- A group has its fees from the fee state, and is not paused, or paused by the panic state. -/
structure MarginfiGroup.Copied (feeState : FeeState) (group' : MarginfiGroup) : Prop where
  programFeeRate : group'.programFeeRate = feeState.programFeeRate
  pause : group'.pause = (0, 0) ∨ group'.pause = feeState.panicState.paused

theorem update_eq_some {α : Type} {f : Pubkey → Option α} {a key : Pubkey} {x y : α}
    (h : Function.update f a (some x) key = some y) : f key = some y ∨ y = x := by
  by_cases hkey : key = a
  · subst hkey
    rw [Function.update_self] at h
    exact .inr (Option.some.inj h).symm
  · rw [Function.update_of_ne hkey] at h
    exact .inl h

/-- A group is what it was before, or has the fee state copied to it. -/
theorem Operation.groups_of_run (h : op.run env s = .ok s') {key : Pubkey} {group' : MarginfiGroup}
    (hkey : s'.groups key = some group') :
    s.groups key = some group' ∨ group'.Copied s.feeState := by
  have hsame (hgroups : s'.groups = s.groups) :
      s.groups key = some group' ∨ group'.Copied s.feeState := .inl (by rwa [hgroups] at hkey)
  cases op with
  | initializeGroup ctx =>
    obtain ⟨rest, -, h⟩ := bind_eq_ok.mp h
    cases h
    refine (update_eq_some hkey).imp_right ?_
    rintro rfl
    exact ⟨rfl, .inl rfl⟩
  | propagateFee marginfiGroup =>
    obtain ⟨group, -, h⟩ := bind_eq_ok.mp h
    cases h
    refine (update_eq_some hkey).imp_right ?_
    rintro rfl
    exact ⟨rfl, .inr rfl⟩
  | addBank =>
    obtain ⟨_, _, _, _, -, -, -, -, -, -, -, -, -, -, hcontrol⟩ := lendingPoolAddBank_inv h
    exact hsame hcontrol.groups
  | panicPause =>
    obtain ⟨_, -, h⟩ := bind_eq_ok.mp h
    obtain ⟨_, -, rfl⟩ := applyPanic_inv h
    exact hsame rfl
  | panicUnpause =>
    obtain ⟨_, -, h⟩ := bind_eq_ok.mp h
    obtain ⟨_, -, rfl⟩ := applyPanic_inv h
    exact hsame rfl
  | panicUnpausePermissionless =>
    obtain ⟨_, -, rfl⟩ := applyPanic_inv h
    exact hsame rfl
  | _ => exact hsame (setting_of_run h rfl).groups

/-- The bumps of the vaults are only stored with a new bank. -/
theorem Operation.vaultBumps_of_run (h : op.run env s = .ok s')
    (hop : ∀ ctx bankConfig, op ≠ .addBank ctx bankConfig) : s'.vaultBumps = s.vaultBumps := by
  cases op with
  | addBank ctx bankConfig => exact absurd rfl (hop ctx bankConfig)
  | initializeGroup =>
    obtain ⟨_, -, h⟩ := bind_eq_ok.mp h
    cases h
    rfl
  | propagateFee =>
    obtain ⟨_, -, h⟩ := bind_eq_ok.mp h
    cases h
    rfl
  | panicPause =>
    obtain ⟨_, -, h⟩ := bind_eq_ok.mp h
    obtain ⟨_, -, rfl⟩ := applyPanic_inv h
    rfl
  | panicUnpause =>
    obtain ⟨_, -, h⟩ := bind_eq_ok.mp h
    obtain ⟨_, -, rfl⟩ := applyPanic_inv h
    rfl
  | panicUnpausePermissionless =>
    obtain ⟨_, -, rfl⟩ := applyPanic_inv h
    rfl
  | _ => exact (setting_of_run h rfl).vaultBumps

/-- No instruction changes what part of the fees is the program's. -/
theorem Operation.feeRate_of_run (h : op.run env s = .ok s') :
    s'.feeState.programFeeRate = s.feeState.programFeeRate := by
  cases op with
  | initializeGroup =>
    obtain ⟨_, -, h⟩ := bind_eq_ok.mp h
    cases h
    rfl
  | addBank =>
    obtain ⟨_, _, _, _, -, -, -, -, -, -, -, -, -, -, hcontrol⟩ := lendingPoolAddBank_inv h
    rw [hcontrol.feeState]
  | propagateFee =>
    obtain ⟨_, -, h⟩ := bind_eq_ok.mp h
    cases h
    rfl
  | panicPause =>
    obtain ⟨_, -, h⟩ := bind_eq_ok.mp h
    obtain ⟨_, -, rfl⟩ := applyPanic_inv h
    rfl
  | panicUnpause =>
    obtain ⟨_, -, h⟩ := bind_eq_ok.mp h
    obtain ⟨_, -, rfl⟩ := applyPanic_inv h
    rfl
  | panicUnpausePermissionless =>
    obtain ⟨_, -, rfl⟩ := applyPanic_inv h
    rfl
  | _ => rw [(setting_of_run h rfl).feeState]

end Frame

end Marginfi
