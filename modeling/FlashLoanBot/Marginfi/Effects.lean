import FlashLoanBot.Marginfi.Administration
import FlashLoanBot.Marginfi.Books
import FlashLoanBot.Marginfi.Payments

/-!
# marginfi: what the instructions do

Every instruction, taken apart once.

* `accrueInterest_revalues`, `updateBankCache_books`, …: what happens to a bank on the way;
* `find_located`, `findOrCreate_located`: the slot that an instruction works on;
* `lendingAccountDeposit_inv`, `lendingAccountWithdraw_inv`, `lendingAccountBorrow_inv`,
  `lendingAccountRepay_inv`, `lendingAccountLiquidate_inv`, `lendingPoolHandleBankruptcy_inv`: the
  change of a position, the transfer, and the accounts and banks that are written.
-/

namespace Marginfi

open Solana Checked Slots

/-- User accounts and banks of the ledger. -/
def Ledger.books {τ : Type} (s : Ledger τ) : Books := ⟨s.marginfiAccounts, s.banks⟩

/-! ### Banks -/

namespace Bank

variable {bank bank' : Bank}

/-- Accrual gives the bank other share values, of which none falls. -/
theorem accrueInterest_revalues {now : Int64} {group : MarginfiGroup}
    (h : bank.accrueInterest now group = .ok bank') (hpool : bank.pool.Nonneg) :
    bank.Revalues bank' := by
  obtain ⟨-, hsame | ⟨delta, haccrues⟩⟩ := accrueInterest_inv h
  · exact .of_pool (by rw [hsame]) (by rw [hsame]) (by rw [hsame]) (by rw [hsame])
  · obtain ⟨hassets, hliabs, -⟩ := haccrues.rises hpool
    refine ⟨fun side => ?_, hassets, hliabs⟩
    cases side
    exacts [haccrues.assetShares, haccrues.liabilityShares]

/-- What identifies a bank: its group, its vault, and how it charges interest. -/
structure SameBase (bank bank' : Bank) : Prop where
  group : bank'.group = bank.group
  liquidityVault : bank'.liquidityVault = bank.liquidityVault
  interestRateConfig : bank'.config.interestRateConfig = bank.config.interestRateConfig

/-- Neither the books of a bank change nor what identifies it. -/
structure SameBooks (bank bank' : Bank) : Prop extends bank.SameBase bank' where
  pool : bank'.pool = bank.pool

theorem SameBase.refl (bank : Bank) : bank.SameBase bank := ⟨rfl, rfl, rfl⟩

theorem SameBase.trans {b b' b'' : Bank} (h : b.SameBase b') (h' : b'.SameBase b'') :
    b.SameBase b'' :=
  ⟨h'.group.trans h.group, h'.liquidityVault.trans h.liquidityVault,
    h'.interestRateConfig.trans h.interestRateConfig⟩

theorem SameTerms.base (h : bank.SameTerms bank') : bank.SameBase bank' :=
  ⟨h.group, h.liquidityVault, congrArg BankConfig.interestRateConfig h.config⟩

theorem SameBooks.refl (bank : Bank) : bank.SameBooks bank := ⟨.refl bank, rfl⟩

theorem SameBooks.trans {b b' b'' : Bank} (h : b.SameBooks b') (h' : b'.SameBooks b'') :
    b.SameBooks b'' :=
  ⟨h.toSameBase.trans h'.toSameBase, h'.pool.trans h.pool⟩

theorem accrueInterest_base {now : Int64} {group : MarginfiGroup}
    (h : bank.accrueInterest now group = .ok bank') : bank.SameBase bank' := by
  simp only [accrueInterest, bind_eq_ok] at h
  obtain ⟨delta, -, h⟩ := h
  split_ifs at h
  · cases h
    exact .refl bank
  · simp only [bind_eq_ok] at h
    obtain ⟨assets, -, liabs, -, h⟩ := h
    split_ifs at h
    · cases h
      exact ⟨rfl, rfl, rfl⟩
    · simp only [bind_eq_ok] at h
      obtain ⟨_, -, _, -, _, -, _, -, _, -, _, -, h⟩ := h
      cases h
      exact ⟨rfl, rfl, rfl⟩

theorem updateBankCache_books {group : MarginfiGroup} {clock : Clock}
    (h : bank.updateBankCache group clock = .ok bank') : bank.SameBooks bank' := by
  simp only [updateBankCache, bind_eq_ok] at h
  obtain ⟨assets, -, liabs, -, h⟩ := h
  split_ifs at h
  · cases h
    exact ⟨⟨rfl, rfl, rfl⟩, rfl⟩
  · simp only [bind_eq_ok] at h
    obtain ⟨_, -, _, -, _, -, _, -, _, -, h⟩ := h
    cases h
    exact ⟨⟨rfl, rfl, rfl⟩, rfl⟩

theorem updateCachePrice_books (bank : Bank) (price : Option OraclePriceWithConfidence)
    (clock : Clock) : bank.SameBooks (bank.updateCachePrice price clock) := by
  cases price <;> exact ⟨⟨rfl, rfl, rfl⟩, rfl⟩

theorem updateCaches_books {group : MarginfiGroup} {clock : Clock}
    {price : Result OraclePriceWithConfidence}
    (h : bank.updateCaches group clock price = .ok bank') : bank.SameBooks bank' := by
  obtain ⟨b, hb, h⟩ := bind_eq_ok.mp h
  cases h
  exact (updateBankCache_books hb).trans (updateCachePrice_books _ _ _)

theorem markTokenlessRepayments_books (h : markTokenlessRepayments bank = .ok bank') :
    bank.SameBooks bank' := by
  unfold markTokenlessRepayments at h
  split_ifs at h
  · simp only [bind_eq_ok] at h
    obtain ⟨_, -, _, -, h⟩ := h
    split_ifs at h <;> cases h <;> exact ⟨⟨rfl, rfl, rfl⟩, rfl⟩
  · cases h
    exact .refl bank

theorem updateBankCache_flag {group : MarginfiGroup} {clock : Clock} {flag : UInt64}
    (h : bank.updateBankCache group clock = .ok bank') (hflag : bank.getFlag flag = true) :
    bank'.getFlag flag = true := by
  simp only [updateBankCache, bind_eq_ok] at h
  obtain ⟨assets, -, liabs, -, h⟩ := h
  split_ifs at h
  · cases h
    exact hflag
  · simp only [bind_eq_ok] at h
    obtain ⟨_, -, _, -, _, -, _, -, _, -, h⟩ := h
    cases h
    exact hflag

theorem markTokenlessRepayments_flag (h : markTokenlessRepayments bank = .ok bank')
    (hflag : bank.getFlag tokenlessRepaymentsAllowed = true) :
    bank'.getFlag tokenlessRepaymentsAllowed = true := by
  unfold markTokenlessRepayments at h
  rw [if_pos hflag] at h
  simp only [bind_eq_ok] at h
  obtain ⟨_, -, _, -, h⟩ := h
  split_ifs at h <;> cases h
  · have hkept := MarginfiAccount.or_and_of_disjoint bank.flags
      (show tokenlessRepaymentsComplete &&& tokenlessRepaymentsAllowed = 0 by decide)
    unfold getFlag at hflag ⊢
    rwa [hkept]
  · exact hflag

theorem Revalues.of_pool_eq (h : bank'.pool = bank.pool) : bank.Revalues bank' :=
  .of_pool (by rw [h]) (by rw [h]) (by rw [h]) (by rw [h])

/-- The origination fee is no share. -/
theorem creditOriginationFee_revalues {group : MarginfiGroup} {fee : I80F48}
    (h : creditOriginationFee bank group fee = .ok bank') : bank.Revalues bank' := by
  unfold creditOriginationFee at h
  split_ifs at h
  · cases h
    exact .refl bank
  · cases h
    exact .of_pool rfl rfl rfl rfl
  · simp only [bind_eq_ok] at h
    obtain ⟨programFee, -, h⟩ := h
    cases h
    exact .of_pool rfl rfl rfl rfl

theorem Revalues.trans {b b' b'' : Bank} (h : b.Revalues b') (h' : b'.Revalues b'') :
    b.Revalues b'' :=
  ⟨fun side => (h'.totalShares side).trans (h.totalShares side),
    h.assetShareValue.trans h'.assetShareValue, h.liabilityShareValue.trans h'.liabilityShareValue⟩

theorem creditOriginationFee_base {group : MarginfiGroup} {fee : I80F48}
    (h : creditOriginationFee bank group fee = .ok bank') : bank.SameBase bank' := by
  unfold creditOriginationFee at h
  split_ifs at h
  · cases h
    exact .refl bank
  · cases h
    exact ⟨rfl, rfl, rfl⟩
  · simp only [bind_eq_ok] at h
    obtain ⟨programFee, -, h⟩ := h
    cases h
    exact ⟨rfl, rfl, rfl⟩

theorem socializeLoss_base {loss : I80F48} {kill : Bool}
    (h : bank.socializeLoss loss = .ok (bank', kill)) : bank.SameBase bank' := by
  simp only [socializeLoss, bind_eq_ok] at h
  obtain ⟨total, -, h⟩ := h
  split_ifs at h
  · cases h
    exact ⟨rfl, rfl, rfl⟩
  · simp only [bind_eq_ok] at h
    obtain ⟨left, -, value, -, h⟩ := h
    cases h
    exact ⟨rfl, rfl, rfl⟩

/-- A loss leaves the shares and the debts as they are. -/
theorem socializeLoss_loses {loss : I80F48} {kill : Bool}
    (h : bank.socializeLoss loss = .ok (bank', kill)) (hshares : 0 ≤ bank.totalAssetShares) :
    bank.Loses bank' := by
  simp only [socializeLoss, bind_eq_ok, math, fromOption_eq_ok] at h
  obtain ⟨total, htotal, h⟩ := h
  split_ifs at h with hwiped
  · cases h
    refine ⟨fun side => ?_, le_rfl, rfl⟩
    cases side <;> rfl
  · simp only [bind_eq_ok, orPanic, fromOption_eq_ok] at h
    obtain ⟨left, hleft, value, hvalue, h⟩ := h
    cases h
    have hleft0 : 0 ≤ left := by
      show 0 ≤ left.bits
      rw [FixedPoint.checkedSub_eq_some.mp hleft]
      exact sub_nonneg.mpr (not_le.mp hwiped).le
    refine ⟨fun side => ?_, FixedPoint.checkedDiv_nonneg hleft0 hshares hvalue, rfl⟩
    cases side <;> rfl

end Bank

/-- Neither the groups nor the fee state change. -/
structure Market.SameControl {τ : Type} (s s' : Market τ) : Prop where
  groups : s'.groups = s.groups
  feeState : s'.feeState = s.feeState

/-- Nor do the bumps of the vaults. -/
structure Market.SameSetting {τ : Type} (s s' : Market τ) : Prop extends s.SameControl s' where
  vaultBumps : s'.vaultBumps = s.vaultBumps

/-! ### Slots -/

namespace BankAccountWrapper

variable {bankPk : Pubkey} {bank : Bank} {account : LendingAccount} {w : BankAccountWrapper}

theorem find_bank (h : find bankPk bank account = .ok w) : w.bank = bank := by
  simp only [find, bind_eq_ok] at h
  obtain ⟨_, -, _, -, h⟩ := h
  cases h
  rfl

theorem find_located (h : find bankPk bank account = .ok w) : w.Located bankPk account := by
  obtain ⟨hslot, hheld⟩ := find_inv h
  exact ⟨hheld, .inl hslot⟩

theorem findOrCreate_bank {clock : Clock} (h : findOrCreate bankPk bank account clock = .ok w) :
    w.bank = bank := by
  unfold findOrCreate at h
  cases hpos : account.position? bankPk with
  | some slot =>
    rw [hpos] at h
    obtain ⟨_, -, h⟩ := bind_eq_ok.mp h
    cases h
    rfl
  | none =>
    rw [hpos] at h
    simp only [bind_eq_ok] at h
    obtain ⟨_, -, _, -, h⟩ := h
    cases h
    rfl

/-- A position that was not there before has no shares. -/
theorem findOrCreate_shares {clock : Clock} (h : findOrCreate bankPk bank account clock = .ok w)
    (hnew : bankPk ∉ account.activeBanks) (side : BalanceSide) : w.balance.shares side = 0 := by
  unfold findOrCreate at h
  cases hpos : account.position? bankPk with
  | some slot =>
    refine absurd ?_ hnew
    obtain ⟨hlt, hfound, -⟩ := List.findIdx?_eq_some_iff_getElem.mp hpos
    exact LendingAccount.mem_activeBanks.mpr ⟨_, List.getElem_mem hlt, by simpa using hfound⟩
  | none =>
    rw [hpos] at h
    simp only [bind_eq_ok] at h
    obtain ⟨_, -, _, -, h⟩ := h
    cases h
    cases side <;> rfl

theorem findOrCreate_located {clock : Clock} (h : findOrCreate bankPk bank account clock = .ok w) :
    w.Located bankPk account := by
  obtain ⟨hheld, hfound | ⟨hnew, b, hb, hnone⟩⟩ := findOrCreate_inv h
  · exact ⟨hheld, .inl hfound⟩
  · exact ⟨hheld, .inr ⟨hnew, findOrCreate_shares h hnew, b, hb, hnone⟩⟩

end BankAccountWrapper

/-! ### What the instructions do -/

section Inversion

variable {τ : Type} {env : Env τ} {remaining : List Pubkey} {amount : UInt64} {s s' : Ledger τ}

/-- Interest is accrued on a bank of the ledger, by the rates of its group. -/
structure Ledger.AccruedTo (s : Ledger τ) (env : Env τ) (key : Pubkey) (bank accrued : Bank) :
    Prop where
  loaded : s.banks key = some bank
  accrued : ∃ group, s.groups bank.group = some group ∧
    bank.accrueInterest env.clock.unixTimestamp group = .ok accrued

/-- A transfer is passed a mint, as it stands in an account. -/
structure Env.Passes (env : Env τ) (rest : τ) (mint : Option (Pubkey × Mint)) (t : Transfer) :
    Prop where
  passed : t.mint = mint.map Prod.fst
  found : ∀ key m, mint = some (key, m) → env.mint rest key = some m

theorem maybeTakeBankMint_inv {rest : τ} {bank : Bank} {tokenProgram : Pubkey}
    {mint : Option (Pubkey × Mint)} {ais : List Pubkey}
    (h : maybeTakeBankMint env rest remaining bank tokenProgram = .ok (mint, ais)) (key : Pubkey)
    (m : Mint) (hmint : mint = some (key, m)) : env.mint rest key = some m := by
  subst hmint
  unfold maybeTakeBankMint at h
  split_ifs at h
  · cases h
  · cases remaining with
    | nil => cases h
    | cons first others =>
      simp only [bind_eq_ok, fromOption_eq_ok] at h
      obtain ⟨_, -, found, hfound, h⟩ := h
      cases h
      exact hfound

theorem checkCommonConstraints_inv {groupKey liquidityVault authority : Pubkey}
    {receivership : Bool}
    {group : MarginfiGroup} {account : MarginfiAccount} {bank : Bank} {u : Unit}
    (h : checkCommonConstraints env groupKey liquidityVault authority receivership group account
      bank = .ok u) : bank.group = groupKey ∧ bank.liquidityVault = liquidityVault := by
  simp only [checkCommonConstraints, bind_eq_ok, check_eq_ok] at h
  obtain ⟨_, -, _, -, _, -, _, -, _, -, _, hgroup, _, hvault, -⟩ := h
  exact ⟨hgroup, hvault⟩

/-- A deposit does nothing, or accrues interest, records the deposit in the slot of its bank and
pays it into the vault. -/
theorem lendingAccountDeposit_inv {ctx : LendingAccountDeposit} {upToLimit : Option Bool}
    (h : lendingAccountDeposit env ctx remaining amount upToLimit s = .ok s') :
    s' = s ∨ ∃ account bank accrued w w' deposited mint t bank' account',
      s.marginfiAccounts ctx.marginfiAccount = some account ∧
      s.AccruedTo env ctx.bank bank accrued ∧ bank.liquidityVault = ctx.liquidityVault ∧
      BankAccountWrapper.findOrCreate ctx.bank accrued account.lendingAccount env.clock = .ok w ∧
      w.deposit (.ofU64 deposited) env.clock = .ok w' ∧
      env.Passes s.rest mint t ∧
      calculatePreFeeSplDepositAmount mint deposited env.clock.epoch = .ok t.amount ∧
      t.signerSeeds = none ∧ t.tokenProgram = ctx.tokenProgram ∧
      t.destination = ctx.liquidityVault ∧ env.transfer t s.rest = .ok s'.rest ∧
      w'.bank.SameBooks bank' ∧
      account'.lendingAccount = (account.lendingAccount.store w').sortBalances ∧
      s'.books = (s.books.setAccount ctx.marginfiAccount account').setBank ctx.bank bank' ∧
      s'.groups = s.groups ∧ account'.inFlashloan = account.inFlashloan := by
  simp only [lendingAccountDeposit, bind_eq_ok, Ledger.loadGroup, Ledger.loadAccount,
    Ledger.loadBank, fromOption_eq_ok] at h
  obtain ⟨group, hgroup, account, haccount, bank, hbank, _, -, _, hconstraints, ⟨mint, ais⟩, hmint,
    _, -, _, -, _, -, deposited, -, h⟩ := h
  obtain ⟨_, hcommon, -⟩ := bind_eq_ok.mp hconstraints
  obtain ⟨hmember, hvault⟩ := checkCommonConstraints_inv hcommon
  split_ifs at h with hzero
  · cases h
    exact .inl rfl
  · simp only [bind_eq_ok, recordDeposit, Bank.depositSplTransfer, check_eq_ok] at h
    obtain ⟨accrued, haccrued, ⟨_, _⟩, ⟨w, hw, w', hw', hrecord⟩, pre, hpre, rest, ⟨_, -, hrest⟩,
      bank', hbank', h⟩ := h
    cases hrecord
    cases h
    refine .inr ⟨account, bank, accrued, w, w', deposited, mint, _, bank', _, haccount,
      ⟨hbank, group, hmember ▸ hgroup, haccrued⟩, hvault, hw, hw',
      ⟨rfl, maybeTakeBankMint_inv hmint⟩, hpre, rfl, rfl, rfl, hrest,
      Bank.updateBankCache_books hbank', rfl, rfl, rfl, rfl⟩

theorem min_le_of_left (a b : UInt64) : min a b ≤ a := by
  show (if a ≤ b then a else b) ≤ a
  split_ifs with h
  · exact UInt64.le_refl a
  · exact UInt64.le_of_lt (UInt64.not_le.mp h)

theorem min_le_of_right (a b : UInt64) : min a b ≤ b := by
  show (if a ≤ b then a else b) ≤ b
  split_ifs with h
  · exact h
  · exact UInt64.le_refl b

/-- A withdrawal accrues interest, records what is withdrawn in the slot of its bank and pays it, or
what is left, out of the vault. -/
theorem lendingAccountWithdraw_inv {env : VaultEnv τ} {ctx : LendingAccountWithdraw}
    {withdrawAll : Option Bool} {s s' : Market τ}
    (h : lendingAccountWithdraw env ctx remaining amount withdrawAll s = .ok s') :
    ∃ account bank accrued w w' withdrawn mint t bank' account',
      s.marginfiAccounts ctx.marginfiAccount = some account ∧
      s.AccruedTo env.toEnv ctx.bank bank accrued ∧ bank.liquidityVault = ctx.liquidityVault ∧
      BankAccountWrapper.find ctx.bank accrued account.lendingAccount = .ok w ∧
      w.withdrawBy mint amount (withdrawAll.getD false) env.clock = .ok (w', withdrawn) ∧
      env.Passes s.rest mint t ∧ t.amount ≤ withdrawn ∧
      t.source = ctx.liquidityVault ∧ t.tokenProgram = ctx.tokenProgram ∧
      env.transfer t s.rest = .ok s'.rest ∧ w'.bank.SameBooks bank' ∧
      account'.lendingAccount = (account.lendingAccount.store w').sortBalances ∧
      s'.books = (s.books.setAccount ctx.marginfiAccount account').setBank ctx.bank bank' ∧
      s.SameSetting s' ∧ account'.inFlashloan = account.inFlashloan := by
  simp only [lendingAccountWithdraw, bind_eq_ok, Ledger.loadGroup, Ledger.loadAccount,
    Ledger.loadBank, fromOption_eq_ok, recordWithdraw] at h
  obtain ⟨group, hgroup, account, haccount, bank, hbank, _, -, _, hconstraints, _, -, _, -,
    ⟨mint, ais⟩, hmint, price, -, accrued, haccrued, ⟨_, _, _⟩, ⟨w, hw, ⟨w', withdrawn⟩, hw',
    hrecord⟩, paid, hpaid, window, -, rest, hrest, cached, hcached, seen, -, h⟩ := h
  cases hrecord
  cases h
  obtain ⟨_, hcommon, -⟩ := bind_eq_ok.mp hconstraints
  obtain ⟨hmember, hvault⟩ := checkCommonConstraints_inv hcommon
  refine ⟨account, bank, accrued, w, w', withdrawn, mint, _, _, _, haccount,
    ⟨hbank, group, hmember ▸ hgroup, haccrued⟩, hvault, hw, hw',
    ⟨rfl, maybeTakeBankMint_inv hmint⟩, ?_, rfl, rfl, hrest,
    (Bank.updateBankCache_books hcached).trans (Bank.updateCachePrice_books _ _ _), rfl, rfl,
    ⟨⟨rfl, rfl⟩, rfl⟩, rfl⟩
  unfold payableAmount at hpaid
  split_ifs at hpaid
  · obtain ⟨actual, -, hpaid⟩ := bind_eq_ok.mp hpaid
    cases hpaid
    exact min_le_of_left _ _
  · cases hpaid
    exact UInt64.le_refl _

/-- A borrow accrues interest, records the amount and the fee as a debt in the slot of its bank,
pays the amount out of the vault and credits the fee. -/
theorem lendingAccountBorrow_inv {ctx : LendingAccountBorrow}
    (h : lendingAccountBorrow env ctx remaining amount s = .ok s') :
    ∃ group account bank accrued w w' fee feeU64 debt mint t credited bank' account',
      s.marginfiAccounts ctx.marginfiAccount = some account ∧
      s.AccruedTo env ctx.bank bank accrued ∧ bank.liquidityVault = ctx.liquidityVault ∧
      BankAccountWrapper.findOrCreate ctx.bank accrued account.lendingAccount env.clock = .ok w ∧
      env.transfer t s.rest = .ok s'.rest ∧ t.source = ctx.liquidityVault ∧
      t.tokenProgram = ctx.tokenProgram ∧ env.Passes s.rest mint t ∧
      calculatePreFeeSplDepositAmount mint amount env.clock.epoch = .ok t.amount ∧
      originationFee accrued t.amount = .ok (fee, feeU64) ∧
      (I80F48.ofU64 t.amount).checkedAdd fee = some debt ∧ w.borrow debt env.clock = .ok w' ∧
      creditOriginationFee w'.bank group fee = .ok credited ∧ credited.SameBooks bank' ∧
      account'.lendingAccount = (account.lendingAccount.store w').sortBalances ∧
      s'.books = (s.books.setAccount ctx.marginfiAccount account').setBank ctx.bank bank' ∧
      s'.groups = s.groups ∧ s.groups ctx.group = some group := by
  simp only [lendingAccountBorrow, bind_eq_ok, Ledger.loadGroup, Ledger.loadAccount,
    Ledger.loadBank, fromOption_eq_ok, recordBorrow, orPanic] at h
  obtain ⟨group, hgroup, account, haccount, bank, hbank, _, -, _, hconstraints, ⟨mint, ais⟩, hmint,
    _, -, accrued, haccrued, _, -, _, -, w, hw, pre, hpre, ⟨fee, feeU64⟩, hfee, ⟨_, _⟩,
    ⟨debt, hdebt, w', hw', hrecord⟩, rest, hrest, _, -, credited, hcredited, engine, -, cached,
    hcached, h⟩ := h
  cases hrecord
  cases h
  obtain ⟨_, hcommon, -⟩ := bind_eq_ok.mp hconstraints
  obtain ⟨hmember, hvault⟩ := checkCommonConstraints_inv hcommon
  exact ⟨group, account, bank, accrued, w, w', fee, feeU64, debt, mint, _, credited, _, _,
    haccount, ⟨hbank, group, hmember ▸ hgroup, haccrued⟩, hvault, hw, hrest, rfl, rfl,
    ⟨rfl, maybeTakeBankMint_inv hmint⟩, hpre, hfee, hdebt, hw', hcredited,
    (Bank.updateBankCache_books hcached).trans (Bank.updateCachePrice_books _ _ _), rfl, rfl, rfl,
    hgroup⟩

/-- A repayment accrues interest, records what is repaid in the slot of its bank and pays it into
the vault, unless the risk admin clears the debt. -/
theorem lendingAccountRepay_inv {ctx : LendingAccountRepay} {repayAll : Option Bool}
    (h : lendingAccountRepay env ctx remaining amount repayAll s = .ok s') :
    ∃ account bank accrued w w' paid mint bank' account',
      s.marginfiAccounts ctx.marginfiAccount = some account ∧
      s.AccruedTo env ctx.bank bank accrued ∧ bank.liquidityVault = ctx.liquidityVault ∧
      BankAccountWrapper.find ctx.bank accrued account.lendingAccount = .ok w ∧
      w.repayBy amount (repayAll.getD false) env.clock = .ok (w', paid) ∧
      (bank'.getFlag tokenlessRepaymentsAllowed = true ∧ s'.rest = s.rest ∨
        ∃ t : Transfer, env.Passes s.rest mint t ∧
          calculatePreFeeSplDepositAmount mint paid env.clock.epoch = .ok t.amount ∧
          t.signerSeeds = none ∧ t.tokenProgram = ctx.tokenProgram ∧
          t.destination = ctx.liquidityVault ∧ env.transfer t s.rest = .ok s'.rest) ∧
      w'.bank.SameBooks bank' ∧
      account'.lendingAccount = (account.lendingAccount.store w').sortBalances ∧
      s'.books = (s.books.setAccount ctx.marginfiAccount account').setBank ctx.bank bank' ∧
      s'.groups = s.groups := by
  simp only [lendingAccountRepay, bind_eq_ok, Ledger.loadGroup, Ledger.loadAccount, Ledger.loadBank,
    fromOption_eq_ok, recordRepay] at h
  obtain ⟨group, hgroup, account, haccount, bank, hbank, _, -, _, hconstraints, ⟨mint, ais⟩, hmint,
    _, -, _, -, accrued, haccrued, ⟨_, _, _⟩, ⟨w, hw, ⟨w', paid⟩, hw', hrecord⟩, rest, hrest,
    marked, hmarked, cached, hcached, h⟩ := h
  cases hrecord
  cases h
  obtain ⟨hmember, hvault⟩ := checkCommonConstraints_inv hconstraints
  refine ⟨account, bank, accrued, w, w', paid, mint, _, _, haccount,
    ⟨hbank, group, hmember ▸ hgroup, haccrued⟩, hvault, hw, hw', ?_,
    (Bank.markTokenlessRepayments_books hmarked).trans (Bank.updateBankCache_books hcached), rfl,
    rfl, rfl⟩
  unfold payRepayment at hrest
  split_ifs at hrest with htokenless
  · cases hrest
    simp only [isTokenlessRepayment, Bool.and_eq_true] at htokenless
    exact .inl ⟨Bank.updateBankCache_flag hcached
      (Bank.markTokenlessRepayments_flag hmarked htokenless.1.2), rfl⟩
  · simp only [depositRepayment, bind_eq_ok] at hrest
    obtain ⟨pre, hpre, _, -, htransfer⟩ := hrest
    exact .inr ⟨_, ⟨rfl, maybeTakeBankMint_inv hmint⟩, hpre, rfl, rfl, rfl, htransfer⟩

/-- The four changes of positions in a liquidation, each in a slot of its account. -/
theorem liquidatePositions_inv {clock : Clock} {ctx : LendingAccountLiquidate}
    {assetAmount assetPrice liabPrice : I80F48} {assetBank liabBank : Bank}
    {liquidator liquidatee : MarginfiAccount} {done : Liquidated}
    (h : liquidatePositions clock ctx assetAmount assetPrice liabPrice assetBank liabBank liquidator
      liquidatee = .ok done) :
    ∃ paid final fee w1 v1 w2 v2 w3 v3 w4 v4 fees,
      liquidationAmounts assetAmount assetPrice liabPrice assetBank liabBank =
        .ok (paid, final, fee) ∧
      BankAccountWrapper.findOrCreate ctx.liabBank liabBank liquidator.lendingAccount clock =
        .ok w1 ∧ w1.withdrawIgnoreBorrowCap paid clock = .ok v1 ∧
      BankAccountWrapper.find ctx.assetBank assetBank liquidatee.lendingAccount = .ok w2 ∧
      w2.withdrawIgnoreBorrowCap assetAmount clock = .ok v2 ∧
      BankAccountWrapper.findOrCreate ctx.assetBank v2.bank (liquidator.lendingAccount.store v1)
        clock = .ok w3 ∧ w3.depositIgnoreDepositCap assetAmount clock = .ok v3 ∧
      BankAccountWrapper.find ctx.liabBank v1.bank (liquidatee.lendingAccount.store v2) = .ok w4 ∧
      w4.repay final clock = .ok v4 ∧
      I80F48.toU64? fee = some done.insuranceFeeToTransfer ∧
      v4.bank.collectedInsuranceFeesOutstanding.checkedAdd (fracOf fee) = some fees ∧
      done.liquidator.lendingAccount = (liquidator.lendingAccount.store v1).store v3 ∧
      done.liquidatee.lendingAccount = (liquidatee.lendingAccount.store v2).store v4 ∧
      done.assetBank = v3.bank ∧
      done.liabBank = { v4.bank with collectedInsuranceFeesOutstanding := fees } ∧
      done.liquidator.inFlashloan = liquidator.inFlashloan ∧
      done.liquidatee.inFlashloan = liquidatee.inFlashloan := by
  simp only [liquidatePositions, liquidatorTakesDebt, liquidateeGivesAsset, liquidatorTakesAsset,
    liquidateeRepays, MarginfiAccount.storeWith, bind_eq_ok, math, fromOption_eq_ok] at h
  obtain ⟨⟨paid, final, fee⟩, hamounts, ⟨_, _⟩, ⟨w1, hw1, _, -, v1, hv1, _, -, h1⟩, ⟨_, _⟩,
    ⟨w2, hw2, _, -, _, -, v2, hv2, _, -, h2⟩, ⟨_, _⟩, ⟨w3, hw3, _, -, v3, hv3, _, -, h3⟩, units,
    hunits, ⟨_, _⟩, ⟨w4, hw4, _, -, v4, hv4, _, -, h4⟩, fees, hfees, h⟩ := h
  cases h1
  cases h2
  cases h3
  cases h4
  cases h
  exact ⟨paid, final, fee, w1, v1, w2, v2, w3, v3, w4, v4, fees, hamounts, hw1, hv1, hw2, hv2, hw3,
    hv3, hw4, hv4, hunits, hfees, rfl, rfl, rfl, rfl, rfl, rfl⟩

/-- A liquidation accrues interest on two banks, moves the positions of two accounts in them and
pays the fee from one vault into the other. -/
theorem lendingAccountLiquidate_inv {ctx : LendingAccountLiquidate} {assetAmount : UInt64}
    {liquidateeAccounts liquidatorAccounts : UInt8} {s s' : Market τ}
    (h : lendingAccountLiquidate env ctx remaining assetAmount liquidateeAccounts
      liquidatorAccounts s = .ok s') :
    ∃ assetBank liabBank liquidator liquidatee assetAccrued liabAccrued assetPrice liabPrice
      done t assetBank' liabBank' liquidator',
      0 < assetAmount ∧ ctx.assetBank ≠ ctx.liabBank ∧
      ctx.liquidatorMarginfiAccount ≠ ctx.liquidateeMarginfiAccount ∧
      s.AccruedTo env ctx.assetBank assetBank assetAccrued ∧
      s.AccruedTo env ctx.liabBank liabBank liabAccrued ∧
      s.marginfiAccounts ctx.liquidatorMarginfiAccount = some liquidator ∧
      s.marginfiAccounts ctx.liquidateeMarginfiAccount = some liquidatee ∧
      0 < assetPrice ∧ 0 < liabPrice ∧
      liquidatePositions env.clock ctx (.ofU64 assetAmount) assetPrice liabPrice assetAccrued
        liabAccrued liquidator
        { liquidatee with lendingAccount := liquidatee.lendingAccount.sortBalances } = .ok done ∧
      env.createProgramAddress liquidityVaultSeed ctx.liabBank
        (s.vaultBumps ctx.liabBank).liquidityVaultBump = some ctx.bankLiquidityVault ∧
      env.transfer t s.rest = .ok s'.rest ∧ t.amount = done.insuranceFeeToTransfer ∧
      t.source = ctx.bankLiquidityVault ∧ t.tokenProgram = ctx.tokenProgram ∧
      done.assetBank.SameBooks assetBank' ∧ done.liabBank.SameBooks liabBank' ∧
      liquidator'.lendingAccount = done.liquidator.lendingAccount.sortBalances ∧
      s'.books = ⟨Function.update (Function.update s.marginfiAccounts ctx.liquidatorMarginfiAccount
          (some liquidator')) ctx.liquidateeMarginfiAccount (some done.liquidatee),
        updateBanks s.banks ctx assetBank' liabBank'⟩ ∧
      s.SameSetting s' ∧ liquidator'.inFlashloan = liquidator.inFlashloan ∧
      done.liquidatee.inFlashloan = liquidatee.inFlashloan := by
  simp only [lendingAccountLiquidate, bind_eq_ok, Ledger.loadGroup, Ledger.loadAccount,
    Ledger.loadBank, fromOption_eq_ok, checkLending_eq_ok, ensure_eq_ok, liquidationPrices] at h
  obtain ⟨group, hgroup, assetBank, hassetBank, liabBank, hliabBank, liquidator, hliquidator,
    liquidatee, hliquidatee, h⟩ := h
  obtain ⟨-, -, _, hconstraints, -, hpositive, -, hbanks, -, -, -, haccounts, ⟨mint, ais⟩, -,
    h⟩ := h
  obtain ⟨assetAccrued, hassetAccrued, liabAccrued, hliabAccrued, -, -, engine, -, health, -,
    h⟩ := h
  obtain ⟨⟨assetPrice, liabPrice⟩, ⟨_, -, _, -, _, hassetPrice, _, -, _, -, _, -, _, -, _,
    hliabPrice, hprices⟩, done, hdone, rest, hrest, h⟩ := h
  obtain ⟨assetBank', hassetBank', liabBank', hliabBank', -, -, post, -, -, -, -, -, h⟩ := h
  cases hprices
  cases h
  simp only [checkLiquidateConstraints, bind_eq_ok, check_eq_ok, ensure_eq_ok] at hconstraints
  obtain ⟨_, -, _, -, _, hassetMember, _, hliabMember, -, -, -, -, -, -, -, -, -, -, -, -, -, -, -,
    -, _, hvault, -⟩ := hconstraints
  obtain ⟨_, _, _, _, _, _, _, _, _, _, _, _, -, -, -, -, -, -, -, -, -, -, -, -, -, -, -,
    hliquidatorLoan, hliquidateeLoan⟩ := liquidatePositions_inv hdone
  exact ⟨assetBank, liabBank, liquidator, liquidatee, assetAccrued, liabAccrued, assetPrice,
    liabPrice, done, _, assetBank', liabBank', _, hpositive, hbanks, haccounts,
    ⟨hassetBank, group, hassetMember ▸ hgroup, hassetAccrued⟩,
    ⟨hliabBank, group, hliabMember ▸ hgroup, hliabAccrued⟩, hliquidator, hliquidatee, hassetPrice,
    hliabPrice, hdone, hvault, hrest, rfl, rfl, rfl, Bank.updateCaches_books hassetBank',
    Bank.updateCaches_books hliabBank', rfl, rfl, ⟨⟨rfl, rfl⟩, rfl⟩, hliquidatorLoan,
    hliquidateeLoan⟩

/-- The settlement of a bankruptcy accrues interest, pays what the insurance fund covers into the
vault, takes the rest from the deposits, and records the debt as repaid. -/
theorem lendingPoolHandleBankruptcy_inv {env : VaultEnv τ} {ctx : LendingPoolHandleBankruptcy}
    {s s' : Market τ} (h : lendingPoolHandleBankruptcy env ctx remaining s = .ok s') :
    ∃ account bank accrued badDebt mint available covered loss coveredCeil units t shared kill
      w w' bank' account',
      s.marginfiAccounts ctx.marginfiAccount = some account ∧
      s.AccruedTo env.toEnv ctx.bank bank accrued ∧
      env.createProgramAddress liquidityVaultSeed ctx.bank
        (s.vaultBumps ctx.bank).liquidityVaultBump = some ctx.liquidityVault ∧
      env.createProgramAddress insuranceVaultSeed ctx.bank
        (s.vaultBumps ctx.bank).insuranceVaultBump = some ctx.insuranceVault ∧
      findBadDebt ctx.bank accrued account = .ok badDebt ∧
      splitBadDebt badDebt (.ofU64 available) = .ok (covered, loss) ∧
      covered.checkedCeil = some coveredCeil ∧ I80F48.toU64? coveredCeil = some units ∧
      env.transfer t s.rest = .ok s'.rest ∧ t.source = ctx.insuranceVault ∧
      t.destination = ctx.liquidityVault ∧ t.tokenProgram = ctx.tokenProgram ∧
      env.Passes s.rest mint t ∧
      calculatePreFeeSplDepositAmount mint units env.clock.epoch = .ok t.amount ∧
      accrued.socializeLoss loss = .ok (shared, kill) ∧
      BankAccountWrapper.find ctx.bank shared account.lendingAccount = .ok w ∧
      w.repay badDebt env.clock = .ok w' ∧ w'.bank.SameBooks bank' ∧
      (kill = true → bank'.config.operationalState = .killedByBankruptcy) ∧
      account'.lendingAccount = account.lendingAccount.store w' ∧
      s'.books = (s.books.setAccount ctx.marginfiAccount account').setBank ctx.bank bank' ∧
      s.SameSetting s' ∧ account'.inFlashloan = account.inFlashloan := by
  simp only [lendingPoolHandleBankruptcy, bind_eq_ok, Ledger.loadGroup, Ledger.loadAccount,
    Ledger.loadBank, fromOption_eq_ok, settleBadDebt, MarginfiAccount.storeWith, math] at h
  obtain ⟨group, hgroup, bank, hbank, account, haccount, -, -, _, hconstraints, -, -, ⟨mint, ais⟩,
    hmint, h⟩ := h
  obtain ⟨-, -, engine, -, -, -, accrued, haccrued, badDebt, hbadDebt, insurance, -, available,
    -, h⟩ :=
    h
  obtain ⟨⟨covered, loss⟩, hsplit, coveredCeil, hceil, units, hunits, pre, hpre, rest, hrest,
    h⟩ := h
  obtain ⟨⟨_, _, _⟩, ⟨⟨shared, kill⟩, hshared, w, hw, w', hw', hsettled⟩, cached, hcached, h⟩ := h
  cases hsettled
  cases h
  simp only [checkBankruptcyConstraints, bind_eq_ok, check_eq_ok, ensure_eq_ok] at hconstraints
  obtain ⟨_, -, _, -, _, hmember, -, -, -, -, -, -, -, -, _, hvault, _, hinsurance, -⟩ :=
    hconstraints
  refine ⟨account, bank, accrued, badDebt, mint, available, covered, loss, coveredCeil, units, _,
    shared, kill, w, w', _, _, haccount, ⟨hbank, group, hmember ▸ hgroup, haccrued⟩, hvault,
    hinsurance, hbadDebt, hsplit, hceil, hunits, hrest, rfl, rfl, rfl,
    ⟨rfl, maybeTakeBankMint_inv hmint⟩, hpre, hshared, hw, hw', ?_, ?_, rfl, rfl, ⟨⟨rfl, rfl⟩, rfl⟩,
    MarginfiAccount.getFlag_setFlag_of_disjoint _ (by decide)⟩
  · refine (Bank.updateCaches_books hcached).trans ?_
    cases kill <;> exact ⟨⟨rfl, rfl, rfl⟩, rfl⟩
  · rintro rfl
    rfl

/-- A position with nothing in it is closed, after interest was accrued. -/
theorem lendingAccountCloseBalance_inv {ctx : LendingAccountCloseBalance}
    (h : lendingAccountCloseBalance env ctx s = .ok s') :
    ∃ account bank accrued cached w w' account',
      s.marginfiAccounts ctx.marginfiAccount = some account ∧
      s.AccruedTo env ctx.bank bank accrued ∧ accrued.SameBooks cached ∧
      BankAccountWrapper.find ctx.bank cached account.lendingAccount = .ok w ∧
      w.closeBalance env.clock = .ok w' ∧
      account'.lendingAccount = (account.lendingAccount.store w').sortBalances ∧
      s'.books = (s.books.setAccount ctx.marginfiAccount account').setBank ctx.bank w'.bank ∧
      s'.rest = s.rest ∧ s'.groups = s.groups ∧ account'.inFlashloan = account.inFlashloan := by
  simp only [lendingAccountCloseBalance, bind_eq_ok, Ledger.loadGroup, Ledger.loadAccount,
    Ledger.loadBank, fromOption_eq_ok] at h
  obtain ⟨group, hgroup, account, haccount, bank, hbank, _, hconstraints, _, -, accrued, haccrued,
    cached, hcached, w, hw, w', hw', h⟩ := h
  cases h
  simp only [checkCloseConstraints, bind_eq_ok, check_eq_ok] at hconstraints
  obtain ⟨_, -, _, -, _, -, _, hmember, -⟩ := hconstraints
  exact ⟨account, bank, accrued, cached, w, w', _, haccount,
    ⟨hbank, group, hmember ▸ hgroup, haccrued⟩, Bank.updateBankCache_books hcached, hw, hw', rfl,
    rfl, rfl, rfl, rfl⟩

/-- A position is closed, and its deposit written off. -/
theorem lendingAccountPurgeDelevBalance_inv {ctx : LendingAccountPurgeDelevBalance}
    (h : lendingAccountPurgeDelevBalance env ctx s = .ok s') :
    ∃ account bank w w' account',
      s.marginfiAccounts ctx.marginfiAccount = some account ∧ s.banks ctx.bank = some bank ∧
      BankAccountWrapper.find ctx.bank bank account.lendingAccount = .ok w ∧ w.purge = .ok w' ∧
      account'.lendingAccount = (account.lendingAccount.store w').sortBalances ∧
      s'.books = (s.books.setAccount ctx.marginfiAccount account').setBank ctx.bank w'.bank ∧
      s'.rest = s.rest ∧ s'.groups = s.groups ∧ account'.inFlashloan = account.inFlashloan := by
  simp only [lendingAccountPurgeDelevBalance, bind_eq_ok, Ledger.loadAccount, Ledger.loadBank,
    fromOption_eq_ok] at h
  obtain ⟨group, -, account, haccount, bank, hbank, _, -, w, hw, w', hw', h⟩ := h
  cases h
  exact ⟨account, bank, w, w', _, haccount, hbank, hw, hw', rfl, rfl, rfl, rfl, rfl⟩

theorem lendingPoolAccrueBankInterest_inv {ctx : LendingPoolAccrueBankInterest}
    (h : lendingPoolAccrueBankInterest env ctx s = .ok s') :
    ∃ bank accrued bank', s.AccruedTo env ctx.bank bank accrued ∧ accrued.SameBooks bank' ∧
      s'.books = s.books.setBank ctx.bank bank' ∧ s'.rest = s.rest ∧ s'.groups = s.groups := by
  simp only [lendingPoolAccrueBankInterest, bind_eq_ok, Ledger.loadGroup, Ledger.loadBank,
    fromOption_eq_ok, check_eq_ok] at h
  obtain ⟨group, hgroup, bank, hbank, _, hmember, accrued, haccrued, cached, hcached, h⟩ := h
  cases h
  exact ⟨bank, accrued, cached, ⟨hbank, group, hmember ▸ hgroup, haccrued⟩,
    Bank.updateBankCache_books hcached, rfl, rfl, rfl⟩

end Inversion

/-! ### What the instructions on accounts and banks do -/

section Administration

variable {τ : Type} {s s' : Market τ}

theorem initAccount_inv {env : SystemEnv τ} {s : Ledger τ} {payer key : Pubkey} {rest : τ}
    (h : initAccount env s payer key = .ok rest) :
    s.Unused key ∧ env.createAccount payer key s.rest = .ok rest := by
  simp only [initAccount, bind_eq_ok, ensure_eq_ok] at h
  obtain ⟨_, hunused, hcreate⟩ := h
  exact ⟨hunused, hcreate⟩

/-- A new account has no positions. -/
theorem marginfiAccountInitialize_inv {env : SystemEnv τ} {ctx : MarginfiAccountInitialize}
    (h : marginfiAccountInitialize env ctx s = .ok s') :
    ∃ account : MarginfiAccount, s.marginfiAccounts ctx.marginfiAccount = none ∧
      account.lendingAccount = .zeroed ∧
      env.createAccount ctx.feePayer ctx.marginfiAccount s.rest = .ok s'.rest ∧
      s'.books = s.books.setAccount ctx.marginfiAccount account ∧ s.SameSetting s' ∧
      account.inFlashloan = false := by
  simp only [marginfiAccountInitialize, bind_eq_ok] at h
  obtain ⟨_, -, rest, hinit, h⟩ := h
  cases h
  obtain ⟨hunused, hcreate⟩ := initAccount_inv hinit
  have hflag : (MarginfiAccount.initialized ctx.marginfiGroup ctx.authority
      env.clock.unixTimestamp.toUInt64).inFlashloan = false := by
    simp [MarginfiAccount.inFlashloan, MarginfiAccount.getFlag, MarginfiAccount.initialized]
  exact ⟨_, hunused.1, rfl, hcreate, rfl, ⟨⟨rfl, rfl⟩, rfl⟩, hflag⟩

/-- The positions of an account move to a new one. -/
theorem transferToNewAccount_inv {env : SystemEnv τ} {ctx : TransferToNewAccount}
    (h : transferToNewAccount env ctx s = .ok s') :
    ∃ (account new old : MarginfiAccount) (rest : τ),
    ctx.oldMarginfiAccount ≠ ctx.newMarginfiAccount ∧
      s.marginfiAccounts ctx.oldMarginfiAccount = some account ∧
      s.marginfiAccounts ctx.newMarginfiAccount = none ∧
      new.lendingAccount = account.lendingAccount ∧ old.lendingAccount = .zeroed ∧
      env.createAccount ctx.feePayer ctx.newMarginfiAccount s.rest = .ok rest ∧
      env.transferLamports ctx.feePayer ctx.globalFeeWallet accountTransferFee rest = .ok s'.rest ∧
      s'.books = (s.books.setAccount ctx.newMarginfiAccount new).setAccount ctx.oldMarginfiAccount
        old ∧ s.SameSetting s' ∧ account.inFlashloan = false ∧ new.inFlashloan = false ∧
      old.inFlashloan = false := by
  simp only [transferToNewAccount, bind_eq_ok, Ledger.loadAccount, fromOption_eq_ok] at h
  obtain ⟨_, -, account, haccount, _, -, rest, hinit, _, -, rest', hpaid, _, hloan, _, -, _, -, h⟩ := h
  cases h
  obtain ⟨hunused, hcreate⟩ := initAccount_inv hinit
  have hne : ctx.oldMarginfiAccount ≠ ctx.newMarginfiAccount := by
    intro heq
    rw [heq, hunused.1] at haccount
    cases haccount
  have hloan : account.inFlashloan = false := checkLending_eq_ok.mp hloan
  have hold : (moveAccount account ctx.newAuthority
      env.clock.unixTimestamp.toUInt64).2.inFlashloan = account.inFlashloan :=
    MarginfiAccount.getFlag_setFlag_of_disjoint _ (by decide)
  exact ⟨account, (moveAccount account ctx.newAuthority env.clock.unixTimestamp.toUInt64).1,
    (moveAccount account ctx.newAuthority env.clock.unixTimestamp.toUInt64).2, rest, hne, haccount,
    hunused.1, rfl, rfl, hcreate, hpaid, rfl, ⟨⟨rfl, rfl⟩, rfl⟩, hloan, hloan, hold.trans hloan⟩

theorem setAccountFreeze_inv {env : SystemEnv τ} {s s' : Ledger τ} {ctx : SetAccountFreeze}
    {frozen : Bool} (h : setAccountFreeze env ctx frozen s = .ok s') :
    ∃ account account' : MarginfiAccount, s.marginfiAccounts ctx.marginfiAccount = some account ∧
      account'.lendingAccount = account.lendingAccount ∧
      s'.books = s.books.setAccount ctx.marginfiAccount account' ∧ s'.rest = s.rest ∧
      s'.groups = s.groups ∧ account'.inFlashloan = account.inFlashloan := by
  simp only [setAccountFreeze, bind_eq_ok, Ledger.loadAccount, fromOption_eq_ok] at h
  obtain ⟨_, -, account, haccount, _, -, _, -, h⟩ := h
  cases h
  refine ⟨account, _, haccount, ?_, rfl, rfl, rfl, ?_⟩
  · cases frozen <;> rfl
  · cases frozen with
    | true => exact MarginfiAccount.getFlag_setFlag_of_disjoint _ (by decide)
    | false => exact MarginfiAccount.getFlag_unsetFlag_of_disjoint _ (by decide)

theorem closeAccount_inv {env : SystemEnv τ} {s s' : Ledger τ} {ctx : MarginfiAccountClose}
    (h : Marginfi.closeAccount env ctx s = .ok s') :
    ∃ account, s.marginfiAccounts ctx.marginfiAccount = some account ∧
      env.closeAccount ctx.marginfiAccount ctx.feePayer s.rest = .ok s'.rest ∧
      s'.books = ⟨Function.update s.marginfiAccounts ctx.marginfiAccount none, s.banks⟩ ∧
      s'.groups = s.groups ∧ account.inFlashloan = false := by
  simp only [Marginfi.closeAccount, bind_eq_ok, Ledger.loadAccount, fromOption_eq_ok] at h
  obtain ⟨account, haccount, _, -, _, -, closable, hclosable, _, hcheck, rest, hclose, h⟩ := h
  cases h
  obtain rfl : closable = true := checkLending_eq_ok.mp hcheck
  obtain ⟨empty, -, hclosable⟩ := bind_eq_ok.mp hclosable
  cases empty <;> simp at hclosable
  exact ⟨account, haccount, hclose, rfl, rfl, hclosable.1.2⟩

theorem BankConfig.validate_interestRate {config : BankConfig} {oracleMaxAge : UInt16} {u : Unit}
    (h : config.validate oracleMaxAge = .ok u) : config.interestRateConfig.validate = .ok () := by
  simp only [BankConfig.validate, bind_eq_ok] at h
  obtain ⟨_, -, _, -, _, -, _, -, _, -, _, hvalid, -⟩ := h
  exact hvalid

/-- The books of a new bank. -/
def Pool.opened : Pool := ⟨0, 0, .one, .one, 0, 0, 0⟩

/-- A new bank has its own vaults, has issued no shares, and charges interest by an accepted
configuration. -/
theorem lendingPoolAddBank_inv {env : PoolEnv τ} {ctx : LendingPoolAddBank}
    {bankConfig : BankConfigCompact} (h : lendingPoolAddBank env ctx bankConfig s = .ok s') :
    ∃ (bank : Bank) (bumps : VaultBumps) (r r' : τ), s.banks ctx.bank = none ∧
      bank.pool = .opened ∧ bank.liquidityVault = ctx.liquidityVault ∧
      bank.config.interestRateConfig.validate = .ok () ∧
      env.findProgramAddress liquidityVaultSeed ctx.bank =
        (ctx.liquidityVault, bumps.liquidityVaultBump) ∧
      env.createAccount ctx.feePayer ctx.bank s.rest = .ok r ∧ initVaults env ctx r = .ok r' ∧
      env.transferFlatFee ctx.feePayer ctx.globalFeeWallet s.feeState.bankInitFlatSolFee r' =
        .ok s'.rest ∧
      s'.books = s.books.setBank ctx.bank bank ∧
      s'.vaultBumps = Function.update s.vaultBumps ctx.bank bumps ∧ s.SameControl s' := by
  simp only [lendingPoolAddBank, checkFound, bind_eq_ok, ensure_eq_ok] at h
  obtain ⟨_, -, _, -, _, -, r, hinit, _, -, bump, ⟨_, hvault, hbump⟩, _, -, _, -, _, -, _, -, r',
    hvaults, decimals, -, rest, hpaid, _, -, _, hvalid, h⟩ := h
  cases hbump
  cases h
  obtain ⟨hunused, hcreate⟩ := initAccount_inv hinit
  exact ⟨_, _, r, r', hunused.2.1, rfl, rfl, BankConfig.validate_interestRate hvalid,
    Prod.ext hvault rfl, hcreate, hvaults, hpaid, rfl, rfl, ⟨rfl, rfl⟩⟩

/-- A closed bank is gone, and nothing else is. -/
theorem lendingPoolCloseBank_inv {env : PoolEnv τ} {ctx : LendingPoolCloseBank}
    (h : lendingPoolCloseBank env ctx s = .ok s') :
    env.closeAccount ctx.bank ctx.admin s.rest = .ok s'.rest ∧
      s'.books = s.books.closeBank ctx.bank ∧ s.SameSetting s' := by
  simp only [lendingPoolCloseBank, bind_eq_ok] at h
  obtain ⟨_, -, _, -, _, -, _, -, _, -, rest, hclose, h⟩ := h
  cases h
  exact ⟨hclose, rfl, ⟨rfl, rfl⟩, rfl⟩

/-- A fee is collected: a number of units of it is no longer outstanding. -/
theorem collectOutstanding_inv {outstanding available fee left rest : I80F48}
    (h : collectOutstanding outstanding available = .ok (fee, left, rest)) :
    (∃ z, fee.bits = z * 2 ^ 48) ∧ left.val = outstanding.val - fee.val := by
  simp only [collectOutstanding, bind_eq_ok, math, fromOption_eq_ok] at h
  obtain ⟨l, hl, r, -, h⟩ := h
  cases h
  refine ⟨⟨_, rfl⟩, ?_⟩
  rw [FixedPoint.val_eq, FixedPoint.checkedSub_eq_some.mp hl]
  push_cast
  rw [sub_mul, ← FixedPoint.val_eq, ← FixedPoint.val_eq]

/-- A payment of fees out of the liquidity vault of a bank. -/
structure IsFeePayment (ctx : LendingPoolCollectBankFees) (fee : I80F48) (t : Transfer) : Prop where
  amount : fee.val = t.amount.toNat
  source : t.source = ctx.liquidityVault

theorem payFee_inv {env : PoolEnv τ} {ctx : LendingPoolCollectBankFees} {bank : Bank}
    {mint : Option Pubkey} {remaining : List Pubkey} {destination : Pubkey} {fee : I80F48}
    {rest rest' : τ} (h : payFee env ctx bank mint remaining destination fee rest = .ok rest')
    (hwhole : ∃ z, fee.bits = z * 2 ^ 48) :
    ∃ t, IsFeePayment ctx fee t ∧ env.transfer t rest = .ok rest' := by
  simp only [payFee, bind_eq_ok, math, fromOption_eq_ok] at h
  obtain ⟨amount, hamount, h⟩ := h
  obtain ⟨z, hz⟩ := hwhole
  exact ⟨_, ⟨BankAccountWrapper.toU64?_val hamount hz, rfl⟩, h⟩

/-- Three fees are paid out of the liquidity vault and are no longer outstanding. -/
theorem lendingPoolCollectBankFees_inv {env : PoolEnv τ} {ctx : LendingPoolCollectBankFees}
    {remaining : List Pubkey} (h : lendingPoolCollectBankFees env ctx remaining s = .ok s') :
    ∃ (bank : Bank) (groupFee insuranceFee programFee groupLeft insuranceLeft programLeft : I80F48)
      (t t' t'' : Transfer) (r r' : τ),
      s.banks ctx.bank = some bank ∧
      env.createProgramAddress liquidityVaultSeed ctx.bank
        (s.vaultBumps ctx.bank).liquidityVaultBump = some ctx.liquidityVault ∧
      IsFeePayment ctx groupFee t ∧ env.transfer t s.rest = .ok r ∧
      IsFeePayment ctx insuranceFee t' ∧ env.transfer t' r = .ok r' ∧
      IsFeePayment ctx programFee t'' ∧ env.transfer t'' r' = .ok s'.rest ∧
      groupLeft.val = bank.collectedGroupFeesOutstanding.val - groupFee.val ∧
      insuranceLeft.val = bank.collectedInsuranceFeesOutstanding.val - insuranceFee.val ∧
      programLeft.val = bank.collectedProgramFeesOutstanding.val - programFee.val ∧
      s'.books = s.books.setBank ctx.bank { bank with
        collectedInsuranceFeesOutstanding := insuranceLeft
        collectedGroupFeesOutstanding := groupLeft
        collectedProgramFeesOutstanding := programLeft } ∧ s.SameSetting s' := by
  simp only [lendingPoolCollectBankFees, bind_eq_ok, Ledger.loadBank, fromOption_eq_ok] at h
  obtain ⟨_, -, bank, hbank, _, -, _, hconstraints, ⟨_, _⟩, -, _, -, ⟨insuranceFee, insuranceLeft,
    _⟩, hinsurance, h⟩ := h
  obtain ⟨⟨groupFee, groupLeft, _⟩, hgroup, _, -, r, hr, r', hr', ⟨programFee, programLeft, _⟩,
    hprogram, _, -, rest, hrest, h⟩ := h
  cases h
  simp only [checkCollectConstraints, bind_eq_ok, ensure_eq_ok] at hconstraints
  obtain ⟨_, -, _, -, _, -, _, -, _, hvault, -⟩ := hconstraints
  obtain ⟨hinsuranceWhole, hinsuranceLeft⟩ := collectOutstanding_inv hinsurance
  obtain ⟨hgroupWhole, hgroupLeft⟩ := collectOutstanding_inv hgroup
  obtain ⟨hprogramWhole, hprogramLeft⟩ := collectOutstanding_inv hprogram
  obtain ⟨t, ht, hr⟩ := payFee_inv hr hgroupWhole
  obtain ⟨t', ht', hr'⟩ := payFee_inv hr' hinsuranceWhole
  obtain ⟨t'', ht'', hrest⟩ := payFee_inv hrest hprogramWhole
  exact ⟨bank, groupFee, insuranceFee, programFee, groupLeft, insuranceLeft, programLeft, t, t',
    t'', r, r', hbank, hvault, ht, hr, ht', hr', ht'', hrest, hgroupLeft, hinsuranceLeft,
    hprogramLeft, rfl, ⟨rfl, rfl⟩, rfl⟩

end Administration

end Marginfi
