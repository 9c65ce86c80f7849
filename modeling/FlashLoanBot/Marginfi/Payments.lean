import FlashLoanBot.Marginfi.Lending

/-!
# marginfi: what is paid

The token transfers that a borrow and a repayment make, for mints of the SPL Token program.

* `RoundsUp`: a whole amount that covers a debt and exceeds it by less than one unit;
* `repayAll_amount`: repaying everything asks for the debt, rounded up;
* `lendingAccountBorrow_transfer`: a borrow pays out exactly its amount from the vault;
* `lendingAccountRepay_transfer`: a repayment is paid into the vault from the token account it
  names, unless the risk admin clears the debt without paying.
-/

namespace Marginfi

open Solana Checked

/-! ### Debts -/

/-- A whole amount covers a debt, and exceeds it by less than one unit. -/
def RoundsUp (debt : I80F48) (amount : UInt64) : Prop :=
  debt.bits ≤ amount.toNat * 2 ^ 48 ∧ amount.toNat * 2 ^ 48 < debt.bits + 2 ^ 48

namespace BankAccountWrapper

/-- What a position owes. -/
def debt (w : BankAccountWrapper) : Result I80F48 :=
  w.bank.getLiabilityAmount w.balance.liabilityShares

/-- Emissions do not change what is owed. -/
theorem claimEmissions_debt {w w' : BankAccountWrapper} {now : UInt64}
    (h : w.claimEmissions now = .ok w') : w'.debt = w.debt := by
  simp only [claimEmissions, bind_eq_ok] at h
  obtain ⟨amount, -, v, hsettle, h⟩ := h
  cases h
  cases amount with
  | none =>
    cases hsettle
    rfl
  | some amount =>
    simp only [settleEmissions, addEmissions, bind_eq_ok] at hsettle
    obtain ⟨_, -, _, -, _, -, _, -, hsettle⟩ := hsettle
    cases hsettle
    rfl

/-- Repaying everything asks for the debt, rounded up to a whole unit. -/
theorem repayAll_amount {w w' : BankAccountWrapper} {clock : Clock} {amount : UInt64}
    (h : w.repayAll clock = .ok (w', amount)) :
    ∃ debt, w.debt = .ok debt ∧ RoundsUp debt amount := by
  simp only [repayAll, bind_eq_ok, math, fromOption_eq_ok] at h
  obtain ⟨v, hclaim, debt, hdebt, _, -, _, -, _, -, _, -, _, -, _, -, whole, hceil, _, -, _, -,
    n, hnat, h⟩ := h
  cases h
  refine ⟨debt, ?_, ?_⟩
  · rw [← claimEmissions_debt hclaim]
    exact hdebt
  · obtain ⟨k, hk, rfl⟩ := Option.map_eq_some_iff.mp hnat
    have hlt : k < 2 ^ 64 := (FixedPoint.toNat?_eq_some.mp hk).2
    unfold RoundsUp
    rw [UInt64.toNat_ofNat_of_lt' hlt]
    exact FixedPoint.toNat?_checkedCeil hceil hk

end BankAccountWrapper

/-! ### Transfers -/

section Transfers

variable {τ : Type} {env : Env τ} {remaining : List Pubkey} {amount : UInt64} {s s' : Ledger τ}

/-- Under the SPL Token program there is no mint to look at, and no fee. -/
theorem maybeTakeBankMint_of_spl {rest : τ} {bank : Bank} {tokenProgram : Pubkey}
    (hspl : tokenProgram = tokenId) :
    maybeTakeBankMint env rest remaining bank tokenProgram = .ok (none, remaining) :=
  if_pos hspl

/-- **A borrow pays out exactly its amount**, from the vault to the account it names. -/
theorem lendingAccountBorrow_transfer {ctx : LendingAccountBorrow}
    (hspl : ctx.tokenProgram = tokenId)
    (h : lendingAccountBorrow env ctx remaining amount s = .ok s') :
    ∃ t : Transfer, t.amount = amount ∧ t.source = ctx.liquidityVault ∧
      t.destination = ctx.destinationTokenAccount ∧ env.transfer t s.rest = .ok s'.rest := by
  simp only [lendingAccountBorrow, bind_eq_ok, maybeTakeBankMint_of_spl hspl] at h
  obtain ⟨group, -, account, -, bank, -, _, -, _, -, ⟨mint, ais⟩, hmint, _, -, bank, -, _, -, _, -,
    w, -, pre, hpre, ⟨fee, feeU64⟩, -, ⟨account', bank'⟩, -, rest, htransfer, _, -, _, -, _, -, _,
    -, h⟩ := h
  cases h
  cases hmint
  cases hpre
  exact ⟨_, rfl, rfl, rfl, htransfer⟩

/-- What is to be paid: the amount of the instruction, or all of the debt, rounded up. -/
theorem recordRepay_paid {bankKey : Pubkey} {bank bank' : Bank} {account account' : MarginfiAccount}
    {repayAll : Bool} {paid : UInt64}
    (h : recordRepay env bankKey bank account amount repayAll = .ok (account', bank', paid)) :
    if repayAll then
      ∃ w debt, BankAccountWrapper.find bankKey bank account.lendingAccount = .ok w ∧
        w.debt = .ok debt ∧ RoundsUp debt paid
    else paid = amount := by
  simp only [recordRepay, bind_eq_ok] at h
  obtain ⟨w, hfind, ⟨v, p⟩, hrepay, h⟩ := h
  cases h
  cases repayAll with
  | false =>
    obtain ⟨_, -, hpair⟩ := bind_eq_ok.mp hrepay
    cases hpair
    rfl
  | true =>
    obtain ⟨debt, hdebt, hround⟩ := BankAccountWrapper.repayAll_amount hrepay
    exact ⟨w, debt, hfind, hdebt, hround⟩

/-- **A repayment is paid into the vault** from the account it names, with the authority of the
signer: the amount of the instruction, or all of the debt, rounded up.  Only the risk admin
may have a debt cleared without paying. -/
theorem lendingAccountRepay_transfer {ctx : LendingAccountRepay} {repayAll : Option Bool}
    (hspl : ctx.tokenProgram = tokenId)
    (h : lendingAccountRepay env ctx remaining amount repayAll s = .ok s') :
    ∃ group bank account paid, s.groups ctx.group = some group ∧
      (if repayAll.getD false then
        ∃ w debt, BankAccountWrapper.find ctx.bank bank account = .ok w ∧
          w.debt = .ok debt ∧ RoundsUp debt paid
      else paid = amount) ∧
      (ctx.authority = group.riskAdmin ∧ repayAll.getD false = true ∧ s'.rest = s.rest ∨
        ∃ t : Transfer, t.amount = paid ∧ t.source = ctx.signerTokenAccount ∧
          t.destination = ctx.liquidityVault ∧ t.authority = ctx.authority ∧
          env.transfer t s.rest = .ok s'.rest) := by
  simp only [lendingAccountRepay, bind_eq_ok, maybeTakeBankMint_of_spl hspl, Ledger.loadGroup,
    fromOption_eq_ok] at h
  obtain ⟨group, hgroup, account, -, bank, -, _, -, _, -, ⟨mint, ais⟩, hmint, _, -, _, -, bank, -,
    ⟨account', bank', paid⟩, hrecord, rest, hpay, _, -, _, -, h⟩ := h
  cases h
  cases hmint
  refine ⟨group, bank, account.lendingAccount, paid, hgroup, recordRepay_paid hrecord, ?_⟩
  unfold payRepayment at hpay
  split_ifs at hpay with htokenless
  · cases hpay
    simp only [isTokenlessRepayment, Bool.and_eq_true, beq_iff_eq] at htokenless
    exact .inl ⟨htokenless.1.1, htokenless.2, rfl⟩
  · simp only [depositRepayment, bind_eq_ok] at hpay
    obtain ⟨pre, hpre, _, -, htransfer⟩ := hpay
    cases hpre
    exact .inr ⟨_, rfl, rfl, rfl, rfl, htransfer⟩

end Transfers

end Marginfi
