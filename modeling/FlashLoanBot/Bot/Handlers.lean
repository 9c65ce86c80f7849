import FlashLoanBot.Bot.Accounts

/-!
# The bot's handlers

The six instruction handlers of the bot over an arbitrary runtime.

* `marginfiStartFlashloanIx`, …: the instruction that each handler hands to `invoke`;
* `measuredSwap`: the two swap proxies measure one account before and after the call and
  compare the difference with `amount_out_min`;
* `marginfiStartFlashloan`, …, `marginfiEndFlashloan`: the handlers;
* `measuredSwap_eq_ok`: what a successful swap says about the measured account.
-/

namespace FlashLoanBot

open Solana Checked

/-- The address of the bot (`declare_id!`). -/
def botId : Pubkey := .base58 "J81fbgoPhVbPr3Vd99f1mtRh5wsxq9Jpf3MynJ8sBCos"

/-! ### Errors -/

/-- `FlashLoanError` -/
inductive FlashLoanError
  | negativeProfit
  | slippageExceeded
  | arithmeticOverflow
  deriving DecidableEq

namespace FlashLoanError

/-- The error code, counted from the offset of program errors. -/
def code : FlashLoanError → ℕ
  | negativeProfit => 6000
  | slippageExceeded => 6001
  | arithmeticOverflow => 6002

/-- The failure that the error stands for. -/
def toError (e : FlashLoanError) : ProgramError := .custom e.code

end FlashLoanError

/-! ### Instructions handed to marginfi -/

/-- The discriminators written out in the source. -/
def startFlashloanSighash : List UInt8 := [14, 131, 33, 220, 81, 186, 180, 107]

def borrowSighash : List UInt8 := [4, 126, 116, 53, 48, 5, 212, 31]

def repaySighash : List UInt8 := [79, 209, 172, 177, 222, 51, 173, 151]

def endFlashloanSighash : List UInt8 := [105, 124, 201, 106, 153, 2, 8, 156]

/-- The call of `lending_account_start_flashloan`. -/
def marginfiStartFlashloanIx (ctx : MarginfiFlashloanBounds) (endIndex : UInt64) :
    Instruction where
  programId := ctx.marginfiProgram
  accounts := [
    .new ctx.marginfiAccount false,
    .newReadonly ctx.signer true,
    .newReadonly ctx.ixsSysvar false]
  data := startFlashloanSighash ++ Bytes.toLe 8 endIndex.toNat

/-- The call of `lending_account_borrow`. -/
def marginfiBorrowIx (ctx : MarginfiBorrow) (amount : UInt64) : Instruction where
  programId := ctx.marginfiProgram
  accounts := [
    .newReadonly ctx.marginfiGroup false,
    .new ctx.marginfiAccount false,
    .newReadonly ctx.signer true,
    .new ctx.bank false,
    .new ctx.destinationTokenAccount false,
    .newReadonly ctx.bankLiquidityVaultAuthority false,
    .new ctx.bankLiquidityVault false,
    .newReadonly ctx.tokenProgram false]
  data := borrowSighash ++ Bytes.toLe 8 amount.toNat

/-- The call of `lending_account_repay`; `None` stands for a repayment of `amount` only. -/
def marginfiRepayIx (ctx : MarginfiRepay) (amount : UInt64) (repayAll : Bool) :
    Instruction where
  programId := ctx.marginfiProgram
  accounts := [
    .newReadonly ctx.marginfiGroup false,
    .new ctx.marginfiAccount false,
    .newReadonly ctx.signer true,
    .new ctx.bank false,
    .new ctx.signerTokenAccount false,
    .new ctx.bankLiquidityVault false,
    .newReadonly ctx.tokenProgram false]
  data := repaySighash ++ Bytes.toLe 8 amount.toNat ++ if repayAll then [1, 1] else [0]

/-- The call of `lending_account_end_flashloan`. -/
def marginfiEndFlashloanIx (ctx : MarginfiFlashloanBounds) : Instruction where
  programId := ctx.marginfiProgram
  accounts := [
    .new ctx.marginfiAccount false,
    .newReadonly ctx.signer true]
  data := endFlashloanSighash

/-! ### Instructions handed to the exchanges -/

/-- The swap of Raydium AMM v4 (tag `9`, then the two amounts). -/
def proxyRaydiumIx (ctx : ProxyRaydium) (amountIn amountOutMin : UInt64) : Instruction where
  programId := ctx.raydiumProgram
  accounts := [
    .newReadonly ctx.tokenProgram false,
    .new ctx.ammId false,
    .newReadonly ctx.ammAuthority false,
    .new ctx.ammOpenOrders false,
    .new ctx.ammTargetOrders false,
    .new ctx.ammCoinVault false,
    .new ctx.ammPcVault false,
    .newReadonly ctx.serumProgram false,
    .new ctx.serumMarket false,
    .new ctx.serumBids false,
    .new ctx.serumAsks false,
    .new ctx.serumEventQueue false,
    .new ctx.serumCoinVault false,
    .new ctx.serumPcVault false,
    .newReadonly ctx.serumVaultSigner false,
    .new ctx.userTokenAccount false,
    .new ctx.destinationTokenAccount false,
    .newReadonly ctx.user true]
  data := 9 :: (Bytes.toLe 8 amountIn.toNat ++ Bytes.toLe 8 amountOutMin.toNat)

/-- The discriminator of the Whirlpool `swap`, as written out in the source. -/
def swapDiscriminator : List UInt8 := [0xf8, 0xc6, 0x9e, 0x91, 0xe1, 0x75, 0x87, 0xc8]

/-- The price limit passed to Whirlpool. -/
def minSqrtPrice : ℕ := 4295048016

/-- The `swap` of Orca Whirlpool: the amounts, the price limit, and the two flags
`amount_specified_is_input` and `a_to_b`. -/
def proxyOrcaIx (ctx : ProxyOrca) (amountIn amountOutMin : UInt64) : Instruction where
  programId := ctx.whirlpoolProgram
  accounts := [
    .newReadonly ctx.tokenProgram false,
    .newReadonly ctx.tokenAuthority true,
    .new ctx.whirlpool false,
    .new ctx.tokenOwnerAccountA false,
    .new ctx.tokenVaultA false,
    .new ctx.tokenOwnerAccountB false,
    .new ctx.tokenVaultB false,
    .new ctx.tickArray0 false,
    .new ctx.tickArray1 false,
    .new ctx.tickArray2 false,
    .new ctx.oracle false]
  data := swapDiscriminator ++ Bytes.toLe 8 amountIn.toNat ++ Bytes.toLe 8 amountOutMin.toNat ++
    Bytes.toLe 16 minSqrtPrice ++ [1, 1]

/-! ### Handlers -/

section Handlers

variable {σ : Type} (rt : Runtime σ)

/-- `marginfi_start_flashloan` -/
def marginfiStartFlashloan (ctx : MarginfiFlashloanBounds) (endIndex : UInt64) (s : σ) :
    Result σ :=
  rt.invoke (marginfiStartFlashloanIx ctx endIndex) s

/-- `marginfi_borrow` -/
def marginfiBorrow (ctx : MarginfiBorrow) (amount : UInt64) (s : σ) : Result σ :=
  rt.invoke (marginfiBorrowIx ctx amount) s

/-- The common body of the swap proxies: the call, between two readings of one account. -/
def measuredSwap (ix : Instruction) (measured : Pubkey) (amountOutMin : UInt64) (s : σ) :
    Result σ := do
  let balanceBefore ← rt.amount s measured
  let s' ← rt.invoke ix s
  let balanceAfter ← rt.amount s' measured
  let received ← fromOption FlashLoanError.arithmeticOverflow.toError
    (checkedSub balanceAfter balanceBefore)
  ensure (amountOutMin ≤ received) FlashLoanError.slippageExceeded.toError
  .ok s'

/-- `proxy_raydium` -/
def proxyRaydium (ctx : ProxyRaydium) (amountIn amountOutMin : UInt64) (s : σ) : Result σ :=
  measuredSwap rt (proxyRaydiumIx ctx amountIn amountOutMin) ctx.destinationTokenAccount
    amountOutMin s

/-- `proxy_orca` -/
def proxyOrca (ctx : ProxyOrca) (amountIn amountOutMin : UInt64) (s : σ) : Result σ :=
  measuredSwap rt (proxyOrcaIx ctx amountIn amountOutMin) ctx.tokenOwnerAccountB amountOutMin s

/-- `marginfi_repay` -/
def marginfiRepay (ctx : MarginfiRepay) (amount : UInt64) (repayAll : Bool) (s : σ) : Result σ :=
  rt.invoke (marginfiRepayIx ctx amount repayAll) s

/-- `marginfi_end_flashloan` -/
def marginfiEndFlashloan (ctx : MarginfiFlashloanBounds) (s : σ) : Result σ :=
  rt.invoke (marginfiEndFlashloanIx ctx) s

/-- A swap succeeds exactly when the call does and the measured account can be read on both
sides of it, with a reading that has grown by at least `amountOutMin`. -/
theorem measuredSwap_eq_ok {ix : Instruction} {measured : Pubkey} {amountOutMin : UInt64}
    {s s' : σ} :
    measuredSwap rt ix measured amountOutMin s = .ok s' ↔
      ∃ before after, rt.amount s measured = .ok before ∧ rt.invoke ix s = .ok s' ∧
        rt.amount s' measured = .ok after ∧ before.toNat + amountOutMin.toNat ≤ after.toNat := by
  constructor
  · intro h
    obtain ⟨before, hbefore, h⟩ := bind_eq_ok.mp h
    obtain ⟨t, hinvoke, h⟩ := bind_eq_ok.mp h
    obtain ⟨after, hafter, h⟩ := bind_eq_ok.mp h
    obtain ⟨received, hsub, h⟩ := bind_eq_ok.mp h
    obtain ⟨_, hmin, h⟩ := bind_eq_ok.mp h
    cases h
    have hsum := checkedSub_eq_some.mp (fromOption_eq_ok.mp hsub)
    have hle : amountOutMin.toNat ≤ received.toNat := ensure_eq_ok.mp hmin
    exact ⟨before, after, hbefore, hinvoke, hafter, by omega⟩
  · rintro ⟨before, after, hbefore, hinvoke, hafter, hgrown⟩
    have hle : before ≤ after := UInt64.le_iff_toNat_le.mpr (by omega)
    have hsub : checkedSub after before = some (after - before) := if_pos hle
    have hmin : amountOutMin ≤ after - before := by
      rw [UInt64.le_iff_toNat_le, UInt64.toNat_sub_of_le _ _ hle]
      omega
    simp [measuredSwap, hbefore, hinvoke, hafter, hsub, ensure_of hmin]

end Handlers

end FlashLoanBot
