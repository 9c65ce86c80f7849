import FlashLoanBot.Bot.Program
import FlashLoanBot.Marginfi.Program

/-!
# The wire between the bot and marginfi

Four of the bot's handlers do nothing but hand an instruction to marginfi, whose bytes and
accounts are written out by hand.

* `Wrapper`: these four handlers, with their accounts and arguments;
* `Wrapper.ix`: the instruction that is handed over, and `Wrapper.run_toCall`;
* `Wrapper.marginfiCall`: the call of marginfi that it is parsed as (`Wrapper.parse_ix`);
* `Wrapper.request_eq_of_data`: different requests are different bytes;
* `Wrapper.ix_agrees`: the two independently written formats agree;
* `Wrapper.run_runtime`: on a chain with marginfi, a wrapper runs that call one level deeper.
-/

namespace FlashLoanBot

open Solana

/-! ### The discriminators -/

theorem sighash_startFlashloan :
    sighash "lending_account_start_flashloan" = startFlashloanSighash := by
  decide +kernel

theorem sighash_borrow : sighash "lending_account_borrow" = borrowSighash := by
  decide +kernel

theorem sighash_repay : sighash "lending_account_repay" = repaySighash := by
  decide +kernel

theorem sighash_endFlashloan :
    sighash "lending_account_end_flashloan" = endFlashloanSighash := by
  decide +kernel

/-! ### Wrappers -/

/-- A handler that wraps an instruction of marginfi. -/
inductive Wrapper
  | startFlashloan (ctx : MarginfiFlashloanBounds) (endIndex : UInt64)
  | borrow (ctx : MarginfiBorrow) (amount : UInt64)
  | repay (ctx : MarginfiRepay) (amount : UInt64) (repayAll : Bool)
  | endFlashloan (ctx : MarginfiFlashloanBounds)
  deriving DecidableEq

/-- A wrapper without its accounts. -/
inductive Request
  | startFlashloan (endIndex : UInt64)
  | borrow (amount : UInt64)
  | repay (amount : UInt64) (repayAll : Bool)
  | endFlashloan
  deriving DecidableEq

namespace Wrapper

/-- The wrapper among the calls of the bot. -/
def toCall : Wrapper → Call
  | startFlashloan ctx endIndex => .marginfiStartFlashloan ctx endIndex
  | borrow ctx amount => .marginfiBorrow ctx amount
  | repay ctx amount repayAll => .marginfiRepay ctx amount repayAll
  | endFlashloan ctx => .marginfiEndFlashloan ctx

/-- The handler and its arguments. -/
def request : Wrapper → Request
  | startFlashloan _ endIndex => .startFlashloan endIndex
  | borrow _ amount => .borrow amount
  | repay _ amount repayAll => .repay amount repayAll
  | endFlashloan _ => .endFlashloan

/-- The account passed as `marginfi_program`. -/
def marginfiProgram : Wrapper → Pubkey
  | startFlashloan ctx _ => ctx.marginfiProgram
  | borrow ctx _ => ctx.marginfiProgram
  | repay ctx _ _ => ctx.marginfiProgram
  | endFlashloan ctx => ctx.marginfiProgram

/-- The instruction handed to `invoke`. -/
def ix : Wrapper → Instruction
  | startFlashloan ctx endIndex => marginfiStartFlashloanIx ctx endIndex
  | borrow ctx amount => marginfiBorrowIx ctx amount
  | repay ctx amount repayAll => marginfiRepayIx ctx amount repayAll
  | endFlashloan ctx => marginfiEndFlashloanIx ctx

theorem run_toCall {σ : Type} (w : Wrapper) (rt : Runtime σ) (s : σ) :
    w.toCall.run rt s = rt.invoke w.ix s := by
  cases w <;> rfl

@[simp] theorem ix_programId (w : Wrapper) : w.ix.programId = w.marginfiProgram := by
  cases w <;> rfl

/-! ### What marginfi reads -/

/-- The call of marginfi that a wrapper stands for. -/
def marginfiCall : Wrapper → Marginfi.Call
  | startFlashloan ctx endIndex =>
      .startFlashloan
        { marginfiAccount := ctx.marginfiAccount
          authority := ctx.signer
          ixsSysvar := ctx.ixsSysvar } endIndex
  | borrow ctx amount =>
      .borrow
        { group := ctx.marginfiGroup
          marginfiAccount := ctx.marginfiAccount
          authority := ctx.signer
          bank := ctx.bank
          destinationTokenAccount := ctx.destinationTokenAccount
          bankLiquidityVaultAuthority := ctx.bankLiquidityVaultAuthority
          liquidityVault := ctx.bankLiquidityVault
          tokenProgram := ctx.tokenProgram
          tokenProgram_mem := by simp [ctx.tokenProgram_eq] } amount
  | repay ctx amount repayAll =>
      .repay
        { group := ctx.marginfiGroup
          marginfiAccount := ctx.marginfiAccount
          authority := ctx.signer
          bank := ctx.bank
          signerTokenAccount := ctx.signerTokenAccount
          liquidityVault := ctx.bankLiquidityVault
          tokenProgram := ctx.tokenProgram
          tokenProgram_mem := by simp [ctx.tokenProgram_eq] } amount
        (if repayAll then some true else none)
  | endFlashloan ctx =>
      .endFlashloan { marginfiAccount := ctx.marginfiAccount, authority := ctx.signer }

/-- The bytes are the discriminator and the arguments of the call. -/
theorem ix_data (w : Wrapper) :
    w.ix.data = sighash w.marginfiCall.name ++ w.marginfiCall.args := by
  cases w with
  | startFlashloan ctx endIndex => exact congrArg (· ++ _) sighash_startFlashloan.symm
  | borrow ctx amount => exact congrArg (· ++ _) sighash_borrow.symm
  | repay ctx amount repayAll =>
    have htail : (if repayAll then [1, 1] else [0]) =
        (Codec.option Codec.bool).enc (if repayAll then some true else none) := by
      cases repayAll <;> rfl
    simp only [ix, marginfiRepayIx, marginfiCall, Marginfi.Call.name, Marginfi.Call.args,
      sighash_repay, Codec.prod_enc, Codec.u64_enc, htail, List.append_assoc]
  | endFlashloan ctx => exact sighash_endFlashloan.symm

/-- The accounts are those of the call, with the privileges that marginfi declares. -/
theorem ix_accounts (w : Wrapper) : w.ix.accounts = w.marginfiCall.metas := by
  cases w <;> rfl

/-- marginfi's entrypoint parses the instruction as the call, and leaves nothing unread. -/
theorem parse_ix (w : Wrapper) :
    Marginfi.parse w.ix = .ok (.call ⟨w.marginfiCall, [], []⟩) :=
  Marginfi.parse_call w.marginfiCall w.ix_data w.ix_accounts

/-- On a chain with marginfi, a wrapper of it runs the call one level deeper on the stack. -/
theorem run_runtime {τ : Type} {w : Wrapper} {d : Marginfi.Deployment τ}
    (hprogram : w.marginfiProgram = d.env.id) (tx : TxContext) (s : Marginfi.Ledger τ) :
    w.toCall.run (d.runtime tx) s = w.marginfiCall.run d.env tx.callee [] s := by
  rw [run_toCall]
  simp only [Marginfi.Deployment.runtime, ix_programId, hprogram, if_true]
  exact Marginfi.process_of_parse w.parse_ix s

/-! ### Agreement of the formats -/

/-- The call is the one that the wrapper is named after, with the same arguments, and each of
its accounts is the one that the wrapper holds for the same role. -/
def Agrees : Wrapper → Marginfi.Call → Prop
  | startFlashloan ctx endIndex, .startFlashloan ctx' endIndex' =>
      endIndex' = endIndex ∧ ctx'.marginfiAccount = ctx.marginfiAccount ∧
        ctx'.authority = ctx.signer ∧ ctx'.ixsSysvar = ctx.ixsSysvar
  | borrow ctx amount, .borrow ctx' amount' =>
      amount' = amount ∧ ctx'.group = ctx.marginfiGroup ∧
        ctx'.marginfiAccount = ctx.marginfiAccount ∧ ctx'.authority = ctx.signer ∧
        ctx'.bank = ctx.bank ∧ ctx'.destinationTokenAccount = ctx.destinationTokenAccount ∧
        ctx'.bankLiquidityVaultAuthority = ctx.bankLiquidityVaultAuthority ∧
        ctx'.liquidityVault = ctx.bankLiquidityVault ∧ ctx'.tokenProgram = ctx.tokenProgram
  | repay ctx amount repayAll, .repay ctx' amount' o =>
      amount' = amount ∧ o.getD false = repayAll ∧ ctx'.group = ctx.marginfiGroup ∧
        ctx'.marginfiAccount = ctx.marginfiAccount ∧ ctx'.authority = ctx.signer ∧
        ctx'.bank = ctx.bank ∧ ctx'.signerTokenAccount = ctx.signerTokenAccount ∧
        ctx'.liquidityVault = ctx.bankLiquidityVault ∧ ctx'.tokenProgram = ctx.tokenProgram
  | endFlashloan ctx, .endFlashloan ctx' =>
      ctx'.marginfiAccount = ctx.marginfiAccount ∧ ctx'.authority = ctx.signer
  | _, _ => False

theorem agrees_marginfiCall (w : Wrapper) : w.Agrees w.marginfiCall := by
  cases w with
  | startFlashloan ctx endIndex => simp [Agrees, marginfiCall]
  | borrow ctx amount => simp [Agrees, marginfiCall]
  | repay ctx amount repayAll => cases repayAll <;> simp [Agrees, marginfiCall]
  | endFlashloan ctx => simp [Agrees, marginfiCall]

/-- Every meta of the instruction stays within a privilege that the bot itself was granted. -/
theorem ix_within (w : Wrapper) : ∀ m ∈ w.ix.accounts, ∃ n ∈ w.toCall.metas, m.Within n := by
  have hinvoked : w.ix = w.toCall.invoked := by
    cases w <;> rfl
  rw [hinvoked]
  exact w.toCall.invoked_within

/-- The instruction that is called and its arguments determine the request. -/
theorem request_eq_of_marginfiCall {w w' : Wrapper}
    (hname : w.marginfiCall.name = w'.marginfiCall.name)
    (hargs : w.marginfiCall.args = w'.marginfiCall.args) : w.request = w'.request := by
  -- two wrappers with different names of their calls are refuted by these names
  cases w <;> cases w' <;> simp [marginfiCall, Marginfi.Call.name] at hname
  case startFlashloan.startFlashloan =>
    exact congrArg Request.startFlashloan (Codec.u64.enc_injective hargs)
  case borrow.borrow => exact congrArg Request.borrow (Codec.u64.enc_injective hargs)
  case repay.repay ctx amount repayAll ctx' amount' repayAll' =>
    have hpair := (Codec.u64.prod (Codec.option Codec.bool)).enc_injective hargs
    obtain ⟨rfl, hall⟩ := Prod.mk.inj hpair
    cases repayAll <;> cases repayAll' <;> simp_all [request]
  case endFlashloan.endFlashloan => rfl

/-- The bytes determine the request. -/
theorem request_eq_of_data {w w' : Wrapper} (h : w.ix.data = w'.ix.data) :
    w.request = w'.request := by
  rw [ix_data, ix_data] at h
  obtain ⟨hsighash, hargs⟩ := List.append_inj h (by simp)
  have hname := List.inj_on_of_nodup_map Marginfi.nodup_sighash
    w.marginfiCall.name_mem w'.marginfiCall.name_mem hsighash
  exact request_eq_of_marginfiCall hname hargs

/-- **The two formats agree.**  What a wrapper hands to `invoke` is parsed by marginfi as the
call that the wrapper is named after, with its arguments and its accounts by role, and
nothing is left over; no other request has the same bytes; there is one meta for each field,
with the privileges that marginfi declares and none that the bot was not granted. -/
theorem ix_agrees (w : Wrapper) :
    (∀ {σ : Type} (rt : Runtime σ) (s : σ), w.toCall.run rt s = rt.invoke w.ix s) ∧
      (∃ c, Marginfi.parse w.ix = .ok (.call ⟨c, [], []⟩) ∧ w.Agrees c ∧
        w.ix.accounts = c.metas) ∧
      (∀ w' : Wrapper, w.ix.data = w'.ix.data → w.request = w'.request) ∧
      ∀ m ∈ w.ix.accounts, ∃ n ∈ w.toCall.metas, m.Within n :=
  ⟨w.run_toCall, ⟨w.marginfiCall, w.parse_ix, w.agrees_marginfiCall, w.ix_accounts⟩,
    fun _ => request_eq_of_data, w.ix_within⟩

end Wrapper

end FlashLoanBot
