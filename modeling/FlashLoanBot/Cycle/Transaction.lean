import FlashLoanBot.Cycle.Wire
import FlashLoanBot.Marginfi.Payments

/-!
# Transactions

A transaction is a list of top-level instructions, executed in order on a chain with marginfi
and the bot.

* `runAt`, `runTransaction`: one top-level instruction, and all of them;
* `Lists`: a transaction has the bot's instruction for a call at an index;
* `runAt_bot`, `runAt_wrapper`, `runAt_direct`: what is executed at such an index;
* `runAt_borrow_transfer`, `runAt_repay_transfer`: the tokens that a borrow and a repayment of the
  bot move.
-/

namespace FlashLoanBot

open Solana Checked

/-- The bot is none of the programs that marginfi is built as. -/
theorem botId_ne_marginfi (c : Marginfi.Cluster) : botId ≠ c.id := by
  cases c <;> decide +kernel

/-- A transaction has the bot's instruction for a call at an index. -/
def Lists (ixs : List Instruction) (i : ℕ) (c : Call) : Prop :=
  ∃ ix, ixs[i]? = some ix ∧ ix.programId = botId ∧ parse ix = .ok c

section Execution

variable {τ : Type} (d : Marginfi.Deployment τ) (ixs : List Instruction)

/-- Execute the top-level instruction at an index. -/
def runAt (s : Marginfi.Ledger τ) (i : ℕ) : Result (Marginfi.Ledger τ) := do
  let ix ← fromOption .invalidArgument ixs[i]?
  let tx := TxContext.topLevel ixs i
  if ix.programId = d.env.id then Marginfi.process d tx ix s
  else if ix.programId = botId then process (d.runtime tx) ix s
  else d.otherPrograms tx ix s

/-- Execute a transaction; when an instruction fails, all of it does. -/
def runTransaction (s : Marginfi.Ledger τ) : Result (Marginfi.Ledger τ) :=
  runAll (runAt d ixs) s (List.range ixs.length)

variable {d ixs} {i : ℕ} {s : Marginfi.Ledger τ}

theorem runAt_marginfi {ix : Instruction} (hix : ixs[i]? = some ix)
    (hid : ix.programId = d.env.id) :
    runAt d ixs s i = Marginfi.process d (.topLevel ixs i) ix s := by
  simp [runAt, hix, hid]

/-- At an index of a call of the bot, its handler is run. -/
theorem runAt_bot {c : Call} (h : Lists ixs i c) :
    runAt d ixs s i = c.run (d.runtime (.topLevel ixs i)) s := by
  obtain ⟨ix, hix, hid, hparse⟩ := h
  have hne : ix.programId ≠ d.env.id := hid ▸ botId_ne_marginfi d.env.cluster
  simp [runAt, process, hix, hne, if_pos hid, hparse]

/-- At an index of a wrapper, the wrapped call is run as a callee. -/
theorem runAt_wrapper {w : Wrapper} (h : Lists ixs i w.toCall)
    (hprogram : w.marginfiProgram = d.env.id) :
    runAt d ixs s i = w.marginfiCall.run d.env (TxContext.topLevel ixs i).callee [] s := by
  rw [runAt_bot h, Wrapper.run_runtime hprogram]

/-- Sent to marginfi directly, the instruction of a wrapper runs the call at top level. -/
theorem runAt_direct {w : Wrapper} (h : ixs[i]? = some w.ix)
    (hprogram : w.marginfiProgram = d.env.id) :
    runAt d ixs s i = w.marginfiCall.run d.env (.topLevel ixs i) [] s := by
  rw [runAt_marginfi h (w.ix_programId.trans hprogram)]
  exact Marginfi.process_of_parse w.parse_ix s

/-- The bot's borrow moves exactly its amount from the vault to the account it names. -/
theorem runAt_borrow_transfer {ctx : MarginfiBorrow} {amount : UInt64}
    {s' : Marginfi.Ledger τ} (h : Lists ixs i (.marginfiBorrow ctx amount))
    (hprogram : ctx.marginfiProgram = d.env.id) (hrun : runAt d ixs s i = .ok s') :
    ∃ t : Marginfi.Transfer, t.amount = amount ∧ t.source = ctx.bankLiquidityVault ∧
      t.destination = ctx.destinationTokenAccount ∧ d.env.transfer t s.rest = .ok s'.rest := by
  rw [runAt_wrapper (w := .borrow ctx amount) h hprogram] at hrun
  exact Marginfi.lendingAccountBorrow_transfer ctx.tokenProgram_eq hrun

/-- The bot's repayment of an amount moves exactly that amount from the account it names to the
vault. -/
theorem runAt_repay_transfer {ctx : MarginfiRepay} {amount : UInt64} {s' : Marginfi.Ledger τ}
    (h : Lists ixs i (.marginfiRepay ctx amount false))
    (hprogram : ctx.marginfiProgram = d.env.id) (hrun : runAt d ixs s i = .ok s') :
    ∃ t : Marginfi.Transfer, t.amount = amount ∧ t.source = ctx.signerTokenAccount ∧
      t.destination = ctx.bankLiquidityVault ∧ d.env.transfer t s.rest = .ok s'.rest := by
  rw [runAt_wrapper (w := .repay ctx amount false) h hprogram] at hrun
  obtain ⟨group, bank, account, paid, -, hpaid, htokenless | ⟨t, ht, hsource, hdest, -, hmove⟩⟩ :=
    Marginfi.lendingAccountRepay_transfer ctx.tokenProgram_eq hrun
  · exact absurd htokenless.2.1 (by simp)
  · exact ⟨t, ht.trans hpaid, hsource, hdest, hmove⟩

/-- Every instruction of a transaction that succeeds has been executed. -/
theorem runAt_of_runTransaction {s' : Marginfi.Ledger τ}
    (h : runTransaction d ixs s = .ok s') (hi : i < ixs.length) :
    ∃ t t', runAt d ixs t i = .ok t' := by
  obtain ⟨t, t', -, hstep⟩ := runAll_step_ok h (List.mem_range.mpr hi)
  exact ⟨t, t', hstep⟩

end Execution

end FlashLoanBot
