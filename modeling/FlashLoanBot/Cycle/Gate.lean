import FlashLoanBot.Cycle.Transaction

/-!
# The flash-loan gate and the bot's wrappers

marginfi admits the start and the end of a flash loan only as top-level instructions of its
own.  The bot's wrappers reach it as a callee.

* `Composition`: the documented transaction, with both wrappers in their places;
* `Ready`: an account that the signer may open or close a flash loan on;
* `Composition.refused`: both wrappers are refused with `NotAllowedInCPI`, always;
* `not_endsFlashloan_of_bot`: the wrapper of the end is not an end in marginfi's eyes;
* `runTransaction_ne_ok`: no transaction with one of the two wrappers succeeds;
* `direct_start_accepted`, `direct_end_accepted`: sent to marginfi directly, the same two
  instructions are accepted.
-/

namespace FlashLoanBot

open Solana Checked Marginfi

variable {τ : Type}

/-- `NotAllowedInCPI` as a failure. -/
def notAllowedInCPI : ProgramError := MarginfiError.notAllowedInCPI.toError

/-! ### Who may be the caller -/

section Refusal

variable {env : Env τ} {tx : TxContext} {s : Ledger τ} {account : MarginfiAccount}

/-- A start is refused when the current top-level instruction is another program's. -/
theorem lendingAccountStartFlashloan_of_foreign {ctx : LendingAccountStartFlashloan}
    {endIndex : UInt64} {current : Instruction}
    (hload : s.marginfiAccounts ctx.marginfiAccount = some account)
    (hauth : account.authority = ctx.authority) (hsysvar : ctx.ixsSysvar = instructionsSysvarId)
    (hcurrent : tx.instructions[tx.currentIndex]? = some current)
    (hid : current.programId ≠ env.id) :
    lendingAccountStartFlashloan env tx ctx endIndex s = .error notAllowedInCPI := by
  simp [lendingAccountStartFlashloan, Ledger.loadAccount, hload, check, ensure_of hauth,
    ensure_of hsysvar, checkFlashloanCanStart, validateNotCpiWithSysvar, loadInstructionAt,
    hcurrent, ensure_of_not hid, notAllowedInCPI]

/-- An end is refused below the top level. -/
theorem lendingAccountEndFlashloan_of_callee {ctx : LendingAccountEndFlashloan}
    {remaining : List Pubkey} (hload : s.marginfiAccounts ctx.marginfiAccount = some account)
    (hauth : account.authority = ctx.authority) (hheight : tx.stackHeight ≠ topLevelHeight) :
    lendingAccountEndFlashloan env tx ctx remaining s = .error notAllowedInCPI := by
  simp [lendingAccountEndFlashloan, Ledger.loadAccount, hload, check, ensure_of hauth,
    validateNotCpiByStackHeight, ensure_of_not hheight, notAllowedInCPI]

end Refusal

/-! ### The documented composition -/

/-- A transaction has the wrapper of the start at index `i`, and the wrapper of the end, for
the same account, at the end index behind it; both name marginfi as their program, and the
start names the instructions sysvar. -/
structure Composition (d : Deployment τ) (ixs : List Instruction) (i : ℕ)
    (start : MarginfiFlashloanBounds) (endIndex : UInt64) (finish : MarginfiFlashloanBounds) :
    Prop where
  start_at : Lists ixs i (.marginfiStartFlashloan start endIndex)
  end_at : Lists ixs endIndex.toNat (.marginfiEndFlashloan finish)
  lt : i < endIndex.toNat
  same_account : finish.marginfiAccount = start.marginfiAccount
  start_program : start.marginfiProgram = d.env.id
  end_program : finish.marginfiProgram = d.env.id
  sysvar : start.ixsSysvar = instructionsSysvarId

/-- The account is the signer's, and neither disabled, frozen nor in receivership. -/
def Ready (s : Ledger τ) (ctx : MarginfiFlashloanBounds) (account : MarginfiAccount) : Prop :=
  s.marginfiAccounts ctx.marginfiAccount = some account ∧ account.authority = ctx.signer ∧
    account.getFlag accountDisabledFlag = false ∧ account.getFlag accountFrozenFlag = false ∧
    account.getFlag accountInReceivershipFlag = false

/-- The instruction at an index succeeds, and leaves the flash-loan flag of the account with
the given value. -/
def LeavesFlag (d : Deployment τ) (ixs : List Instruction) (i : ℕ) (s : Ledger τ) (key : Pubkey)
    (value : Bool) : Prop :=
  ∃ s' account', runAt d ixs s i = .ok s' ∧ s'.marginfiAccounts key = some account' ∧
    account'.getFlag accountInFlashloanFlag = value

theorem not_leavesFlag_of_error {d : Deployment τ} {ixs : List Instruction} {i : ℕ}
    {s : Ledger τ} {key : Pubkey} {value : Bool} {e : ProgramError}
    (h : runAt d ixs s i = .error e) : ¬ LeavesFlag d ixs i s key value := by
  rintro ⟨s', account', hok, -⟩
  rw [h] at hok
  cases hok

section Composition

variable {d : Deployment τ} {ixs : List Instruction} {i : ℕ} {endIndex : UInt64}
  {start finish : MarginfiFlashloanBounds} {s : Ledger τ} {account : MarginfiAccount}

theorem Composition.start_refused (h : Composition d ixs i start endIndex finish)
    (hready : Ready s start account) : runAt d ixs s i = .error notAllowedInCPI := by
  obtain ⟨ix, hix, hbot, -⟩ := h.start_at
  obtain ⟨hload, hauth, -⟩ := hready
  rw [runAt_wrapper (w := .startFlashloan start endIndex) h.start_at h.start_program]
  have hforeign : ix.programId ≠ d.env.id := hbot ▸ botId_ne_marginfi d.env.cluster
  exact lendingAccountStartFlashloan_of_foreign hload hauth h.sysvar hix hforeign

theorem Composition.end_refused (h : Composition d ixs i start endIndex finish)
    (hready : Ready s finish account) :
    runAt d ixs s endIndex.toNat = .error notAllowedInCPI := by
  obtain ⟨hload, hauth, -⟩ := hready
  rw [runAt_wrapper (w := .endFlashloan finish) h.end_at h.end_program]
  have hdeep : (TxContext.topLevel ixs endIndex.toNat).callee.stackHeight ≠ topLevelHeight := by
    simp [TxContext.topLevel, topLevelHeight]
  exact lendingAccountEndFlashloan_of_callee hload hauth hdeep

/-- **Both wrappers of the documented composition are refused**, from every state in which
marginfi itself would open the flash loan, and from every state in which it would close it. -/
theorem Composition.refused (h : Composition d ixs i start endIndex finish) :
    (∀ s account, Ready s start account → account.getFlag accountInFlashloanFlag = false →
      runAt d ixs s i = .error notAllowedInCPI ∧
        ¬ LeavesFlag d ixs i s start.marginfiAccount true) ∧
      ∀ s account, Ready s finish account → account.getFlag accountInFlashloanFlag = true →
        account.lendingAccount.activeBalances = [] →
        runAt d ixs s endIndex.toNat = .error notAllowedInCPI ∧
          ¬ LeavesFlag d ixs endIndex.toNat s finish.marginfiAccount false := by
  constructor
  · intro s account hready _
    have herror := h.start_refused hready
    exact ⟨herror, not_leavesFlag_of_error herror⟩
  · intro s account hready _ _
    have herror := h.end_refused hready
    exact ⟨herror, not_leavesFlag_of_error herror⟩

end Composition

/-! ### A sample -/

/-- A chain on which only token balances matter besides marginfi. -/
def sampleDeployment : Deployment (Pubkey → ℕ) where
  env :=
    { cluster := .mainnetBeta
      clock := ⟨1700000000, 500⟩
      transfer := fun t balances =>
        if balances t.source < t.amount.toNat then .error (.custom 1)
        else
          let paid := Function.update balances t.source (balances t.source - t.amount.toNat)
          .ok (Function.update paid t.destination (paid t.destination + t.amount.toNat))
      isTokenAccount := fun _ _ => true
      mint := fun _ _ => none
      priceFeed := fun _ _ _ => .error .panicked
      createProgramAddress := fun _ bank bump => some (bank + BitVec.ofNat 256 bump.toNat) }
  otherHandlers := fun _ _ _ _ => .error errFallbackNotFound
  otherPrograms := fun _ _ _ => .error errInvalidProgramId
  accountData := fun s key => List.replicate 64 0 ++ Bytes.toLe 8 (s.rest key)

/-- A user without positions. -/
def sampleAccount : MarginfiAccount where
  group := 3
  authority := 2
  lendingAccount := ⟨List.replicate 16 .emptyDeactivated, rfl⟩
  accountFlags := 0
  lastUpdate := 0

/-- The user's account is `1`, its owner `2`. -/
def sampleBounds : MarginfiFlashloanBounds where
  marginfiAccount := 1
  signer := 2
  marginfiProgram := Cluster.mainnetBeta.id
  ixsSysvar := instructionsSysvarId

/-- The two wrappers, one after the other. -/
def sampleTransaction : List Instruction :=
  [(Call.marginfiStartFlashloan sampleBounds 1).instruction,
    (Call.marginfiEndFlashloan sampleBounds).instruction]

/-- The state before the transaction, with the given account. -/
def sampleLedger (account : MarginfiAccount) : Ledger (Pubkey → ℕ) where
  marginfiAccounts := fun key => if key = 1 then some account else none
  banks := fun _ => none
  groups := fun _ => none
  rest := fun _ => 0

theorem sampleComposition :
    Composition sampleDeployment sampleTransaction 0 sampleBounds 1 sampleBounds where
  start_at := ⟨_, rfl, rfl, parse_instruction _⟩
  end_at := ⟨_, rfl, rfl, parse_instruction _⟩
  lt := by decide
  same_account := rfl
  start_program := rfl
  end_program := rfl
  sysvar := rfl

theorem refused_sample :
    runAt sampleDeployment sampleTransaction (sampleLedger sampleAccount) 0 =
      .error notAllowedInCPI :=
  (sampleComposition.refused.1 _ sampleAccount ⟨rfl, rfl, by decide, by decide, by decide⟩
    (by decide)).1

/-- An account that marginfi itself would open a flash loan on, with the documented
composition: the start does not set the flag, and were it set, the end would not clear it. -/
theorem composition_not_accepted :
    Composition sampleDeployment sampleTransaction 0 sampleBounds 1 sampleBounds ∧
      Ready (sampleLedger sampleAccount) sampleBounds sampleAccount ∧
      sampleAccount.getFlag accountInFlashloanFlag = false ∧
      sampleAccount.lendingAccount.activeBalances = [] ∧
      ¬ LeavesFlag sampleDeployment sampleTransaction 0 (sampleLedger sampleAccount) 1 true ∧
      ¬ LeavesFlag sampleDeployment sampleTransaction 1
        (sampleLedger (sampleAccount.setFlag accountInFlashloanFlag)) 1 false := by
  have hready : Ready (sampleLedger sampleAccount) sampleBounds sampleAccount :=
    ⟨rfl, rfl, by decide, by decide, by decide⟩
  have hopen : Ready (sampleLedger (sampleAccount.setFlag accountInFlashloanFlag)) sampleBounds
      (sampleAccount.setFlag accountInFlashloanFlag) :=
    ⟨rfl, rfl, by decide, by decide, by decide⟩
  exact ⟨sampleComposition, hready, by decide, by decide,
    not_leavesFlag_of_error (sampleComposition.start_refused hready),
    not_leavesFlag_of_error (sampleComposition.end_refused hopen)⟩

/-! ### Beyond the composition -/

section Transactions

variable {d : Deployment τ} {ixs : List Instruction} {i : ℕ} {s s' : Ledger τ}

/-- An instruction of the bot is not the end of a flash loan in marginfi's eyes. -/
theorem not_endsFlashloan_of_bot {key : Pubkey} {ix : Instruction} (h : ix.programId = botId) :
    ¬ EndsFlashloan d.env.id key ix := by
  intro hends
  exact botId_ne_marginfi d.env.cluster (h.symm.trans hends.programId)

/-- **No transaction with a wrapper of the start or of the end succeeds**, whatever else it
contains and whatever the state it starts from. -/
theorem runTransaction_ne_ok {w : Wrapper} (hlists : Lists ixs i w.toCall)
    (hprogram : w.marginfiProgram = d.env.id)
    (hbound : w.request = .endFlashloan ∨ ∃ endIndex, w.request = .startFlashloan endIndex) :
    runTransaction d ixs s ≠ .ok s' := by
  intro hrun
  obtain ⟨ix, hix, hbot, -⟩ := id hlists
  have hi : i < ixs.length := (List.getElem?_eq_some_iff.mp hix).1
  obtain ⟨t, t', hstep⟩ := runAt_of_runTransaction hrun hi
  rw [runAt_wrapper hlists hprogram] at hstep
  cases w with
  | startFlashloan ctx endIndex =>
    obtain ⟨_, current, _, -, -, -, hcurrent, hid, -⟩ :=
      lendingAccountStartFlashloan_eq_ok.mp hstep
    obtain rfl : ix = current := Option.some.inj (hix.symm.trans hcurrent)
    exact botId_ne_marginfi d.env.cluster (hbot.symm.trans hid)
  | borrow ctx amount => simp [Wrapper.request] at hbound
  | repay ctx amount repayAll => simp [Wrapper.request] at hbound
  | endFlashloan ctx =>
    obtain ⟨_, -, -, hheight, -⟩ := lendingAccountEndFlashloan_eq_ok.mp hstep
    simp [TxContext.topLevel, topLevelHeight] at hheight

theorem runTransaction_ne_ok_sample :
    runTransaction sampleDeployment sampleTransaction (sampleLedger sampleAccount) ≠
      .ok (sampleLedger sampleAccount) :=
  runTransaction_ne_ok (w := .startFlashloan sampleBounds 1)
    (show Lists sampleTransaction 0 _ from ⟨_, rfl, rfl, parse_instruction _⟩) rfl (.inr ⟨1, rfl⟩)

/-- Sent to marginfi directly, with a direct end at the end index, the start is accepted. -/
theorem direct_start_accepted {start finish : MarginfiFlashloanBounds} {endIndex : UInt64}
    {account : MarginfiAccount} (hstart : ixs[i]? = some (marginfiStartFlashloanIx start endIndex))
    (hend : ixs[endIndex.toNat]? = some (marginfiEndFlashloanIx finish))
    (hlt : i < endIndex.toNat) (hsame : finish.marginfiAccount = start.marginfiAccount)
    (hprogram : start.marginfiProgram = d.env.id) (hprogram' : finish.marginfiProgram = d.env.id)
    (hsysvar : start.ixsSysvar = instructionsSysvarId) (hready : Ready s start account)
    (hflag : account.getFlag accountInFlashloanFlag = false) :
    LeavesFlag d ixs i s start.marginfiAccount true := by
  obtain ⟨hload, hauth, hdis, hfroz, hrec⟩ := hready
  have hends : EndsFlashloan d.env.id start.marginfiAccount (marginfiEndFlashloanIx finish) :=
    ⟨rfl, hprogram', _, rfl, hsame⟩
  refine ⟨_, account.setFlag accountInFlashloanFlag, ?_, Ledger.setAccount_same s _ _,
    MarginfiAccount.getFlag_setFlag account (by decide)⟩
  rw [runAt_direct (w := .startFlashloan start endIndex) hstart hprogram]
  exact lendingAccountStartFlashloan_eq_ok.mpr ⟨account, _, _, hload, hauth, hsysvar, hstart,
    hprogram, hlt, rfl, hend, hends, hdis, hflag, hrec, hfroz, rfl⟩

/-- Sent to marginfi directly, the end is accepted for an account without positions. -/
theorem direct_end_accepted {finish : MarginfiFlashloanBounds} {account : MarginfiAccount}
    (hend : ixs[i]? = some (marginfiEndFlashloanIx finish))
    (hprogram : finish.marginfiProgram = d.env.id) (hready : Ready s finish account)
    (hempty : account.lendingAccount.activeBalances = []) :
    LeavesFlag d ixs i s finish.marginfiAccount false := by
  obtain ⟨hload, hauth, hdis, hfroz, hrec⟩ := hready
  refine ⟨_, account.unsetFlag accountInFlashloanFlag, ?_, Ledger.setAccount_same s _ _,
    MarginfiAccount.getFlag_unsetFlag account _⟩
  rw [runAt_direct (w := .endFlashloan finish) hend hprogram]
  exact lendingAccountEndFlashloan_eq_ok.mpr
    ⟨account, hload, hauth, rfl, hdis, hrec, hfroz, hempty, rfl⟩

end Transactions

end FlashLoanBot
