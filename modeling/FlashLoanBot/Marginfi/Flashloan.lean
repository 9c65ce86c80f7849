import FlashLoanBot.Marginfi.Risk

/-!
# marginfi: the flash-loan instructions

The state of the program, and the two instructions that open and close a flash loan.

* `Ledger`: all accounts that marginfi owns, and everything else as one opaque part;
* `validateNotCpiWithSysvar`, `validateNotCpiByStackHeight`: the guards against invocation
  from another program;
* `checkFlashloanCanStart`, `lendingAccountStartFlashloan`, `lendingAccountEndFlashloan`;
* `lendingAccountStartFlashloan_eq_ok`, `lendingAccountEndFlashloan_eq_ok`: exactly when the
  two succeed (the end without remaining accounts), and what they leave behind;
* `lendingAccountEndFlashloan_inv`: what an end with any remaining accounts has checked.
-/

namespace Marginfi

open Solana Checked

/-! ### The ledger -/

/-- The accounts of the program, by address, and the rest of the chain. -/
structure Ledger (τ : Type) where
  marginfiAccounts : Pubkey → Option MarginfiAccount
  banks : Pubkey → Option Bank
  groups : Pubkey → Option MarginfiGroup
  rest : τ

namespace Ledger

variable {τ : Type}

/-- Write a user account. -/
def setAccount (s : Ledger τ) (key : Pubkey) (account : MarginfiAccount) : Ledger τ :=
  { s with marginfiAccounts := Function.update s.marginfiAccounts key (some account) }

/-- Write a bank. -/
def setBank (s : Ledger τ) (key : Pubkey) (bank : Bank) : Ledger τ :=
  { s with banks := Function.update s.banks key (some bank) }

@[simp] theorem setAccount_same (s : Ledger τ) (key : Pubkey) (account : MarginfiAccount) :
    (s.setAccount key account).marginfiAccounts key = some account := by
  simp [setAccount]

@[simp] theorem setAccount_of_ne (s : Ledger τ) {key other : Pubkey} (h : other ≠ key)
    (account : MarginfiAccount) :
    (s.setAccount key account).marginfiAccounts other = s.marginfiAccounts other := by
  simp [setAccount, h]

/-- `AccountLoader`: an account of another program is refused. -/
def loadAccount (s : Ledger τ) (key : Pubkey) : Result MarginfiAccount :=
  fromOption errWrongOwner (s.marginfiAccounts key)

/-- `AccountLoader` on a bank. -/
def loadBank (s : Ledger τ) (key : Pubkey) : Result Bank :=
  fromOption errWrongOwner (s.banks key)

/-- `AccountLoader` on a group. -/
def loadGroup (s : Ledger τ) (key : Pubkey) : Result MarginfiGroup :=
  fromOption errWrongOwner (s.groups key)

end Ledger

/-! ### Account structures -/

/-- `LendingAccountStartFlashloan` -/
structure LendingAccountStartFlashloan where
  marginfiAccount : Pubkey
  authority : Pubkey
  ixsSysvar : Pubkey
  deriving DecidableEq

instance : Accounts LendingAccountStartFlashloan where
  fields := [.mutable "marginfi_account", .signer "authority", .account "ixs_sysvar"]
  keys a := [a.marginfiAccount, a.authority, a.ixsSysvar]
  ofKeys
    | [a, s, x] => some ⟨a, s, x⟩
    | _ => none
  keys_admitted a := by simp
  ofKeys_keys a := rfl
  keys_ofKeys ks a h := by
    split at h
    · cases h
      rfl
    · cases h

/-- `LendingAccountEndFlashloan` -/
structure LendingAccountEndFlashloan where
  marginfiAccount : Pubkey
  authority : Pubkey
  deriving DecidableEq

instance : Accounts LendingAccountEndFlashloan where
  fields := [.mutable "marginfi_account", .signer "authority"]
  keys a := [a.marginfiAccount, a.authority]
  ofKeys
    | [a, s] => some ⟨a, s⟩
    | _ => none
  keys_admitted a := by simp
  ofKeys_keys a := rfl
  keys_ofKeys ks a h := by
    split at h
    · cases h
      rfl
    · cases h

/-! ### Introspection -/

/-- `ix_discriminators::END_FLASHLOAN` -/
def endFlashloanDiscriminator : List UInt8 := [105, 124, 201, 106, 153, 2, 8, 156]

/-- `load_instruction_at_checked` -/
def loadInstructionAt (tx : TxContext) (index : ℕ) : Result Instruction :=
  fromOption .invalidArgument tx.instructions[index]?

/-- `validate_not_cpi_with_sysvar`: the current top-level instruction is one of marginfi's. -/
def validateNotCpiWithSysvar (id : Pubkey) (tx : TxContext) : Result ℕ := do
  let currentIx ← loadInstructionAt tx tx.currentIndex
  check (currentIx.programId = id) .notAllowedInCPI
  .ok tx.currentIndex

/-- `validate_not_cpi_by_stack_height` -/
def validateNotCpiByStackHeight (tx : TxContext) : Result Unit :=
  check (tx.stackHeight = topLevelHeight) .notAllowedInCPI

/-- The instruction at the end index ends the flash loan of the account. -/
def checkEndFlashloanIx (id accountKey : Pubkey) (endIx : Instruction) : Result Unit := do
  -- slicing shorter data aborts
  ensure (8 ≤ endIx.data.length) .panicked
  check (endIx.data.take 8 = endFlashloanDiscriminator) .illegalFlashloan
  check (endIx.programId = id) .illegalFlashloan
  let endAccount ← fromOption MarginfiError.illegalFlashloan.toError endIx.accounts[0]?
  check (endAccount.pubkey = accountKey) .illegalFlashloan

/-- The instruction ends the flash loan of an account. -/
structure EndsFlashloan (id accountKey : Pubkey) (ix : Instruction) : Prop where
  discriminator : ix.data.take 8 = endFlashloanDiscriminator
  programId : ix.programId = id
  account : ∃ m, ix.accounts[0]? = some m ∧ m.pubkey = accountKey

theorem checkEndFlashloanIx_eq_ok {id accountKey : Pubkey} {ix : Instruction} {u : Unit} :
    checkEndFlashloanIx id accountKey ix = .ok u ↔ EndsFlashloan id accountKey ix := by
  simp only [checkEndFlashloanIx, bind_eq_ok, ensure_eq_ok, check_eq_ok, fromOption_eq_ok]
  constructor
  · rintro ⟨_, -, _, hdata, _, hid, m, hm, hkey⟩
    exact ⟨hdata, hid, m, hm, hkey⟩
  · rintro ⟨hdata, hid, m, hm, hkey⟩
    have hlen : 8 ≤ ix.data.length := by
      have := congrArg List.length hdata
      simp [endFlashloanDiscriminator] at this
      exact this
    exact ⟨(), hlen, (), hdata, (), hid, m, hm, hkey⟩

/-- `check_flashloan_can_start` -/
def checkFlashloanCanStart (id : Pubkey) (tx : TxContext) (accountKey : Pubkey)
    (account : MarginfiAccount) (endFlIdx : UInt64) : Result Unit := do
  let currentIxIdx ← validateNotCpiWithSysvar id tx
  check (currentIxIdx < endFlIdx.toNat) .illegalFlashloan
  validateNotCpiByStackHeight tx
  let endIx ← loadInstructionAt tx endFlIdx.toNat
  checkEndFlashloanIx id accountKey endIx
  check (account.getFlag accountDisabledFlag = false) .accountDisabled
  check (account.getFlag accountInFlashloanFlag = false) .illegalFlashloan
  check (account.getFlag accountInReceivershipFlag = false) .forbiddenIx
  check (account.getFlag accountFrozenFlag = false) .accountFrozen

/-! ### The instructions -/

section Instructions

variable {τ : Type}

/-- `lending_account_start_flashloan` -/
def lendingAccountStartFlashloan (env : Env τ) (tx : TxContext)
    (ctx : LendingAccountStartFlashloan) (endIndex : UInt64) (s : Ledger τ) :
    Result (Ledger τ) := do
  let account ← s.loadAccount ctx.marginfiAccount
  check (account.authority = ctx.authority) .unauthorized
  ensure (ctx.ixsSysvar = instructionsSysvarId) errConstraintAddress
  checkFlashloanCanStart env.id tx ctx.marginfiAccount account endIndex
  .ok (s.setAccount ctx.marginfiAccount (account.setFlag accountInFlashloanFlag))

/-- `lending_account_end_flashloan` -/
def lendingAccountEndFlashloan (env : Env τ) (tx : TxContext) (ctx : LendingAccountEndFlashloan)
    (remaining : List Pubkey) (s : Ledger τ) : Result (Ledger τ) := do
  let account ← s.loadAccount ctx.marginfiAccount
  check (account.authority = ctx.authority) .unauthorized
  validateNotCpiByStackHeight tx
  check (account.getFlag accountDisabledFlag = false) .accountDisabled
  check (account.getFlag accountInReceivershipFlag = false) .forbiddenIx
  check (account.getFlag accountFrozenFlag = false) .accountFrozen
  let account := account.unsetFlag accountInFlashloanFlag
  let _ ← RiskEngine.checkAccountInitHealth s.banks (env.priceFeed s.rest) account remaining
  .ok (s.setAccount ctx.marginfiAccount account)

/-- **Starting** succeeds exactly when marginfi itself runs at top level, the instruction at the
end index ends the flash loan of the account later in the transaction, and the account is the
signer's and neither disabled, in a flash loan, in receivership nor frozen; it leaves the
account as it was with the flag set. -/
theorem lendingAccountStartFlashloan_eq_ok {env : Env τ} {tx : TxContext}
    {ctx : LendingAccountStartFlashloan} {endIndex : UInt64} {s s' : Ledger τ} :
    lendingAccountStartFlashloan env tx ctx endIndex s = .ok s' ↔
      ∃ account current endIx, s.marginfiAccounts ctx.marginfiAccount = some account ∧
        account.authority = ctx.authority ∧ ctx.ixsSysvar = instructionsSysvarId ∧
        tx.instructions[tx.currentIndex]? = some current ∧ current.programId = env.id ∧
        tx.currentIndex < endIndex.toNat ∧ tx.stackHeight = topLevelHeight ∧
        tx.instructions[endIndex.toNat]? = some endIx ∧
        EndsFlashloan env.id ctx.marginfiAccount endIx ∧
        account.getFlag accountDisabledFlag = false ∧
        account.getFlag accountInFlashloanFlag = false ∧
        account.getFlag accountInReceivershipFlag = false ∧
        account.getFlag accountFrozenFlag = false ∧
        s' = s.setAccount ctx.marginfiAccount (account.setFlag accountInFlashloanFlag) := by
  simp only [lendingAccountStartFlashloan, checkFlashloanCanStart, validateNotCpiWithSysvar,
    validateNotCpiByStackHeight, loadInstructionAt, Ledger.loadAccount, bind_eq_ok, check_eq_ok,
    ensure_eq_ok, fromOption_eq_ok, checkEndFlashloanIx_eq_ok]
  constructor
  · rintro ⟨account, hload, _, hauth, _, hsysvar, _, ⟨_, ⟨current, hcurrent, _, hid, hidx⟩, _,
      hlt, _, hheight, endIx, hend, _, hends, _, hdis, _, hfl, _, hrec, hfroz⟩, h⟩
    cases hidx
    cases h
    exact ⟨account, current, endIx, hload, hauth, hsysvar, hcurrent, hid, hlt, hheight, hend,
      hends, hdis, hfl, hrec, hfroz, rfl⟩
  · rintro ⟨account, current, endIx, hload, hauth, hsysvar, hcurrent, hid, hlt, hheight, hend,
      hends, hdis, hfl, hrec, hfroz, rfl⟩
    exact ⟨account, hload, (), hauth, (), hsysvar, (), ⟨_, ⟨current, hcurrent, (), hid, rfl⟩, (),
      hlt, (), hheight, endIx, hend, (), hends, (), hdis, (), hfl, (), hrec, hfroz⟩, rfl⟩

/-- An end that succeeds, with whatever remaining accounts, runs at top level and passes the
health check with the flag cleared; it leaves the account as it was with the flag cleared. -/
theorem lendingAccountEndFlashloan_inv {env : Env τ} {tx : TxContext}
    {ctx : LendingAccountEndFlashloan} {remaining : List Pubkey} {s s' : Ledger τ}
    (h : lendingAccountEndFlashloan env tx ctx remaining s = .ok s') :
    ∃ account engine, s.marginfiAccounts ctx.marginfiAccount = some account ∧
      tx.stackHeight = topLevelHeight ∧
      RiskEngine.checkAccountInitHealth s.banks (env.priceFeed s.rest)
        (account.unsetFlag accountInFlashloanFlag) remaining = .ok engine ∧
      s' = s.setAccount ctx.marginfiAccount (account.unsetFlag accountInFlashloanFlag) := by
  simp only [lendingAccountEndFlashloan, bind_eq_ok, check_eq_ok, validateNotCpiByStackHeight,
    Ledger.loadAccount, fromOption_eq_ok] at h
  obtain ⟨account, hload, _, -, _, hheight, _, -, _, -, _, -, engine, hhealth, h⟩ := h
  cases h
  exact ⟨account, engine, hload, hheight, hhealth, rfl⟩

/-- **Ending without remaining accounts** succeeds, at top level, exactly for an account of
the signer that is neither disabled, in receivership nor frozen and has no active position;
it leaves the account as it was with the flag cleared. -/
theorem lendingAccountEndFlashloan_eq_ok {env : Env τ} {tx : TxContext}
    {ctx : LendingAccountEndFlashloan} {s s' : Ledger τ} :
    lendingAccountEndFlashloan env tx ctx [] s = .ok s' ↔
      ∃ account, s.marginfiAccounts ctx.marginfiAccount = some account ∧
        account.authority = ctx.authority ∧ tx.stackHeight = topLevelHeight ∧
        account.getFlag accountDisabledFlag = false ∧
        account.getFlag accountInReceivershipFlag = false ∧
        account.getFlag accountFrozenFlag = false ∧
        account.lendingAccount.activeBalances = [] ∧
        s' = s.setAccount ctx.marginfiAccount (account.unsetFlag accountInFlashloanFlag) := by
  constructor
  · intro h
    simp only [lendingAccountEndFlashloan, bind_eq_ok, check_eq_ok, validateNotCpiByStackHeight,
      Ledger.loadAccount, fromOption_eq_ok] at h
    obtain ⟨account, hload, _, hauth, _, hheight, _, hdis, _, hrec, _, hfroz, engine, hhealth,
      h⟩ := h
    cases h
    have hnone := (RiskEngine.checkAccountInitHealth_nil
      (MarginfiAccount.getFlag_unsetFlag account _)).mp ⟨engine, hhealth⟩
    exact ⟨account, hload, hauth, hheight, hdis, hrec, hfroz, hnone, rfl⟩
  · rintro ⟨account, hload, hauth, hheight, hdis, hrec, hfroz, hnone, rfl⟩
    have hcheck : ∃ engine, RiskEngine.checkAccountInitHealth s.banks (env.priceFeed s.rest)
        (account.unsetFlag accountInFlashloanFlag) [] = .ok engine :=
      (RiskEngine.checkAccountInitHealth_nil (MarginfiAccount.getFlag_unsetFlag _ _)).mpr hnone
    obtain ⟨engine, hhealth⟩ := hcheck
    simp [lendingAccountEndFlashloan, Ledger.loadAccount, hload, check, ensure, hauth,
      validateNotCpiByStackHeight, hheight, hdis, hrec, hfroz, hhealth]

end Instructions

end Marginfi
