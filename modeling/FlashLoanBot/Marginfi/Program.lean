import FlashLoanBot.Marginfi.Handlers
import FlashLoanBot.Marginfi.Lending

/-!
# marginfi as a program

The entrypoint of the embedded marginfi program, and the program as a part of a chain.

* `Call`: the four instructions that flash loans are made of;
* `parse`: a discriminator, Borsh arguments in declaration order, accounts by position;
* `parse_eq_call`: exactly which instructions are read as one of these calls;
* `Deployment`: marginfi together with everything else that runs on the chain;
* `process`, `Deployment.runtime`: the entrypoint, and the chain as a caller of it sees it.
-/

namespace Marginfi

open Solana Checked

/-! ### Calls -/

/-- The instructions that flash loans are made of, with their accounts and arguments. -/
inductive Call
  | startFlashloan (ctx : LendingAccountStartFlashloan) (endIndex : UInt64)
  | endFlashloan (ctx : LendingAccountEndFlashloan)
  | borrow (ctx : LendingAccountBorrow) (amount : UInt64)
  | repay (ctx : LendingAccountRepay) (amount : UInt64) (repayAll : Option Bool)
  deriving DecidableEq

namespace Call

/-- The name of the instruction. -/
def name : Call → String
  | startFlashloan _ _ => "lending_account_start_flashloan"
  | endFlashloan _ => "lending_account_end_flashloan"
  | borrow _ _ => "lending_account_borrow"
  | repay _ _ _ => "lending_account_repay"

/-- The Borsh form of the arguments. -/
def args : Call → List UInt8
  | startFlashloan _ endIndex => Codec.u64.enc endIndex
  | endFlashloan _ => Codec.unit.enc ()
  | borrow _ amount => Codec.u64.enc amount
  | repay _ amount repayAll => (Codec.u64.prod (Codec.option Codec.bool)).enc (amount, repayAll)

/-- One meta for each field of the account structure, with the privileges it declares. -/
def metas : Call → List AccountMeta
  | startFlashloan ctx _ => toAccountMetas ctx
  | endFlashloan ctx => toAccountMetas ctx
  | borrow ctx _ => toAccountMetas ctx
  | repay ctx _ _ => toAccountMetas ctx

/-- The declared fields of the account structure. -/
def fields : Call → List Field
  | startFlashloan _ _ => Accounts.fields LendingAccountStartFlashloan
  | endFlashloan _ => Accounts.fields LendingAccountEndFlashloan
  | borrow _ _ => Accounts.fields LendingAccountBorrow
  | repay _ _ _ => Accounts.fields LendingAccountRepay

/-- The addresses that the account structure holds. -/
def keys : Call → List Pubkey
  | startFlashloan ctx _ => Accounts.keys ctx
  | endFlashloan ctx => Accounts.keys ctx
  | borrow ctx _ => Accounts.keys ctx
  | repay ctx _ _ => Accounts.keys ctx

theorem allGranted_metas (c : Call) : AllGranted c.fields c.keys c.metas := by
  cases c <;> exact allGranted_toAccountMetas _

theorem name_mem (c : Call) : c.name ∈ handlerNames := by
  cases c <;> simp [name, handlerNames]

end Call

/-! ### The entrypoint -/

/-- A parsed instruction: the call, the accounts that follow those of the structure, and the
bytes that follow the arguments. -/
structure Parsed where
  call : Call
  remaining : List AccountMeta
  unread : List UInt8
  deriving DecidableEq

/-- Arguments first, then accounts. -/
def readCall {β : Type} (α : Type) [Accounts α] (args : Codec β) (call : α → β → Call)
    (data : List UInt8) (metas : List AccountMeta) : Result Parsed := do
  let (b, unread) ← fromOption errDidNotDeserialize (args.dec data)
  let (a, remaining) ← tryAccounts α metas
  .ok ⟨call a b, remaining, unread⟩

/-- The arguments and accounts of the instruction of the given name; none for the
instructions that flash loans do not use. -/
def readArgs (name : String) (data : List UInt8) (metas : List AccountMeta) :
    Option (Result Parsed) :=
  if name = "lending_account_start_flashloan" then
    some (readCall LendingAccountStartFlashloan Codec.u64 .startFlashloan data metas)
  else if name = "lending_account_end_flashloan" then
    some (readCall LendingAccountEndFlashloan Codec.unit (fun a _ => .endFlashloan a) data metas)
  else if name = "lending_account_borrow" then
    some (readCall LendingAccountBorrow Codec.u64 .borrow data metas)
  else if name = "lending_account_repay" then
    some (readCall LendingAccountRepay (Codec.u64.prod (Codec.option Codec.bool))
      (fun a p => .repay a p.1 p.2) data metas)
  else none

/-- What the entrypoint makes of an instruction: one of the calls above, or another handler
with its undecoded arguments. -/
inductive Entry
  | call (parsed : Parsed)
  | other (name : String) (args : List UInt8)
  deriving DecidableEq

/-- The entrypoint's reading of an instruction. -/
def parse (ix : Instruction) : Result Entry :=
  match dispatch sighash handlerNames ix.data with
  | none => .error errFallbackNotFound
  | some (name, data) =>
      match readArgs name data ix.accounts with
      | some parsed => Entry.call <$> parsed
      | none => .ok (.other name data)

/-! ### What is accepted -/

theorem readCall_eq_ok {α β : Type} [Accounts α] {args : Codec β} {call : α → β → Call}
    {data : List UInt8} {metas : List AccountMeta} {p : Parsed} :
    readCall α args call data metas = .ok p ↔
      ∃ a b ms, p.call = call a b ∧ metas = ms ++ p.remaining ∧
        AllGranted (Accounts.fields α) (Accounts.keys a) ms ∧ data = args.enc b ++ p.unread := by
  simp only [readCall, bind_eq_ok, fromOption_eq_ok, Codec.dec_eq_some, Prod.exists,
    tryAccounts_eq_ok]
  constructor
  · rintro ⟨b, unread, hdata, a, remaining, ⟨ms, hmetas, hgranted⟩, h⟩
    cases h
    exact ⟨a, b, ms, rfl, hmetas, hgranted, hdata⟩
  · rintro ⟨a, b, ms, hcall, hmetas, hgranted, hdata⟩
    exact ⟨b, p.unread, hdata, a, p.remaining, ⟨ms, hmetas, hgranted⟩, by rw [← hcall]⟩

/-- The accounts of the call, with at least the declared privileges, and its arguments, followed
by what is left over. -/
def Parsed.ReadFrom (p : Parsed) (data : List UInt8) (metas : List AccountMeta) : Prop :=
  ∃ ms, metas = ms ++ p.remaining ∧ AllGranted p.call.fields p.call.keys ms ∧
    data = p.call.args ++ p.unread

theorem readArgs_eq_ok {name : String} {data : List UInt8} {metas : List AccountMeta}
    {p : Parsed} :
    readArgs name data metas = some (.ok p) ↔ name = p.call.name ∧ p.ReadFrom data metas := by
  obtain ⟨c, remaining, unread⟩ := p
  constructor
  · intro h
    unfold readArgs at h
    split_ifs at h with hstart hend hborrow hrepay <;>
      simp only [Option.some.injEq, readCall_eq_ok] at h <;>
      obtain ⟨a, b, ms, rfl, hmetas, hgranted, hdata⟩ := h
    · exact ⟨hstart, ms, hmetas, hgranted, hdata⟩
    · exact ⟨hend, ms, hmetas, hgranted, hdata⟩
    · exact ⟨hborrow, ms, hmetas, hgranted, hdata⟩
    · exact ⟨hrepay, ms, hmetas, hgranted, hdata⟩
  · rintro ⟨rfl, ms, hmetas, hgranted, hdata⟩
    cases c <;> simp only [readArgs, Call.name, String.reduceEq, if_true, if_false,
      Option.some.injEq, readCall_eq_ok] <;>
      exact ⟨_, _, ms, rfl, hmetas, hgranted, hdata⟩

theorem readArgs_eq_none {name : String} {data : List UInt8} {metas : List AccountMeta}
    (h : readArgs name data metas = none) :
    name ≠ "lending_account_start_flashloan" ∧ name ≠ "lending_account_end_flashloan" := by
  unfold readArgs at h
  split_ifs at h with hstart hend
  exact ⟨hstart, hend⟩

/-- **The entrypoint reads an instruction as a call exactly when its data is the discriminator
and the arguments of the call, and its metas grant the accounts of the call; what follows the
arguments and the accounts is handed on.** -/
theorem parse_eq_call {ix : Instruction} {p : Parsed} :
    parse ix = .ok (.call p) ↔
      ∃ data, ix.data = sighash p.call.name ++ data ∧ p.ReadFrom data ix.accounts := by
  constructor
  · intro h
    unfold parse at h
    cases hdispatch : dispatch sighash handlerNames ix.data with
    | none => simp [hdispatch] at h
    | some found =>
      obtain ⟨name, data⟩ := found
      rw [hdispatch] at h
      cases hread : readArgs name data ix.accounts with
      | none => simp [hread] at h
      | some result =>
        simp only [hread] at h
        obtain ⟨q, hq, hcall⟩ := map_eq_ok.mp h
        cases hcall
        rw [hq] at hread
        obtain ⟨rfl, hfrom⟩ := readArgs_eq_ok.mp hread
        exact ⟨data, ((dispatch_eq_some sighash_length nodup_sighash).mp hdispatch).2, hfrom⟩
  · rintro ⟨data, hdata, hfrom⟩
    have hdispatch : dispatch sighash handlerNames ix.data = some (p.call.name, data) :=
      (dispatch_eq_some sighash_length nodup_sighash).mpr ⟨p.call.name_mem, hdata⟩
    have hread := readArgs_eq_ok.mpr ⟨rfl, hfrom⟩
    simp only [parse, hdispatch, hread]
    rfl

/-- What another handler is given is neither the start nor the end of a flash loan. -/
theorem name_of_parse_other {ix : Instruction} {name : String} {args : List UInt8}
    (h : parse ix = .ok (.other name args)) :
    name ≠ "lending_account_start_flashloan" ∧ name ≠ "lending_account_end_flashloan" := by
  unfold parse at h
  cases hdispatch : dispatch sighash handlerNames ix.data with
  | none => simp [hdispatch] at h
  | some found =>
    obtain ⟨found, data⟩ := found
    rw [hdispatch] at h
    cases hread : readArgs found data ix.accounts with
    | none =>
      simp only [hread] at h
      cases h
      exact readArgs_eq_none hread
    | some result =>
      simp only [hread] at h
      obtain ⟨q, -, hcall⟩ := map_eq_ok.mp h
      cases hcall

/-- Data that is the discriminator and the arguments of a call, and the metas of its accounts,
are read as that call with nothing left over. -/
theorem parse_call {ix : Instruction} (c : Call) (hdata : ix.data = sighash c.name ++ c.args)
    (hmetas : ix.accounts = c.metas) : parse ix = .ok (.call ⟨c, [], []⟩) :=
  parse_eq_call.mpr ⟨c.args, hdata, c.metas, by simp [hmetas], c.allGranted_metas, by simp⟩

/-! ### The program on a chain -/

section Chain

variable {τ : Type}

/-- Run a call, given the addresses of the accounts that follow those of the structure. -/
def Call.run (env : Env τ) (tx : TxContext) (remaining : List Pubkey) :
    Call → Ledger τ → Result (Ledger τ)
  | startFlashloan ctx endIndex => lendingAccountStartFlashloan env tx ctx endIndex
  | endFlashloan ctx => lendingAccountEndFlashloan env tx ctx remaining
  | borrow ctx amount => lendingAccountBorrow env ctx remaining amount
  | repay ctx amount repayAll => lendingAccountRepay env ctx remaining amount repayAll

/-- marginfi together with everything else that runs on the chain: its other handlers, the
other programs, and the data of all accounts. -/
structure Deployment (τ : Type) where
  env : Env τ
  otherHandlers : String → TxContext → Instruction → Ledger τ → Result (Ledger τ)
  otherPrograms : TxContext → Instruction → Ledger τ → Result (Ledger τ)
  accountData : Ledger τ → Pubkey → List UInt8

/-- Run an instruction addressed to marginfi. -/
def process (d : Deployment τ) (tx : TxContext) (ix : Instruction) (s : Ledger τ) :
    Result (Ledger τ) := do
  match ← parse ix with
  | .call parsed => parsed.call.run d.env tx (parsed.remaining.map AccountMeta.pubkey) s
  | .other name _ => d.otherHandlers name tx ix s

/-- The chain as a program sees it that runs in the given context: what it invokes runs one
level higher on the stack, and instructions addressed to marginfi reach its entrypoint. -/
def Deployment.runtime (d : Deployment τ) (tx : TxContext) : Runtime (Ledger τ) where
  accountData := d.accountData
  invoke ix s :=
    if ix.programId = d.env.id then process d tx.callee ix s else d.otherPrograms tx.callee ix s

/-- An instruction that is parsed as a call without further accounts runs that call. -/
theorem process_of_parse {d : Deployment τ} {tx : TxContext} {ix : Instruction} {c : Call}
    (h : parse ix = .ok (.call ⟨c, [], []⟩)) (s : Ledger τ) :
    process d tx ix s = c.run d.env tx [] s := by
  simp [process, h]

end Chain

end Marginfi
