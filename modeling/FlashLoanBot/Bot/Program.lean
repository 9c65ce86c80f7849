import FlashLoanBot.Bot.Handlers

/-!
# The bot as a program

The bot's entrypoint: a top-level instruction is parsed into a call of one of the six
handlers, and the handler is run.

* `Handler`: the handlers in the order of the source, with their names;
* `Call`: a handler with its accounts and arguments; `Call.instruction` is the instruction
  that a client sends for it, `Call.run` the handler applied;
* `parse`, `process`: the entrypoint;
* `parse_eq_ok`: exactly which instructions are read as a call, among them the one that a client
  sends for it (`parse_instruction`);
* `signed_of_parse`: no call runs without the signature of its signer;
* `invoked_within_of_parse`: what a handler hands on asks for no privilege that the instruction
  was not granted.
-/

namespace FlashLoanBot

open Solana Checked

/-! ### Handlers and calls -/

/-- The handlers of the `#[program]` module. -/
inductive Handler
  | marginfiStartFlashloan
  | marginfiBorrow
  | proxyRaydium
  | proxyOrca
  | marginfiRepay
  | marginfiEndFlashloan
  deriving DecidableEq

namespace Handler

/-- All handlers, in the order in which the entrypoint tries them. -/
def all : List Handler :=
  [marginfiStartFlashloan, marginfiBorrow, proxyRaydium, proxyOrca, marginfiRepay,
    marginfiEndFlashloan]

/-- The name of a handler in the source. -/
def name : Handler → String
  | marginfiStartFlashloan => "marginfi_start_flashloan"
  | marginfiBorrow => "marginfi_borrow"
  | proxyRaydium => "proxy_raydium"
  | proxyOrca => "proxy_orca"
  | marginfiRepay => "marginfi_repay"
  | marginfiEndFlashloan => "marginfi_end_flashloan"

/-- The discriminator that begins the data of an instruction for a handler. -/
def discriminator (h : Handler) : List UInt8 := sighash h.name

@[simp] theorem mem_all (h : Handler) : h ∈ all := by
  cases h <;> decide

@[simp] theorem discriminator_length (h : Handler) : h.discriminator.length = 8 :=
  sighash_length h.name

theorem map_discriminator : all.map discriminator = [
    [13, 214, 239, 109, 12, 231, 44, 30],
    [124, 103, 89, 24, 107, 69, 102, 82],
    [117, 39, 243, 46, 179, 196, 212, 10],
    [164, 195, 194, 184, 191, 106, 38, 171],
    [79, 236, 209, 10, 85, 72, 19, 28],
    [210, 163, 12, 70, 245, 177, 178, 108]] := by
  decide +kernel

/-- No two handlers share a discriminator. -/
theorem nodup_discriminator : (all.map discriminator).Nodup := by
  rw [map_discriminator]
  decide

end Handler

/-- A handler with its accounts and its arguments. -/
inductive Call
  | marginfiStartFlashloan (ctx : MarginfiFlashloanBounds) (endIndex : UInt64)
  | marginfiBorrow (ctx : MarginfiBorrow) (amount : UInt64)
  | proxyRaydium (ctx : ProxyRaydium) (amountIn amountOutMin : UInt64)
  | proxyOrca (ctx : ProxyOrca) (amountIn amountOutMin : UInt64)
  | marginfiRepay (ctx : MarginfiRepay) (amount : UInt64) (repayAll : Bool)
  | marginfiEndFlashloan (ctx : MarginfiFlashloanBounds)
  deriving DecidableEq

namespace Call

/-- The handler that is called. -/
def handler : Call → Handler
  | marginfiStartFlashloan _ _ => .marginfiStartFlashloan
  | marginfiBorrow _ _ => .marginfiBorrow
  | proxyRaydium _ _ _ => .proxyRaydium
  | proxyOrca _ _ _ => .proxyOrca
  | marginfiRepay _ _ _ => .marginfiRepay
  | marginfiEndFlashloan _ => .marginfiEndFlashloan

/-- The Borsh form of the arguments. -/
def args : Call → List UInt8
  | marginfiStartFlashloan _ endIndex => Codec.u64.enc endIndex
  | marginfiBorrow _ amount => Codec.u64.enc amount
  | proxyRaydium _ amountIn amountOutMin => (Codec.u64.prod Codec.u64).enc (amountIn, amountOutMin)
  | proxyOrca _ amountIn amountOutMin => (Codec.u64.prod Codec.u64).enc (amountIn, amountOutMin)
  | marginfiRepay _ amount repayAll => (Codec.u64.prod Codec.bool).enc (amount, repayAll)
  | marginfiEndFlashloan _ => Codec.unit.enc ()

/-- The metas of the accounts, with the privileges that the bot's structures declare. -/
def metas : Call → List AccountMeta
  | marginfiStartFlashloan ctx _ => toAccountMetas ctx
  | marginfiBorrow ctx _ => toAccountMetas ctx
  | proxyRaydium ctx _ _ => toAccountMetas ctx
  | proxyOrca ctx _ _ => toAccountMetas ctx
  | marginfiRepay ctx _ _ => toAccountMetas ctx
  | marginfiEndFlashloan ctx => toAccountMetas ctx

/-- The declared fields of the account structure. -/
def fields : Call → List Field
  | marginfiStartFlashloan _ _ => Accounts.fields MarginfiFlashloanBounds
  | marginfiBorrow _ _ => Accounts.fields MarginfiBorrow
  | proxyRaydium _ _ _ => Accounts.fields ProxyRaydium
  | proxyOrca _ _ _ => Accounts.fields ProxyOrca
  | marginfiRepay _ _ _ => Accounts.fields MarginfiRepay
  | marginfiEndFlashloan _ => Accounts.fields MarginfiFlashloanBounds

/-- The addresses that the account structure holds. -/
def keys : Call → List Pubkey
  | marginfiStartFlashloan ctx _ => Accounts.keys ctx
  | marginfiBorrow ctx _ => Accounts.keys ctx
  | proxyRaydium ctx _ _ => Accounts.keys ctx
  | proxyOrca ctx _ _ => Accounts.keys ctx
  | marginfiRepay ctx _ _ => Accounts.keys ctx
  | marginfiEndFlashloan ctx => Accounts.keys ctx

/-- The instruction that a client puts into a transaction for a call. -/
def instruction (c : Call) : Instruction where
  programId := botId
  accounts := c.metas
  data := c.handler.discriminator ++ c.args

/-- The instruction that the handler hands to `invoke`. -/
def invoked : Call → Instruction
  | marginfiStartFlashloan ctx endIndex => marginfiStartFlashloanIx ctx endIndex
  | marginfiBorrow ctx amount => marginfiBorrowIx ctx amount
  | proxyRaydium ctx amountIn amountOutMin => proxyRaydiumIx ctx amountIn amountOutMin
  | proxyOrca ctx amountIn amountOutMin => proxyOrcaIx ctx amountIn amountOutMin
  | marginfiRepay ctx amount repayAll => marginfiRepayIx ctx amount repayAll
  | marginfiEndFlashloan ctx => marginfiEndFlashloanIx ctx

/-- The handler applied to its accounts and arguments. -/
def run {σ : Type} (rt : Runtime σ) : Call → σ → Result σ
  | marginfiStartFlashloan ctx endIndex => FlashLoanBot.marginfiStartFlashloan rt ctx endIndex
  | marginfiBorrow ctx amount => FlashLoanBot.marginfiBorrow rt ctx amount
  | proxyRaydium ctx amountIn amountOutMin =>
      FlashLoanBot.proxyRaydium rt ctx amountIn amountOutMin
  | proxyOrca ctx amountIn amountOutMin => FlashLoanBot.proxyOrca rt ctx amountIn amountOutMin
  | marginfiRepay ctx amount repayAll => FlashLoanBot.marginfiRepay rt ctx amount repayAll
  | marginfiEndFlashloan ctx => FlashLoanBot.marginfiEndFlashloan rt ctx

end Call

/-- A call that succeeds is the invocation of one instruction, and changes nothing else. -/
theorem Call.invoke_of_run {σ : Type} {rt : Runtime σ} {c : Call} {s s' : σ}
    (h : c.run rt s = .ok s') : rt.invoke c.invoked s = .ok s' := by
  cases c with
  | proxyRaydium ctx amountIn amountOutMin =>
    obtain ⟨_, _, -, hinvoke, -⟩ := (measuredSwap_eq_ok rt).mp h
    exact hinvoke
  | proxyOrca ctx amountIn amountOutMin =>
    obtain ⟨_, _, -, hinvoke, -⟩ := (measuredSwap_eq_ok rt).mp h
    exact hinvoke
  | _ => exact h

/-! ### The entrypoint -/

/-- Arguments first, then accounts; bytes and accounts that are left over are ignored. -/
def readCall {β : Type} (α : Type) [Accounts α] (args : Codec β) (call : α → β → Call)
    (data : List UInt8) (metas : List AccountMeta) : Result Call := do
  let (b, _) ← fromOption errDidNotDeserialize (args.dec data)
  let (a, _) ← tryAccounts α metas
  .ok (call a b)

/-- The call of a handler with the given arguments and accounts. -/
def Handler.read (h : Handler) (data : List UInt8) (metas : List AccountMeta) : Result Call :=
  match h with
  | .marginfiStartFlashloan =>
      readCall MarginfiFlashloanBounds Codec.u64 .marginfiStartFlashloan data metas
  | .marginfiBorrow => readCall MarginfiBorrow Codec.u64 .marginfiBorrow data metas
  | .proxyRaydium =>
      readCall ProxyRaydium (Codec.u64.prod Codec.u64) (fun a p => .proxyRaydium a p.1 p.2) data
        metas
  | .proxyOrca =>
      readCall ProxyOrca (Codec.u64.prod Codec.u64) (fun a p => .proxyOrca a p.1 p.2) data metas
  | .marginfiRepay =>
      readCall MarginfiRepay (Codec.u64.prod Codec.bool) (fun a p => .marginfiRepay a p.1 p.2) data
        metas
  | .marginfiEndFlashloan =>
      readCall MarginfiFlashloanBounds Codec.unit (fun a _ => .marginfiEndFlashloan a) data metas

/-- The call that an instruction stands for. -/
def parse (ix : Instruction) : Result Call := do
  let (h, data) ← fromOption errFallbackNotFound
    (dispatch Handler.discriminator Handler.all ix.data)
  h.read data ix.accounts

/-- Run an instruction addressed to the bot. -/
def process {σ : Type} (rt : Runtime σ) (ix : Instruction) (s : σ) : Result σ := do
  let call ← parse ix
  call.run rt s

/-! ### What is accepted -/

theorem readCall_eq_ok {α β : Type} [Accounts α] {args : Codec β} {call : α → β → Call}
    {data : List UInt8} {metas : List AccountMeta} {c : Call} :
    readCall α args call data metas = .ok c ↔
      ∃ a b ms extra bytes, c = call a b ∧ metas = ms ++ extra ∧
        AllGranted (Accounts.fields α) (Accounts.keys a) ms ∧ data = args.enc b ++ bytes := by
  simp only [readCall, bind_eq_ok, fromOption_eq_ok, Codec.dec_eq_some, Prod.exists,
    tryAccounts_eq_ok]
  constructor
  · rintro ⟨b, bytes, hdata, a, extra, ⟨ms, hmetas, hgranted⟩, h⟩
    cases h
    exact ⟨a, b, ms, extra, bytes, rfl, hmetas, hgranted, hdata⟩
  · rintro ⟨a, b, ms, extra, bytes, rfl, hmetas, hgranted, hdata⟩
    exact ⟨b, bytes, hdata, a, extra, ⟨ms, hmetas, hgranted⟩, rfl⟩

/-- The accounts of a call, with at least the declared privileges, and its arguments, each
possibly followed by more. -/
def Call.ReadFrom (c : Call) (data : List UInt8) (metas : List AccountMeta) : Prop :=
  ∃ ms extra bytes, metas = ms ++ extra ∧ AllGranted c.fields c.keys ms ∧ data = c.args ++ bytes

theorem Handler.read_eq_ok {h : Handler} {data : List UInt8} {metas : List AccountMeta}
    {c : Call} : h.read data metas = .ok c ↔ c.handler = h ∧ c.ReadFrom data metas := by
  constructor
  · intro hread
    cases h <;> simp only [read, readCall_eq_ok] at hread <;>
      obtain ⟨a, b, ms, extra, bytes, rfl, hmetas, hgranted, hdata⟩ := hread <;>
      exact ⟨rfl, ms, extra, bytes, hmetas, hgranted, hdata⟩
  · rintro ⟨rfl, ms, extra, bytes, hmetas, hgranted, hdata⟩
    cases c <;> simp only [Call.handler, read, readCall_eq_ok] <;>
      exact ⟨_, _, ms, extra, bytes, rfl, hmetas, hgranted, hdata⟩

/-- **The entrypoint reads an instruction as a call exactly when its data is the discriminator
of the handler and the arguments of the call, and its metas grant the accounts of the call;
what follows the arguments and the accounts is ignored.** -/
theorem parse_eq_ok {ix : Instruction} {c : Call} :
    parse ix = .ok c ↔
      ∃ data, ix.data = c.handler.discriminator ++ data ∧ c.ReadFrom data ix.accounts := by
  simp only [parse, bind_eq_ok, fromOption_eq_ok, Prod.exists,
    dispatch_eq_some Handler.discriminator_length Handler.nodup_discriminator, Handler.mem_all,
    true_and, Handler.read_eq_ok]
  constructor
  · rintro ⟨h, data, hdata, rfl, hread⟩
    exact ⟨data, hdata, hread⟩
  · rintro ⟨data, hdata, hread⟩
    exact ⟨c.handler, data, hdata, rfl, hread⟩

theorem Call.allGranted_metas (c : Call) : AllGranted c.fields c.keys c.metas := by
  cases c <;> exact allGranted_toAccountMetas _

/-- The entrypoint parses the instruction of a call as that call. -/
theorem parse_instruction (c : Call) : parse c.instruction = .ok c :=
  parse_eq_ok.mpr
    ⟨c.args, rfl, c.metas, [], [], (List.append_nil _).symm, c.allGranted_metas,
      (List.append_nil _).symm⟩

/-- The signer of a call. -/
def Call.signer : Call → Pubkey
  | .marginfiStartFlashloan ctx _ => ctx.signer
  | .marginfiBorrow ctx _ => ctx.signer
  | .proxyRaydium ctx _ _ => ctx.user
  | .proxyOrca ctx _ _ => ctx.tokenAuthority
  | .marginfiRepay ctx _ _ => ctx.signer
  | .marginfiEndFlashloan ctx => ctx.signer

/-- Every privilege in the metas of a call was granted to the instruction that it was read
from. -/
theorem exists_within_of_parse {ix : Instruction} {c : Call} (h : parse ix = .ok c) :
    ∀ n ∈ c.metas, ∃ m ∈ ix.accounts, n.Within m := by
  obtain ⟨data, -, ms, extra, bytes, hmetas, hgranted, -⟩ := parse_eq_ok.mp h
  have hzip : c.metas = List.zipWith Field.toMeta c.fields c.keys := by
    cases c <;> rfl
  rw [hzip, hmetas]
  intro n hn
  obtain ⟨m, hm, hwithin⟩ := hgranted.exists_within n hn
  exact ⟨m, List.mem_append_left extra hm, hwithin⟩

/-- What is handed to `invoke` stays within the privileges that the structure declares. -/
theorem Call.invoked_within (c : Call) :
    ∀ m ∈ c.invoked.accounts, ∃ n ∈ c.metas, m.Within n := by
  cases c <;>
    simp [invoked, marginfiStartFlashloanIx, marginfiBorrowIx, proxyRaydiumIx, proxyOrcaIx,
      marginfiRepayIx, marginfiEndFlashloanIx, AccountMeta.new, AccountMeta.newReadonly,
      AccountMeta.Within, metas, toAccountMetas, Accounts.fields, Accounts.keys, Field.toMeta,
      Field.mutable, Field.signer, Field.mutSigner, Field.account, Field.program]

/-- **The bot asks for no privilege that its own instruction was not granted.** -/
theorem invoked_within_of_parse {ix : Instruction} {c : Call} (h : parse ix = .ok c) :
    ∀ m ∈ c.invoked.accounts, ∃ n ∈ ix.accounts, m.Within n := by
  intro m hm
  obtain ⟨n, hn, hmn⟩ := c.invoked_within m hm
  obtain ⟨o, ho, hno⟩ := exists_within_of_parse h n hn
  exact ⟨o, ho, hmn.trans hno⟩

theorem invoked_within_of_parse_sample :
    parse (Call.marginfiEndFlashloan ⟨1, 2, 3, 4⟩).instruction =
      .ok (.marginfiEndFlashloan ⟨1, 2, 3, 4⟩) ∧
    ∀ m ∈ (Call.marginfiEndFlashloan ⟨1, 2, 3, 4⟩).invoked.accounts,
      ∃ n ∈ (Call.marginfiEndFlashloan ⟨1, 2, 3, 4⟩).instruction.accounts, m.Within n :=
  ⟨parse_instruction _, invoked_within_of_parse (parse_instruction _)⟩

/-- No call runs without the signature of its signer. -/
theorem signed_of_parse {ix : Instruction} {c : Call} (h : parse ix = .ok c) :
    ∃ m ∈ ix.accounts, m.pubkey = c.signer ∧ m.isSigner = true := by
  have hsigner : ∃ n ∈ c.metas, n.pubkey = c.signer ∧ n.isSigner = true := by
    cases c <;>
      simp [Call.metas, Call.signer, toAccountMetas, Accounts.fields, Accounts.keys,
        Field.toMeta, Field.signer, Field.mutSigner, Field.mutable, Field.account, Field.program]
  obtain ⟨n, hn, hkey, hsigns⟩ := hsigner
  obtain ⟨m, hm, hwithin⟩ := exists_within_of_parse h n hn
  exact ⟨m, hm, hwithin.1.symm.trans hkey, hwithin.2.1 hsigns⟩

end FlashLoanBot
