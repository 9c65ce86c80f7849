import FlashLoanBot.Lib.Checked
import FlashLoanBot.Lib.Codec
import FlashLoanBot.Lib.Sha256

/-!
# Solana: keys, instructions and the runtime

What an on-chain program sees of the chain.

* `Pubkey`, `Pubkey.base58`: account addresses and their textual form;
* `AccountMeta`, `Instruction`: what is handed to `invoke`;
* `ProgramError`: how an instruction fails;
* `TxContext`: the transaction as the instructions sysvar and the stack height show it;
* `Runtime`: account data and cross-program invocation over an arbitrary chain state;
* `Runtime.amount`: the token balance that `anchor_spl::token::accessor::amount` reads.
-/

namespace Solana

/-- An account address. -/
abbrev Pubkey := BitVec 256

namespace Pubkey

instance (k : Pubkey) (l : List Pubkey) : Decidable (k ∈ l) := inferInstance

/-- The digits of the textual form, in order of their value. -/
def base58Digits : List Char :=
  "123456789ABCDEFGHJKLMNPQRSTUVWXYZabcdefghijkmnopqrstuvwxyz".toList

/-- The address written in base 58. -/
def base58 (s : String) : Pubkey :=
  BitVec.ofNat 256 (s.toList.foldl (fun x c => 58 * x + base58Digits.idxOf c) 0)

/-- The address held by 32 bytes, most significant first. -/
def ofBytes (bs : List UInt8) : Pubkey := BitVec.ofNat 256 (Bytes.ofLe bs.reverse)

/-- The 32 bytes of an address, most significant first. -/
def toBytes (k : Pubkey) : List UInt8 := (Bytes.toLe 32 k.toNat).reverse

@[simp] theorem toBytes_length (k : Pubkey) : k.toBytes.length = 32 := by simp [toBytes]

end Pubkey

/-! ### Well-known addresses -/

/-- The SPL Token program. -/
def tokenId : Pubkey := .base58 "TokenkegQfeZyiNwAJbNbGKPFXCWuBvf9Ss623VQ5DA"

/-- The Token-2022 program. -/
def token2022Id : Pubkey := .base58 "TokenzQdBNbLqP5VEhdkAS6EPFLC1PHnBqCXEpPxuEb"

/-- The instructions sysvar. -/
def instructionsSysvarId : Pubkey := .base58 "Sysvar1nstructions1111111111111111111111111"

/-! ### Instructions -/

/-- An account of an instruction, with the privileges it is passed with. -/
structure AccountMeta where
  pubkey : Pubkey
  isSigner : Bool
  isWritable : Bool
  deriving DecidableEq

/-- A writable account. -/
def AccountMeta.new (key : Pubkey) (isSigner : Bool) : AccountMeta := ⟨key, isSigner, true⟩

/-- A read-only account. -/
def AccountMeta.newReadonly (key : Pubkey) (isSigner : Bool) : AccountMeta :=
  ⟨key, isSigner, false⟩

/-- `m` asks for nothing that `n` does not carry. -/
def AccountMeta.Within (m n : AccountMeta) : Prop :=
  m.pubkey = n.pubkey ∧ (m.isSigner = true → n.isSigner = true) ∧
    (m.isWritable = true → n.isWritable = true)

theorem AccountMeta.Within.trans {m n o : AccountMeta} (h : m.Within n) (h' : n.Within o) :
    m.Within o :=
  ⟨h.1.trans h'.1, h'.2.1 ∘ h.2.1, h'.2.2 ∘ h.2.2⟩

/-- A call of a program. -/
structure Instruction where
  programId : Pubkey
  accounts : List AccountMeta
  data : List UInt8
  deriving DecidableEq

/-- Failure of an instruction. -/
inductive ProgramError
  /-- an error code of the framework or of a program -/
  | custom (code : ℕ)
  /-- `InvalidArgument` -/
  | invalidArgument
  /-- the program aborted -/
  | panicked
  /-- the runtime refused a privilege or a change of an account -/
  | refused
  deriving DecidableEq

/-- The result of an on-chain computation. -/
abbrev Result (α : Type) := Except ProgramError α

/-! ### The transaction -/

/-- What a running program can learn about its transaction: the top-level instructions and
the index of the current one (both from the instructions sysvar), and the height of the
invocation stack (`1` at top level). -/
structure TxContext where
  instructions : List Instruction
  currentIndex : ℕ
  stackHeight : ℕ

/-- The stack height of instructions that the transaction itself lists. -/
def topLevelHeight : ℕ := 1

/-- The context of the top-level instruction at an index. -/
def TxContext.topLevel (instructions : List Instruction) (index : ℕ) : TxContext :=
  ⟨instructions, index, topLevelHeight⟩

/-- The context in which a program invoked from this one runs. -/
def TxContext.callee (tx : TxContext) : TxContext := { tx with stackHeight := tx.stackHeight + 1 }

@[simp] theorem TxContext.callee_instructions (tx : TxContext) :
    tx.callee.instructions = tx.instructions := rfl

@[simp] theorem TxContext.callee_currentIndex (tx : TxContext) :
    tx.callee.currentIndex = tx.currentIndex := rfl

@[simp] theorem TxContext.callee_stackHeight (tx : TxContext) :
    tx.callee.stackHeight = tx.stackHeight + 1 := rfl

/-! ### The runtime -/

/-- The chain as one program sees it: the data of every account, and the effect of an
instruction handed to `invoke`. -/
structure Runtime (σ : Type) where
  accountData : σ → Pubkey → List UInt8
  invoke : Instruction → σ → Result σ

/-- The little-endian integer at bytes `64..72`, where a token account keeps its balance;
a shorter account makes the program abort. -/
def amountOf (data : List UInt8) : Result UInt64 :=
  if 72 ≤ data.length then .ok (UInt64.ofNat (Bytes.ofLe ((data.drop 64).take 8)))
  else .error .panicked

/-- A balance is read back from where it is kept. -/
theorem amountOf_layout {front : List UInt8} (hfront : front.length = 64) (x : UInt64)
    (rest : List UInt8) : amountOf (front ++ (Bytes.toLe 8 x.toNat ++ rest)) = .ok x := by
  have hdrop : (front ++ (Bytes.toLe 8 x.toNat ++ rest)).drop 64 = Bytes.toLe 8 x.toNat ++ rest :=
    List.drop_left' hfront
  have htake : (Bytes.toLe 8 x.toNat ++ rest).take 8 = Bytes.toLe 8 x.toNat :=
    List.take_left' (by simp)
  have hx : x.toNat < 256 ^ 8 := x.toNat_lt
  have hlen : 72 ≤ (front ++ (Bytes.toLe 8 x.toNat ++ rest)).length := by
    simp only [List.length_append, hfront, Bytes.toLe_length]
    omega
  unfold amountOf
  rw [if_pos hlen, hdrop, htake, Bytes.ofLe_toLe_of_lt hx, UInt64.ofNat_toNat]

/-- `accessor::amount`: neither the owner nor the mint of the account is looked at. -/
def Runtime.amount {σ : Type} (rt : Runtime σ) (s : σ) (key : Pubkey) : Result UInt64 :=
  amountOf (rt.accountData s key)

/-- `u64::checked_sub` -/
def checkedSub (a b : UInt64) : Option UInt64 := if b ≤ a then some (a - b) else none

theorem checkedSub_eq_some {a b c : UInt64} :
    checkedSub a b = some c ↔ a.toNat = b.toNat + c.toNat := by
  unfold checkedSub
  split_ifs with h
  · rw [Option.some.injEq, ← UInt64.toNat_inj, UInt64.toNat_sub_of_le _ _ h]
    have hle : b.toNat ≤ a.toNat := h
    omega
  · have hlt : ¬b.toNat ≤ a.toNat := h
    simp only [false_iff]
    omega

end Solana
