import FlashLoanBot.Lib.Slots
import FlashLoanBot.Marginfi.Lending

/-!
# marginfi: which positions are open

The slots of a user account as a table of banks, and borrowing and repaying as operations on
the banks it holds.

* `LendingAccount.activeBanks`: the banks in which an account has an active position;
* `recordBorrow_step`, `recordRepay_step`: a borrow acquires its bank, a partial repayment
  uses it, and a repayment of everything releases it;
* `Ledger.Moves`: one user account makes such a move and no other account changes;
* `lendingAccountBorrow_moves`, `lendingAccountRepay_moves`: the instructions are such moves.
-/

namespace Marginfi

open Solana Checked Slots

/-! ### The table of positions -/

/-- The bank of an active position. -/
def Balance.held (balance : Balance) : Option Pubkey :=
  if balance.isActive then some balance.bankPk else none

/-- The banks in which the account has an active position. -/
def LendingAccount.activeBanks (account : LendingAccount) : Multiset Pubkey :=
  Slots.held Balance.held account.balances

theorem Balance.held_eq_some {b : Balance} {k : Pubkey} :
    b.held = some k ↔ b.isActive = true ∧ b.bankPk = k := by
  unfold held
  split_ifs with h <;> simp [h]

theorem Balance.held_eq_none {b : Balance} : b.held = none ↔ b.isActive = false := by
  simp [held]

theorem Balance.SameSlot.held_eq {b c : Balance} (h : b.SameSlot c) : c.held = b.held := by
  simp [held, h.1, h.2]

@[simp] theorem Balance.held_emptyDeactivated : emptyDeactivated.held = none := rfl

@[simp] theorem Balance.held_opened (bankPk : Pubkey) (bank : Bank) (clock : Clock) :
    (opened bankPk bank clock).held = some bankPk := rfl

namespace LendingAccount

theorem mem_activeBanks {account : LendingAccount} {k : Pubkey} :
    k ∈ account.activeBanks ↔ ∃ b ∈ account.balances, b.isActive = true ∧ b.bankPk = k := by
  simp [activeBanks, mem_held, Balance.held_eq_some]

theorem activeBanks_eq_zero {account : LendingAccount} :
    account.activeBanks = 0 ↔ account.activeBalances = [] := by
  rw [Multiset.eq_zero_iff_forall_notMem, activeBalances, List.filter_eq_nil_iff]
  constructor
  · intro h b hb hactive
    exact h b.bankPk (mem_activeBanks.mpr ⟨b, hb, hactive, rfl⟩)
  · intro h k hk
    obtain ⟨b, hb, hactive, -⟩ := mem_activeBanks.mp hk
    exact h b hb hactive

@[simp] theorem activeBanks_sortBalances (account : LendingAccount) :
    account.sortBalances.activeBanks = account.activeBanks :=
  held_perm _ (List.perm_insertionSort _ _)

end LendingAccount

/-! ### Finding a slot -/

namespace BankAccountWrapper

/-- The position was read from its slot, and is an active one in the given bank. -/
theorem find_inv {bankPk : Pubkey} {bank : Bank} {account : LendingAccount}
    {w : BankAccountWrapper} (h : find bankPk bank account = .ok w) :
    account.balances[w.slot]? = some w.balance ∧ w.balance.held = some bankPk := by
  simp only [find, bind_eq_ok, fromOption_eq_ok, orPanic] at h
  obtain ⟨slot, hslot, balance, hbalance, h⟩ := h
  cases h
  obtain ⟨hlt, hfound, -⟩ := List.findIdx?_eq_some_iff_getElem.mp hslot
  obtain rfl : account.balances[slot] = balance := by
    rw [List.getElem?_eq_getElem hlt] at hbalance
    exact Option.some.inj hbalance
  have hactive : account.balances[slot].isActive = true ∧ account.balances[slot].bankPk =
    bankPk := by
    simpa using hfound
  exact ⟨hbalance, Balance.held_eq_some.mpr hactive⟩

/-- A position in the bank was found in its slot, or there was none and an empty slot is
taken for a new one. -/
theorem findOrCreate_inv {bankPk : Pubkey} {bank : Bank} {account : LendingAccount}
    {clock : Clock} {w : BankAccountWrapper}
    (h : findOrCreate bankPk bank account clock = .ok w) :
    w.balance.held = some bankPk ∧
      (account.balances[w.slot]? = some w.balance ∨
        bankPk ∉ account.activeBanks ∧
          ∃ b, account.balances[w.slot]? = some b ∧ b.held = none) := by
  unfold findOrCreate at h
  cases hpos : account.position? bankPk with
  | some slot =>
    have hfind : find bankPk bank account = .ok w := by
      rw [hpos] at h
      obtain ⟨balance, hbalance, h⟩ := bind_eq_ok.mp h
      rw [fromOption_eq_ok] at hbalance
      simpa [find, hpos, orPanic, hbalance] using h
    obtain ⟨hslot, hheld⟩ := find_inv hfind
    exact ⟨hheld, .inl hslot⟩
  | none =>
    have hnew : bankPk ∉ account.activeBanks := by
      intro hmem
      obtain ⟨b, hb, hactive, rfl⟩ := LendingAccount.mem_activeBanks.mp hmem
      have hfalse := List.findIdx?_eq_none_iff.mp hpos b hb
      simp [hactive] at hfalse
    rw [hpos] at h
    simp only [bind_eq_ok, fromOption_eq_ok] at h
    obtain ⟨_, -, slot, hslot, h⟩ := h
    cases h
    obtain ⟨hlt, hempty, -⟩ := List.findIdx?_eq_some_iff_getElem.mp hslot
    refine ⟨rfl, .inr ⟨hnew, account.balances[slot], List.getElem?_eq_getElem hlt, ?_⟩⟩
    exact Balance.held_eq_none.mpr (by simpa using hempty)

end BankAccountWrapper

/-! ### Recording -/

namespace LendingAccount

/-- Storing a position that was found open, and still is, changes no bank. -/
theorem activeBanks_store_of_found {account : LendingAccount} {w w' : BankAccountWrapper}
    (hslot : account.balances[w.slot]? = some w.balance) (hkeep : w.Keeps w') :
    (account.store w').activeBanks = account.activeBanks := by
  unfold activeBanks store set
  rw [hkeep.1]
  exact held_set_of_eq hslot hkeep.2.held_eq

/-- Storing a new position into an empty slot adds its bank. -/
theorem activeBanks_store_of_new {account : LendingAccount} {w w' : BankAccountWrapper}
    {b : Balance} {k : Pubkey} (hslot : account.balances[w.slot]? = some b)
    (hb : b.held = none) (hheld : w.balance.held = some k) (hkeep : w.Keeps w') :
    (account.store w').activeBanks = k ::ₘ account.activeBanks := by
  unfold activeBanks store set
  rw [hkeep.1]
  exact held_set_of_none hslot hb (hkeep.2.held_eq.trans hheld)

/-- Storing a closed position takes its bank away. -/
theorem activeBanks_of_store_closed {account : LendingAccount} {w w' : BankAccountWrapper}
    {k : Pubkey} (hslot : account.balances[w.slot]? = some w.balance)
    (hheld : w.balance.held = some k) (hsame : w'.slot = w.slot)
    (hclosed : w'.balance = .emptyDeactivated) :
    account.activeBanks = k ::ₘ (account.store w').activeBanks := by
  unfold activeBanks store set
  rw [hsame, hclosed]
  exact held_of_set_none hslot hheld rfl

end LendingAccount

section Recording

variable {τ : Type} {env : Env τ} {bankKey : Pubkey} {bank bank' : Bank}
  {account account' : MarginfiAccount} {amount : UInt64}

/-- A recorded borrow acquires the bank. -/
theorem recordBorrow_step {w : BankAccountWrapper} {fee : I80F48}
    (hfind : BankAccountWrapper.findOrCreate bankKey bank account.lendingAccount env.clock = .ok w)
    (h : recordBorrow env w account amount fee = .ok (account', bank')) :
    (Op.acquire bankKey).Step account.lendingAccount.activeBanks
      account'.lendingAccount.activeBanks := by
  simp only [recordBorrow, bind_eq_ok] at h
  obtain ⟨debt, -, v, hborrow, h⟩ := h
  cases h
  have hkeep : w.Keeps v := BankAccountWrapper.decreaseBalanceInternal_keeps hborrow
  obtain ⟨hheld, hslot | ⟨hnew, b, hslot, hb⟩⟩ := BankAccountWrapper.findOrCreate_inv hfind
  · rw [LendingAccount.activeBanks_store_of_found hslot hkeep]
    exact .acquire_held (mem_held.mpr ⟨_, List.mem_of_getElem? hslot, hheld⟩)
  · rw [LendingAccount.activeBanks_store_of_new hslot hb hheld hkeep]
    exact .acquire_new hnew

/-- What a repayment does with its bank. -/
def repayOp (bankKey : Pubkey) (repayAll : Bool) : Op Pubkey :=
  if repayAll then .release bankKey else .use bankKey

/-- A recorded repayment uses the bank, and releases it when everything is repaid. -/
theorem recordRepay_step {repayAll : Bool} {paid : UInt64}
    (h : recordRepay env bankKey bank account amount repayAll = .ok (account', bank', paid)) :
    (repayOp bankKey repayAll).Step account.lendingAccount.activeBanks
      account'.lendingAccount.activeBanks := by
  simp only [recordRepay, bind_eq_ok] at h
  obtain ⟨w, hfind, ⟨v, p⟩, hrepay, h⟩ := h
  cases h
  obtain ⟨hslot, hheld⟩ := BankAccountWrapper.find_inv hfind
  cases repayAll with
  | false =>
    obtain ⟨v', hv', hpair⟩ := bind_eq_ok.mp hrepay
    cases hpair
    have hkeep : w.Keeps v := BankAccountWrapper.increaseBalanceInternal_keeps hv'
    rw [LendingAccount.activeBanks_store_of_found hslot hkeep]
    exact .use (mem_held.mpr ⟨_, List.mem_of_getElem? hslot, hheld⟩)
  | true =>
    obtain ⟨hsame, hclosed⟩ := BankAccountWrapper.repayAll_closes hrepay
    rw [LendingAccount.activeBanks_of_store_closed hslot hheld hsame hclosed]
    exact .release

end Recording

/-! ### The instructions as moves -/

/-- One user account makes a move, keeping its owner and its flags, and no other user account
changes. -/
def Ledger.Moves {τ : Type} (key : Pubkey) (o : Op Pubkey) (s s' : Ledger τ) : Prop :=
  ∃ account account', s.marginfiAccounts key = some account ∧
    s'.marginfiAccounts = Function.update s.marginfiAccounts key (some account') ∧
    account'.authority = account.authority ∧ account'.accountFlags = account.accountFlags ∧
    o.Step account.lendingAccount.activeBanks account'.lendingAccount.activeBanks

section Instructions

variable {τ : Type} {env : Env τ} {remaining : List Pubkey} {amount : UInt64} {s s' : Ledger τ}

theorem lendingAccountBorrow_moves {ctx : LendingAccountBorrow}
    (h : lendingAccountBorrow env ctx remaining amount s = .ok s') :
    s.Moves ctx.marginfiAccount (.acquire ctx.bank) s' := by
  simp only [lendingAccountBorrow, bind_eq_ok, Ledger.loadAccount, fromOption_eq_ok] at h
  obtain ⟨group, -, account, hload, bank, -, _, -, _, -, ⟨mint, ais⟩, -, _, -, bank, -, _, -, _, -,
    w, hfind, pre, -, ⟨fee, feeU64⟩, -, ⟨account', bank'⟩, hrecord, rest, -, _, -, _, -, _, -, _, -,
    h⟩ := h
  cases h
  have hstep := recordBorrow_step hfind hrecord
  simp only [recordBorrow, bind_eq_ok] at hrecord
  obtain ⟨_, -, v, -, hrecord⟩ := hrecord
  cases hrecord
  exact ⟨account, _, hload, rfl, rfl, rfl, by simpa using hstep⟩

theorem lendingAccountRepay_moves {ctx : LendingAccountRepay} {repayAll : Option Bool}
    (h : lendingAccountRepay env ctx remaining amount repayAll s = .ok s') :
    s.Moves ctx.marginfiAccount (repayOp ctx.bank (repayAll.getD false)) s' := by
  simp only [lendingAccountRepay, bind_eq_ok, Ledger.loadAccount, fromOption_eq_ok] at h
  obtain ⟨group, -, account, hload, bank, -, _, -, _, -, ⟨mint, ais⟩, -, _, -, _, -, bank, -,
    ⟨account', bank', paid⟩, hrecord, rest, -, _, -, _, -, h⟩ := h
  cases h
  have hstep := recordRepay_step hrecord
  simp only [recordRepay, bind_eq_ok] at hrecord
  obtain ⟨_, -, ⟨v, _⟩, -, hrecord⟩ := hrecord
  cases hrecord
  exact ⟨account, _, hload, rfl, rfl, rfl, by simpa using hstep⟩

end Instructions

end Marginfi
