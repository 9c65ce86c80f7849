import FlashLoanBot.Lib.Shares
import FlashLoanBot.Marginfi.Postings

/-!
# marginfi: the books over whole runs

The positions of all users against the totals of all banks, as a book of shares.

* `Books`, `Books.record`: user accounts and banks, and the book of shares that they amount to;
* `Books.Sound`: no account holds two positions in one bank, nothing is negative, and no bank has
  issued fewer shares than its users hold;
* `Books.Step`: the ways in which the instructions change accounts and banks;
* `Books.Step.record`, `Books.Step.sound`: each is a step of the book of shares, and keeps the
  books sound;
* `Books.Swept`, `Books.Step.swept`: shares of a bank that is not there are left from a closed one.
-/

namespace Marginfi

open Solana Checked Slots

/-! ### Positions -/

/-- The shares that an account holds in a bank on a side. -/
def LendingAccount.sharesIn (account : LendingAccount) (bankPk : Pubkey) (side : BalanceSide) : ℤ :=
  (account.balances.map fun b => if b.held = some bankPk then (b.shares side).bits else 0).sum

/-- The bank and the shares of every slot, which is what the books are about. -/
def LendingAccount.stakes (account : LendingAccount) :
    List (Option Pubkey × (BalanceSide → I80F48)) :=
  account.balances.map fun b => (b.held, b.shares)

/-- No position is negative, and no two are in the same bank. -/
structure LendingAccount.Orderly (account : LendingAccount) : Prop where
  nonneg : ∀ b ∈ account.balances, ∀ side, 0 ≤ b.shares side
  distinct : account.activeBanks.Nodup

/-- User accounts and banks, by address. -/
structure Books where
  accounts : Pubkey → Option MarginfiAccount
  banks : Pubkey → Option Bank

namespace Books

/-- The book of shares: users have positions on either side of every bank. -/
def record (books : Books) : Shares.Book Pubkey (Pubkey × BalanceSide) where
  position a k := (books.accounts a).elim 0 fun account => account.lendingAccount.sharesIn k.1 k.2
  total k := (books.banks k.1).elim 0 fun bank => (bank.totalShares k.2).bits
  funds := {k | books.banks k.1 ≠ none}

/-- Nobody holds shares of a bank. -/
def Vacant (books : Books) (bankKey : Pubkey) : Prop :=
  ∀ a side, books.record.position a (bankKey, side) = 0

/-- Write a user account. -/
def setAccount (books : Books) (key : Pubkey) (account : MarginfiAccount) : Books :=
  { books with accounts := Function.update books.accounts key (some account) }

/-- Write a bank. -/
def setBank (books : Books) (key : Pubkey) (bank : Bank) : Books :=
  { books with banks := Function.update books.banks key (some bank) }

/-- Close a bank. -/
def closeBank (books : Books) (key : Pubkey) : Books :=
  { books with banks := Function.update books.banks key none }

/-- The books are in order. -/
structure Sound (books : Books) : Prop where
  values : ∀ k bank, books.banks k = some bank →
    0 ≤ bank.assetShareValue ∧ 0 < bank.liabilityShareValue
  orderly : ∀ a account, books.accounts a = some account → account.lendingAccount.Orderly
  covered : books.record.Covered

end Books

/-! ### Steps -/

/-- A position is the one of an account in a bank, or is about to be opened there. -/
def BankAccountWrapper.Located (bankPk : Pubkey) (account : LendingAccount)
    (w : BankAccountWrapper) : Prop :=
  w.balance.held = some bankPk ∧
    (account.balances[w.slot]? = some w.balance ∨
      bankPk ∉ account.activeBanks ∧ (∀ side, w.balance.shares side = 0) ∧
        ∃ b, account.balances[w.slot]? = some b ∧ b.held = none)

/-- A bank is given other share values, of which none falls. -/
structure Bank.Revalues (bank bank' : Bank) : Prop where
  totalShares : ∀ side, bank'.totalShares side = bank.totalShares side
  assetShareValue : bank.assetShareValue ≤ bank'.assetShareValue
  liabilityShareValue : bank.liabilityShareValue ≤ bank'.liabilityShareValue

/-- The deposits of a bank lose value. -/
structure Bank.Loses (bank bank' : Bank) : Prop where
  totalShares : ∀ side, bank'.totalShares side = bank.totalShares side
  assetShareValue : 0 ≤ bank'.assetShareValue
  liabilityShareValue : bank'.liabilityShareValue = bank.liabilityShareValue

/-- What can happen to accounts and banks, where only some banks may lose value, and only some may
be closed. -/
inductive Books.Step (losses closed : Set Pubkey) : Books → Books → Prop
  /-- a position is changed, together with its bank -/
  | entry {books : Books} {key bankKey : Pubkey} {account account' : MarginfiAccount}
      {w w' : BankAccountWrapper} : books.accounts key = some account →
      books.banks bankKey = some w.bank → w.Located bankKey account.lendingAccount → w.Entry w' →
      account'.lendingAccount = account.lendingAccount.store w' →
      Step losses closed books ((books.setAccount key account').setBank bankKey w'.bank)
  /-- the positions of an account are put in another order -/
  | sort {books : Books} {key : Pubkey} {account account' : MarginfiAccount} :
      books.accounts key = some account →
      account'.lendingAccount.balances.Perm account.lendingAccount.balances →
      Step losses closed books (books.setAccount key account')
  /-- interest is accrued -/
  | revalue {books : Books} {bankKey : Pubkey} {bank bank' : Bank} :
      books.banks bankKey = some bank → bank.Revalues bank' →
      Step losses closed books (books.setBank bankKey bank')
  /-- a bank is added that has issued no shares, and of which nobody holds any -/
  | add {books : Books} {bankKey : Pubkey} {bank : Bank} : books.banks bankKey = none →
      books.Vacant bankKey → (∀ side, bank.totalShares side = 0) → bank.assetShareValue = .one →
      bank.liabilityShareValue = .one → Step losses closed books (books.setBank bankKey bank)
  /-- a bank is closed -/
  | remove {books : Books} {bankKey : Pubkey} : bankKey ∈ closed →
      Step losses closed books (books.closeBank bankKey)
  /-- a loss is shared -/
  | lose {books : Books} {bankKey : Pubkey} {bank bank' : Bank} :
      bankKey ∈ losses → books.banks bankKey = some bank → bank.Loses bank' →
      Step losses closed books (books.setBank bankKey bank')
  /-- an account without positions is opened -/
  | create {books : Books} {key : Pubkey} {account : MarginfiAccount} :
      books.accounts key = none → account.lendingAccount = .zeroed →
      Step losses closed books (books.setAccount key account)
  /-- the positions of one account become those of another one -/
  | move {books : Books} {key key' : Pubkey} {account old new : MarginfiAccount} : key ≠ key' →
      books.accounts key = some account → books.accounts key' = none →
      new.lendingAccount = account.lendingAccount → old.lendingAccount = .zeroed →
      Step losses closed books ((books.setAccount key' new).setAccount key old)
  /-- an account is closed -/
  | close {books : Books} {key : Pubkey} {account : MarginfiAccount} :
      books.accounts key = some account →
      Step losses closed books { books with accounts := Function.update books.accounts key none }

/-! ### Positions after a step -/

/-- The part of a slot in what an account holds in a bank. -/
def Balance.sharesFor (bankPk : Pubkey) (side : BalanceSide) (b : Balance) : ℤ :=
  if b.held = some bankPk then (b.shares side).bits else 0

theorem Balance.sharesFor_of_held {b : Balance} {bankPk k : Pubkey} (h : b.held = some bankPk)
    (side : BalanceSide) :
    b.sharesFor k side = if k = bankPk then (b.shares side).bits else 0 := by
  simp only [sharesFor, h, Option.some.injEq, eq_comm]

theorem Balance.sharesFor_of_none {b : Balance} (h : b.held = none) (k : Pubkey)
    (side : BalanceSide) : b.sharesFor k side = 0 := by
  simp [sharesFor, h]

namespace LendingAccount

variable {account account' : LendingAccount}

theorem sharesIn_nonneg (h : account.Orderly) (k : Pubkey) (side : BalanceSide) :
    0 ≤ account.sharesIn k side := by
  refine List.sum_nonneg fun x hx => ?_
  obtain ⟨b, hb, rfl⟩ := List.mem_map.mp hx
  split_ifs
  · exact h.nonneg b hb side
  · exact le_rfl

theorem sharesIn_perm (h : account'.balances.Perm account.balances) (k : Pubkey)
    (side : BalanceSide) : account'.sharesIn k side = account.sharesIn k side :=
  (h.map _).sum_eq

theorem sharesIn_zeroed (k : Pubkey) (side : BalanceSide) : zeroed.sharesIn k side = 0 := by
  simp [sharesIn, zeroed]

/-- Storing a changed position changes what the account holds in its bank, and nothing else. -/
theorem sharesIn_store {w w' : BankAccountWrapper} {bankPk : Pubkey}
    (hloc : w.Located bankPk account)
    (hentry : w.Entry w') (k : Pubkey) (side : BalanceSide) :
    (account.store w').sharesIn k side = account.sharesIn k side +
      if k = bankPk then (w'.balance.shares side).bits - (w.balance.shares side).bits else 0 := by
  obtain ⟨hheld, hslot⟩ := hloc
  have hnew : w'.balance.sharesFor k side =
      if k = bankPk then (w'.balance.shares side).bits else 0 := by
    rcases hentry.held with hsame | hclosed
    · exact Balance.sharesFor_of_held (hsame.trans hheld) side
    · rw [hclosed, Balance.sharesFor_of_none Balance.held_emptyDeactivated]
      cases side <;> split_ifs <;> rfl
  -- the slot held the position, or nothing and the position is new
  obtain ⟨b, hb, hold⟩ : ∃ b, account.balances[w.slot]? = some b ∧
      b.sharesFor k side = if k = bankPk then (w.balance.shares side).bits else 0 := by
    rcases hslot with hfound | ⟨-, hzero, b, hb, hnone⟩
    · exact ⟨w.balance, hfound, Balance.sharesFor_of_held hheld side⟩
    · refine ⟨b, hb, ?_⟩
      rw [Balance.sharesFor_of_none hnone, hzero side]
      split_ifs <;> rfl
  show ((account.balances.set w'.slot w'.balance).map (Balance.sharesFor k side)).sum = _
  rw [hentry.slot, Slots.sum_map_set _ hb, hold, hnew]
  show account.sharesIn k side - _ + _ = _
  split_ifs
  · ring
  · ring

/-- Storing a changed position leaves at most one position in every bank. -/
theorem nodup_activeBanks_store {w w' : BankAccountWrapper} {bankPk : Pubkey}
    (hloc : w.Located bankPk account) (hentry : w.Entry w') (h : account.activeBanks.Nodup) :
    (account.store w').activeBanks.Nodup := by
  obtain ⟨hheld, hslot⟩ := hloc
  unfold activeBanks store set at *
  rw [hentry.slot]
  rcases hentry.held with hsame | hclosed
  · rcases hslot with hfound | ⟨hnew, -, b, hb, hnone⟩
    · rwa [held_set_of_eq hfound hsame]
    · rw [held_set_of_none hb hnone (hsame.trans hheld)]
      exact Multiset.nodup_cons.mpr ⟨hnew, h⟩
  · rw [hclosed]
    rcases hslot with hfound | ⟨-, -, b, hb, hnone⟩
    · rw [held_of_set_none hfound hheld Balance.held_emptyDeactivated] at h
      exact (Multiset.nodup_cons.mp h).2
    · rwa [held_set_of_eq hb (Balance.held_emptyDeactivated.trans hnone.symm)]

/-- **Storing a changed position leaves an account in order.** -/
theorem Orderly.store {w w' : BankAccountWrapper} {bankPk : Pubkey} (h : account.Orderly)
    (hloc : w.Located bankPk account) (hentry : w.Entry w') : (account.store w').Orderly where
  nonneg b hb side := by
    rcases List.mem_or_eq_of_mem_set hb with hold | rfl
    · exact h.nonneg b hold side
    · exact hentry.nonneg side
  distinct := nodup_activeBanks_store hloc hentry h.distinct

theorem Orderly.perm (h : account.Orderly) (hperm : account'.balances.Perm account.balances) :
    account'.Orderly where
  nonneg b hb := h.nonneg b (hperm.mem_iff.mp hb)
  distinct := by
    rw [activeBanks, held_perm _ hperm]
    exact h.distinct

theorem sharesIn_of_stakes (h : account'.stakes = account.stakes) (k : Pubkey)
    (side : BalanceSide) : account'.sharesIn k side = account.sharesIn k side := by
  have hsum (acc : LendingAccount) : acc.sharesIn k side =
      (acc.stakes.map fun stake => if stake.1 = some k then (stake.2 side).bits else 0).sum := by
    rw [stakes, List.map_map]
    rfl
  rw [hsum, hsum, h]

theorem activeBanks_of_stakes (h : account'.stakes = account.stakes) :
    account'.activeBanks = account.activeBanks := by
  have hheld (acc : LendingAccount) : acc.activeBanks = ↑(acc.stakes.filterMap Prod.fst) := by
    rw [stakes, List.filterMap_map]
    rfl
  rw [hheld, hheld, h]

/-- Whether an account is in order only depends on its stakes. -/
theorem Orderly.of_stakes (horderly : account.Orderly) (h : account'.stakes = account.stakes) :
    account'.Orderly where
  nonneg b hb side := by
    have hstake : (b.held, b.shares) ∈ account.stakes := h ▸ List.mem_map_of_mem hb
    obtain ⟨c, hc, heq⟩ := List.mem_map.mp hstake
    rw [← congrFun (Prod.mk.inj heq).2 side]
    exact horderly.nonneg c hc side
  distinct := by
    rw [activeBanks_of_stakes h]
    exact horderly.distinct

theorem orderly_zeroed : zeroed.Orderly where
  nonneg b hb side := by
    obtain rfl := (List.mem_replicate.mp hb).2
    cases side <;> exact le_rfl
  distinct := by
    have hempty : zeroed.activeBanks = 0 := rfl
    rw [hempty]
    exact Multiset.nodup_zero

end LendingAccount

/-! ### The record after a step -/

namespace Books

variable {books : Books} {key bankKey : Pubkey} {losses closed : Set Pubkey}

theorem accounts_setAccount_same (account : MarginfiAccount) :
    (books.setAccount key account).accounts key = some account :=
  Function.update_self _ _ _

theorem accounts_setAccount_of_ne {other : Pubkey} (h : other ≠ key) {account : MarginfiAccount} :
    (books.setAccount key account).accounts other = books.accounts other :=
  Function.update_of_ne h _ _

theorem banks_setBank_same (bank : Bank) : (books.setBank bankKey bank).banks bankKey = some bank :=
  Function.update_self _ _ _

theorem banks_setBank_of_ne {other : Pubkey} (h : other ≠ bankKey) {bank : Bank} :
    (books.setBank bankKey bank).banks other = books.banks other :=
  Function.update_of_ne h _ _

theorem setBank_setBank (bank bank' : Bank) :
    (books.setBank bankKey bank).setBank bankKey bank' = books.setBank bankKey bank' := by
  simp [setBank]

theorem position_setAccount_same (account : MarginfiAccount) (k : Pubkey × BalanceSide) :
    (books.setAccount key account).record.position key k =
      account.lendingAccount.sharesIn k.1 k.2 := by
  simp [record, setAccount]

theorem position_setAccount_of_ne {other : Pubkey} (h : other ≠ key) (account : MarginfiAccount) :
    (books.setAccount key account).record.position other = books.record.position other := by
  simp [record, setAccount, h]

theorem position_of_some {account : MarginfiAccount} (h : books.accounts key = some account)
    (k : Pubkey × BalanceSide) :
    books.record.position key k = account.lendingAccount.sharesIn k.1 k.2 := by
  simp [record, h]

theorem total_setBank_same (bank : Bank) (side : BalanceSide) :
    (books.setBank bankKey bank).record.total (bankKey, side) = (bank.totalShares side).bits := by
  simp [record, setBank]

theorem total_setBank_of_ne {k : Pubkey} (h : k ≠ bankKey) (bank : Bank) (side : BalanceSide) :
    (books.setBank bankKey bank).record.total (k, side) = books.record.total (k, side) := by
  simp [record, setBank, h]

theorem total_of_some {bank : Bank} (h : books.banks bankKey = some bank) (side : BalanceSide) :
    books.record.total (bankKey, side) = (bank.totalShares side).bits := by
  simp [record, h]

theorem fund_of_some {bank : Bank} (h : books.banks bankKey = some bank) (side : BalanceSide) :
    (bankKey, side) ∈ books.record.funds := by
  simp [record, h]

/-- A bank that is there stays there. -/
theorem funds_setBank {old bank : Bank} (h : books.banks bankKey = some old) :
    (books.setBank bankKey bank).record.funds = books.record.funds := by
  ext ⟨k, side⟩
  by_cases hk : k = bankKey
  · subst hk
    simp [record, setBank, h]
  · simp [record, setBank, hk]

/-- A bank that keeps its totals keeps the record. -/
theorem record_setBank {old bank : Bank} (hbank : books.banks bankKey = some old)
    (h : ∀ side, bank.totalShares side = old.totalShares side) :
    (books.setBank bankKey bank).record = books.record := by
  refine Shares.Book.ext rfl ?_ (funds_setBank hbank)
  funext ⟨k, side⟩
  by_cases hk : k = bankKey
  · subst hk
    rw [total_setBank_same, h, total_of_some hbank]
  · exact total_setBank_of_ne hk bank side

/-- An account that holds the same shares keeps the record. -/
theorem record_setAccount {account : MarginfiAccount}
    (h : ∀ k, account.lendingAccount.sharesIn k.1 k.2 = books.record.position key k) :
    (books.setAccount key account).record = books.record := by
  refine Shares.Book.ext ?_ rfl rfl
  funext a
  by_cases ha : a = key
  · subst ha
    funext k
    rw [position_setAccount_same, h]
  · exact position_setAccount_of_ne ha account

/-- A changed position is posted to the book of shares. -/
theorem posts_entry {account account' : MarginfiAccount} {w w' : BankAccountWrapper}
    (haccount : books.accounts key = some account) (hbank : books.banks bankKey = some w.bank)
    (hloc : w.Located bankKey account.lendingAccount) (hentry : w.Entry w')
    (hstore : account'.lendingAccount = account.lendingAccount.store w')
    (horderly : account.lendingAccount.Orderly) :
    books.record.Posts key ((books.setAccount key account').setBank bankKey w'.bank).record where
  others a ha := position_setAccount_of_ne ha account'
  nonneg k := by
    show 0 ≤ (books.setAccount key account').record.position key k
    rw [position_setAccount_same, hstore]
    exact LendingAccount.sharesIn_nonneg (horderly.store hloc hentry) _ _
  covered k := by
    obtain ⟨k, side⟩ := k
    show (books.setAccount key account').record.position key (k, side) - _ ≤ _
    rw [position_setAccount_same, hstore, LendingAccount.sharesIn_store hloc hentry,
      position_of_some haccount]
    by_cases hk : k = bankKey
    · subst hk
      have hcovered := hentry.covered side
      rw [total_setBank_same, total_of_some hbank]
      simp only [if_true]
      omega
    · rw [total_setBank_of_ne hk]
      show _ ≤ books.record.total (k, side) - books.record.total (k, side)
      simp only [hk, if_false]
      omega
  funds := funds_setBank hbank

/-- A moved account exchanges its name with the new one in the book of shares. -/
theorem renames_move {key' : Pubkey} {account old new : MarginfiAccount} (hne : key ≠ key')
    (haccount : books.accounts key = some account) (hnone : books.accounts key' = none)
    (hnew : new.lendingAccount = account.lendingAccount) (hold : old.lendingAccount = .zeroed) :
    books.record.Renames (Equiv.swap key key')
      ((books.setAccount key' new).setAccount key old).record where
  position a := by
    funext k
    by_cases ha : a = key
    · subst ha
      rw [position_setAccount_same, hold, LendingAccount.sharesIn_zeroed, Equiv.swap_apply_left]
      simp [record, hnone]
    · rw [position_setAccount_of_ne ha]
      by_cases ha' : a = key'
      · subst ha'
        rw [position_setAccount_same, hnew, Equiv.swap_apply_right, position_of_some haccount]
      · rw [position_setAccount_of_ne ha', Equiv.swap_apply_of_ne_of_ne ha ha']
  total := rfl
  funds := rfl

/-- A closed account has no positions in the book of shares. -/
theorem posts_close {account : MarginfiAccount} (haccount : books.accounts key = some account)
    (horderly : account.lendingAccount.Orderly) :
    books.record.Posts key
      (record { books with accounts := Function.update books.accounts key none }) where
  others a ha := by simp [record, ha]
  nonneg k := by simp [record]
  covered k := by
    rw [position_of_some haccount]
    have hpos := LendingAccount.sharesIn_nonneg horderly k.1 k.2
    simp only [record, Function.update_self, Option.elim_none]
    omega
  funds := rfl

/-- A new bank is opened in the book of shares, where nobody has any of it. -/
theorem relists_add {bank : Bank} (hvacant : books.Vacant bankKey)
    (hzero : ∀ side, bank.totalShares side = 0) :
    books.record.Relists (books.setBank bankKey bank).record where
  position := rfl
  listed := by
    rintro ⟨k, side⟩ hlisted
    by_cases hk : k = bankKey
    · subst hk
      refine .inr ⟨fun a => hvacant a side, ?_⟩
      rw [total_setBank_same, hzero]
      exact le_rfl
    · refine .inl ⟨?_, total_setBank_of_ne hk bank side⟩
      have hthere : (books.setBank bankKey bank).banks k ≠ none := hlisted
      rwa [banks_setBank_of_ne hk] at hthere

/-- So is a closed bank closed in it. -/
theorem relists_remove : books.record.Relists (books.closeBank bankKey).record where
  position := rfl
  listed := by
    rintro ⟨k, side⟩ hlisted
    have hk : k ≠ bankKey := by
      rintro rfl
      exact hlisted (Function.update_self _ _ _)
    have hsame : (books.closeBank bankKey).banks k = books.banks k := Function.update_of_ne hk _ _
    refine .inl ⟨fun hnone => hlisted (hsame.trans hnone), ?_⟩
    show ((books.closeBank bankKey).banks k).elim 0 _ = (books.banks k).elim 0 _
    rw [hsame]

/-- **Every step of the books is a step of the book of shares**, or none. -/
theorem Step.record {books' : Books} (h : Step losses closed books books') (hsound : books.Sound) :
    Relation.ReflGen Shares.Book.Step books.record books'.record := by
  cases h with
  | entry haccount hbank hloc hentry hstore =>
    exact .single (.post (posts_entry haccount hbank hloc hentry hstore
      (hsound.orderly _ _ haccount)))
  | sort haccount hperm =>
    rw [record_setAccount fun k => by
      rw [position_of_some haccount, LendingAccount.sharesIn_perm hperm]]
  | revalue hbank hvalues => rw [record_setBank hbank hvalues.totalShares]
  | add _ hvacant hzero => exact .single (.relist (relists_add hvacant hzero))
  | remove => exact .single (.relist relists_remove)
  | lose _ hbank hloss => rw [record_setBank hbank hloss.totalShares]
  | create hnone hzeroed =>
    rw [record_setAccount fun k => by
      rw [hzeroed, LendingAccount.sharesIn_zeroed]
      simp [Books.record, hnone]]
  | move hne haccount hnone hnew hold =>
    exact .single (.rename (renames_move hne haccount hnone hnew hold))
  | close haccount =>
    exact .single (.post (posts_close haccount (hsound.orderly _ _ haccount)))

theorem Step.covered {books' : Books} (h : Step losses closed books books') (hsound : books.Sound) :
    books'.record.Covered :=
  Shares.Book.covered_of_run (h.record hsound).to_reflTransGen hsound.covered

/-! ### Soundness -/

/-- A property of all accounts is kept when an account that has it is written. -/
theorem forall_setAccount {P : MarginfiAccount → Prop} {k : Pubkey} {account : MarginfiAccount}
    (h : ∀ a acc, books.accounts a = some acc → P acc) (haccount : P account) :
    ∀ a acc, (books.setAccount k account).accounts a = some acc → P acc := by
  intro a acc hacc
  by_cases ha : a = k
  · subst ha
    obtain rfl : account = acc := by simpa [setAccount] using hacc
    exact haccount
  · exact h a acc (by simpa [setAccount, ha] using hacc)

/-- A property of all banks is kept when a bank that has it is written. -/
theorem forall_setBank {P : Bank → Prop} {bank : Bank}
    (h : ∀ k b, books.banks k = some b → P b) (hbank : P bank) :
    ∀ k b, (books.setBank bankKey bank).banks k = some b → P b := by
  intro k b hb
  by_cases hk : k = bankKey
  · subst hk
    obtain rfl : bank = b := by simpa [setBank] using hb
    exact hbank
  · exact h k b (by simpa [setBank, hk] using hb)

/-- So is one when a bank is closed. -/
theorem forall_closeBank {P : Bank → Prop} (h : ∀ k b, books.banks k = some b → P b) :
    ∀ k b, (books.closeBank bankKey).banks k = some b → P b := by
  intro k b hb
  by_cases hk : k = bankKey
  · simp [closeBank, hk] at hb
  · exact h k b (by simpa [closeBank, hk] using hb)

/-- **Every step keeps the books sound.** -/
theorem Step.sound {books' : Books} (h : Step losses closed books books') (hsound : books.Sound) :
    books'.Sound := by
  have hcovered := h.covered hsound
  have hset {account : MarginfiAccount} {key : Pubkey} (h : account.lendingAccount.Orderly) :=
    forall_setAccount (P := fun acc => acc.lendingAccount.Orderly) (k := key) hsound.orderly h
  cases h with
  | entry haccount hbank hloc hentry hstore =>
    refine ⟨forall_setBank hsound.values ?_, hset ?_, hcovered⟩
    · rw [hentry.assetShareValue, hentry.liabilityShareValue]
      exact hsound.values _ _ hbank
    · rw [hstore]
      exact (hsound.orderly _ _ haccount).store hloc hentry
  | sort haccount hperm =>
    exact ⟨hsound.values, hset ((hsound.orderly _ _ haccount).perm hperm), hcovered⟩
  | revalue hbank hvalues =>
    refine ⟨forall_setBank hsound.values ?_, hsound.orderly, hcovered⟩
    obtain ⟨hassets, hliabs⟩ := hsound.values _ _ hbank
    exact ⟨hassets.trans hvalues.assetShareValue, hliabs.trans_le hvalues.liabilityShareValue⟩
  | add _ _ _ hasset hliab =>
    refine ⟨forall_setBank hsound.values ?_, hsound.orderly, hcovered⟩
    rw [hasset, hliab]
    decide
  | remove => exact ⟨forall_closeBank hsound.values, hsound.orderly, hcovered⟩
  | lose _ hbank hloss =>
    refine ⟨forall_setBank hsound.values ?_, hsound.orderly, hcovered⟩
    rw [hloss.liabilityShareValue]
    exact ⟨hloss.assetShareValue, (hsound.values _ _ hbank).2⟩
  | create hnone hzeroed =>
    exact ⟨hsound.values, hset (hzeroed ▸ LendingAccount.orderly_zeroed), hcovered⟩
  | move hne haccount hnone hnew hold =>
    refine ⟨hsound.values, ?_, hcovered⟩
    refine forall_setAccount (P := fun acc => acc.lendingAccount.Orderly) (hset ?_) ?_
    · rw [hnew]
      exact hsound.orderly _ _ haccount
    · rw [hold]
      exact LendingAccount.orderly_zeroed
  | @close key account haccount =>
    refine ⟨hsound.values, fun a acc hacc => ?_, hcovered⟩
    by_cases ha : a = key
    · simp [ha] at hacc
    · exact hsound.orderly a acc (by simpa [ha] using hacc)

/-- **A step takes no bank away but one that may be closed, and lowers no share value** but that of
the deposits of a bank that may lose. -/
theorem Step.values {books' : Books} (h : Step losses closed books books')
    (hopen : bankKey ∉ closed) {bank : Bank} (hbank : books.banks bankKey = some bank) :
    ∃ bank', books'.banks bankKey = some bank' ∧
      bank.liabilityShareValue ≤ bank'.liabilityShareValue ∧
      (bankKey ∉ losses → bank.assetShareValue ≤ bank'.assetShareValue) := by
  have hwrite {k : Pubkey} {old new : Bank} (hold : books.banks k = some old)
      (hliab : old.liabilityShareValue ≤ new.liabilityShareValue)
      (hasset : k ∉ losses → old.assetShareValue ≤ new.assetShareValue) :
      ∃ bank', (books.setBank k new).banks bankKey = some bank' ∧
        bank.liabilityShareValue ≤ bank'.liabilityShareValue ∧
        (bankKey ∉ losses → bank.assetShareValue ≤ bank'.assetShareValue) := by
    by_cases hk : bankKey = k
    · subst hk
      obtain rfl := Option.some.inj (hold.symm.trans hbank)
      exact ⟨new, banks_setBank_same new, hliab, hasset⟩
    · exact ⟨bank, (banks_setBank_of_ne hk).trans hbank, le_rfl, fun _ => le_rfl⟩
  cases h with
  | entry _ hold _ hentry _ =>
    exact hwrite hold hentry.liabilityShareValue.ge fun _ => hentry.assetShareValue.ge
  | sort => exact ⟨bank, hbank, le_rfl, fun _ => le_rfl⟩
  | revalue hold hvalues =>
    exact hwrite hold hvalues.liabilityShareValue fun _ => hvalues.assetShareValue
  | @add k new hnone =>
    have hk : bankKey ≠ k := by
      rintro rfl
      rw [hnone] at hbank
      cases hbank
    exact ⟨bank, (banks_setBank_of_ne hk).trans hbank, le_rfl, fun _ => le_rfl⟩
  | @remove k hclosed =>
    have hk : bankKey ≠ k := by
      rintro rfl
      exact hopen hclosed
    exact ⟨bank, (Function.update_of_ne hk _ _).trans hbank, le_rfl, fun _ => le_rfl⟩
  | lose hloses hold hloss =>
    exact hwrite hold hloss.liabilityShareValue.ge fun hk => absurd hloses hk
  | create => exact ⟨bank, hbank, le_rfl, fun _ => le_rfl⟩
  | move => exact ⟨bank, hbank, le_rfl, fun _ => le_rfl⟩
  | close => exact ⟨bank, hbank, le_rfl, fun _ => le_rfl⟩

/-- So does a run. -/
theorem values_of_run {books' : Books} (h : Relation.ReflTransGen (Step losses closed) books books')
    (hopen : bankKey ∉ closed) {bank : Bank} (hbank : books.banks bankKey = some bank) :
    ∃ bank', books'.banks bankKey = some bank' ∧
      bank.liabilityShareValue ≤ bank'.liabilityShareValue ∧
      (bankKey ∉ losses → bank.assetShareValue ≤ bank'.assetShareValue) := by
  induction h with
  | refl => exact ⟨bank, hbank, le_rfl, fun _ => le_rfl⟩
  | tail _ hstep ih =>
    obtain ⟨b, hb, hliab, hasset⟩ := ih
    obtain ⟨b', hb', hliab', hasset'⟩ := hstep.values hopen hb
    exact ⟨b', hb', hliab.trans hliab', fun hk => (hasset hk).trans (hasset' hk)⟩

/-- The books of a bank are not negative. -/
theorem Sound.pool_nonneg {bank : Bank} (h : books.Sound)
    (hbank : books.banks bankKey = some bank) :
    bank.pool.Nonneg where
  assetShares := by
    have htotal := h.covered.total_nonneg (fund_of_some hbank .assets)
    rwa [total_of_some hbank] at htotal
  liabilityShares := by
    have htotal := h.covered.total_nonneg (fund_of_some hbank .liabilities)
    rwa [total_of_some hbank] at htotal
  assetShareValue := (h.values _ _ hbank).1
  liabilityShareValue := (h.values _ _ hbank).2.le

/-- **Whatever happens to sound books, they stay sound.** -/
theorem sound_of_run {books' : Books} (h : Relation.ReflTransGen (Step losses closed) books books')
    (hsound : books.Sound) : books'.Sound := by
  induction h with
  | refl => exact hsound
  | tail _ hstep ih => exact hstep.sound ih

/-! ### What closed banks leave -/

/-- Nobody holds shares of a bank that is not there, unless it may have been closed. -/
def Swept (closed : Set Pubkey) (books : Books) : Prop :=
  ∀ k, books.banks k = none → k ∉ closed → books.Vacant k

theorem Vacant.setAccount {k : Pubkey} {account : MarginfiAccount} (h : books.Vacant k)
    (haccount : ∀ side, account.lendingAccount.sharesIn k side = 0) :
    (books.setAccount key account).Vacant k := by
  intro a side
  by_cases ha : a = key
  · subst ha
    rw [position_setAccount_same, haccount]
  · rw [position_setAccount_of_ne ha, h]

/-- An account has no shares of a bank of which nobody has. -/
theorem Vacant.sharesIn {k : Pubkey} {account : MarginfiAccount} (h : books.Vacant k)
    (haccount : books.accounts key = some account) (side : BalanceSide) :
    account.lendingAccount.sharesIn k side = 0 := by
  have hzero := h key side
  rwa [position_of_some haccount] at hzero

/-- **A step leaves shares of a bank that is not there only if it may close that bank.** -/
theorem Step.swept {books' : Books} (h : Step losses closed books books')
    (hswept : books.Swept closed) : books'.Swept closed := by
  -- a bank that is not there after another one was written was not there before
  have hwrite {bank : Bank} {j k : Pubkey} (hnone : (books.setBank j bank).banks k = none) :
      k ≠ j ∧ books.banks k = none := by
    have hk : k ≠ j := by
      rintro rfl
      simp [setBank] at hnone
    exact ⟨hk, by rwa [banks_setBank_of_ne hk] at hnone⟩
  intro k hnone hclosed
  cases h with
  | entry haccount _ hloc hentry hstore =>
    obtain ⟨hk, hold⟩ := hwrite hnone
    have hvacant := hswept k hold hclosed
    refine hvacant.setAccount fun side => ?_
    rw [hstore, LendingAccount.sharesIn_store hloc hentry, hvacant.sharesIn haccount, if_neg hk,
      add_zero]
  | sort haccount hperm =>
    have hvacant := hswept k hnone hclosed
    refine hvacant.setAccount fun side => ?_
    rw [LendingAccount.sharesIn_perm hperm, hvacant.sharesIn haccount]
  | revalue => exact hswept k (hwrite hnone).2 hclosed
  | add => exact hswept k (hwrite hnone).2 hclosed
  | @remove j hj =>
    have hk : k ≠ j := by
      rintro rfl
      exact hclosed hj
    exact hswept k ((Function.update_of_ne hk _ _).symm.trans hnone) hclosed
  | lose => exact hswept k (hwrite hnone).2 hclosed
  | create _ hzeroed =>
    refine (hswept k hnone hclosed).setAccount fun side => ?_
    rw [hzeroed, LendingAccount.sharesIn_zeroed]
  | move _ haccount _ hnew hold =>
    have hvacant := hswept k hnone hclosed
    refine (hvacant.setAccount fun side => ?_).setAccount fun side => ?_
    · rw [hnew, hvacant.sharesIn haccount]
    · rw [hold, LendingAccount.sharesIn_zeroed]
  | @close key account =>
    intro a side
    by_cases ha : a = key
    · simp [Books.record, ha]
    · have hzero := hswept k hnone hclosed a side
      simpa [Books.record, ha] using hzero

theorem swept_of_run {books' : Books} (h : Relation.ReflTransGen (Step losses closed) books books')
    (hswept : books.Swept closed) : books'.Swept closed := by
  induction h with
  | refl => exact hswept
  | tail _ hstep ih => exact hstep.swept ih

end Books

/-! ### Postings -/

theorem Bank.Revalues.refl (bank : Bank) : bank.Revalues bank := ⟨fun _ => rfl, le_rfl, le_rfl⟩

theorem Bank.Revalues.of_pool {bank bank' : Bank}
    (hassets : bank'.pool.assetShares = bank.pool.assetShares)
    (hliabs : bank'.pool.liabilityShares = bank.pool.liabilityShares)
    (hasv : bank'.pool.assetShareValue = bank.pool.assetShareValue)
    (hlsv : bank'.pool.liabilityShareValue = bank.pool.liabilityShareValue) :
    bank.Revalues bank' where
  totalShares side := by
    cases side
    exacts [hassets, hliabs]
  assetShareValue := hasv.ge
  liabilityShareValue := hlsv.ge

/-- A position in its slot, with its bank, is sound. -/
theorem BankAccountWrapper.Located.sound {w : BankAccountWrapper} {bankPk : Pubkey}
    {account : LendingAccount} (h : w.Located bankPk account) (haccount : account.Orderly)
    (hvalues : 0 ≤ w.bank.assetShareValue ∧ 0 < w.bank.liabilityShareValue) : w.Sound := by
  have hshares : ∀ side, 0 ≤ w.balance.shares side := by
    rcases h.2 with hfound | ⟨-, hzero, -⟩
    · exact haccount.nonneg _ (List.mem_of_getElem? hfound)
    · exact fun side => (hzero side).ge
  exact ⟨hshares .assets, hshares .liabilities, hvalues.1, hvalues.2⟩

namespace Books

variable {losses closed : Set Pubkey}

/-- A changed position is stored, together with its bank. -/
theorem Sound.step_entry {books : Books} {key bankKey : Pubkey} {account account' : MarginfiAccount}
    {w w' : BankAccountWrapper} (hsound : books.Sound)
    (haccount : books.accounts key = some account)
    (hbank : books.banks bankKey = some w.bank) (hloc : w.Located bankKey account.lendingAccount)
    (hentry : w.Sound → w.Entry w')
    (hstore : account'.lendingAccount = account.lendingAccount.store w') :
    Step losses closed books ((books.setAccount key account').setBank bankKey w'.bank) :=
  .entry haccount hbank hloc (hentry (hloc.sound (hsound.orderly _ _ haccount)
    (hsound.values _ _ hbank))) hstore

/-- **A recorded movement**: interest is accrued on a bank, a position in it is changed and stored,
the positions are sorted, and what the bank has cached is updated. -/
theorem run_posting {books : Books} {key bankKey : Pubkey} {account account' : MarginfiAccount}
    {bank bank' : Bank} {w w' : BankAccountWrapper} (hsound : books.Sound)
    (haccount : books.accounts key = some account) (hbank : books.banks bankKey = some bank)
    (hbefore : bank.Revalues w.bank) (hloc : w.Located bankKey account.lendingAccount)
    (hentry : w.Sound → w.Entry w')
    (hperm : account'.lendingAccount.balances.Perm (account.lendingAccount.store w').balances)
    (hafter : w'.bank.Revalues bank') :
    Relation.ReflTransGen (Step losses closed) books
    ((books.setAccount key account').setBank bankKey bank') := by
  have h1 : Step losses closed books (books.setBank bankKey w.bank) := .revalue hbank hbefore
  have hbank1 : (books.setBank bankKey w.bank).banks bankKey = some w.bank := by simp [setBank]
  obtain ⟨stored, hstored⟩ : ∃ stored : MarginfiAccount,
      stored.lendingAccount = account.lendingAccount.store w' :=
    ⟨{ account with lendingAccount := account.lendingAccount.store w' }, rfl⟩
  have h2 : Step losses closed (books.setBank bankKey w.bank) _ :=
    (h1.sound hsound).step_entry haccount hbank1 hloc hentry hstored
  have h3 : Step losses closed
      (((books.setBank bankKey w.bank).setAccount key stored).setBank bankKey w'.bank)
      ((((books.setBank bankKey w.bank).setAccount key stored).setBank bankKey w'.bank).setAccount
        key account') :=
    .sort (show _ = some stored by simp [setAccount, setBank]) (hstored ▸ hperm)
  have h4 : Step losses closed
    ((((books.setBank bankKey w.bank).setAccount key stored).setBank bankKey
      w'.bank).setAccount key account') (((((books.setBank bankKey w.bank).setAccount key
        stored).setBank bankKey w'.bank).setAccount key account').setBank bankKey bank') :=
    .revalue (by simp [setAccount, setBank]) hafter
  have hend := ((Relation.ReflTransGen.single h1).tail h2).tail h3 |>.tail h4
  simpa [setAccount, setBank] using hend

/-- **An exchange**: two accounts change positions in two banks, first the one in the second bank,
then the other in the first, and then each in the other bank. -/
theorem run_exchange {books : Books} {a b k j : Pubkey} {acc acc' other other' : MarginfiAccount}
    {w₁ v₁ w₂ v₂ w₃ v₃ w₄ v₄ : BankAccountWrapper} (hsound : books.Sound) (hab : a ≠ b)
    (hkj : k ≠ j) (hacc : books.accounts a = some acc) (hother : books.accounts b = some other)
    (hk : books.banks k = some w₂.bank) (hj : books.banks j = some w₁.bank)
    (hloc₁ : w₁.Located j acc.lendingAccount) (h₁ : w₁.Sound → w₁.Entry v₁)
    (hloc₂ : w₂.Located k other.lendingAccount) (h₂ : w₂.Sound → w₂.Entry v₂)
    (hbank₃ : w₃.bank = v₂.bank) (hloc₃ : w₃.Located k (acc.lendingAccount.store v₁))
    (h₃ : w₃.Sound → w₃.Entry v₃) (hbank₄ : w₄.bank = v₁.bank)
    (hloc₄ : w₄.Located j (other.lendingAccount.store v₂)) (h₄ : w₄.Sound → w₄.Entry v₄)
    (hacc' : acc'.lendingAccount = (acc.lendingAccount.store v₁).store v₃)
    (hother' : other'.lendingAccount = (other.lendingAccount.store v₂).store v₄) :
    Relation.ReflTransGen (Step losses closed) books
      ((((books.setAccount a acc').setAccount b other').setBank k v₃.bank).setBank j v₄.bank) := by
  obtain ⟨acc₁, hacc₁⟩ : ∃ acc₁ : MarginfiAccount,
      acc₁.lendingAccount = acc.lendingAccount.store v₁ :=
    ⟨{ acc with lendingAccount := acc.lendingAccount.store v₁ }, rfl⟩
  obtain ⟨other₁, hother₁⟩ : ∃ other₁ : MarginfiAccount,
      other₁.lendingAccount = other.lendingAccount.store v₂ :=
    ⟨{ other with lendingAccount := other.lendingAccount.store v₂ }, rfl⟩
  have s₁ : Step losses closed books ((books.setAccount a acc₁).setBank j v₁.bank) :=
    hsound.step_entry hacc hj hloc₁ h₁ hacc₁
  have s₂ : Step losses closed _
      (((((books.setAccount a acc₁).setBank j v₁.bank).setAccount b other₁)).setBank k
      v₂.bank) :=
    (s₁.sound hsound).step_entry (by simpa [setAccount, setBank, hab.symm] using hother)
      (by simpa [setBank, setAccount, hkj] using hk) hloc₂ h₂ hother₁
  have sound₂ := s₂.sound (s₁.sound hsound)
  have s₃ : Step losses closed _
      ((((((books.setAccount a acc₁).setBank j v₁.bank).setAccount b other₁).setBank k
      v₂.bank).setAccount a acc').setBank k v₃.bank) :=
    sound₂.step_entry (show _ = some acc₁ by simp [setAccount, setBank, hab])
      (by simp [setBank, hbank₃]) (hacc₁ ▸ hloc₃) h₃ (hacc₁ ▸ hacc')
  have s₄ : Step losses closed _
      ((((((((books.setAccount a acc₁).setBank j v₁.bank).setAccount b other₁).setBank k
      v₂.bank).setAccount a acc').setBank k v₃.bank).setAccount b other').setBank j v₄.bank) :=
    (s₃.sound sound₂).step_entry (show _ = some other₁ by simp [setAccount, setBank, hab.symm])
      (by simp [setBank, setAccount, hkj.symm, hbank₄]) (hother₁ ▸ hloc₄) h₄ (hother₁ ▸ hother')
  have hend := ((Relation.ReflTransGen.single s₁).tail s₂).tail s₃ |>.tail s₄
  have hfinal : (((((((books.setAccount a acc₁).setBank j v₁.bank).setAccount b other₁).setBank k
      v₂.bank).setAccount a acc').setBank k v₃.bank).setAccount b other').setBank j v₄.bank =
      (((books.setAccount a acc').setAccount b other').setBank k v₃.bank).setBank j v₄.bank := by
    simp only [setAccount, setBank, Function.update_idem, Books.mk.injEq]
    constructor
    · rw [Function.update_comm hab, Function.update_idem, Function.update_comm hab.symm,
        Function.update_idem]
    · rw [Function.update_comm hkj, Function.update_idem, Function.update_comm hkj.symm]
  rw [← hfinal]
  exact hend

/-- Two banks are refreshed, and the positions of an account are sorted. -/
theorem run_refresh {books : Books} {a k j : Pubkey} {acc acc' : MarginfiAccount}
    {bank₁ bank₁' bank₂ bank₂' : Bank} (hkj : k ≠ j) (hacc : books.accounts a = some acc)
    (hperm : acc'.lendingAccount.balances.Perm acc.lendingAccount.balances)
    (h₁ : bank₁.Revalues bank₁') (h₂ : bank₂.Revalues bank₂') :
    Relation.ReflTransGen (Step losses closed) ((books.setBank k bank₁).setBank j bank₂)
      (((books.setBank k bank₁').setBank j bank₂').setAccount a acc') := by
  have s₁ : Step losses closed ((books.setBank k bank₁).setBank j bank₂)
      (((books.setBank k bank₁).setBank j bank₂).setBank j bank₂') :=
    .revalue (banks_setBank_same bank₂) h₂
  have hk : (((books.setBank k bank₁).setBank j bank₂).setBank j bank₂').banks k = some bank₁ := by
    rw [setBank_setBank, banks_setBank_of_ne hkj, banks_setBank_same]
  have s₂ : Step losses closed (((books.setBank k bank₁).setBank j bank₂).setBank j bank₂')
      ((((books.setBank k bank₁).setBank j bank₂).setBank j bank₂').setBank k bank₁') :=
    .revalue hk h₁
  have s₃ : Step losses closed
      ((((books.setBank k bank₁).setBank j bank₂).setBank j bank₂').setBank k bank₁')
      (((((books.setBank k bank₁).setBank j bank₂).setBank j bank₂').setBank k bank₁').setAccount a
        acc') := .sort hacc hperm
  have hend := (Relation.ReflTransGen.single s₁).tail s₂ |>.tail s₃
  have hfinal : (((books.setBank k bank₁).setBank j bank₂).setBank j bank₂').setBank k bank₁' =
      (books.setBank k bank₁').setBank j bank₂' := by
    simp only [setBank, Function.update_idem]
    rw [Function.update_comm hkj, Function.update_idem, Function.update_comm hkj.symm]
  rwa [hfinal] at hend

end Books

end Marginfi
