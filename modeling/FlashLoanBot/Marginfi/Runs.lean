import FlashLoanBot.Marginfi.Operations

/-!
# marginfi: runs

The instructions are executed in any order, from the very beginning, and other things happen in
between.

* `Market.Quiet`, `Operation.Fresh`: what may happen in between, and where banks are added;
* `Market.Step`: an instruction, or something else;
* `Market.InOrder`, `Market.inOrder_of_run`: what every run keeps;
* `Market.shares_covered`, `Market.accounts_orderly`, `Market.values_rise`: what follows.
-/

namespace Marginfi

open Solana Checked
open Relation (ReflTransGen)

/-! ### Steps -/

section Steps

variable {τ : Type}

/-- The stakes of a user, who has none without an account. -/
def Market.stakes (s : Market τ) (a : Pubkey) : List (Option Pubkey × (BalanceSide → I80F48)) :=
  ((s.marginfiAccounts a).elim .zeroed MarginfiAccount.lendingAccount).stakes

/-- The shares that a bank has issued, and what they are worth. -/
def Bank.issued (bank : Bank) : (BalanceSide → I80F48) × I80F48 × I80F48 :=
  (bank.totalShares, bank.assetShareValue, bank.liabilityShareValue)

/-- Something else happens: nobody's positions change, no bank comes or goes, and none issues shares
or changes what they are worth. -/
structure Market.Quiet (s s' : Market τ) : Prop where
  stakes : ∀ a, s'.stakes a = s.stakes a
  banks : ∀ k, (s'.banks k).map Bank.issued = (s.banks k).map Bank.issued

/-- Where a bank may have been closed, another one is only added when nobody holds shares of the old
one. -/
def Operation.Fresh (op : Operation) (closed : Set Pubkey) (s : Market τ) : Prop :=
  ∀ k ∈ op.opens, k ∈ closed → s.books.Vacant k

/-- An instruction is executed, or something else happens.  Losses are only taken from some banks,
only some are closed, and those are among the ones that may ever be. -/
inductive Market.Step (losses closing closed : Set Pubkey) : Market τ → Market τ → Prop
  | operation {s s' : Market τ} (env : PoolEnv τ) (op : Operation) : op.losses ⊆ losses →
      op.closes ⊆ closing → op.closes ⊆ closed → op.Fresh closed s → op.run env s = .ok s' →
      Step losses closing closed s s'
  | quiet {s s' : Market τ} : s.Quiet s' → Step losses closing closed s s'

/-- There are no user accounts and no banks yet. -/
structure Market.Empty (s : Market τ) : Prop where
  accounts : ∀ a, s.marginfiAccounts a = none
  banks : ∀ k, s.banks k = none

/-- The shares that an account holds in a bank. -/
def Market.held (s : Market τ) (bankKey : Pubkey) (side : BalanceSide) (a : Pubkey) : ℤ :=
  (s.marginfiAccounts a).elim 0 fun account => account.lendingAccount.sharesIn bankKey side

/-- The books are sound, and shares of a bank that is not there are left from a closed one. -/
structure Market.InOrder (closed : Set Pubkey) (s : Market τ) : Prop where
  sound : s.books.Sound
  swept : s.books.Swept closed

end Steps

section Runs

variable {τ : Type} {losses closing closed : Set Pubkey} {s s' : Market τ}

/-! ### What a step keeps -/

theorem Books.Step.mono {losses' closed' : Set Pubkey} {books books' : Books}
    (hlosses : losses ⊆ losses') (hclosed : closed ⊆ closed')
    (h : Books.Step losses closed books books') : Books.Step losses' closed' books books' := by
  cases h with
  | entry haccount hbank hloc hentry hstore => exact .entry haccount hbank hloc hentry hstore
  | sort haccount hperm => exact .sort haccount hperm
  | revalue hbank hvalues => exact .revalue hbank hvalues
  | add hnone hvacant hzero hasset hliab => exact .add hnone hvacant hzero hasset hliab
  | remove hremoved => exact .remove (hclosed hremoved)
  | lose hloses hbank hloss => exact .lose (hlosses hloses) hbank hloss
  | create hnone hzeroed => exact .create hnone hzeroed
  | move hne haccount hnone hnew hold => exact .move hne haccount hnone hnew hold
  | close haccount => exact .close haccount

/-- Nobody holds shares of a bank that is added. -/
theorem Operation.vacant {env : PoolEnv τ} {op : Operation} (h : op.run env s = .ok s')
    (hswept : s.books.Swept closed) (hfresh : op.Fresh closed s) :
    ∀ k ∈ op.opens, s.books.Vacant k := by
  intro k hk
  cases op with
  | addBank ctx bankConfig =>
    obtain rfl : k = ctx.bank := hk
    obtain ⟨_, _, _, _, hnone, -⟩ := lendingPoolAddBank_inv h
    by_cases hclosed : ctx.bank ∈ closed
    · exact hfresh _ rfl hclosed
    · exact hswept _ hnone hclosed
  | _ => cases hk

/-- **An instruction keeps the books in order.** -/
theorem Operation.inOrder {env : PoolEnv τ} {op : Operation} (h : op.run env s = .ok s')
    (hs : s.InOrder closed) (hclosed : op.closes ⊆ closed) (hfresh : op.Fresh closed s) :
    s'.InOrder closed := by
  have hrun := Operation.books h hs.sound (vacant h hs.swept hfresh)
  exact ⟨Books.sound_of_run hrun hs.sound,
    Books.swept_of_run (ReflTransGen.mono (fun _ _ => Books.Step.mono subset_rfl hclosed) _ _ hrun)
      hs.swept⟩

theorem Market.position_eq (s : Market τ) (a : Pubkey) (k : Pubkey × BalanceSide) :
    s.books.record.position a k =
      ((s.marginfiAccounts a).elim .zeroed MarginfiAccount.lendingAccount).sharesIn k.1 k.2 := by
  show (s.marginfiAccounts a).elim 0 _ = _
  cases s.marginfiAccounts a with
  | none => exact (LendingAccount.sharesIn_zeroed _ _).symm
  | some account => rfl

/-- A bank that is there after something else happened was there before. -/
theorem Market.Quiet.bank {k : Pubkey} {bank' : Bank} (h : s.Quiet s')
    (hbank : s'.banks k = some bank') : ∃ bank, s.banks k = some bank ∧
      bank.totalShares = bank'.totalShares ∧ bank.assetShareValue = bank'.assetShareValue ∧
      bank.liabilityShareValue = bank'.liabilityShareValue := by
  have hissued := h.banks k
  rw [hbank] at hissued
  obtain ⟨bank, hold, hsame⟩ := Option.map_eq_some_iff.mp hissued.symm
  simp only [Bank.issued, Prod.mk.injEq] at hsame
  exact ⟨bank, hold, hsame⟩

theorem Market.Quiet.symm (h : s.Quiet s') : s'.Quiet s where
  stakes a := (h.stakes a).symm
  banks k := (h.banks k).symm

/-- What is quiet leaves the record of all shares as it is. -/
theorem Market.Quiet.record (h : s.Quiet s') : s'.books.record = s.books.record := by
  refine Shares.Book.ext ?_ ?_ ?_
  · funext a k
    rw [Market.position_eq, Market.position_eq]
    exact LendingAccount.sharesIn_of_stakes (h.stakes a) _ _
  · have htotal (m : Market τ) (k : Pubkey × BalanceSide) : m.books.record.total k =
        ((m.banks k.1).map Bank.issued).elim 0 fun issued => (issued.1 k.2).bits := by
      show (m.banks k.1).elim 0 _ = _
      cases m.banks k.1 <;> rfl
    funext k
    rw [htotal, htotal, h.banks]
  · ext k
    show s'.banks k.1 ≠ none ↔ s.banks k.1 ≠ none
    have hmap := h.banks k.1
    rw [not_iff_not, ← Option.map_eq_none_iff (f := Bank.issued), hmap, Option.map_eq_none_iff]

theorem Market.Quiet.inOrder (h : s.Quiet s') (hs : s.InOrder closed) : s'.InOrder closed where
  sound := by
    refine ⟨fun k bank' hbank => ?_, fun a account' haccount => ?_, ?_⟩
    · obtain ⟨bank, hold, -, hasset, hliab⟩ := h.bank hbank
      rw [← hasset, ← hliab]
      exact hs.sound.values k bank hold
    · have hstakes := h.stakes a
      have haccount' : s'.marginfiAccounts a = some account' := haccount
      unfold Market.stakes at hstakes
      rw [haccount'] at hstakes
      refine LendingAccount.Orderly.of_stakes ?_ hstakes
      cases hold : s.marginfiAccounts a with
      | none => exact LendingAccount.orderly_zeroed
      | some account => exact hs.sound.orderly a account hold
    · rw [h.record]
      exact hs.sound.covered
  swept k hnone hclosed a side := by
    rw [h.record]
    refine hs.swept k ?_ hclosed a side
    have hmap := h.banks k
    rw [show s'.banks k = none from hnone] at hmap
    exact Option.map_eq_none_iff.mp hmap.symm

theorem Market.Step.inOrder (h : Market.Step losses closing closed s s') (hs : s.InOrder closed) :
    s'.InOrder closed := by
  cases h with
  | operation env op _ _ hclosed hfresh hrun => exact Operation.inOrder hrun hs hclosed hfresh
  | quiet hquiet => exact hquiet.inOrder hs

theorem Market.inOrder_of_run (h : ReflTransGen (Market.Step losses closing closed) s s')
    (hs : s.InOrder closed) : s'.InOrder closed := by
  induction h with
  | refl => exact hs
  | tail _ hstep ih => exact hstep.inOrder ih

theorem Market.Empty.inOrder (h : s.Empty) : s.InOrder closed := by
  have hnothing (a : Pubkey) (k : Pubkey × BalanceSide) : s.books.record.position a k = 0 := by
    rw [Market.position_eq, h.accounts a]
    exact LendingAccount.sharesIn_zeroed _ _
  refine ⟨⟨fun k bank hbank => ?_, fun a account haccount => ?_, fun holders k hk => ?_⟩,
    fun k _ _ a side => hnothing a (k, side)⟩
  · rw [show s.books.banks k = none from h.banks k] at hbank
    cases hbank
  · rw [show s.books.accounts a = none from h.accounts a] at haccount
    cases haccount
  · exact absurd (h.banks k.1) hk

/-! ### A sample -/

theorem tokenId_mem : tokenId ∈ [tokenId, token2022Id] := List.mem_cons_self

theorem token2022Id_mem : token2022Id ∈ [tokenId, token2022Id] :=
  List.mem_cons_of_mem _ List.mem_cons_self

/-- The seeds of the vaults and their authorities, by their place in this list. -/
def sampleSeeds : List String :=
  [liquidityVaultSeed, liquidityVaultAuthoritySeed, insuranceVaultSeed, insuranceVaultAuthoritySeed,
    feeVaultSeed, feeVaultAuthoritySeed]

/-- A chain on which only token balances matter besides marginfi, and every price is one. -/
def sampleEnv : PoolEnv (Pubkey → ℕ) where
  cluster := .mainnetBeta
  clock := ⟨1700000000, 500⟩
  transfer := fun t balances =>
    if balances t.source < t.amount.toNat then .error (.custom 1)
    else
      let paid := Function.update balances t.source (balances t.source - t.amount.toNat)
      .ok (Function.update paid t.destination (paid t.destination + t.amount.toNat))
  isTokenAccount := fun _ _ => true
  mint := fun _ _ => none
  priceFeed := fun _ _ _ => .ok ⟨fun _ _ _ => .ok .one, fun _ _ => .ok ⟨.one, 0⟩⟩
  createProgramAddress :=
    fun seed bank _ => some (bank + 1000 + BitVec.ofNat 256 (sampleSeeds.idxOf seed))
  tokenAmount := fun balances key => .ok (UInt64.ofNat (balances key))
  createAccount := fun _ _ balances => .ok balances
  transferLamports := fun _ _ _ balances => .ok balances
  closeAccount := fun _ _ balances => .ok balances
  findProgramAddress := fun seed bank =>
    (bank + 1000 + BitVec.ofNat 256 (sampleSeeds.idxOf seed), 255)
  initTokenAccount := fun _ _ _ _ _ balances => .ok balances
  mintDecimals := fun _ _ => some 6
  associatedTokenAddress := fun wallet mint _ => wallet + mint

/-- The same chain, a year later. -/
def sampleLater : PoolEnv (Pubkey → ℕ) := { sampleEnv with clock := ⟨1731536000, 700⟩ }

/-- Nothing but the fee state, and five million units in each of the token accounts `7` and `17`. -/
def sampleGenesis : Market (Pubkey → ℕ) where
  marginfiAccounts := fun _ => none
  banks := fun _ => none
  groups := fun _ => none
  rest := fun key => if key = 7 ∨ key = 17 then 5000000 else 0
  windows := fun _ => ⟨0, 0, 0⟩
  globalFeeWallet := fun _ => 0
  vaultBumps := fun _ => ⟨0, 0, 0, 0⟩
  migratedTo := fun _ => 0
  liquidationRecord := fun _ => 0
  records := fun _ => none
  feeState := ⟨9, 8, 0, 0, 0, 0, .zeroed, 0⟩

/-- The configuration of a bank. -/
def sampleConfig : BankConfigCompact where
  assetWeightInit := .one
  assetWeightMaint := .one
  liabilityWeightInit := .one
  liabilityWeightMaint := .one
  depositLimit := 1000000000
  insuranceFeeFixedApr := 0
  insuranceIrFee := 0
  protocolFixedFeeApr := 0
  protocolIrFee := 0
  protocolOriginationFee := 0
  zeroUtilRate := 0
  hundredUtilRate := 1000000
  points := .replicate 5 ⟨0, 0⟩
  operationalState := .operational
  borrowLimit := 1000000000
  riskTier := .collateral
  assetTag := assetTagDefault
  totalAssetValueInitLimit := 0
  oracleMaxAge := 60
  oracleMaxConfidence := 0

/-- The group `3` is opened, with the banks `4` and `14` and the accounts `1` and `11`. -/
def sampleOpening : List Operation :=
  [.initializeGroup ⟨3, 9⟩,
    .addBank ⟨3, 9, 9, 8, 6, 4, 1005, 1004, 1007, 1006, 1009, 1008, tokenId, tokenId_mem⟩
      sampleConfig,
    .addBank ⟨3, 9, 9, 8, 16, 14, 1015, 1014, 1017, 1016, 1019, 1018, tokenId, tokenId_mem⟩
      sampleConfig,
    .initializeAccount ⟨3, 1, 2, 2⟩,
    .initializeAccount ⟨3, 11, 12, 12⟩]

/-- One user deposits a million units in the bank `4`, and the other borrows from it against a
deposit in the bank `14`. -/
def sampleLending : List Operation :=
  [.deposit ⟨3, 1, 2, 4, 7, 1004, tokenId, tokenId_mem⟩ [] 1000000 none,
    .deposit ⟨3, 11, 12, 14, 17, 1014, tokenId, tokenId_mem⟩ [] 2000000 none,
    .borrow ⟨3, 11, 12, 4, 27, 1005, 1004, tokenId, tokenId_mem⟩ [14, 15, 4, 5] 400000]

/-- Interest is accrued on the bank `4`. -/
def sampleAccrual : List Operation := [.accrueBankInterest ⟨3, 4⟩]

/-- Instructions one after the other, none of which shares a loss or closes a bank. -/
theorem Market.run_of_runAll {env : PoolEnv τ} {ops : List Operation}
    (h : runAll (Operation.run env) s ops = .ok s')
    (hops : ∀ op ∈ ops, op.losses = ∅ ∧ op.closes = ∅) :
    ReflTransGen (Market.Step ∅ ∅ ∅) s s' := by
  induction ops generalizing s with
  | nil =>
    cases h
    exact .refl
  | cons op ops ih =>
    obtain ⟨t, ht, h⟩ := bind_eq_ok.mp h
    obtain ⟨hlosses, hcloses⟩ := hops op List.mem_cons_self
    exact .head (.operation env op hlosses.le hcloses.le hcloses.le
      (fun k _ hk => absurd hk (Set.notMem_empty k)) ht)
      (ih h fun x hx => hops x (List.mem_cons_of_mem op hx))

theorem sampleRun_losses : ∀ op ∈ sampleOpening ++ sampleLending,
    op.losses = ∅ ∧ op.closes = ∅ := by
  simp [sampleOpening, sampleLending, Operation.losses, Operation.closes]

theorem sampleAccrual_losses : ∀ op ∈ sampleAccrual, op.losses = ∅ ∧ op.closes = ∅ := by
  simp [sampleAccrual, Operation.losses, Operation.closes]

theorem sampleGenesis_empty : sampleGenesis.Empty := ⟨fun _ => rfl, fun _ => rfl⟩

/-! ### Results -/

/-- **Shares are covered**: whatever is executed, from the very beginning, in whatever order and
between whatever is quiet, no users hold more shares of a bank than it has issued. -/
theorem Market.shares_covered (h : ReflTransGen (Market.Step losses closing closed) s s')
    (hempty : s.Empty) {bankKey : Pubkey} {bank : Bank} (hbank : s'.banks bankKey = some bank)
    (side : BalanceSide) (holders : Finset Pubkey) :
    ∑ a ∈ holders, s'.held bankKey side a ≤ (bank.totalShares side).bits := by
  have hcovered := (Market.inOrder_of_run h hempty.inOrder).sound.covered holders (bankKey, side)
    (Books.fund_of_some hbank side)
  rwa [Books.total_of_some hbank] at hcovered

theorem Market.shares_covered_sample : ∃ (s' : Market (Pubkey → ℕ)) (bank : Bank),
    s'.banks 4 = some bank ∧ s'.held 4 .assets 1 = 1000000 * 2 ^ 48 ∧
    s'.held 4 .liabilities 11 = 400000 * 2 ^ 48 ∧
    ∀ side, ∑ a ∈ {1, 11}, s'.held 4 side a ≤ (bank.totalShares side).bits := by
  obtain ⟨s', hrun, hcheck⟩ : ∃ s' : Market (Pubkey → ℕ),
      runAll (Operation.run sampleEnv) sampleGenesis (sampleOpening ++ sampleLending) = .ok s' ∧
      ((s'.banks 4).isSome && (s'.held 4 .assets 1 == 1000000 * 2 ^ 48 &&
        s'.held 4 .liabilities 11 == 400000 * 2 ^ 48)) = true :=
    exists_of_succeeds (by decide +kernel)
  obtain ⟨hbank, hheld⟩ := Bool.and_eq_true_iff.mp hcheck
  obtain ⟨hassets, hliabs⟩ := Bool.and_eq_true_iff.mp hheld
  obtain ⟨bank, hbank⟩ := Option.isSome_iff_exists.mp hbank
  exact ⟨s', bank, hbank, by simpa using hassets, by simpa using hliabs, fun side =>
    Market.shares_covered (Market.run_of_runAll hrun sampleRun_losses) sampleGenesis_empty hbank
      side {1, 11}⟩

/-- **Accounts stay in order**: none ever holds two positions in one bank, or a negative one. -/
theorem Market.accounts_orderly (h : ReflTransGen (Market.Step losses closing closed) s s')
    (hempty : s.Empty) {a : Pubkey} {account : MarginfiAccount}
    (haccount : s'.marginfiAccounts a = some account) : account.lendingAccount.Orderly :=
  (Market.inOrder_of_run h hempty.inOrder).sound.orderly a account haccount

theorem Market.accounts_orderly_sample : ∃ (s' : Market (Pubkey → ℕ)) (account : MarginfiAccount),
    s'.marginfiAccounts 11 = some account ∧
    account.lendingAccount.balances.filterMap Balance.held = [14, 4] ∧
    account.lendingAccount.Orderly := by
  obtain ⟨s', hrun, hcheck⟩ : ∃ s' : Market (Pubkey → ℕ),
      runAll (Operation.run sampleEnv) sampleGenesis (sampleOpening ++ sampleLending) = .ok s' ∧
      ((s'.marginfiAccounts 11).elim false fun account =>
        account.lendingAccount.balances.filterMap Balance.held = [14, 4]) = true :=
    exists_of_succeeds (by decide +kernel)
  cases haccount : s'.marginfiAccounts 11 with
  | none =>
    rw [haccount] at hcheck
    cases hcheck
  | some account =>
    rw [haccount] at hcheck
    exact ⟨s', account, haccount, of_decide_eq_true hcheck, Market.accounts_orderly
      (Market.run_of_runAll hrun sampleRun_losses) sampleGenesis_empty haccount⟩

theorem Market.Step.values (h : Market.Step losses closing closed s s') (hs : s.InOrder closed)
    {bankKey : Pubkey} {bank : Bank} (hopen : bankKey ∉ closing)
    (hbank : s.banks bankKey = some bank) : ∃ bank', s'.banks bankKey = some bank' ∧
      bank.liabilityShareValue ≤ bank'.liabilityShareValue ∧
      (bankKey ∉ losses → bank.assetShareValue ≤ bank'.assetShareValue) := by
  cases h with
  | operation env op hloses hcloses _ hfresh hrun =>
    obtain ⟨bank', hbank', hliab, hasset⟩ := Books.values_of_run
      (Operation.books hrun hs.sound (Operation.vacant hrun hs.swept hfresh))
      (fun hmem => hopen (hcloses hmem)) hbank
    exact ⟨bank', hbank', hliab, fun hk => hasset fun hmem => hk (hloses hmem)⟩
  | quiet hquiet =>
    obtain ⟨bank', hbank', -, hasset, hliab⟩ := hquiet.symm.bank hbank
    exact ⟨bank', hbank', hliab.ge, fun _ => hasset.ge⟩

/-- **Share values never fall**, but for the deposits of a bank that a bankruptcy takes from: at any
time, a bank that is there stays there until it is closed, what one of its debts is worth does not
fall, and what one of its deposits is worth does not either unless a bankruptcy is settled in it. -/
theorem Market.values_rise {losses₀ closing₀ : Set Pubkey} {s₀ : Market τ}
    (h₀ : ReflTransGen (Market.Step losses₀ closing₀ closed) s₀ s) (hempty : s₀.Empty)
    (h : ReflTransGen (Market.Step losses closing closed) s s') {bankKey : Pubkey}
    (hopen : bankKey ∉ closing) {bank : Bank} (hbank : s.banks bankKey = some bank) :
    ∃ bank', s'.banks bankKey = some bank' ∧
      bank.liabilityShareValue ≤ bank'.liabilityShareValue ∧
      (bankKey ∉ losses → bank.assetShareValue ≤ bank'.assetShareValue) := by
  have hs := Market.inOrder_of_run h₀ hempty.inOrder
  induction h with
  | refl => exact ⟨bank, hbank, le_rfl, fun _ => le_rfl⟩
  | tail hrun hstep ih =>
    obtain ⟨b, hb, hliab, hasset⟩ := ih
    obtain ⟨b', hb', hliab', hasset'⟩ := hstep.values (Market.inOrder_of_run hrun hs) hopen hb
    exact ⟨b', hb', hliab.trans hliab', fun hk => (hasset hk).trans (hasset' hk)⟩

theorem Market.values_rise_sample : ∃ (s s' : Market (Pubkey → ℕ)) (bank bank' : Bank),
    s.banks 4 = some bank ∧ s.held 4 .liabilities 11 = 400000 * 2 ^ 48 ∧
    runAll (Operation.run sampleLater) s sampleAccrual = .ok s' ∧ s'.banks 4 = some bank' ∧
    bank.liabilityShareValue ≤ bank'.liabilityShareValue ∧
    bank.assetShareValue ≤ bank'.assetShareValue ∧
    bank.assetShareValue ≠ bank'.assetShareValue := by
  obtain ⟨s, hopening, hcheck⟩ : ∃ s : Market (Pubkey → ℕ),
      runAll (Operation.run sampleEnv) sampleGenesis (sampleOpening ++ sampleLending) = .ok s ∧
      ((s.banks 4).elim false fun bank => (s.held 4 .liabilities 11 == 400000 * 2 ^ 48 &&
        succeeds (fun s' : Market (Pubkey → ℕ) => (s'.banks 4).elim false fun bank' =>
          bank.assetShareValue ≠ bank'.assetShareValue)
          (runAll (Operation.run sampleLater) s sampleAccrual))) = true :=
    exists_of_succeeds (by decide +kernel)
  cases hbank : s.banks 4 with
  | none =>
    rw [hbank] at hcheck
    cases hcheck
  | some bank =>
    rw [hbank] at hcheck
    obtain ⟨hheld, hlater⟩ := Bool.and_eq_true_iff.mp hcheck
    obtain ⟨s', hrun, hchanged⟩ := exists_of_succeeds hlater
    obtain ⟨bank', hbank', hliab, hasset⟩ := Market.values_rise
      (Market.run_of_runAll hopening sampleRun_losses) sampleGenesis_empty
      (Market.run_of_runAll hrun sampleAccrual_losses) (Set.notMem_empty 4) hbank
    rw [hbank'] at hchanged
    exact ⟨s, s', bank, bank', hbank, by simpa using hheld, hrun, hbank', hliab,
      hasset (Set.notMem_empty 4), of_decide_eq_true hchanged⟩

end Runs

end Marginfi
