import FlashLoanBot.Marginfi.Runs

/-!
# marginfi: solvency

What a bank owes to its depositors and collects in fees is covered by the tokens in its vault and by
what its borrowers owe, up to rounding.

* `Ledger.rounding`: what one instruction may lose by rounding;
* `Env.withheld`, `le_received`: what is withheld of a transfer, and what arrives nevertheless;
* `Custody`: what the token programs and the derivation of addresses guarantee for a vault;
* `Settles`: a bank loses at most an amount, in tokens and claims;
* `Operation.loses`: no instruction loses more than it may;
* `Market.Custodial`: runs with what they may lose in total;
* `Market.solvent`: a bank is solvent up to that.
-/

namespace Marginfi

open Solana Checked
open FixedPoint (val ulp)

/-! ### Rounding -/

namespace Pool

/-- What an accrual may lose by rounding: one step for every share that was lent out, for every unit
of debt, and the interest on one step. -/
def accrualRounding (pool pool' : Pool) : ℚ :=
  if pool' = pool then 0
  else
    (pool.liabilityShares.val + pool.debts +
      (pool'.assetShareValue.val - pool.assetShareValue.val + (1 + pool.assetShareValue.val) *
        ulp 48) / pool.assetShareValue.val) * ulp 48

/-- What a change of a position may lose by rounding: one share on each side, and one step. -/
def postingRounding (pool : Pool) : ℚ :=
  (pool.assetShareValue.val + pool.liabilityShareValue.val + 1) * ulp 48

theorem postingRounding_nonneg {pool : Pool} (h : pool.Nonneg) : 0 ≤ pool.postingRounding := by
  have hasset := FixedPoint.val_nonneg.mpr h.assetShareValue
  have hliab := FixedPoint.val_nonneg.mpr h.liabilityShareValue
  have hulp := FixedPoint.ulp_pos 48
  unfold postingRounding
  positivity

theorem le_postingRounding (pool : Pool) :
    (pool.assetShareValue.val + pool.liabilityShareValue.val) * ulp 48 ≤ pool.postingRounding := by
  have hulp := FixedPoint.ulp_pos 48
  unfold postingRounding
  linarith

theorem ulp_le_postingRounding {pool : Pool} (h : pool.Nonneg) : ulp 48 ≤ pool.postingRounding := by
  have hasset := FixedPoint.val_nonneg.mpr h.assetShareValue
  have hliab := FixedPoint.val_nonneg.mpr h.liabilityShareValue
  have hulp := mul_nonneg (add_nonneg hasset hliab) (FixedPoint.ulp_pos 48).le
  unfold postingRounding
  linarith

end Pool

section Accruals

variable {irCalc : InterestRateCalc} {timeDelta : UInt64} {pool pool' : Pool}

/-- Interest is only accrued on deposits that are worth something. -/
theorem Accrues.assetShareValue_pos (h : Accrues irCalc timeDelta pool pool')
    (hpool : pool.Nonneg) :
    0 < pool.assetShareValue := by
  obtain ⟨assets, liabs, changes, hassets, hliabs, hchanges, -⟩ := h.changes
  simp only [calcInterestRateAccrualStateChanges, bind_eq_ok, math, fromOption_eq_ok] at hchanges
  obtain ⟨util, hutil, -⟩ := hchanges
  have hassets0 := FixedPoint.checkedMul_nonneg hpool.assetShares hpool.assetShareValue hassets
  have hliabs0 :=
    FixedPoint.checkedMul_nonneg hpool.liabilityShares hpool.liabilityShareValue hliabs
  obtain ⟨hpos, -⟩ := FixedPoint.checkedDiv_floor hliabs0 hassets0 hutil
  refine lt_of_le_of_ne hpool.assetShareValue fun hzero => ?_
  rw [FixedPoint.checkedMul_bits hassets, ← hzero, FixedPoint.bits_zero, mul_zero] at hpos
  simp at hpos

theorem Accrues.rounding_nonneg (h : Accrues irCalc timeDelta pool pool') (hpool : pool.Nonneg) :
    0 ≤ pool.accrualRounding pool' := by
  unfold Pool.accrualRounding
  split_ifs
  · exact le_rfl
  · have hpos := FixedPoint.val_pos.mpr (h.assetShareValue_pos hpool)
    have hshares := FixedPoint.val_nonneg.mpr hpool.liabilityShares
    have hvalue := FixedPoint.val_nonneg.mpr hpool.liabilityShareValue
    have hulp := FixedPoint.ulp_pos 48
    have hrise : 0 ≤ pool'.assetShareValue.val - pool.assetShareValue.val :=
      sub_nonneg.mpr (FixedPoint.val_le_val.mpr (h.rises hpool).1)
    unfold Pool.debts
    positivity

end Accruals

namespace Bank

variable {bank accrued : Bank} {now : Int64} {group : MarginfiGroup}

theorem accrueInterest_rounding (h : bank.accrueInterest now group = .ok accrued)
    (hpool : bank.pool.Nonneg) : 0 ≤ bank.pool.accrualRounding accrued.pool := by
  obtain ⟨-, hsame | ⟨delta, haccrues⟩⟩ := accrueInterest_inv h
  · rw [Pool.accrualRounding, if_pos hsame]
  · exact haccrues.rounding_nonneg hpool

/-- An accrual costs a bank no more than its rounding. -/
theorem accrueInterest_net (h : bank.accrueInterest now group = .ok accrued)
    (hpool : bank.pool.Nonneg) (hvalid : bank.config.interestRateConfig.validate = .ok ()) :
    bank.pool.net ≤ accrued.pool.net + bank.pool.accrualRounding accrued.pool := by
  obtain ⟨-, hsame | ⟨delta, haccrues⟩⟩ := accrueInterest_inv h
  · rw [Pool.accrualRounding, if_pos hsame, hsame, add_zero]
  · unfold Pool.accrualRounding
    split_ifs with hsame
    · rw [hsame, add_zero]
    · obtain ⟨interest, -, hrate, hcovered⟩ := haccrues.covered hpool hvalid
      have hpos := FixedPoint.val_pos.mpr (haccrues.assetShareValue_pos hpool)
      have hinterest : interest ≤
        (accrued.pool.assetShareValue.val - bank.pool.assetShareValue.val +
          (1 + bank.pool.assetShareValue.val) * ulp 48) / bank.pool.assetShareValue.val := by
        rw [le_div_iff₀ hpos]
        linarith
      have hulp := mul_le_mul_of_nonneg_right hinterest (FixedPoint.ulp_pos 48).le
      unfold Pool.net
      linarith

end Bank

section

variable {τ : Type} {env : Env τ} {s : Ledger τ} {key : Pubkey} {bank accrued : Bank}

/-- A bank of the ledger with the interest accrued on it. -/
def Ledger.accrue (env : Env τ) (s : Ledger τ) (key : Pubkey) : Result (Bank × Bank) := do
  let bank ← s.loadBank key
  let group ← s.loadGroup bank.group
  let accrued ← bank.accrueInterest env.clock.unixTimestamp group
  .ok (bank, accrued)

/-- What an instruction that accrues interest on a bank and changes positions in it may lose by
rounding. -/
def Ledger.rounding (env : Env τ) (s : Ledger τ) (key : Pubkey) : ℚ :=
  match s.accrue env key with
  | .ok (bank, accrued) => bank.pool.accrualRounding accrued.pool + accrued.pool.postingRounding
  | .error _ => 0

theorem Ledger.AccruedTo.rounding (h : s.AccruedTo env key bank accrued) :
    s.rounding env key =
      bank.pool.accrualRounding accrued.pool + accrued.pool.postingRounding := by
  obtain ⟨group, hgroup, haccrued⟩ := h.accrued
  have haccrue : s.accrue env key = .ok (bank, accrued) := by
    simp only [Ledger.accrue, Ledger.loadBank, Ledger.loadGroup, h.loaded, hgroup, haccrued,
      fromOption_some, ok_bind]
  rw [Ledger.rounding, haccrue]

theorem Bank.Revalues.pool_nonneg (h : bank.Revalues accrued) (hpool : bank.pool.Nonneg) :
    accrued.pool.Nonneg where
  assetShares := by
    rw [show accrued.pool.assetShares = bank.pool.assetShares from h.totalShares .assets]
    exact hpool.assetShares
  liabilityShares := by
    rw [show accrued.pool.liabilityShares = bank.pool.liabilityShares from
      h.totalShares .liabilities]
    exact hpool.liabilityShares
  assetShareValue := hpool.assetShareValue.trans h.assetShareValue
  liabilityShareValue := hpool.liabilityShareValue.trans h.liabilityShareValue

theorem Ledger.rounding_nonneg (hsound : s.books.Sound) : 0 ≤ s.rounding env key := by
  unfold Ledger.rounding
  cases haccrue : s.accrue env key with
  | error e => exact le_rfl
  | ok pair =>
    obtain ⟨bank, accrued⟩ := pair
    simp only [Ledger.accrue, Ledger.loadBank, bind_eq_ok, fromOption_eq_ok] at haccrue
    obtain ⟨_, hbank, group, -, _, haccrued, hpair⟩ := haccrue
    cases hpair
    have hpool := hsound.pool_nonneg hbank
    exact add_nonneg (Bank.accrueInterest_rounding haccrued hpool) (Pool.postingRounding_nonneg
      ((Bank.accrueInterest_revalues haccrued hpool).pool_nonneg hpool))

end

/-! ### Transfer fees -/

/-- The fee on an amount, in units. -/
def TransferFee.on (fee : TransferFee) (amount : UInt64) : ℕ :=
  (calculateFee fee amount).elim 0 UInt64.toNat

/-- What Token-2022 withholds of a transfer, by the mint. -/
def Mint.withheld (mint : Mint) (epoch amount : UInt64) : ℕ :=
  if mint.isTokenMint then 0 else (mint.getEpochFee epoch).elim 0 fun fee => fee.on amount

/-- What is withheld of a transfer: nothing by SPL Token, and by Token-2022 the fee of the mint that
it is passed. -/
def Env.withheld {τ : Type} (env : Env τ) (rest : τ) (t : Transfer) : ℕ :=
  if t.tokenProgram = tokenId then 0
  else (t.mint.bind (env.mint rest)).elim 0 fun mint => mint.withheld env.clock.epoch t.amount

theorem u64?_eq_some {n : ℕ} {x : UInt64} (h : u64? n = some x) : x.toNat = n := by
  unfold u64? at h
  split_ifs at h with hlt
  cases h
  exact UInt64.toNat_ofNat_of_lt' hlt

/-- The fee is no more than its share of the amount, rounded up, and than its maximum. -/
theorem TransferFee.on_le (fee : TransferFee) (amount : UInt64) :
    fee.on amount ≤ (amount.toNat * fee.transferFeeBasisPoints.toNat + 9999) / 10000 ∧
      fee.on amount ≤ fee.maximumFee.toNat := by
  unfold TransferFee.on
  cases h : calculateFee fee amount with
  | none => exact ⟨Nat.zero_le _, Nat.zero_le _⟩
  | some f =>
    simp only [calculateFee] at h
    split_ifs at h with hzero
    · cases h
      exact ⟨Nat.zero_le _, Nat.zero_le _⟩
    · obtain ⟨raw, hraw, h⟩ := Option.bind_eq_some_iff.mp h
      cases h
      rw [← u64?_eq_some hraw]
      exact ⟨UInt64.le_iff_toNat_le.mp (min_le_of_left raw fee.maximumFee),
        UInt64.le_iff_toNat_le.mp (min_le_of_right raw fee.maximumFee)⟩

/-- **What is sent covers the fee**: after it is withheld, no less than what should arrive does. -/
theorem calculatePreFeeAmount_covers {fee : TransferFee} {post pre : UInt64}
    (h : calculatePreFeeAmount fee post = some pre) : post.toNat + fee.on pre ≤ pre.toNat := by
  obtain ⟨hshare, hmax⟩ := fee.on_le pre
  simp only [calculatePreFeeAmount] at h
  split_ifs at h with hnone hzero hall htoo hsmall hcapped
  · cases h
    rw [hnone, mul_zero] at hshare
    omega
  · cases h
    rw [hzero]
    simp at hshare
    omega
  · rw [u64?_eq_some h]
    omega
  · rw [u64?_eq_some h]
    omega
  · -- what is sent is the least amount of which the share that arrives is enough
    have hraw := u64?_eq_some h
    set b := fee.transferFeeBasisPoints.toNat with hb
    have hlt : b < 10000 := by omega
    have hceil : post.toNat * 10000 ≤ pre.toNat * (10000 - b) := by
      rw [hraw]
      have hdiv := Nat.div_add_mod (post.toNat * 10000 + (10000 - b) - 1) (10000 - b)
      have hmod := Nat.mod_lt (post.toNat * 10000 + (10000 - b) - 1) (show 0 < 10000 - b by omega)
      rw [mul_comm (10000 - b)] at hdiv
      omega
    have hsum : pre.toNat * (10000 - b) + pre.toNat * b = pre.toNat * 10000 := by
      rw [← mul_add]
      congr 1
      omega
    omega

/-- A transfer that is meant to bring an amount brings it. -/
theorem le_received {τ : Type} {env : Env τ} {rest : τ} {mint : Option (Pubkey × Mint)}
    {t : Transfer} {amount : UInt64} (hmint : env.Passes rest mint t)
    (h : calculatePreFeeSplDepositAmount mint amount env.clock.epoch = .ok t.amount) :
    amount.toNat + env.withheld rest t ≤ t.amount.toNat := by
  cases mint with
  | none =>
    have hnothing : env.withheld rest t = 0 := by
      unfold Env.withheld
      rw [hmint.passed]
      split_ifs <;> rfl
    cases h
    rw [hnothing, add_zero]
  | some pair =>
    obtain ⟨key, m⟩ := pair
    have hle : env.withheld rest t ≤ m.withheld env.clock.epoch t.amount := by
      unfold Env.withheld
      rw [hmint.passed, show (some (key, m)).map Prod.fst = some key from rfl, Option.bind_some,
        hmint.found key m rfl]
      split_ifs
      exacts [Nat.zero_le _, le_rfl]
    refine (Nat.add_le_add_left hle _).trans ?_
    simp only [calculatePreFeeSplDepositAmount] at h
    unfold Mint.withheld
    split_ifs at h ⊢ with hlegacy
    · cases h
      exact le_rfl
    · cases hepoch : m.getEpochFee env.clock.epoch with
      | none =>
        rw [hepoch] at h
        cases h
        exact le_rfl
      | some fee =>
        rw [hepoch] at h
        exact calculatePreFeeAmount_covers (fromOption_eq_ok.mp h)

/-! ### Vaults -/

/-- What is relied on for the liquidity vault of a bank, which is a token account at an address
derived from the bank: of what is paid into it no more is withheld than the fee of the mint, no more
leaves it than is paid out, it is only paid from with the signature of its authority, no other
instruction takes from it, and no other seed or bank leads to its address. -/
structure Custody {τ : Type} (env : PoolEnv τ) (tokens : τ → Pubkey → ℕ) (key vault : Pubkey)
    (bump : UInt8) : Prop where
  transfer : ∀ t rest rest', env.transfer t rest = .ok rest' →
    tokens rest vault +
        (if t.destination = vault then t.amount.toNat - env.withheld rest t else 0) ≤
      tokens rest' vault + (if t.source = vault then t.amount.toNat else 0)
  signed : ∀ t rest rest', env.transfer t rest = .ok rest' → t.source = vault →
    t.signerSeeds ≠ none
  createAccount : ∀ payer new rest rest', env.createAccount payer new rest = .ok rest' →
    tokens rest vault ≤ tokens rest' vault
  initTokenAccount : ∀ payer new mint owner program rest rest',
    env.initTokenAccount payer new mint owner program rest = .ok rest' →
    tokens rest vault ≤ tokens rest' vault
  transferLamports : ∀ payer receiver amount rest rest',
    env.transferLamports payer receiver amount rest = .ok rest' →
    tokens rest vault ≤ tokens rest' vault
  closeAccount : ∀ account receiver rest rest', env.closeAccount account receiver rest = .ok rest' →
    tokens rest vault ≤ tokens rest' vault
  found : ∀ k, (env.findProgramAddress liquidityVaultSeed k).1 = vault → k = key
  found_own : env.findProgramAddress liquidityVaultSeed key = (vault, bump)
  derived : env.createProgramAddress liquidityVaultSeed key bump = some vault
  derived_only : ∀ k b, env.createProgramAddress liquidityVaultSeed k b = some vault → k = key
  insurance : ∀ k b, env.createProgramAddress insuranceVaultSeed k b ≠ some vault

/-- The bank has the vault, no other bank does, and the bank charges interest by an accepted
configuration. -/
structure Ledger.Housed {τ : Type} (s : Ledger τ) (key vault : Pubkey) : Prop where
  own : ∀ bank, s.banks key = some bank → bank.liquidityVault = vault
  valid : ∀ bank, s.banks key = some bank → bank.config.interestRateConfig.validate = .ok ()
  other : ∀ k bank, s.banks k = some bank → bank.liquidityVault = vault → k = key

/-- The bump of the vault is stored with the bank. -/
structure Market.Housed {τ : Type} (s : Market τ) (key vault : Pubkey) (bump : UInt8) : Prop
    extends s.toLedger.Housed key vault where
  bump : ∀ bank, s.banks key = some bank → (s.vaultBumps key).liquidityVaultBump = bump

/-- What part of the fees is the program's: none, all, or something in between.  Nothing checks that
when the part is set. -/
structure Market.FairRates {τ : Type} (s : Market τ) : Prop where
  feeState : 0 ≤ s.feeState.programFeeRate ∧ s.feeState.programFeeRate ≤ .one
  groups : ∀ k group, s.groups k = some group →
    0 ≤ group.programFeeRate ∧ group.programFeeRate ≤ .one

/-- The bank has not been killed, and no debt can be cleared without paying it. -/
def Bank.Ordinary (bank : Bank) : Prop :=
  bank.config.operationalState ≠ .killedByBankruptcy ∧
    bank.getFlag tokenlessRepaymentsAllowed = false

instance (bank : Bank) : Decidable bank.Ordinary := inferInstanceAs (Decidable (_ ∧ _))

/-- The bank loses at most an amount, of the tokens in its vault and what it is owed less what it
owes. -/
def Loses {τ : Type} (tokens : τ → Pubkey → ℕ) (key vault : Pubkey) (e : ℚ) (s s' : Ledger τ) :
    Prop :=
  ∀ bank bank', s.banks key = some bank → s'.banks key = some bank' → bank'.Ordinary →
    tokens s.rest vault + bank.pool.net ≤ tokens s'.rest vault + bank'.pool.net + e

/-- Besides, no bank is new, and all remain the same. -/
structure Settles {τ : Type} (tokens : τ → Pubkey → ℕ) (key vault : Pubkey) (e : ℚ)
    (s s' : Ledger τ) : Prop where
  loses : Loses tokens key vault e s s'
  same : ∀ k bank', s'.banks k = some bank' → ∃ bank, s.banks k = some bank ∧ bank.SameBase bank'

section Losses

variable {τ : Type} {env : PoolEnv τ} {tokens : τ → Pubkey → ℕ} {key vault : Pubkey} {bump : UInt8}
  {rest rest' : τ} {t : Transfer} {s s' : Ledger τ} {e : ℚ}

/-- A transfer from elsewhere takes nothing from the vault. -/
theorem Custody.keeps (hc : Custody env tokens key vault bump) (h : env.transfer t rest = .ok rest')
    (hsource : t.source ≠ vault) : tokens rest vault ≤ tokens rest' vault := by
  have hmoved := hc.transfer t rest rest' h
  rw [if_neg hsource, add_zero] at hmoved
  exact (Nat.le_add_right _ _).trans hmoved

/-- A user pays nothing out of the vault. -/
theorem Custody.source_ne (hc : Custody env tokens key vault bump)
    (h : env.transfer t rest = .ok rest') (hsigned : t.signerSeeds = none) : t.source ≠ vault :=
  fun hsource => hc.signed t rest rest' h hsource hsigned

/-- What is meant to be paid into the vault arrives. -/
theorem Custody.receives (hc : Custody env tokens key vault bump)
    (h : env.transfer t rest = .ok rest') (hsource : t.source ≠ vault)
    (hdestination : t.destination = vault) {mint : Option (Pubkey × Mint)} {amount : UInt64}
    (hmint : env.Passes rest mint t)
    (hpre : calculatePreFeeSplDepositAmount mint amount env.clock.epoch = .ok t.amount) :
    (tokens rest vault : ℚ) + amount.toNat ≤ tokens rest' vault := by
  have hmoved := hc.transfer t rest rest' h
  rw [if_neg hsource, if_pos hdestination, add_zero] at hmoved
  have hcovers := le_received hmint hpre
  have hle : tokens rest vault + amount.toNat ≤ tokens rest' vault := by omega
  exact_mod_cast hle

/-- No more leaves the vault than is paid. -/
theorem Custody.pays (hc : Custody env tokens key vault bump)
    (h : env.transfer t rest = .ok rest') :
    (tokens rest vault : ℚ) ≤ tokens rest' vault + t.amount.toNat := by
  have hmoved := hc.transfer t rest rest' h
  have hle : tokens rest vault ≤ tokens rest' vault + t.amount.toNat := by
    split_ifs at hmoved <;> omega
  exact_mod_cast hle

/-- An instruction that replaces one bank. -/
theorem Settles.of_setBank {k : Pubkey} {b b' : Bank} (hb : s.banks k = some b)
    (hbanks : s'.banks = Function.update s.banks k (some b')) (hbase : b.SameBase b')
    (hown : key = k → b'.Ordinary →
      tokens s.rest vault + b.pool.net ≤ tokens s'.rest vault + b'.pool.net + e)
    (hother : key ≠ k → tokens s.rest vault ≤ tokens s'.rest vault) :
    Settles tokens key vault (if key = k then e else 0) s s' where
  same j bank' hbank' := by
    rw [hbanks] at hbank'
    by_cases hkey : j = k
    · subst hkey
      rw [Function.update_self] at hbank'
      cases hbank'
      exact ⟨b, hb, hbase⟩
    · rw [Function.update_of_ne hkey] at hbank'
      exact ⟨bank', hbank', .refl bank'⟩
  loses bank bank' hbank hbank' hordinary := by
    rw [hbanks] at hbank'
    by_cases hkey : key = k
    · subst hkey
      rw [Function.update_self] at hbank'
      cases hb.symm.trans hbank
      cases hbank'
      rw [if_pos rfl]
      exact hown rfl hordinary
    · rw [Function.update_of_ne hkey] at hbank'
      cases hbank.symm.trans hbank'
      rw [if_neg hkey, add_zero]
      have hle : (tokens s.rest vault : ℚ) ≤ tokens s'.rest vault := by exact_mod_cast hother hkey
      linarith

theorem Settles.of_same (hbanks : s'.banks = s.banks)
    (htokens : tokens s.rest vault ≤ tokens s'.rest vault) : Settles tokens key vault 0 s s' where
  same k bank' hbank' := ⟨bank', by rwa [hbanks] at hbank', .refl bank'⟩
  loses bank bank' hbank hbank' _ := by
    rw [hbanks] at hbank'
    cases hbank.symm.trans hbank'
    have hle : (tokens s.rest vault : ℚ) ≤ tokens s'.rest vault := by exact_mod_cast htokens
    linarith

theorem Settles.mono {e' : ℚ} (h : Settles tokens key vault e s s') (hle : e ≤ e') :
    Settles tokens key vault e' s s' where
  same := h.same
  loses bank bank' hbank hbank' hordinary :=
    (h.loses bank bank' hbank hbank' hordinary).trans (by linarith)

end Losses

/-! ### What changes of positions cost -/

section Postings

variable {w w' : BankAccountWrapper} {clock : Clock} {amount paid : UInt64}

/-- A repayment costs a bank no more than what is paid for it, up to one step. -/
theorem repayBy_net {repayAll : Bool} (h : w.repayBy amount repayAll clock = .ok (w', paid))
    (hw : w.Sound) : w.bank.pool.net - paid.toNat ≤ w'.bank.pool.net + ulp 48 := by
  cases repayAll with
  | true => exact BankAccountWrapper.repayAll_net h
  | false =>
    obtain ⟨v, hv, hpair⟩ := bind_eq_ok.mp h
    cases hpair
    have hnet := BankAccountWrapper.increaseBalanceInternal_net hv hw (ofU64_nonneg _)
    rw [val_ofU64] at hnet
    linarith [FixedPoint.ulp_pos 48]

/-- A withdrawal gains a bank what leaves the books, up to one share on each side. -/
theorem withdrawBy_net {mint : Option (Pubkey × Mint)} {withdrawAll : Bool}
    (h : w.withdrawBy mint amount withdrawAll clock = .ok (w', paid)) (hw : w.Sound) :
    w.bank.pool.net + paid.toNat ≤ w'.bank.pool.net +
      (w.bank.assetShareValue.val + w.bank.liabilityShareValue.val) * ulp 48 := by
  cases withdrawAll with
  | true =>
    have hnet := BankAccountWrapper.withdrawAll_net h
    have hasset := FixedPoint.val_nonneg.mpr hw.assetShareValue
    have hliab := FixedPoint.val_nonneg.mpr hw.liabilityShareValue.le
    have hslack := mul_nonneg (add_nonneg hasset hliab) (FixedPoint.ulp_pos 48).le
    linarith
  | false =>
    simp only [BankAccountWrapper.withdrawBy, Bool.false_eq_true, if_false, bind_eq_ok] at h
    obtain ⟨pre, -, v, hv, hpair⟩ := h
    cases hpair
    have hnet := BankAccountWrapper.decreaseBalanceInternal_net hv hw (ofU64_nonneg _)
    rwa [val_ofU64] at hnet

/-- A deposit that is written off is no longer owed. -/
theorem purge_net (h : w.purge = .ok w') (hw : w.Sound) : w.bank.pool.net ≤ w'.bank.pool.net := by
  obtain ⟨total, htotal, -, -, hpool, -⟩ := BankAccountWrapper.purge_books h
  have htotal' : total.val = w.bank.totalAssetShares.val - w.balance.assetShares.val := by
    rw [FixedPoint.val_eq, htotal]
    push_cast
    rw [sub_mul, ← FixedPoint.val_eq, ← FixedPoint.val_eq]
  have hworth := mul_nonneg (FixedPoint.val_nonneg.mpr hw.assetShares)
    (FixedPoint.val_nonneg.mpr hw.assetShareValue)
  rw [hpool]
  simp only [Pool.net, Pool.debts, Pool.claims, Bank.pool, htotal']
  linarith

theorem saturate_le {z : ℤ} (h : -2 ^ 127 ≤ z) : (saturate z).bits ≤ z := by
  unfold saturate
  split_ifs with hrange hpos
  · exact le_rfl
  · show (2 ^ 127 - 1 : ℤ) ≤ z
    omega
  · omega

theorem saturatingAdd_val {x y : I80F48} (hy : 0 ≤ y) : (saturatingAdd x y).val ≤
    x.val + y.val := by
  have hy0 : 0 ≤ y.bits := hy
  have hx := x.lower
  have hle : (saturatingAdd x y).bits ≤ x.bits + y.bits := saturate_le (by norm_num at *; omega)
  rw [FixedPoint.val_eq, FixedPoint.val_eq, FixedPoint.val_eq, ← add_mul]
  exact mul_le_mul_of_nonneg_right (by exact_mod_cast hle) (FixedPoint.ulp_pos 48).le

/-- The origination fee is owed to the program and the group, and no more. -/
theorem creditOriginationFee_net {bank credited : Bank} {group : MarginfiGroup} {fee : I80F48}
    (h : creditOriginationFee bank group fee = .ok credited) (hfee : 0 ≤ fee)
    (hrate : 0 ≤ group.programFeeRate ∧ group.programFeeRate ≤ .one) :
    bank.pool.net ≤ credited.pool.net + fee.val := by
  unfold creditOriginationFee at h
  split_ifs at h with hzero hnone
  · cases h
    exact le_add_of_nonneg_right (FixedPoint.val_nonneg.mpr hfee)
  · cases h
    have hle := saturatingAdd_val (x := bank.collectedGroupFeesOutstanding) hfee
    simp only [Pool.net, Pool.debts, Pool.claims, Bank.pool]
    linarith
  · simp only [bind_eq_ok, math, fromOption_eq_ok] at h
    obtain ⟨programFee, hprogram, h⟩ := h
    cases h
    -- the program's part of the fee is no more than the fee
    have hprogram0 : 0 ≤ programFee := FixedPoint.checkedMul_nonneg hfee hrate.1 hprogram
    have hpart : programFee.val ≤ fee.val := by
      refine (FixedPoint.val_mul_le hprogram).trans ?_
      have hone := FixedPoint.val_le_val.mpr hrate.2
      rw [val_one] at hone
      exact mul_le_of_le_one_right (FixedPoint.val_nonneg.mpr hfee) hone
    have hpart' : programFee ≤ fee := FixedPoint.val_le_val.mp hpart
    have hrest : (saturatingSub fee programFee).val = fee.val - programFee.val := by
      have hbits : programFee.bits ≤ fee.bits := hpart'
      have h0 : 0 ≤ programFee.bits := hprogram0
      have hupper := fee.upper
      have hrange : -2 ^ 127 ≤ fee.bits - programFee.bits ∧
        fee.bits - programFee.bits < 2 ^ 127 := by
        norm_num at *
        omega
      rw [FixedPoint.val_eq, saturatingSub, saturate, dif_pos hrange, FixedPoint.val_eq,
        FixedPoint.val_eq]
      push_cast
      ring
    have hrest0 : 0 ≤ saturatingSub fee programFee := by
      rw [← FixedPoint.val_nonneg, hrest]
      linarith
    have hgroup := saturatingAdd_val (x := bank.collectedGroupFeesOutstanding) hrest0
    have hprog := saturatingAdd_val (x := bank.collectedProgramFeesOutstanding) hprogram0
    simp only [Pool.net, Pool.debts, Pool.claims, Bank.pool]
    linarith

end Postings

section Bankruptcy

variable {bank shared : Bank} {loss badDebt covered : I80F48}

/-- A shared loss is no longer owed to the depositors. -/
theorem socializeLoss_net (h : bank.socializeLoss loss = .ok (shared, false))
    (hpool : bank.pool.Nonneg) : bank.pool.net + loss.val ≤ shared.pool.net := by
  simp only [Bank.socializeLoss, bind_eq_ok, math, fromOption_eq_ok] at h
  obtain ⟨total, htotal, h⟩ := h
  split_ifs at h with hwiped
  · cases h
  · simp only [bind_eq_ok, orPanic, fromOption_eq_ok] at h
    obtain ⟨left, hleft, value, hvalue, h⟩ := h
    obtain ⟨rfl, -⟩ := Prod.mk.inj (Except.ok.inj h)
    have hleft0 : 0 ≤ left := by
      show 0 ≤ left.bits
      rw [FixedPoint.checkedSub_eq_some.mp hleft]
      exact sub_nonneg.mpr (not_le.mp hwiped).le
    have hworth := FixedPoint.val_mul_le htotal
    have hnew : value.val * bank.totalAssetShares.val ≤ left.val :=
      FixedPoint.val_div_mul_le hleft0 hpool.assetShares hvalue
    have hdiff := FixedPoint.val_sub hleft
    simp only [Pool.net, Pool.debts, Pool.claims, Bank.pool]
    linarith

theorem splitBadDebt_val {available : I80F48}
    (h : splitBadDebt badDebt available = .ok (covered, loss)) :
    badDebt.val ≤ covered.val + loss.val := by
  simp only [splitBadDebt, bind_eq_ok, orPanic, fromOption_eq_ok] at h
  obtain ⟨left, hleft, h⟩ := h
  cases h
  have hdiff := FixedPoint.val_sub hleft
  have hle : left.val ≤ (max left 0).val := FixedPoint.val_le_val.mpr (le_max_left left 0)
  linarith

end Bankruptcy

/-! ### What instructions cost -/

section Instructions

variable {τ : Type} {env : PoolEnv τ} {tokens : τ → Pubkey → ℕ} {key vault : Pubkey} {bump : UInt8}
  {remaining : List Pubkey} {amount : UInt64}

/-- A position in a bank on which interest was accrued is sound. -/
theorem Ledger.AccruedTo.located_sound {env : Env τ} {s : Ledger τ} {k : Pubkey}
    {bank accrued : Bank} {account : LendingAccount} {w : BankAccountWrapper}
    (h : s.AccruedTo env k bank accrued) (hsound : s.books.Sound) (haccount : account.Orderly)
    (hloc : w.Located k account) (hbank : w.bank = accrued) : w.Sound := by
  have hvalues := hsound.values k bank h.loaded
  have hrises := h.revalues hsound
  rw [← hbank] at hrises
  exact hloc.sound haccount ⟨hvalues.1.trans hrises.assetShareValue,
    hvalues.2.trans_le hrises.liabilityShareValue⟩

/-- So is one in a bank in which another position has changed. -/
theorem BankAccountWrapper.Located.sound_after {k : Pubkey} {account : LendingAccount}
    {w v v' : BankAccountWrapper} (hloc : w.Located k account) (haccount : account.Orderly)
    (hv : v.Sound) (hentry : v.Entry v') (hbank : w.bank = v'.bank) : w.Sound := by
  refine hloc.sound haccount ⟨?_, ?_⟩
  · rw [hbank, hentry.assetShareValue]
    exact hv.assetShareValue
  · rw [hbank, hentry.liabilityShareValue]
    exact hv.liabilityShareValue

theorem Ledger.AccruedTo.base {env : Env τ} {s : Ledger τ} {k : Pubkey} {bank accrued : Bank}
    (h : s.AccruedTo env k bank accrued) : bank.SameBase accrued := by
  obtain ⟨group, -, haccrued⟩ := h.accrued
  exact Bank.accrueInterest_base haccrued

/-- The accrual and the change of a position together. -/
theorem Ledger.AccruedTo.net {env : Env τ} {s : Ledger τ} {bank accrued : Bank} {pool : Pool}
    {x : ℚ}
    (h : s.AccruedTo env key bank accrued) (hsound : s.books.Sound)
    (hvalid : bank.config.interestRateConfig.validate = .ok ())
    (hpost : accrued.pool.net + x ≤ pool.net + accrued.pool.postingRounding) :
    bank.pool.net + x ≤ pool.net + s.rounding env key := by
  obtain ⟨group, -, haccrued⟩ := h.accrued
  have hnet := Bank.accrueInterest_net haccrued (hsound.pool_nonneg h.loaded) hvalid
  rw [h.rounding]
  linarith

theorem Ledger.AccruedTo.postingRounding_nonneg {env : Env τ} {s : Ledger τ} {bank accrued : Bank}
    (h : s.AccruedTo env key bank accrued) (hsound : s.books.Sound) :
    0 ≤ accrued.pool.postingRounding :=
  Pool.postingRounding_nonneg ((h.revalues hsound).pool_nonneg (hsound.pool_nonneg h.loaded))

section

variable {s s' : Ledger τ}

theorem banks_of_setBank {k : Pubkey} {bank : Bank} (h : s'.books = s.books.setBank k bank) :
    s'.banks = Function.update s.banks k (some bank) := congrArg Books.banks h

theorem banks_of_books {account : MarginfiAccount} {a k : Pubkey} {bank : Bank}
    (h : s'.books = (s.books.setAccount a account).setBank k bank) :
    s'.banks = Function.update s.banks k (some bank) := congrArg Books.banks h

/-- An instruction that accrues interest on a bank, and then pays and records the same, but for the
rounding of one posting. -/
theorem settles_of_posting {k : Pubkey} {bank accrued bank' : Bank}
    (haccrued : s.AccruedTo env.toEnv k bank accrued) (hsound : s.books.Sound)
    (hs : s.Housed key vault) (hbanks : s'.banks = Function.update s.banks k (some bank'))
    (hbase : accrued.SameBase bank')
    (hown : k = key → bank'.Ordinary → ∃ x : ℚ, tokens s.rest vault ≤ tokens s'.rest vault + x ∧
      accrued.pool.net + x ≤ bank'.pool.net + accrued.pool.postingRounding)
    (hother : k ≠ key → tokens s.rest vault ≤ tokens s'.rest vault) :
    Settles tokens key vault (if key = k then s.rounding env.toEnv key else 0) s s' := by
  refine Settles.of_setBank haccrued.loaded hbanks (haccrued.base.trans hbase) ?_ fun hne =>
    hother (Ne.symm hne)
  rintro rfl hordinary
  obtain ⟨x, htokens, hpost⟩ := hown rfl hordinary
  have hnet := haccrued.net hsound (hs.valid bank haccrued.loaded) hpost
  linarith

theorem lendingAccountDeposit_settles {ctx : LendingAccountDeposit} {upToLimit : Option Bool}
    (h : lendingAccountDeposit env.toEnv ctx remaining amount upToLimit s = .ok s')
    (hc : Custody env tokens key vault bump) (hsound : s.books.Sound) (hs : s.Housed key vault) :
    Settles tokens key vault (if key = ctx.bank then s.rounding env.toEnv key else 0) s s' := by
  rcases lendingAccountDeposit_inv h with rfl | ⟨account, bank, accrued, w, w', deposited, mint, t,
    bank', account', haccount, haccrued, hvault, hw, hw', hmint, hpre, hsigned, -, hdest,
    htransfer, hcached, -, hbooks, -⟩
  · refine (Settles.of_same rfl le_rfl).mono ?_
    split_ifs
    exacts [Ledger.rounding_nonneg hsound, le_rfl]
  · have hsource := hc.source_ne htransfer hsigned
    obtain rfl := BankAccountWrapper.findOrCreate_bank hw
    have hwsound := haccrued.located_sound hsound (hsound.orderly _ account haccount)
      (BankAccountWrapper.findOrCreate_located hw) rfl
    have hentry := BankAccountWrapper.increaseBalanceInternal_entry hw' hwsound (ofU64_nonneg _)
    refine settles_of_posting haccrued hsound hs (banks_of_books hbooks)
      (hentry.terms.base.trans hcached.toSameBase) ?_ fun _ => hc.keeps htransfer hsource
    rintro rfl -
    have hto : t.destination = vault := by rw [hdest, ← hvault, hs.own bank haccrued.loaded]
    have hreceived := hc.receives htransfer hsource hto hmint hpre
    have hposted :=
      BankAccountWrapper.increaseBalanceInternal_net hw' hwsound (ofU64_nonneg _)
    rw [val_ofU64, ← hcached.pool] at hposted
    have hslack := haccrued.postingRounding_nonneg hsound
    exact ⟨-deposited.toNat, by linarith, by linarith⟩

theorem lendingAccountBorrow_settles {ctx : LendingAccountBorrow}
    (h : lendingAccountBorrow env.toEnv ctx remaining amount s = .ok s')
    (hc : Custody env tokens key vault bump) (hsound : s.books.Sound) (hs : s.Housed key vault)
    (hrates : ∀ k group, s.groups k = some group →
      0 ≤ group.programFeeRate ∧ group.programFeeRate ≤ .one) :
    Settles tokens key vault (if key = ctx.bank then s.rounding env.toEnv key else 0) s s' := by
  obtain ⟨group, account, bank, accrued, w, w', fee, feeU64, debt, mint, t, credited, bank',
    account', haccount, haccrued, hvault, hw, htransfer, hsource, -, -, -, hfee, hdebt, hw',
    hcredited, hcached, -, hbooks, -, hgroup⟩ := lendingAccountBorrow_inv h
  have hfee0 := originationFee_nonneg hfee
  have hdebt' := FixedPoint.val_add hdebt
  have hdebt0 : 0 ≤ debt := by
    rw [← FixedPoint.val_nonneg, hdebt']
    exact add_nonneg (FixedPoint.val_nonneg.mpr (ofU64_nonneg _)) (FixedPoint.val_nonneg.mpr hfee0)
  obtain rfl := BankAccountWrapper.findOrCreate_bank hw
  have hwsound := haccrued.located_sound hsound (hsound.orderly _ account haccount)
    (BankAccountWrapper.findOrCreate_located hw) rfl
  have hentry := BankAccountWrapper.decreaseBalanceInternal_entry hw' hwsound hdebt0
  refine settles_of_posting haccrued hsound hs (banks_of_books hbooks)
    ((hentry.terms.base.trans (Bank.creditOriginationFee_base hcredited)).trans hcached.toSameBase)
    ?_ fun hne => hc.keeps htransfer fun hfrom => hne (hs.other ctx.bank bank haccrued.loaded
      (hvault.trans (hsource.symm.trans hfrom)))
  rintro rfl -
  have hpaid := hc.pays htransfer
  have hposted := BankAccountWrapper.decreaseBalanceInternal_net hw' hwsound hdebt0
  have hkept := creditOriginationFee_net hcredited hfee0 (hrates _ _ hgroup)
  rw [hdebt', val_ofU64] at hposted
  rw [← hcached.pool] at hkept
  have hslack : (w.bank.assetShareValue.val + w.bank.liabilityShareValue.val) * ulp 48 ≤
      w.bank.pool.postingRounding := w.bank.pool.le_postingRounding
  exact ⟨t.amount.toNat, hpaid, by linarith⟩

theorem lendingAccountRepay_settles {ctx : LendingAccountRepay} {repayAll : Option Bool}
    (h : lendingAccountRepay env.toEnv ctx remaining amount repayAll s = .ok s')
    (hc : Custody env tokens key vault bump) (hsound : s.books.Sound) (hs : s.Housed key vault) :
    Settles tokens key vault (if key = ctx.bank then s.rounding env.toEnv key else 0) s s' := by
  obtain ⟨account, bank, accrued, w, w', paid, mint, bank', account', haccount, haccrued, hvault,
    hw, hw', hpayment, hcached, -, hbooks, -⟩ := lendingAccountRepay_inv h
  obtain rfl := BankAccountWrapper.find_bank hw
  have hwsound := haccrued.located_sound hsound (hsound.orderly _ account haccount)
    (BankAccountWrapper.find_located hw) rfl
  refine settles_of_posting haccrued hsound hs (banks_of_books hbooks)
    ((repayBy_entry hw' hwsound).terms.base.trans hcached.toSameBase) ?_ fun _ => ?_
  · rintro rfl hordinary
    rcases hpayment with ⟨htokenless, -⟩ | ⟨t, hmint, hpre, hsigned, -, hdest, htransfer⟩
    · -- debts are not cleared without paying them
      rw [hordinary.2] at htokenless
      cases htokenless
    have hsource := hc.source_ne htransfer hsigned
    have hto : t.destination = vault := by rw [hdest, ← hvault, hs.own bank haccrued.loaded]
    have hreceived := hc.receives htransfer hsource hto hmint hpre
    have hposted := repayBy_net hw' hwsound
    rw [← hcached.pool] at hposted
    have hpool := (haccrued.revalues hsound).pool_nonneg (hsound.pool_nonneg haccrued.loaded)
    have hstep := Pool.ulp_le_postingRounding hpool
    exact ⟨-paid.toNat, by linarith, by linarith⟩
  · rcases hpayment with ⟨-, hrest⟩ | ⟨t, -, -, hsigned, -, -, htransfer⟩
    · rw [hrest]
    · exact hc.keeps htransfer (hc.source_ne htransfer hsigned)

theorem lendingAccountCloseBalance_settles {ctx : LendingAccountCloseBalance}
    (h : lendingAccountCloseBalance env.toEnv ctx s = .ok s') (hsound : s.books.Sound)
    (hs : s.Housed key vault) :
    Settles tokens key vault (if key = ctx.bank then s.rounding env.toEnv key else 0) s s' := by
  obtain ⟨account, bank, accrued, cached, w, w', account', haccount, haccrued, hcached, hw, hw', -,
    hbooks, hrest, -⟩ := lendingAccountCloseBalance_inv h
  obtain rfl := BankAccountWrapper.find_bank hw
  obtain ⟨-, -, hpool, hterms⟩ := BankAccountWrapper.closeBalance_books hw'
  refine settles_of_posting haccrued hsound hs (banks_of_books hbooks)
    (hcached.toSameBase.trans hterms.base) ?_ fun _ => by rw [hrest]
  rintro rfl -
  rw [hpool, hcached.pool, hrest]
  exact ⟨0, by linarith, by linarith [haccrued.postingRounding_nonneg hsound]⟩

theorem lendingAccountPurgeDelevBalance_settles {ctx : LendingAccountPurgeDelevBalance}
    (h : lendingAccountPurgeDelevBalance env.toEnv ctx s = .ok s') (hsound : s.books.Sound) :
    Settles tokens key vault (if key = ctx.bank then s.rounding env.toEnv key else 0) s s' := by
  obtain ⟨account, bank, w, w', account', haccount, hbank, hw, hw', -, hbooks, hrest, -⟩ :=
    lendingAccountPurgeDelevBalance_inv h
  obtain rfl := BankAccountWrapper.find_bank hw
  obtain ⟨_, -, -, -, -, hterms⟩ := BankAccountWrapper.purge_books hw'
  refine Settles.of_setBank hbank (banks_of_books hbooks) hterms.base ?_ fun _ => by rw [hrest]
  rintro rfl -
  have hposted := purge_net hw' ((BankAccountWrapper.find_located hw).sound
    (hsound.orderly _ account haccount) (hsound.values _ w.bank hbank))
  rw [hrest]
  have hround : 0 ≤ s.rounding env.toEnv ctx.bank := Ledger.rounding_nonneg hsound
  linarith

theorem lendingPoolAccrueBankInterest_settles {ctx : LendingPoolAccrueBankInterest}
    (h : lendingPoolAccrueBankInterest env.toEnv ctx s = .ok s') (hsound : s.books.Sound)
    (hs : s.Housed key vault) :
    Settles tokens key vault (if key = ctx.bank then s.rounding env.toEnv key else 0) s s' := by
  obtain ⟨bank, accrued, bank', haccrued, hcached, hbooks, hrest, -⟩ :=
    lendingPoolAccrueBankInterest_inv h
  refine settles_of_posting haccrued hsound hs (congrArg Books.banks hbooks) hcached.toSameBase ?_
    fun _ => by rw [hrest]
  rintro rfl -
  rw [hcached.pool, hrest]
  exact ⟨0, by linarith, by linarith [haccrued.postingRounding_nonneg hsound]⟩

end

section

variable {s s' : Market τ}

theorem lendingAccountWithdraw_settles {ctx : LendingAccountWithdraw} {withdrawAll : Option Bool}
    (h : lendingAccountWithdraw env.toVaultEnv ctx remaining amount withdrawAll s = .ok s')
    (hc : Custody env tokens key vault bump) (hsound : s.books.Sound)
    (hs : s.toLedger.Housed key vault) :
    Settles tokens key vault (if key = ctx.bank then s.rounding env.toEnv key else 0) s.toLedger
      s'.toLedger := by
  obtain ⟨account, bank, accrued, w, w', withdrawn, mint, t, bank', account', haccount, haccrued,
    hvault, hw, hw', -, hpayable, hsource, -, htransfer, hcached, -, hbooks, -⟩ :=
    lendingAccountWithdraw_inv h
  obtain rfl := BankAccountWrapper.find_bank hw
  have hwsound := haccrued.located_sound hsound (hsound.orderly _ account haccount)
    (BankAccountWrapper.find_located hw) rfl
  refine settles_of_posting haccrued hsound hs (banks_of_books hbooks)
    ((withdrawBy_entry hw' hwsound).terms.base.trans hcached.toSameBase) ?_ fun hne =>
      hc.keeps htransfer fun hfrom => hne (hs.other ctx.bank bank haccrued.loaded
        (hvault.trans (hsource.symm.trans hfrom)))
  rintro rfl -
  have hpaid := hc.pays htransfer
  have hbound : (t.amount.toNat : ℚ) ≤ withdrawn.toNat := by
    exact_mod_cast UInt64.le_iff_toNat_le.mp hpayable
  have hposted := withdrawBy_net hw' hwsound
  rw [← hcached.pool] at hposted
  have hslack : (w.bank.assetShareValue.val + w.bank.liabilityShareValue.val) * ulp 48 ≤
      w.bank.pool.postingRounding := w.bank.pool.le_postingRounding
  exact ⟨withdrawn.toNat, by linarith, by linarith⟩

theorem fracOf_val {fee : I80F48} {units : UInt64} (h : I80F48.toU64? fee = some units) :
    fee.val = units.toNat + (fracOf fee).val := by
  obtain ⟨k, hk, rfl⟩ := Option.map_eq_some_iff.mp h
  obtain ⟨hfloor, hlt⟩ := FixedPoint.toNat?_eq_some.mp hk
  have hbits : fee.bits = k * 2 ^ 48 + (fracOf fee).bits := by
    have hdiv := Int.mul_ediv_add_emod fee.bits (2 ^ 48)
    rw [show fee.bits / 2 ^ 48 = k from hfloor, mul_comm] at hdiv
    exact hdiv.symm
  have hcast : (fee.bits : ℚ) = k * 2 ^ 48 + (fracOf fee).bits := by exact_mod_cast hbits
  rw [UInt64.toNat_ofNat_of_lt' hlt, FixedPoint.val_eq, hcast, FixedPoint.val_eq, add_mul,
    mul_assoc, two_pow_mul_ulp, mul_one]

/-- In a liquidation the bank of the asset loses rounding, and that of the debt gains the fee that
is paid out, but for rounding. -/
theorem liquidatePositions_net {clock : Clock} {ctx : LendingAccountLiquidate}
    {assetAmount assetPrice liabPrice : I80F48} {assetBank liabBank : Bank}
    {liquidator liquidatee : MarginfiAccount} {done : Liquidated}
    (h : liquidatePositions clock ctx assetAmount assetPrice liabPrice assetBank liabBank liquidator
      liquidatee = .ok done)
    (hliquidator : liquidator.lendingAccount.Orderly)
    (hliquidatee : liquidatee.lendingAccount.Orderly)
    (hasset : 0 ≤ assetBank.assetShareValue ∧ 0 < assetBank.liabilityShareValue)
    (hliab : 0 ≤ liabBank.assetShareValue ∧ 0 < liabBank.liabilityShareValue)
    (hamount : 0 < assetAmount) (hassetPrice : 0 < assetPrice) (hliabPrice : 0 < liabPrice) :
    assetBank.SameBase done.assetBank ∧ liabBank.SameBase done.liabBank ∧
      assetBank.pool.net ≤ done.assetBank.pool.net + assetBank.pool.postingRounding ∧
      liabBank.pool.net + done.insuranceFeeToTransfer.toNat ≤
        done.liabBank.pool.net + liabBank.pool.postingRounding := by
  obtain ⟨paid, final, fee, w1, v1, w2, v2, w3, v3, w4, v4, fees, hamounts, hw1, hv1, hw2, hv2, hw3,
    hv3, hw4, hv4, hunits, hfees, -, -, hassetBank, hliabBank, -⟩ := liquidatePositions_inv h
  obtain ⟨hpaid, hfinal⟩ := liquidationAmounts_nonneg hamount hassetPrice.le hliabPrice.le hamounts
  obtain ⟨_, _, -, -, -, -, hfee, -⟩ := liquidationAmounts_inv hamounts
  have hbank1 := BankAccountWrapper.findOrCreate_bank hw1
  have hbank2 := BankAccountWrapper.find_bank hw2
  have hbank3 := BankAccountWrapper.findOrCreate_bank hw3
  have hbank4 := BankAccountWrapper.find_bank hw4
  -- each position is sound, in the account and the bank that the ones before have left
  have hloc1 := BankAccountWrapper.findOrCreate_located hw1
  have hsound1 : w1.Sound := hloc1.sound hliquidator (hbank1 ▸ hliab)
  have hentry1 := BankAccountWrapper.decreaseBalanceInternal_entry hv1 hsound1 hpaid
  have hloc2 := BankAccountWrapper.find_located hw2
  have hsound2 : w2.Sound := hloc2.sound hliquidatee (hbank2 ▸ hasset)
  have hentry2 := BankAccountWrapper.decreaseBalanceInternal_entry hv2 hsound2 hamount.le
  have hsound3 := (BankAccountWrapper.findOrCreate_located hw3).sound_after
    (hliquidator.store hloc1 hentry1) hsound2 hentry2 hbank3
  have hsound4 := (BankAccountWrapper.find_located hw4).sound_after
    (hliquidatee.store hloc2 hentry2) hsound1 hentry1 hbank4
  have hnet1 := BankAccountWrapper.decreaseBalanceInternal_net hv1 hsound1 hpaid
  have hnet2 := BankAccountWrapper.decreaseBalanceInternal_net hv2 hsound2 hamount.le
  have hnet3 := BankAccountWrapper.increaseBalanceInternal_net hv3 hsound3 hamount.le
  have hnet4 := BankAccountWrapper.increaseBalanceInternal_net hv4 hsound4 hfinal
  rw [hbank1] at hnet1
  rw [hbank2] at hnet2
  rw [hbank3] at hnet3
  rw [hbank4] at hnet4
  have hassetSlack : (assetBank.assetShareValue.val + assetBank.liabilityShareValue.val) * ulp 48 ≤
      assetBank.pool.postingRounding := assetBank.pool.le_postingRounding
  have hliabSlack : (liabBank.assetShareValue.val + liabBank.liabilityShareValue.val) * ulp 48 ≤
      liabBank.pool.postingRounding := liabBank.pool.le_postingRounding
  refine ⟨?_, ?_, ?_, ?_⟩
  · have hentry3 := BankAccountWrapper.increaseBalanceInternal_entry hv3 hsound3 hamount.le
    rw [hassetBank, ← hbank2]
    exact hentry2.terms.base.trans (hbank3 ▸ hentry3.terms.base)
  · have hentry4 := BankAccountWrapper.increaseBalanceInternal_entry hv4 hsound4 hfinal
    have hsame4 : v4.bank.SameBase done.liabBank := by
      rw [hliabBank]
      exact ⟨rfl, rfl, rfl⟩
    rw [← hbank1]
    exact (hentry1.terms.base.trans (hbank4 ▸ hentry4.terms.base)).trans hsame4
  · rw [hassetBank]
    linarith
  · have hfeeVal : fee.val = paid.val - final.val := by
      rw [FixedPoint.val_eq, hfee, FixedPoint.val_eq, FixedPoint.val_eq]
      push_cast
      ring
    have hsplit := fracOf_val hunits
    have hoff : done.liabBank.pool.net = v4.bank.pool.net - (fracOf fee).val := by
      rw [hliabBank]
      simp only [Pool.net, Pool.debts, Pool.claims, Bank.pool, FixedPoint.val_add hfees]
      ring
    rw [hoff]
    linarith

theorem lendingAccountLiquidate_settles {ctx : LendingAccountLiquidate} {assetAmount : UInt64}
    {liquidateeAccounts liquidatorAccounts : UInt8}
    (h : lendingAccountLiquidate env.toEnv ctx remaining assetAmount liquidateeAccounts
      liquidatorAccounts s = .ok s')
    (hc : Custody env tokens key vault bump) (hsound : s.books.Sound)
    (hs : s.toLedger.Housed key vault) :
    Settles tokens key vault
      (if key = ctx.assetBank ∨ key = ctx.liabBank then s.rounding env.toEnv key else 0) s.toLedger
      s'.toLedger := by
  obtain ⟨A, L, liquidator, liquidatee, A1, L1, assetPrice, liabPrice, done, t, A', L', liquidator',
    hpositive, hbanks, haccounts, hA, hL, hliquidator, hliquidatee, hassetPrice, hliabPrice, hdone,
    hderived, htransfer, hamount, hsource, -, hA', hL', -, hbooks, -⟩ :=
    lendingAccountLiquidate_inv h
  have hvaluesA := hsound.values _ A hA.loaded
  have hvaluesL := hsound.values _ L hL.loaded
  have hrisesA := hA.revalues hsound
  have hrisesL := hL.revalues hsound
  obtain ⟨hassetBase, hliabBase, hassetNet, hliabNet⟩ :=
    liquidatePositions_net hdone (hsound.orderly _ _ hliquidator)
    ((hsound.orderly _ _ hliquidatee).perm (List.perm_insertionSort _ _))
    ⟨hvaluesA.1.trans hrisesA.assetShareValue, hvaluesA.2.trans_le hrisesA.liabilityShareValue⟩
    ⟨hvaluesL.1.trans hrisesL.assetShareValue, hvaluesL.2.trans_le hrisesL.liabilityShareValue⟩
    (ofU64_pos hpositive) hassetPrice hliabPrice
  rw [← hA'.pool] at hassetNet
  rw [← hL'.pool] at hliabNet
  have hother (hne : key ≠ ctx.liabBank) : (tokens s.rest vault : ℚ) ≤ tokens s'.rest vault := by
    refine Nat.cast_le.mpr (hc.keeps htransfer fun hfrom => hne ?_)
    rw [← hsource, hfrom] at hderived
    exact (hc.derived_only _ _ hderived).symm
  have hafter : s'.banks = updateBanks s.banks ctx A' L' := congrArg Books.banks hbooks
  have hassetSame := (hA.base.trans hassetBase).trans hA'.toSameBase
  have hliabSame := (hL.base.trans hliabBase).trans hL'.toSameBase
  refine ⟨fun bank bank' hbank hbank' _ => ?_, fun k bank' hbank' => ?_⟩
  swap
  · rw [hafter, updateBanks] at hbank'
    by_cases hliab : k = ctx.liabBank
    · subst hliab
      rw [Function.update_self] at hbank'
      cases hbank'
      exact ⟨L, hL.loaded, hliabSame⟩
    · rw [Function.update_of_ne hliab] at hbank'
      by_cases hasset : k = ctx.assetBank
      · subst hasset
        rw [Function.update_self] at hbank'
        cases hbank'
        exact ⟨A, hA.loaded, hassetSame⟩
      · rw [Function.update_of_ne hasset] at hbank'
        exact ⟨bank', hbank', .refl bank'⟩
  rw [hafter, updateBanks] at hbank'
  by_cases hliab : key = ctx.liabBank
  · subst hliab
    rw [Function.update_self] at hbank'
    cases hbank'
    cases hL.loaded.symm.trans hbank
    have hpays := hc.pays htransfer
    rw [hamount] at hpays
    have hnet := hL.net hsound (hs.valid L hL.loaded) hliabNet
    rw [if_pos (.inr rfl)]
    linarith
  · rw [Function.update_of_ne hliab] at hbank'
    have hkept := hother hliab
    by_cases hasset : key = ctx.assetBank
    · subst hasset
      rw [Function.update_self] at hbank'
      cases hbank'
      cases hA.loaded.symm.trans hbank
      have hnet := hA.net hsound (hs.valid A hA.loaded) (x := 0) ((add_zero _).trans_le hassetNet)
      rw [if_pos (.inl rfl)]
      linarith
    · rw [Function.update_of_ne hasset] at hbank'
      cases hbank.symm.trans hbank'
      rw [if_neg (not_or.mpr ⟨hasset, hliab⟩)]
      linarith

theorem le_ceil_val {x y : I80F48} (h : x.checkedCeil = some y) : x.val ≤ y.val := by
  have hle : x.bits ≤ y.bits := by
    rw [FixedPoint.checkedCeil_bits h]
    exact x.bits_le_ceil
  exact FixedPoint.val_le_val.mpr hle

theorem lendingPoolHandleBankruptcy_settles {ctx : LendingPoolHandleBankruptcy}
    (h : lendingPoolHandleBankruptcy env.toVaultEnv ctx remaining s = .ok s')
    (hc : Custody env tokens key vault bump) (hsound : s.books.Sound)
    (hs : s.Housed key vault bump) :
    Settles tokens key vault (if key = ctx.bank then s.rounding env.toEnv key else 0) s.toLedger
      s'.toLedger := by
  obtain ⟨account, bank, accrued, badDebt, mint, available, covered, loss, coveredCeil, units, t,
    shared, kill, w, w', bank', account', haccount, haccrued, hvault, hinsurance, hbadDebt, hsplit,
    hceil, hunits, htransfer, hsource, hdest, -, hmint, hpre, hshared, hw, hw', hcached,
    hkill, -, hbooks, -⟩ := lendingPoolHandleBankruptcy_inv h
  have hfrom : t.source ≠ vault := by
    rw [hsource]
    rintro rfl
    exact hc.insurance _ _ hinsurance
  have hpool := (haccrued.revalues hsound).pool_nonneg (hsound.pool_nonneg haccrued.loaded)
  have hloses := Bank.socializeLoss_loses hshared hpool.assetShares
  obtain rfl := BankAccountWrapper.find_bank hw
  have hwsound : w.Sound := by
    refine (BankAccountWrapper.find_located hw).sound (hsound.orderly _ account haccount)
      ⟨hloses.assetShareValue, ?_⟩
    rw [hloses.liabilityShareValue]
    exact (hsound.values _ bank haccrued.loaded).2.trans_le
      (haccrued.revalues hsound).liabilityShareValue
  have hbadDebt0 := findBadDebt_nonneg hbadDebt
  have hentry := BankAccountWrapper.increaseBalanceInternal_entry hw' hwsound hbadDebt0
  refine settles_of_posting haccrued hsound hs.toHoused (banks_of_books hbooks)
    (((Bank.socializeLoss_base hshared).trans hentry.terms.base).trans hcached.toSameBase) ?_
    fun _ =>
      hc.keeps htransfer hfrom
  rintro rfl hordinary
  obtain rfl : kill = false := by
    cases kill with
    | true => exact absurd (hkill rfl) hordinary.1
    | false => rfl
  -- what the insurance fund covers arrives in the vault
  have hto : t.destination = vault := by
    rw [hs.bump bank haccrued.loaded, hc.derived] at hvault
    exact hdest.trans (Option.some.inj hvault).symm
  have hreceived := hc.receives htransfer hfrom hto hmint hpre
  have hpaid : coveredCeil.val = units.toNat :=
    BankAccountWrapper.toU64?_val hunits (FixedPoint.checkedCeil_bits hceil)
  have hcovered := le_ceil_val hceil
  have hdebt := splitBadDebt_val hsplit
  -- the rest is taken from the deposits
  have hlost := socializeLoss_net hshared hpool
  have hposted := BankAccountWrapper.increaseBalanceInternal_net hw' hwsound hbadDebt0
  rw [← hcached.pool] at hposted
  have hslack := haccrued.postingRounding_nonneg hsound
  exact ⟨-units.toNat, by linarith, by linarith⟩

/-- Fees that are paid out of the vault are no longer owed. -/
theorem lendingPoolCollectBankFees_settles {ctx : LendingPoolCollectBankFees}
    (h : lendingPoolCollectBankFees env ctx remaining s = .ok s')
    (hc : Custody env tokens key vault bump) :
    Settles tokens key vault 0 s.toLedger s'.toLedger := by
  obtain ⟨bank, groupFee, insuranceFee, programFee, groupLeft, insuranceLeft, programLeft, t, t',
    t'', r, r', hbank, hderived, ht, hr, ht', hr', ht'', hr'', hgroup, hinsurance, hprogram,
    hbooks, -⟩ :=
    lendingPoolCollectBankFees_inv h
  have hloses :
    Settles tokens key vault (if key = ctx.bank then 0 else 0) s.toLedger s'.toLedger := by
    refine Settles.of_setBank hbank (congrArg Books.banks hbooks) ⟨rfl, rfl, rfl⟩ ?_ ?_
    · rintro rfl -
      have hpays := hc.pays hr
      have hpays' := hc.pays hr'
      have hpays'' := hc.pays hr''
      rw [← ht.amount] at hpays
      rw [← ht'.amount] at hpays'
      rw [← ht''.amount] at hpays''
      simp only [Pool.net, Pool.debts, Pool.claims, Bank.pool, hgroup, hinsurance, hprogram]
      linarith
    · intro hne
      have hvault : ctx.liquidityVault ≠ vault := by
        rintro rfl
        exact hne (hc.derived_only _ _ hderived).symm
      exact (hc.keeps hr (ht.source ▸ hvault)).trans ((hc.keeps hr' (ht'.source ▸ hvault)).trans
        (hc.keeps hr'' (ht''.source ▸ hvault)))
  simpa using hloses

theorem Custody.initVaults {ctx : LendingPoolAddBank} {r r' : τ}
    (hc : Custody env tokens key vault bump) (h : initVaults env ctx r = .ok r') :
    tokens r vault ≤ tokens r' vault := by
  simp only [Marginfi.initVaults, bind_eq_ok] at h
  obtain ⟨r1, h1, r2, h2, h3⟩ := h
  exact (hc.initTokenAccount _ _ _ _ _ _ _ h1).trans
    ((hc.initTokenAccount _ _ _ _ _ _ _ h2).trans (hc.initTokenAccount _ _ _ _ _ _ _ h3))

theorem Custody.transferFlatFee {payer receiver : Pubkey} {fee : UInt32} {r r' : τ}
    (hc : Custody env tokens key vault bump)
    (h : env.transferFlatFee payer receiver fee r = .ok r') : tokens r vault ≤ tokens r' vault := by
  unfold SystemEnv.transferFlatFee at h
  split_ifs at h
  · exact hc.transferLamports _ _ _ _ _ h
  · cases h
    exact le_rfl

/-- A bank that is there is not affected by a new one. -/
theorem lendingPoolAddBank_loses {ctx : LendingPoolAddBank} {bankConfig : BankConfigCompact}
    (h : lendingPoolAddBank env ctx bankConfig s = .ok s')
    (hc : Custody env tokens key vault bump) :
    Loses tokens key vault 0 s.toLedger s'.toLedger := by
  obtain ⟨new, bumps, r, r', hnone, -, -, -, -, hcreate, hvaults, hpaid, hbooks, -⟩ :=
    lendingPoolAddBank_inv h
  intro bank bank' hbank hbank' _
  have hne : key ≠ ctx.bank := by
    rintro rfl
    rw [hnone] at hbank
    cases hbank
  rw [banks_of_setBank hbooks, Function.update_of_ne hne] at hbank'
  cases hbank.symm.trans hbank'
  have hle : (tokens s.rest vault : ℚ) ≤ tokens s'.rest vault := Nat.cast_le.mpr
    ((hc.createAccount _ _ _ _ hcreate).trans ((hc.initVaults hvaults).trans
      (hc.transferFlatFee hpaid)))
  linarith

/-- A bank that is closed is not there any more, and the others are not affected. -/
theorem lendingPoolCloseBank_settles {ctx : LendingPoolCloseBank}
    (h : lendingPoolCloseBank env ctx s = .ok s') (hc : Custody env tokens key vault bump) :
    Settles tokens key vault 0 s.toLedger s'.toLedger := by
  obtain ⟨hclose, hbooks, -⟩ := lendingPoolCloseBank_inv h
  have hleft {k : Pubkey} {bank : Bank} (hbank : s'.banks k = some bank) :
      s.banks k = some bank := by
    rw [show s'.banks = Function.update s.banks ctx.bank none from congrArg Books.banks hbooks]
      at hbank
    by_cases hk : k = ctx.bank
    · simp [hk] at hbank
    · simpa [hk] using hbank
  refine ⟨fun bank bank' hbank hbank' _ => ?_, fun k bank hbank => ⟨bank, hleft hbank, .refl bank⟩⟩
  cases hbank.symm.trans (hleft hbank')
  have hle : (tokens s.rest vault : ℚ) ≤ tokens s'.rest vault :=
    Nat.cast_le.mpr (hc.closeAccount _ _ _ _ hclose)
  linarith

/-- A new bank has a vault of its own, and owes nothing. -/
theorem lendingPoolAddBank_housed {ctx : LendingPoolAddBank} {bankConfig : BankConfigCompact}
    (h : lendingPoolAddBank env ctx bankConfig s = .ok s') (hc : Custody env tokens key vault bump)
    (hs : s.Housed key vault bump) : s'.Housed key vault bump := by
  obtain ⟨new, bumps, r, r', hnone, -, hvault, hvalid, hfound, -, -, -, hbooks, hbumps, -⟩ :=
    lendingPoolAddBank_inv h
  have hbanks {k : Pubkey} {bank : Bank} (hbank : s'.banks k = some bank) :
      (k = ctx.bank ∧ bank = new) ∨ (k ≠ ctx.bank ∧ s.banks k = some bank) := by
    rw [banks_of_setBank hbooks] at hbank
    by_cases hkey : k = ctx.bank
    · subst hkey
      rw [Function.update_self] at hbank
      exact .inl ⟨rfl, (Option.some.inj hbank).symm⟩
    · rw [Function.update_of_ne hkey] at hbank
      exact .inr ⟨hkey, hbank⟩
  refine ⟨⟨fun bank hbank => ?_, fun bank hbank => ?_, fun k bank hbank hown => ?_⟩,
    fun bank hbank => ?_⟩
  · rcases hbanks hbank with ⟨rfl, rfl⟩ | ⟨-, hold⟩
    · rw [hvault]
      exact congrArg Prod.fst (hfound.symm.trans hc.found_own)
    · exact hs.own bank hold
  · rcases hbanks hbank with ⟨rfl, rfl⟩ | ⟨-, hold⟩
    · exact hvalid
    · exact hs.valid bank hold
  · rcases hbanks hbank with ⟨rfl, rfl⟩ | ⟨-, hold⟩
    · exact hc.found _ ((congrArg Prod.fst hfound).trans (hvault.symm.trans hown))
    · exact hs.other k bank hold hown
  · rw [hbumps]
    rcases hbanks hbank with ⟨rfl, rfl⟩ | ⟨hne, hold⟩
    · rw [Function.update_self]
      exact congrArg Prod.snd (hfound.symm.trans hc.found_own)
    · rw [Function.update_of_ne hne]
      exact hs.bump bank hold

end

end Instructions

/-! ### Operations -/

/-- The banks on which an instruction accrues interest, or in which it changes positions. -/
def Operation.banks : Operation → List Pubkey
  | deposit ctx _ _ _ => [ctx.bank]
  | withdraw ctx _ _ _ => [ctx.bank]
  | borrow ctx _ _ => [ctx.bank]
  | repay ctx _ _ _ => [ctx.bank]
  | closeBalance ctx => [ctx.bank]
  | purgeDelevBalance ctx => [ctx.bank]
  | accrueBankInterest ctx => [ctx.bank]
  | liquidate ctx _ _ _ _ => [ctx.assetBank, ctx.liabBank]
  | handleBankruptcy ctx _ => [ctx.bank]
  | _ => []

/-- What an instruction may lose of a bank by rounding. -/
def Operation.rounding {τ : Type} (op : Operation) (env : Env τ) (s : Ledger τ)
    (key : Pubkey) : ℚ :=
  if key ∈ op.banks then s.rounding env key else 0

section Operations

variable {τ : Type} {env : PoolEnv τ} {tokens : τ → Pubkey → ℕ} {key vault : Pubkey} {bump : UInt8}
  {s s' : Market τ} {op : Operation}

/-- No instruction loses more than its rounding, and but for one that adds a bank none is new. -/
theorem Operation.settles (h : op.run env s = .ok s') (hc : Custody env tokens key vault bump)
    (hsound : s.books.Sound) (hs : s.Housed key vault bump)
    (hrates : s.FairRates)
    (hop : ∀ ctx bankConfig, op ≠ .addBank ctx bankConfig) :
    Settles tokens key vault (op.rounding env.toEnv s.toLedger key) s.toLedger s'.toLedger := by
  have hone {k : Pubkey} (hbanks : op.banks = [k])
      (hloses : Settles tokens key vault (if key = k then s.rounding env.toEnv key else 0)
        s.toLedger
        s'.toLedger) :
      Settles tokens key vault (op.rounding env.toEnv s.toLedger key) s.toLedger s'.toLedger := by
    unfold Operation.rounding
    rw [hbanks]
    simpa using hloses
  have hnone (hbanks : op.banks = []) (hloses : Settles tokens key vault 0 s.toLedger s'.toLedger) :
      Settles tokens key vault (op.rounding env.toEnv s.toLedger key) s.toLedger s'.toLedger := by
    unfold Operation.rounding
    rw [hbanks, if_neg List.not_mem_nil]
    exact hloses
  have hsame (hbanks : op.banks = []) (hbooks : s'.banks = s.banks) (hrest : s'.rest = s.rest) :
      Settles tokens key vault (op.rounding env.toEnv s.toLedger key) s.toLedger s'.toLedger :=
    hnone hbanks (.of_same hbooks (by rw [hrest]))
  cases op with
  | deposit =>
    exact hone rfl (lendingAccountDeposit_settles (lift_eq_ok h).1 hc hsound hs.toHoused)
  | withdraw => exact hone rfl (lendingAccountWithdraw_settles h hc hsound hs.toHoused)
  | borrow =>
    exact hone rfl
      (lendingAccountBorrow_settles (lift_eq_ok h).1 hc hsound hs.toHoused hrates.groups)
  | repay => exact hone rfl (lendingAccountRepay_settles (lift_eq_ok h).1 hc hsound hs.toHoused)
  | closeBalance =>
    exact hone rfl (lendingAccountCloseBalance_settles (lift_eq_ok h).1 hsound hs.toHoused)
  | purgeDelevBalance =>
    exact hone rfl (lendingAccountPurgeDelevBalance_settles (lift_eq_ok h).1 hsound)
  | accrueBankInterest =>
    exact hone rfl (lendingPoolAccrueBankInterest_settles (lift_eq_ok h).1 hsound hs.toHoused)
  | handleBankruptcy => exact hone rfl (lendingPoolHandleBankruptcy_settles h hc hsound hs)
  | liquidate ctx =>
    have hloses := lendingAccountLiquidate_settles h hc hsound hs.toHoused
    simpa [Operation.rounding, Operation.banks] using hloses
  | collectBankFees => exact hnone rfl (lendingPoolCollectBankFees_settles h hc)
  | closeBank => exact hnone rfl (lendingPoolCloseBank_settles h hc)
  | addBank ctx bankConfig => exact absurd rfl (hop ctx bankConfig)
  | initializeAccount =>
    obtain ⟨_, -, -, hcreate, hbooks, -⟩ := marginfiAccountInitialize_inv h
    exact hnone rfl (.of_same (congrArg Books.banks hbooks) (hc.createAccount _ _ _ _ hcreate))
  | transferAccount =>
    obtain ⟨_, _, _, rest, -, -, -, -, -, hcreate, hpaid, hbooks, -⟩ := transferToNewAccount_inv h
    exact hnone rfl (.of_same (congrArg Books.banks hbooks)
      ((hc.createAccount _ _ _ _ hcreate).trans (hc.transferLamports _ _ _ _ _ hpaid)))
  | closeAccount =>
    obtain ⟨_, -, hclose, hbooks, -⟩ := closeAccount_inv (lift_eq_ok h).1
    exact hnone rfl (.of_same (congrArg Books.banks hbooks) (hc.closeAccount _ _ _ _ hclose))
  | initializeGroup =>
    obtain ⟨rest, hinit, h⟩ := bind_eq_ok.mp h
    cases h
    exact hnone rfl (.of_same rfl (hc.createAccount _ _ _ _ (initAccount_inv hinit).2))
  | startFlashloan =>
    obtain ⟨_, _, _, -, -, -, -, -, -, -, -, -, -, -, -, -, hend⟩ :=
      lendingAccountStartFlashloan_eq_ok.mp (lift_eq_ok h).1
    exact hsame rfl (by rw [hend]; rfl) (by rw [hend]; rfl)
  | endFlashloan =>
    obtain ⟨_, _, -, -, -, hend⟩ := lendingAccountEndFlashloan_inv (lift_eq_ok h).1
    exact hsame rfl (by rw [hend]; rfl) (by rw [hend]; rfl)
  | setFreeze =>
    obtain ⟨_, _, -, -, hbooks, hrest, -⟩ := setAccountFreeze_inv (lift_eq_ok h).1
    exact hsame rfl (congrArg Books.banks hbooks) hrest
  | panicPause =>
    obtain ⟨_, -, h⟩ := bind_eq_ok.mp h
    obtain ⟨_, -, h⟩ := bind_eq_ok.mp h
    cases h
    exact hsame rfl rfl rfl
  | panicUnpause =>
    obtain ⟨_, -, h⟩ := bind_eq_ok.mp h
    obtain ⟨_, -, h⟩ := bind_eq_ok.mp h
    cases h
    exact hsame rfl rfl rfl
  | panicUnpausePermissionless =>
    obtain ⟨_, -, h⟩ := bind_eq_ok.mp h
    cases h
    exact hsame rfl rfl rfl
  | propagateFee =>
    obtain ⟨_, -, h⟩ := bind_eq_ok.mp h
    cases h
    exact hsame rfl rfl rfl

/-- **No instruction loses more than its rounding.** -/
theorem Operation.loses (h : op.run env s = .ok s') (hc : Custody env tokens key vault bump)
    (hsound : s.books.Sound) (hs : s.Housed key vault bump) (hrates : s.FairRates) :
    Loses tokens key vault (op.rounding env.toEnv s.toLedger key) s.toLedger s'.toLedger := by
  by_cases hop : ∃ ctx bankConfig, op = .addBank ctx bankConfig
  · obtain ⟨ctx, bankConfig, rfl⟩ := hop
    have hzero : Operation.rounding (.addBank ctx bankConfig) env.toEnv s.toLedger key = 0 :=
      if_neg List.not_mem_nil
    rw [hzero]
    exact lendingPoolAddBank_loses h hc
  · exact (settles h hc hsound hs hrates fun ctx bankConfig heq => hop ⟨ctx, bankConfig, heq⟩).loses

/-- The bank keeps its vault. -/
theorem Operation.housed (h : op.run env s = .ok s') (hc : Custody env tokens key vault bump)
    (hsound : s.books.Sound) (hs : s.Housed key vault bump) (hrates : s.FairRates) :
    s'.Housed key vault bump := by
  by_cases hop : ∃ ctx bankConfig, op = .addBank ctx bankConfig
  · obtain ⟨ctx, bankConfig, rfl⟩ := hop
    exact lendingPoolAddBank_housed h hc hs
  · have hne : ∀ ctx bankConfig, op ≠ .addBank ctx bankConfig :=
      fun ctx bankConfig heq => hop ⟨ctx, bankConfig, heq⟩
    have hsame := (settles h hc hsound hs hrates hne).same
    refine ⟨⟨fun bank' hbank' => ?_, fun bank' hbank' => ?_, fun k bank' hbank' hown => ?_⟩,
      fun bank' hbank' => ?_⟩
    · obtain ⟨bank, hbank, hbase⟩ := hsame key bank' hbank'
      exact hbase.liquidityVault.trans (hs.own bank hbank)
    · obtain ⟨bank, hbank, hbase⟩ := hsame key bank' hbank'
      rw [hbase.interestRateConfig]
      exact hs.valid bank hbank
    · obtain ⟨bank, hbank, hbase⟩ := hsame k bank' hbank'
      exact hs.other k bank hbank (hbase.liquidityVault.symm.trans hown)
    · obtain ⟨bank, hbank, -⟩ := hsame key bank' hbank'
      rw [vaultBumps_of_run h hne]
      exact hs.bump bank hbank

/-- A bank that was not there before owes nothing. -/
theorem Operation.opened (h : op.run env s = .ok s') (hc : Custody env tokens key vault bump)
    (hsound : s.books.Sound) (hs : s.Housed key vault bump) (hrates : s.FairRates)
    (hnone : s.banks key = none) {bank : Bank} (hbank : s'.banks key = some bank) :
    bank.pool = .opened := by
  by_cases hop : ∃ ctx bankConfig, op = .addBank ctx bankConfig
  · obtain ⟨ctx, bankConfig, rfl⟩ := hop
    obtain ⟨new, _, _, _, -, hpool, -, -, -, -, -, -, hbooks, -⟩ := lendingPoolAddBank_inv h
    rw [banks_of_setBank hbooks] at hbank
    by_cases hkey : key = ctx.bank
    · subst hkey
      rw [Function.update_self] at hbank
      cases hbank
      exact hpool
    · rw [Function.update_of_ne hkey] at hbank
      cases hnone.symm.trans hbank
  · obtain ⟨old, hold, -⟩ := (settles h hc hsound hs hrates fun ctx bankConfig heq =>
      hop ⟨ctx, bankConfig, heq⟩).same key bank hbank
    cases hnone.symm.trans hold

theorem Operation.fairRates (h : op.run env s = .ok s') (hs : s.FairRates) : s'.FairRates where
  feeState := by
    rw [feeRate_of_run h]
    exact hs.feeState
  groups k group hgroup := by
    rcases groups_of_run h hgroup with hold | ⟨hrate, -⟩
    · exact hs.groups k group hold
    · rw [hrate]
      exact hs.feeState

theorem Operation.rounding_nonneg (hsound : s.books.Sound) :
    0 ≤ op.rounding env.toEnv s.toLedger key := by
  unfold Operation.rounding
  split_ifs
  · exact Ledger.rounding_nonneg hsound
  · exact le_rfl

end Operations

/-! ### Runs -/

/-- Something else happens: the bank does not lose by it, all banks keep their vaults, the fees stay
fair, and no configuration is set that the program would not accept. -/
structure Market.Apart {τ : Type} (tokens : τ → Pubkey → ℕ) (key vault : Pubkey)
    (s s' : Market τ) : Prop
    extends s.Quiet s', s'.FairRates where
  worth : ∀ bank bank', s.banks key = some bank → s'.banks key = some bank' →
    tokens s.rest vault + bank.pool.net ≤ tokens s'.rest vault + bank'.pool.net
  vaults : ∀ k bank', s'.banks k = some bank' →
    ∃ bank, s.banks k = some bank ∧ bank'.liquidityVault = bank.liquidityVault
  valid : ∀ k bank', s'.banks k = some bank' → bank'.config.interestRateConfig.validate = .ok ()
  vaultBumps : s'.vaultBumps = s.vaultBumps

/-- Runs in which the bank stays an ordinary one, with what it may lose in them by rounding. -/
inductive Market.Custodial {τ : Type} (tokens : τ → Pubkey → ℕ) (key vault : Pubkey)
    (bump : UInt8) (closed : Set Pubkey) :
    ℚ → Market τ → Market τ → Prop
  | refl (s : Market τ) : Custodial tokens key vault bump closed 0 s s
  | operation {e : ℚ} {s t s' : Market τ} (env : PoolEnv τ) (op : Operation) :
      Custodial tokens key vault bump closed e s t → Custody env tokens key vault bump →
      op.closes ⊆ closed → op.Fresh closed t → op.run env t = .ok s' →
      (∀ bank, s'.banks key = some bank → bank.Ordinary) →
      Custodial tokens key vault bump closed (e + op.rounding env.toEnv t.toLedger key) s s'
  | other {e : ℚ} {s t s' : Market τ} : Custodial tokens key vault bump closed e s t →
      t.Apart tokens key vault s' → Custodial tokens key vault bump closed e s s'

section Runs

variable {τ : Type} {tokens : τ → Pubkey → ℕ} {key vault : Pubkey} {bump : UInt8}
  {closed : Set Pubkey} {e : ℚ} {s s' : Market τ}

theorem Market.Apart.housed (h : s.Apart tokens key vault s') (hs : s.Housed key vault bump) :
    s'.Housed key vault bump := by
  refine ⟨⟨fun bank' hbank' => ?_, h.valid key, fun k bank' hbank' hown => ?_⟩,
    fun bank' hbank' => ?_⟩
  · obtain ⟨bank, hbank, hvault⟩ := h.vaults key bank' hbank'
    exact hvault.trans (hs.own bank hbank)
  · obtain ⟨bank, hbank, hvault⟩ := h.vaults k bank' hbank'
    exact hs.other k bank hbank (hvault.symm.trans hown)
  · obtain ⟨bank, hbank, -⟩ := h.vaults key bank' hbank'
    rw [h.vaultBumps]
    exact hs.bump bank hbank

/-- What holds throughout a run: the books are sound, and the bank is solvent up to a loss. -/
structure Market.Kept {τ : Type} (tokens : τ → Pubkey → ℕ) (key vault : Pubkey) (bump : UInt8)
    (closed : Set Pubkey) (e : ℚ) (s : Market τ) : Prop where
  housed : s.Housed key vault bump
  rates : s.FairRates
  order : s.InOrder closed
  loss : 0 ≤ e
  worth : ∀ bank, s.banks key = some bank → 0 ≤ tokens s.rest vault + bank.pool.net + e

theorem Market.Empty.kept (h : s.Empty) (hrates : s.FairRates) :
    s.Kept tokens key vault bump closed 0 := by
  have hnone {k : Pubkey} {bank : Bank} {p : Prop} (hbank : s.banks k = some bank) : p := by
    rw [h.banks k] at hbank
    cases hbank
  exact ⟨⟨⟨fun _ => hnone, fun _ => hnone, fun _ _ => hnone⟩, fun _ => hnone⟩, hrates,
    h.inOrder, le_rfl, fun _ => hnone⟩

/-- One instruction. -/
theorem Operation.kept {env : PoolEnv τ} {op : Operation} (h : op.run env s = .ok s')
    (hs : s.Kept tokens key vault bump closed e) (hc : Custody env tokens key vault bump)
    (hclosed : op.closes ⊆ closed) (hfresh : op.Fresh closed s)
    (hordinary : ∀ bank, s'.banks key = some bank → bank.Ordinary) :
    s'.Kept tokens key vault bump closed (e + op.rounding env.toEnv s.toLedger key) := by
  have hsound := hs.order.sound
  have hround : 0 ≤ op.rounding env.toEnv s.toLedger key := rounding_nonneg hsound
  refine ⟨housed h hc hsound hs.housed hs.rates, fairRates h hs.rates,
    inOrder h hs.order hclosed hfresh, add_nonneg hs.loss hround, fun bank' hbank' => ?_⟩
  cases hbank : s.banks key with
  | none =>
    have hpool := opened h hc hsound hs.housed hs.rates hbank hbank'
    have hnet : bank'.pool.net = 0 := by
      rw [hpool]
      simp [Pool.net, Pool.debts, Pool.claims, Pool.opened]
    have htokens : (0 : ℚ) ≤ tokens s'.rest vault := Nat.cast_nonneg _
    linarith [hs.loss]
  | some bank =>
    have hloses := loses h hc hsound hs.housed hs.rates bank bank' hbank hbank'
      (hordinary bank' hbank')
    linarith [hs.worth bank hbank]

theorem Market.Apart.kept (h : s.Apart tokens key vault s')
    (hs : s.Kept tokens key vault bump closed e) : s'.Kept tokens key vault bump closed e := by
  refine ⟨h.housed hs.housed, h.toFairRates, h.toQuiet.inOrder hs.order, hs.loss,
    fun bank' hbank' => ?_⟩
  obtain ⟨bank, hbank, -⟩ := h.toQuiet.bank hbank'
  have hworth := h.worth bank bank' hbank hbank'
  linarith [hs.worth bank hbank]

theorem Market.Custodial.kept (h : Market.Custodial tokens key vault bump closed e s s')
    (hempty : s.Empty) (hrates : s.FairRates) : s'.Kept tokens key vault bump closed e := by
  induction h with
  | refl s => exact hempty.kept hrates
  | operation env op _ hc hclosed hfresh hrun hordinary ih =>
    exact Operation.kept hrun (ih hempty hrates) hc hclosed hfresh hordinary
  | other _ hapart ih => exact hapart.kept (ih hempty hrates)

/-- **The bank is solvent**: from the very beginning, whatever is executed and whatever else
happens, what it owes to its depositors and in fees is covered by the tokens in its vault and what
its borrowers owe, up to what the instructions of the run have lost by rounding. -/
theorem Market.solvent (h : Market.Custodial tokens key vault bump closed e s s') (hempty : s.Empty)
    (hrates : s.FairRates) {bank : Bank} (hbank : s'.banks key = some bank) :
    bank.pool.claims ≤ tokens s'.rest vault + bank.pool.debts + e := by
  have hworth := (h.kept hempty hrates).worth bank hbank
  unfold Pool.net at hworth
  linarith

/-- Instructions after each of which the bank is an ordinary one. -/
def Operation.runOrdinary (env : PoolEnv τ) (key : Pubkey) (s : Market τ) (op : Operation) :
    Result (Market τ) := do
  let s' ← op.run env s
  ensure ((s'.banks key).all fun bank => bank.Ordinary) .panicked
  .ok s'

theorem Market.Custodial.of_runAll {env : PoolEnv τ} {ops : List Operation} {t : Market τ}
    (h : Market.Custodial tokens key vault bump ∅ e s t) (hc : Custody env tokens key vault bump)
    (hops : ∀ op ∈ ops, op.losses = ∅ ∧ op.closes = ∅)
    (hrun : runAll (Operation.runOrdinary env key) t ops = .ok s') :
    ∃ e', Market.Custodial tokens key vault bump ∅ e' s s' := by
  induction ops generalizing e t with
  | nil =>
    cases hrun
    exact ⟨e, h⟩
  | cons op ops ih =>
    obtain ⟨u, hu, hrun⟩ := bind_eq_ok.mp hrun
    simp only [Operation.runOrdinary, bind_eq_ok, ensure_eq_ok] at hu
    obtain ⟨_, hop, _, hordinary, hu⟩ := hu
    cases hu
    exact ih (h.operation env op hc (hops op List.mem_cons_self).2.le
      (fun k _ hk => absurd hk (Set.notMem_empty k)) hop
      fun bank hbank => by simpa [hbank] using hordinary)
      (fun x hx => hops x (List.mem_cons_of_mem op hx)) hrun

end Runs

/-! ### A sample -/

/-- The addresses derived for the banks `4` and `14`. -/
def sampleAddress (seed : String) (bank : Pubkey) : Option Pubkey :=
  if bank = 4 ∨ bank = 14 then some (bank + 1000 + BitVec.ofNat 256 (sampleSeeds.idxOf seed))
  else none

/-- A chain on which the mint `6` is one of Token-2022 that charges a fee of one percent, up to five
thousand units. -/
def sampleFeeEnv (clock : Clock) : PoolEnv (Pubkey → ℕ) :=
  { sampleEnv with
    clock := clock
    mint := fun _ key => if key = 6 then some ⟨false, fun _ => some ⟨5000, 100⟩⟩ else none
    createProgramAddress := fun seed bank _ => sampleAddress seed bank
    findProgramAddress := fun seed bank => ((sampleAddress seed bank).getD 0, 255) }

/-- The same chain, whose transfers withhold the fees, and need a signature to take from the vault
`1004`. -/
def sampleVaultEnv (clock : Clock) : PoolEnv (Pubkey → ℕ) :=
  { sampleFeeEnv clock with
    transfer := fun t balances =>
      if t.source = 1004 ∧ t.signerSeeds = none then .error (.custom 2)
      else if balances t.source < t.amount.toNat then .error (.custom 1)
      else
        let paid := Function.update balances t.source (balances t.source - t.amount.toNat)
        .ok (Function.update paid t.destination
          (paid t.destination + (t.amount.toNat - (sampleFeeEnv clock).withheld balances t))) }

theorem sampleVaultEnv_transfer {clock : Clock} {t : Transfer} {balances balances' : Pubkey → ℕ}
    (h : (sampleVaultEnv clock).transfer t balances = .ok balances') :
    ¬ (t.source = 1004 ∧ t.signerSeeds = none) ∧ ∀ key,
      balances key + (if t.destination = key then
        t.amount.toNat - (sampleFeeEnv clock).withheld balances t else 0) ≤
      balances' key + (if t.source = key then t.amount.toNat else 0) := by
  simp only [sampleVaultEnv] at h
  split_ifs at h with hunsigned hshort
  cases h
  refine ⟨hunsigned, fun key => ?_⟩
  by_cases hto : t.destination = key
  · subst hto
    rw [Function.update_self, if_pos rfl]
    by_cases hfrom : t.source = t.destination
    · rw [if_pos hfrom, ← hfrom, Function.update_self]
      omega
    · rw [if_neg hfrom, Function.update_of_ne (Ne.symm hfrom), add_zero]
  · rw [if_neg hto, Function.update_of_ne (Ne.symm hto), add_zero]
    by_cases hfrom : t.source = key
    · subst hfrom
      rw [if_pos rfl, Function.update_self]
      omega
    · rw [if_neg hfrom, Function.update_of_ne (Ne.symm hfrom), add_zero]

/-- The address of the vault is derived for nothing else. -/
theorem sampleAddress_eq {seed : String} {k : Pubkey}
    (hseed : 1014 + BitVec.ofNat 256 (sampleSeeds.idxOf seed) ≠ (1004 : Pubkey))
    (h : sampleAddress seed k = some 1004) :
    k = 4 ∧ 1004 + BitVec.ofNat 256 (sampleSeeds.idxOf seed) = (1004 : Pubkey) := by
  unfold sampleAddress at h
  split_ifs at h with hk
  rcases hk with rfl | rfl
  · exact ⟨rfl, Option.some.inj h⟩
  · exact absurd (Option.some.inj h) hseed

theorem sampleVaultEnv_custody (clock : Clock) :
    Custody (sampleVaultEnv clock) (fun balances => balances) 4 1004 255 where
  transfer t rest rest' h := (sampleVaultEnv_transfer h).2 1004
  signed t rest rest' h hfrom hnone := (sampleVaultEnv_transfer h).1 ⟨hfrom, hnone⟩
  createAccount _ _ _ _ h := by
    cases h
    exact le_rfl
  initTokenAccount _ _ _ _ _ _ _ h := by
    cases h
    exact le_rfl
  transferLamports _ _ _ _ _ h := by
    cases h
    exact le_rfl
  closeAccount _ _ _ _ h := by
    cases h
    exact le_rfl
  found k h := by
    have hfound : (sampleAddress liquidityVaultSeed k).getD 0 = 1004 := h
    cases haddress : sampleAddress liquidityVaultSeed k with
    | none =>
      rw [haddress] at hfound
      exact absurd hfound (by decide)
    | some address =>
      rw [haddress] at hfound
      cases hfound
      exact (sampleAddress_eq (by decide +kernel) haddress).1
  found_own := by
    have hown : ((sampleAddress liquidityVaultSeed 4).getD 0, (255 : UInt8)) = (1004, 255) := by
      decide +kernel
    exact hown
  derived := by
    have hown : sampleAddress liquidityVaultSeed 4 = some 1004 := by decide +kernel
    exact hown
  derived_only k b h := (sampleAddress_eq (by decide +kernel) h).1
  insurance k b h :=
    absurd (sampleAddress_eq (by decide +kernel) h).2 (by decide +kernel)

theorem sampleGenesis_fairRates : sampleGenesis.FairRates :=
  ⟨by decide, fun _ _ h => by cases h⟩

/-- One user deposits a million units of the mint with the fee, and the other borrows some of them
against a deposit of another mint. -/
def sampleFeeLending : List Operation :=
  [.deposit ⟨3, 1, 2, 4, 7, 1004, token2022Id, token2022Id_mem⟩ [6] 1000000 none,
    .deposit ⟨3, 11, 12, 14, 17, 1014, tokenId, tokenId_mem⟩ [] 2000000 none,
    .borrow ⟨3, 11, 12, 4, 27, 1005, 1004, token2022Id, token2022Id_mem⟩ [6, 14, 15, 4, 5] 400000]

theorem sampleFeeRun_losses : ∀ op ∈ sampleOpening ++ sampleFeeLending,
    op.losses = ∅ ∧ op.closes = ∅ := by
  simp [sampleOpening, sampleFeeLending, Operation.losses, Operation.closes]

theorem Market.solvent_sample : ∃ (e : ℚ) (s s' : Market (Pubkey → ℕ)) (bank bank' : Bank),
    s.banks 4 = some bank ∧ s.held 4 .liabilities 11 = 404041 * 2 ^ 48 ∧ s'.banks 4 = some bank' ∧
    bank.assetShareValue ≠ bank'.assetShareValue ∧ s'.rest 1004 = 595959 ∧
    Market.Custodial (fun balances => balances) 4 1004 255 ∅ e sampleGenesis s' ∧
    bank'.pool.claims ≤ (s'.rest 1004 : ℚ) + bank'.pool.debts + e := by
  obtain ⟨s, hlending, hcheck⟩ : ∃ s : Market (Pubkey → ℕ),
      runAll (Operation.runOrdinary (sampleVaultEnv sampleEnv.clock) 4) sampleGenesis
        (sampleOpening ++ sampleFeeLending) = .ok s ∧
      ((s.banks 4).elim false fun bank => (s.held 4 .liabilities 11 == 404041 * 2 ^ 48 &&
        succeeds (fun s' : Market (Pubkey → ℕ) => (s'.banks 4).elim false fun bank' =>
          bank.assetShareValue ≠ bank'.assetShareValue ∧ s'.rest 1004 = 595959)
          (runAll (Operation.runOrdinary (sampleVaultEnv sampleLater.clock) 4) s
            sampleAccrual))) = true :=
    exists_of_succeeds (by decide +kernel)
  cases hbank : s.banks 4 with
  | none =>
    rw [hbank] at hcheck
    cases hcheck
  | some bank =>
    rw [hbank] at hcheck
    obtain ⟨hheld, hlater⟩ := Bool.and_eq_true_iff.mp hcheck
    obtain ⟨s', haccrual, hchanged⟩ := exists_of_succeeds hlater
    obtain ⟨e, hbefore⟩ := (Market.Custodial.refl sampleGenesis).of_runAll
      (sampleVaultEnv_custody _) sampleFeeRun_losses hlending
    obtain ⟨e', hcustodial⟩ := hbefore.of_runAll (sampleVaultEnv_custody _) sampleAccrual_losses
      haccrual
    cases hbank' : s'.banks 4 with
    | none =>
      rw [hbank'] at hchanged
      cases hchanged
    | some bank' =>
      rw [hbank'] at hchanged
      obtain ⟨hvalue, htokens⟩ := of_decide_eq_true hchanged
      exact ⟨e', s, s', bank, bank', hbank, by simpa using hheld, hbank', hvalue, htokens,
        hcustodial, Market.solvent hcustodial sampleGenesis_empty sampleGenesis_fairRates hbank'⟩

end Marginfi
