import FlashLoanBot.Marginfi.Accrual
import FlashLoanBot.Marginfi.Bankruptcy
import FlashLoanBot.Marginfi.Lifecycle
import FlashLoanBot.Marginfi.Positions

/-!
# marginfi: what moving a position does to the books

Every operation on a position changes the shares of the position and the books of the bank
together.

* `Pool.Issues`, `Balance.Gains`: shares are issued, or taken back, on both sides;
* `increaseBalanceInternal_issues`, `decreaseBalanceInternal_issues`: how many, and for how much;
* `Entry`: a position takes no more shares than the books of its bank record;
* `Pool.net`: what a bank is owed less what it owes, with the effect of every operation on it.
-/

namespace Marginfi

open Solana Checked
open FixedPoint (val ulp)

/-! ### Shares -/

/-- The shares that a bank has issued on a side. -/
def Bank.totalShares (bank : Bank) : BalanceSide → I80F48
  | .assets => bank.totalAssetShares
  | .liabilities => bank.totalLiabilityShares

/-- Shares are issued by a bank on both sides, or taken back when the number is negative. -/
structure Pool.Issues (assets liabilities : ℤ) (pool pool' : Pool) : Prop where
  assetShares : pool'.assetShares.bits = pool.assetShares.bits + assets
  liabilityShares : pool'.liabilityShares.bits = pool.liabilityShares.bits + liabilities
  assetShareValue : pool'.assetShareValue = pool.assetShareValue
  liabilityShareValue : pool'.liabilityShareValue = pool.liabilityShareValue
  groupFees : pool'.groupFees = pool.groupFees
  insuranceFees : pool'.insuranceFees = pool.insuranceFees
  programFees : pool'.programFees = pool.programFees

/-- A position gains shares on both sides. -/
structure Balance.Gains (assets liabilities : ℤ) (b b' : Balance) : Prop where
  assetShares : b'.assetShares.bits = b.assetShares.bits + assets
  liabilityShares : b'.liabilityShares.bits = b.liabilityShares.bits + liabilities

/-- What stays as it is when a bank is operated on. -/
structure Bank.SameTerms (bank bank' : Bank) : Prop where
  config : bank'.config = bank.config
  group : bank'.group = bank.group
  mint : bank'.mint = bank.mint
  liquidityVault : bank'.liquidityVault = bank.liquidityVault

namespace Bank

theorem SameTerms.refl (bank : Bank) : bank.SameTerms bank := ⟨rfl, rfl, rfl, rfl⟩

theorem SameTerms.trans {b b' b'' : Bank} (h : b.SameTerms b') (h' : b'.SameTerms b'') :
    b.SameTerms b'' :=
  ⟨h'.config.trans h.config, h'.group.trans h.group, h'.mint.trans h.mint,
    h'.liquidityVault.trans h.liquidityVault⟩

theorem changeAssetShares_inv {bank bank' : Bank} {shares : I80F48} {bypass : Bool}
    (h : bank.changeAssetShares shares bypass = .ok bank') :
    ∃ total, bank.totalAssetShares.checkedAdd shares = some total ∧
      bank' = { bank with totalAssetShares := total } := by
  simp only [changeAssetShares, bind_eq_ok, math, fromOption_eq_ok] at h
  obtain ⟨total, htotal, h⟩ := h
  refine ⟨total, htotal, ?_⟩
  split_ifs at h with hlimited hdrift
  · obtain ⟨_, -, h⟩ := bind_eq_ok.mp h
    obtain ⟨_, -, h⟩ := bind_eq_ok.mp h
    obtain ⟨_, -, h⟩ := bind_eq_ok.mp h
    cases h
    rfl
  · obtain ⟨_, -, h⟩ := bind_eq_ok.mp h
    obtain ⟨_, -, h⟩ := bind_eq_ok.mp h
    obtain ⟨_, -, h⟩ := bind_eq_ok.mp h
    cases h
    rfl
  · cases h
    rfl

theorem changeLiabilityShares_inv {bank bank' : Bank} {shares : I80F48} {bypass : Bool}
    (h : bank.changeLiabilityShares shares bypass = .ok bank') :
    ∃ total, bank.totalLiabilityShares.checkedAdd shares = some total ∧
      bank' = { bank with totalLiabilityShares := total } := by
  simp only [changeLiabilityShares, bind_eq_ok, math, fromOption_eq_ok] at h
  obtain ⟨total, htotal, h⟩ := h
  refine ⟨total, htotal, ?_⟩
  split_ifs at h with hlimited
  · obtain ⟨_, -, h⟩ := bind_eq_ok.mp h
    obtain ⟨_, -, h⟩ := bind_eq_ok.mp h
    cases h
    rfl
  · cases h
    rfl

/-- What does not depend on the counts of positions survives their adjustment. -/
theorem updatePositionCounts_induction {P : Bank → Prop} {bank : Bank} (before after : Balance)
    (hcounts : ∀ b m n, P b → P { b with lendingPositionCount := m, borrowingPositionCount := n })
    (h : P bank) : P (BankAccountWrapper.updatePositionCounts bank before after) := by
  have hif (c : Prop) [Decidable c] (f : Bank → Bank) (hf : ∀ b, P b → P (f b)) (b : Bank)
      (hb : P b) : P (if c then f b else b) := by
    split_ifs
    exacts [hf b hb, hb]
  unfold BankAccountWrapper.updatePositionCounts
  refine hif _ decrementBorrowingPositionCount (fun b hb => hcounts b _ _ hb) _ ?_
  refine hif _ incrementBorrowingPositionCount (fun b hb => hcounts b _ _ hb) _ ?_
  refine hif _ decrementLendingPositionCount (fun b hb => hcounts b _ _ hb) _ ?_
  exact hif _ incrementLendingPositionCount (fun b hb => hcounts b _ _ hb) _ h

theorem updatePositionCounts_pool (bank : Bank) (before after : Balance) :
    (BankAccountWrapper.updatePositionCounts bank before after).pool = bank.pool :=
  updatePositionCounts_induction (P := fun b => b.pool = bank.pool) before after
    (fun _ _ _ h => h) rfl

theorem SameTerms.updatePositionCounts {bank b : Bank} (h : bank.SameTerms b)
    (before after : Balance) :
    bank.SameTerms (BankAccountWrapper.updatePositionCounts b before after) :=
  updatePositionCounts_induction (P := bank.SameTerms) before after
    (fun _ _ _ h => ⟨h.config, h.group, h.mint, h.liquidityVault⟩) h

end Bank

/-- Emissions change neither the shares of a position nor the books of its bank. -/
theorem BankAccountWrapper.claimEmissions_books {w w' : BankAccountWrapper} {now : UInt64}
    (h : w.claimEmissions now = .ok w') :
    w'.balance.assetShares = w.balance.assetShares ∧
      w'.balance.liabilityShares = w.balance.liabilityShares ∧ w'.bank.pool = w.bank.pool ∧
      w.bank.SameTerms w'.bank := by
  simp only [claimEmissions, bind_eq_ok] at h
  obtain ⟨amount, -, v, hsettle, h⟩ := h
  cases h
  cases amount with
  | none =>
    cases hsettle
    exact ⟨rfl, rfl, rfl, .refl _⟩
  | some amount =>
    simp only [settleEmissions, addEmissions, bind_eq_ok] at hsettle
    obtain ⟨_, -, _, -, _, -, _, -, hsettle⟩ := hsettle
    cases hsettle
    exact ⟨rfl, rfl, rfl, ⟨rfl, rfl, rfl, rfl⟩⟩

/-! ### Amounts and shares -/

section Amounts

variable {bank : Bank} {x q : I80F48}

/-- The shares for an amount are worth no more than it, and one more share would be worth more. -/
theorem Bank.getAssetShares_floor (hx : 0 ≤ x) (hvalue : 0 ≤ bank.assetShareValue)
    (h : bank.getAssetShares x = .ok q) :
    0 ≤ q.bits ∧ q.bits * bank.assetShareValue.bits ≤ x.bits * 2 ^ 48 ∧
      (bank.assetShareValue.bits = 0 → q.bits = 0) ∧
      (0 < bank.assetShareValue.bits →
        x.bits * 2 ^ 48 < (q.bits + 1) * bank.assetShareValue.bits) := by
  unfold getAssetShares at h
  split_ifs at h with hzero
  · cases h
    have hzero' : bank.assetShareValue.bits = 0 := congrArg FixedPoint.bits hzero
    refine ⟨le_rfl, ?_, fun _ => rfl, fun hpos => ?_⟩
    · rw [hzero', mul_zero]
      exact mul_nonneg hx (by positivity)
    · omega
  · rw [math, fromOption_eq_ok] at h
    obtain ⟨hpos, hle, hlt⟩ := FixedPoint.checkedDiv_floor hx hvalue h
    exact ⟨FixedPoint.checkedDiv_nonneg hx hvalue h, hle, fun hzero' => by omega, fun _ => hlt⟩

theorem Bank.getLiabilityShares_floor {b : Bank} (hx : 0 ≤ x) (hvalue : 0 < b.liabilityShareValue)
    (h : b.getLiabilityShares x = .ok q) :
    0 ≤ q.bits ∧ q.bits * b.liabilityShareValue.bits ≤ x.bits * 2 ^ 48 ∧
      x.bits * 2 ^ 48 < (q.bits + 1) * b.liabilityShareValue.bits := by
  rw [getLiabilityShares, math, fromOption_eq_ok] at h
  obtain ⟨-, hle, hlt⟩ := FixedPoint.checkedDiv_floor hx hvalue.le h
  exact ⟨FixedPoint.checkedDiv_nonneg hx hvalue.le h, hle, hlt⟩

/-- The shares for a part of what a number of shares is worth are no more than these. -/
theorem shares_le_of_worth {q value x s : ℤ} (hvalue : 0 < value)
    (hq : q * value ≤ x * 2 ^ 48) (hx : x ≤ s * value / 2 ^ 48) : q ≤ s := by
  have hworth : x * 2 ^ 48 ≤ s * value := Int.mul_le_of_le_ediv (by positivity) hx
  exact le_of_mul_le_mul_right (hq.trans hworth) hvalue

end Amounts

/-! ### Increases and decreases -/

namespace BankAccountWrapper

/-- Neither shares nor share values are negative, and debts are worth something. -/
structure Sound (w : BankAccountWrapper) : Prop where
  assetShares : 0 ≤ w.balance.assetShares
  liabilityShares : 0 ≤ w.balance.liabilityShares
  assetShareValue : 0 ≤ w.bank.assetShareValue
  liabilityShareValue : 0 < w.bank.liabilityShareValue

section Amounts

variable {w w' : BankAccountWrapper} {delta : I80F48} {clock : Clock}

/-- An amount is split into the part that meets what is there and the rest. -/
theorem split_bits {x delta excess : I80F48} (hexcess : delta.checkedSub x = some excess) :
    (min x delta).bits + (max excess 0).bits = delta.bits := by
  have hbits := FixedPoint.checkedSub_eq_some.mp hexcess
  rcases le_total x delta with hle | hle
  · have hle' : x.bits ≤ delta.bits := hle
    have hex : (0 : I80F48) ≤ excess := by
      show 0 ≤ excess.bits
      omega
    rw [max_eq_left hex, min_eq_left hle]
    omega
  · have hle' : delta.bits ≤ x.bits := hle
    have hex : excess ≤ (0 : I80F48) := by
      show excess.bits ≤ 0
      omega
    rw [max_eq_right hex, min_eq_right hle, FixedPoint.bits_zero, add_zero]

/-- An increase by an amount takes back liability shares and issues asset shares that together are
worth no more than the amount. -/
theorem increaseBalanceInternal_issues {op : BalanceIncreaseType}
    (h : w.increaseBalanceInternal delta op clock = .ok w') (hw : w.Sound) (hdelta : 0 ≤ delta) :
    ∃ assets liabs : ℤ, 0 ≤ assets ∧ 0 ≤ liabs ∧ liabs ≤ w.balance.liabilityShares.bits ∧
      w.balance.Gains assets (-liabs) w'.balance ∧
      w.bank.pool.Issues assets (-liabs) w'.bank.pool ∧ w.bank.SameTerms w'.bank ∧
      assets * w.bank.assetShareValue.bits + liabs * w.bank.liabilityShareValue.bits ≤
        delta.bits * 2 ^ 48 := by
  simp only [increaseBalanceInternal, bind_eq_ok] at h
  obtain ⟨v, hclaim, owed, howed, excess, hexcess, _, -, a, ha, b1, hb1, bank1, hbank1, l, hl, n,
    hn, b2, hb2, bank2, hbank2, h⟩ := h
  cases h
  obtain ⟨hassets, hliabs, hpool, hterms⟩ := claimEmissions_books hclaim
  have hasv : v.bank.assetShareValue = w.bank.assetShareValue :=
    congrArg Pool.assetShareValue hpool
  have hlsv : v.bank.liabilityShareValue = w.bank.liabilityShareValue :=
    congrArg Pool.liabilityShareValue hpool
  obtain ⟨ta, hta, rfl⟩ := Bank.changeAssetShares_inv hbank1
  obtain ⟨tl, htl, rfl⟩ := Bank.changeLiabilityShares_inv hbank2
  simp only [Balance.changeAssetShares, Balance.changeLiabilityShares, Bank.getLiabilityAmount,
    bind_eq_ok, math, orPanic, fromOption_eq_ok] at howed hexcess hb1 hb2 hn
  obtain ⟨sa, hsa, h⟩ := hb1
  cases h
  obtain ⟨sl, hsl, h⟩ := hb2
  cases h
  have howed0 : 0 ≤ owed := by
    refine FixedPoint.checkedMul_nonneg ?_ ?_ howed
    · rw [hliabs]
      exact hw.liabilityShares
    · rw [hlsv]
      exact hw.liabilityShareValue.le
  obtain ⟨ha0, haworth, -⟩ := Bank.getAssetShares_floor (le_max_right excess 0)
    (hasv ▸ hw.assetShareValue) ha
  obtain ⟨hl0, hlworth, -⟩ := Bank.getLiabilityShares_floor (b := { v.bank with
    totalAssetShares := ta }) (le_min howed0 hdelta) (hlsv ▸ hw.liabilityShareValue) hl
  rw [hasv] at haworth
  have hlworth' : l.bits * w.bank.liabilityShareValue.bits ≤ (min owed delta).bits * 2 ^ 48 := by
    rw [← hlsv]
    exact hlworth
  have hsplit := split_bits hexcess
  refine ⟨a.bits, l.bits, ha0, hl0, ?_, ⟨?_, ?_⟩, ?_, ?_, ?_⟩
  · refine shares_le_of_worth hw.liabilityShareValue hlworth' ?_
    rw [← hliabs, ← hlsv, ← FixedPoint.checkedMul_bits howed]
    exact min_le_left owed delta
  · rw [← hassets]
    exact FixedPoint.checkedAdd_eq_some.mp hsa
  · rw [← hliabs, ← FixedPoint.checkedNeg_eq_some.mp hn]
    exact FixedPoint.checkedAdd_eq_some.mp hsl
  · rw [Bank.updatePositionCounts_pool, ← hpool, ← FixedPoint.checkedNeg_eq_some.mp hn]
    exact ⟨FixedPoint.checkedAdd_eq_some.mp hta, FixedPoint.checkedAdd_eq_some.mp htl, rfl, rfl,
      rfl, rfl, rfl⟩
  · refine Bank.SameTerms.updatePositionCounts ?_ _ _
    exact ⟨hterms.config, hterms.group, hterms.mint, hterms.liquidityVault⟩
  · nlinarith

/-- A decrease by an amount takes back asset shares and issues liability shares that together are
worth the amount, up to one step of each. -/
theorem decreaseBalanceInternal_issues {op : BalanceDecreaseType}
    (h : w.decreaseBalanceInternal delta op clock = .ok w') (hw : w.Sound) (hdelta : 0 ≤ delta) :
    ∃ assets liabs : ℤ, 0 ≤ assets ∧ 0 ≤ liabs ∧ assets ≤ w.balance.assetShares.bits ∧
      w.balance.Gains (-assets) liabs w'.balance ∧
      w.bank.pool.Issues (-assets) liabs w'.bank.pool ∧ w.bank.SameTerms w'.bank ∧
      delta.bits * 2 ^ 48 ≤ (assets + 1) * w.bank.assetShareValue.bits +
        (liabs + 1) * w.bank.liabilityShareValue.bits := by
  simp only [decreaseBalanceInternal, bind_eq_ok] at h
  obtain ⟨v, hclaim, held, hheld, excess, hexcess, _, -, a, ha, n, hn, b1, hb1, bank1, hbank1, l,
    hl, b2, hb2, bank2, hbank2, _, -, h⟩ := h
  cases h
  obtain ⟨hassets, hliabs, hpool, hterms⟩ := claimEmissions_books hclaim
  have hasv : v.bank.assetShareValue = w.bank.assetShareValue :=
    congrArg Pool.assetShareValue hpool
  have hlsv : v.bank.liabilityShareValue = w.bank.liabilityShareValue :=
    congrArg Pool.liabilityShareValue hpool
  obtain ⟨ta, hta, rfl⟩ := Bank.changeAssetShares_inv hbank1
  obtain ⟨tl, htl, rfl⟩ := Bank.changeLiabilityShares_inv hbank2
  simp only [Balance.changeAssetShares, Balance.changeLiabilityShares, Bank.getAssetAmount,
    bind_eq_ok, math, orPanic, fromOption_eq_ok] at hheld hexcess hb1 hb2 hn
  obtain ⟨sa, hsa, h⟩ := hb1
  cases h
  obtain ⟨sl, hsl, h⟩ := hb2
  cases h
  rw [hassets, hasv] at hheld
  have hheld0 := FixedPoint.checkedMul_nonneg hw.assetShares hw.assetShareValue hheld
  have hworth := FixedPoint.checkedMul_bits hheld
  obtain ⟨ha0, haworth, hazero, halt⟩ := Bank.getAssetShares_floor (le_min hheld0 hdelta)
    (hasv ▸ hw.assetShareValue) ha
  obtain ⟨hl0, -, hllt⟩ := Bank.getLiabilityShares_floor (b := { v.bank with
    totalAssetShares := ta }) (le_max_right excess 0) (hlsv ▸ hw.liabilityShareValue) hl
  rw [hasv] at haworth hazero halt
  have hllt' : (max excess 0).bits * 2 ^ 48 < (l.bits + 1) * w.bank.liabilityShareValue.bits := by
    rw [← hlsv]
    exact hllt
  have hsplit := split_bits hexcess
  have hmin : (min held delta).bits ≤ held.bits := min_le_left held delta
  have hvalue : 0 ≤ w.bank.assetShareValue.bits := hw.assetShareValue
  have hshares : a.bits ≤ w.balance.assetShares.bits ∧
      (min held delta).bits * 2 ^ 48 ≤ (a.bits + 1) * w.bank.assetShareValue.bits := by
    rcases hvalue.eq_or_lt with hzero | hpos
    · -- worthless shares pay nothing
      rw [← hzero, mul_zero, Int.zero_ediv] at hworth
      have hnone : (min held delta).bits ≤ 0 := hworth ▸ hmin
      rw [hazero hzero.symm, ← hzero, mul_zero]
      exact ⟨hw.assetShares, by omega⟩
    · exact ⟨shares_le_of_worth hpos haworth (hworth ▸ hmin), (halt hpos).le⟩
  refine ⟨a.bits, l.bits, ha0, hl0, hshares.1, ⟨?_, ?_⟩, ?_, ?_, ?_⟩
  · rw [← hassets, ← FixedPoint.checkedNeg_eq_some.mp hn]
    exact FixedPoint.checkedAdd_eq_some.mp hsa
  · rw [← hliabs]
    exact FixedPoint.checkedAdd_eq_some.mp hsl
  · rw [Bank.updatePositionCounts_pool, ← hpool, ← FixedPoint.checkedNeg_eq_some.mp hn]
    exact ⟨FixedPoint.checkedAdd_eq_some.mp hta, FixedPoint.checkedAdd_eq_some.mp htl, rfl, rfl,
      rfl, rfl, rfl⟩
  · refine Bank.SameTerms.updatePositionCounts ?_ _ _
    exact ⟨hterms.config, hterms.group, hterms.mint, hterms.liquidityVault⟩
  · have hparts := hshares.2
    nlinarith

end Amounts

/-! ### Entries -/

/-- A position in a slot is changed or closed, without taking more shares than its bank issues. -/
structure Entry (w w' : BankAccountWrapper) : Prop where
  slot : w'.slot = w.slot
  held : w'.balance.held = w.balance.held ∨ w'.balance = .emptyDeactivated
  nonneg : ∀ side, 0 ≤ w'.balance.shares side
  covered : ∀ side, (w'.balance.shares side).bits - (w.balance.shares side).bits ≤
    (w'.bank.totalShares side).bits - (w.bank.totalShares side).bits
  assetShareValue : w'.bank.assetShareValue = w.bank.assetShareValue
  liabilityShareValue : w'.bank.liabilityShareValue = w.bank.liabilityShareValue
  terms : w.bank.SameTerms w'.bank

section Entries

variable {w w' : BankAccountWrapper} {delta : I80F48} {clock : Clock} {amount : UInt64}

/-- What is issued to a position is issued by its bank. -/
theorem Entry.of_issues {assets liabs : ℤ} (hkeep : w.Keeps w')
    (hgains : w.balance.Gains assets liabs w'.balance)
    (hissues : w.bank.pool.Issues assets liabs w'.bank.pool) (hterms : w.bank.SameTerms w'.bank)
    (hassets : 0 ≤ w.balance.assetShares.bits + assets)
    (hliabs : 0 ≤ w.balance.liabilityShares.bits + liabs) : w.Entry w' where
  slot := hkeep.1
  held := .inl hkeep.2.held_eq
  nonneg side := by
    cases side with
    | assets =>
      show 0 ≤ w'.balance.assetShares.bits
      rw [hgains.assetShares]
      exact hassets
    | liabilities =>
      show 0 ≤ w'.balance.liabilityShares.bits
      rw [hgains.liabilityShares]
      exact hliabs
  covered side := by
    cases side with
    | assets =>
      have h1 := hgains.assetShares
      have h2 : w'.bank.totalAssetShares.bits = w.bank.totalAssetShares.bits + assets :=
        hissues.assetShares
      simp only [Balance.shares, Bank.totalShares]
      omega
    | liabilities =>
      have h1 := hgains.liabilityShares
      have h2 : w'.bank.totalLiabilityShares.bits = w.bank.totalLiabilityShares.bits + liabs :=
        hissues.liabilityShares
      simp only [Balance.shares, Bank.totalShares]
      omega
  assetShareValue := hissues.assetShareValue
  liabilityShareValue := hissues.liabilityShareValue
  terms := hterms

theorem increaseBalanceInternal_entry {op : BalanceIncreaseType}
    (h : w.increaseBalanceInternal delta op clock = .ok w') (hw : w.Sound) (hdelta : 0 ≤ delta) :
    w.Entry w' := by
  obtain ⟨assets, liabs, hassets, -, hle, hgains, hissues, hterms, -⟩ :=
    increaseBalanceInternal_issues h hw hdelta
  have hshares : 0 ≤ w.balance.assetShares.bits := hw.assetShares
  exact .of_issues (increaseBalanceInternal_keeps h) hgains hissues hterms (by omega) (by omega)

theorem decreaseBalanceInternal_entry {op : BalanceDecreaseType}
    (h : w.decreaseBalanceInternal delta op clock = .ok w') (hw : w.Sound) (hdelta : 0 ≤ delta) :
    w.Entry w' := by
  obtain ⟨assets, liabs, -, hliabs, hle, hgains, hissues, hterms, -⟩ :=
    decreaseBalanceInternal_issues h hw hdelta
  have hshares : 0 ≤ w.balance.liabilityShares.bits := hw.liabilityShares
  exact .of_issues (decreaseBalanceInternal_keeps h) hgains hissues hterms (by omega) (by omega)

/-- A position is closed, and its bank takes back no more than the shares that it had. -/
theorem Entry.of_closed (hslot : w'.slot = w.slot) (hclosed : w'.balance = .emptyDeactivated)
    (hassets : w.bank.totalAssetShares.bits - w.balance.assetShares.bits ≤
      w'.bank.totalAssetShares.bits)
    (hliabs : w.bank.totalLiabilityShares.bits - w.balance.liabilityShares.bits ≤
      w'.bank.totalLiabilityShares.bits)
    (hasv : w'.bank.assetShareValue = w.bank.assetShareValue)
    (hlsv : w'.bank.liabilityShareValue = w.bank.liabilityShareValue)
    (hterms : w.bank.SameTerms w'.bank) : w.Entry w' where
  slot := hslot
  held := .inr hclosed
  nonneg side := by
    rw [hclosed]
    cases side <;> exact le_rfl
  covered side := by
    rw [hclosed]
    cases side with
    | assets =>
      show (0 : ℤ) - w.balance.assetShares.bits ≤ w'.bank.totalAssetShares.bits - _
      simp only [Bank.totalShares]
      omega
    | liabilities =>
      show (0 : ℤ) - w.balance.liabilityShares.bits ≤ w'.bank.totalLiabilityShares.bits - _
      simp only [Bank.totalShares]
      omega
  assetShareValue := hasv
  liabilityShareValue := hlsv
  terms := hterms

/-- Repaying everything takes back the shares of the debt, and collects what the payment exceeds it
by. -/
theorem repayAll_books (h : w.repayAll clock = .ok (w', amount)) :
    ∃ owed whole total fees, w.balance.liabilityShares.checkedMul w.bank.liabilityShareValue =
        some owed ∧ owed.checkedCeil = some whole ∧ I80F48.toU64? whole = some amount ∧
      total.bits = w.bank.totalLiabilityShares.bits - w.balance.liabilityShares.bits ∧
      fees.bits = whole.bits - owed.bits + w.bank.collectedInsuranceFeesOutstanding.bits ∧
      w'.bank.pool = { w.bank.pool with liabilityShares := total, insuranceFees := fees } ∧
      w.bank.SameTerms w'.bank := by
  simp only [repayAll, bind_eq_ok, math, orPanic, fromOption_eq_ok, Bank.getLiabilityAmount] at h
  obtain ⟨v, hclaim, owed, howed, held, -, _, -, _, -, _, -, n, hn, bank, hbank, whole, hwhole,
    rounding, hrounding, fees, hfees, _, hamount, h⟩ := h
  cases h
  obtain ⟨-, hliabs, hpool, hterms⟩ := claimEmissions_books hclaim
  obtain ⟨total, htotal, rfl⟩ := Bank.changeLiabilityShares_inv hbank
  have htaken := FixedPoint.checkedAdd_eq_some.mp htotal
  have hcollected := FixedPoint.checkedAdd_eq_some.mp hfees
  have hlsv : v.bank.liabilityShareValue = w.bank.liabilityShareValue :=
    congrArg Pool.liabilityShareValue hpool
  have htotals : v.bank.totalLiabilityShares = w.bank.totalLiabilityShares :=
    congrArg Pool.liabilityShares hpool
  have hins : v.bank.collectedInsuranceFeesOutstanding = w.bank.collectedInsuranceFeesOutstanding :=
    congrArg Pool.insuranceFees hpool
  rw [hliabs, hlsv] at howed
  refine ⟨owed, whole, total, fees, howed, hwhole, hamount, ?_, ?_, by rw [← hpool]; rfl,
    ⟨hterms.config, hterms.group, hterms.mint, hterms.liquidityVault⟩⟩
  · rw [htaken, FixedPoint.checkedNeg_eq_some.mp hn, hliabs, ← htotals]
    rfl
  · rw [hcollected, FixedPoint.checkedSub_eq_some.mp hrounding, ← hins]
    rfl

/-- Withdrawing everything takes back the shares of the deposit, and collects what it exceeds the
payment by. -/
theorem withdrawAll_books (h : w.withdrawAll clock = .ok (w', amount)) :
    ∃ held whole total fees, w.balance.assetShares.checkedMul w.bank.assetShareValue = some held ∧
      held.checkedFloor = some whole ∧ I80F48.toU64? whole = some amount ∧
      total.bits = w.bank.totalAssetShares.bits - w.balance.assetShares.bits ∧
      fees.bits = held.bits - whole.bits + w.bank.collectedInsuranceFeesOutstanding.bits ∧
      w'.slot = w.slot ∧ w'.balance = .emptyDeactivated ∧
      w'.bank.pool = { w.bank.pool with assetShares := total, insuranceFees := fees } ∧
      w.bank.SameTerms w'.bank := by
  simp only [withdrawAll, bind_eq_ok, math, orPanic, fromOption_eq_ok, Bank.getAssetAmount] at h
  obtain ⟨v, hclaim, held, hheld, owed, -, _, -, _, -, b, hclose, n, hn, bank, hbank, _, -, whole,
    hwhole, rounding, hrounding, fees, hfees, _, hamount, h⟩ := h
  cases h
  obtain ⟨hassets, -, hpool, hterms⟩ := claimEmissions_books hclaim
  obtain ⟨total, htotal, rfl⟩ := Bank.changeAssetShares_inv hbank
  have htaken := FixedPoint.checkedAdd_eq_some.mp htotal
  have hcollected := FixedPoint.checkedAdd_eq_some.mp hfees
  have hasv : v.bank.assetShareValue = w.bank.assetShareValue :=
    congrArg Pool.assetShareValue hpool
  have htotals : v.bank.totalAssetShares = w.bank.totalAssetShares :=
    congrArg Pool.assetShares hpool
  have hins : v.bank.collectedInsuranceFeesOutstanding = w.bank.collectedInsuranceFeesOutstanding :=
    congrArg Pool.insuranceFees hpool
  rw [hassets, hasv] at hheld
  refine ⟨held, whole, total, fees, hheld, hwhole, hamount, ?_, ?_, (claimEmissions_keeps hclaim).1,
    Balance.close_eq_ok hclose, by rw [← hpool]; rfl,
    ⟨hterms.config, hterms.group, hterms.mint, hterms.liquidityVault⟩⟩
  · rw [htaken, FixedPoint.checkedNeg_eq_some.mp hn, hassets, ← htotals]
    rfl
  · rw [hcollected, FixedPoint.checkedSub_eq_some.mp hrounding, ← hins]
    rfl

theorem repayAll_entry (h : w.repayAll clock = .ok (w', amount)) (hw : w.Sound) : w.Entry w' := by
  obtain ⟨owed, whole, total, fees, -, -, -, htotal, -, hpool, hterms⟩ := repayAll_books h
  obtain ⟨hslot, hclosed⟩ := repayAll_closes h
  have hassets : w'.bank.totalAssetShares = w.bank.totalAssetShares :=
    congrArg Pool.assetShares hpool
  have hliabs : w'.bank.totalLiabilityShares = total := congrArg Pool.liabilityShares hpool
  have hshares : 0 ≤ w.balance.assetShares.bits := hw.assetShares
  refine .of_closed hslot hclosed ?_ ?_ (congrArg Pool.assetShareValue hpool)
    (congrArg Pool.liabilityShareValue hpool) hterms
  · rw [hassets]
    omega
  · rw [hliabs, htotal]

theorem withdrawAll_entry (h : w.withdrawAll clock = .ok (w', amount)) (hw : w.Sound) :
    w.Entry w' := by
  obtain ⟨held, whole, total, fees, -, -, -, htotal, -, hslot, hclosed, hpool, hterms⟩ :=
    withdrawAll_books h
  have hassets : w'.bank.totalAssetShares = total := congrArg Pool.assetShares hpool
  have hliabs : w'.bank.totalLiabilityShares = w.bank.totalLiabilityShares :=
    congrArg Pool.liabilityShares hpool
  have hshares : 0 ≤ w.balance.liabilityShares.bits := hw.liabilityShares
  refine .of_closed hslot hclosed ?_ ?_ (congrArg Pool.assetShareValue hpool)
    (congrArg Pool.liabilityShareValue hpool) hterms
  · rw [hassets, htotal]
  · rw [hliabs]
    omega

theorem closeBalance_books (h : w.closeBalance clock = .ok w') :
    w'.slot = w.slot ∧ w'.balance = .emptyDeactivated ∧ w'.bank.pool = w.bank.pool ∧
      w.bank.SameTerms w'.bank := by
  simp only [closeBalance, bind_eq_ok] at h
  obtain ⟨v, hclaim, _, -, _, -, _, -, _, -, b, hclose, h⟩ := h
  cases h
  obtain ⟨-, -, hpool, hterms⟩ := claimEmissions_books hclaim
  exact ⟨(claimEmissions_keeps hclaim).1, Balance.close_eq_ok hclose, hpool, hterms⟩

theorem closeBalance_entry (h : w.closeBalance clock = .ok w') (hw : w.Sound) : w.Entry w' := by
  obtain ⟨hslot, hclosed, hpool, hterms⟩ := closeBalance_books h
  have hassets : w'.bank.totalAssetShares = w.bank.totalAssetShares :=
    congrArg Pool.assetShares hpool
  have hliabs : w'.bank.totalLiabilityShares = w.bank.totalLiabilityShares :=
    congrArg Pool.liabilityShares hpool
  have hshares : 0 ≤ w.balance.assetShares.bits := hw.assetShares
  have hdebts : 0 ≤ w.balance.liabilityShares.bits := hw.liabilityShares
  refine .of_closed hslot hclosed ?_ ?_ (congrArg Pool.assetShareValue hpool)
    (congrArg Pool.liabilityShareValue hpool) hterms
  · rw [hassets]
    omega
  · rw [hliabs]
    omega

/-- A purge takes back the shares of the deposit. -/
theorem purge_books (h : w.purge = .ok w') :
    ∃ total, total.bits = w.bank.totalAssetShares.bits - w.balance.assetShares.bits ∧
      w'.slot = w.slot ∧ w'.balance = .emptyDeactivated ∧
      w'.bank.pool = { w.bank.pool with assetShares := total } ∧ w.bank.SameTerms w'.bank := by
  simp only [purge, bind_eq_ok, orPanic, fromOption_eq_ok] at h
  obtain ⟨_, -, _, -, b, hclose, n, hn, bank, hbank, h⟩ := h
  cases h
  obtain ⟨total, htotal, rfl⟩ := Bank.changeAssetShares_inv hbank
  refine ⟨total, ?_, rfl, Balance.close_eq_ok hclose, rfl, ⟨rfl, rfl, rfl, rfl⟩⟩
  rw [FixedPoint.checkedAdd_eq_some.mp htotal, FixedPoint.checkedNeg_eq_some.mp hn]
  rfl

theorem purge_entry (h : w.purge = .ok w') (hw : w.Sound) : w.Entry w' := by
  obtain ⟨total, htotal, hslot, hclosed, hpool, hterms⟩ := purge_books h
  have hassets : w'.bank.totalAssetShares = total := congrArg Pool.assetShares hpool
  have hliabs : w'.bank.totalLiabilityShares = w.bank.totalLiabilityShares :=
    congrArg Pool.liabilityShares hpool
  have hdebts : 0 ≤ w.balance.liabilityShares.bits := hw.liabilityShares
  refine .of_closed hslot hclosed ?_ ?_ (congrArg Pool.assetShareValue hpool)
    (congrArg Pool.liabilityShareValue hpool) hterms
  · rw [hassets, htotal]
  · rw [hliabs]
    omega

end Entries

end BankAccountWrapper

/-! ### What a bank is worth -/

namespace Pool

/-- What a bank is owed less what it owes. -/
def net (pool : Pool) : ℚ := pool.debts - pool.claims

/-- Issued asset shares are owed by the bank, issued liability shares are owed to it. -/
theorem Issues.net_eq {pool pool' : Pool} {assets liabs : ℤ} (h : pool.Issues assets liabs pool') :
    pool'.net = pool.net + (liabs * pool.liabilityShareValue.bits * ulp 48 -
      assets * pool.assetShareValue.bits * ulp 48) * ulp 48 := by
  unfold net debts claims
  rw [h.assetShareValue, h.liabilityShareValue, h.groupFees, h.insuranceFees, h.programFees]
  simp only [FixedPoint.val_eq, h.assetShares, h.liabilityShares]
  push_cast
  ring

end Pool

theorem two_pow_mul_ulp : (2 : ℚ) ^ 48 * ulp 48 = 1 := by
  rw [ulp]
  exact mul_one_div_cancel (by positivity)

namespace BankAccountWrapper

variable {w w' : BankAccountWrapper} {delta : I80F48} {clock : Clock} {amount : UInt64}

/-- An increase costs the bank no more than its amount. -/
theorem increaseBalanceInternal_net {op : BalanceIncreaseType}
    (h : w.increaseBalanceInternal delta op clock = .ok w') (hw : w.Sound) (hdelta : 0 ≤ delta) :
    w.bank.pool.net - delta.val ≤ w'.bank.pool.net := by
  obtain ⟨assets, liabs, -, -, -, -, hissues, -, hworth⟩ :=
    increaseBalanceInternal_issues h hw hdelta
  have hcast :
    (assets : ℚ) * w.bank.assetShareValue.bits + liabs * w.bank.liabilityShareValue.bits ≤
      delta.bits * 2 ^ 48 := by exact_mod_cast hworth
  have hscaled := mul_le_mul_of_nonneg_right
    (mul_le_mul_of_nonneg_right hcast (FixedPoint.ulp_pos 48).le) (FixedPoint.ulp_pos 48).le
  rw [mul_assoc (delta.bits : ℚ), two_pow_mul_ulp, mul_one, ← FixedPoint.val_eq] at hscaled
  rw [hissues.net_eq]
  show _ ≤ w.bank.pool.net + (((-liabs : ℤ) : ℚ) * w.bank.liabilityShareValue.bits * ulp 48 -
    assets * w.bank.assetShareValue.bits * ulp 48) * ulp 48
  push_cast
  linarith

/-- A decrease gains the bank its amount, up to one step of each share value. -/
theorem decreaseBalanceInternal_net {op : BalanceDecreaseType}
    (h : w.decreaseBalanceInternal delta op clock = .ok w') (hw : w.Sound) (hdelta : 0 ≤ delta) :
    w.bank.pool.net + delta.val ≤ w'.bank.pool.net +
      (w.bank.assetShareValue.val + w.bank.liabilityShareValue.val) * ulp 48 := by
  obtain ⟨assets, liabs, -, -, -, -, hissues, -, hworth⟩ :=
    decreaseBalanceInternal_issues h hw hdelta
  have hcast : (delta.bits : ℚ) * 2 ^ 48 ≤ (assets + 1) * w.bank.assetShareValue.bits +
      (liabs + 1) * w.bank.liabilityShareValue.bits := by exact_mod_cast hworth
  have hscaled := mul_le_mul_of_nonneg_right
    (mul_le_mul_of_nonneg_right hcast (FixedPoint.ulp_pos 48).le) (FixedPoint.ulp_pos 48).le
  rw [mul_assoc (delta.bits : ℚ), two_pow_mul_ulp, mul_one, ← FixedPoint.val_eq] at hscaled
  rw [hissues.net_eq]
  show _ ≤ w.bank.pool.net + ((liabs : ℚ) * w.bank.liabilityShareValue.bits * ulp 48 -
    ((-assets : ℤ) : ℚ) * w.bank.assetShareValue.bits * ulp 48) * ulp 48 + _
  rw [FixedPoint.val_eq w.bank.assetShareValue, FixedPoint.val_eq w.bank.liabilityShareValue]
  push_cast
  linarith

theorem toU64?_val {x : I80F48} {n : UInt64} (h : I80F48.toU64? x = some n) {z : ℤ}
    (hx : x.bits = z * 2 ^ 48) : x.val = n.toNat := by
  obtain ⟨k, hk, rfl⟩ := Option.map_eq_some_iff.mp h
  obtain ⟨hfloor, hlt⟩ := FixedPoint.toNat?_eq_some.mp hk
  rw [FixedPoint.floor_of_bits hx] at hfloor
  rw [UInt64.toNat_ofNat_of_lt' hlt, FixedPoint.val, hx, hfloor]
  push_cast
  exact mul_div_cancel_right₀ _ (by positivity)

/-- A repaid debt costs the bank no more than what is paid for it, up to one step. -/
theorem repayAll_net (h : w.repayAll clock = .ok (w', amount)) :
    w.bank.pool.net - amount.toNat ≤ w'.bank.pool.net + ulp 48 := by
  obtain ⟨owed, whole, total, fees, howed, hwhole, hamount, htotal, hfees, hpool, -⟩ :=
    repayAll_books h
  have hpaid := toU64?_val hamount (FixedPoint.checkedCeil_bits hwhole)
  have hdebt := FixedPoint.lt_val_mul howed
  have htotal' : total.val = w.bank.totalLiabilityShares.val - w.balance.liabilityShares.val := by
    rw [FixedPoint.val_eq, htotal]
    push_cast
    rw [sub_mul, ← FixedPoint.val_eq, ← FixedPoint.val_eq]
  have hfees' : fees.val = whole.val - owed.val + w.bank.collectedInsuranceFeesOutstanding.val := by
    rw [FixedPoint.val_eq, hfees]
    push_cast
    rw [add_mul, sub_mul, ← FixedPoint.val_eq, ← FixedPoint.val_eq, ← FixedPoint.val_eq]
  rw [hpool]
  simp only [Pool.net, Pool.debts, Pool.claims, Bank.pool, htotal', hfees', hpaid]
  linarith

/-- A withdrawn deposit gains the bank what is paid out. -/
theorem withdrawAll_net (h : w.withdrawAll clock = .ok (w', amount)) :
    w.bank.pool.net + amount.toNat ≤ w'.bank.pool.net := by
  obtain ⟨held, whole, total, fees, hheld, hwhole, hamount, htotal, hfees, -, -, hpool, -⟩ :=
    withdrawAll_books h
  have hpaid := toU64?_val hamount (FixedPoint.ofBits?_eq_some.mp hwhole)
  have hworth := FixedPoint.val_mul_le hheld
  have htotal' : total.val = w.bank.totalAssetShares.val - w.balance.assetShares.val := by
    rw [FixedPoint.val_eq, htotal]
    push_cast
    rw [sub_mul, ← FixedPoint.val_eq, ← FixedPoint.val_eq]
  have hfees' : fees.val = held.val - whole.val + w.bank.collectedInsuranceFeesOutstanding.val := by
    rw [FixedPoint.val_eq, hfees]
    push_cast
    rw [add_mul, sub_mul, ← FixedPoint.val_eq, ← FixedPoint.val_eq, ← FixedPoint.val_eq]
  rw [hpool]
  simp only [Pool.net, Pool.debts, Pool.claims, Bank.pool, htotal', hfees', hpaid]
  linarith

end BankAccountWrapper

end Marginfi
