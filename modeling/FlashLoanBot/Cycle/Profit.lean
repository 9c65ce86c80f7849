import FlashLoanBot.Bot.Program

/-!
# Profit and loss of a cycle

A cycle borrows USDC, swaps it for WSOL and back, and repays, on two token accounts of the
signer.  The exchanges and marginfi are parameters, described by what they do to these
accounts and to the debt.

* `Plan`: the four calls of a cycle on the same two accounts;
* `Venue`, `Venue.Lawful`: the programs behind the calls, and what is assumed of them;
* `Venue.exec_gain`: what each step adds to the signer's holdings;
* `Plan.holdings_run`: what a whole cycle adds;
* `Plan.noLoss_iff_covered`: a cycle that succeeds makes no loss exactly when the prices cover
  the costs;
* `Plan.noLoss_of_guarded`: which slippage bounds are enough for that.
-/

namespace FlashLoanBot

open Solana Checked

/-! ### Plans and venues -/

/-- The calls of a cycle: the accounts and amounts of the four handlers, on one USDC account and
one WSOL account. -/
structure Plan where
  borrow : MarginfiBorrow
  raydium : ProxyRaydium
  orca : ProxyOrca
  repay : MarginfiRepay
  loan : UInt64
  raydiumIn : UInt64
  raydiumOutMin : UInt64
  orcaIn : UInt64
  orcaOutMin : UInt64
  repayment : UInt64
  repayAll : Bool
  usdc : Pubkey
  wsol : Pubkey
  borrow_usdc : borrow.destinationTokenAccount = usdc
  raydium_usdc : raydium.userTokenAccount = usdc
  raydium_wsol : raydium.destinationTokenAccount = wsol
  orca_wsol : orca.tokenOwnerAccountA = wsol
  orca_usdc : orca.tokenOwnerAccountB = usdc
  repay_usdc : repay.signerTokenAccount = usdc

/-- What an exchange takes and gives when an amount is offered to it. -/
structure Quote where
  taken : ℕ
  given : ℕ

/-- The chain, with the two instructions that open and close the flash loan, the signer's USDC
debt, and the prices: the fee on a loan, what a repayment costs beyond the debt that it
clears, and the quotes of the two pools. -/
structure Venue (σ : Type) where
  rt : Runtime σ
  openLoan : σ → Result σ
  closeLoan : σ → Result σ
  debt : σ → ℚ
  fee : UInt64 → ℚ
  rounding : ℚ
  raydium : UInt64 → Quote
  orca : UInt64 → Quote

/-- The balance of a token account, `0` for an account that cannot be read. -/
def tokens {σ : Type} (rt : Runtime σ) (s : σ) (key : Pubkey) : ℕ :=
  match rt.amount s key with
  | .ok amount => amount.toNat
  | .error _ => 0

theorem tokens_of_amount {σ : Type} {rt : Runtime σ} {s : σ} {key : Pubkey} {amount : UInt64}
    (h : rt.amount s key = .ok amount) : tokens rt s key = amount.toNat := by
  simp [tokens, h]

section Cycle

variable {σ : Type} (v : Venue σ) (p : Plan)

/-- The signer's USDC after debts, and the signer's WSOL. -/
def Plan.holdings (s : σ) : ℚ × ℚ :=
  (tokens v.rt s p.usdc - v.debt s, tokens v.rt s p.wsol)

/-! ### Steps -/

/-- A step of the transaction. -/
inductive CycleStep
  | openLoan
  | call (c : Call)
  | closeLoan
  deriving DecidableEq

/-- The six steps, in order. -/
def Plan.steps : List CycleStep :=
  [.openLoan,
    .call (.marginfiBorrow p.borrow p.loan),
    .call (.proxyRaydium p.raydium p.raydiumIn p.raydiumOutMin),
    .call (.proxyOrca p.orca p.orcaIn p.orcaOutMin),
    .call (.marginfiRepay p.repay p.repayment p.repayAll),
    .closeLoan]

/-- Execute a step. -/
def Venue.exec (s : σ) : CycleStep → Result σ
  | .openLoan => v.openLoan s
  | .call c => c.run v.rt s
  | .closeLoan => v.closeLoan s

/-- Execute the cycle. -/
def Plan.run (s : σ) : Result σ := runAll v.exec s p.steps

/-- What a step adds to the holdings. -/
def Venue.gain : CycleStep → ℚ × ℚ
  | .call (.marginfiBorrow _ amount) => (-v.fee amount, 0)
  | .call (.proxyRaydium _ amountIn _) =>
      (-(v.raydium amountIn).taken, (v.raydium amountIn).given)
  | .call (.proxyOrca _ amountIn _) => ((v.orca amountIn).given, -(v.orca amountIn).taken)
  | .call (.marginfiRepay _ _ _) => (-v.rounding, 0)
  | _ => 0

/-! ### What is assumed -/

/-- The state in which a cycle from `s` comes to a step. -/
def Plan.At (s : σ) (a : CycleStep) (t : σ) : Prop := ReachedAt v.exec s p.steps a t

/-- What is assumed of the programs behind the calls, for the cycle from `s`: opening and closing
move nothing, the borrow credits the loan and adds it to the debt with the fee, the pools trade as
quoted and take no more than was offered, and the repayment is paid from the wallet. -/
structure Venue.Lawful (s : σ) : Prop where
  openLoan : ∀ t t', p.At v s .openLoan t → v.openLoan t = .ok t' →
    p.holdings v t' = p.holdings v t
  borrow : ∀ t t', p.At v s (.call (.marginfiBorrow p.borrow p.loan)) t →
    v.rt.invoke (marginfiBorrowIx p.borrow p.loan) t = .ok t' →
    tokens v.rt t' p.usdc = tokens v.rt t p.usdc + p.loan.toNat ∧
      tokens v.rt t' p.wsol = tokens v.rt t p.wsol ∧
      v.debt t' = v.debt t + p.loan.toNat + v.fee p.loan
  raydium : ∀ t t', p.At v s (.call (.proxyRaydium p.raydium p.raydiumIn p.raydiumOutMin)) t →
    v.rt.invoke (proxyRaydiumIx p.raydium p.raydiumIn p.raydiumOutMin) t = .ok t' →
    tokens v.rt t' p.usdc + (v.raydium p.raydiumIn).taken = tokens v.rt t p.usdc ∧
      tokens v.rt t' p.wsol = tokens v.rt t p.wsol + (v.raydium p.raydiumIn).given ∧
      v.debt t' = v.debt t
  orca : ∀ t t', p.At v s (.call (.proxyOrca p.orca p.orcaIn p.orcaOutMin)) t →
    v.rt.invoke (proxyOrcaIx p.orca p.orcaIn p.orcaOutMin) t = .ok t' →
    tokens v.rt t' p.wsol + (v.orca p.orcaIn).taken = tokens v.rt t p.wsol ∧
      tokens v.rt t' p.usdc = tokens v.rt t p.usdc + (v.orca p.orcaIn).given ∧
      v.debt t' = v.debt t
  repay : ∀ t t', p.At v s (.call (.marginfiRepay p.repay p.repayment p.repayAll)) t →
    v.rt.invoke (marginfiRepayIx p.repay p.repayment p.repayAll) t = .ok t' →
    ∃ paid : ℕ, tokens v.rt t' p.usdc + paid = tokens v.rt t p.usdc ∧
      tokens v.rt t' p.wsol = tokens v.rt t p.wsol ∧
      v.debt t' = v.debt t - (paid - v.rounding)
  closeLoan : ∀ t t', p.At v s .closeLoan t → v.closeLoan t = .ok t' →
    p.holdings v t' = p.holdings v t
  raydium_taken_le : (v.raydium p.raydiumIn).taken ≤ p.raydiumIn.toNat
  orca_taken_le : (v.orca p.orcaIn).taken ≤ p.orcaIn.toNat

variable {v p} {s s' : σ}

/-- **Every step adds its gain to the holdings.** -/
theorem Venue.exec_gain (hlaw : v.Lawful p s) {a : CycleStep} {t t' : σ} (hat : p.At v s a t)
    (h : v.exec t a = .ok t') : p.holdings v t' = p.holdings v t + v.gain a := by
  have ha : a ∈ p.steps := hat.mem
  simp only [Plan.steps, List.mem_cons, List.not_mem_nil, or_false] at ha
  rcases ha with rfl | rfl | rfl | rfl | rfl | rfl
  · simpa [gain] using hlaw.openLoan t t' hat h
  · obtain ⟨husdc, hwsol, hdebt⟩ := hlaw.borrow t t' hat h
    simp only [Plan.holdings, gain, husdc, hwsol, hdebt, Prod.mk_add_mk, Prod.mk.injEq]
    push_cast
    constructor <;> ring
  · obtain ⟨_, _, -, hinvoke, -⟩ := (measuredSwap_eq_ok v.rt).mp h
    obtain ⟨husdc, hwsol, hdebt⟩ := hlaw.raydium t t' hat hinvoke
    simp only [Plan.holdings, gain, ← husdc, hwsol, hdebt, Prod.mk_add_mk, Prod.mk.injEq]
    push_cast
    constructor <;> ring
  · obtain ⟨_, _, -, hinvoke, -⟩ := (measuredSwap_eq_ok v.rt).mp h
    obtain ⟨hwsol, husdc, hdebt⟩ := hlaw.orca t t' hat hinvoke
    simp only [Plan.holdings, gain, husdc, ← hwsol, hdebt, Prod.mk_add_mk, Prod.mk.injEq]
    push_cast
    constructor <;> ring
  · obtain ⟨paid, husdc, hwsol, hdebt⟩ := hlaw.repay t t' hat h
    simp only [Plan.holdings, gain, ← husdc, hwsol, hdebt, Prod.mk_add_mk, Prod.mk.injEq]
    push_cast
    constructor <;> ring
  · simpa [gain] using hlaw.closeLoan t t' hat h

/-- What a cycle that succeeds adds to the holdings. -/
theorem Plan.holdings_run (hlaw : v.Lawful p s) (h : p.run v s = .ok s') :
    p.holdings v s' = p.holdings v s +
      ((v.orca p.orcaIn).given - (v.raydium p.raydiumIn).taken - v.fee p.loan - v.rounding,
        ((v.raydium p.raydiumIn).given : ℚ) - (v.orca p.orcaIn).taken) := by
  have hsum := runAll_measure (p.holdings v) v.gain (fun _ _ _ hat => Venue.exec_gain hlaw hat) h
  rw [hsum]
  simp only [Plan.steps, List.map_cons, List.map_nil, List.sum_cons, List.sum_nil, Venue.gain,
    Prod.mk_add_mk, zero_add, add_zero]
  congr 2
  · ring
  · ring

/-! ### Loss -/

/-- Neither the USDC after debts nor the WSOL of the signer has shrunk. -/
def Plan.NoLoss (v : Venue σ) (p : Plan) (s s' : σ) : Prop :=
  (p.holdings v s).1 ≤ (p.holdings v s').1 ∧ (p.holdings v s).2 ≤ (p.holdings v s').2

/-- The second pool gives the USDC that the first one took and the costs of the loan, and takes
no more WSOL than the first one gave. -/
def Plan.Covered (v : Venue σ) (p : Plan) : Prop :=
  (v.raydium p.raydiumIn).taken + v.fee p.loan + v.rounding ≤ (v.orca p.orcaIn).given ∧
    (v.orca p.orcaIn).taken ≤ (v.raydium p.raydiumIn).given

/-- No loss, by the quotes. -/
theorem Plan.noLoss_iff_nonneg (hlaw : v.Lawful p s) (h : p.run v s = .ok s') :
    p.NoLoss v s s' ↔
      0 ≤ (v.orca p.orcaIn).given - (v.raydium p.raydiumIn).taken - v.fee p.loan - v.rounding ∧
        0 ≤ ((v.raydium p.raydiumIn).given : ℚ) - (v.orca p.orcaIn).taken := by
  unfold NoLoss
  rw [p.holdings_run hlaw h, Prod.fst_add, Prod.snd_add, le_add_iff_nonneg_right,
    le_add_iff_nonneg_right]

theorem Plan.noLoss_of_covered (hlaw : v.Lawful p s) (h : p.run v s = .ok s')
    (hcovered : p.Covered v) : p.NoLoss v s s' := by
  obtain ⟨husdc, hwsol⟩ := hcovered
  have hwsol' : ((v.orca p.orcaIn).taken : ℚ) ≤ (v.raydium p.raydiumIn).given :=
    Nat.cast_le.mpr hwsol
  rw [p.noLoss_iff_nonneg hlaw h]
  constructor <;> linarith

/-- **A cycle that succeeds makes no loss exactly when the prices cover the costs**; none of its
steps looks at that. -/
theorem Plan.noLoss_iff_covered (hlaw : v.Lawful p s) (h : p.run v s = .ok s') :
    p.NoLoss v s s' ↔ p.Covered v := by
  constructor
  · intro hnoLoss
    obtain ⟨husdc, hwsol⟩ := (p.noLoss_iff_nonneg hlaw h).mp hnoLoss
    exact ⟨by linarith, Nat.cast_le.mp (sub_nonneg.mp hwsol)⟩
  · exact p.noLoss_of_covered hlaw h

end Cycle

/-! ### A sample -/

/-- A signer's balances and debt. -/
structure Purse where
  usdc : UInt64
  wsol : UInt64
  debt : ℕ
  deriving DecidableEq

namespace Purse

/-- A loan without a fee. -/
def lend (s : Purse) (amount : UInt64) : Result Purse :=
  if s.usdc.toNat + amount.toNat < 2 ^ 64 then
    .ok { s with usdc := s.usdc + amount, debt := s.debt + amount.toNat }
  else .error (.custom 14)

/-- A repayment of part of the debt, or of all of it. -/
def collect (s : Purse) (amount : ℕ) : Result Purse :=
  if amount ≤ s.usdc.toNat ∧ amount ≤ s.debt then
    .ok { s with usdc := .ofNat (s.usdc.toNat - amount), debt := s.debt - amount }
  else .error (.custom 1)

/-- USDC for WSOL. -/
def buy (s : Purse) (q : Quote) : Result Purse :=
  if q.taken ≤ s.usdc.toNat ∧ s.wsol.toNat + q.given < 2 ^ 64 then
    .ok { s with usdc := .ofNat (s.usdc.toNat - q.taken), wsol := .ofNat (s.wsol.toNat + q.given) }
  else .error (.custom 1)

/-- WSOL for USDC. -/
def sell (s : Purse) (q : Quote) : Result Purse :=
  if q.taken ≤ s.wsol.toNat ∧ s.usdc.toNat + q.given < 2 ^ 64 then
    .ok { s with usdc := .ofNat (s.usdc.toNat + q.given), wsol := .ofNat (s.wsol.toNat - q.taken) }
  else .error (.custom 1)

theorem toNat_ofNat_sub (x : UInt64) (n : ℕ) : (UInt64.ofNat (x.toNat - n)).toNat = x.toNat - n :=
  UInt64.toNat_ofNat_of_lt' (lt_of_le_of_lt (Nat.sub_le _ _) x.toNat_lt)

variable {s s' : Purse} {q : Quote}

theorem of_lend {amount : UInt64} (h : s.lend amount = .ok s') :
    s'.usdc.toNat = s.usdc.toNat + amount.toNat ∧ s'.wsol = s.wsol ∧
      s'.debt = s.debt + amount.toNat := by
  unfold lend at h
  split_ifs at h with hfits
  cases h
  refine ⟨?_, rfl, rfl⟩
  rw [UInt64.toNat_add, Nat.mod_eq_of_lt hfits]

theorem of_collect {amount : ℕ} (h : s.collect amount = .ok s') :
    s'.usdc.toNat + amount = s.usdc.toNat ∧ s'.wsol = s.wsol ∧ s'.debt + amount = s.debt := by
  unfold collect at h
  split_ifs at h with hfunds
  cases h
  refine ⟨?_, rfl, Nat.sub_add_cancel hfunds.2⟩
  rw [toNat_ofNat_sub, Nat.sub_add_cancel hfunds.1]

theorem of_buy (h : s.buy q = .ok s') :
    s'.usdc.toNat + q.taken = s.usdc.toNat ∧ s'.wsol.toNat = s.wsol.toNat + q.given ∧
      s'.debt = s.debt := by
  unfold buy at h
  split_ifs at h with hfunds
  cases h
  refine ⟨?_, UInt64.toNat_ofNat_of_lt' hfunds.2, rfl⟩
  rw [toNat_ofNat_sub, Nat.sub_add_cancel hfunds.1]

theorem of_sell (h : s.sell q = .ok s') :
    s'.wsol.toNat + q.taken = s.wsol.toNat ∧ s'.usdc.toNat = s.usdc.toNat + q.given ∧
      s'.debt = s.debt := by
  unfold sell at h
  split_ifs at h with hfunds
  cases h
  refine ⟨?_, UInt64.toNat_ofNat_of_lt' hfunds.2, rfl⟩
  rw [toNat_ofNat_sub, Nat.sub_add_cancel hfunds.1]

end Purse

/-- A venue whose programs do with a purse what the calls of a plan ask for. -/
structure Venue.Serves (v : Venue Purse) (p : Plan) : Prop where
  usdc : ∀ s, tokens v.rt s p.usdc = s.usdc.toNat
  wsol : ∀ s, tokens v.rt s p.wsol = s.wsol.toNat
  debt : ∀ s, v.debt s = s.debt
  fee : v.fee p.loan = 0
  rounding : v.rounding = 0
  openLoan : v.openLoan = .ok
  closeLoan : v.closeLoan = .ok
  borrow : ∀ s, v.rt.invoke (marginfiBorrowIx p.borrow p.loan) s = s.lend p.loan
  raydium : ∀ s, v.rt.invoke (proxyRaydiumIx p.raydium p.raydiumIn p.raydiumOutMin) s =
    s.buy (v.raydium p.raydiumIn)
  orca : ∀ s, v.rt.invoke (proxyOrcaIx p.orca p.orcaIn p.orcaOutMin) s = s.sell (v.orca p.orcaIn)
  repay : ∀ s, v.rt.invoke (marginfiRepayIx p.repay p.repayment p.repayAll) s = s.collect s.debt
  raydium_taken_le : (v.raydium p.raydiumIn).taken ≤ p.raydiumIn.toNat
  orca_taken_le : (v.orca p.orcaIn).taken ≤ p.orcaIn.toNat

/-- Such a venue is lawful. -/
theorem Venue.Serves.lawful {v : Venue Purse} {p : Plan} (hv : v.Serves p) (s : Purse) :
    v.Lawful p s where
  openLoan t t' _ h := by
    rw [hv.openLoan] at h
    cases h
    rfl
  borrow t t' _ h := by
    rw [hv.borrow] at h
    obtain ⟨husdc, hwsol, hdebt⟩ := Purse.of_lend h
    simp only [hv.usdc, hv.wsol, hv.debt, hv.fee, husdc, hwsol, hdebt, add_zero, Nat.cast_add,
      and_self]
  raydium t t' _ h := by
    rw [hv.raydium] at h
    obtain ⟨husdc, hwsol, hdebt⟩ := Purse.of_buy h
    simp only [hv.usdc, hv.wsol, hv.debt, hdebt]
    exact ⟨husdc, hwsol, trivial⟩
  orca t t' _ h := by
    rw [hv.orca] at h
    obtain ⟨hwsol, husdc, hdebt⟩ := Purse.of_sell h
    simp only [hv.usdc, hv.wsol, hv.debt, hdebt]
    exact ⟨hwsol, husdc, trivial⟩
  repay t t' _ h := by
    rw [hv.repay] at h
    obtain ⟨husdc, hwsol, hdebt⟩ := Purse.of_collect h
    simp only [hv.usdc, hv.wsol, hv.debt, hv.rounding, hwsol, sub_zero]
    exact ⟨t.debt, husdc, trivial, eq_sub_of_add_eq (mod_cast hdebt)⟩
  closeLoan t t' _ h := by
    rw [hv.closeLoan] at h
    cases h
    rfl
  raydium_taken_le := hv.raydium_taken_le
  orca_taken_le := hv.orca_taken_le

/-- The first pool keeps one half of a percent. -/
def sampleRaydium (amountIn : UInt64) : Quote := ⟨amountIn.toNat, amountIn.toNat * 995 / 1000⟩

/-- The second pool trades one to one. -/
def sampleOrca (amountIn : UInt64) : Quote := ⟨amountIn.toNat, amountIn.toNat⟩

/-- The amount at an offset of the data. -/
def amountAt (data : List UInt8) (offset : ℕ) : UInt64 :=
  .ofNat (Bytes.ofLe ((data.drop offset).take 8))

/-- The programs of the sample: marginfi is `21`, Raydium `22`, Orca `23`. -/
def sampleInvoke (ix : Instruction) (s : Purse) : Result Purse :=
  if ix.programId = 21 ∧ ix.data.take 8 = borrowSighash then s.lend (amountAt ix.data 8)
  else if ix.programId = 21 ∧ ix.data.take 8 = repaySighash then
    s.collect (if ix.data.drop 16 = [1, 1] then s.debt else (amountAt ix.data 8).toNat)
  else if ix.programId = 22 then s.buy (sampleRaydium (amountAt ix.data 1))
  else if ix.programId = 23 then s.sell (sampleOrca (amountAt ix.data 8))
  else .error errInvalidProgramId

/-- The USDC account is `1`, the WSOL account `2`. -/
def sampleVenue : Venue Purse where
  rt :=
    { accountData := fun s key =>
        List.replicate 64 0 ++
          (Bytes.toLe 8 (if key = 1 then s.usdc else if key = 2 then s.wsol else 0).toNat ++ [])
      invoke := sampleInvoke }
  openLoan := .ok
  closeLoan := .ok
  debt s := s.debt
  fee _ := 0
  rounding := 0
  raydium := sampleRaydium
  orca := sampleOrca

/-- Borrow one USDC, swap it there and back at a loss that the bounds allow, repay everything. -/
def samplePlan : Plan where
  borrow := ⟨3, 4, 5, 6, 1, 7, 8, tokenId, 21, rfl⟩
  raydium := ⟨5, 1, 2, tokenId, 22, 9, 9, 9, 9, 9, 9, 9, 9, 9, 9, 9, 9, 9, 9, rfl⟩
  orca := ⟨tokenId, 5, 23, 10, 2, 10, 1, 10, 10, 10, 10, 10, rfl⟩
  repay := ⟨3, 4, 5, 6, 1, 8, tokenId, 21, rfl⟩
  loan := 1000000
  raydiumIn := 1000000
  raydiumOutMin := 995000
  orcaIn := 995000
  orcaOutMin := 995000
  repayment := 1000000
  repayAll := true
  usdc := 1
  wsol := 2
  borrow_usdc := rfl
  raydium_usdc := rfl
  raydium_wsol := rfl
  orca_wsol := rfl
  orca_usdc := rfl
  repay_usdc := rfl

/-- The signer holds a small amount of USDC beforehand. -/
def samplePurse : Purse := ⟨5000, 0, 0⟩

theorem tokens_usdc (s : Purse) : tokens sampleVenue.rt s 1 = s.usdc.toNat :=
  tokens_of_amount (amountOf_layout rfl s.usdc [])

theorem tokens_wsol (s : Purse) : tokens sampleVenue.rt s 2 = s.wsol.toNat :=
  tokens_of_amount (amountOf_layout rfl s.wsol [])

theorem sampleInvoke_borrow (s : Purse) :
    sampleInvoke (marginfiBorrowIx samplePlan.borrow samplePlan.loan) s =
      s.lend samplePlan.loan := by
  have hamount : amountAt (marginfiBorrowIx samplePlan.borrow samplePlan.loan).data 8 =
      samplePlan.loan := by
    decide
  unfold sampleInvoke
  rw [if_pos (by decide), hamount]

theorem sampleInvoke_repay (s : Purse) :
    sampleInvoke (marginfiRepayIx samplePlan.repay samplePlan.repayment samplePlan.repayAll) s =
      s.collect s.debt := by
  unfold sampleInvoke
  rw [if_neg (by decide), if_pos (by decide), if_pos (by decide)]

theorem sampleInvoke_raydium (s : Purse) :
    sampleInvoke (proxyRaydiumIx samplePlan.raydium samplePlan.raydiumIn
      samplePlan.raydiumOutMin) s = s.buy (sampleRaydium samplePlan.raydiumIn) := by
  have hamount : amountAt (proxyRaydiumIx samplePlan.raydium samplePlan.raydiumIn
      samplePlan.raydiumOutMin).data 1 = samplePlan.raydiumIn := by
    decide
  unfold sampleInvoke
  rw [if_neg (by decide), if_neg (by decide), if_pos (by decide), hamount]

theorem sampleInvoke_orca (s : Purse) :
    sampleInvoke (proxyOrcaIx samplePlan.orca samplePlan.orcaIn samplePlan.orcaOutMin) s =
      s.sell (sampleOrca samplePlan.orcaIn) := by
  have hamount : amountAt (proxyOrcaIx samplePlan.orca samplePlan.orcaIn
      samplePlan.orcaOutMin).data 8 = samplePlan.orcaIn := by
    decide
  unfold sampleInvoke
  rw [if_neg (by decide), if_neg (by decide), if_neg (by decide), if_pos (by decide), hamount]

theorem sampleVenue_invoke : sampleVenue.rt.invoke = sampleInvoke := rfl

theorem sampleVenue_debt (s : Purse) : sampleVenue.debt s = s.debt := rfl

theorem sampleLawful : ∀ s, sampleVenue.Lawful samplePlan s :=
  Venue.Serves.lawful
    { usdc := tokens_usdc
      wsol := tokens_wsol
      debt := sampleVenue_debt
      fee := rfl
      rounding := rfl
      openLoan := rfl
      closeLoan := rfl
      borrow := fun s => sampleVenue_invoke ▸ sampleInvoke_borrow s
      raydium := fun s => sampleVenue_invoke ▸ sampleInvoke_raydium s
      orca := fun s => sampleVenue_invoke ▸ sampleInvoke_orca s
      repay := fun s => sampleVenue_invoke ▸ sampleInvoke_repay s
      raydium_taken_le := le_rfl
      orca_taken_le := le_rfl }

/-- The cycle succeeds, and what the signer held beforehand is gone. -/
theorem samplePlan_run : samplePlan.run sampleVenue samplePurse = .ok ⟨0, 0, 0⟩ := by
  decide +kernel

theorem noLoss_iff_covered_sample :
    samplePlan.NoLoss sampleVenue samplePurse ⟨0, 0, 0⟩ ↔ samplePlan.Covered sampleVenue :=
  samplePlan.noLoss_iff_covered (sampleLawful _) samplePlan_run

/-- Every step of a cycle succeeds, with both bounds on the outputs met, and the signer has lost
5000 units of USDC that were held before. -/
theorem samplePlan_loss :
    (∀ s, sampleVenue.Lawful samplePlan s) ∧
      samplePlan.run sampleVenue samplePurse = .ok ⟨0, 0, 0⟩ ∧
      samplePlan.holdings sampleVenue samplePurse = (5000, 0) ∧
      samplePlan.holdings sampleVenue ⟨0, 0, 0⟩ = (0, 0) ∧
      ¬ samplePlan.NoLoss sampleVenue samplePurse ⟨0, 0, 0⟩ := by
  have hbefore : samplePlan.holdings sampleVenue samplePurse = (5000, 0) := by
    decide +kernel
  have hafter : samplePlan.holdings sampleVenue ⟨0, 0, 0⟩ = (0, 0) := by
    decide +kernel
  refine ⟨sampleLawful, samplePlan_run, hbefore, hafter, ?_⟩
  rintro ⟨husdc, -⟩
  rw [hbefore, hafter] at husdc
  norm_num at husdc

/-! ### Bounds that are enough -/

section Bounds

variable {σ : Type} {v : Venue σ} {p : Plan} {s s' : σ}

/-- The first pool gave at least the bound on its output. -/
theorem Plan.raydiumOutMin_le (hlaw : v.Lawful p s) (h : p.run v s = .ok s') :
    p.raydiumOutMin.toNat ≤ (v.raydium p.raydiumIn).given := by
  obtain ⟨t, t', hat, hstep⟩ := runAll_step_ok h
    (show .call (.proxyRaydium p.raydium p.raydiumIn p.raydiumOutMin) ∈ p.steps by simp [steps])
  obtain ⟨before, after, hbefore, hinvoke, hafter, hgrown⟩ := (measuredSwap_eq_ok v.rt).mp hstep
  obtain ⟨-, hwsol, -⟩ := hlaw.raydium t t' hat hinvoke
  rw [p.raydium_wsol] at hbefore hafter
  rw [tokens_of_amount hbefore, tokens_of_amount hafter] at hwsol
  omega

/-- The second pool gave at least the bound on its output. -/
theorem Plan.orcaOutMin_le (hlaw : v.Lawful p s) (h : p.run v s = .ok s') :
    p.orcaOutMin.toNat ≤ (v.orca p.orcaIn).given := by
  obtain ⟨t, t', hat, hstep⟩ := runAll_step_ok h
    (show .call (.proxyOrca p.orca p.orcaIn p.orcaOutMin) ∈ p.steps by simp [steps])
  obtain ⟨before, after, hbefore, hinvoke, hafter, hgrown⟩ := (measuredSwap_eq_ok v.rt).mp hstep
  obtain ⟨-, husdc, -⟩ := hlaw.orca t t' hat hinvoke
  rw [p.orca_usdc] at hbefore hafter
  rw [tokens_of_amount hbefore, tokens_of_amount hafter] at husdc
  omega

/-- **Bounds that are enough.**  A cycle that succeeds makes no loss when the bound on the second
output covers the first input and the costs, and the second input is within the bound on the
first output. -/
theorem Plan.noLoss_of_guarded (hlaw : v.Lawful p s) (h : p.run v s = .ok s')
    (husdc : p.raydiumIn.toNat + v.fee p.loan + v.rounding ≤ p.orcaOutMin.toNat)
    (hwsol : p.orcaIn ≤ p.raydiumOutMin) : p.NoLoss v s s' := by
  apply p.noLoss_of_covered hlaw h
  have htaken : ((v.raydium p.raydiumIn).taken : ℚ) ≤ p.raydiumIn.toNat :=
    Nat.cast_le.mpr hlaw.raydium_taken_le
  have hgiven : (p.orcaOutMin.toNat : ℚ) ≤ (v.orca p.orcaIn).given :=
    Nat.cast_le.mpr (p.orcaOutMin_le hlaw h)
  constructor
  · linarith
  · calc (v.orca p.orcaIn).taken ≤ p.orcaIn.toNat := hlaw.orca_taken_le
      _ ≤ p.raydiumOutMin.toNat := UInt64.le_iff_toNat_le.mp hwsol
      _ ≤ (v.raydium p.raydiumIn).given := p.raydiumOutMin_le hlaw h

end Bounds

/-- The programs of the sample, but that Raydium trades one to one as well. -/
def fairInvoke (ix : Instruction) (s : Purse) : Result Purse :=
  if ix.programId = 22 then s.buy (sampleOrca (amountAt ix.data 1)) else sampleInvoke ix s

def fairVenue : Venue Purse :=
  { sampleVenue with
    rt := { sampleVenue.rt with invoke := fairInvoke }
    raydium := sampleOrca }

/-- Borrow one USDC, swap it there and back with bounds that allow no loss, repay everything. -/
def guardedPlan : Plan :=
  { samplePlan with
    raydiumOutMin := 1000000
    orcaIn := 1000000
    orcaOutMin := 1000000 }

theorem fairInvoke_of_ne {ix : Instruction} {s : Purse} (h : ix.programId ≠ 22) :
    fairInvoke ix s = sampleInvoke ix s :=
  if_neg h

theorem fairInvoke_raydium (s : Purse) :
    fairInvoke (proxyRaydiumIx guardedPlan.raydium guardedPlan.raydiumIn
      guardedPlan.raydiumOutMin) s = s.buy (sampleOrca guardedPlan.raydiumIn) := by
  have hamount : amountAt (proxyRaydiumIx guardedPlan.raydium guardedPlan.raydiumIn
      guardedPlan.raydiumOutMin).data 1 = guardedPlan.raydiumIn := by
    decide
  unfold fairInvoke
  rw [if_pos (by decide), hamount]

theorem fairInvoke_orca (s : Purse) :
    fairInvoke (proxyOrcaIx guardedPlan.orca guardedPlan.orcaIn guardedPlan.orcaOutMin) s =
      s.sell (sampleOrca guardedPlan.orcaIn) := by
  have hamount : amountAt (proxyOrcaIx guardedPlan.orca guardedPlan.orcaIn
      guardedPlan.orcaOutMin).data 8 = guardedPlan.orcaIn := by
    decide
  rw [fairInvoke_of_ne (by decide)]
  unfold sampleInvoke
  rw [if_neg (by decide), if_neg (by decide), if_neg (by decide), if_pos (by decide), hamount]

theorem fairInvoke_borrow (s : Purse) :
    fairInvoke (marginfiBorrowIx guardedPlan.borrow guardedPlan.loan) s =
      s.lend guardedPlan.loan := by
  rw [fairInvoke_of_ne (by decide)]
  exact sampleInvoke_borrow s

theorem fairInvoke_repay (s : Purse) :
    fairInvoke (marginfiRepayIx guardedPlan.repay guardedPlan.repayment guardedPlan.repayAll) s =
      s.collect s.debt := by
  rw [fairInvoke_of_ne (by decide)]
  exact sampleInvoke_repay s

theorem fairVenue_invoke : fairVenue.rt.invoke = fairInvoke := rfl

theorem guardedLawful : ∀ s, fairVenue.Lawful guardedPlan s :=
  Venue.Serves.lawful
    { usdc := tokens_usdc
      wsol := tokens_wsol
      debt := sampleVenue_debt
      fee := rfl
      rounding := rfl
      openLoan := rfl
      closeLoan := rfl
      borrow := fun s => fairVenue_invoke ▸ fairInvoke_borrow s
      raydium := fun s => fairVenue_invoke ▸ fairInvoke_raydium s
      orca := fun s => fairVenue_invoke ▸ fairInvoke_orca s
      repay := fun s => fairVenue_invoke ▸ fairInvoke_repay s
      raydium_taken_le := le_rfl
      orca_taken_le := le_rfl }

/-- With such bounds, what the signer held beforehand is still there. -/
theorem guardedPlan_run : guardedPlan.run fairVenue samplePurse = .ok samplePurse := by
  decide +kernel

theorem Plan.noLoss_of_guarded_sample :
    guardedPlan.NoLoss fairVenue samplePurse samplePurse :=
  guardedPlan.noLoss_of_guarded (guardedLawful _) guardedPlan_run (by decide +kernel) (by decide)

end FlashLoanBot
