import FlashLoanBot.Cycle.Gate
import FlashLoanBot.Marginfi.Positions

/-!
# Closing the flash loan

The bot closes a flash loan without passing any bank or oracle, so marginfi can only accept
an account without positions.  What this says about the legs in between:

* `Leg`: a borrow or a repayment of the bot on one user account, or a swap;
* `Leg.run`: a leg makes one move of the table of positions, and none when it is a swap;
* `runLegs_positions`: the legs together are a run of that table;
* `runLegs_closed`: when the flash loan is closed behind them, the account owes nothing, and the
  last leg on every bank was a repayment of everything;
* `runTransaction_closed`: the same for a whole transaction that opens the flash loan, runs legs,
  and closes it.
-/

namespace Marginfi

/-- The liability shares that an account owes to a bank. -/
def LendingAccount.liabilityShares (account : LendingAccount) (bank : Solana.Pubkey) : ℤ :=
  ((account.activeBalances.filter (·.bankPk = bank)).map (·.liabilityShares.bits)).sum

theorem LendingAccount.liabilityShares_of_empty {account : LendingAccount}
    (h : account.activeBalances = []) (bank : Solana.Pubkey) :
    account.liabilityShares bank = 0 := by
  simp [liabilityShares, h]

end Marginfi

namespace FlashLoanBot

open Solana Checked Marginfi Slots

variable {τ : Type}

/-! ### Legs -/

/-- What a call does with the positions of the account it is about. -/
def Call.op? : Call → Option (Op Pubkey)
  | .marginfiBorrow ctx _ => some (.acquire ctx.bank)
  | .marginfiRepay ctx _ repayAll => some (repayOp ctx.bank repayAll)
  | _ => none

/-- The bank that a borrow or a repayment is about. -/
def Call.bank? : Call → Option Pubkey
  | .marginfiBorrow ctx _ => some ctx.bank
  | .marginfiRepay ctx _ _ => some ctx.bank
  | _ => none

theorem Call.map_key_op? (c : Call) : c.op?.map Op.key = c.bank? := by
  cases c with
  | marginfiRepay ctx amount repayAll => cases repayAll <;> rfl
  | _ => rfl

/-- A leg between the start and the end of a flash loan of a user account: a borrow or a
repayment on it that is sent to marginfi, or a swap that does not touch it. -/
def Leg (d : Deployment τ) (key : Pubkey) (tx : TxContext) (c : Call) : Prop :=
  match c with
  | .marginfiBorrow ctx _ => ctx.marginfiProgram = d.env.id ∧ ctx.marginfiAccount = key
  | .marginfiRepay ctx _ _ => ctx.marginfiProgram = d.env.id ∧ ctx.marginfiAccount = key
  | .proxyRaydium _ _ _ | .proxyOrca _ _ _ =>
      ∀ s s', c.run (d.runtime tx) s = .ok s' →
        s'.marginfiAccounts key = s.marginfiAccounts key
  | _ => False

/-- Run a leg, each in the context of its own instruction. -/
def runLeg (d : Deployment τ) (s : Ledger τ) (leg : TxContext × Call) : Result (Ledger τ) :=
  leg.2.run (d.runtime leg.1) s

section Legs

variable {d : Deployment τ} {key : Pubkey} {s t u : Ledger τ} {account : MarginfiAccount}

/-- The account as it is after a run of operations on its positions. -/
def Follows (s : Ledger τ) (key : Pubkey) (account : MarginfiAccount) (ops : List (Op Pubkey)) :
    Prop :=
  ∃ account', s.marginfiAccounts key = some account' ∧
    Run ops account.lendingAccount.activeBanks account'.lendingAccount.activeBanks

theorem follows_of_moves {o : Op Pubkey} (h : s.Moves key o t)
    (hs : s.marginfiAccounts key = some account) : Follows t key account [o] := by
  obtain ⟨a, a', ha, ht, -, -, hstep⟩ := h
  obtain rfl : account = a := Option.some.inj (hs.symm.trans ha)
  exact ⟨a', by simp [ht], .cons hstep .nil⟩

/-- The account is in no flash loan, has no active position, and owes nothing to any bank. -/
def Closed (s : Ledger τ) (key : Pubkey) : Prop :=
  ∃ account, s.marginfiAccounts key = some account ∧
    account.getFlag accountInFlashloanFlag = false ∧
    account.lendingAccount.activeBalances = [] ∧
    ∀ bank, account.lendingAccount.liabilityShares bank = 0

/-- A leg makes the move of its call. -/
theorem Leg.run {tx : TxContext} {c : Call} (hleg : Leg d key tx c)
    (h : c.run (d.runtime tx) s = .ok t) (hs : s.marginfiAccounts key = some account) :
    Follows t key account c.op?.toList := by
  cases c with
  | marginfiBorrow ctx amount =>
    obtain ⟨hprogram, rfl⟩ := hleg
    have hborrow := (Wrapper.run_runtime (w := .borrow ctx amount) hprogram tx s).symm.trans h
    exact follows_of_moves (lendingAccountBorrow_moves hborrow) hs
  | marginfiRepay ctx amount repayAll =>
    obtain ⟨hprogram, rfl⟩ := hleg
    have hrepay :=
      (Wrapper.run_runtime (w := .repay ctx amount repayAll) hprogram tx s).symm.trans h
    have hmoves := lendingAccountRepay_moves hrepay
    cases repayAll <;> exact follows_of_moves hmoves hs
  | proxyRaydium ctx amountIn amountOutMin => exact ⟨account, (hleg s t h).trans hs, .nil⟩
  | proxyOrca ctx amountIn amountOutMin => exact ⟨account, (hleg s t h).trans hs, .nil⟩
  | marginfiStartFlashloan ctx endIndex => exact hleg.elim
  | marginfiEndFlashloan ctx => exact hleg.elim

/-- **The legs together are a run of the table of positions.** -/
theorem runLegs_positions {legs : List (TxContext × Call)}
    (hlegs : ∀ leg ∈ legs, Leg d key leg.1 leg.2) (hrun : runAll (runLeg d) s legs = .ok t)
    (hs : s.marginfiAccounts key = some account) :
    Follows t key account (legs.filterMap fun leg => leg.2.op?) := by
  induction legs generalizing s account with
  | nil =>
    cases hrun
    exact ⟨account, hs, .nil⟩
  | cons leg legs ih =>
    obtain ⟨u, hu, hrun⟩ := bind_eq_ok.mp hrun
    obtain ⟨a, ha, hfirst⟩ := (hlegs leg (by simp)).run hu hs
    obtain ⟨b, hb, hrest⟩ := ih (fun l hl => hlegs l (List.mem_cons_of_mem leg hl)) hrun ha
    have happend := hfirst.append hrest
    cases hop : leg.2.op? with
    | none => exact ⟨b, hb, by simpa [hop] using happend⟩
    | some o => exact ⟨b, hb, by simpa [hop] using happend⟩

/-- An operation that releases belongs to a repayment of everything. -/
theorem eq_repayAll_of_op? {c : Call} {bank : Pubkey} (h : c.op? = some (.release bank)) :
    ∃ ctx amount, c = .marginfiRepay ctx amount true ∧ ctx.bank = bank := by
  cases c with
  | marginfiRepay ctx amount repayAll =>
    cases repayAll with
    | true => exact ⟨ctx, amount, rfl, by simpa [Call.op?, repayOp] using h⟩
    | false => simp [Call.op?, repayOp] at h
  | marginfiBorrow ctx amount => simp [Call.op?] at h
  | _ => cases h

/-- An account that can be closed after a run owes nothing then, and the run ended with a release
of every bank it was about. -/
theorem Follows.closed {ops : List (Op Pubkey)} {ctx : LendingAccountEndFlashloan}
    {tx : TxContext} (h : Follows t ctx.marginfiAccount account ops)
    (hnodup : account.lendingAccount.activeBanks.Nodup)
    (hend : lendingAccountEndFlashloan d.env tx ctx [] t = .ok u) :
    Closed u ctx.marginfiAccount ∧ ∀ o ∈ ops, lastOn o.key ops = some (.release o.key) := by
  obtain ⟨closing, hclosing, hpositions⟩ := h
  obtain ⟨a, ha, -, -, -, -, -, hempty, rfl⟩ := lendingAccountEndFlashloan_eq_ok.mp hend
  obtain rfl : closing = a := Option.some.inj (hclosing.symm.trans ha)
  rw [LendingAccount.activeBanks_eq_zero.mpr hempty] at hpositions
  constructor
  · exact ⟨closing.unsetFlag accountInFlashloanFlag, Ledger.setAccount_same t _ _,
      MarginfiAccount.getFlag_unsetFlag closing _, hempty,
      LendingAccount.liabilityShares_of_empty hempty⟩
  · intro o ho
    exact hpositions.lastOn_of_empty hnodup ho

/-- The last leg on a bank is a repayment of everything when the last operation on it is a
release. -/
theorem exists_last_repayAll {legs : List (TxContext × Call)}
    (hlast : ∀ o ∈ legs.filterMap fun leg => leg.2.op?,
      lastOn o.key (legs.filterMap fun leg => leg.2.op?) = some (.release o.key))
    {leg : TxContext × Call} (hleg : leg ∈ legs) {bank : Pubkey} (hbank : leg.2.bank? = some bank) :
    ∃ before tx repay amount after,
      legs = before ++ (tx, .marginfiRepay repay amount true) :: after ∧
        repay.bank = bank ∧ ∀ later ∈ after, later.2.bank? ≠ some bank := by
  -- the operation of this leg is one of the run
  obtain ⟨o, ho, rfl⟩ := Option.map_eq_some_iff.mp ((Call.map_key_op? leg.2).trans hbank)
  have hmem : o ∈ legs.filterMap fun leg => leg.2.op? := List.mem_filterMap.mpr ⟨leg, hleg, ho⟩
  obtain ⟨before, ⟨tx, c⟩, after, hsplit, hop, hafter⟩ := of_lastOn_filterMap (hlast o hmem)
  obtain ⟨repay, amount, rfl, hrepay⟩ := eq_repayAll_of_op? hop
  refine ⟨before, tx, repay, amount, after, hsplit, hrepay, ?_⟩
  intro later hlater
  rw [← Call.map_key_op?]
  exact hafter later hlater

/-- **Closing behind the legs.**  Let the legs start from an account with at most one active
position per bank.  When they all succeed and then the flash loan is closed with the
instruction that the bot builds, the account is in no flash loan, has no active position and
owes nothing, and the last leg on every bank was a repayment of everything. -/
theorem runLegs_closed {legs : List (TxContext × Call)} {ixs : List Instruction} {i : ℕ}
    {ctx : MarginfiFlashloanBounds} (hs : s.marginfiAccounts ctx.marginfiAccount = some account)
    (hnodup : account.lendingAccount.activeBanks.Nodup)
    (hlegs : ∀ leg ∈ legs, Leg d ctx.marginfiAccount leg.1 leg.2)
    (hrun : runAll (runLeg d) s legs = .ok t) (hprogram : ctx.marginfiProgram = d.env.id)
    (hix : ixs[i]? = some (marginfiEndFlashloanIx ctx)) (hend : runAt d ixs t i = .ok u) :
    Closed u ctx.marginfiAccount ∧
      ∀ leg ∈ legs, ∀ bank, leg.2.bank? = some bank →
        ∃ before tx repay amount after,
          legs = before ++ (tx, .marginfiRepay repay amount true) :: after ∧
            repay.bank = bank ∧ ∀ later ∈ after, later.2.bank? ≠ some bank := by
  rw [runAt_direct (w := .endFlashloan ctx) hix hprogram] at hend
  obtain ⟨hclosed, hlast⟩ := (runLegs_positions hlegs hrun hs).closed hnodup hend
  exact ⟨hclosed, fun leg hleg bank => exists_last_repayAll hlast hleg⟩

end Legs

/-! ### A sample -/

/-- A bank of the sample: `4`, with its liquidity vault `5`. -/
def sampleBank : Bank where
  mint := 6
  mintDecimals := 6
  group := 3
  assetShareValue := .one
  liabilityShareValue := .one
  liquidityVault := 5
  liquidityVaultAuthorityBump := 255
  collectedInsuranceFeesOutstanding := 0
  collectedGroupFeesOutstanding := 0
  totalLiabilityShares := 0
  totalAssetShares := .ofU64 5000000
  lastUpdate := 1700000000
  config :=
    { assetWeightInit := .one
      assetWeightMaint := .one
      liabilityWeightInit := .one
      liabilityWeightMaint := .one
      depositLimit := 1000000000
      interestRateConfig :=
        { optimalUtilizationRate := 0
          plateauInterestRate := 0
          maxInterestRate := 0
          insuranceFeeFixedApr := 0
          insuranceIrFee := 0
          protocolFixedFeeApr := 0
          protocolIrFee := 0
          protocolOriginationFee := 0
          zeroUtilRate := 0
          hundredUtilRate := 1000000
          points := .replicate 5 ⟨0, 0⟩
          curveType := 1 }
      operationalState := .operational
      oracleSetup := .pythPushOracle
      borrowLimit := 1000000000
      riskTier := .collateral
      assetTag := assetTagDefault
      totalAssetValueInitLimit := 0
      oracleMaxConfidence := 0 }
  flags := 0
  emissionsRate := 0
  emissionsRemaining := 0
  collectedProgramFeesOutstanding := 0
  emodeTag := 0
  emodeConfig := ⟨.replicate 10 ⟨0, 0, 0, 0⟩⟩
  cache := ⟨0, 0, 0, 0, 0, 0, 0, 0⟩
  lendingPositionCount := 1
  borrowingPositionCount := 0

/-- The group of the sample. -/
def sampleGroup : MarginfiGroup where
  admin := 9
  groupFlags := 0
  programFeeFixed := 0
  programFeeRate := 0
  pauseFlags := 0
  pauseStartTimestamp := 0
  riskAdmin := 9

/-- The state between the start and the end: the account is in a flash loan, the vault holds
five USDC and the user's token account `7` none. -/
def sampleLending : Ledger (Pubkey → ℕ) where
  marginfiAccounts := fun key =>
    if key = 1 then some (sampleAccount.setFlag accountInFlashloanFlag) else none
  banks := fun key => if key = 4 then some sampleBank else none
  groups := fun key => if key = 3 then some sampleGroup else none
  rest := fun key => if key = 5 then 5000000 else 0

/-- The user borrows from the bank, into the token account `7`. -/
def sampleBorrow : MarginfiBorrow where
  marginfiGroup := 3
  marginfiAccount := 1
  signer := 2
  bank := 4
  destinationTokenAccount := 7
  bankLiquidityVaultAuthority := 4 + 255
  bankLiquidityVault := 5
  tokenProgram := tokenId
  marginfiProgram := Cluster.mainnetBeta.id
  tokenProgram_eq := rfl

/-- The user repays from the same token account. -/
def sampleRepay : MarginfiRepay where
  marginfiGroup := 3
  marginfiAccount := 1
  signer := 2
  bank := 4
  signerTokenAccount := 7
  bankLiquidityVault := 5
  tokenProgram := tokenId
  marginfiProgram := Cluster.mainnetBeta.id
  tokenProgram_eq := rfl

/-- Borrow one USDC, and repay everything. -/
def sampleLegs : List (TxContext × Call) :=
  [(.topLevel [] 1, .marginfiBorrow sampleBorrow 1000000),
    (.topLevel [] 2, .marginfiRepay sampleRepay 0 true)]

/-- The instruction that closes the flash loan, sent to marginfi directly. -/
def sampleClosing : List Instruction := [marginfiEndFlashloanIx sampleBounds]

theorem sampleLegs_run (s : Ledger (Pubkey → ℕ)) :
    (runAll (runLeg sampleDeployment) s sampleLegs >>= fun t =>
      runAt sampleDeployment sampleClosing t 0) =
    ((Wrapper.borrow sampleBorrow 1000000).marginfiCall.run sampleDeployment.env
      (TxContext.topLevel [] 1).callee [] s >>= fun t =>
    (Wrapper.repay sampleRepay 0 true).marginfiCall.run sampleDeployment.env
      (TxContext.topLevel [] 2).callee [] t >>= fun u =>
    (Wrapper.endFlashloan sampleBounds).marginfiCall.run sampleDeployment.env
      (.topLevel sampleClosing 0) [] u) := by
  have hprogram : Cluster.mainnetBeta.id = sampleDeployment.env.id := rfl
  have hborrow := Wrapper.run_runtime (w := .borrow sampleBorrow 1000000) hprogram (.topLevel [] 1)
  have hrepay := Wrapper.run_runtime (w := .repay sampleRepay 0 true) hprogram (.topLevel [] 2)
  have hix : sampleClosing[0]? = some (Wrapper.endFlashloan sampleBounds).ix := rfl
  have hend (t : Ledger (Pubkey → ℕ)) : runAt sampleDeployment sampleClosing t 0 = _ :=
    runAt_direct hix hprogram
  simp only [Wrapper.toCall] at hborrow hrepay
  simp only [sampleLegs, runAll_cons, runAll_nil, runLeg, hborrow, hrepay, hend, bind_assoc]
  rfl

theorem runLegs_closed_sample :
    ∃ t u, runAll (runLeg sampleDeployment) sampleLending sampleLegs = .ok t ∧
      runAt sampleDeployment sampleClosing t 0 = .ok u ∧ Closed u 1 := by
  have hok : (runAll (runLeg sampleDeployment) sampleLending sampleLegs >>= fun t =>
      runAt sampleDeployment sampleClosing t 0).isOk = true := by
    rw [sampleLegs_run]
    decide +kernel
  obtain ⟨u, hu⟩ : ∃ u, (runAll (runLeg sampleDeployment) sampleLending sampleLegs >>= fun t =>
      runAt sampleDeployment sampleClosing t 0) = .ok u := by
    cases hrun : (runAll (runLeg sampleDeployment) sampleLending sampleLegs >>= fun t =>
      runAt sampleDeployment sampleClosing t 0) with
    | ok u => exact ⟨u, rfl⟩
    | error e => rw [hrun] at hok; cases hok
  obtain ⟨t, hrun, hend⟩ := bind_eq_ok.mp hu
  have hempty : (sampleAccount.setFlag accountInFlashloanFlag).lendingAccount.activeBanks = 0 :=
    LendingAccount.activeBanks_eq_zero.mpr (by decide)
  have hlegs : ∀ leg ∈ sampleLegs, Leg sampleDeployment 1 leg.1 leg.2 := by
    simp [sampleLegs, Leg, sampleBorrow, sampleRepay, Env.id, sampleDeployment]
  have hs : sampleLending.marginfiAccounts sampleBounds.marginfiAccount =
      some (sampleAccount.setFlag accountInFlashloanFlag) := by
    simp [sampleLending, sampleBounds]
  have hprogram : sampleBounds.marginfiProgram = sampleDeployment.env.id := rfl
  have hix : sampleClosing[0]? = some (marginfiEndFlashloanIx sampleBounds) := rfl
  have hnodup := hempty ▸ Multiset.nodup_zero
  obtain ⟨hclosed, -⟩ := runLegs_closed hs hnodup hlegs hrun hprogram hix hend
  exact ⟨t, u, hrun, hend, hclosed⟩

/-! ### Whole transactions -/

/-- A transaction that opens a flash loan directly, runs legs of the bot, and closes the flash
loan directly. -/
def directCycle (start : MarginfiFlashloanBounds) (endIndex : UInt64) (legs : List Call)
    (finish : MarginfiFlashloanBounds) : List Instruction :=
  marginfiStartFlashloanIx start endIndex ::
    (legs.map Call.instruction ++ [marginfiEndFlashloanIx finish])

section Transactions

variable {d : Deployment τ} {s t u : Ledger τ} {start finish : MarginfiFlashloanBounds}
  {endIndex : UInt64} {legs : List Call}

theorem directCycle_start : (directCycle start endIndex legs finish)[0]? =
    some (marginfiStartFlashloanIx start endIndex) := rfl

theorem directCycle_leg {i : ℕ} {c : Call} (h : legs[i]? = some c) :
    Lists (directCycle start endIndex legs finish) (i + 1) c := by
  have hi : i < (legs.map Call.instruction).length := by
    rw [List.length_map]
    exact (List.getElem?_eq_some_iff.mp h).1
  refine ⟨c.instruction, ?_, rfl, parse_instruction c⟩
  rw [directCycle, List.getElem?_cons_succ, List.getElem?_append_left hi, List.getElem?_map, h]
  rfl

theorem directCycle_finish : (directCycle start endIndex legs finish)[legs.length + 1]? =
    some (marginfiEndFlashloanIx finish) := by
  rw [directCycle, List.getElem?_cons_succ, List.getElem?_append_right (by simp)]
  simp

/-- The legs with the contexts in which the transaction runs them. -/
def legContexts (ixs : List Instruction) (legs : List Call) : List (TxContext × Call) :=
  legs.mapIdx fun i c => (TxContext.topLevel ixs (i + 1), c)

/-- Between the start and the end, the transaction runs the legs. -/
theorem runAll_directCycle_legs :
    runAll (runAt d (directCycle start endIndex legs finish)) s (List.range' 1 legs.length) =
      runAll (runLeg d) s (legContexts (directCycle start endIndex legs finish) legs) := by
  apply runAll_congr
  rw [List.forall₂_iff_get]
  refine ⟨by simp [legContexts], ?_⟩
  intro i hi _ t
  have hlt : i < legs.length := by simpa using hi
  have hleg : Lists (directCycle start endIndex legs finish) (i + 1) legs[i] :=
    directCycle_leg (List.getElem?_eq_getElem hlt)
  simp only [List.get_eq_getElem, List.getElem_range', legContexts, List.getElem_mapIdx, one_mul,
    Nat.add_comm 1 i]
  exact runAt_bot hleg

/-- Behind the start, only the last instruction can end a flash loan. -/
theorem finish_of_endsFlashloan {i : ℕ} {key : Pubkey} {ix : Instruction}
    (hix : (directCycle start endIndex legs finish)[i]? = some ix) (hi : 0 < i)
    (hends : EndsFlashloan d.env.id key ix) : finish.marginfiAccount = key := by
  obtain ⟨k, rfl⟩ := Nat.exists_eq_succ_of_ne_zero hi.ne'
  rw [directCycle, List.getElem?_cons_succ] at hix
  rcases List.mem_append.mp (List.mem_of_getElem? hix) with hleg | hfinish
  · obtain ⟨c, -, rfl⟩ := List.mem_map.mp hleg
    exact absurd hends (not_endsFlashloan_of_bot rfl)
  · obtain rfl := List.mem_singleton.mp hfinish
    obtain ⟨m, hm, hkey⟩ := hends.account
    cases hm
    exact hkey

theorem range_directCycle (n : ℕ) : List.range (n + 2) = 0 :: (List.range' 1 n ++ [n + 1]) := by
  rw [List.range_succ, List.range_eq_range', List.range'_succ]
  rfl

/-- **A whole transaction.**  When a transaction that opens a flash loan directly, runs legs of
the bot and closes the flash loan directly succeeds, the account of the start is closed, and
the last leg on every bank was a repayment of everything. -/
theorem runTransaction_closed {account : MarginfiAccount}
    (hstart : start.marginfiProgram = d.env.id) (hfinish : finish.marginfiProgram = d.env.id)
    (hs : s.marginfiAccounts start.marginfiAccount = some account)
    (hnodup : account.lendingAccount.activeBanks.Nodup)
    (hlegs : ∀ leg ∈ legContexts (directCycle start endIndex legs finish) legs,
      Leg d start.marginfiAccount leg.1 leg.2)
    (hrun : runTransaction d (directCycle start endIndex legs finish) s = .ok u) :
    Closed u start.marginfiAccount ∧
      ∀ leg ∈ legContexts (directCycle start endIndex legs finish) legs,
        ∀ bank, leg.2.bank? = some bank →
          ∃ before tx repay amount after,
            legContexts (directCycle start endIndex legs finish) legs =
              before ++ (tx, .marginfiRepay repay amount true) :: after ∧
            repay.bank = bank ∧ ∀ later ∈ after, later.2.bank? ≠ some bank := by
  have hlength : (directCycle start endIndex legs finish).length = legs.length + 2 := by
    simp [directCycle]
  rw [runTransaction, hlength, range_directCycle, runAll_cons, bind_eq_ok] at hrun
  obtain ⟨t₀, hopen, hrun⟩ := hrun
  rw [runAll_append, bind_eq_ok] at hrun
  obtain ⟨t₁, hmiddle, hrun⟩ := hrun
  obtain ⟨u', hclose, hrun⟩ := bind_eq_ok.mp hrun
  cases hrun
  rw [runAll_directCycle_legs] at hmiddle
  -- the start leaves the positions as they are, and fixes the account of the end
  rw [runAt_direct (w := .startFlashloan start endIndex) directCycle_start hstart] at hopen
  obtain ⟨a, current, endIx, ha, -, -, -, -, hlt, -, hend, hends, -, -, -, -, rfl⟩ :=
    lendingAccountStartFlashloan_eq_ok.mp hopen
  obtain rfl : account = a := Option.some.inj (hs.symm.trans ha)
  have hsame : finish.marginfiAccount = start.marginfiAccount :=
    finish_of_endsFlashloan hend (Nat.zero_lt_of_lt hlt) hends
  have hfollows := runLegs_positions hlegs hmiddle (Ledger.setAccount_same s _ _)
  rw [runAt_direct (w := .endFlashloan finish) directCycle_finish hfinish] at hclose
  rw [← hsame] at hfollows ⊢
  obtain ⟨hclosed, hlast⟩ := hfollows.closed hnodup hclose
  exact ⟨hclosed, fun leg hleg bank => exists_last_repayAll hlast hleg⟩

end Transactions

end FlashLoanBot
