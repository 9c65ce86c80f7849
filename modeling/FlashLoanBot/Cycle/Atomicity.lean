import FlashLoanBot.Cycle.Closing
import FlashLoanBot.Lib.Brackets
import FlashLoanBot.Marginfi.Loans

/-!
# Flash loans within a transaction

A flash loan lifts the health check of an account.  What keeps this safe is that marginfi
opens one only when the transaction has, further on, the instruction that closes it.  This
holds whatever else the transaction contains: instructions of the bot, of other programs, and
calls of marginfi from all of them.

* `Invokes`, `Standard`: what other programs can do to marginfi, which is to call it;
* `StartsAt`, `EndsAt`: the instructions that open and close the flash loan of an account;
* `bracketed`: a transaction is a bracketed list of instructions;
* `runTransaction_none_inFlashloan`: no flash loan outlives its transaction;
* `History`, `History.none_inFlashloan`: no flash loan outlives its transaction, in any history;
* `borrow_bracketed`: a loan that the bot takes stands between a start and a checked end.
-/

namespace FlashLoanBot

open Solana Checked Marginfi Slots Brackets

variable {τ : Type}

/-! ### Other programs -/

/-- What a program can do to the chain while the instruction at an index is executed: change
what marginfi does not own, and call marginfi, any number of times and from any depth. -/
inductive Invokes (d : Deployment τ) (ixs : List Instruction) (i : ℕ) :
    Ledger τ → Ledger τ → Prop
  | refl {s : Ledger τ} : Invokes d ixs i s s
  | other {s t : Ledger τ} (x : τ) : Invokes d ixs i s t → Invokes d ixs i s { t with rest := x }
  | marginfi {s t u : Ledger τ} {height : ℕ} {ix : Instruction} : Invokes d ixs i s t →
      topLevelHeight < height → Marginfi.process d ⟨ixs, i, height⟩ ix t = .ok u →
      Invokes d ixs i s u

/-- Programs change what marginfi owns only by calling it.  Its instructions are the ones that are
modelled; what an instruction does that is none of them is not known, except that it does not
touch the flag. -/
structure Standard (d : Deployment τ) : Prop where
  programs {tx : TxContext} {ix : Instruction} {s t : Ledger τ} :
    d.otherPrograms tx ix s = .ok t → Invokes d tx.instructions tx.currentIndex s t
  handlers {name : String} {tx : TxContext} {ix : Instruction} {s t : Ledger τ} :
    d.otherHandlers name tx ix s = .ok t → ¬Executes name s t → SameLoans s t

section Programs

variable {d : Deployment τ} {ixs : List Instruction} {i : ℕ} {s t : Ledger τ}

/-- Whatever else marginfi executes neither opens nor closes flash loans. -/
theorem Standard.otherHandlers_sameLoans (hd : Standard d) {tx : TxContext} {ix : Instruction}
    {name : String} {args : List UInt8} (hparse : Marginfi.parse ix = .ok (.other name args))
    (h : d.otherHandlers name tx ix s = .ok t) : SameLoans s t := by
  obtain ⟨hstart, hend⟩ := name_of_parse_other hparse
  by_cases hexec : Executes name s t
  · exact hexec.sameLoans hstart hend
  · exact hd.handlers h hexec

/-- Below the top level, marginfi neither opens nor closes flash loans. -/
theorem process_sameLoans (hd : Standard d) {tx : TxContext} {ix : Instruction}
    (hheight : tx.stackHeight ≠ topLevelHeight) (h : Marginfi.process d tx ix s = .ok t) :
    SameLoans s t := by
  obtain ⟨entry, hparse, h⟩ := bind_eq_ok.mp h
  cases entry with
  | other name args => exact hd.otherHandlers_sameLoans hparse h
  | call parsed =>
    obtain ⟨c, remaining, unread⟩ := parsed
    cases c with
    | startFlashloan ctx endIndex =>
      obtain ⟨_, _, _, -, -, -, -, -, -, htop, -⟩ := lendingAccountStartFlashloan_eq_ok.mp h
      exact absurd htop hheight
    | endFlashloan ctx =>
      obtain ⟨_, _, -, htop, -⟩ := lendingAccountEndFlashloan_inv h
      exact absurd htop hheight
    | borrow ctx amount => exact sameLoans_of_moves (lendingAccountBorrow_moves h)
    | repay ctx amount repayAll => exact sameLoans_of_moves (lendingAccountRepay_moves h)

/-- No program opens or closes a flash loan by calling marginfi. -/
theorem Invokes.sameLoans (hd : Standard d) (h : Invokes d ixs i s t) : SameLoans s t := by
  induction h with
  | refl => exact fun key => Iff.rfl
  | other x _ ih => exact ih
  | marginfi _ hheight hprocess ih => exact ih.trans (process_sameLoans hd hheight.ne' hprocess)

/-- What the bot hands on is run as a callee. -/
theorem invokes_of_invoke (hd : Standard d) {ix : Instruction}
    (h : (d.runtime (.topLevel ixs i)).invoke ix s = .ok t) : Invokes d ixs i s t := by
  simp only [Deployment.runtime] at h
  split_ifs at h with hid
  · exact .marginfi .refl (Nat.lt_succ_self _) h
  · exact hd.programs h

/-- A top-level instruction is one of marginfi's own, or calls marginfi at most. -/
theorem runAt_cases (hd : Standard d) (h : runAt d ixs s i = .ok t) :
    ∃ ix, ixs[i]? = some ix ∧
      (ix.programId = d.env.id ∧ Marginfi.process d (.topLevel ixs i) ix s = .ok t ∨
        ix.programId ≠ d.env.id ∧ Invokes d ixs i s t) := by
  obtain ⟨ix, hix, h⟩ := bind_eq_ok.mp h
  refine ⟨ix, fromOption_eq_ok.mp hix, ?_⟩
  split_ifs at h with hid hbot
  · exact .inl ⟨hid, h⟩
  · obtain ⟨c, -, hrun⟩ := bind_eq_ok.mp h
    exact .inr ⟨hid, invokes_of_invoke hd (Call.invoke_of_run hrun)⟩
  · exact .inr ⟨hid, hd.programs h⟩

end Programs

/-! ### Starts and ends -/

/-- The instruction at an index is read by marginfi as the start of a flash loan of an account. -/
def StartsAt (d : Deployment τ) (ixs : List Instruction) (i : ℕ) (key : Pubkey) : Prop :=
  ∃ ix ctx endIndex remaining unread, ixs[i]? = some ix ∧ ix.programId = d.env.id ∧
    Marginfi.parse ix = .ok (.call ⟨.startFlashloan ctx endIndex, remaining, unread⟩) ∧
    ctx.marginfiAccount = key

/-- The instruction at an index ends the flash loan of an account. -/
def EndsAt (d : Deployment τ) (ixs : List Instruction) (i : ℕ) (key : Pubkey) : Prop :=
  ∃ ix, ixs[i]? = some ix ∧ EndsFlashloan d.env.id key ix

theorem EndsAt.lt_length {d : Deployment τ} {ixs : List Instruction} {i : ℕ} {key : Pubkey}
    (h : EndsAt d ixs i key) : i < ixs.length := by
  obtain ⟨ix, hix, -⟩ := h
  exact (List.getElem?_eq_some_iff.mp hix).1

/-- What looks like an end to the start is parsed as the end for the same account. -/
theorem parse_of_endsFlashloan {id key : Pubkey} {ix : Instruction} {entry : Entry}
    (hends : EndsFlashloan id key ix) (h : Marginfi.parse ix = .ok entry) :
    ∃ ctx remaining unread, entry = .call ⟨.endFlashloan ctx, remaining, unread⟩ ∧
      ctx.marginfiAccount = key := by
  have hdata : ix.data = sighash "lending_account_end_flashloan" ++ ix.data.drop 8 := by
    rw [sighash_endFlashloan]
    exact (List.take_append_drop 8 ix.data).symm.trans (congrArg (· ++ _) hends.discriminator)
  have hdispatch : dispatch sighash handlerNames ix.data =
      some ("lending_account_end_flashloan", ix.data.drop 8) :=
    (dispatch_eq_some sighash_length nodup_sighash).mpr ⟨by simp [handlerNames], hdata⟩
  simp only [Marginfi.parse, hdispatch, readArgs, String.reduceEq, if_true, if_false] at h
  obtain ⟨⟨c, remaining, unread⟩, hread, hentry⟩ := map_eq_ok.mp h
  obtain ⟨ctx, _, ms, hcall, hmetas, hgranted, -⟩ := Marginfi.readCall_eq_ok.mp hread
  obtain rfl : c = .endFlashloan ctx := hcall
  refine ⟨ctx, remaining, unread, hentry.symm, ?_⟩
  -- both read the account from the first meta
  obtain ⟨m, hm, hkey⟩ := hends.account
  cases hgranted with
  | @cons f fs k ks m' ms hfirst hrest =>
    rw [hmetas] at hm
    obtain rfl : m' = m := by simpa using hm
    exact hfirst.pubkey.symm.trans hkey

theorem endsFlashloan_of_parse {id : Pubkey} {ix : Instruction} {ctx : LendingAccountEndFlashloan}
    {remaining : List AccountMeta} {unread : List UInt8} (hid : ix.programId = id)
    (h : Marginfi.parse ix = .ok (.call ⟨.endFlashloan ctx, remaining, unread⟩)) :
    EndsFlashloan id ctx.marginfiAccount ix := by
  obtain ⟨data, hdata, ms, hmetas, hgranted, -⟩ := Marginfi.parse_eq_call.mp h
  refine ⟨?_, hid, ?_⟩
  · rw [hdata, List.take_left' (sighash_length _)]
    exact sighash_endFlashloan
  · cases hgranted with
    | @cons f fs k ks m ms hfirst hrest =>
      exact ⟨m, by simp [hmetas], hfirst.pubkey⟩

section Transactions

variable {d : Deployment τ} {ixs : List Instruction} {i : ℕ} {s t u : Ledger τ} {key : Pubkey}

/-- What an end of the flash loan of an account has checked: the account, with the flag
cleared, passes the health check on the accounts that follow. -/
def ClosedChecked (d : Deployment τ) (s t : Ledger τ) (key : Pubkey) : Prop :=
  ∃ account engine remaining, s.marginfiAccounts key = some account ∧
    RiskEngine.checkAccountInitHealth s.banks (d.env.priceFeed s.rest)
      (account.unsetFlag accountInFlashloanFlag) remaining = .ok engine ∧
    t = s.setAccount key (account.unsetFlag accountInFlashloanFlag)

theorem ClosedChecked.inFlashloan_iff (h : ClosedChecked d s t key) (other : Pubkey) :
    InFlashloan t other ↔ other ≠ key ∧ InFlashloan s other := by
  obtain ⟨account, _, _, -, -, rfl⟩ := h
  rw [inFlashloan_setAccount]
  by_cases hkey : other = key
  · simp [hkey]
  · simp [hkey]

/-- An instruction that ends a flash loan and succeeds has checked the account. -/
theorem closedChecked_of_endsAt (hends : EndsAt d ixs i key) (h : runAt d ixs s i = .ok t) :
    ClosedChecked d s t key := by
  obtain ⟨ix, hix, hends⟩ := hends
  rw [runAt_marginfi hix hends.programId] at h
  obtain ⟨entry, hparse, h⟩ := bind_eq_ok.mp h
  obtain ⟨ctx, remaining, unread, rfl, rfl⟩ := parse_of_endsFlashloan hends hparse
  obtain ⟨account, engine, hload, -, hhealth, rfl⟩ := lendingAccountEndFlashloan_inv h
  exact ⟨account, engine, _, hload, hhealth, rfl⟩

/-- A top-level instruction of marginfi starts a flash loan, ends one, or does neither. -/
theorem process_top_cases (hd : Standard d) {ix : Instruction} (hix : ixs[i]? = some ix)
    (hid : ix.programId = d.env.id) (h : Marginfi.process d (.topLevel ixs i) ix s = .ok t) :
    (∃ key, StartsAt d ixs i key ∧ (∃ j, i < j ∧ EndsAt d ixs j key) ∧
        ∀ other, InFlashloan t other ↔ other = key ∨ InFlashloan s other) ∨
      (∃ key, EndsAt d ixs i key) ∨ SameLoans s t := by
  obtain ⟨entry, hparse, h⟩ := bind_eq_ok.mp h
  cases entry with
  | other name args => exact .inr (.inr (hd.otherHandlers_sameLoans hparse h))
  | call parsed =>
    obtain ⟨c, remaining, unread⟩ := parsed
    cases c with
    | startFlashloan ctx endIndex =>
      obtain ⟨account, _, endIx, -, -, -, -, -, hlt, -, hend, hends, -, -, -, -, rfl⟩ :=
        lendingAccountStartFlashloan_eq_ok.mp h
      refine .inl ⟨ctx.marginfiAccount, ⟨ix, ctx, endIndex, remaining, unread, hix, hid, hparse,
        rfl⟩, ⟨endIndex.toNat, hlt, endIx, hend, hends⟩, fun other => ?_⟩
      have hset : (account.setFlag accountInFlashloanFlag).getFlag accountInFlashloanFlag = true :=
        MarginfiAccount.getFlag_setFlag account (by decide)
      rw [inFlashloan_setAccount]
      by_cases hkey : other = ctx.marginfiAccount <;> simp [hkey, hset]
    | endFlashloan ctx =>
      exact .inr (.inl ⟨ctx.marginfiAccount, ix, hix, endsFlashloan_of_parse hid hparse⟩)
    | borrow ctx amount => exact .inr (.inr (sameLoans_of_moves (lendingAccountBorrow_moves h)))
    | repay ctx amount repayAll =>
      exact .inr (.inr (sameLoans_of_moves (lendingAccountRepay_moves h)))

/-! ### Whole transactions -/

/-- **A transaction is bracketed**: flash loans are opened by starts only, each with an end
further on, and closed by ends only. -/
theorem bracketed (hd : Standard d) :
    Bracketed (runAt d ixs) InFlashloan (StartsAt d ixs) (EndsAt d ixs) where
  opened {i s t k} h hk := by
    obtain ⟨ix, hix, ⟨hid, hprocess⟩ | ⟨-, hinvokes⟩⟩ := runAt_cases hd h
    · rcases process_top_cases hd hix hid hprocess with
        ⟨key, hstarts, hends, hloans⟩ | ⟨key, hends⟩ | hsame
      · rcases (hloans k).mp hk with rfl | hopen
        · exact .inr ⟨hstarts, hends⟩
        · exact .inl hopen
      · exact .inl (((closedChecked_of_endsAt hends h).inFlashloan_iff k).mp hk).2
      · exact .inl ((hsame k).mp hk)
    · exact .inl ((hinvokes.sameLoans hd k).mp hk)
  closed h hends hk := (((closedChecked_of_endsAt hends h).inFlashloan_iff _).mp hk).1 rfl
  kept {i s t k} h hk hends := by
    obtain ⟨ix, hix, ⟨hid, hprocess⟩ | ⟨-, hinvokes⟩⟩ := runAt_cases hd h
    · rcases process_top_cases hd hix hid hprocess with
        ⟨key, -, -, hloans⟩ | ⟨key, hends'⟩ | hsame
      · exact (hloans k).mpr (.inr hk)
      · have hne : k ≠ key := by
          rintro rfl
          exact hends hends'
        exact ((closedChecked_of_endsAt hends' h).inFlashloan_iff k).mpr ⟨hne, hk⟩
      · exact (hsame k).mpr hk
    · exact (hinvokes.sameLoans hd k).mpr hk

/-- No flash loan outlives its transaction. -/
theorem runTransaction_none_inFlashloan (hd : Standard d) (hs : ∀ key, ¬InFlashloan s key)
    (h : runTransaction d ixs s = .ok t) (key : Pubkey) : ¬InFlashloan t key :=
  (bracketed hd).none_open (fun _ _ hends => hends.lt_length) hs h key

/-- An account in a flash loan passes the health check later on: at an end of its flash loan
further on in the transaction, which finds it in the flash loan still. -/
theorem flashloan_health_checked (hd : Standard d) (hs : ∀ key, ¬InFlashloan s key)
    (h : runTransaction d ixs s = .ok u) (hi : i ≤ ixs.length)
    (hpre : runAll (runAt d ixs) s (List.range i) = .ok t) (hkey : InFlashloan t key) :
    ∃ j v w, i ≤ j ∧ EndsAt d ixs j key ∧ InFlashloan v key ∧
      runAll (runAt d ixs) s (List.range j) = .ok v ∧ runAt d ixs v j = .ok w ∧
      ClosedChecked d v w key := by
  obtain ⟨j, v, w, hij, -, hends, hopen, hbefore, hstep⟩ :=
    (bracketed hd).closed_behind (fun _ _ hends => hends.lt_length) hs h hi hpre hkey
  exact ⟨j, v, w, hij, hends, hopen, hbefore, hstep, closedChecked_of_endsAt hends hstep⟩

/-- An instruction that starts a flash loan and succeeds leaves the account in it. -/
theorem inFlashloan_of_startsAt (hstarts : StartsAt d ixs i key) (h : runAt d ixs s i = .ok t) :
    InFlashloan t key := by
  obtain ⟨ix, ctx, endIndex, remaining, unread, hix, hid, hparse, rfl⟩ := hstarts
  rw [runAt_marginfi hix hid] at h
  obtain ⟨entry, hentry, h⟩ := bind_eq_ok.mp h
  cases hparse.symm.trans hentry
  obtain ⟨account, _, _, -, -, -, -, -, -, -, -, -, -, -, -, -, rfl⟩ :=
    lendingAccountStartFlashloan_eq_ok.mp h
  rw [inFlashloan_setAccount, if_pos rfl]
  exact MarginfiAccount.getFlag_setFlag account (by decide)

/-- **What is started is ended**: further on in the transaction there is an end of the same
account, which finds it in its flash loan and has checked it. -/
theorem start_closed (hd : Standard d) (hs : ∀ key, ¬InFlashloan s key)
    (h : runTransaction d ixs s = .ok u) (hstarts : StartsAt d ixs i key) :
    ∃ j v w, i < j ∧ EndsAt d ixs j key ∧ InFlashloan v key ∧
      runAll (runAt d ixs) s (List.range j) = .ok v ∧ runAt d ixs v j = .ok w ∧
      ClosedChecked d v w key := by
  obtain ⟨ix, _, _, _, _, hix, -⟩ := id hstarts
  have hi : i + 1 ≤ ixs.length := (List.getElem?_eq_some_iff.mp hix).1
  obtain ⟨t, hpre, -⟩ := run_split h hi
  obtain ⟨r, -, hstep⟩ := bind_eq_ok.mp
    (show runAll (runAt d ixs) s (List.range i) >>= (runAll (runAt d ixs) · [i]) = .ok t by
      rwa [← runAll_append, ← List.range_succ])
  rw [runAll_cons, bind_eq_ok] at hstep
  obtain ⟨t', hstep, hnil⟩ := hstep
  cases hnil
  obtain ⟨j, v, w, hij, hends⟩ :=
    flashloan_health_checked hd hs h hi hpre (inFlashloan_of_startsAt hstarts hstep)
  exact ⟨j, v, w, by omega, hends⟩

end Transactions

/-! ### A sample -/

theorem standard_sampleDeployment : Standard sampleDeployment where
  programs h := nomatch h
  handlers h := nomatch h

/-- Open a flash loan, borrow one USDC, repay everything, and close the flash loan. -/
def sampleCycle : List Instruction :=
  directCycle sampleBounds 3 (sampleLegs.map Prod.snd) sampleBounds

/-- The state before the transaction: as between the start and the end, without the flag. -/
def sampleIdle : Ledger (Pubkey → ℕ) := sampleLending.setAccount 1 sampleAccount

theorem sampleCycle_run (s : Ledger (Pubkey → ℕ)) :
    runTransaction sampleDeployment sampleCycle s =
      ((Wrapper.startFlashloan sampleBounds 3).marginfiCall.run sampleDeployment.env
        (.topLevel sampleCycle 0) [] s >>= fun s₁ =>
      (Wrapper.borrow sampleBorrow 1000000).marginfiCall.run sampleDeployment.env
        (TxContext.topLevel sampleCycle 1).callee [] s₁ >>= fun s₂ =>
      (Wrapper.repay sampleRepay 0 true).marginfiCall.run sampleDeployment.env
        (TxContext.topLevel sampleCycle 2).callee [] s₂ >>= fun s₃ =>
      (Wrapper.endFlashloan sampleBounds).marginfiCall.run sampleDeployment.env
        (.topLevel sampleCycle 3) [] s₃ >>= .ok) := by
  have hprogram : Cluster.mainnetBeta.id = sampleDeployment.env.id := rfl
  have hstart (t : Ledger (Pubkey → ℕ)) : runAt sampleDeployment sampleCycle t 0 = _ :=
    runAt_direct (w := .startFlashloan sampleBounds 3) directCycle_start hprogram
  have hborrow (t : Ledger (Pubkey → ℕ)) : runAt sampleDeployment sampleCycle t 1 = _ :=
    runAt_wrapper (w := .borrow sampleBorrow 1000000) (directCycle_leg rfl) hprogram
  have hrepay (t : Ledger (Pubkey → ℕ)) : runAt sampleDeployment sampleCycle t 2 = _ :=
    runAt_wrapper (w := .repay sampleRepay 0 true) (directCycle_leg rfl) hprogram
  have hend (t : Ledger (Pubkey → ℕ)) : runAt sampleDeployment sampleCycle t 3 = _ :=
    runAt_direct (w := .endFlashloan sampleBounds) directCycle_finish hprogram
  have hlength : sampleCycle.length = 4 := rfl
  simp only [runTransaction, hlength, List.range_succ, List.range_zero, List.nil_append,
    List.cons_append, runAll_cons, runAll_nil, hstart, hborrow, hrepay, hend]

theorem sampleCycle_ok : ∃ t, runTransaction sampleDeployment sampleCycle sampleIdle = .ok t := by
  have hok : (runTransaction sampleDeployment sampleCycle sampleIdle).isOk = true := by
    rw [sampleCycle_run]
    decide +kernel
  cases hrun : runTransaction sampleDeployment sampleCycle sampleIdle with
  | ok t => exact ⟨t, rfl⟩
  | error e => rw [hrun] at hok; cases hok

theorem sampleIdle_none_inFlashloan (key : Pubkey) : ¬InFlashloan sampleIdle key := by
  have hflag : sampleAccount.getFlag accountInFlashloanFlag = false := by decide
  rw [sampleIdle, inFlashloan_setAccount]
  by_cases hkey : key = 1
  · simp [hkey, hflag]
  · rw [if_neg hkey]
    rintro ⟨account, hload, -⟩
    simp [sampleLending] at hload
    exact hkey hload.1

/-! ### Histories -/

section Histories

variable {d : Deployment τ} {ixs : List Instruction} {i : ℕ} {s t u : Ledger τ}

/-- A history of transactions that succeed, each on the chain as it is then; a transaction that
fails leaves no trace. -/
def History : Ledger τ → Ledger τ → Prop :=
  Relation.ReflTransGen fun s t => ∃ d ixs, Standard d ∧ runTransaction d ixs s = .ok t

theorem History.none_open (h : History s t) (hs : ∀ key, ¬InFlashloan s key) (key : Pubkey) :
    ¬InFlashloan t key := by
  induction h generalizing key with
  | refl => exact hs key
  | tail _ hlast ih =>
    obtain ⟨d, ixs, hd, hrun⟩ := hlast
    exact runTransaction_none_inFlashloan hd ih hrun key

/-- **Between transactions no account is in a flash loan**, in any history that starts from
there, and whatever flash loan the next transaction starts, it ends further on, by an end that
finds the account in it and has checked it. -/
theorem History.none_inFlashloan (h : History s t) (hs : ∀ key, ¬InFlashloan s key) :
    (∀ key, ¬InFlashloan t key) ∧
      ∀ (d : Deployment τ) (ixs : List Instruction) (u : Ledger τ), Standard d →
        runTransaction d ixs t = .ok u → ∀ i key, StartsAt d ixs i key →
          ∃ j v w, i < j ∧ EndsAt d ixs j key ∧ InFlashloan v key ∧
            runAll (runAt d ixs) t (List.range j) = .ok v ∧ runAt d ixs v j = .ok w ∧
            ClosedChecked d v w key :=
  ⟨h.none_open hs, fun _ _ _ hd hrun _ _ hstarts => start_closed hd (h.none_open hs) hrun hstarts⟩

/-- An account with positions passes the health check on no accounts only in a flash loan. -/
theorem getFlag_of_health_nil {banks : Pubkey → Option Bank}
    {feed : Bank → List Pubkey → Except ProgramError PriceFeed} {account : MarginfiAccount}
    {engine : Option RiskEngine}
    (h : RiskEngine.checkAccountInitHealth banks feed account [] = .ok engine) {k : Pubkey}
    (hk : k ∈ account.lendingAccount.activeBanks) :
    account.getFlag accountInFlashloanFlag = true := by
  by_contra hflag
  have hempty := (RiskEngine.checkAccountInitHealth_nil (by simpa using hflag)).mp ⟨engine, h⟩
  rw [LendingAccount.activeBanks_eq_zero.mpr hempty] at hk
  exact Multiset.notMem_zero _ hk

/-- marginfi lends without accounts for a health check only inside a flash loan. -/
theorem inFlashloan_of_borrow {env : Env τ} {ctx : LendingAccountBorrow} {amount : UInt64}
    (hspl : ctx.tokenProgram = tokenId) (h : lendingAccountBorrow env ctx [] amount s = .ok t) :
    InFlashloan s ctx.marginfiAccount := by
  obtain ⟨a, a', -, ha', -, -, hmoves⟩ := lendingAccountBorrow_moves h
  simp only [lendingAccountBorrow, bind_eq_ok, maybeTakeBankMint_of_spl hspl, Ledger.loadAccount,
    fromOption_eq_ok] at h
  obtain ⟨group, -, account, hload, bank, -, _, -, _, -, ⟨mint, ais⟩, hmint, _, -, bank, -, _, -,
    _, -, w, -, pre, -, ⟨fee, feeU64⟩, -, ⟨account', bank'⟩, hrecord, rest, -, _, -, _, -, engine,
    hhealth, _, -, h⟩ := h
  cases h
  cases hmint
  simp only [recordBorrow, bind_eq_ok] at hrecord
  obtain ⟨_, -, v, -, hrecord⟩ := hrecord
  cases hrecord
  have hsame := congrFun ha' ctx.marginfiAccount
  simp only [Ledger.setBank, Ledger.setAccount_same, Function.update_self, Option.some.injEq]
    at hsame
  subst hsame
  -- the loan is a position, so the check was passed over
  have hflag := getFlag_of_health_nil hhealth (Op.Step.mem_of_acquire hmoves)
  exact ⟨account, hload, hflag⟩

/-- **A loan that the bot takes stands between a start and a checked end** of its account, in
every transaction that succeeds. -/
theorem borrow_bracketed {ctx : MarginfiBorrow} {amount : UInt64} (hd : Standard d)
    (hs : ∀ key, ¬InFlashloan s key) (h : runTransaction d ixs s = .ok u)
    (hborrow : Lists ixs i (.marginfiBorrow ctx amount))
    (hprogram : ctx.marginfiProgram = d.env.id) :
    (∃ j, j < i ∧ StartsAt d ixs j ctx.marginfiAccount) ∧
      ∃ j v w, i < j ∧ EndsAt d ixs j ctx.marginfiAccount ∧
        runAll (runAt d ixs) s (List.range j) = .ok v ∧ runAt d ixs v j = .ok w ∧
        ClosedChecked d v w ctx.marginfiAccount := by
  obtain ⟨ix, hix, hbot, -⟩ := id hborrow
  have hi : i < ixs.length := (List.getElem?_eq_some_iff.mp hix).1
  obtain ⟨t, hpre, hrest⟩ := run_split h hi.le
  obtain ⟨m, hm⟩ : ∃ m, ixs.length - i = m + 1 := ⟨ixs.length - i - 1, by omega⟩
  rw [hm, List.range'_succ, runAll_cons, bind_eq_ok] at hrest
  obtain ⟨t', hstep, -⟩ := hrest
  rw [runAt_wrapper (w := .borrow ctx amount) hborrow hprogram] at hstep
  have hkey : InFlashloan t ctx.marginfiAccount := inFlashloan_of_borrow ctx.tokenProgram_eq hstep
  constructor
  · exact (bracketed hd).opened_before hs hpre hkey
  · obtain ⟨j, v, w, hij, hends, -, hbefore, hend, hchecked⟩ :=
      flashloan_health_checked hd hs h hi.le hpre hkey
    have hne : i ≠ j := by
      rintro rfl
      obtain ⟨ix', hix', hends'⟩ := hends
      obtain rfl : ix = ix' := Option.some.inj (hix.symm.trans hix')
      exact not_endsFlashloan_of_bot hbot hends'
    exact ⟨j, v, w, by omega, hends, hbefore, hend, hchecked⟩

theorem borrow_bracketed_sample :
    ∃ j v w, 1 < j ∧ runAt sampleDeployment sampleCycle v j = .ok w ∧
      ClosedChecked sampleDeployment v w 1 := by
  obtain ⟨t, hrun⟩ := sampleCycle_ok
  have hborrow : Lists sampleCycle 1 (.marginfiBorrow sampleBorrow 1000000) := directCycle_leg rfl
  obtain ⟨-, j, v, w, hj, -, -, hstep, hchecked⟩ :=
    borrow_bracketed standard_sampleDeployment sampleIdle_none_inFlashloan hrun hborrow rfl
  exact ⟨j, v, w, hj, hstep, hchecked⟩

end Histories

end FlashLoanBot
