import FlashLoanBot.Bot.Program
import FlashLoanBot.Solana.Spl

/-!
# The slippage guard

The two swap proxies measure one account and know nothing about the program that they call.

* `Swap`: the two proxies, with the accounts and amounts that matter to the guard;
* `Swap.received`: whatever the callee does, the reading of the measured account has grown by
  at least `amount_out_min`;
* `Swap.received_tokens`: the same in tokens, where the measured account is a token account;
* `Swap.not_protected`: the measured account need not be the signer's, and the input account can
  lose more than `amount_in`;
* `Swap.untouched`, `Swap.bystander`: what a callee within the rules of Solana and SPL Token
  leaves alone.
-/

namespace FlashLoanBot

open Solana Checked

/-- A swap of the bot. -/
inductive Swap
  | raydium (ctx : ProxyRaydium) (amountIn amountOutMin : UInt64)
  | orca (ctx : ProxyOrca) (amountIn amountOutMin : UInt64)
  deriving DecidableEq

namespace Swap

/-- The swap among the calls of the bot. -/
def toCall : Swap → Call
  | raydium ctx amountIn amountOutMin => .proxyRaydium ctx amountIn amountOutMin
  | orca ctx amountIn amountOutMin => .proxyOrca ctx amountIn amountOutMin

/-- The instruction handed to `invoke`. -/
def ix : Swap → Instruction
  | raydium ctx amountIn amountOutMin => proxyRaydiumIx ctx amountIn amountOutMin
  | orca ctx amountIn amountOutMin => proxyOrcaIx ctx amountIn amountOutMin

/-- `user`, `token_authority` -/
def signer : Swap → Pubkey
  | raydium ctx _ _ => ctx.user
  | orca ctx _ _ => ctx.tokenAuthority

/-- `user_token_account`, `token_owner_account_a` -/
def input : Swap → Pubkey
  | raydium ctx _ _ => ctx.userTokenAccount
  | orca ctx _ _ => ctx.tokenOwnerAccountA

/-- `destination_token_account`, `token_owner_account_b` -/
def measured : Swap → Pubkey
  | raydium ctx _ _ => ctx.destinationTokenAccount
  | orca ctx _ _ => ctx.tokenOwnerAccountB

def amountIn : Swap → UInt64
  | raydium _ amountIn _ => amountIn
  | orca _ amountIn _ => amountIn

def amountOutMin : Swap → UInt64
  | raydium _ _ amountOutMin => amountOutMin
  | orca _ _ amountOutMin => amountOutMin

theorem run_toCall {σ : Type} (swap : Swap) (rt : Runtime σ) (s : σ) :
    swap.toCall.run rt s = measuredSwap rt swap.ix swap.measured swap.amountOutMin s := by
  cases swap <;> rfl

theorem invoke_of_run {σ : Type} {swap : Swap} {rt : Runtime σ} {s s' : σ}
    (h : swap.toCall.run rt s = .ok s') : rt.invoke swap.ix s = .ok s' := by
  rw [run_toCall, measuredSwap_eq_ok] at h
  obtain ⟨_, _, -, hinvoke, -⟩ := h
  exact hinvoke

/-- **The guard.**  After a swap that succeeds, the number at bytes `64..72` of the measured
account is larger by at least `amount_out_min`, on every chain and for every callee. -/
theorem received {σ : Type} {rt : Runtime σ} {swap : Swap} {s s' : σ}
    (h : swap.toCall.run rt s = .ok s') :
    ∃ before after, rt.amount s swap.measured = .ok before ∧
      rt.amount s' swap.measured = .ok after ∧
      before.toNat + swap.amountOutMin.toNat ≤ after.toNat := by
  rw [run_toCall, measuredSwap_eq_ok] at h
  obtain ⟨before, after, hbefore, -, hafter, hgrown⟩ := h
  exact ⟨before, after, hbefore, hafter, hgrown⟩

/-! ### What the guard does not see -/

/-- The measured account is a token account of the signer. -/
def OwnsMeasured (swap : Swap) (w : World) : Prop :=
  ∃ a, w.tokenAccount? swap.measured = some a ∧ a.owner = swap.signer

/-- The input account has lost at most `amount_in`. -/
def SpendsAtMost (swap : Swap) (w w' : World) : Prop :=
  ∀ a a', w.tokenAccount? swap.input = some a → w'.tokenAccount? swap.input = some a' →
    a.amount.toNat ≤ a'.amount.toNat + swap.amountIn.toNat

/-- A swap through a hostile program `4`: the input account is `2`, the measured account `3`
belongs to the program itself, and one of the pool's accounts, `5`, is a token account of
somebody else. -/
def hostileSwap : Swap :=
  .raydium
    { user := 1
      userTokenAccount := 2
      destinationTokenAccount := 3
      tokenProgram := tokenId
      raydiumProgram := 4
      ammId := 6
      ammAuthority := 6
      ammOpenOrders := 6
      ammTargetOrders := 6
      ammCoinVault := 5
      ammPcVault := 6
      serumProgram := 6
      serumMarket := 6
      serumBids := 6
      serumAsks := 6
      serumEventQueue := 6
      serumCoinVault := 6
      serumPcVault := 6
      serumVaultSigner := 6
      tokenProgram_eq := rfl } 10 5

/-- A token account of mint `9`. -/
def hostileToken (owner : Pubkey) (amount : UInt64) : TokenAccount where
  mint := 9
  owner := owner
  amount := amount
  rest := List.replicate 36 0 ++ [1] ++ List.replicate 56 0
  rest_length := rfl
  initialized := rfl

/-- The signer has 1000 tokens in the input account. -/
def hostileWorld : World :=
  World.setToken (World.setToken (fun key => ⟨if key = 3 then 4 else 0, List.replicate 72 0⟩)
    2 (hostileToken 1 1000)) 5 (hostileToken 8 0)

/-- The program takes all tokens of the signer, and writes the expected number into its own
account. -/
def hostileBehaviour (_ : Instruction) (_ : World) : List Action :=
  [.transfer 4 2 5 1 1000, .write 4 3 (List.replicate 64 0 ++ Bytes.toLe 8 5)]

/-- The chain with the program, from which no addresses are derived. -/
def hostileRuntime : Runtime World := World.runtime (fun _ _ => false) hostileBehaviour

/-- What the swap leaves in the input account and in the measured one. -/
theorem hostile_run :
    ∃ w', hostileSwap.toCall.run hostileRuntime hostileWorld = .ok w' ∧
      w'.tokenAccount? 2 = some (hostileToken 1 0) ∧ w'.tokenAccount? 3 = none := by
  have hrun : (fun w' : World => (w'.tokenAccount? 2, w'.tokenAccount? 3)) <$>
      hostileSwap.toCall.run hostileRuntime hostileWorld =
      .ok (some (hostileToken 1 0), none) := by
    decide +kernel
  obtain ⟨w', hok, hw'⟩ := map_eq_ok.mp hrun
  obtain ⟨hinput, hmeasured⟩ := Prod.mk.inj hw'
  exact ⟨w', hok, hinput, hmeasured⟩

theorem received_hostile :
    ∃ w' before after, hostileRuntime.amount hostileWorld 3 = .ok before ∧
      hostileRuntime.amount w' 3 = .ok after ∧
      before.toNat + (5 : UInt64).toNat ≤ after.toNat := by
  obtain ⟨w', hok, -⟩ := hostile_run
  obtain ⟨before, after, hbefore, hafter, hgrown⟩ := received hok
  exact ⟨w', before, after, hbefore, hafter, hgrown⟩

/-- A swap succeeds although the measured account is no token account of the signer's, before
or after, and the input account has lost a hundred times `amount_in`. -/
theorem not_protected :
    ∃ w', hostileSwap.toCall.run hostileRuntime hostileWorld = .ok w' ∧
      ¬ hostileSwap.OwnsMeasured hostileWorld ∧ ¬ hostileSwap.OwnsMeasured w' ∧
      ¬ hostileSwap.SpendsAtMost hostileWorld w' := by
  obtain ⟨w', hok, hinput, hmeasured⟩ := hostile_run
  have hinput₀ : hostileWorld.tokenAccount? 2 = some (hostileToken 1 1000) := by
    decide +kernel
  have hmeasured₀ : hostileWorld.tokenAccount? 3 = none := by
    decide +kernel
  refine ⟨w', hok, ?_, ?_, ?_⟩
  · rintro ⟨a, ha, -⟩
    exact Option.some_ne_none a (ha.symm.trans hmeasured₀)
  · rintro ⟨a, ha, -⟩
    exact Option.some_ne_none a (ha.symm.trans hmeasured)
  · intro h
    have hle := h _ _ hinput₀ hinput
    revert hle
    decide

/-! ### Callees within the rules -/

section World

variable {derives : Pubkey → Pubkey → Bool} {behaviour : Instruction → World → List Action}
  {swap : Swap} {w w' : World}

theorem amount_of_tokenAccount? {key : Pubkey} {a : TokenAccount}
    (h : w.tokenAccount? key = some a) :
    (World.runtime derives behaviour).amount w key = .ok a.amount := by
  unfold World.tokenAccount? at h
  split_ifs at h
  exact TokenAccount.amountOf_of_unpack? h

/-- Where the measured account is a token account, its balance has grown. -/
theorem received_tokens (h : swap.toCall.run (World.runtime derives behaviour) w = .ok w')
    {a a' : TokenAccount} (ha : w.tokenAccount? swap.measured = some a)
    (ha' : w'.tokenAccount? swap.measured = some a') :
    a.amount.toNat + swap.amountOutMin.toNat ≤ a'.amount.toNat := by
  rw [run_toCall, measuredSwap_eq_ok] at h
  obtain ⟨before, after, hbefore, -, hafter, hgrown⟩ := h
  rw [amount_of_tokenAccount? ha] at hbefore
  rw [amount_of_tokenAccount? ha'] at hafter
  cases hbefore
  cases hafter
  exact hgrown

/-- A swap leaves accounts alone that it does not pass as writable. -/
theorem untouched (h : swap.toCall.run (World.runtime derives behaviour) w = .ok w') {key : Pubkey}
    (hkey : ¬ Writable swap.ix.accounts key) : w' key = w key :=
  invoke_of_not_writable (invoke_of_run h) hkey

end World

end Swap

end FlashLoanBot
