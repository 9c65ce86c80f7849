import FlashLoanBot.Solana.Anchor

/-!
# The bot's account structures

The five `#[derive(Accounts)]` structures of the bot, field by field in the order of the
source.  Most fields are `UncheckedAccount`s, so a structure is little more than a record of
addresses; a `Program<'info, Token>` field holds the SPL Token program, which the
structure records as a proof.
-/

namespace FlashLoanBot

open Solana

/-- The accounts of `marginfi_start_flashloan` and `marginfi_end_flashloan`. -/
structure MarginfiFlashloanBounds where
  marginfiAccount : Pubkey
  signer : Pubkey
  marginfiProgram : Pubkey
  ixsSysvar : Pubkey
  deriving DecidableEq

instance : Accounts MarginfiFlashloanBounds where
  fields := [.mutable "marginfi_account", .signer "signer", .account "marginfi_program",
    .account "ixs_sysvar"]
  keys a := [a.marginfiAccount, a.signer, a.marginfiProgram, a.ixsSysvar]
  ofKeys
    | [a, s, p, x] => some ⟨a, s, p, x⟩
    | _ => none
  keys_admitted a := by simp
  ofKeys_keys a := rfl
  keys_ofKeys ks a h := by
    split at h
    · cases h
      rfl
    · cases h

/-- The accounts of `marginfi_borrow`. -/
structure MarginfiBorrow where
  marginfiGroup : Pubkey
  marginfiAccount : Pubkey
  signer : Pubkey
  bank : Pubkey
  destinationTokenAccount : Pubkey
  bankLiquidityVaultAuthority : Pubkey
  bankLiquidityVault : Pubkey
  tokenProgram : Pubkey
  marginfiProgram : Pubkey
  tokenProgram_eq : tokenProgram = tokenId
  deriving DecidableEq

instance : Accounts MarginfiBorrow where
  fields := [.account "marginfi_group", .mutable "marginfi_account", .signer "signer",
    .mutable "bank", .mutable "destination_token_account",
    .account "bank_liquidity_vault_authority", .mutable "bank_liquidity_vault",
    .program "token_program" [tokenId], .account "marginfi_program"]
  keys a := [a.marginfiGroup, a.marginfiAccount, a.signer, a.bank, a.destinationTokenAccount,
    a.bankLiquidityVaultAuthority, a.bankLiquidityVault, a.tokenProgram, a.marginfiProgram]
  ofKeys
    | [g, a, s, b, d, va, v, t, p] =>
        if h : t = tokenId then some ⟨g, a, s, b, d, va, v, t, p, h⟩ else none
    | _ => none
  keys_admitted a := by simp [a.tokenProgram_eq]
  ofKeys_keys a := dif_pos a.tokenProgram_eq
  keys_ofKeys ks a h := by
    split at h
    · split_ifs at h
      cases h
      rfl
    · cases h

/-- The accounts of `marginfi_repay`. -/
structure MarginfiRepay where
  marginfiGroup : Pubkey
  marginfiAccount : Pubkey
  signer : Pubkey
  bank : Pubkey
  signerTokenAccount : Pubkey
  bankLiquidityVault : Pubkey
  tokenProgram : Pubkey
  marginfiProgram : Pubkey
  tokenProgram_eq : tokenProgram = tokenId
  deriving DecidableEq

instance : Accounts MarginfiRepay where
  fields := [.account "marginfi_group", .mutable "marginfi_account", .signer "signer",
    .mutable "bank", .mutable "signer_token_account", .mutable "bank_liquidity_vault",
    .program "token_program" [tokenId], .account "marginfi_program"]
  keys a := [a.marginfiGroup, a.marginfiAccount, a.signer, a.bank, a.signerTokenAccount,
    a.bankLiquidityVault, a.tokenProgram, a.marginfiProgram]
  ofKeys
    | [g, a, s, b, d, v, t, p] =>
        if h : t = tokenId then some ⟨g, a, s, b, d, v, t, p, h⟩ else none
    | _ => none
  keys_admitted a := by simp [a.tokenProgram_eq]
  ofKeys_keys a := dif_pos a.tokenProgram_eq
  keys_ofKeys ks a h := by
    split at h
    · split_ifs at h
      cases h
      rfl
    · cases h

/-- The accounts of `proxy_raydium`. -/
structure ProxyRaydium where
  user : Pubkey
  userTokenAccount : Pubkey
  destinationTokenAccount : Pubkey
  tokenProgram : Pubkey
  raydiumProgram : Pubkey
  ammId : Pubkey
  ammAuthority : Pubkey
  ammOpenOrders : Pubkey
  ammTargetOrders : Pubkey
  ammCoinVault : Pubkey
  ammPcVault : Pubkey
  serumProgram : Pubkey
  serumMarket : Pubkey
  serumBids : Pubkey
  serumAsks : Pubkey
  serumEventQueue : Pubkey
  serumCoinVault : Pubkey
  serumPcVault : Pubkey
  serumVaultSigner : Pubkey
  tokenProgram_eq : tokenProgram = tokenId
  deriving DecidableEq

instance : Accounts ProxyRaydium where
  fields := [.mutSigner "user", .mutable "user_token_account",
    .mutable "destination_token_account", .program "token_program" [tokenId],
    .account "raydium_program", .mutable "amm_id", .account "amm_authority",
    .mutable "amm_open_orders", .mutable "amm_target_orders", .mutable "amm_coin_vault",
    .mutable "amm_pc_vault", .account "serum_program", .mutable "serum_market",
    .mutable "serum_bids", .mutable "serum_asks", .mutable "serum_event_queue",
    .mutable "serum_coin_vault", .mutable "serum_pc_vault", .account "serum_vault_signer"]
  keys a := [a.user, a.userTokenAccount, a.destinationTokenAccount, a.tokenProgram,
    a.raydiumProgram, a.ammId, a.ammAuthority, a.ammOpenOrders, a.ammTargetOrders,
    a.ammCoinVault, a.ammPcVault, a.serumProgram, a.serumMarket, a.serumBids, a.serumAsks,
    a.serumEventQueue, a.serumCoinVault, a.serumPcVault, a.serumVaultSigner]
  ofKeys
    | [u, i, o, t, p, am, aa, oo, ta, cv, pv, sp, sm, sb, sa, se, sc, spv, sv] =>
        if h : t = tokenId then
          some ⟨u, i, o, t, p, am, aa, oo, ta, cv, pv, sp, sm, sb, sa, se, sc, spv, sv, h⟩
        else none
    | _ => none
  keys_admitted a := by simp [a.tokenProgram_eq]
  ofKeys_keys a := dif_pos a.tokenProgram_eq
  keys_ofKeys ks a h := by
    split at h
    · split_ifs at h
      cases h
      rfl
    · cases h

/-- The accounts of `proxy_orca`. -/
structure ProxyOrca where
  tokenProgram : Pubkey
  tokenAuthority : Pubkey
  whirlpoolProgram : Pubkey
  whirlpool : Pubkey
  tokenOwnerAccountA : Pubkey
  tokenVaultA : Pubkey
  tokenOwnerAccountB : Pubkey
  tokenVaultB : Pubkey
  tickArray0 : Pubkey
  tickArray1 : Pubkey
  tickArray2 : Pubkey
  oracle : Pubkey
  tokenProgram_eq : tokenProgram = tokenId
  deriving DecidableEq

instance : Accounts ProxyOrca where
  fields := [.program "token_program" [tokenId], .signer "token_authority",
    .account "whirlpool_program", .mutable "whirlpool", .mutable "token_owner_account_a",
    .mutable "token_vault_a", .mutable "token_owner_account_b", .mutable "token_vault_b",
    .mutable "tick_array_0", .mutable "tick_array_1", .mutable "tick_array_2",
    .mutable "oracle"]
  keys a := [a.tokenProgram, a.tokenAuthority, a.whirlpoolProgram, a.whirlpool,
    a.tokenOwnerAccountA, a.tokenVaultA, a.tokenOwnerAccountB, a.tokenVaultB, a.tickArray0,
    a.tickArray1, a.tickArray2, a.oracle]
  ofKeys
    | [t, u, p, w, ia, va, ob, vb, t0, t1, t2, o] =>
        if h : t = tokenId then some ⟨t, u, p, w, ia, va, ob, vb, t0, t1, t2, o, h⟩ else none
    | _ => none
  keys_admitted a := by simp [a.tokenProgram_eq]
  ofKeys_keys a := dif_pos a.tokenProgram_eq
  keys_ofKeys ks a h := by
    split at h
    · split_ifs at h
      cases h
      rfl
    · cases h

end FlashLoanBot
