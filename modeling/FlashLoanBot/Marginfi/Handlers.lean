import FlashLoanBot.Solana.Anchor

/-!
# marginfi: the table of handlers

The names of all instructions of the embedded marginfi program, with their discriminators.

* `handlerNames`: the instructions in the order of the source;
* `map_sighash`: their discriminators, computed;
* `nodup_sighash`: no two instructions share a discriminator.
-/

namespace Marginfi

open Solana

/-- The instructions of the `#[program]` module, in the order in which the entrypoint tries
them. -/
def handlerNames : List String :=
  ["marginfi_group_initialize", "marginfi_group_configure", "lending_pool_add_bank",
    "lending_pool_add_bank_with_seed", "lending_pool_clone_bank",
    "lending_pool_add_bank_permissionless", "lending_pool_configure_bank",
    "lending_pool_configure_bank_interest_only", "lending_pool_configure_bank_limits_only",
    "lending_pool_force_tokenless_repay_complete", "lending_pool_configure_bank_oracle",
    "lending_pool_set_fixed_oracle_price", "lending_pool_configure_bank_emode",
    "lending_pool_clone_emode", "lending_pool_setup_emissions",
    "lending_pool_update_emissions_parameters", "lending_pool_handle_bankruptcy",
    "marginfi_account_initialize", "marginfi_account_init_liq_record",
    "marginfi_account_initialize_pda", "lending_account_deposit", "lending_account_repay",
    "lending_account_withdraw", "lending_account_borrow", "lending_account_close_balance",
    "lending_account_withdraw_emissions", "lending_account_settle_emissions",
    "lending_account_liquidate", "lending_account_start_flashloan",
    "lending_account_end_flashloan", "marginfi_account_update_emissions_destination_account",
    "lending_pool_accrue_bank_interest", "lending_pool_collect_bank_fees",
    "lending_pool_withdraw_fees", "lending_pool_withdraw_fees_permissionless",
    "lending_pool_update_fees_destination_account", "lending_pool_withdraw_insurance",
    "lending_pool_close_bank", "transfer_to_new_account", "transfer_to_new_account_pda",
    "marginfi_account_set_freeze", "marginfi_account_close",
    "lending_account_withdraw_emissions_permissionless", "lending_account_pulse_health",
    "lending_pool_pulse_bank_price_cache", "init_global_fee_state", "edit_global_fee_state",
    "propagate_fee_state", "config_group_fee", "init_staked_settings", "edit_staked_settings",
    "propagate_staked_settings", "start_liquidation", "end_liquidation", "start_deleverage",
    "end_deleverage", "panic_pause", "panic_unpause", "panic_unpause_permissionless",
    "migrate_curve", "init_bank_metadata", "write_bank_metadata",
    "configure_deleverage_withdrawal_limit", "purge_deleverage_balance", "kamino_init_obligation",
    "kamino_deposit", "kamino_withdraw", "lending_pool_add_bank_kamino", "kamino_harvest_reward",
    "lending_pool_add_bank_drift", "drift_init_user", "drift_deposit", "drift_withdraw",
    "drift_harvest_reward", "lending_pool_add_bank_solend", "solend_init_obligation",
    "solend_deposit", "solend_withdraw"]

theorem map_sighash : handlerNames.map sighash = [
    [255, 67, 67, 26, 94, 31, 34, 20],
    [62, 199, 81, 78, 33, 13, 236, 61],
    [215, 68, 72, 78, 208, 218, 103, 182],
    [76, 211, 213, 171, 117, 78, 158, 76],
    [214, 93, 17, 236, 177, 228, 78, 17],
    [127, 187, 121, 34, 187, 167, 238, 102],
    [121, 173, 156, 40, 93, 148, 56, 237],
    [245, 107, 83, 38, 103, 219, 163, 241],
    [157, 196, 221, 200, 202, 62, 84, 21],
    [15, 203, 147, 232, 199, 14, 231, 37],
    [209, 82, 255, 171, 124, 21, 71, 81],
    [28, 126, 127, 127, 60, 37, 211, 125],
    [17, 175, 91, 57, 239, 86, 49, 71],
    [146, 167, 94, 106, 184, 202, 15, 10],
    [206, 97, 120, 172, 113, 204, 169, 70],
    [55, 213, 224, 168, 153, 53, 197, 40],
    [162, 11, 56, 139, 90, 128, 70, 173],
    [43, 78, 61, 255, 148, 52, 249, 154],
    [236, 213, 238, 126, 147, 251, 164, 8],
    [87, 177, 91, 80, 218, 119, 245, 31],
    [171, 94, 235, 103, 82, 64, 212, 140],
    [79, 209, 172, 177, 222, 51, 173, 151],
    [36, 72, 74, 19, 210, 210, 192, 192],
    [4, 126, 116, 53, 48, 5, 212, 31],
    [245, 54, 41, 4, 243, 202, 31, 17],
    [234, 22, 84, 214, 118, 176, 140, 170],
    [161, 58, 136, 174, 242, 223, 156, 176],
    [214, 169, 151, 213, 251, 167, 86, 219],
    [14, 131, 33, 220, 81, 186, 180, 107],
    [105, 124, 201, 106, 153, 2, 8, 156],
    [73, 185, 162, 201, 111, 24, 116, 185],
    [108, 201, 30, 87, 47, 65, 97, 188],
    [201, 5, 215, 116, 230, 92, 75, 150],
    [92, 140, 215, 254, 170, 0, 83, 174],
    [57, 245, 1, 208, 130, 18, 145, 113],
    [102, 4, 121, 243, 237, 110, 95, 13],
    [108, 60, 60, 246, 104, 79, 159, 243],
    [22, 115, 7, 130, 227, 85, 0, 47],
    [28, 79, 129, 231, 169, 69, 69, 65],
    [172, 210, 224, 220, 146, 212, 253, 49],
    [199, 179, 231, 30, 138, 247, 110, 227],
    [186, 221, 93, 34, 50, 97, 194, 241],
    [4, 174, 124, 203, 44, 49, 145, 150],
    [186, 52, 117, 97, 34, 74, 39, 253],
    [192, 19, 201, 135, 105, 203, 32, 222],
    [82, 48, 247, 59, 220, 109, 231, 44],
    [52, 62, 35, 129, 93, 69, 165, 202],
    [64, 3, 166, 194, 129, 21, 101, 155],
    [231, 205, 66, 242, 220, 87, 145, 38],
    [52, 35, 149, 44, 69, 86, 69, 80],
    [11, 108, 215, 87, 240, 9, 66, 241],
    [210, 30, 152, 69, 130, 99, 222, 170],
    [244, 93, 90, 214, 192, 166, 191, 21],
    [110, 11, 244, 54, 229, 181, 22, 184],
    [10, 138, 10, 57, 40, 232, 182, 193],
    [114, 14, 250, 143, 252, 104, 214, 209],
    [76, 164, 123, 25, 4, 43, 79, 165],
    [236, 107, 194, 242, 99, 51, 121, 128],
    [245, 139, 50, 159, 213, 62, 91, 248],
    [151, 254, 50, 13, 112, 235, 152, 72],
    [94, 239, 50, 136, 137, 204, 254, 213],
    [147, 78, 81, 133, 129, 138, 233, 59],
    [28, 132, 205, 158, 67, 77, 177, 63],
    [132, 187, 25, 149, 181, 59, 253, 136],
    [253, 177, 160, 225, 70, 156, 217, 109],
    [237, 8, 188, 187, 115, 99, 49, 85],
    [199, 101, 41, 45, 213, 98, 224, 200],
    [118, 53, 16, 243, 255, 245, 149, 241],
    [163, 202, 248, 141, 106, 20, 116, 5],
    [62, 63, 49, 48, 76, 55, 108, 155],
    [29, 18, 236, 190, 29, 254, 114, 169],
    [252, 63, 250, 201, 98, 55, 130, 12],
    [86, 59, 186, 123, 183, 181, 234, 137],
    [167, 161, 240, 194, 138, 54, 87, 189],
    [81, 233, 203, 199, 47, 226, 0, 68],
    [81, 96, 123, 149, 218, 116, 235, 196],
    [56, 127, 176, 148, 12, 25, 3, 24],
    [238, 144, 170, 199, 21, 72, 155, 36]] := by
  decide +kernel

/-- No two instructions share a discriminator. -/
theorem nodup_sighash : (handlerNames.map sighash).Nodup := by
  rw [map_sighash]
  decide +kernel

end Marginfi
