import FlashLoanBot.Marginfi.Types

/-!
# marginfi: further errors

The errors that the instructions around lending raise, besides those of lending itself.
-/

namespace Marginfi

open Solana Checked

/-- `MarginfiError`, as far as only deposits, withdrawals, liquidations, bankruptcies, pauses and
the handling of accounts and banks raise it. -/
inductive LendingError
  | lendingAccountBalanceNotFound
  | zeroLiquidationAmount
  | accountNotBankrupt
  | balanceNotBadDebt
  | invalidConfig
  | noAssetFound
  | invalidOracleSetup
  | accountInFlashloan
  | illegalBalanceState
  | illegalAction
  | invalidFeeAta
  | zeroAssetPrice
  | zeroLiabilityPrice
  | sameAssetAndLiabilityBanks
  | overliquidationAttempt
  | noLiabilitiesInLiabilityBank
  | assetsInLiabilityBank
  | healthyAccount
  | exhaustedLiability
  | tooSeverePayoff
  | tooSevereLiquidation
  | worseHealthPostLiquidation
  | bankCannotClose
  | accountAlreadyMigrated
  | pauseLimitExceeded
  | protocolNotPaused
  | unexpectedLiquidationState
  | startNotFirst
  | startRepeats
  | endNotLast
  | liquidationPremiumTooHigh
  | invalidLiquidationRecord
  | invalidLiquidationReceiver
  | invalidFeeWallet
  | dailyWithdrawalLimitExceeded
  deriving DecidableEq

namespace LendingError

/-- The error code. -/
def code : LendingError → ℕ
  | lendingAccountBalanceNotFound => 6002
  | zeroLiquidationAmount => 6012
  | accountNotBankrupt => 6013
  | balanceNotBadDebt => 6014
  | invalidConfig => 6015
  | noAssetFound => 6023
  | invalidOracleSetup => 6025
  | accountInFlashloan => 6037
  | illegalBalanceState => 6040
  | illegalAction => 6043
  | invalidFeeAta => 6045
  | zeroAssetPrice => 6057
  | zeroLiabilityPrice => 6058
  | sameAssetAndLiabilityBanks => 6064
  | overliquidationAttempt => 6065
  | noLiabilitiesInLiabilityBank => 6066
  | assetsInLiabilityBank => 6067
  | healthyAccount => 6068
  | exhaustedLiability => 6069
  | tooSeverePayoff => 6070
  | tooSevereLiquidation => 6071
  | worseHealthPostLiquidation => 6072
  | bankCannotClose => 6078
  | accountAlreadyMigrated => 6079
  | pauseLimitExceeded => 6082
  | protocolNotPaused => 6083
  | unexpectedLiquidationState => 6085
  | startNotFirst => 6086
  | startRepeats => 6087
  | endNotLast => 6088
  | liquidationPremiumTooHigh => 6090
  | invalidLiquidationRecord => 6095
  | invalidLiquidationReceiver => 6096
  | invalidFeeWallet => 6099
  | dailyWithdrawalLimitExceeded => 6101

/-- The failure that the error stands for. -/
def toError (e : LendingError) : ProgramError := .custom e.code

end LendingError

/-- `check!`, with one of these errors. -/
def checkLending (p : Prop) [Decidable p] (e : LendingError) : Result Unit := ensure p e.toError

theorem checkLending_eq_ok {p : Prop} [Decidable p] {e : LendingError} {u : Unit} :
    checkLending p e = .ok u ↔ p := ensure_eq_ok

end Marginfi
