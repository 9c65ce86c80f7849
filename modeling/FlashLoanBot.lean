import FlashLoanBot.Lib.Checked
import FlashLoanBot.Lib.Codec
import FlashLoanBot.Lib.FixedPoint
import FlashLoanBot.Lib.Sha256
import FlashLoanBot.Lib.Slots
import FlashLoanBot.Solana.Types
import FlashLoanBot.Solana.Anchor
import FlashLoanBot.Bot.Accounts
import FlashLoanBot.Bot.Handlers
import FlashLoanBot.Bot.Program
import FlashLoanBot.Marginfi.Types
import FlashLoanBot.Marginfi.InterestRate
import FlashLoanBot.Marginfi.Bank
import FlashLoanBot.Marginfi.Account
import FlashLoanBot.Marginfi.Risk
import FlashLoanBot.Marginfi.Flashloan
import FlashLoanBot.Marginfi.Lending
import FlashLoanBot.Marginfi.Positions
import FlashLoanBot.Marginfi.Handlers
import FlashLoanBot.Marginfi.Program
import FlashLoanBot.Cycle.Wire
import FlashLoanBot.Cycle.Transaction
import FlashLoanBot.Cycle.Gate
import FlashLoanBot.Cycle.Closing
import FlashLoanBot.Solana.Spl
import FlashLoanBot.Cycle.Slippage
import FlashLoanBot.Cycle.Profit
import FlashLoanBot.Marginfi.Payments
import FlashLoanBot.Cycle.Atomicity
import FlashLoanBot.Marginfi.Curve
import FlashLoanBot.Marginfi.Pauses
import FlashLoanBot.Marginfi.Solvency
