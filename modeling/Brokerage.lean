import Brokerage.Quantity
import Brokerage.Table
import Brokerage.Decimal.Binary
import Brokerage.Decimal.Layout
import Brokerage.Decimal.Shortest
import Brokerage.Decimal.Fixed
import Brokerage.Decimal.Reader
import Brokerage.Text.Blank
import Brokerage.Text.Printable
import Brokerage.Text.Quoted
import Brokerage.Text.Case
import Brokerage.Text.Path
import Brokerage.Json.Value
import Brokerage.Json.Printer
import Brokerage.Json.Reader
import Brokerage.Time.Instant
import Brokerage.Time.Calendar
import Brokerage.Time.Reader
import Brokerage.Money.Amount
import Brokerage.Money.Wallet
import Brokerage.Money.Rates
import Brokerage.Market.Asset
import Brokerage.Market.Observation
import Brokerage.Market.Event
import Brokerage.Order.TimeInForce
import Brokerage.Order.Basic
import Brokerage.Order.Lifecycle
import Brokerage.Order.Validation
import Brokerage.Execution.Pricing
import Brokerage.Execution.Fee
import Brokerage.Execution.Worker
import Brokerage.Execution.Executor
import Brokerage.Execution.Rejection
import Brokerage.Execution.Engine
import Brokerage.Journal.Level
import Brokerage.Journal.Notice
import Brokerage.Journal.Sinks
import Brokerage.Account.Position
import Brokerage.Account.Snapshot
import Brokerage.Account.Report
import Brokerage.Account.BuyingPower
import Brokerage.Account.Ledger
import Brokerage.Settings.Broker
import Brokerage.Settings.Journal
import Brokerage.Settings.Environment
import Brokerage.Broker.Refusal
import Brokerage.Broker.Basic
import Brokerage.Broker.Validation
import Brokerage.Broker.Admission
import Brokerage.Broker.Placing
import Brokerage.Broker.Wiring
import Brokerage.Performance.Sum
import Brokerage.Performance.Curve
import Brokerage.Performance.Ratios
import Brokerage.Performance.Trades
import Brokerage.Performance.Metrics
import Brokerage.Backtest.Policy
import Brokerage.Backtest.Terms
import Brokerage.Backtest.Run
import Brokerage.Backtest.Jobs
import Brokerage.Feed.Frame
import Brokerage.Feed.Arrangement
import Brokerage.Feed.Events
import Brokerage.Feed.Csv
import Brokerage.Feed.PriceFile
import Brokerage.CommandLine.Arguments
import Brokerage.CommandLine.Summary
import Brokerage.CommandLine.Run
import Brokerage.Main
import Brokerage.Proofs.Table
import Brokerage.Proofs.Broker.Reach
import Brokerage.Proofs.Broker.Settlement
import Brokerage.Proofs.Account.Holdings
import Brokerage.Proofs.Account.Profit
import Brokerage.Proofs.Table.Total
import Brokerage.Proofs.Execution.Executor
import Brokerage.Proofs.Order.Numbering
import Brokerage.Proofs.Execution.Registration
import Brokerage.Proofs.Account.Convertible
import Brokerage.Proofs.Broker.Batch
import Brokerage.Proofs.Broker.Enlisting
import Brokerage.Proofs.Execution.Matching
import Brokerage.Proofs.Broker.Atomicity
import Brokerage.Proofs.Order.Lifecycle
import Brokerage.Proofs.Order.Reports
import Brokerage.Proofs.Execution.WorkingSet
import Brokerage.Proofs.Broker.BatchNumbers
import Brokerage.Proofs.Broker.OrderBook
import Brokerage.Proofs.Execution.Prices
import Brokerage.Proofs.Execution.Anonymity
import Brokerage.Proofs.Broker.Renumbering
import Brokerage.Proofs.Broker.Mirroring
import Brokerage.Proofs.Broker.Sparing
import Brokerage.Proofs.Broker.Standing
import Brokerage.Proofs.Broker.Rejection
import Brokerage.Proofs.Account.History
import Brokerage.Proofs.Broker.AtWork
import Brokerage.Proofs.Broker.Bookings
import Brokerage.Proofs.Execution.Tally
import Brokerage.Proofs.Broker.TradeBook
import Brokerage.Proofs.Broker.Following
import Brokerage.Proofs.Broker.Turns
import Brokerage.Proofs.Broker.Immediate
import Brokerage.Proofs.Broker.Windows
import Brokerage.Proofs.Money.Worth
import Brokerage.Proofs.Broker.Appraisal
import Brokerage.Proofs.Execution.FillPrice
import Brokerage.Proofs.Broker.Spending
import Brokerage.Proofs.Broker.Overdraft
import Brokerage.Proofs.Broker.Answer
import Brokerage.Proofs.Broker.Valuation
import Brokerage.Proofs.Account.Totals
import Brokerage.Proofs.Execution.MarketOrder
import Brokerage.Proofs.Broker.Totals
import Brokerage.Proofs.Quantity.Binary64
import Brokerage.Proofs.Quantity.Opposite
import Brokerage.Proofs.Broker.Closing
import Brokerage.Proofs.Account.Flattening
import Brokerage.Proofs.Broker.Liquidation
import Brokerage.Proofs.Order.BracketPlan
import Brokerage.Proofs.Execution.Runs
import Brokerage.Proofs.Execution.Bracket
import Brokerage.Proofs.Execution.BracketStages
import Brokerage.Proofs.Execution.BracketProtocol
import Brokerage.Proofs.Broker.Checking
import Brokerage.Proofs.Broker.Marking
import Brokerage.Proofs.Broker.SelfFinancing
import Brokerage.Proofs.Execution.Repricing
import Brokerage.Proofs.Broker.TradingCosts
import Brokerage.Proofs.Execution.Isolation
import Brokerage.Proofs.Execution.Independence
import Brokerage.Proofs.Broker.Reuse
import Brokerage.Proofs.Backtest.Playing
import Brokerage.Proofs.Backtest.Foresight
import Brokerage.Proofs.Backtest.Jobs
import Brokerage.Proofs.Execution.Forgetting
import Brokerage.Proofs.Broker.Restarting
import Brokerage.Proofs.Backtest.Restart
import Brokerage.Proofs.Performance.Figures
import Brokerage.Proofs.Performance.Drawdown
import Brokerage.Proofs.Account.Retracing
import Brokerage.Proofs.Performance.ClosingFills
import Brokerage.Proofs.Broker.Domestic
import Brokerage.Proofs.Backtest.Orderly
import Brokerage.Proofs.Backtest.Coherence
import Brokerage.Proofs.Quantity.Ordered
import Brokerage.Proofs.Quantity.Places
import Brokerage.Proofs.Quantity.Rounding
import Brokerage.Proofs.Quantity.Scaling
import Brokerage.Proofs.Execution.Conditions
import Brokerage.Proofs.Execution.Course
import Brokerage.Proofs.Execution.BracketPrices
import Brokerage.Proofs.Execution.Promises
import Brokerage.Proofs.Execution.Trailing
import Brokerage.Proofs.Feed.Reading
import Brokerage.Proofs.Feed.Arranging
import Brokerage.Proofs.Feed.Rows
import Brokerage.Proofs.Feed.Reordering
import Brokerage.Proofs.Feed.Grouping
import Brokerage.Proofs.Feed.Merging
import Brokerage.Proofs.Feed.Faithful
import Brokerage.Proofs.Broker.TurningAway
import Brokerage.Proofs.Broker.Revising
import Brokerage.Proofs.Backtest.Revising
import Brokerage.Proofs.Settings.Terms
import Brokerage.Proofs.CommandLine.Settings
import Brokerage.Proofs.Account.Leverage
import Brokerage.Proofs.Broker.Affordability
import Brokerage.Proofs.Broker.Cancelling
import Brokerage.Proofs.Quantity.Neutral
import Brokerage.Proofs.Quantity.Whole
import Brokerage.Proofs.Account.Splitting
import Brokerage.Proofs.Money.Rates
import Brokerage.Proofs.Money.Literal
import Brokerage.Proofs.Account.Reporting
import Brokerage.Proofs.Settings.Starting
import Brokerage.Proofs.Broker.Resting
import Brokerage.Proofs.Broker.FirstPurchase
import Brokerage.Proofs.Broker.FirstBuyingPower
import Brokerage.Proofs.Backtest.OnePurchase
import Brokerage.Proofs.Backtest.Completion
import Brokerage.Proofs.Backtest.BuyAndHold
import Brokerage.Proofs.Time.Reading
import Brokerage.Proofs.Feed.Sorting
import Brokerage.Proofs.Feed.RowByRow
import Brokerage.Proofs.Feed.PriceFile
import Brokerage.Proofs.CommandLine.Finishing
