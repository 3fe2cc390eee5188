import Brokerage.Settings.Broker

namespace Brokerage

/-!
The terms of a backtest.
-/

/-- The number of trading days in a year. -/
def tradingDays : Int := 252

/-- Everything about a backtest that is not its events and not its policy. -/
structure BacktestTerms (α : Type) [Quantity α] where
  initialDeposit : α := ((1000000 : Nat) : α)
  baseCurrency : Currency := "USD"
  slippageBps : α := 0
  feeBps : α := 0
  feePerTrade : α := 0
  accountModel : String := "cash"
  leverage : α := ((2 : Nat) : α)
  /-- All holdings are closed after the last event. -/
  liquidates : Bool := true
  /-- The number of events in a year, by which figures are scaled. -/
  periodsPerYear : Int := tradingDays

namespace BacktestTerms

variable {α : Type} [Quantity α]

/-- The settings of the broker that the terms ask for; what they leave open stays at its default. -/
def draft (terms : BacktestTerms α) : BrokerDraft α where
  initialDeposit := terms.initialDeposit
  baseCurrency := terms.baseCurrency
  slippageBps := terms.slippageBps
  feeBps := terms.feeBps
  feePerTrade := terms.feePerTrade
  accountModel := terms.accountModel
  leverage := terms.leverage

/-- The terms under which a broker is tried out; what they leave open is not taken over. -/
def ofDraft (draft : BrokerDraft α) (liquidates : Bool) (periodsPerYear : Int) :
    BacktestTerms α where
  initialDeposit := draft.initialDeposit
  baseCurrency := draft.baseCurrency
  slippageBps := draft.slippageBps
  feeBps := draft.feeBps
  feePerTrade := draft.feePerTrade
  accountModel := draft.accountModel
  leverage := draft.leverage
  liquidates
  periodsPerYear

end BacktestTerms
end Brokerage
