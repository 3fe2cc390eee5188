import Brokerage.Execution.Rejection
import Brokerage.Journal.Level
import Brokerage.Money.Wallet
import Brokerage.Order.Basic
import Brokerage.Time.Calendar

namespace Brokerage

/-!
What the library reports of its work.

A notice says what happened and with which values; level and wording follow
from it.
-/

/-- One thing that happened. -/
inductive Notice (α : Type) where
  | orderRejected (number : OrderId) (typeName symbol : String) (reason : Rejection α)
  | cancelRejected (number target : OrderId)
  | orderExpired (number : Option OrderId) (time : Instant)
  | placing (instructions : Nat) (time : Instant)
  | filled (number : Option OrderId) (symbol : String) (size price fee pnl : α)
  | liquidating (time : Instant) (orders positions : Nat)
  | brokerReset (deposit : Wallet α)
  | feedBuilt (events frames : Nat)
  | runStarted (events : Nat) (first last : Instant)
  | runFinished (equity : α) (currency : Currency) (trades : Nat)
  | noJobs
  | jobsStarted (total workers : Nat)
  | jobFinished (name : String)
  | journalConfigured (level : Level) (directory : Option String)
  | failure (text : String)

namespace Notice

def level {α : Type} : Notice α -> Level
  | orderRejected .. => .warning
  | cancelRejected .. => .warning
  | orderExpired .. => .debug
  | placing .. => .debug
  | filled .. => .debug
  | liquidating .. => .info
  | brokerReset _ => .info
  | feedBuilt .. => .debug
  | runStarted .. => .info
  | runFinished .. => .info
  | noJobs => .info
  | jobsStarted .. => .info
  | jobFinished _ => .debug
  | journalConfigured .. => .debug
  | failure _ => .error

/-- The word for a value that is not there. -/
def absent : String := "None"

/-- A number that may be missing. -/
def numberText (number : Option OrderId) : String :=
  (number.map fun number => toString number).getD absent

/-- The wording of a notice. -/
def text : Notice Float -> String
  | orderRejected number typeName symbol reason =>
      "Order " ++ toString number ++ " (" ++ typeName ++ " " ++ symbol ++ ") rejected: " ++
        reason.message
  | cancelRejected number target =>
      "Cancel " ++ toString number ++ " rejected: order " ++ toString target ++ " is not open"
  | orderExpired number time =>
      "Order " ++ numberText number ++ " expired at " ++ time.text
  | placing instructions time =>
      "Placing " ++ toString instructions ++ " instruction(s) at " ++ time.text
  | filled number symbol size price fee pnl =>
      "Filled order " ++ numberText number ++ ": " ++
        Decimal.withPlus (Decimal.general 6 size) ++ " " ++ symbol ++ " @ " ++
        Decimal.FixedFormat.text { places := 4 } price ++
        " (fee " ++ Decimal.FixedFormat.text { places := 2 } fee ++
        ", pnl " ++ Decimal.FixedFormat.text { places := 2 } pnl ++ ")"
  | liquidating time orders positions =>
      "Liquidating portfolio at " ++ time.text ++ ": " ++ toString orders ++ " open order(s), " ++
        toString positions ++ " position(s)"
  | brokerReset deposit => "Broker reset with initial deposit " ++ deposit.text
  | feedBuilt events frames =>
      "Built " ++ toString events ++ " events from " ++ toString frames ++ " price frame(s)"
  | runStarted events first last =>
      "Starting backtest over " ++ toString events ++ " events (" ++ first.text ++ " to " ++
        last.text ++ ")"
  | runFinished equity currency trades =>
      "Backtest finished: final equity " ++ Decimal.money.text equity ++ " " ++ currency ++ ", " ++
        toString trades ++ " trade(s)"
  | noJobs => "[run_many] no jobs to run"
  | jobsStarted total workers =>
      "[run_many] start total=" ++ toString total ++ " workers=" ++ toString workers
  | jobFinished name => "[run_many] finished " ++ name
  | journalConfigured level directory =>
      "Logging configured (level=" ++ level.name ++ ", log_dir=" ++ directory.getD absent ++ ")"
  | failure text => text

end Notice

/-- The result of a step on a state: the new state, what was reported, and the answer. -/
structure Step (σ ε ρ ν : Type) where
  state : σ
  notices : List ν
  result : Except ε ρ

end Brokerage
