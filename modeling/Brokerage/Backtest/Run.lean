import Brokerage.Backtest.Policy
import Brokerage.Backtest.Terms
import Brokerage.Broker.Placing
import Brokerage.Broker.Wiring
import Brokerage.Performance.Metrics

namespace Brokerage

/-!
Backtests.

The events are played one after the other.  A policy is shown an event and the
account as it stood before; its orders are placed against that same event; and
the account as it stands then is kept.  At the end the account may be wound up,
which replaces the last account that was kept.
-/

/-- Why a backtest comes to no result. -/
inductive BacktestError (α : Type) where
  | noEvents
  | settings (error : SettingsError α)
  | wiring (error : WiringError α)
  | broker (error : BrokerError α)
  | ratio (error : Performance.RatioError)

/-- A point of an equity curve. -/
structure EquityPoint (α : Type) where
  time : Option Instant
  value : α
  deriving DecidableEq, Repr

/-- What a backtest yields. -/
structure Backtest (α : Type) where
  curve : List (EquityPoint α)
  /-- The account after each event. -/
  history : List (Account α)
  final : Account α
  metrics : Performance.Metrics α

namespace Backtest

variable {α : Type} [Quantity α]

/-- A backtest under way. -/
structure Progress (α : Type) [Quantity α] where
  broker : Broker α
  /-- What the policy has been shown, the latest first. -/
  shown : List (Sight α)
  /-- The account after each event so far, the latest first. -/
  history : List (Account α)
  notices : List (Notice α)

/-- Play one event. -/
def play? (policy : Policy α) (progress : Progress α) (event : Event α) :
    Except (BrokerError α) (Progress α) :=
  let shown := (event, progress.broker.account) :: progress.shown
  let placed := progress.broker.place (policy shown) event
  match placed.result with
  | .error error => .error error
  | .ok _ =>
      .ok
        { broker := placed.state
          shown
          history := placed.state.account :: progress.history
          notices := progress.notices ++ placed.notices }

/-- Play events one after the other; the first one that fails ends the run. -/
def playAll? (policy : Policy α) (progress : Progress α) :
    List (Event α) -> Except (BrokerError α) (Progress α)
  | [] => .ok progress
  | event :: rest =>
      match play? policy progress event with
      | .error error => .error error
      | .ok next => playAll? policy next rest

/-- Wind the account up; the last account that was kept is replaced. -/
def windUp? (progress : Progress α) : Except (BrokerError α) (Progress α) :=
  let closed := progress.broker.liquidate none
  match closed.result with
  | .error error => .error error
  | .ok _ =>
      .ok
        { progress with
          broker := closed.state
          history := closed.state.account :: progress.history.tail
          notices := progress.notices ++ closed.notices }

/-- The point of the equity curve that an account stands for. -/
def point? (account : Account α) : Except (MoneyError α) (EquityPoint α) :=
  match account.equity? with
  | .error error => .error error
  | .ok equity => .ok { time := account.lastUpdate, value := equity.value }

/-- The equity curve of accounts. -/
def curve? : List (Account α) -> Except (MoneyError α) (List (EquityPoint α))
  | [] => .ok []
  | account :: rest =>
      match point? account with
      | .error error => .error error
      | .ok point => (curve? rest).map (point :: ·)

/-- The broker of a backtest, as it stands before the first event. -/
def broker? (terms : BacktestTerms α) (given : Option (Broker α)) :
    Except (BacktestError α) (Broker α × List (Notice α)) :=
  match given with
  | some broker =>
      let started := broker.reset
      match started.result with
      | .error error => .error (.broker (.money error))
      | .ok () => .ok (started.state, started.notices)
  | none =>
      match terms.draft.settings? with
      | .error error => .error (.settings error)
      | .ok settings =>
          match settings.broker? none none with
          | .error error => .error (.wiring error)
          | .ok opened => .ok opened

/-- All events are played, and the account is wound up when the terms say so. -/
def progress? (events : List (Event α)) (policy : Policy α) (liquidates : Bool)
    (start : Broker α) : Except (BrokerError α) (Progress α) :=
  match playAll? policy { broker := start, shown := [], history := [], notices := [] } events with
  | .error error => .error error
  | .ok played => if liquidates then windUp? played else .ok played

/-- What has been played is summed up. -/
def summary? [Roots α] (progress : Progress α) (periodsPerYear : Int) :
    Except (BacktestError α) (Backtest α) :=
  let history := progress.history.reverse
  match curve? history with
  | .error error => .error (.broker (.money error))
  | .ok curve =>
      let final := progress.broker.account
      match Performance.metrics? (curve.map EquityPoint.value) final.trades periodsPerYear with
      | .error error => .error (.ratio error)
      | .ok metrics => .ok { curve, history, final, metrics }

/--
Run a policy over events.  A broker that is given starts afresh and takes
precedence over the terms; otherwise one is set up as the terms say.
-/
def run? [Roots α] (events : List (Event α)) (policy : Policy α) (terms : BacktestTerms α)
    (given : Option (Broker α)) : Except (BacktestError α) (Backtest α × List (Notice α)) :=
  match events with
  | [] => .error .noEvents
  | first :: rest =>
      match broker? terms given with
      | .error error => .error error
      | .ok (start, opening) =>
          match progress? events policy terms.liquidates start with
          | .error error => .error (.broker error)
          | .ok progress =>
              match summary? progress terms.periodsPerYear with
              | .error error => .error error
              | .ok result =>
                  let last := rest.getLastD first
                  let started : Notice α := .runStarted events.length first.time last.time
                  let finished : List (Notice α) :=
                    match result.metrics.finalEquity with
                    | some equity =>
                        [.runFinished equity start.house.base result.metrics.trades.count]
                    | none => []
                  .ok (result, opening ++ started :: progress.notices ++ finished)

end Backtest

/-- The wording of a backtest without events. -/
def BacktestError.noEventsMessage : String :=
  "No events to backtest. Need at least one event."

end Brokerage
