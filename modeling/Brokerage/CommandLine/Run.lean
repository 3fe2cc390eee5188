import Brokerage.Backtest.Run
import Brokerage.CommandLine.Arguments
import Brokerage.CommandLine.Summary
import Brokerage.Feed.Events
import Brokerage.Feed.PriceFile
import Brokerage.Journal.Sinks
import Brokerage.Settings.Environment
import Brokerage.Text.Case

namespace Brokerage
namespace CommandLine

/-!
A run of the command line.

The environment gives the settings and the arguments change some of them.  The
journal is configured first.  The price file is then turned into events, on
which buying and holding one asset is tried out.  A price file that is refused
ends the run in good order; anything else that goes wrong is an error.
-/

/-- What goes wrong in a run apart from a price file that is refused. -/
inductive RunError where
  | settings (error : SettingsError Float)
  | journal (error : JournalError)
  | file (error : PriceFileError)
  | feed (error : FeedError)
  | policy (error : PolicyError Float)
  | backtest (error : BacktestError Float)

/-- What a run puts out. -/
inductive Output where
  | nothing
  | summary (lines : List String)
  | figures (value : Json)

/-- How a run ends in good order. -/
structure Conclusion where
  exitCode : Nat
  output : Output
  journal : Journal

/-- The settings of the broker, changed as the arguments ask. -/
def brokerSettings? (request : Request) (settings : BrokerSettings Float) :
    Except (SettingsError Float) (BrokerSettings Float) :=
  BrokerDraft.settings?
    { settings.draft with
      initialDeposit := request.initialDeposit.getD settings.initialDeposit
      slippageBps := request.slippageBps.getD settings.slippageBps
      feeBps := request.feeBps.getD settings.feeBps
      feePerTrade := request.feePerTrade.getD settings.feePerTrade }

/-- A text that is given and not empty, or else another one. -/
def given (text : Option String) (otherwise : String) : String :=
  (text.filter fun text => !text.isEmpty).getD otherwise

/-- The asset in the price file; its symbol is the name of the file unless another one is given. -/
def asset (request : Request) (path : String) (settings : BrokerSettings Float) : Asset where
  symbol := given request.symbol (Text.upper (Text.stem path))
  currency := given request.currency settings.baseCurrency

/-- Try out buying and holding an asset with the prices of a frame. -/
def backtest? (reader : PriceReader) (request : Request) (settings : BrokerSettings Float)
    (asset : Asset) (frame : Frame Float) :
    Except RunError (Backtest Float × List (Notice Float)) :=
  match Feed.moments? reader.reading (Table.ofList [(asset, frame)]) with
  | .error error => .error (.feed error)
  | .ok moments =>
      match Policy.buyAndHold? asset request.size with
      | .error error => .error (.policy error)
      | .ok policy =>
          let terms := BacktestTerms.ofDraft settings.draft request.liquidates tradingDays
          match Backtest.run? (moments.map Moment.event) policy terms none with
          | .error error => .error (.backtest error)
          | .ok (result, notices) => .ok (result, .feedBuilt moments.length 1 :: notices)

/-- What is put out of a result. -/
def output (request : Request) (asset : Asset) (settings : BrokerSettings Float)
    (result : Backtest Float) : Output :=
  if request.json then .figures (figures result.metrics)
  else
    .summary (summary
      { size := request.size, symbol := asset.symbol, currency := settings.baseCurrency }
      result.metrics)

/-- Do what is asked for; `content` gives the contents of files, where there are such files. -/
def run? (reader : PriceReader) (filing : Filing) (request : Request) (path : String)
    (environment : Environment) (content : String -> Option ByteArray) :
    Except RunError Conclusion :=
  match environment.settings? with
  | .error error => .error (.settings error)
  | .ok settings =>
      match ({} : Journal).configure? filing settings.journal with
      | .error error => .error (.journal error)
      | .ok journal =>
          match brokerSettings? request settings.broker with
          | .error error => .error (.settings error)
          | .ok broker =>
              let asset := asset request path broker
              match readPrices? reader path (some asset.symbol) (content (Text.shortPath path)) with
              | .error error =>
                  match error.message? with
                  | none => .error (.file error)
                  | some text =>
                      .ok
                        { exitCode := 1
                          output := .nothing
                          journal := journal.report [.failure text] }
              | .ok frame =>
                  match backtest? reader request broker asset frame with
                  | .error error => .error error
                  | .ok (result, notices) =>
                      .ok
                        { exitCode := 0
                          output := output request asset broker result
                          journal := journal.report notices }

end CommandLine
end Brokerage
