import Brokerage.CommandLine.Run
import Brokerage.Json.Printer

/-!
The command line program: it reads the environment and the price file, does
what the arguments ask for, and writes what comes of it.
-/

namespace Brokerage
namespace CommandLine

/-- The variables that the settings are read from. -/
def variableNames : List String :=
  ["PAPER_BROKER_INITIAL_DEPOSIT", "PAPER_BROKER_BASE_CURRENCY", "PAPER_BROKER_SLIPPAGE_BPS",
    "PAPER_BROKER_FEE_BPS", "PAPER_BROKER_FEE_PER_TRADE", "PAPER_BROKER_ACCOUNT_MODEL",
    "PAPER_BROKER_LEVERAGE", "PAPER_BROKER_MAX_EVENT_AGE_SECONDS",
    "PAPER_BROKER_REJECT_INSUFFICIENT_BUYING_POWER", "LOG_LEVEL", "LOG_DIR", "LOG_ROTATION",
    "LOG_RETENTION"]

/-- How the program is called. -/
def usage : String :=
  "usage: brokerage PRICES " ++
    " ".intercalate ((Flag.all.filter fun flag => flag != .help).map fun flag =>
      "[" ++ flag.name ++ (if flag.takesValue then " VALUE]" else "]"))

/-- The variables that are set. -/
def readEnvironment : IO Environment := do
  let mut environment : Environment := Table.empty
  for name in variableNames do
    if let some value <- IO.getEnv name then environment := environment.put name value
  return environment

/-- The contents of a file, if it can be read. -/
def readContent (path : String) : IO (Option ByteArray) := do
  try
    return some (<- IO.FS.readBinFile path)
  catch _ =>
    return none

/-- What goes wrong in an action, if anything does. -/
def complaint (action : IO Unit) : IO (Option String) := do
  try
    action
    return none
  catch error =>
    return some (toString error)

/-- The file of a directory that the journal is written to. -/
def journalFile (directory : String) : String :=
  directory ++ "/paper_broker.log"

/-- What the system says to keeping the journal, which is tried if the settings ask for it. -/
def readFiling (environment : Environment) : IO Filing := do
  let settings : Except (SettingsError Float) (Settings Float) := environment.settings?
  match settings.toOption.bind fun settings => Journal.directory? settings.journal with
  | none => return .free
  | some directory =>
      let made <- complaint (IO.FS.createDirAll directory)
      let opened <- complaint do
        let _ <- IO.FS.Handle.mk (journalFile directory) .append
      return { makeDirectory := fun _ => made, openFile := fun _ _ _ _ => opened }

/-- A line of the journal as it is shown. -/
def lineOf (entry : JournalEntry) : String :=
  entry.level.name ++ " | " ++ entry.text

/-- Write the journal to the terminal and to the files of its directories. -/
def writeJournal (journal : Journal) : IO Unit := do
  for entry in journal.terminal do
    IO.eprintln (lineOf entry)
  for (directory, entries) in journal.files.entries do
    let file <- IO.FS.Handle.mk (journalFile directory) .append
    for entry in entries do
      file.putStrLn (lineOf entry)

/-- Write the result of a run. -/
def writeOutput : Output -> IO Unit
  | .nothing => pure ()
  | .summary lines => lines.forM IO.println
  | .figures value => IO.println value.indented

/-- The wording of what goes wrong in a run; some of it has none. -/
def RunError.message? : RunError -> Option String
  | .settings error => some error.message
  | .journal error => some error.wording
  | .file error => error.message?
  | .feed (.frame asset defect) => defect.messageIn? asset.symbol
  | .feed (.event error) => error.message?
  | .policy error => some error.message
  | .backtest .noEvents => some BacktestError.noEventsMessage
  | .backtest (.settings error) => some error.message
  | .backtest (.wiring error) => error.message?
  | .backtest (.broker (.refused reason)) => some reason.message
  | .backtest (.broker (.money error)) => some error.message
  | .backtest (.broker (.notWorkable error)) => some error.message
  | .backtest (.ratio _) => none

end CommandLine
end Brokerage

open Brokerage CommandLine in
/-- Run the program; the exit code tells a refused price file and a misuse apart. -/
def main (arguments : List String) : IO UInt32 := do
  match request? arguments with
  | .error _ =>
      IO.eprintln usage
      return 2
  | .ok request =>
      if request.help then
        IO.println usage
        return 0
      let path := request.path.getD ""
      let environment <- readEnvironment
      let filing <- readFiling environment
      let content <- readContent path
      match run? .plain filing request path environment fun _ => content with
      | .error error =>
          IO.eprintln ((error.message?).getD "the run failed")
          return 1
      | .ok conclusion =>
          writeJournal conclusion.journal
          writeOutput conclusion.output
          return conclusion.exitCode.toUInt32
