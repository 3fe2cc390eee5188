import Brokerage.Journal.Level
import Brokerage.Settings.Broker

namespace Brokerage

/-!
The settings of the journal.
-/

/-- Settings of the journal that have not been checked. -/
structure JournalDraft where
  level : String := "INFO"
  directory : Option String := none
  rotation : String := "1 day"
  retention : String := "30 days"

/-- Which entries the journal keeps, and where. -/
structure JournalSettings where
  level : Level
  /-- Where the journal is kept in files as well; an empty name stands for nowhere. -/
  directory : Option String
  rotation : String
  retention : String

/-- Check a draft: the level has to be one of the known ones. -/
def JournalDraft.settings? {α : Type} (draft : JournalDraft) :
    Except (SettingsError α) JournalSettings :=
  match Level.ofName? draft.level with
  | none => .error (.unknownLevel draft.level)
  | some level =>
      .ok
        { level
          directory := draft.directory
          rotation := draft.rotation
          retention := draft.retention }

/-- The wording of what is wrong with settings. -/
def SettingsError.message : SettingsError Float -> String
  | .depositNotPositive value => "initial_deposit must be positive, got " ++ Decimal.text value
  | .currencyEmpty => "base_currency is required but empty."
  | .slippageNegative value => "slippage_bps must be >= 0, got " ++ Decimal.text value
  | .feesNegative bps perTrade =>
      "fees must be >= 0, got fee_bps=" ++ Decimal.text bps ++ ", fee_per_trade=" ++
        Decimal.text perTrade
  | .twoFees => "Set either fee_bps or fee_per_trade, not both."
  | .unknownAccountModel name =>
      "account_model must be one of " ++ namesText ([AccountKind.cash, .margin].map AccountKind.name) ++
        ", got: " ++ name
  | .leverageNotPositive value => "leverage must be positive, got " ++ Decimal.text value
  | .ageNotPositive value => "max_event_age_seconds must be positive, got " ++ Decimal.text value
  | .unknownLevel name =>
      "LOG_LEVEL must be one of " ++ namesText (Level.all.map Level.name) ++ ", got: " ++ name
  | .notNumber variableName text => variableName ++ " must be a number, got: " ++ text

end Brokerage
