import Brokerage.Decimal.Reader
import Brokerage.Settings.Journal
import Brokerage.Table
import Brokerage.Text.Case

namespace Brokerage

/-!
Settings from the variables of an environment.

A variable that is not set takes its default.  Variables are read in one fixed
order, and the first one that does not hold a number is reported.
-/

/-- The variables that are set. -/
abbrev Environment := Table String String

namespace Environment

/-- The text of a variable, or else its default. -/
def text (environment : Environment) (name default : String) : String :=
  (environment.get? name).getD default

/-- The number in a variable. -/
def number? (environment : Environment) (name default : String) :
    Except (SettingsError Float) Float :=
  let text := environment.text name default
  match Decimal.number? text with
  | some value => .ok value
  | none => .error (.notNumber name text)

/-- The words that stand for a yes. -/
def affirmations : List String :=
  ["true", "1", "yes"]

/-- Whether a variable says yes, in capitals or not. -/
def isSet (environment : Environment) (name default : String) : Bool :=
  affirmations.contains (Text.lower (environment.text name default))

/-- The settings of a broker that the environment asks for, not checked yet. -/
def brokerDraft? (environment : Environment) :
    Except (SettingsError Float) (BrokerDraft Float) := do
  let initialDeposit <- environment.number? "PAPER_BROKER_INITIAL_DEPOSIT" "1000000"
  let slippageBps <- environment.number? "PAPER_BROKER_SLIPPAGE_BPS" "0"
  let feeBps <- environment.number? "PAPER_BROKER_FEE_BPS" "0"
  let feePerTrade <- environment.number? "PAPER_BROKER_FEE_PER_TRADE" "0"
  let leverage <- environment.number? "PAPER_BROKER_LEVERAGE" "2.0"
  let maxEventAgeSeconds <- environment.number? "PAPER_BROKER_MAX_EVENT_AGE_SECONDS" "3600"
  .ok
    { initialDeposit
      baseCurrency := environment.text "PAPER_BROKER_BASE_CURRENCY" "USD"
      slippageBps
      feeBps
      feePerTrade
      accountModel := Text.lower (environment.text "PAPER_BROKER_ACCOUNT_MODEL" "cash")
      leverage
      maxEventAgeSeconds
      rejectsUnaffordable :=
        environment.isSet "PAPER_BROKER_REJECT_INSUFFICIENT_BUYING_POWER" "true" }

/-- The settings of the journal that the environment asks for, not checked yet. -/
def journalDraft (environment : Environment) : JournalDraft where
  level := Text.upper (environment.text "LOG_LEVEL" "INFO")
  directory := (environment.get? "LOG_DIR").filter fun directory => !directory.isEmpty
  rotation := environment.text "LOG_ROTATION" "1 day"
  retention := environment.text "LOG_RETENTION" "30 days"

end Environment

/-- All settings together. -/
structure Settings (α : Type) where
  broker : BrokerSettings α
  journal : JournalSettings

/-- The settings that an environment asks for. -/
def Environment.settings? (environment : Environment) :
    Except (SettingsError Float) (Settings Float) := do
  let draft <- environment.brokerDraft?
  let broker <- draft.settings?
  let journal <- environment.journalDraft.settings?
  .ok { broker, journal }

/-- Settings that are read once and then kept. -/
structure SettingsCache (α : Type) where
  kept : Option (Settings α) := none

namespace SettingsCache

/-- The settings that are kept, or else those of the environment; a failure is not kept. -/
def get? (cache : SettingsCache Float) (environment : Environment) :
    Except (SettingsError Float) (Settings Float × SettingsCache Float) :=
  match cache.kept with
  | some settings => .ok (settings, cache)
  | none =>
      match environment.settings? with
      | .ok settings => .ok (settings, { kept := some settings })
      | .error error => .error error

/-- Forget what is kept. -/
def clear {α : Type} (_ : SettingsCache α) : SettingsCache α := {}

end SettingsCache
end Brokerage
