import Brokerage.Execution.Executor
import Brokerage.Market.Event
import Brokerage.Money.Rates
import Brokerage.Time.Calendar

namespace Brokerage

/-!
Why a broker refuses a whole batch, and what else can go wrong with one.

A batch that is malformed is refused before anything is touched.  An order
that is well formed but cannot be worked or afforded is no such case: it is
rejected by itself and the rest of its batch goes on.
-/

/-- Why a batch is refused as a whole. -/
inductive Refusal where
  | unsupportedInstruction (typeName : String)
  | unsupportedLeg (typeName : String)
  | duplicateOrder (typeName : String) (number : Option OrderId)
  | unknownOrder (target : OrderId)
  | eventOutOfOrder (time last : Instant)
  | staleEvent (time : Instant) (age : Duration) (now : Instant)
  | unsupportedCurrency (asset : Asset) (base : Currency)
  deriving DecidableEq, Repr

namespace Refusal

/-- The family of a refusal. -/
def kind : Refusal -> String
  | unsupportedInstruction _ => "UnsupportedOrderError"
  | unsupportedLeg _ => "UnsupportedOrderError"
  | duplicateOrder .. => "DuplicateOrderError"
  | unknownOrder _ => "UnknownOrderError"
  | eventOutOfOrder .. => "EventOrderingError"
  | staleEvent .. => "StaleEventError"
  | unsupportedCurrency .. => "UnsupportedCurrencyError"

def message : Refusal -> String
  | unsupportedInstruction typeName => "Unsupported instruction type: " ++ typeName
  | unsupportedLeg typeName => "Unsupported bracket leg type: " ++ typeName
  | duplicateOrder typeName number =>
      typeName ++ " " ++ (number.map fun number => toString number).getD "None" ++
        " was already placed"
  | unknownOrder target => "Cannot cancel unknown order id " ++ toString target
  | eventOutOfOrder time last =>
      "Event at " ++ time.text ++ " is older than last update " ++ last.text
  | staleEvent time age now =>
      "Event at " ++ time.text ++ " is older than the maximum age " ++ age.text ++
        " (now " ++ now.text ++ ")"
  | unsupportedCurrency asset base =>
      asset.symbol ++ " trades in " ++ asset.currency ++ ", which cannot be converted to " ++ base

end Refusal

/-- What can go wrong when a broker is asked to do something. -/
inductive BrokerError (α : Type) where
  | refused (reason : Refusal)
  /-- An amount could not be converted to the base currency. -/
  | money (error : MoneyError α)
  | notWorkable (error : NotWorkable)

end Brokerage
