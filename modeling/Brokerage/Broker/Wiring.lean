import Brokerage.Broker.Basic
import Brokerage.Settings.Broker

namespace Brokerage

/-!
Brokers from settings.

Slippage is used when it is positive.  A positive fee in basis points comes
before a flat fee.  The models check their parameters once more, and by rules
of their own.
-/

/-- Why settings do not lead to a broker. -/
inductive WiringError (α : Type) where
  | parameter (error : ParameterError α)
  | age (error : DurationError)
  | setup (error : SetupError α)

namespace BrokerSettings

variable {α : Type} [Quantity α]

def pricing? (settings : BrokerSettings α) : Except (ParameterError α) (Pricing α) :=
  if 0 < settings.slippageBps then Pricing.slippage? settings.slippageBps 0 else .ok .reference

def feeModel? (settings : BrokerSettings α) : Except (ParameterError α) (FeeModel α) :=
  if 0 < settings.feeBps then FeeModel.percentage? settings.feeBps
  else if 0 < settings.feePerTrade then FeeModel.fixed? settings.feePerTrade
  else .ok .free

def accountModel? (settings : BrokerSettings α) : Except (ParameterError α) (AccountModel α) :=
  match settings.accountKind with
  | .margin => AccountModel.margin? { leverage := settings.leverage }
  | .cash => .ok (.cash 0)

/-- The fixed part of the broker that the settings describe. -/
def house? (settings : BrokerSettings α) (clock : Option Instant) (rates : Option (Rates α)) :
    Except (WiringError α) (House α) :=
  match settings.pricing? with
  | .error error => .error (.parameter error)
  | .ok pricing =>
      match settings.feeModel? with
      | .error error => .error (.parameter error)
      | .ok feeModel =>
          match settings.accountModel? with
          | .error error => .error (.parameter error)
          | .ok model =>
              match Duration.ofSeconds? settings.maxEventAgeSeconds with
              | .error error => .error (.age error)
              | .ok maxEventAge =>
                  let base := settings.baseCurrency
                  .ok
                    { base
                      rates := rates.getD (Rates.single base)
                      deposit := Wallet.ofAmounts [⟨base, settings.initialDeposit⟩]
                      pricing
                      feeModel
                      model
                      clock
                      maxEventAge
                      checksBuyingPower := settings.rejectsUnaffordable }

/-- The broker that the settings describe. -/
def broker? (settings : BrokerSettings α) (clock : Option Instant) (rates : Option (Rates α)) :
    Except (WiringError α) (Broker α × List (Notice α)) :=
  match settings.house? clock rates with
  | .error error => .error error
  | .ok house =>
      match Broker.open? house with
      | .error error => .error (.setup error)
      | .ok opened => .ok opened

end BrokerSettings

/-- The wording of what keeps settings from leading to a broker, where there is one. -/
def WiringError.message? : WiringError Float -> Option String
  | .parameter error => some error.message
  | .age _ => none
  | .setup error => some error.message

end Brokerage
