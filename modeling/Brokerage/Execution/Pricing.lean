import Brokerage.Decimal.Shortest
import Brokerage.Market.Observation
import Brokerage.Order.Basic

namespace Brokerage

/-!
At which price an order fills.

A pricing model answers for market-style fills; the limit of a limit order is
applied on top of its answer.  It is shown the order as it is written, with its
number and its tag.  The last constructor stands for any model that somebody
else may supply.
-/

/-- A model parameter that lies outside its range. -/
inductive ParameterError (α : Type) where
  | negative (name : String) (value : α)
  | leverageBelowOne (value : α)
  | marginOutsideUnit (name : String) (value : α)
  deriving Repr

def ParameterError.message : ParameterError Float -> String
  | .negative name value => name ++ " must be non-negative, got " ++ Decimal.text value
  | .leverageBelowOne value => "leverage must be >= 1, got " ++ Decimal.text value
  | .marginOutsideUnit name value => name ++ " must be in [0, 1], got " ++ Decimal.text value

/-- How the price of a fill follows from what was observed. -/
inductive Pricing (α : Type) where
  /-- The reference price. -/
  | reference
  /-- The reference price, worsened by basis points of it and by a fixed amount. -/
  | slippage (bps fixed : α)
  /-- Any other rule. -/
  | custom (rule : Slip -> Terms α -> Observation α -> α)

namespace Pricing

variable {α : Type} [Quantity α]

/-- Slippage whose two parts must not be negative. -/
def slippage? (bps fixed : α) : Except (ParameterError α) (Pricing α) :=
  if bps < 0 then .error (.negative "slippage_bps" bps)
  else if fixed < 0 then .error (.negative "fixed" fixed)
  else .ok (.slippage bps fixed)

/-- Slippage on a reference price, per unit. -/
def adjustment (bps fixed reference : α) : α :=
  reference * bps / ((10000 : Nat) : α) + fixed

/-- The price of a fill; slippage makes buys dearer and sells cheaper. -/
def price (pricing : Pricing α) (slip : Slip) (terms : Terms α) (observation : Observation α) : α :=
  match pricing with
  | reference => observation.price
  | slippage bps fixed =>
      let reference := observation.price
      if terms.buys then reference + adjustment bps fixed reference
      else reference - adjustment bps fixed reference
  | custom rule => rule slip terms observation

/-- The name of the model. -/
def name : Pricing α -> String
  | reference => "NoCostPricing"
  | slippage .. => "SlippagePricing"
  | custom _ => "Pricing"

end Pricing

/-- The text of a model that has parameters. -/
def Pricing.text? : Pricing Float -> Option String
  | .slippage bps fixed =>
      some ("SlippagePricing(slippage_bps=" ++ Decimal.text bps ++ ", fixed=" ++
        Decimal.text fixed ++ ")")
  | _ => none

end Brokerage
