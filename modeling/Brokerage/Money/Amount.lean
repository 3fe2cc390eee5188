import Brokerage.Decimal.Fixed
import Brokerage.Decimal.Shortest
import Brokerage.Quantity
import Brokerage.Table
import Brokerage.Text.Quoted

namespace Brokerage

/-!
Money in one currency.
-/

/-- The code of a currency; any text serves. -/
abbrev Currency := String

/-- A sum of money in one currency; debts are negative. -/
structure Amount (α : Type) where
  currency : Currency
  value : α
  deriving DecidableEq, Repr

/-- What can go wrong with money. -/
inductive MoneyError (α : Type) where
  /-- Amounts of two currencies were added. -/
  | mixedCurrencies (left right : Currency)
  /-- A table was given a rate that is not positive. -/
  | rateNotPositive (currency : Currency) (rate : α)
  /-- A table was asked for a currency that it does not list. -/
  | noRate (currency base : Currency) (known : List Currency)
  deriving Repr

namespace Amount

variable {α : Type} [Quantity α]

/-- Amounts are added within one currency only. -/
def add (left right : Amount α) : Except (MoneyError α) (Amount α) :=
  if right.currency = left.currency then .ok ⟨left.currency, left.value + right.value⟩
  else .error (.mixedCurrencies left.currency right.currency)

def scale (amount : Amount α) (factor : α) : Amount α :=
  ⟨amount.currency, amount.value * factor⟩

end Amount

/-- An amount in a message: two decimals, commas, and the currency. -/
def Amount.text (amount : Amount Float) : String :=
  Decimal.money.text amount.value ++ " " ++ amount.currency

/-- The wording of the errors of money. -/
def MoneyError.message : MoneyError Float -> String
  | .mixedCurrencies left right =>
      "Cannot add amounts in different currencies: " ++ left ++ " and " ++ right
  | .rateNotPositive currency rate =>
      "Exchange rate for " ++ currency ++ " must be positive, got " ++ Decimal.text rate
  | .noRate currency base known =>
      "No exchange rate for " ++ currency ++ " (base currency " ++ base ++ ", known: " ++
        Text.quotedList (Text.sorted known) ++ ")"

end Brokerage
