import Brokerage.Money.Amount

namespace Brokerage

/-!
A fixed table of exchange rates.

A rate tells how many units of the base currency one unit of a currency is
worth.  The base currency starts with the rate one, and two other currencies
are exchanged by way of the base.
-/

/-- Exchange rates into one base currency. -/
structure Rates (α : Type) where
  base : Currency
  table : Table Currency α

namespace Rates

variable {α : Type} [Quantity α]

/-- The table that lists the base currency alone. -/
def single (base : Currency) : Rates α where
  base
  table := Table.empty.put base 1

/-- Enter rates one after the other; the first one that is zero or negative is refused. -/
def enter (table : Table Currency α) :
    List (Currency × α) -> Except (MoneyError α) (Table Currency α)
  | [] => .ok table
  | entry :: rest =>
      if entry.2 ≤ 0 then .error (.rateNotPositive entry.1 entry.2)
      else enter (table.put entry.1 entry.2) rest

/-- A table with the rates of `given`, which may list the base currency too. -/
def of? (base : Currency) (given : Table Currency α) : Except (MoneyError α) (Rates α) :=
  match enter (single base).table given.entries with
  | .ok table => .ok { base, table }
  | .error error => .error error

def supports (rates : Rates α) (currency : Currency) : Bool :=
  rates.table.contains currency

/-- The rate of a currency against the base. -/
def worth? (rates : Rates α) (currency : Currency) : Except (MoneyError α) α :=
  match rates.table.get? currency with
  | some value => .ok value
  | none => .error (.noRate currency rates.base rates.table.keys)

/-- The factor that turns a value in one currency into a value in another. -/
def rate? (rates : Rates α) (source target : Currency) : Except (MoneyError α) α :=
  match rates.worth? source with
  | .error error => .error error
  | .ok given =>
      match rates.worth? target with
      | .error error => .error error
      | .ok wanted => .ok (given / wanted)

/-- An amount in another currency; within its own currency it is left alone. -/
def convert? (rates : Rates α) (amount : Amount α) (target : Currency) :
    Except (MoneyError α) (Amount α) :=
  if amount.currency = target then .ok amount
  else
    match rates.rate? amount.currency target with
    | .ok factor => .ok ⟨target, amount.value * factor⟩
    | .error error => .error error

/-- Add converted values to a total, in their order. -/
def addAll? (rates : Rates α) (target : Currency) (total : α) :
    List (Currency × α) -> Except (MoneyError α) α
  | [] => .ok total
  | entry :: rest =>
      match rates.convert? ⟨entry.1, entry.2⟩ target with
      | .ok amount => addAll? rates target (total + amount.value) rest
      | .error error => .error error

/-- The total of a table of values in one currency. -/
def convertAll? (rates : Rates α) (values : Table Currency α) (target : Currency) :
    Except (MoneyError α) (Amount α) :=
  match rates.addAll? target 0 values.entries with
  | .ok total => .ok ⟨target, total⟩
  | .error error => .error error

end Rates
end Brokerage
