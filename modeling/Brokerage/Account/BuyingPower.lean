import Brokerage.Account.Snapshot

namespace Brokerage

/-!
How much new exposure an account may take on.
-/

/-- The terms on which an account is levered. -/
structure MarginTerms (α : Type) [Quantity α] where
  leverage : α := ((2 : Nat) : α)
  /-- The share of the long holdings that is held back. -/
  longMargin : α := ((3 : Nat) : α) / ((10 : Nat) : α)
  /-- The share of the short holdings that is held back. -/
  shortMargin : α := ((5 : Nat) : α) / ((10 : Nat) : α)
  /-- Equity that stays unused. -/
  minimumEquity : α := 0

/-- How buying power follows from the books. -/
inductive AccountModel (α : Type) [Quantity α] where
  /-- All cash less a reserve. -/
  | cash (minimum : α)
  /-- Leverage on the equity that is left after margins and a reserve. -/
  | margin (terms : MarginTerms α)
  /-- Any other rule. -/
  | custom (rule : Account α -> Except (MoneyError α) (Amount α))

namespace AccountModel

variable {α : Type} [Quantity α]

def cash? (minimum : α) : Except (ParameterError α) (AccountModel α) :=
  if minimum < 0 then .error (.negative "minimum" minimum) else .ok (.cash minimum)

/-- A margin is a share between nothing and the whole. -/
def isShare (value : α) : Bool :=
  decide (0 ≤ value) && decide (value ≤ 1)

def margin? (terms : MarginTerms α) : Except (ParameterError α) (AccountModel α) :=
  if terms.leverage < 1 then .error (.leverageBelowOne terms.leverage)
  else if !isShare terms.longMargin then
    .error (.marginOutsideUnit "maintenance_margin_long" terms.longMargin)
  else if !isShare terms.shortMargin then
    .error (.marginOutsideUnit "maintenance_margin_short" terms.shortMargin)
  else .ok (.margin terms)

/-- The values of the holdings, long and short ones apart, holding by holding. -/
def exposures? (rates : Rates α) (base : Currency) (long short : α) :
    List (Position α) -> Except (MoneyError α) (α × α)
  | [] => .ok (long, short)
  | position :: rest =>
      match rates.convert? ⟨position.asset.currency, position.marketValue⟩ base with
      | .error error => .error error
      | .ok amount =>
          if 0 < amount.value then exposures? rates base (long + amount.value) short rest
          else exposures? rates base long (short + Quantity.abs amount.value) rest

/-- The buying power of an account. -/
def buyingPower? (model : AccountModel α) (account : Account α) :
    Except (MoneyError α) (Amount α) :=
  match model with
  | cash minimum =>
      match account.cashAmount? with
      | .error error => .error error
      | .ok amount => .ok ⟨amount.currency, amount.value - minimum⟩
  | margin terms =>
      match exposures? account.rates account.base 0 0 account.positions.values with
      | .error error => .error error
      | .ok (long, short) =>
          match account.cashAmount? with
          | .error error => .error error
          | .ok amount =>
              let excess := amount.value + long - short - long * terms.longMargin -
                short * terms.shortMargin - terms.minimumEquity
              .ok ⟨account.base, excess * terms.leverage⟩
  | custom rule => rule account

/-- The name of the model. -/
def name : AccountModel α -> String
  | cash _ => "CashAccount"
  | margin _ => "MarginAccount"
  | custom _ => "AccountModel"

end AccountModel
end Brokerage
