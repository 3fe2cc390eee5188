import Brokerage.Performance.Curve

namespace Brokerage
namespace Performance

/-!
Return against volatility.

Volatility is the sample standard deviation.  A ratio is left out when there is
no volatility to divide by.
-/

variable {α : Type} [Quantity α] [Roots α]

def mean (xs : List α) : α :=
  sum xs / ((xs.length : Nat) : α)

/-- The sample standard deviation of at least two numbers. -/
def deviation? (xs : List α) : Option α :=
  if xs.length < 2 then none
  else
    let centre := mean xs
    let squares := xs.map fun x => (centre - x) * (centre - x)
    some (Roots.sqrt (sum squares / (((xs.length - 1 : Nat)) : α)))

/-- No volatility worth the name. -/
def isSteady (deviation : α) : Bool :=
  decide (deviation < 1 / ((1000000000000 : Nat) : α))

/-- The yearly risk-free rate cannot be spread over a year without periods. -/
inductive RatioError where
  | noPeriods
  deriving DecidableEq, Repr

/-- The mean excess return over a deviation, scaled to a year. -/
def annualized? (returns : List α) (deviation riskFree : α) (periodsPerYear : Int) :
    Except RatioError (Option α) :=
  if periodsPerYear = 0 then .error .noPeriods
  else
    let periods : α := Quantity.ofInt periodsPerYear
    let excess := mean returns - riskFree / periods
    .ok (some (excess / deviation * Roots.sqrt periods))

/-- The ratio of mean excess return to volatility. -/
def sharpe? (returns : List α) (riskFree : α) (periodsPerYear : Int) :
    Except RatioError (Option α) :=
  let clean := returns.filter fun value => !Quantity.isUndefined value
  match deviation? clean with
  | none => .ok none
  | some deviation =>
      if Quantity.isUndefined deviation || isSteady deviation then .ok none
      else annualized? clean deviation riskFree periodsPerYear

/-- The same with the volatility of the negative returns alone. -/
def sortino? (returns : List α) (riskFree : α) (periodsPerYear : Int) :
    Except RatioError (Option α) :=
  let clean := returns.filter fun value => !Quantity.isUndefined value
  match deviation? (clean.filter fun value => decide (value < 0)) with
  | none => .ok none
  | some deviation =>
      if isSteady deviation then .ok none else annualized? clean deviation riskFree periodsPerYear

end Performance
end Brokerage
