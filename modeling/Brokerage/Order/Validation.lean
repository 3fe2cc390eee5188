import Brokerage.Decimal.Shortest
import Brokerage.Order.Basic
import Brokerage.Quantity

namespace Brokerage

/-!
Which orders can be worked at all.

A single-leg order needs a finite size that is not zero, positive prices, and
a trailing distance strictly between nothing and the whole.  A bracket needs
legs of the right kinds, each sound by itself, and exits that close in the same
asset exactly what the entry opens.
-/

/-- Why an order cannot be worked. -/
inductive Defect (α : Type) where
  | unsupportedType (typeName : String)
  | invalidSize (size : α)
  | limitNotPositive (limit : α)
  | stopNotPositive (stop : α)
  | distanceOutOfRange (distance : α)
  | entryKind
  | takeProfitKind
  | stopLossKind
  | bracketAssets
  | bracketSizes
  deriving DecidableEq, Repr

namespace Terms

variable {α : Type} [Quantity α]

/-- The first defect of the terms of a single-leg order. -/
def defect? (terms : Terms α) : Option (Defect α) :=
  if terms.size == 0 || !Quantity.isFinite terms.size then some (.invalidSize terms.size)
  else
    match terms.kind with
    | .market => none
    | .limit limit => if 0 < limit then none else some (.limitNotPositive limit)
    | .stop stop => if 0 < stop then none else some (.stopNotPositive stop)
    | .stopLimit stop limit =>
        if 0 < limit then
          if 0 < stop then none else some (.stopNotPositive stop)
        else some (.limitNotPositive limit)
    | .trail distance =>
        if 0 < distance && distance < 1 then none else some (.distanceOutOfRange distance)

end Terms

namespace Order

variable {α : Type} [Quantity α]

/-- A bracket is entered by a market or a limit order. -/
def isEntry : Order α -> Bool
  | single _ { kind := .market, .. } => true
  | single _ { kind := .limit _, .. } => true
  | _ => false

/-- A bracket takes its profit by a limit order. -/
def isTakeProfit : Order α -> Bool
  | single _ { kind := .limit _, .. } => true
  | _ => false

/-- A bracket stops its loss by a stop order, fixed or trailing. -/
def isStopLoss : Order α -> Bool
  | single _ { kind := .stop _, .. } => true
  | single _ { kind := .trail _, .. } => true
  | _ => false

/-- An exit closes, in the same asset, exactly what the entry opens. -/
def exitDefect? (entry exit : Terms α) : Option (Defect α) :=
  if exit.asset ≠ entry.asset then some .bracketAssets
  else if exit.size == -entry.size then none
  else some .bracketSizes

/-- The first defect of the terms of three legs of the right kinds. -/
def legsDefect? (entry takeProfit stopLoss : Terms α) : Option (Defect α) :=
  entry.defect? <|> takeProfit.defect? <|> stopLoss.defect? <|>
    exitDefect? entry takeProfit <|> exitDefect? entry stopLoss

/-- The first defect of an order; none when it can be worked. -/
def defect? (order : Order α) : Option (Defect α) :=
  match order with
  | single _ terms => terms.defect?
  | bracket _ entry takeProfit stopLoss =>
      if !entry.isEntry then some .entryKind
      else if !takeProfit.isTakeProfit then some .takeProfitKind
      else if !stopLoss.isStopLoss then some .stopLossKind
      else
        match entry, takeProfit, stopLoss with
        | single _ entry, single _ takeProfit, single _ stopLoss =>
            legsDefect? entry takeProfit stopLoss
        | _, _, _ => none
  | cancel .. => some (.unsupportedType order.typeName)
  | foreign typeName => some (.unsupportedType typeName)

end Order

/-- The wording of the defects. -/
def Defect.message : Defect Float -> String
  | .unsupportedType typeName => "unsupported order type " ++ typeName
  | .invalidSize size => "invalid size " ++ Decimal.text size
  | .limitNotPositive limit => "limit price must be positive, got " ++ Decimal.text limit
  | .stopNotPositive stop => "stop price must be positive, got " ++ Decimal.text stop
  | .distanceOutOfRange distance =>
      "trail_percentage must be in (0, 1), got " ++ Decimal.text distance
  | .entryKind => "bracket entry must be a MarketOrder or LimitOrder"
  | .takeProfitKind => "bracket take_profit must be a LimitOrder"
  | .stopLossKind => "bracket stop_loss must be a StopOrder or TrailOrder"
  | .bracketAssets => "bracket legs must all trade the same asset"
  | .bracketSizes => "bracket exits must close exactly the entry size"

end Brokerage
