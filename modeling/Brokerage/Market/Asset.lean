namespace Brokerage

/-- A tradable instrument; cash for its trades moves in its currency. -/
structure Asset where
  symbol : String
  currency : String := "USD"
  deriving DecidableEq, Repr

namespace Asset

/-- Assets are listed by symbol and then by currency. -/
def listedBefore (left right : Asset) : Bool :=
  decide (left.symbol < right.symbol) ||
    (left.symbol == right.symbol && decide (left.currency ≤ right.currency))

end Asset
end Brokerage
