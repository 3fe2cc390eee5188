import Brokerage.Market.Asset
import Brokerage.Quantity

namespace Brokerage

/-!
Price observations of one asset.

Whatever its kind, an observation gives a reference price and a traded range,
and order matching uses nothing else.
-/

/-- What was seen of one asset at one instant; a volume may be missing. -/
inductive Observation (α : Type) where
  /-- A single traded price. -/
  | trade (asset : Asset) (price : α) (volume : Option α)
  /-- The prices of one period. -/
  | bar (asset : Asset) (opening high low closing : α) (volume : Option α)
  /-- The best offers to sell and to buy. -/
  | quote (asset : Asset) (ask bid : α)
  deriving Repr

namespace Observation

variable {α : Type}

def asset : Observation α -> Asset
  | trade asset .. => asset
  | bar asset .. => asset
  | quote asset .. => asset

/-- The reference price: the trade, the close, or the middle of the quote. -/
def price [Quantity α] : Observation α -> α
  | trade _ price _ => price
  | bar _ _ _ _ closing _ => closing
  | quote _ ask bid => (ask + bid) / ((2 : Nat) : α)

/-- The lower end of the traded range. -/
def low : Observation α -> α
  | trade _ price _ => price
  | bar _ _ _ low _ _ => low
  | quote _ _ bid => bid

/-- The upper end of the traded range. -/
def high : Observation α -> α
  | trade _ price _ => price
  | bar _ _ high _ _ _ => high
  | quote _ ask _ => ask

end Observation
end Brokerage
