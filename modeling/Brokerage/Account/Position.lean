import Brokerage.Execution.Fee
import Brokerage.Time.Instant

namespace Brokerage

/-!
Holdings, and the trades that change them.
-/

/-- The net holding of one asset; a negative size is a short holding. -/
structure Position (α : Type) where
  asset : Asset
  size : α
  /-- Size-weighted average of the prices at which the holding was opened. -/
  avgPrice : α
  /-- The last price that was seen of the asset. -/
  spotPrice : α
  lastUpdate : Option Instant
  deriving DecidableEq, Repr

namespace Position

variable {α : Type} [Quantity α]

/-- Nothing is held of an asset. -/
def flat (asset : Asset) : Position α where
  asset
  size := 0
  avgPrice := 0
  spotPrice := 0
  lastUpdate := none

/-- A fill, written as the holding that it would open. -/
def ofFill (asset : Asset) (size price : α) (time : Instant) : Position α where
  asset
  size
  avgPrice := price
  spotPrice := price
  lastUpdate := some time

def isFlat (position : Position α) : Bool :=
  position.size == 0

def isLong (position : Position α) : Bool :=
  decide (0 < position.size)

def isShort (position : Position α) : Bool :=
  decide (position.size < 0)

/-- What the holding is worth at the last price; negative for a short one. -/
def marketValue (position : Position α) : α :=
  position.size * position.spotPrice

/-- The profit that closing the holding at the last price would realize. -/
def unrealizedPnl (position : Position α) : α :=
  position.size * (position.spotPrice - position.avgPrice)

/-- Whether a fill goes the same way as the holding. -/
def sameDirection (position fill : Position α) : Bool :=
  decide (0 < position.size * fill.size)

/--
The holding after a fill that is itself written as a holding.  A fill in the
same direction averages the prices, one in the other direction leaves the
average alone until it reaches zero, and what is left beyond zero was opened at
the price of the fill.  Price and time are those of the fill.
-/
def merge (position fill : Position α) : Position α :=
  let size := position.size + fill.size
  let result (size avgPrice : α) : Position α :=
    { asset := position.asset, size, avgPrice, spotPrice := fill.spotPrice,
      lastUpdate := fill.lastUpdate }
  if position.isFlat then result fill.size fill.avgPrice
  else if size == 0 then result 0 0
  else if position.sameDirection fill then
    result size ((position.size * position.avgPrice + fill.size * fill.avgPrice) / size)
  else if 0 < size * position.size then result size position.avgPrice
  else result size fill.avgPrice

/-- The profit that a fill realizes: only what closes a part of the holding does. -/
def realizedPnl (position fill : Position α) : α :=
  if position.isFlat || position.sameDirection fill then 0
  else
    let closed := Quantity.least (Quantity.abs position.size) (Quantity.abs fill.size)
    let sign : α := if position.isLong then 1 else -1
    closed * (fill.avgPrice - position.avgPrice) * sign

end Position

/-- A booked fill. -/
structure Trade (α : Type) where
  time : Instant
  asset : Asset
  /-- Signed quantity; positive when bought. -/
  size : α
  price : α
  fee : α
  /-- Realized profit after the fee. -/
  pnl : α
  orderId : Option OrderId
  deriving DecidableEq, Repr

/-- The cash that leaves the account for a trade; negative when cash comes in. -/
def Trade.totalCost {α : Type} [Quantity α] (trade : Trade α) : α :=
  trade.size * trade.price + trade.fee

end Brokerage
