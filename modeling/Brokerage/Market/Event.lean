import Brokerage.Market.Observation
import Brokerage.Table
import Brokerage.Time.Reader

namespace Brokerage

/-!
Market events: everything that is observed at one instant.
-/

/-- A known instant with at most one observation per asset. -/
structure Event (α : Type) where
  time : Instant
  prices : Table Asset (Observation α)

/-- Why a list of observations is not an event. -/
inductive EventError where
  /-- Two observations of one asset, at a time that is quoted as it was given. -/
  | duplicateObservation (asset : Asset) (time : String)
  /-- The time is not an instant. -/
  | invalidTime
  deriving DecidableEq, Repr

def EventError.message? : EventError -> Option String
  | .duplicateObservation asset time =>
      some ("Duplicate price observation for " ++ asset.symbol ++ " at " ++ time)
  | .invalidTime => none

namespace Event

variable {α : Type}

/-- Enter observations one after the other; the second one of an asset is refused. -/
def collect? (prices : Table Asset (Observation α)) :
    List (Observation α) -> Except Asset (Table Asset (Observation α))
  | [] => .ok prices
  | observation :: rest =>
      if prices.contains observation.asset then .error observation.asset
      else collect? (prices.put observation.asset observation) rest

/-- The event of a list of observations at a time that is read after them. -/
def ofText? (time : String) (observations : List (Observation α)) :
    Except EventError (Event α) :=
  match collect? Table.empty observations with
  | .error asset => .error (.duplicateObservation asset time)
  | .ok prices =>
      match Instant.ofText? time with
      | some instant => .ok { time := instant, prices }
      | none => .error .invalidTime

/-- An instant at which nothing is observed. -/
def quiet (time : Instant) : Event α where
  time
  prices := Table.empty

/-- The observation of an asset. -/
def observation? (event : Event α) (asset : Asset) : Option (Observation α) :=
  event.prices.get? asset

end Event
end Brokerage
