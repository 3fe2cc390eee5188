import Brokerage.Feed.Arrangement
import Brokerage.Feed.Frame
import Brokerage.Market.Event

namespace Brokerage

/-!
Events from price frames.

Frames are checked one after the other.  Their rows are then merged: all rows
of one instant make up one moment, and the moments are put in ascending order.
Rows without an instant make up a moment as well, which no other one is before
or behind.
-/

/-- What frames observe at one instant, which may be missing. -/
structure Moment (α : Type) where
  time : Option Instant
  prices : Table Asset (Observation α)

namespace Moment

variable {α : Type}

/-- The moment of a list of observations. -/
def of? (time : Option Instant) (observations : List (Observation α)) :
    Except EventError (Moment α) :=
  match Event.collect? Table.empty observations with
  | .ok prices => .ok { time, prices }
  | .error asset =>
      .error (.duplicateObservation asset ((time.map Instant.text).getD Instant.missingText))

/-- The observation of an asset. -/
def observation? (moment : Moment α) (asset : Asset) : Option (Observation α) :=
  moment.prices.get? asset

/--
The event that a broker is given, which has an instant.  A moment without one is
given an instant behind all that can be named.  In a backtest of a price file
nothing but the last moment is without one, and no order there expires, so a
broker only asks whether that event is earlier than the one before, which it
is not.
-/
def event (moment : Moment α) : Event α where
  time := moment.time.getD Instant.missing
  prices := moment.prices

end Moment

/-- Why frames do not make up events. -/
inductive FeedError where
  | frame (asset : Asset) (defect : FrameDefect)
  | event (error : EventError)
  deriving DecidableEq, Repr

namespace Frame

variable {α : Type} [Quantity α]

/-- The numbers of a column. -/
def numbers (frame : Frame α) (name : String) : List (Option α) :=
  (frame.column name).map Entry.number?

/-- The volumes of the rows, the first bad one of which is reported; closing prices have none. -/
def volumes? (reading : Reading α) (frame : Frame α) : Except FrameDefect (List (Option α)) :=
  if frame.hasBars then (frame.column "volume").mapM (Entry.volume? reading) else .ok []

/-- The price bars of the rows; a row without one of its prices has none. -/
def bars (frame : Frame α) (asset : Asset) (volumes : List (Option α)) :
    List (Option (Observation α)) :=
  (frame.numbers "open_price").zip ((frame.numbers "high_price").zip
    ((frame.numbers "low_price").zip ((frame.numbers "closing_price").zip volumes))) |>.map
      fun (opening, high, low, closing, volume) => do
        some (.bar asset (<- opening) (<- high) (<- low) (<- closing) volume)

/-- The closing prices of the rows. -/
def closings (frame : Frame α) (asset : Asset) : List (Option (Observation α)) :=
  (frame.numbers "closing_price").map fun closing => do
    some (.trade asset (<- closing) none)

/-- What the rows of a checked frame observe, and when if that is known. -/
def observations (reading : Reading α) (frame : Frame α) (asset : Asset)
    (volumes : List (Option α)) : List (Option Instant × Observation α) :=
  let observed := if frame.hasBars then frame.bars asset volumes else frame.closings asset
  ((frame.times? reading).getD []).zip observed |>.filterMap fun (time, observation) =>
    observation.map fun observation => (time, observation)

/-- Check a frame and take its observations. -/
def observations? (reading : Reading α) (frame : Frame α) (asset : Asset) :
    Except FrameDefect (List (Option Instant × Observation α)) :=
  match frame.defect? reading with
  | some defect => .error defect
  | none =>
      match frame.volumes? reading with
      | .error defect => .error defect
      | .ok volumes => .ok (frame.observations reading asset volumes)

end Frame

namespace Feed

variable {α : Type} [Quantity α]

/-- The observations of all frames, frame by frame. -/
def observations? (reading : Reading α) :
    List (Asset × Frame α) -> Except FeedError (List (Option Instant × Observation α))
  | [] => .ok []
  | (asset, frame) :: rest =>
      match frame.observations? reading asset with
      | .error defect => .error (.frame asset defect)
      | .ok observed =>
          match observations? reading rest with
          | .error error => .error error
          | .ok others => .ok (observed ++ others)

/-- The observations of each instant, in the order in which they came. -/
def grouped (observed : List (Option Instant × Observation α)) :
    Table (Option Instant) (List (Observation α)) :=
  observed.foldl
    (fun groups (time, observation) =>
      groups.put time ((groups.get? time).getD [] ++ [observation]))
    Table.empty

/-- Whether an instant is before another one; none is before or behind a missing one. -/
def isBefore : Option Instant -> Option Instant -> Bool
  | some left, some right => decide (left < right)
  | _, _ => false

/-- One moment per instant, and one for what has none. -/
def momentsOf? :
    List (Option Instant × List (Observation α)) -> Except EventError (List (Moment α))
  | [] => .ok []
  | (time, observations) :: rest =>
      match Moment.of? time observations with
      | .error error => .error error
      | .ok moment =>
          match momentsOf? rest with
          | .error error => .error error
          | .ok others => .ok (moment :: others)

/-- The moments of frames, the oldest first. -/
def moments? (reading : Reading α) (frames : Table Asset (Frame α)) :
    Except FeedError (List (Moment α)) :=
  match observations? reading frames.entries with
  | .error error => .error error
  | .ok observed =>
      let ascending := Arrangement.arranged (fun left right => isBefore left.1 right.1)
        (grouped observed).entries
      match momentsOf? ascending with
      | .error error => .error (.event error)
      | .ok moments => .ok moments

end Feed
end Brokerage
