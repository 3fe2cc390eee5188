import Brokerage.Quantity

namespace Brokerage

/-!
Instants and spans of time.

An instant is a whole number of nanoseconds since the start of the year 1970 in
universal time.  The library never asks for the time of day: every instant
comes from an event, a date in an order, or a clock that stands still.  The numbers
from one on, behind every instant that a date can name, are kept for what has
no instant.
-/

/-- A point in time, in nanoseconds since 1970-01-01 in universal time. -/
structure Instant where
  nanoseconds : Int
  deriving DecidableEq, Repr

/-- A span of time in nanoseconds. -/
structure Duration where
  nanoseconds : Int
  deriving DecidableEq, Repr

namespace Instant

instance : LT Instant := ⟨fun left right => left.nanoseconds < right.nanoseconds⟩

instance : LE Instant := ⟨fun left right => left.nanoseconds ≤ right.nanoseconds⟩

instance (left right : Instant) : Decidable (left < right) :=
  inferInstanceAs (Decidable (left.nanoseconds < right.nanoseconds))

instance (left right : Instant) : Decidable (left ≤ right) :=
  inferInstanceAs (Decidable (left.nanoseconds ≤ right.nanoseconds))

/-- What a broker is told for an instant that is missing, behind all that are known. -/
def missing : Instant := ⟨Nat.pow 10 30⟩

/-- The instant, unless it stands for one that is missing. -/
def known? (instant : Instant) : Option Instant :=
  if instant < missing then some instant else none

/-- The instant that lies a span before another one. -/
def before (instant : Instant) (span : Duration) : Instant :=
  ⟨instant.nanoseconds - span.nanoseconds⟩

/-- The number of the calendar day in universal time; day zero is 1970-01-01. -/
def day (instant : Instant) : Int :=
  instant.nanoseconds / 86400000000000

/-- Nanoseconds since the start of the calendar day. -/
def timeOfDay (instant : Instant) : Nat :=
  (instant.nanoseconds % 86400000000000).toNat

end Instant

/-- Why a number of seconds is not a span. -/
inductive DurationError where
  | undefined
  | outOfRange
  deriving DecidableEq, Repr

/-- The nanoseconds of a span fit into a signed word of sixty-four bits. -/
def Duration.largest : Nat := Nat.pow 2 63 - 1

/-- A number of seconds as a span, cut to whole nanoseconds. -/
def Duration.ofSeconds? {α : Type} [Quantity α] (seconds : α) : Except DurationError Duration :=
  if Quantity.isUndefined seconds then .error .undefined
  else
    match Quantity.wholePart? (seconds * ((1000000000 : Nat) : α)) with
    | some nanoseconds =>
        if nanoseconds.natAbs ≤ Duration.largest then .ok ⟨nanoseconds⟩ else .error .outOfRange
    | none => .error .outOfRange

end Brokerage
