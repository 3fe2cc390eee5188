import Brokerage.Time.Instant

namespace Brokerage

/-- How long an accepted order stays in force. -/
inductive TimeInForce where
  | goodTillCancelled
  /-- Until the end of the calendar day, in universal time, on which it was accepted. -/
  | day
  /-- Until an instant, which still counts. -/
  | goodTillDate (date : Instant)
  /-- For the event that accepted it and no later one. -/
  | immediateOrCancel
  deriving DecidableEq, Repr

namespace TimeInForce

/-- Whether an order accepted at `opened` is out of force at `now`. -/
def isExpired (tif : TimeInForce) (opened now : Instant) : Bool :=
  match tif with
  | goodTillCancelled => false
  | day => decide (opened.day < now.day)
  | goodTillDate date => decide (date < now)
  | immediateOrCancel => decide (opened < now)

/-- The short name of a policy. -/
def name : TimeInForce -> String
  | goodTillCancelled => "GTC"
  | day => "DAY"
  | goodTillDate _ => "GTD"
  | immediateOrCancel => "IOC"

/-- The date of a policy that has one. -/
def date? : TimeInForce -> Option Instant
  | goodTillDate date => some date
  | _ => none

end TimeInForce
end Brokerage
