import Brokerage.Order.Basic
import Brokerage.Text.Quoted

namespace Brokerage

/-!
The life of an order.

An order starts out initial, is accepted or closed, and once closed stays as
it is.  A move that the life does not allow is absorbed without a trace, so
that a report may be delivered twice.
-/

inductive OrderStatus where
  | initial
  | accepted
  | completed
  | cancelled
  | expired
  | rejected
  deriving DecidableEq, Repr

namespace OrderStatus

def isOpen : OrderStatus -> Bool
  | initial => true
  | accepted => true
  | _ => false

def isClosed (status : OrderStatus) : Bool :=
  !status.isOpen

/-- Closed without having been completed. -/
def isAborted : OrderStatus -> Bool
  | cancelled => true
  | expired => true
  | rejected => true
  | _ => false

def all : List OrderStatus :=
  [initial, accepted, completed, cancelled, expired, rejected]

def name : OrderStatus -> String
  | initial => "INITIAL"
  | accepted => "ACCEPTED"
  | completed => "COMPLETED"
  | cancelled => "CANCELLED"
  | expired => "EXPIRED"
  | rejected => "REJECTED"

/-- The status with a name, which has to be written in capitals. -/
def ofName? (name : String) : Option OrderStatus :=
  all.find? fun status => status.name == name

/-- What is said of a text that names no status. -/
def unknownMessage (name : String) : String :=
  Text.quoted name ++ " is not a valid OrderStatus"

end OrderStatus

/-- Where an order stands, and when it was opened and closed. -/
structure Lifecycle where
  status : OrderStatus := .initial
  openedAt : Option Instant := none
  closedAt : Option Instant := none
  deriving DecidableEq, Repr

namespace Lifecycle

def isOpen (life : Lifecycle) : Bool :=
  life.status.isOpen

def isClosed (life : Lifecycle) : Bool :=
  life.status.isClosed

/-- Only an initial order is accepted, and only an open order is closed. -/
def allows (life : Lifecycle) (status : OrderStatus) : Bool :=
  match status with
  | .initial => false
  | .accepted => decide (life.status = .initial)
  | _ => life.isOpen

/--
Move to a status.  An order that is closed without having been accepted was
opened at the moment it closed.
-/
def move (life : Lifecycle) (time : Instant) (status : OrderStatus) : Lifecycle :=
  if life.allows status then
    if status = .accepted then { status, openedAt := some time, closedAt := none }
    else { status, openedAt := some (life.openedAt.getD time), closedAt := some time }
  else life

end Lifecycle

/-- An order and where it stands. -/
structure OrderState (α : Type) extends Lifecycle where
  order : Order α
  deriving Repr

namespace OrderState

variable {α : Type}

/-- The number on the slip of the order. -/
def number? (state : OrderState α) : Option OrderId :=
  state.order.number?

def move (state : OrderState α) (time : Instant) (status : OrderStatus) :
    OrderState α :=
  { state with toLifecycle := state.toLifecycle.move time status }

end OrderState
end Brokerage
