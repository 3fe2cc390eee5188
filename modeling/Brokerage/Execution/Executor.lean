import Brokerage.Execution.Worker

namespace Brokerage

/-!
Working any order that can trade.

A bracket works its entry first.  The event that fills the entry makes both
exits live, and from the next event on the stop-loss is tried before the
take-profit; the first exit to fill cancels the other one and completes the
bracket.  All fills of a bracket are fills of the bracket itself.
-/

/-- An order in the working set. -/
inductive Executor (α : Type) where
  | single (worker : Worker α)
  | bracket (slip : Slip) (life : Lifecycle) (entry takeProfit stopLoss : Executor α)

/-- Something that cannot be worked as an order; the name of its type is known. -/
structure NotWorkable where
  typeName : String
  deriving DecidableEq, Repr

def NotWorkable.message (error : NotWorkable) : String :=
  "No executor for order type " ++ error.typeName

namespace Executor

variable {α : Type}

/-- Start to work an order; cancels and strangers are no work. -/
def create? : Order α -> Except NotWorkable (Executor α)
  | .single slip terms => .ok (single { slip, terms })
  | .bracket slip entry takeProfit stopLoss =>
      match create? entry with
      | .error error => .error error
      | .ok entry =>
          match create? takeProfit with
          | .error error => .error error
          | .ok takeProfit =>
              match create? stopLoss with
              | .error error => .error error
              | .ok stopLoss => .ok (bracket slip {} entry takeProfit stopLoss)
  | .cancel .. => .error ⟨"CancelOrder"⟩
  | .foreign typeName => .error ⟨typeName⟩

def life : Executor α -> Lifecycle
  | single worker => worker.life
  | bracket _ life _ _ _ => life

def slip : Executor α -> Slip
  | single worker => worker.slip
  | bracket slip _ _ _ _ => slip

/-- The order that is worked. -/
def order : Executor α -> Order α
  | single worker => .single worker.slip worker.terms
  | bracket slip _ entry takeProfit stopLoss =>
      .bracket slip entry.order takeProfit.order stopLoss.order

/-- The terms that decide asset, size and time in force. -/
def terms : Executor α -> Terms α
  | single worker => worker.terms
  | bracket _ _ entry _ _ => entry.terms

/-- The order and where it stands. -/
def state (executor : Executor α) : OrderState α :=
  { executor.life with order := executor.order }

def isOpen (executor : Executor α) : Bool :=
  executor.life.isOpen

/-- Move the order itself and none of its legs. -/
def moveSelf (time : Instant) (status : OrderStatus) : Executor α -> Executor α
  | single worker => single { worker with life := worker.life.move time status }
  | bracket slip life entry takeProfit stopLoss =>
      bracket slip (life.move time status) entry takeProfit stopLoss

/-- Accept the order, and with a bracket its entry. -/
def accept (time : Instant) : Executor α -> Executor α
  | single worker => single { worker with life := worker.life.move time .accepted }
  | bracket slip life entry takeProfit stopLoss =>
      if life.allows .accepted then
        bracket slip (life.move time .accepted) (entry.accept time) takeProfit stopLoss
      else bracket slip life entry takeProfit stopLoss

/-- Refuse the order. -/
def reject (time : Instant) (executor : Executor α) : Executor α :=
  executor.moveSelf time .rejected

/-- Close the order and all its legs. -/
def close (time : Instant) (status : OrderStatus) : Executor α -> Executor α
  | single worker => single { worker with life := worker.life.move time status }
  | bracket slip life entry takeProfit stopLoss =>
      bracket slip (life.move time status) (entry.close time status) (takeProfit.close time status)
        (stopLoss.close time status)

/-- Whether the time in force governs the order now: a bracket's does until the entry fills. -/
def isTimed : Executor α -> Bool
  | single _ => true
  | bracket _ _ entry _ _ => entry.isOpen

/-- Whether an accepted order is out of force. -/
def isExpired (executor : Executor α) (time : Instant) : Bool :=
  executor.isTimed && executor.life.status == .accepted &&
    match executor.life.openedAt with
    | some opened => executor.terms.tif.isExpired opened time
    | none => false

/-- All slips show the numbers that their tickets have been given. -/
def numbered (numbers : Table Ticket OrderId) : Executor α -> Executor α
  | single worker => single { worker with slip := Order.numberedSlip numbers worker.slip }
  | bracket slip life entry takeProfit stopLoss =>
      bracket (Order.numberedSlip numbers slip) life (entry.numbered numbers)
        (takeProfit.numbered numbers) (stopLoss.numbered numbers)

section Matching

variable [Quantity α]

/-- Show an observation to a leg; only a single-leg order can be one that fills. -/
def matchLeg? (pricing : Pricing α) (observation : Observation α) :
    Executor α -> Executor α × Option α
  | single worker =>
      let result := worker.match? pricing observation
      (single result.1, result.2)
  | bracket slip life entry takeProfit stopLoss =>
      (bracket slip life entry takeProfit stopLoss, none)

/-- Match an open order against an event. -/
def execute (pricing : Pricing α) (event : Event α) (executor : Executor α) :
    Executor α × List (Execution α) :=
  match event.observation? executor.terms.asset with
  | none => (executor, [])
  | some observation =>
      let fill (quantity price : α) : List (Execution α) :=
        [{ order := executor.order, asset := executor.terms.asset, quantity, price }]
      match executor with
      | single worker =>
          match worker.match? pricing observation with
          | (worker, none) => (single worker, [])
          | (worker, some price) =>
              (single (worker.move event.time .completed), fill worker.terms.size price)
      | bracket slip life entry takeProfit stopLoss =>
          if entry.isOpen then
            match entry.matchLeg? pricing observation with
            | (entry, none) => (bracket slip life entry takeProfit stopLoss, [])
            | (entry, some price) =>
                (bracket slip life (entry.moveSelf event.time .completed)
                    (takeProfit.accept event.time) (stopLoss.accept event.time),
                  fill entry.terms.size price)
          else
            match stopLoss.matchLeg? pricing observation with
            | (stopLoss, some price) =>
                (bracket slip (life.move event.time .completed) entry
                    (takeProfit.close event.time .cancelled)
                    (stopLoss.moveSelf event.time .completed),
                  fill stopLoss.terms.size price)
            | (stopLoss, none) =>
                match takeProfit.matchLeg? pricing observation with
                | (takeProfit, some price) =>
                    (bracket slip (life.move event.time .completed) entry
                        (takeProfit.moveSelf event.time .completed)
                        (stopLoss.close event.time .cancelled),
                      fill takeProfit.terms.size price)
                | (takeProfit, none) => (bracket slip life entry takeProfit stopLoss, [])

end Matching

end Executor
end Brokerage
