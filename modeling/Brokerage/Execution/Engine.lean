import Brokerage.Execution.Executor
import Brokerage.Journal.Notice

namespace Brokerage

/-!
The working set of orders.

Every order that is registered gets the next number, also when it cannot be
worked.  A cancel is applied on the spot; any other order is accepted or
refused.  An event is shown to the open orders in the order of their numbers,
and an order that is out of force by then expires instead of being matched.
Closed orders stay in the set until they are removed, so that their last state
can be recorded.
-/

/-- Orders at work, cancels since the last removal, and the numbers given so far. -/
structure Engine (α : Type) where
  executors : Table OrderId (Executor α) := Table.empty
  cancels : Table OrderId (OrderState α) := Table.empty
  nextId : OrderId := 1
  /-- The last number that was written on each ticket; it outlives the working set. -/
  numbers : Table Ticket OrderId := Table.empty

namespace Engine

variable {α : Type}

instance : Inhabited (Engine α) := ⟨{}⟩

/-- The state of the order with a number. -/
def state? (engine : Engine α) (number : OrderId) : Option (OrderState α) :=
  match engine.executors.get? number with
  | some executor => some executor.state
  | none => engine.cancels.get? number

/-- All states in the working set, by the numbers on the slips. -/
def states (engine : Engine α) : List (OrderState α) :=
  (engine.executors.values.map Executor.state ++ engine.cancels.values).mergeSort
    fun left right => decide (left.number?.getD 0 ≤ right.number?.getD 0)

/-- The numbers of the open orders. -/
def openIds (engine : Engine α) : List OrderId :=
  (engine.executors.filter fun _ executor => executor.isOpen).keys

/-- Drop the closed orders and all cancels. -/
def removeClosed (engine : Engine α) : Engine α :=
  { engine with
    executors := engine.executors.filter fun _ executor => executor.isOpen
    cancels := Table.empty }

/-- Drop everything and start numbering anew; tickets keep their numbers. -/
def clear (engine : Engine α) : Engine α :=
  { numbers := engine.numbers }

/-- Write a number on a ticket; every slip with that ticket shows it from now on. -/
def writeNumber (engine : Engine α) (ticket : Option Ticket) (number : OrderId) : Engine α :=
  match ticket with
  | none => engine
  | some ticket =>
      let numbers := engine.numbers.put ticket number
      { engine with
        numbers
        executors := engine.executors.map fun _ executor => executor.numbered numbers
        cancels := engine.cancels.map fun _ state =>
          { state with order := state.order.numbered numbers } }

/-- Cancel the target if it is open, and record how the cancel itself ended. -/
def registerCancel (engine : Engine α) (order : Order α) (number target : OrderId)
    (time : Instant) : Engine α × List (Notice α) × OrderState α :=
  let fresh : OrderState α := { order }
  match engine.executors.get? target with
  | none =>
      let state := fresh.move time .rejected
      ({ engine with cancels := engine.cancels.put number state },
        [.cancelRejected number target], state)
  | some executor =>
      let executors := engine.executors.put target (executor.close time .cancelled)
      if executor.isOpen then
        let state := (fresh.move time .accepted).move time .completed
        ({ engine with executors, cancels := engine.cancels.put number state }, [], state)
      else
        let state := fresh.move time .rejected
        ({ engine with executors, cancels := engine.cancels.put number state },
          [.cancelRejected number target], state)

/-- Accept an order that is worked, or refuse it for a reason. -/
def enlist [Quantity α] (engine : Engine α) (executor : Executor α) (number : OrderId)
    (time : Instant) (reason : Option (Rejection α)) :
    Engine α × List (Notice α) × OrderState α :=
  match reason with
  | some reason =>
      let executor := executor.reject time
      ({ engine with executors := engine.executors.put number executor },
        [.orderRejected number executor.order.typeName executor.terms.asset.symbol reason],
        executor.state)
  | none =>
      let executor := executor.accept time
      ({ engine with executors := engine.executors.put number executor }, [], executor.state)

/--
Register an order at a time.  It is refused for the given reason if there is
one, else for a defect of its own.
-/
def register [Quantity α] (engine : Engine α) (order : Order α) (time : Instant)
    (reason : Option (Rejection α)) : Step (Engine α) NotWorkable (OrderState α) (Notice α) :=
  let number := engine.nextId
  let engine := { engine.writeNumber order.ticket? number with nextId := number + 1 }
  let order := (order.numbered engine.numbers).withNumber number
  match order with
  | .cancel _ target =>
      let (state, notices, result) := engine.registerCancel order number target time
      { state, notices, result := .ok result }
  | _ =>
      match Executor.create? order with
      | .error error => { state := engine, notices := [], result := .error error }
      | .ok executor =>
          let (state, notices, result) :=
            engine.enlist executor number time (reason <|> order.defect?.map .unworkable)
          { state, notices, result := .ok result }

/-- Show an event to one order: what becomes of it, its fills, and a notice if it expires. -/
def turn [Quantity α] (pricing : Pricing α) (event : Event α) (executor : Executor α) :
    Executor α × List (Execution α) × List (Notice α) :=
  if !executor.isOpen then (executor, [], [])
  else if executor.isExpired event.time then
    (executor.close event.time .expired, [],
      [.orderExpired executor.slip.number event.time])
  else
    let (executor, executions) := executor.execute pricing event
    (executor, executions, [])

/-- Show an event to all orders, in the order of their numbers. -/
def execute [Quantity α] (engine : Engine α) (pricing : Pricing α) (event : Event α) :
    Engine α × List (Execution α) × List (Notice α) :=
  let turns := engine.executors.map fun _ executor => turn pricing event executor
  ({ engine with executors := turns.map fun _ result => result.1 },
    turns.values.flatMap fun result => result.2.1,
    turns.values.flatMap fun result => result.2.2)

end Engine
end Brokerage
