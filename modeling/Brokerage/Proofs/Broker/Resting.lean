import Brokerage.Proofs.Broker.OrderBook
import Brokerage.Proofs.Execution.MarketOrder

namespace Brokerage

/-!
A broker with nothing at work.

A broker rests while no order is at work.  An event that comes without orders
then only values the holdings.  A single order that comes along with the event
takes its turn alone; when it is over by then, the broker rests again, and the
state of the order stands behind those that were recorded before.
-/

variable {α : Type} [Quantity α]

namespace Engine

variable {engine : Engine α} {slip : Slip} {terms : Terms α}

/-- The worker of an order that was registered without a ticket and refused. -/
def refusedWorker (slip : Slip) (terms : Terms α) (number : OrderId) (time : Instant) :
    Worker α where
  slip := { slip with number := some number }
  terms
  life := Lifecycle.move {} time .rejected

/-- An order without a ticket that is refused goes to the end of the working set, closed. -/
theorem register_refused (engine : Engine α) (ticketless : slip.ticket = none)
    (time : Instant) (reason : Rejection α) :
    (engine.register (.single slip terms) time (some reason)).state =
      { engine with
        executors := engine.executors.put engine.nextId
          (.single (refusedWorker slip terms engine.nextId time))
        nextId := engine.nextId + 1 } := by
  have against : cause? (Order.single slip terms) (some reason) = some reason := rfl
  rw [register_of_trades _ rfl]
  simp only [registerWork, written_single ticketless, numbering_single ticketless, against,
    Executor.create?, enlist]
  rfl

/-- The turn of an order that is alone in the working set is all that an event brings. -/
theorem execute_alone {number : OrderId} {executor after : Executor α}
    {executions : List (Execution α)} {notices : List (Notice α)} {pricing : Pricing α}
    {event : Event α} (entries : engine.executors.entries = [(number, executor)])
    (cancels : engine.cancels = Table.empty)
    (turned : turn pricing event executor = (after, executions, notices)) :
    (engine.execute pricing event).2.1 = executions ∧
      (engine.execute pricing event).1.states = [after.state] ∧
      (engine.execute pricing event).1.executors.entries = [(number, after)] := by
  have values : engine.executors.values = [executor] := by
    rw [Table.values, entries]
    rfl
  have working : (engine.execute pricing event).1.executors.entries = [(number, after)] := by
    rw [executors_execute, Table.entries_map, entries, List.map_singleton, turned]
  refine ⟨?_, ?_, working⟩
  · rw [fills_execute, values, List.flatMap_singleton, turned]
  · rw [states, cancels_execute, cancels, Table.values, working]
    exact List.mergeSort_singleton _

end Engine

namespace Broker

/-- No order is at work. -/
def Rests (broker : Broker α) : Prop :=
  broker.engine.executors = Table.empty

theorem Rests.openOrders {broker : Broker α} (rests : broker.Rests) {count : Nat}
    (recorded : broker.Recorded count) : broker.account.openOrders = [] := by
  have atWork := recorded.atWork
  rw [rests] at atWork
  apply List.filter_eq_nil_iff.mpr
  intro state listed live
  rcases Table.mem_values_iff.mp listed with ⟨number, entered⟩
  have among : (number, state) ∈ broker.ledger.orders.entries.filter fun entry =>
      entry.2.toLifecycle.isOpen := List.mem_filter.mpr ⟨entered, live⟩
  rw [← atWork] at among
  cases among

section Settling

variable {broker : Broker α} {count : Nat} (recorded : broker.Recorded count)
  (rests : broker.Rests) (event : Event α)
include recorded rests

/-- Without orders an event does no more than value the holdings. -/
theorem Rests.settled_nil : (broker.settled [] event).Rests ∧
    (broker.settled [] event).ledger.orders = broker.ledger.orders ∧
    (broker.settled [] event).ledger.trades = broker.ledger.trades ∧
    (broker.settled [] event).ledger.positions = (broker.ledger.markToMarket event).positions := by
  have working : (broker.matched [] event).executors = Table.empty := by
    unfold matched
    rw [Engine.executors_execute]
    change broker.engine.executors.map _ = _
    rw [rests]
    rfl
  have fills : broker.fills [] event = [] := by
    unfold fills
    rw [Engine.fills_execute]
    change broker.engine.executors.values.flatMap _ = _
    rw [rests]
    rfl
  have states : (broker.matched [] event).states = [] := by
    have cancels : (broker.matched [] event).cancels = broker.engine.cancels := rfl
    unfold Engine.states
    rw [working, cancels, recorded.cancels]
    exact List.mergeSort_nil
  have booked : broker.booked [] event = broker.ledger := by
    unfold Broker.booked
    rw [fills]
    rfl
  refine ⟨?_, ?_, ?_, ?_⟩
  · unfold Rests
    rw [settled_engine, Engine.removeClosed, working]
    rfl
  · rw [settled_orders, states]
    rfl
  · rw [settled_trades, booked]
  · rw [settled_positions, booked]

/-- An order that has taken its turn alone and is over leaves a broker that rests. -/
theorem Rests.settled_alone (order : Order α) (reason : Option (Rejection α))
    {executor after : Executor α} {executions : List (Execution α)} {notices : List (Notice α)}
    (registered : (broker.engine.register order event.time reason).state =
      { broker.engine with
        executors := broker.engine.executors.put broker.engine.nextId executor
        nextId := broker.engine.nextId + 1 })
    (turned : Engine.turn broker.house.pricing event executor = (after, executions, notices))
    (shown : after.state.number? = some broker.engine.nextId) (ended : after.isOpen = false) :
    (broker.settled [(order, reason)] event).Rests ∧
      (broker.settled [(order, reason)] event).ledger.orders.values =
        broker.ledger.orders.values ++ [after.state] ∧
      (broker.settled [(order, reason)] event).ledger.trades =
        (broker.ledger.bookAll broker.house.feeModel event.time executions).trades ∧
      (broker.settled [(order, reason)] event).ledger.positions =
        ((broker.ledger.bookAll broker.house.feeModel event.time executions).markToMarket
          event).positions := by
  have enlisted : broker.enlisted [(order, reason)] event.time =
      (broker.engine.register order event.time reason).state := by
    unfold Broker.enlisted registerAll
    dsimp only
    split <;> rfl
  have entries : (broker.enlisted [(order, reason)] event.time).executors.entries =
      [(broker.engine.nextId, executor)] := by
    rw [enlisted, registered, rests]
    rfl
  have cancels : (broker.enlisted [(order, reason)] event.time).cancels = Table.empty := by
    rw [enlisted, registered]
    exact recorded.cancels
  rcases Engine.execute_alone entries cancels turned with ⟨fills, states, working⟩
  have booked : broker.booked [(order, reason)] event =
      broker.ledger.bookAll broker.house.feeModel event.time executions := by
    have filled : broker.fills [(order, reason)] event = executions := fills
    unfold Broker.booked
    rw [filled]
  refine ⟨?_, ?_, ?_, ?_⟩
  · unfold Rests
    rw [settled_engine]
    apply Table.ext
    change ((broker.matched [(order, reason)] event).executors.entries.filter fun entry =>
      entry.2.isOpen) = []
    rw [matched, working, List.filter_singleton, ended]
    rfl
  · have absent : after.state.number? ∉ broker.ledger.orders.keys := by
      rw [shown, recorded.numbers, recorded.next]
      intro listed
      rcases List.mem_map.mp listed with ⟨number, given, same⟩
      cases same
      have below := (mem_numbersFrom.mp given).2
      omega
    have states' : (broker.matched [(order, reason)] event).states = [after.state] := states
    rw [settled_orders, states']
    change ((broker.ledger.orders.put after.state.number? after.state).entries.map Prod.snd) = _
    rw [Table.entries_put_of_absent absent, List.map_append]
    rfl
  · rw [settled_trades, booked]
  · rw [settled_positions, booked]

end Settling

section Placing

variable {house : House α} {broker : Broker α} {event : Event α} {numbers : List OrderId}
  (reached : Reachable house broker) (rests : broker.Rests)
include reached rests

/-- What the books say after an event that came without orders. -/
theorem Rests.place_nil (placed : (broker.place [] event).result = .ok numbers) :
    Exists fun settled : Broker α => Exists fun amount =>
      (broker.place [] event).state = settled.withBuyingPower amount ∧ settled.Rests ∧
        settled.ledger.orders = broker.ledger.orders ∧
        settled.ledger.trades = broker.ledger.trades ∧
        settled.ledger.positions = (broker.ledger.markToMarket event).positions := by
  rcases reached.recorded with ⟨count, recorded⟩
  rcases settled_of_placed placed with ⟨batch, -, decided, -, amount, same⟩
  have nothing : batch = [] := List.map_eq_nil_iff.mp (orders_of_admission? decided)
  subst nothing
  exact ⟨_, amount, same, rests.settled_nil recorded event⟩

/-- What the books say when the only order of a batch was decided on, worked, and is over. -/
theorem Rests.place_single {order : Order α} {reason : Option (Rejection α)}
    (placed : (broker.place [order] event).result = .ok numbers)
    (ruled : broker.admission? [order] event = .ok [(order, reason)])
    {executor after : Executor α} {executions : List (Execution α)} {notices : List (Notice α)}
    (registered : (broker.engine.register order event.time reason).state =
      { broker.engine with
        executors := broker.engine.executors.put broker.engine.nextId executor
        nextId := broker.engine.nextId + 1 })
    (turned : Engine.turn broker.house.pricing event executor = (after, executions, notices))
    (shown : after.state.number? = some broker.engine.nextId) (ended : after.isOpen = false) :
    Exists fun settled : Broker α => Exists fun amount =>
      (broker.place [order] event).state = settled.withBuyingPower amount ∧ settled.Rests ∧
        settled.ledger.orders.values = broker.ledger.orders.values ++ [after.state] ∧
        settled.ledger.trades =
          (broker.ledger.bookAll broker.house.feeModel event.time executions).trades ∧
        settled.ledger.positions =
          ((broker.ledger.bookAll broker.house.feeModel event.time executions).markToMarket
            event).positions := by
  rcases reached.recorded with ⟨count, recorded⟩
  rcases settled_of_placed placed with ⟨batch, -, decided, -, amount, same⟩
  cases decided.symm.trans ruled
  exact ⟨_, amount, same,
    rests.settled_alone recorded event order reason registered turned shown ended⟩

end Placing
end Broker
end Brokerage
