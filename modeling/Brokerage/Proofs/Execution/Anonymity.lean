import Brokerage.Proofs.Execution.Prices

namespace Brokerage

/-!
Orders without their numbers.

Two brokers that number the same orders differently have the same orders once
the numbers on the slips are rubbed out.  No rule of matching reads a number,
so what becomes of an order does not depend on its numbers.  The price of a fill
may, because a pricing model is shown the slip; under a model that is blind for
numbers, working an order and rubbing out its numbers commute.
-/

variable {α : Type}

/-! ## Rubbing out the numbers -/

def Slip.anonymous (slip : Slip) : Slip :=
  { slip with number := none }

namespace Order

/-- An order whose slips show no numbers. -/
def anonymous : Order α -> Order α
  | single slip terms => single slip.anonymous terms
  | bracket slip entry takeProfit stopLoss =>
      bracket slip.anonymous entry.anonymous takeProfit.anonymous stopLoss.anonymous
  | cancel slip target => cancel slip.anonymous target
  | foreign typeName => foreign typeName

@[simp] theorem anonymous_numberedSlip (numbers : Table Ticket OrderId) (slip : Slip) :
    (numberedSlip numbers slip).anonymous = slip.anonymous := by
  unfold numberedSlip
  split <;> rfl

/-- Writing numbers and rubbing them out again leaves no trace. -/
@[simp] theorem anonymous_numbered (numbers : Table Ticket OrderId) (order : Order α) :
    (order.numbered numbers).anonymous = order.anonymous := by
  induction order with
  | single _ _ => simp only [numbered, anonymous, anonymous_numberedSlip]
  | bracket _ _ _ _ entry takeProfit stopLoss =>
      simp only [numbered, anonymous, anonymous_numberedSlip, entry, takeProfit, stopLoss]
  | cancel _ _ => simp only [numbered, anonymous, anonymous_numberedSlip]
  | foreign _ => rfl

@[simp] theorem anonymous_withNumber (number : OrderId) (order : Order α) :
    (order.withNumber number).anonymous = order.anonymous := by
  cases order <;> rfl

@[simp] theorem anonymous_anonymous (order : Order α) :
    order.anonymous.anonymous = order.anonymous := by
  induction order with
  | bracket _ _ _ _ entry takeProfit stopLoss =>
      simp only [anonymous, entry, takeProfit, stopLoss]
      rfl
  | single _ _ | cancel _ _ | foreign _ => rfl

end Order

/-- Where an order stands, without its number. -/
def OrderState.anonymous (state : OrderState α) : OrderState α :=
  { state with order := state.order.anonymous }

/-- A fill, without the number of its order. -/
def Execution.anonymous (execution : Execution α) : Execution α :=
  { execution with order := execution.order.anonymous }

/-- What a fill trades of an order, without the price and without the number of the order. -/
def Execution.lot (execution : Execution α) : Order α × Asset × α :=
  (execution.order.anonymous, execution.asset, execution.quantity)

theorem Execution.Compares.lots {compares : α -> α -> α -> Prop}
    {others executions : List (Execution α)}
    (compared : List.Forall₂ (Execution.Compares compares) others executions) :
    others.map Execution.lot = executions.map Execution.lot := by
  induction compared with
  | nil => rfl
  | cons first _ ih =>
      rw [List.map_cons, List.map_cons, ih, lot, lot, first.order, first.asset, first.quantity]

@[simp] theorem Execution.anonymous_anonymous (execution : Execution α) :
    execution.anonymous.anonymous = execution.anonymous := by
  simp only [anonymous, Order.anonymous_anonymous]

@[simp] theorem Execution.lot_anonymous (execution : Execution α) :
    execution.anonymous.lot = execution.lot := by
  simp only [anonymous, lot, Order.anonymous_anonymous]

/-- A price rule that somebody else supplies does not look at the numbers of the orders. -/
def Pricing.Blind : Pricing α -> Prop
  | custom rule => forall slip terms observation,
      rule (Slip.anonymous slip) terms observation = rule slip terms observation
  | _ => True

theorem Pricing.Blind.price_anonymous [Quantity α] {pricing : Pricing α} (blind : pricing.Blind)
    (slip : Slip) (terms : Terms α) (observation : Observation α) :
    pricing.price slip.anonymous terms observation = pricing.price slip terms observation := by
  cases pricing with
  | custom rule => exact blind slip terms observation
  | reference => rfl
  | slippage _ _ => rfl

def Worker.anonymous (worker : Worker α) : Worker α :=
  { worker with slip := worker.slip.anonymous }

/-- A worker is told by its likeness up to its slip. -/
theorem Worker.eq_of_anonymous {worker likeness : Worker α} (alike : worker.anonymous = likeness) :
    worker = { likeness with slip := worker.slip } ∧ worker.slip.anonymous = likeness.slip := by
  subst alike
  exact ⟨rfl, rfl⟩

namespace Executor

/-- An order at work, without its numbers. -/
def anonymous : Executor α -> Executor α
  | single worker => single worker.anonymous
  | bracket slip life entry takeProfit stopLoss =>
      bracket slip.anonymous life entry.anonymous takeProfit.anonymous stopLoss.anonymous

@[simp] theorem life_anonymous (executor : Executor α) :
    executor.anonymous.life = executor.life := by
  cases executor <;> rfl

@[simp] theorem isOpen_anonymous (executor : Executor α) :
    executor.anonymous.isOpen = executor.isOpen := by
  unfold isOpen
  rw [life_anonymous]

@[simp] theorem terms_anonymous (executor : Executor α) :
    executor.anonymous.terms = executor.terms := by
  induction executor with
  | single _ => rfl
  | bracket _ _ _ _ _ entry _ _ => exact entry

@[simp] theorem order_anonymous (executor : Executor α) :
    executor.anonymous.order = executor.order.anonymous := by
  induction executor with
  | single _ => rfl
  | bracket _ _ _ _ _ entry takeProfit stopLoss =>
      simp only [anonymous, order, Order.anonymous, entry, takeProfit, stopLoss]

theorem state_anonymous (executor : Executor α) :
    executor.anonymous.state = executor.state.anonymous := by
  simp only [state, OrderState.anonymous, life_anonymous, order_anonymous]

@[simp] theorem anonymous_numbered (numbers : Table Ticket OrderId) (executor : Executor α) :
    (executor.numbered numbers).anonymous = executor.anonymous := by
  induction executor with
  | single _ => simp only [numbered, anonymous, Worker.anonymous, Order.anonymous_numberedSlip]
  | bracket _ _ _ _ _ entry takeProfit stopLoss =>
      simp only [numbered, anonymous, Order.anonymous_numberedSlip, entry, takeProfit, stopLoss]

@[simp] theorem isExpired_anonymous (executor : Executor α) (time : Instant) :
    executor.anonymous.isExpired time = executor.isExpired time := by
  have timed : executor.anonymous.isTimed = executor.isTimed := by
    cases executor with
    | single _ => rfl
    | bracket _ _ entry _ _ => exact entry.isOpen_anonymous
  unfold isExpired
  rw [timed, life_anonymous, terms_anonymous]

/-! ## Moving an order -/

@[simp] theorem anonymous_moveSelf (time : Instant) (status : OrderStatus)
    (executor : Executor α) :
    (executor.moveSelf time status).anonymous = executor.anonymous.moveSelf time status := by
  cases executor <;> rfl

@[simp] theorem anonymous_accept (time : Instant) (executor : Executor α) :
    (executor.accept time).anonymous = executor.anonymous.accept time := by
  induction executor with
  | single _ => rfl
  | bracket _ life _ _ _ entry _ _ =>
      by_cases allowed : life.allows .accepted = true
      · simp only [accept, anonymous, if_pos allowed, entry]
      · simp only [accept, anonymous, if_neg allowed]

@[simp] theorem anonymous_close (time : Instant) (status : OrderStatus) (executor : Executor α) :
    (executor.close time status).anonymous = executor.anonymous.close time status := by
  induction executor with
  | single _ => rfl
  | bracket _ _ _ _ _ entry takeProfit stopLoss =>
      simp only [close, anonymous, entry, takeProfit, stopLoss]

/-- Two orders that differ in their numbers only are worked alike. -/
theorem create?_anonymous (order : Order α) :
    create? order.anonymous = (create? order).map anonymous := by
  induction order with
  | single _ _ => rfl
  | cancel _ _ => rfl
  | foreign _ => rfl
  | bracket slip entry takeProfit stopLoss first second third =>
      simp only [Order.anonymous, create?, first, second, third]
      cases create? entry with
      | error _ => rfl
      | ok _ =>
          cases create? takeProfit with
          | error _ => rfl
          | ok _ => cases create? stopLoss <;> rfl

/-! ## Matching an order -/

section Matching

variable [Quantity α] {pricing : Pricing α}

theorem priced_anonymous (blind : pricing.Blind) (worker : Worker α)
    (observation : Observation α) :
    worker.anonymous.priced pricing observation = worker.priced pricing observation :=
  blind.price_anonymous worker.slip worker.terms observation

theorem limitFill?_anonymous (blind : pricing.Blind) (worker : Worker α) (limit : α)
    (observation : Observation α) :
    worker.anonymous.limitFill? limit pricing observation =
      worker.limitFill? limit pricing observation := by
  unfold Worker.limitFill?
  rw [priced_anonymous blind]
  rfl

/-- What an order remembers and at which price it fills does not depend on its number. -/
theorem match?_anonymous (blind : pricing.Blind) (worker : Worker α)
    (observation : Observation α) :
    worker.anonymous.match? pricing observation =
      ((worker.match? pricing observation).1.anonymous,
        (worker.match? pricing observation).2) := by
  have own : worker.anonymous.terms = worker.terms := rfl
  have memory : worker.anonymous.reference = worker.reference := rfl
  unfold Worker.match?
  simp only [own, memory, priced_anonymous blind, limitFill?_anonymous blind]
  cases worker.terms.kind with
  | market | limit _ | stop _ | stopLimit _ _ => rfl
  | trail distance =>
      cases worker.reference with
      | none => rfl
      | some reference =>
          have reaches : worker.anonymous.reachesStop
              (worker.anonymous.trailingStop distance reference) observation =
                worker.reachesStop (worker.trailingStop distance reference) observation := rfl
          dsimp only
          rw [reaches]
          split <;> rfl

theorem matchLeg?_anonymous (blind : pricing.Blind) (leg : Executor α)
    (observation : Observation α) :
    leg.anonymous.matchLeg? pricing observation =
      ((leg.matchLeg? pricing observation).1.anonymous,
        (leg.matchLeg? pricing observation).2) := by
  cases leg with
  | single worker => simp only [anonymous, matchLeg?, match?_anonymous blind]
  | bracket _ _ _ _ _ => rfl

omit [Quantity α] in
theorem fillOf_anonymous (executor : Executor α) (quantity price : α) :
    (executor.fillOf quantity price).anonymous = executor.anonymous.fillOf quantity price := by
  simp only [Execution.anonymous, fillOf, order_anonymous, terms_anonymous]

/-- An order and its likeness without numbers go through the same cases. -/
theorem Worked.anonymous (blind : pricing.Blind) {event : Event α} {before after : Executor α}
    {executions : List (Execution α)} (work : Worked pricing event before after executions) :
    Worked pricing event before.anonymous after.anonymous
      (executions.map Execution.anonymous) := by
  have leg : forall {leg next : Executor α} {observation : Observation α} {price : Option α},
      leg.matchLeg? pricing observation = (next, price) ->
        leg.anonymous.matchLeg? pricing observation = (next.anonymous, price) := by
    intro leg next observation price shown
    rw [matchLeg?_anonymous blind, shown]
  cases work with
  | unseen nothing =>
      refine .unseen ?_
      rw [terms_anonymous]
      exact nothing
  | waiting seen shown =>
      refine .waiting seen ?_
      rw [match?_anonymous blind, shown]
  | @filled worker next observation price seen shown =>
      have alike : worker.anonymous.match? pricing observation = (next.anonymous, some price) := by
        rw [match?_anonymous blind, shown]
      rw [List.map_singleton, fillOf_anonymous]
      have filled : Worked pricing event (single worker.anonymous) _ _ := .filled seen alike
      exact filled
  | entryWaiting seen entering shown =>
      refine .entryWaiting ?_ ((isOpen_anonymous _).trans entering) (leg shown)
      rw [terms_anonymous]
      exact seen
  | entered seen entering shown =>
      rw [List.map_singleton, fillOf_anonymous]
      simp only [Executor.anonymous, anonymous_moveSelf, anonymous_accept]
      rw [← terms_anonymous]
      refine .entered ?_ ((isOpen_anonymous _).trans entering) (leg shown)
      rw [terms_anonymous]
      exact seen
  | stopped seen inside shown =>
      rw [List.map_singleton, fillOf_anonymous]
      simp only [Executor.anonymous, anonymous_moveSelf, anonymous_close]
      rw [← terms_anonymous]
      refine .stopped ?_ ((isOpen_anonymous _).trans inside) (leg shown)
      rw [terms_anonymous]
      exact seen
  | profited seen inside passed shown =>
      rw [List.map_singleton, fillOf_anonymous]
      simp only [Executor.anonymous, anonymous_moveSelf, anonymous_close]
      rw [← terms_anonymous]
      refine .profited ?_ ((isOpen_anonymous _).trans inside) (leg passed) (leg shown)
      rw [terms_anonymous]
      exact seen
  | exitsWaiting seen inside passed shown =>
      refine .exitsWaiting ?_ ((isOpen_anonymous _).trans inside) (leg passed) (leg shown)
      rw [terms_anonymous]
      exact seen

theorem execute_anonymous (blind : pricing.Blind) (executor : Executor α) (event : Event α) :
    executor.anonymous.execute pricing event =
      ((executor.execute pricing event).1.anonymous,
        (executor.execute pricing event).2.map Execution.anonymous) :=
  ((executor.worked pricing event).anonymous blind).execute_eq

end Matching
end Executor

namespace Engine

variable [Quantity α]

/-- Under a blind pricing model the turn of an order does not depend on its number. -/
theorem turn_anonymous {pricing : Pricing α} (blind : pricing.Blind) (event : Event α)
    (executor : Executor α) :
    (turn pricing event executor.anonymous).1 = (turn pricing event executor).1.anonymous ∧
      (turn pricing event executor.anonymous).2.1 =
        (turn pricing event executor).2.1.map Execution.anonymous := by
  unfold turn
  rw [Executor.isOpen_anonymous, Executor.isExpired_anonymous, Executor.execute_anonymous blind]
  cases executor.isOpen with
  | false => exact ⟨rfl, rfl⟩
  | true =>
      cases executor.isExpired event.time with
      | true => exact ⟨(executor.anonymous_close event.time .expired).symm, rfl⟩
      | false => exact ⟨rfl, rfl⟩

/-- What becomes of an order in its turn does not depend on its number under any pricing model,
because it is what becomes of it at reference prices. -/
theorem anonymous_turn (pricing : Pricing α) (event : Event α) (executor : Executor α) :
    (turn pricing event executor).1.anonymous = (turn pricing event executor.anonymous).1 := by
  have blind : (Pricing.reference : Pricing α).Blind := trivial
  rw [turn_alike pricing .reference, turn_alike pricing .reference]
  exact (turn_anonymous blind event executor).1.symm

/-- What an order trades in its turn does not depend on its number either. -/
theorem lots_turn (pricing : Pricing α) (event : Event α) (executor : Executor α) :
    (turn pricing event executor).2.1.map Execution.lot =
      (turn pricing event executor.anonymous).2.1.map Execution.lot := by
  have blind : (Pricing.reference : Pricing α).Blind := trivial
  have unpriced : forall executor, (turn pricing event executor).2.1.map Execution.lot =
      (turn .reference event executor).2.1.map Execution.lot := fun executor =>
    Execution.Compares.lots
      (turn_compared (pricing.compares_any .reference event) executor).2
  rw [unpriced, unpriced, (turn_anonymous blind event executor).2, List.map_map]
  simp only [Function.comp_def, Execution.lot_anonymous]

/-- Under a blind pricing model the fills do not depend on the number, up to the one that they
bear. -/
theorem fills_turn {pricing : Pricing α} (blind : pricing.Blind) (event : Event α)
    (executor : Executor α) :
    (turn pricing event executor).2.1.map Execution.anonymous =
      (turn pricing event executor.anonymous).2.1.map Execution.anonymous := by
  rw [(turn_anonymous blind event executor).2, List.map_map]
  simp only [Function.comp_def, Execution.anonymous_anonymous]

end Engine
end Brokerage
